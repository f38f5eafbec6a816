import Mathlib

/-!
# Recursion with turns

A recursion over data which may have circles is given turns, and has no result
when they run out.  It ends if from some number of turns on it always has the
same result.  Where every element leads to elements which are accessible, so is
the recursion from it; over finitely many elements that is the same as having
no circle.
-/

namespace RealmServer.Recursion

universe u v w

variable {Result : Type u} {Element : Type v} {State : Type w}

/-- With turns enough, the computation has this result. -/
def EndsWith (compute : Nat → Option Result) (result : Result) : Prop :=
  ∃ bound, ∀ turns, bound ≤ turns → compute turns = some result

def Ends (compute : Nat → Option Result) : Prop := ∃ result, EndsWith compute result

theorem endsWith_some (result : Result) : EndsWith (fun _ => some result) result :=
  ⟨0, fun _ _ => rfl⟩

theorem EndsWith.unique {compute : Nat → Option Result} {first second : Result}
    (endsFirst : EndsWith compute first) (endsSecond : EndsWith compute second) :
    first = second := by
  obtain ⟨firstBound, firstEnough⟩ := endsFirst
  obtain ⟨secondBound, secondEnough⟩ := endsSecond
  have isFirst := firstEnough (max firstBound secondBound) (Nat.le_max_left _ _)
  have isSecond := secondEnough (max firstBound secondBound) (Nat.le_max_right _ _)
  exact Option.some.inj (isFirst.symm.trans isSecond)

/-- One turn is spent before the rest begins. -/
theorem EndsWith.of_succ {compute rest : Nat → Option Result} {result : Result}
    (spends : ∀ turns, compute (turns + 1) = rest turns) (ends : EndsWith rest result) :
    EndsWith compute result := by
  obtain ⟨bound, enough⟩ := ends
  refine ⟨bound + 1, fun turns atLeast => ?_⟩
  cases turns with
  | zero => exact absurd atLeast (Nat.not_succ_le_zero bound)
  | succ turns =>
      rw [spends]
      exact enough turns (Nat.le_of_succ_le_succ atLeast)

theorem EndsWith.bind {compute : Nat → Option State} {next : Nat → State → Option Result}
    {middle : State} {result : Result} (first : EndsWith compute middle)
    (second : EndsWith (fun turns => next turns middle) result) :
    EndsWith (fun turns => (compute turns).bind (next turns)) result := by
  obtain ⟨firstBound, firstEnough⟩ := first
  obtain ⟨secondBound, secondEnough⟩ := second
  refine ⟨max firstBound secondBound, fun turns atLeast => ?_⟩
  have isMiddle := firstEnough turns (le_of_max_le_left atLeast)
  have isResult := secondEnough turns (le_of_max_le_right atLeast)
  dsimp only at isResult ⊢
  rw [isMiddle]
  exact isResult

theorem EndsWith.map {compute : Nat → Option State} {middle : State}
    (ends : EndsWith compute middle)
    (next : State → Result) : EndsWith (fun turns => (compute turns).map next) (next middle) := by
  obtain ⟨bound, enough⟩ := ends
  exact ⟨bound, fun turns atLeast => congrArg (Option.map next) (enough turns atLeast)⟩

/-- A loop ends if each of its rounds does; an invariant goes with it. -/
theorem foldlM_ends {invariant : State → Prop} {round : Nat → State → Element → Option State}
    {elements : List Element}
    (ends : ∀ element ∈ elements, ∀ state, invariant state →
      ∃ next, invariant next ∧ EndsWith (fun turns => round turns state element) next)
    {state : State} (holds : invariant state) :
    ∃ last, invariant last ∧ EndsWith (fun turns => elements.foldlM (round turns) state) last := by
  induction elements generalizing state with
  | nil => exact ⟨state, holds, endsWith_some state⟩
  | cons element later induction =>
      rw [List.forall_mem_cons] at ends
      obtain ⟨next, nextHolds, isNext⟩ := ends.1 state holds
      obtain ⟨last, lastHolds, isLast⟩ := induction ends.2 nextHolds
      exact ⟨last, lastHolds, isNext.bind isLast⟩

theorem anyM_ends {test : Nat → Element → Option Bool} {elements : List Element}
    (ends : ∀ element ∈ elements, Ends fun turns => test turns element) :
    Ends fun turns => elements.anyM (test turns) := by
  induction elements with
  | nil => exact ⟨false, endsWith_some false⟩
  | cons element later induction =>
      rw [List.forall_mem_cons] at ends
      obtain ⟨found, isFound⟩ := ends.1
      obtain ⟨rest, isRest⟩ := induction ends.2
      cases found with
      | true => exact ⟨true, isFound.bind (endsWith_some true)⟩
      | false => exact ⟨rest, isFound.bind isRest⟩

theorem mapM_ends {compute : Nat → Element → Option Result} {result : Element → Result}
    {elements : List Element}
    (ends : ∀ element ∈ elements, EndsWith (fun turns => compute turns element) (result element)) :
    EndsWith (fun turns => elements.mapM (compute turns)) (elements.map result) := by
  induction elements with
  | nil => exact endsWith_some []
  | cons element later induction =>
      rw [List.forall_mem_cons] at ends
      simp only [List.mapM_cons]
      exact ends.1.bind ((induction ends.2).bind (endsWith_some _))

/-- Where no test holds, a search which ends has made them all. -/
theorem anyM_of_never {test : Element → Option Bool} {elements : List Element} {found : Bool}
    (never : ∀ element ∈ elements, ∀ holds, test element = some holds → holds = false)
    (isFound : elements.anyM test = some found) :
    found = false ∧ ∀ element ∈ elements, test element = some false := by
  induction elements with
  | nil => exact ⟨(Option.some.inj isFound).symm, fun _ member => absurd member List.not_mem_nil⟩
  | cons element later induction =>
      rw [List.forall_mem_cons] at never ⊢
      obtain ⟨holds, isHolds, rest⟩ := Option.bind_eq_some_iff.mp isFound
      have isFalse := never.1 holds isHolds
      subst isFalse
      obtain ⟨nothing, allFalse⟩ := induction never.2 rest
      exact ⟨nothing, isHolds, allFalse⟩

/-! ## Circles -/

variable {leads : Element → Element → Prop}

/-- Over finitely many targets, nothing goes on forever without a circle. -/
theorem acc_of_acyclic {targets : List Element}
    (finite : ∀ source target, leads source target → target ∈ targets)
    (acyclic : ∀ element, ¬ Relation.TransGen leads element element) (element : Element) :
    Acc (fun target source => leads source target) element := by
  let later : {element // element ∈ targets} → {element // element ∈ targets} → Prop :=
    fun target source => Relation.TransGen leads source.1 target.1
  have : IsTrans {element // element ∈ targets} later :=
    ⟨fun _ _ _ first second => second.trans first⟩
  have : Std.Irrefl later := ⟨fun element => acyclic element.1⟩
  have : Finite {element // element ∈ targets} := List.finite_toSet targets
  have wellFounded : WellFounded later := Finite.wellFounded_of_trans_of_irrefl later
  have inTargets : ∀ target : {element // element ∈ targets},
      Acc (fun target source => leads source target) target.1 := by
    intro target
    induction target using wellFounded.induction with
    | _ target induction =>
        refine ⟨_, fun next follows => ?_⟩
        exact induction ⟨next, finite target.1 next follows⟩ (.single follows)
  exact ⟨_, fun next follows => inTargets ⟨next, finite element next follows⟩⟩

/-- On a circle it goes on forever. -/
theorem not_transGen_of_acc {element : Element}
    (acc : Acc (fun target source => leads source target) element) :
    ¬ Relation.TransGen leads element element := by
  induction acc with
  | intro element _ induction =>
      intro circle
      obtain ⟨next, follows, back⟩ := Relation.TransGen.head'_iff.mp circle
      rcases Relation.reflTransGen_iff_eq_or_transGen.mp back with same | further
      · subst same
        exact induction _ follows (.single follows)
      · exact induction next follows (further.tail follows)

end RealmServer.Recursion
