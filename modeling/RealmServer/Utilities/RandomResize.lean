import RealmServer.Lib.Selection

/-!
# Random resizing of containers

`RandomResize` goes once through a container and moves the elements which are
to stay to its front.  Two iterators and two counters are carried along; the
iterators are positions here, and a step is not possible where the source would
use an iterator at or behind the end.

The elements are pointers and ids throughout the source, so that moving one
leaves a copy behind.
-/

namespace RealmServer.Utilities

open Selection

universe u

variable {Element : Type u}

/-! ## The loop -/

/-- The variables of the loop. -/
structure Pass (Element : Type u) where
  container : List Element
  keepIt : Nat
  curIt : Nat
  elementsToKeep : Nat
  elementsToProcess : Nat

/-- `urand(min, max)` answers with one of the numbers `min .. max`. -/
def Answers (min max roll : Nat) : Prop := min ≤ roll ∧ roll ≤ max

instance (min max roll : Nat) : Decidable (Answers min max roll) :=
  inferInstanceAs (Decidable (_ ∧ _))

/-- The counters are of 32 bits. -/
def toUInt32 (value : Nat) : Nat := value % 2 ^ 32

def decrement (counter : Nat) : Nat := toUInt32 (counter + (2 ^ 32 - 1))

theorem decrement_of_pos {counter : Nat} (positive : 0 < counter) (small : counter < 2 ^ 32) :
    decrement counter = counter - 1 := by
  have around : counter + (2 ^ 32 - 1) = counter - 1 + 2 ^ 32 := by omega
  have inside : counter - 1 < 2 ^ 32 := by omega
  rw [decrement, toUInt32, around, Nat.add_mod_right, Nat.mod_eq_of_lt inside]

namespace Pass

/-- `*keepIt = std::move(*curIt); ++keepIt; --elementsToKeep;` -/
def keep (pass : Pass Element) : Option (Pass Element) :=
  match pass.container[pass.curIt]? with
  | none => none
  | some element =>
      if pass.keepIt < pass.container.length then
        some { pass with
          container := pass.container.set pass.keepIt element
          keepIt := pass.keepIt + 1
          elementsToKeep := decrement pass.elementsToKeep }
      else none

/-- `++curIt; --elementsToProcess;` -/
def advance (pass : Pass Element) : Option (Pass Element) :=
  if pass.curIt < pass.container.length then
    some { pass with
      curIt := pass.curIt + 1
      elementsToProcess := decrement pass.elementsToProcess }
  else none

/-- One turn of the loop, with the answer of `urand(1, elementsToProcess)`. -/
def process (pass : Pass Element) (roll : Nat) : Option (Pass Element) :=
  if roll ≤ pass.elementsToKeep then pass.keep.bind advance else pass.advance

/-- The loop takes the answers it asks for; the others are left. -/
def run : List Nat → Pass Element → Option (Pass Element × List Nat)
  | [], pass => if pass.elementsToProcess = 0 then some (pass, []) else none
  | roll :: rolls, pass =>
      if pass.elementsToProcess = 0 then some (pass, roll :: rolls)
      else if Answers 1 pass.elementsToProcess roll then (pass.process roll).bind (run rolls)
      else none

end Pass

def startPass (container : List Element) (requestedSize : Nat) : Pass Element where
  container := container
  keepIt := 0
  curIt := 0
  elementsToKeep := toUInt32 requestedSize
  elementsToProcess := toUInt32 container.length

/-- What is left of the container and of the answers of `urand`. -/
def randomResize (container : List Element) (requestedSize : Nat) (rolls : List Nat) :
    Option (List Element × List Nat) :=
  if container.length ≤ requestedSize then some (container, rolls)
  else ((startPass container requestedSize).run rolls).map fun result =>
    (result.1.container.take result.1.keepIt, result.2)

/-- The version with a predicate, which copies what fulfils it first. -/
def randomResizeIf (container : List Element) (predicate : Element → Bool) (requestedSize : Nat)
    (rolls : List Nat) : Option (List Element × List Nat) :=
  if requestedSize = 0 then some (container.filter predicate, rolls)
  else randomResize (container.filter predicate) requestedSize rolls

example : randomResize [10, 20, 30, 40] 2 [3, 1, 2, 1, 9] = some ([20, 40], [9]) := by decide

/-! ## A turn of the loop -/

namespace Pass

/--
The elements which stay are in front, then come those whose places may be
written over, then those which the loop has not seen.
-/
structure Reached (pass : Pass Element) (kept gap rest : List Element) : Prop where
  container : pass.container = kept ++ (gap ++ rest)
  keepIt : pass.keepIt = kept.length
  curIt : pass.curIt = kept.length + gap.length
  elementsToProcess : pass.elementsToProcess = rest.length
  enough : pass.elementsToKeep ≤ rest.length
  small : rest.length < 2 ^ 32

theorem Reached.current {pass : Pass Element} {kept gap rest : List Element} {element : Element}
    (reached : pass.Reached kept gap (element :: rest)) :
    pass.container[pass.curIt]? = some element := by
  rw [reached.container, reached.curIt, List.getElem?_append_right (Nat.le_add_right _ _),
    Nat.add_sub_cancel_left, List.getElem?_append_right (Nat.le_refl _), Nat.sub_self,
    List.getElem?_cons_zero]

theorem Reached.inside {pass : Pass Element} {kept gap rest : List Element} {element : Element}
    (reached : pass.Reached kept gap (element :: rest)) :
    pass.keepIt ≤ pass.curIt ∧ pass.curIt < pass.container.length := by
  constructor
  · rw [reached.keepIt, reached.curIt]
    exact Nat.le_add_right _ _
  · exact (List.getElem?_eq_some_iff.1 reached.current).1

/-- An element which is passed over leaves its place free. -/
theorem Reached.advance {pass : Pass Element} {kept gap rest : List Element} {element : Element}
    (reached : pass.Reached kept gap (element :: rest))
    (enough : pass.elementsToKeep ≤ rest.length) :
    ∃ next, pass.advance = some next ∧ next.elementsToKeep = pass.elementsToKeep ∧
      next.Reached kept (gap ++ [element]) rest := by
  have small := reached.small
  rw [List.length_cons] at small
  refine ⟨_, if_pos reached.inside.2, rfl, ?_, reached.keepIt, ?_, ?_, enough, by omega⟩
  · rw [reached.container, List.append_assoc, List.singleton_append]
  · rw [reached.curIt, List.length_append, List.length_singleton, Nat.add_assoc]
  · rw [reached.elementsToProcess, List.length_cons, decrement_of_pos (by omega) small,
      Nat.add_sub_cancel]

/-- An element which is kept takes the first free place, which may be its own. -/
theorem Reached.keep {pass : Pass Element} {kept gap rest : List Element} {element : Element}
    (reached : pass.Reached kept gap (element :: rest)) (wanted : 0 < pass.elementsToKeep) :
    ∃ next, pass.keep.bind Pass.advance = some next ∧
      next.elementsToKeep = pass.elementsToKeep - 1 ∧
      ∃ free, next.Reached (kept ++ [element]) free rest := by
  have small := reached.small
  have enough := reached.enough
  rw [List.length_cons] at small enough
  obtain ⟨behind, inside⟩ := reached.inside
  have kept_eq : pass.keep = some { pass with
      container := pass.container.set pass.keepIt element
      keepIt := pass.keepIt + 1
      elementsToKeep := decrement pass.elementsToKeep } := by
    rw [Pass.keep, reached.current]
    exact if_pos (behind.trans_lt inside)
  have inside_set : pass.curIt < (pass.container.set pass.keepIt element).length := by
    rw [List.length_set]
    exact inside
  have fewer : decrement pass.elementsToKeep = pass.elementsToKeep - 1 :=
    decrement_of_pos wanted (by omega)
  rw [kept_eq, Option.bind_some, Pass.advance]
  refine ⟨_, if_pos inside_set, fewer, ?_⟩
  have processed : decrement pass.elementsToProcess = rest.length := by
    rw [reached.elementsToProcess, List.length_cons, decrement_of_pos (by omega) small,
      Nat.add_sub_cancel]
  have written : pass.container.set pass.keepIt element =
      kept ++ (gap ++ element :: rest).set 0 element := by
    rw [reached.container, reached.keepIt, List.set_append_right _ _ (Nat.le_refl _),
      Nat.sub_self]
  have atMost : decrement pass.elementsToKeep ≤ rest.length := by omega
  cases gap with
  | nil =>
      refine ⟨[], ?_, ?_, ?_, processed, atMost, by omega⟩
      · rw [written, List.nil_append, List.set_cons_zero, List.append_assoc]
        rfl
      · rw [reached.keepIt, List.length_append, List.length_singleton]
      · rw [reached.curIt, List.length_append, List.length_singleton, List.length_nil]
  | cons free gap =>
      refine ⟨gap ++ [element], ?_, ?_, ?_, processed, atMost, by omega⟩
      · rw [written, List.cons_append, List.set_cons_zero, List.append_assoc,
          List.append_assoc]
        rfl
      · rw [reached.keepIt, List.length_append, List.length_singleton]
      · have current := reached.curIt
        rw [List.length_cons] at current
        rw [List.length_append, List.length_append, List.length_singleton]
        show pass.curIt + 1 = _
        omega

/-! ## The whole loop -/

/-- At the end as many elements are kept as the outcome chooses. -/
theorem run_of_mem_outcomes {pass : Pass Element} {kept gap rest : List Element}
    (reached : pass.Reached kept gap rest) {rolls : List Nat}
    (member : rolls ∈ outcomes rest.length) (later : List Nat) :
    ∃ last, pass.run (rolls ++ later) = some (last, later) ∧
      last.container.take last.keepIt =
        kept ++ pick (decisions pass.elementsToKeep rolls) rest := by
  induction rest generalizing pass kept gap rolls with
  | nil =>
      rw [(mem_outcomes_zero rolls).1 member, List.nil_append]
      have done : pass.elementsToProcess = 0 := reached.elementsToProcess
      refine ⟨pass, ?_, ?_⟩
      · cases later with
        | nil => exact if_pos done
        | cons roll later => exact if_pos done
      · rw [reached.container, reached.keepIt, List.take_left, pick_nil, List.append_nil]
  | cons element rest induction =>
      obtain ⟨roll, rolls, rfl, positive, atMost, member⟩ :=
        (mem_outcomes_succ rest.length rolls).1 member
      have processed := reached.elementsToProcess
      rw [List.length_cons] at processed
      have unfolded : pass.run (roll :: rolls ++ later) =
          (pass.process roll).bind (run (rolls ++ later)) := by
        have pending : pass.elementsToProcess ≠ 0 := by omega
        have answer : Answers 1 pass.elementsToProcess roll := ⟨positive, by omega⟩
        rw [List.cons_append, run, if_neg pending, if_pos answer]
      rw [unfolded, process]
      rcases Nat.lt_or_ge pass.elementsToKeep roll with dropped | chosen
      · obtain ⟨next, advanced, same, reachedNext⟩ := reached.advance (by omega)
        obtain ⟨last, ended, left⟩ := induction reachedNext member
        rw [if_neg (Nat.not_le.2 dropped), advanced, Option.bind_some]
        refine ⟨last, ended, ?_⟩
        rw [left, same, decisions_cons_of_lt dropped, pick]
      · have wanted : 0 < pass.elementsToKeep := Nat.lt_of_lt_of_le positive chosen
        obtain ⟨next, moved, fewer, free, reachedNext⟩ := reached.keep wanted
        obtain ⟨last, ended, left⟩ := induction reachedNext member
        rw [if_pos chosen, moved, Option.bind_some]
        refine ⟨last, ended, ?_⟩
        rw [left, fewer, decisions_cons_of_le chosen, pick, List.append_assoc,
          List.singleton_append]

end Pass

/-! ## The container afterwards -/

section Resizing

variable {container : List Element} {requestedSize : Nat}

theorem randomResize_of_le (atMost : container.length ≤ requestedSize) (rolls : List Nat) :
    randomResize container requestedSize rolls = some (container, rolls) := if_pos atMost

theorem startPass_reached (small : container.length < 2 ^ 32)
    (more : requestedSize < container.length) :
    (startPass container requestedSize).elementsToKeep = requestedSize ∧
      (startPass container requestedSize).Reached [] [] container := by
  have keep : toUInt32 requestedSize = requestedSize := Nat.mod_eq_of_lt (more.trans small)
  refine ⟨keep, rfl, rfl, rfl, Nat.mod_eq_of_lt small, ?_, small⟩
  exact (Nat.le_of_eq keep).trans (Nat.le_of_lt more)

theorem randomResize_of_mem_outcomes (small : container.length < 2 ^ 32)
    (more : requestedSize < container.length) {rolls : List Nat}
    (member : rolls ∈ outcomes container.length) (later : List Nat) :
    randomResize container requestedSize (rolls ++ later) =
      some (pick (decisions requestedSize rolls) container, later) := by
  obtain ⟨keep, reached⟩ := startPass_reached small more
  obtain ⟨last, ended, left⟩ := Pass.run_of_mem_outcomes reached member later
  rw [keep, List.nil_append] at left
  rw [randomResize, if_neg (Nat.not_le.2 more), ended, Option.map_some, left]

/-- A resize which keeps a uniformly chosen part of the elements. -/
structure KeepsUniformly (resize : List Nat → Option (List Element × List Nat))
    (elements : List Element) (requestedSize : Nat) : Prop where
  /-- Nothing is drawn for a container which is not too large. -/
  whole : elements.length ≤ requestedSize → ∀ rolls, resize rolls = some (elements, rolls)
  /-- No iterator passes the end, and what is left is in its old order. -/
  completes : requestedSize < elements.length →
    ∀ rolls ∈ outcomes elements.length, ∀ later, ∃ kept,
      resize (rolls ++ later) = some (kept, later) ∧ kept.length = requestedSize ∧
        kept.Sublist elements
  /-- Every choice of so many elements is made for equally many outcomes. -/
  uniform : requestedSize < elements.length → ∃ chosen : List Nat → List Bool,
    (∀ rolls ∈ outcomes elements.length, Chooses elements.length requestedSize (chosen rolls) ∧
      resize rolls = some (pick (chosen rolls) elements, [])) ∧
    ∀ choice, Chooses elements.length requestedSize choice →
      ((outcomes elements.length).filter fun rolls => chosen rolls = choice).card *
          elements.length.choose requestedSize = (outcomes elements.length).card

theorem keepsUniformly (small : container.length < 2 ^ 32) (requestedSize : Nat) :
    KeepsUniformly (randomResize container requestedSize) container requestedSize where
  whole atMost rolls := randomResize_of_le atMost rolls
  completes more rolls member later := by
    have chooses := decisions_chooses (Nat.le_of_lt more) member
    exact ⟨_, randomResize_of_mem_outcomes small more member later, chooses.length_pick,
      pick_sublist _ _⟩
  uniform more := by
    refine ⟨decisions requestedSize, ?_, ?_⟩
    · intro rolls member
      have resized := randomResize_of_mem_outcomes small more member []
      rw [List.append_nil] at resized
      exact ⟨decisions_chooses (Nat.le_of_lt more) member, resized⟩
    · intro choice chooses
      exact card_leadingTo_mul_choose chooses

end Resizing

/-- Both versions keep a uniformly chosen part, the second one of what fulfils the predicate. -/
theorem randomResize_uniform (container : List Element) (small : container.length < 2 ^ 32)
    (requestedSize : Nat) :
    KeepsUniformly (randomResize container requestedSize) container requestedSize ∧
      ∀ predicate : Element → Bool,
        (requestedSize = 0 → ∀ rolls, randomResizeIf container predicate requestedSize rolls =
          some (container.filter predicate, rolls)) ∧
        (requestedSize ≠ 0 → KeepsUniformly (randomResizeIf container predicate requestedSize)
          (container.filter predicate) requestedSize) := by
  refine ⟨keepsUniformly small requestedSize, fun predicate => ⟨?_, ?_⟩⟩
  · intro zero rolls
    exact if_pos zero
  · intro positive
    have filtered : (container.filter predicate).length < 2 ^ 32 :=
      (List.length_filter_le predicate container).trans_lt small
    have same : randomResizeIf container predicate requestedSize =
        randomResize (container.filter predicate) requestedSize :=
      funext fun rolls => if_neg positive
    rw [same]
    exact keepsUniformly filtered requestedSize

theorem randomResize_uniform_three :
    KeepsUniformly (randomResize [10, 20, 30] 2) [10, 20, 30] 2 :=
  (randomResize_uniform [10, 20, 30] (by decide) 2).1

end RealmServer.Utilities
