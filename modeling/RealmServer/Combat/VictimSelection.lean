import Mathlib
import RealmServer.Combat.HostileReferences

/-!
# Selecting a victim

A creature attacks the target which has the most threat.  `SelectNextVictim`
goes over the sorted list, leaves targets of second choice out in a first pass
and compares the others with the current victim, which is only given up for a
target with clearly more threat.  One loop does both passes.
-/

namespace RealmServer.Combat

/-- What the attacker finds out about a target. -/
structure Attacker where
  isImmunedToDamage : HostileReference → Bool
  /-- An aura which damage interrupts. -/
  hasNegativeAuraWithInterruptFlag : HostileReference → Bool
  canCreatureAttack : HostileReference → Bool
  isWithinMeleeRange : HostileReference → Bool

namespace Attacker

variable (attacker : Attacker)

def isSecondChoice (target : HostileReference) : Bool :=
  attacker.isImmunedToDamage target || attacker.hasNegativeAuraWithInterruptFlag target

/-- Where the loop stands: `rest` is the list from `iter` on. -/
structure Search where
  rest : List HostileReference
  currentVictim : Option HostileReference
  noPriorityTargetFound : Bool
deriving DecidableEq, Repr

/-- The loop; without turns left it has no result. -/
def selectLoop (threatList : List HostileReference) :
    Nat → Search → Option (Option HostileReference)
  | 0, _ => none
  | turns + 1, search =>
      match search.rest with
      | [] => some none
      | currentRef :: later =>
          if !search.noPriorityTargetFound && attacker.isSecondChoice currentRef then
            if later ≠ [] then
              selectLoop threatList turns
                { search with
                  rest := later
                  currentVictim :=
                    if search.currentVictim = some currentRef then none
                    else search.currentVictim }
            else
              selectLoop threatList turns
                { search with rest := threatList, noPriorityTargetFound := true }
          else if attacker.canCreatureAttack currentRef then
            match search.currentVictim with
            | none => some (some currentRef)
            | some currentVictim =>
                if currentVictim = currentRef ∨
                    currentRef.threat ≤ 11 / 10 * currentVictim.threat then
                  if currentVictim ≠ currentRef ∧
                      attacker.canCreatureAttack currentVictim = true then
                    some (some currentVictim)
                  else some (some currentRef)
                else if 13 / 10 * currentVictim.threat < currentRef.threat ∨
                    (11 / 10 * currentVictim.threat < currentRef.threat ∧
                      attacker.isWithinMeleeRange currentRef = true) then
                  some (some currentRef)
                else selectLoop threatList turns { search with rest := later }
          else selectLoop threatList turns { search with rest := later }

/-- `SelectNextVictim` of a list with at least one target. -/
def selectNextVictim (turns : Nat) (threatList : List HostileReference)
    (currentVictim : Option HostileReference) : Option (Option HostileReference) :=
  attacker.selectLoop threatList turns
    { rest := threatList, currentVictim, noPriorityTargetFound := false }

/-! ## The rules -/

def isFirstChoice (target : HostileReference) : Bool :=
  attacker.canCreatureAttack target && !attacker.isSecondChoice target

/-- More than 130 percent of the victim's threat, or 110 in melee range. -/
def outdoes (victim target : HostileReference) : Bool :=
  attacker.isFirstChoice target &&
    (13 / 10 * victim.threat < target.threat ||
      (11 / 10 * victim.threat < target.threat && attacker.isWithinMeleeRange target))

structure ObeysThreatRules (threatList : List HostileReference)
    (currentVictim result : Option HostileReference) : Prop where
  none_iff : result = none ↔ ∀ target ∈ threatList, attacker.canCreatureAttack target = false
  attackable : ∀ target, result = some target →
    target ∈ threatList ∧ attacker.canCreatureAttack target = true
  secondChoice : ∀ target, result = some target → attacker.isSecondChoice target = true →
    ∀ other ∈ threatList, attacker.canCreatureAttack other = true →
      attacker.isSecondChoice other = true
  /-- A victim which can be attacked and is no second choice. -/
  kept : ∀ victim, currentVictim = some victim → attacker.isFirstChoice victim = true →
    result = some ((threatList.find? (attacker.outdoes victim)).getD victim)
  highest : (∀ victim, currentVictim = some victim → attacker.isFirstChoice victim = false) →
    (∃ target ∈ threatList, attacker.isFirstChoice target = true) →
      ∃ target, result = some target ∧ attacker.isFirstChoice target = true ∧
        ∀ other ∈ threatList, attacker.isFirstChoice other = true →
          other.threat ≤ target.threat

/-- Between 110 and 130 percent of the victim's threat, and not in melee range. -/
def waits (victim target : HostileReference) : Bool :=
  11 / 10 * victim.threat < target.threat && target.threat ≤ 13 / 10 * victim.threat &&
    !attacker.isWithinMeleeRange target

def lastIsSecondChoice (threatList : List HostileReference) : Prop :=
  ∃ last, threatList.getLast? = some last ∧ attacker.isSecondChoice last = true

/-- Nobody is first choice: the second pass has to come, and to find somebody. -/
def FindsSecondChoice (threatList : List HostileReference)
    (currentVictim : Option HostileReference) : Prop :=
  (∀ target ∈ threatList, attacker.canCreatureAttack target = false) ∨
    (attacker.lastIsSecondChoice threatList ∧
      ∀ victim, currentVictim = some victim → attacker.canCreatureAttack victim = false →
        (attacker.isSecondChoice victim = false ∨ threatList.getLast? = some victim) →
          ∃ target ∈ threatList, attacker.canCreatureAttack target = true ∧
            attacker.waits victim target = false)

/-- The first target of first choice is not compared with the victim, or passes. -/
def FindsFirstChoice (threatList : List HostileReference) (first victim : HostileReference) :
    Prop :=
  (attacker.isSecondChoice victim = true ∧
    ∀ target ∈ threatList.takeWhile (· ≠ victim), attacker.isFirstChoice target = false) ∨
  (attacker.waits victim first = false ∧
    ¬ (attacker.canCreatureAttack victim = true ∧ first.threat ≤ 11 / 10 * victim.threat)) ∨
  (∃ target ∈ threatList, attacker.isFirstChoice target = true ∧
    target.threat = first.threat ∧ attacker.waits victim first = true ∧
      attacker.isWithinMeleeRange target = true) ∨
  (attacker.isSecondChoice victim = true ∧ threatList.getLast? ≠ some victim ∧
    attacker.lastIsSecondChoice threatList ∧
    (∀ target ∈ threatList, attacker.isFirstChoice target = true →
      attacker.waits victim target = true) ∧
    threatList.find? attacker.canCreatureAttack = some first)

/-- When the loop finds the target which the rules demand. -/
def FindsVictim (threatList : List HostileReference)
    (currentVictim : Option HostileReference) : Prop :=
  match threatList.find? attacker.isFirstChoice with
  | none => attacker.FindsSecondChoice threatList currentVictim
  | some first =>
      ∀ victim, currentVictim = some victim → attacker.isFirstChoice victim = false →
        attacker.FindsFirstChoice threatList first victim

/-! ## One pass -/

/-- How a pass over the list ends. -/
inductive PassResult where
  | found (target : HostileReference)
  | restart (currentVictim : Option HostileReference)
  | ended
deriving DecidableEq, Repr

/-- Who is attacked when a target settles the comparison. -/
def chosen (victim target : HostileReference) : HostileReference :=
  if victim = target ∨ target.threat ≤ 11 / 10 * victim.threat then
    if victim ≠ target ∧ attacker.canCreatureAttack victim = true then victim else target
  else target

/-- Whether a target ends the search, with or without a victim to compare it with. -/
def decides (currentVictim : Option HostileReference) (target : HostileReference) : Bool :=
  match currentVictim with
  | none => attacker.canCreatureAttack target
  | some victim =>
      attacker.canCreatureAttack target && (victim = target || !attacker.waits victim target)

def choice (currentVictim : Option HostileReference) (target : HostileReference) :
    HostileReference :=
  match currentVictim with
  | none => target
  | some victim => attacker.chosen victim target

def pass (noPriorityTargetFound : Bool) :
    Option HostileReference → List HostileReference → PassResult
  | _, [] => .ended
  | currentVictim, currentRef :: later =>
      if !noPriorityTargetFound && attacker.isSecondChoice currentRef then
        if later = [] then .restart currentVictim
        else
          pass noPriorityTargetFound
            (if currentVictim = some currentRef then none else currentVictim) later
      else if attacker.decides currentVictim currentRef then
        .found (attacker.choice currentVictim currentRef)
      else pass noPriorityTargetFound currentVictim later

/-- What a pass has found; a second pass does not restart. -/
def PassResult.victim : PassResult → Option HostileReference
  | .found target => some target
  | _ => none

/-- What the first pass has found, or the second one after a restart. -/
def finish (threatList : List HostileReference) : PassResult → Option HostileReference
  | .found target => some target
  | .restart currentVictim => (attacker.pass true currentVictim threatList).victim
  | .ended => none

variable {attacker}

theorem waits_eq_false_iff {victim target : HostileReference} :
    attacker.waits victim target = false ↔
      target.threat ≤ 11 / 10 * victim.threat ∨ 13 / 10 * victim.threat < target.threat ∨
        attacker.isWithinMeleeRange target = true := by
  unfold waits
  rw [Bool.and_eq_false_iff, Bool.and_eq_false_iff]
  simp [or_assoc]

theorem waits_iff {victim target : HostileReference} :
    attacker.waits victim target = true ↔
      11 / 10 * victim.threat < target.threat ∧ target.threat ≤ 13 / 10 * victim.threat ∧
        attacker.isWithinMeleeRange target = false := by
  unfold waits
  simp [and_assoc]

theorem comparison_eq {α : Type} (victim target : HostileReference)
    (answer : Option HostileReference → α) (otherwise : α) :
    (if victim = target ∨ target.threat ≤ 11 / 10 * victim.threat then
        if victim ≠ target ∧ attacker.canCreatureAttack victim = true then
          answer (some victim)
        else answer (some target)
      else if 13 / 10 * victim.threat < target.threat ∨
          (11 / 10 * victim.threat < target.threat ∧
            attacker.isWithinMeleeRange target = true) then
        answer (some target)
      else otherwise) =
    if victim = target ∨ attacker.waits victim target = false then
      answer (some (attacker.chosen victim target))
    else otherwise := by
  unfold chosen
  by_cases close : victim = target ∨ target.threat ≤ 11 / 10 * victim.threat
  · have decided : victim = target ∨ attacker.waits victim target = false :=
      close.imp_right fun low => waits_eq_false_iff.mpr (.inl low)
    rw [if_pos close, if_pos decided, if_pos close, apply_ite some, apply_ite answer]
  · rw [if_neg close, if_neg close]
    have ⟨differs, above⟩ := not_or.mp close
    by_cases far : 13 / 10 * victim.threat < target.threat ∨
        (11 / 10 * victim.threat < target.threat ∧ attacker.isWithinMeleeRange target = true)
    · have decided : victim = target ∨ attacker.waits victim target = false :=
        .inr (waits_eq_false_iff.mpr (.inr (far.imp_right And.right)))
      rw [if_pos far, if_pos decided]
    · have waiting : ¬ (victim = target ∨ attacker.waits victim target = false) := by
        rintro (same | decided)
        · exact differs same
        · rcases waits_eq_false_iff.mp decided with low | high | melee
          · exact above low
          · exact far (.inl high)
          · exact far (.inr ⟨not_le.mp above, melee⟩)
      rw [if_neg far, if_neg waiting]

theorem decides_some_iff {victim target : HostileReference} :
    attacker.decides (some victim) target = true ↔
      attacker.canCreatureAttack target = true ∧
        (victim = target ∨ attacker.waits victim target = false) := by
  simp [decides]

/-- What the loop does with a target which it does not leave out. -/
theorem compare_eq (currentVictim : Option HostileReference) (currentRef : HostileReference)
    (next : Option (Option HostileReference)) :
    (if attacker.canCreatureAttack currentRef then
      match currentVictim with
      | none => some (some currentRef)
      | some currentVictim =>
          if currentVictim = currentRef ∨
              currentRef.threat ≤ 11 / 10 * currentVictim.threat then
            if currentVictim ≠ currentRef ∧
                attacker.canCreatureAttack currentVictim = true then
              some (some currentVictim)
            else some (some currentRef)
          else if 13 / 10 * currentVictim.threat < currentRef.threat ∨
              (11 / 10 * currentVictim.threat < currentRef.threat ∧
                attacker.isWithinMeleeRange currentRef = true) then
            some (some currentRef)
          else next
    else next) =
      if attacker.decides currentVictim currentRef then
        some (some (attacker.choice currentVictim currentRef))
      else next := by
  cases currentVictim with
  | none => rfl
  | some victim =>
      dsimp only
      rw [comparison_eq victim currentRef some]
      by_cases attackable : attacker.canCreatureAttack currentRef = true
      · rw [if_pos attackable]
        by_cases decided : victim = currentRef ∨ attacker.waits victim currentRef = false
        · rw [if_pos decided, if_pos (decides_some_iff.mpr ⟨attackable, decided⟩)]
          rfl
        · rw [if_neg decided, if_neg fun settled => decided (decides_some_iff.mp settled).2]
      · rw [if_neg attackable, if_neg fun settled => attackable (decides_some_iff.mp settled).1]

variable (threatList : List HostileReference)

theorem selectLoop_second {rest : List HostileReference}
    (currentVictim : Option HostileReference) {turns : Nat} (enough : rest.length < turns) :
    attacker.selectLoop threatList turns ⟨rest, currentVictim, true⟩ =
      some (attacker.pass true currentVictim rest).victim := by
  induction rest generalizing turns with
  | nil =>
      cases turns with
      | zero => cases enough
      | succ turns => rfl
  | cons currentRef later induction =>
      cases turns with
      | zero => cases enough
      | succ turns =>
          unfold selectLoop pass
          dsimp only
          rw [Bool.not_true, Bool.false_and, if_neg Bool.false_ne_true, if_neg Bool.false_ne_true,
            compare_eq currentVictim currentRef, induction (Nat.lt_of_succ_lt_succ enough)]
          split_ifs <;> rfl

theorem selectLoop_first {rest : List HostileReference}
    (currentVictim : Option HostileReference) {turns : Nat}
    (enough : rest.length + threatList.length + 1 < turns) :
    attacker.selectLoop threatList turns ⟨rest, currentVictim, false⟩ =
      some (attacker.finish threatList (attacker.pass false currentVictim rest)) := by
  induction rest generalizing turns currentVictim with
  | nil =>
      cases turns with
      | zero => cases enough
      | succ turns => rfl
  | cons currentRef later induction =>
      cases turns with
      | zero => cases enough
      | succ turns =>
          rw [List.length_cons] at enough
          have next (victim : Option HostileReference) :
              attacker.selectLoop threatList turns ⟨later, victim, false⟩ =
                some (attacker.finish threatList (attacker.pass false victim later)) :=
            induction victim (by omega)
          unfold selectLoop pass
          dsimp only
          rw [Bool.not_false, Bool.true_and]
          by_cases second : attacker.isSecondChoice currentRef = true
          · rw [if_pos second, if_pos second]
            by_cases last : later = []
            · rw [if_neg (not_not_intro last), if_pos last]
              exact selectLoop_second threatList currentVictim (by omega)
            · rw [if_pos last, if_neg last]
              exact next _
          · rw [if_neg second, if_neg second, compare_eq currentVictim currentRef, next]
            split_ifs <;> rfl

/-- The loop ends, after two passes at most. -/
theorem selectNextVictim_eq (currentVictim : Option HostileReference) {turns : Nat}
    (enough : 2 * threatList.length + 1 < turns) :
    attacker.selectNextVictim turns threatList currentVictim =
      some (attacker.finish threatList (attacker.pass false currentVictim threatList)) :=
  selectLoop_first threatList currentVictim (by omega)

/-! ## What a pass finds -/

variable {threatList}

theorem pass_cons (noPriorityTargetFound : Bool) (currentVictim : Option HostileReference)
    (currentRef : HostileReference) (later : List HostileReference) :
    attacker.pass noPriorityTargetFound currentVictim (currentRef :: later) =
      if !noPriorityTargetFound && attacker.isSecondChoice currentRef then
        if later = [] then .restart currentVictim
        else
          attacker.pass noPriorityTargetFound
            (if currentVictim = some currentRef then none else currentVictim) later
      else if attacker.decides currentVictim currentRef then
        .found (attacker.choice currentVictim currentRef)
      else attacker.pass noPriorityTargetFound currentVictim later := rfl

theorem pass_second (currentVictim : Option HostileReference) (rest : List HostileReference) :
    (attacker.pass true currentVictim rest).victim =
      (rest.find? (attacker.decides currentVictim)).map (attacker.choice currentVictim) := by
  induction rest with
  | nil => rfl
  | cons currentRef later induction =>
      rw [pass_cons, Bool.not_true, Bool.false_and, if_neg Bool.false_ne_true, List.find?_cons]
      cases attacker.decides currentVictim currentRef with
      | true => rfl
      | false => exact induction

/-- How a first pass ends which finds nobody. -/
def unfound (rest : List HostileReference) (currentVictim : Option HostileReference) :
    PassResult :=
  match rest.getLast? with
  | none => .ended
  | some last => if attacker.isSecondChoice last then .restart currentVictim else .ended

/-- A target at which the first pass ends. -/
def stops (currentVictim : Option HostileReference) (target : HostileReference) : Bool :=
  !attacker.isSecondChoice target && attacker.decides currentVictim target

/-- A first pass which does not leave out the victim. -/
theorem pass_first (currentVictim : Option HostileReference) (rest : List HostileReference)
    (kept : ∀ victim, currentVictim = some victim → victim ∈ rest →
      attacker.isSecondChoice victim = false) :
    attacker.pass false currentVictim rest =
      match rest.find? (attacker.stops currentVictim) with
      | some target => .found (attacker.choice currentVictim target)
      | none => attacker.unfound rest currentVictim := by
  induction rest with
  | nil => rfl
  | cons currentRef later induction =>
      have next := induction fun victim isVictim member =>
        kept victim isVictim (List.mem_cons_of_mem currentRef member)
      rw [pass_cons, Bool.not_false, Bool.true_and, List.find?_cons]
      cases second : attacker.isSecondChoice currentRef with
      | true =>
          have skipped : attacker.stops currentVictim currentRef = false := by
            unfold stops
            rw [second]
            rfl
          have notVictim : currentVictim ≠ some currentRef := by
            intro isVictim
            have first := kept currentRef isVictim List.mem_cons_self
            rw [second] at first
            cases first
          rw [if_pos rfl, skipped, if_neg notVictim, next]
          by_cases last : later = []
          · subst last
            unfold unfound
            rw [if_pos rfl, List.getLast?_singleton]
            dsimp only
            rw [second]
            rfl
          · unfold unfound
            rw [if_neg last, List.getLast?_cons_of_ne_nil last]
      | false =>
          have stop : attacker.stops currentVictim currentRef =
              attacker.decides currentVictim currentRef := by
            unfold stops
            rw [second]
            rfl
          rw [if_neg Bool.false_ne_true, stop]
          cases decided : attacker.decides currentVictim currentRef with
          | true => rfl
          | false =>
              rw [if_neg Bool.false_ne_true, next]
              by_cases last : later = []
              · subst last
                unfold unfound
                rw [List.getLast?_singleton]
                dsimp only
                rw [second]
                rfl
              · unfold unfound
                rw [List.getLast?_cons_of_ne_nil last]

theorem pass_first_victim {victim : HostileReference} {before : List HostileReference}
    (after : List HostileReference)
    (second : attacker.isSecondChoice victim = true) (notBefore : victim ∉ before) :
    attacker.pass false (some victim) (before ++ victim :: after) =
      match before.find? (attacker.stops (some victim)) with
      | some target => .found (attacker.chosen victim target)
      | none =>
          if after = [] then .restart (some victim) else attacker.pass false none after := by
  induction before with
  | nil =>
      rw [List.nil_append, List.find?_nil, pass_cons, Bool.not_false, Bool.true_and,
        if_pos second, if_pos rfl]
  | cons currentRef later induction =>
      rw [List.mem_cons, not_or] at notBefore
      have next := induction notBefore.2
      rw [List.cons_append, List.find?_cons, pass_cons, Bool.not_false, Bool.true_and]
      cases isSecond : attacker.isSecondChoice currentRef with
      | true =>
          have skipped : attacker.stops (some victim) currentRef = false := by
            unfold stops
            rw [isSecond]
            rfl
          have notVictim : some victim ≠ some currentRef :=
            fun same => notBefore.1 (Option.some.inj same)
          rw [if_pos rfl, if_neg (by simp), if_neg notVictim, skipped]
          exact next
      | false =>
          have stop : attacker.stops (some victim) currentRef =
              attacker.decides (some victim) currentRef := by
            unfold stops
            rw [isSecond]
            rfl
          rw [if_neg Bool.false_ne_true, stop]
          cases attacker.decides (some victim) currentRef with
          | true => rfl
          | false => exact next

/-! ## Sorted lists -/

/-- The online references of a creature, those with the most threat first. -/
structure SortedByThreat (threatList : List HostileReference) : Prop where
  sorted : threatList.Pairwise fun first second => second.threat ≤ first.threat
  positive : ∀ target ∈ threatList, 0 < target.threat
  units : (threatList.map HostileReference.unitGuid).Nodup

section Sorted

variable {currentVictim result : Option HostileReference} {first victim : HostileReference}

theorem isFirstChoice_iff {target : HostileReference} :
    attacker.isFirstChoice target = true ↔
      attacker.canCreatureAttack target = true ∧ attacker.isSecondChoice target = false := by
  simp [isFirstChoice]

theorem stops_iff {target : HostileReference} :
    attacker.stops currentVictim target = true ↔
      attacker.isSecondChoice target = false ∧
        attacker.decides currentVictim target = true := by
  simp [stops]

theorem attackable_of_decides {target : HostileReference}
    (decided : attacker.decides currentVictim target = true) :
    attacker.canCreatureAttack target = true := by
  cases currentVictim with
  | none => exact decided
  | some victim => exact (decides_some_iff.mp decided).1

/-- The first target with a property has the most threat of those which have it. -/
theorem SortedByThreat.le_of_find (sorted : SortedByThreat threatList)
    {property : HostileReference → Bool} (found : threatList.find? property = some first)
    {target : HostileReference} (member : target ∈ threatList) (has : property target = true) :
    target.threat ≤ first.threat := by
  obtain ⟨_, before, after, rfl, without⟩ := List.find?_eq_some_iff_append.mp found
  have ordered := (List.pairwise_append.mp sorted.sorted).2.1
  rcases List.mem_append.mp member with early | late
  · have lacks := without target early
    rw [has] at lacks
    cases lacks
  · rcases List.mem_cons.mp late with rfl | later
    · exact le_rfl
    · exact (List.pairwise_cons.mp ordered).1 target later

/-- Whoever is chosen is in the list and can be attacked. -/
theorem choice_sound (listed : ∀ victim, currentVictim = some victim → victim ∈ threatList)
    {target : HostileReference} (member : target ∈ threatList)
    (attackable : attacker.canCreatureAttack target = true) :
    attacker.choice currentVictim target ∈ threatList ∧
      attacker.canCreatureAttack (attacker.choice currentVictim target) = true := by
  cases currentVictim with
  | none => exact ⟨member, attackable⟩
  | some victim =>
      unfold choice chosen
      dsimp only
      split_ifs with _ stays
      · exact ⟨listed victim rfl, stays.2⟩
      · exact ⟨member, attackable⟩
      · exact ⟨member, attackable⟩

theorem obeys_of_noFirst (listed : ∀ victim, currentVictim = some victim → victim ∈ threatList)
    (noFirst : ∀ target ∈ threatList, attacker.isFirstChoice target = false)
    (sound : ∀ target, result = some target →
      target ∈ threatList ∧ attacker.canCreatureAttack target = true) :
    attacker.ObeysThreatRules threatList currentVictim result ↔
      (result = none → ∀ target ∈ threatList, attacker.canCreatureAttack target = false) := by
  constructor
  · exact fun obeys => obeys.none_iff.mp
  · intro finds
    constructor
    · refine ⟨finds, fun nobody => ?_⟩
      cases isResult : result with
      | none => rfl
      | some target =>
          obtain ⟨member, attackable⟩ := sound target isResult
          rw [nobody target member] at attackable
          cases attackable
    · exact sound
    · intro target _ _ other member attackable
      have notFirst := noFirst other member
      cases second : attacker.isSecondChoice other with
      | true => rfl
      | false =>
          rw [isFirstChoice_iff.mpr ⟨attackable, second⟩] at notFirst
          cases notFirst
    · intro victim isVictim usable
      rw [noFirst victim (listed victim isVictim)] at usable
      cases usable
    · rintro _ ⟨target, member, isFirst⟩
      rw [noFirst target member] at isFirst
      cases isFirst

/-- Some target of first choice with as much threat as the first one. -/
def TakesFirstChoice (threatList : List HostileReference) (first : HostileReference)
    (result : Option HostileReference) : Prop :=
  ∃ target ∈ threatList, result = some target ∧ attacker.isFirstChoice target = true ∧
    target.threat = first.threat

/-- With a target of first choice, one with the most threat is to be found. -/
theorem obeys_of_first (sorted : SortedByThreat threatList)
    (found : threatList.find? attacker.isFirstChoice = some first)
    (unusable : ∀ victim, currentVictim = some victim → attacker.isFirstChoice victim = false) :
    attacker.ObeysThreatRules threatList currentVictim result ↔
      attacker.TakesFirstChoice threatList first result := by
  have isFirst : attacker.isFirstChoice first = true := List.find?_some found
  have firstMember := List.mem_of_find?_eq_some found
  constructor
  · intro obeys
    obtain ⟨target, isResult, targetFirst, most⟩ :=
      obeys.highest unusable ⟨first, firstMember, isFirst⟩
    have member := (obeys.attackable target isResult).1
    exact ⟨target, member, isResult, targetFirst,
      le_antisymm (sorted.le_of_find found member targetFirst) (most first firstMember isFirst)⟩
  · rintro ⟨target, member, rfl, targetFirst, most⟩
    have attackable := (isFirstChoice_iff.mp targetFirst).1
    have none_iff : some target = none ↔
        ∀ other ∈ threatList, attacker.canCreatureAttack other = false := by
      constructor
      · intro isNone
        cases isNone
      · intro nobody
        rw [nobody target member] at attackable
        cases attackable
    have isAttackable : ∀ other, some target = some other →
        other ∈ threatList ∧ attacker.canCreatureAttack other = true := by
      intro other same
      rw [← Option.some.inj same]
      exact ⟨member, attackable⟩
    have notSecond : ∀ other, some target = some other →
        attacker.isSecondChoice other = false := by
      intro other same
      rw [← Option.some.inj same]
      exact (isFirstChoice_iff.mp targetFirst).2
    have highest : ∀ other ∈ threatList, attacker.isFirstChoice other = true →
        other.threat ≤ target.threat := by
      intro other otherMember otherFirst
      rw [most]
      exact sorted.le_of_find found otherMember otherFirst
    exact {
      none_iff
      attackable := isAttackable
      secondChoice := fun other same second => by
        rw [notSecond other same] at second
        cases second
      kept := fun victim isVictim usable => by
        rw [unusable victim isVictim] at usable
        cases usable
      highest := fun _ _ => ⟨target, rfl, targetFirst, highest⟩ }

/-! ## Whoever is found -/

theorem pass_found (noPriorityTargetFound : Bool) {rest : List HostileReference}
    (inList : ∀ target ∈ rest, target ∈ threatList)
    (listed : ∀ victim, currentVictim = some victim → victim ∈ threatList)
    {target : HostileReference}
    (found : attacker.pass noPriorityTargetFound currentVictim rest = .found target) :
    target ∈ threatList ∧ attacker.canCreatureAttack target = true := by
  induction rest generalizing currentVictim with
  | nil => cases found
  | cons currentRef later induction =>
      have laterInList : ∀ target ∈ later, target ∈ threatList :=
        fun target member => inList target (List.mem_cons_of_mem currentRef member)
      rw [pass_cons] at found
      split_ifs at found with skipped last isVictim decided
      · exact induction laterInList (fun _ isNone => by cases isNone) found
      · exact induction laterInList listed found
      · cases found
        exact choice_sound listed (inList currentRef List.mem_cons_self)
          (attackable_of_decides decided)
      · exact induction laterInList listed found

theorem pass_restart (noPriorityTargetFound : Bool) {rest : List HostileReference}
    {left : Option HostileReference}
    (restart : attacker.pass noPriorityTargetFound currentVictim rest = .restart left) :
    left = none ∨ left = currentVictim := by
  induction rest generalizing currentVictim with
  | nil => cases restart
  | cons currentRef later induction =>
      rw [pass_cons] at restart
      split_ifs at restart with skipped last isVictim decided
      · cases restart
        exact .inr rfl
      · exact .inl ((induction restart).elim id id)
      · exact induction restart
      · exact induction restart

theorem finish_sound (listed : ∀ victim, currentVictim = some victim → victim ∈ threatList)
    {target : HostileReference}
    (isResult : attacker.finish threatList (attacker.pass false currentVictim threatList) =
      some target) :
    target ∈ threatList ∧ attacker.canCreatureAttack target = true := by
  cases result : attacker.pass false currentVictim threatList with
  | found other =>
      rw [result] at isResult
      rw [← Option.some.inj isResult]
      exact pass_found false (fun _ => id) listed result
  | restart left =>
      rw [result] at isResult
      have leftListed : ∀ victim, left = some victim → victim ∈ threatList := by
        rcases pass_restart false result with rfl | rfl
        · intro victim isNone
          cases isNone
        · exact listed
      cases second : attacker.pass true left threatList with
      | found other =>
          simp only [finish, second, PassResult.victim] at isResult
          rw [← Option.some.inj isResult]
          exact pass_found true (fun _ => id) leftListed second
      | restart again =>
          simp only [finish, second, PassResult.victim] at isResult
          cases isResult
      | ended =>
          simp only [finish, second, PassResult.victim] at isResult
          cases isResult
  | ended =>
      rw [result] at isResult
      cases isResult

/-! ## Without a target of first choice -/

/-- When the second pass finds somebody. -/
theorem exists_decides_iff (listed : ∀ victim, currentVictim = some victim → victim ∈ threatList) :
    (∃ target ∈ threatList, attacker.decides currentVictim target = true) ↔
      (∃ target ∈ threatList, attacker.canCreatureAttack target = true) ∧
        ∀ victim, currentVictim = some victim → attacker.canCreatureAttack victim = false →
          ∃ target ∈ threatList, attacker.canCreatureAttack target = true ∧
            attacker.waits victim target = false := by
  constructor
  · rintro ⟨target, member, decided⟩
    refine ⟨⟨target, member, attackable_of_decides decided⟩, ?_⟩
    rintro victim rfl unattackable
    obtain ⟨attackable, same | passes⟩ := decides_some_iff.mp decided
    · rw [same, attackable] at unattackable
      cases unattackable
    · exact ⟨target, member, attackable, passes⟩
  · rintro ⟨⟨target, member, attackable⟩, unattackable⟩
    cases currentVictim with
    | none => exact ⟨target, member, attackable⟩
    | some victim =>
        cases isAttackable : attacker.canCreatureAttack victim with
        | true =>
            exact ⟨victim, listed victim rfl, decides_some_iff.mpr ⟨isAttackable, .inl rfl⟩⟩
        | false =>
            obtain ⟨other, otherMember, otherAttackable, passes⟩ :=
              unattackable victim rfl isAttackable
            exact ⟨other, otherMember, decides_some_iff.mpr ⟨otherAttackable, .inr passes⟩⟩

theorem lastIsSecondChoice_iff {last : HostileReference}
    (isLast : threatList.getLast? = some last) :
    attacker.lastIsSecondChoice threatList ↔ attacker.isSecondChoice last = true := by
  constructor
  · rintro ⟨other, isOther, second⟩
    rw [isLast] at isOther
    rw [Option.some.inj isOther]
    exact second
  · exact fun second => ⟨last, isLast, second⟩

/-- The second pass comes exactly when the last target is second choice. -/
theorem finish_unfound_isSome (rest : List HostileReference) :
    (∃ target, attacker.finish threatList (attacker.unfound rest currentVictim) = some target) ↔
      attacker.lastIsSecondChoice rest ∧
        ∃ target ∈ threatList, attacker.decides currentVictim target = true := by
  unfold unfound
  cases isLast : rest.getLast? with
  | none =>
      constructor
      · rintro ⟨target, isNone⟩
        cases isNone
      · rintro ⟨⟨last, isSome, _⟩, _⟩
        rw [isLast] at isSome
        cases isSome
  | some last =>
      rw [lastIsSecondChoice_iff isLast]
      dsimp only
      cases second : attacker.isSecondChoice last with
      | false =>
          constructor
          · rintro ⟨target, isNone⟩
            cases isNone
          · rintro ⟨isSecond, _⟩
            cases isSecond
      | true =>
          rw [if_pos rfl]
          unfold finish
          dsimp only
          rw [pass_second, ← Option.isSome_iff_exists, Option.isSome_map, List.find?_isSome]
          exact (and_iff_right rfl).symm

theorem isFirstChoice_of_stops {target : HostileReference}
    (stop : attacker.stops currentVictim target = true) :
    attacker.isFirstChoice target = true := by
  obtain ⟨notSecond, decided⟩ := stops_iff.mp stop
  exact isFirstChoice_iff.mpr ⟨attackable_of_decides decided, notSecond⟩

theorem find_stops_eq_none {rest : List HostileReference}
    (noFirst : ∀ target ∈ rest, attacker.isFirstChoice target = false) :
    rest.find? (attacker.stops currentVictim) = none := by
  apply List.find?_eq_none.mpr
  intro target member stop
  have isFirst := isFirstChoice_of_stops stop
  rw [noFirst target member] at isFirst
  cases isFirst

theorem pass_first_none (rest : List HostileReference) :
    attacker.pass false none rest =
      match rest.find? attacker.isFirstChoice with
      | some target => .found target
      | none => attacker.unfound rest none := by
  have sameTargets : attacker.stops none = attacker.isFirstChoice := by
    funext target
    exact Bool.and_comm _ _
  have passed : attacker.pass false none rest = _ :=
    pass_first none rest fun _ isNone => by cases isNone
  rw [sameTargets] at passed
  rw [passed]
  cases rest.find? attacker.isFirstChoice <;> rfl

/-- The list around a target which is in it. -/
theorem SortedByThreat.exists_split (sorted : SortedByThreat threatList)
    (member : victim ∈ threatList) :
    ∃ before after, threatList = before ++ victim :: after ∧ victim ∉ before ∧ victim ∉ after := by
  obtain ⟨before, after, split, notBefore⟩ := List.eq_append_cons_of_mem member
  refine ⟨before, after, split, notBefore, fun memberAfter => ?_⟩
  have distinct := List.Nodup.of_map _ sorted.units
  rw [split] at distinct
  exact (List.nodup_cons.mp (List.nodup_append.mp distinct).2.1).1 memberAfter

theorem getLast?_split {before after : List HostileReference} (last : after ≠ []) :
    (before ++ victim :: after).getLast? = after.getLast? := by
  rw [List.getLast?_append_of_ne_nil _ (List.cons_ne_nil victim after),
    List.getLast?_cons_of_ne_nil last]

/-- Without first choice, somebody is found exactly in a second pass. -/
theorem finish_noFirst (sorted : SortedByThreat threatList)
    (listed : ∀ victim, currentVictim = some victim → victim ∈ threatList)
    (noFirst : ∀ target ∈ threatList, attacker.isFirstChoice target = false) :
    (∃ target, attacker.finish threatList (attacker.pass false currentVictim threatList) =
        some target) ↔
      (∃ target ∈ threatList, attacker.canCreatureAttack target = true) ∧
        attacker.lastIsSecondChoice threatList ∧
          ∀ victim, currentVictim = some victim → attacker.canCreatureAttack victim = false →
            (attacker.isSecondChoice victim = false ∨ threatList.getLast? = some victim) →
              ∃ target ∈ threatList, attacker.canCreatureAttack target = true ∧
                attacker.waits victim target = false := by
  by_cases kept : ∀ victim, currentVictim = some victim →
      attacker.isSecondChoice victim = false
  · have passed := pass_first currentVictim threatList fun victim isVictim _ =>
      kept victim isVictim
    rw [find_stops_eq_none noFirst] at passed
    rw [passed, finish_unfound_isSome, exists_decides_iff listed]
    constructor
    · rintro ⟨last, attackable, unattackable⟩
      exact ⟨attackable, last, fun victim isVictim cannot _ =>
        unattackable victim isVictim cannot⟩
    · rintro ⟨attackable, last, unattackable⟩
      exact ⟨last, attackable, fun victim isVictim cannot =>
        unattackable victim isVictim cannot (.inl (kept victim isVictim))⟩
  · obtain ⟨victim, notKept⟩ := not_forall.mp kept
    obtain ⟨rfl, second⟩ := Classical.not_imp.mp notKept
    rw [Bool.not_eq_false] at second
    obtain ⟨before, after, split, notBefore, notAfter⟩ :=
      sorted.exists_split (listed victim rfl)
    have noFirstBefore : ∀ target ∈ before, attacker.isFirstChoice target = false :=
      fun target member => noFirst target (by rw [split]; exact List.mem_append_left _ member)
    have noFirstAfter : ∀ target ∈ after, attacker.isFirstChoice target = false :=
      fun target member => noFirst target (by
        rw [split]
        exact List.mem_append_right _ (List.mem_cons_of_mem victim member))
    have passed := pass_first_victim after second notBefore
    rw [find_stops_eq_none noFirstBefore, ← split] at passed
    dsimp only at passed
    rw [passed]
    by_cases last : after = []
    · have isLast : threatList.getLast? = some victim := by
        rw [split, last]
        exact List.getLast?_concat
      rw [if_pos last]
      unfold finish
      dsimp only
      rw [pass_second, ← Option.isSome_iff_exists, Option.isSome_map, List.find?_isSome,
        exists_decides_iff listed]
      constructor
      · rintro ⟨attackable, unattackable⟩
        exact ⟨attackable, ⟨victim, isLast, second⟩, fun other isOther cannot _ =>
          unattackable other isOther cannot⟩
      · rintro ⟨attackable, _, unattackable⟩
        refine ⟨attackable, ?_⟩
        rintro other isOther cannot
        cases isOther
        exact unattackable victim rfl cannot (.inr isLast)
    · have isLast : threatList.getLast? = after.getLast? := by
        rw [split]
        exact getLast?_split last
      rw [if_neg last, pass_first_none, List.find?_eq_none.mpr (by simpa using noFirstAfter)]
      dsimp only
      rw [finish_unfound_isSome]
      unfold lastIsSecondChoice
      rw [isLast]
      constructor
      · rintro ⟨lastSecond, attackable⟩
        refine ⟨attackable, lastSecond, ?_⟩
        intro other isOther _ forced
        cases isOther
        rcases forced with first | isVictim
        · rw [second] at first
          cases first
        · exact (notAfter (List.mem_of_getLast? isVictim)).elim
      · rintro ⟨attackable, lastSecond, _⟩
        exact ⟨lastSecond, attackable⟩

/-! ## With a usable victim -/

/-- The first target with a property is the first with any property it implies. -/
theorem find_of_imp {α : Type} {list : List α} {property weaker : α → Bool} {found : α}
    (imp : ∀ element, property element = true → weaker element = true)
    (isFound : list.find? weaker = some found) (has : property found = true) :
    list.find? property = some found := by
  obtain ⟨_, before, after, split, without⟩ := List.find?_eq_some_iff_append.mp isFound
  refine List.find?_eq_some_iff_append.mpr ⟨has, before, after, split, fun element member => ?_⟩
  cases holds : property element with
  | false => rfl
  | true =>
      have lacks := without element member
      rw [imp element holds] at lacks
      exact lacks

theorem stops_some_iff {target : HostileReference} :
    attacker.stops (some victim) target = true ↔
      attacker.isFirstChoice target = true ∧
        (victim = target ∨ attacker.waits victim target = false) := by
  rw [stops_iff, decides_some_iff, isFirstChoice_iff]
  tauto

theorem outdoes_iff {target : HostileReference} :
    attacker.outdoes victim target = true ↔
      attacker.isFirstChoice target = true ∧
        (13 / 10 * victim.threat < target.threat ∨
          (11 / 10 * victim.threat < target.threat ∧
            attacker.isWithinMeleeRange target = true)) := by
  simp [outdoes]

/-- A target which outdoes a victim with threat has more than 110 percent of it. -/
theorem above_of_outdoes (positive : 0 < victim.threat) {target : HostileReference}
    (better : attacker.outdoes victim target = true) :
    11 / 10 * victim.threat < target.threat := by
  rcases (outdoes_iff.mp better).2 with far | ⟨near, _⟩
  · linarith
  · exact near

theorem stops_of_outdoes {target : HostileReference}
    (better : attacker.outdoes victim target = true) :
    attacker.stops (some victim) target = true := by
  obtain ⟨isFirst, far | ⟨_, melee⟩⟩ := outdoes_iff.mp better
  · exact stops_some_iff.mpr ⟨isFirst, .inr (waits_eq_false_iff.mpr (.inr (.inl far)))⟩
  · exact stops_some_iff.mpr ⟨isFirst, .inr (waits_eq_false_iff.mpr (.inr (.inr melee)))⟩

/-- A victim of first choice is kept until somebody outdoes it. -/
theorem finish_usable (sorted : SortedByThreat threatList) (member : victim ∈ threatList)
    (usable : attacker.isFirstChoice victim = true) :
    attacker.finish threatList (attacker.pass false (some victim) threatList) =
      some ((threatList.find? (attacker.outdoes victim)).getD victim) := by
  have ⟨attackable, notSecond⟩ := isFirstChoice_iff.mp usable
  have positive := sorted.positive victim member
  have victimStops : attacker.stops (some victim) victim = true :=
    stops_some_iff.mpr ⟨usable, .inl rfl⟩
  obtain ⟨target, found⟩ := Option.isSome_iff_exists.mp
    (List.find?_isSome.mpr ⟨victim, member, victimStops⟩)
  have passed : attacker.pass false (some victim) threatList = _ :=
    pass_first (some victim) threatList
    fun other isOther _ => by
      rw [← Option.some.inj isOther]
      exact notSecond
  rw [found] at passed
  rw [passed]
  change some (attacker.chosen victim target) = _
  congr 1
  by_cases low : target.threat ≤ 11 / 10 * victim.threat
  · have nobody : threatList.find? (attacker.outdoes victim) = none := by
      apply List.find?_eq_none.mpr
      intro other otherMember better
      have atMost := sorted.le_of_find found otherMember (stops_of_outdoes better)
      have above := above_of_outdoes positive better
      linarith
    rw [nobody, Option.getD_none]
    unfold chosen
    rw [if_pos (.inr low)]
    by_cases same : victim = target
    · rw [if_neg fun differs => differs.1 same]
      exact same.symm
    · exact if_pos ⟨same, attackable⟩
  · have differs : victim ≠ target := by
      rintro rfl
      apply low
      linarith
    have ⟨targetFirst, settled⟩ := stops_some_iff.mp (List.find?_some found)
    have better : attacker.outdoes victim target = true := by
      rcases waits_eq_false_iff.mp (settled.resolve_left differs) with below | far | melee
      · exact (low below).elim
      · exact outdoes_iff.mpr ⟨targetFirst, .inl far⟩
      · exact outdoes_iff.mpr ⟨targetFirst, .inr ⟨not_le.mp low, melee⟩⟩
    rw [find_of_imp (fun _ => stops_of_outdoes) found better, Option.getD_some]
    unfold chosen
    rw [if_neg (not_or.mpr ⟨differs, low⟩)]

/-- With a victim of first choice the rules are obeyed. -/
theorem obeys_of_usable (sorted : SortedByThreat threatList) (member : victim ∈ threatList)
    (usable : attacker.isFirstChoice victim = true) :
    attacker.ObeysThreatRules threatList (some victim)
      (attacker.finish threatList (attacker.pass false (some victim) threatList)) := by
  rw [finish_usable sorted member usable]
  have attackable := (isFirstChoice_iff.mp usable).1
  have sound : (threatList.find? (attacker.outdoes victim)).getD victim ∈ threatList ∧
      attacker.isFirstChoice ((threatList.find? (attacker.outdoes victim)).getD victim) =
        true := by
    cases found : threatList.find? (attacker.outdoes victim) with
    | none => exact ⟨member, usable⟩
    | some target =>
        exact ⟨List.mem_of_find?_eq_some found, (outdoes_iff.mp (List.find?_some found)).1⟩
  have ⟨resultAttackable, resultNotSecond⟩ := isFirstChoice_iff.mp sound.2
  constructor
  · constructor
    · intro isNone
      cases isNone
    · intro nobody
      rw [nobody victim member] at attackable
      cases attackable
  · intro target isTarget
    rw [← Option.some.inj isTarget]
    exact ⟨sound.1, resultAttackable⟩
  · intro target isTarget second
    rw [← Option.some.inj isTarget, resultNotSecond] at second
    cases second
  · intro other isOther _
    rw [← Option.some.inj isOther]
  · intro unusable _
    have unusableVictim := unusable victim rfl
    rw [usable] at unusableVictim
    cases unusableVictim

/-! ## Without a usable victim -/

theorem SortedByThreat.sublist {list : List HostileReference}
    (sorted : SortedByThreat threatList) (sub : list.Sublist threatList) :
    SortedByThreat list where
  sorted := sorted.sorted.sublist sub
  positive := fun target member => sorted.positive target (sub.subset member)
  units := sorted.units.sublist (sub.map HostileReference.unitGuid)

theorem takesFirstChoice_some_iff {target : HostileReference} (member : target ∈ threatList) :
    attacker.TakesFirstChoice threatList first (some target) ↔
      attacker.isFirstChoice target = true ∧ target.threat = first.threat := by
  constructor
  · rintro ⟨other, _, same, isFirst, most⟩
    rw [Option.some.inj same]
    exact ⟨isFirst, most⟩
  · rintro ⟨isFirst, most⟩
    exact ⟨target, member, rfl, isFirst, most⟩

/-- A target of first choice in melee range is not passed over. -/
theorem stops_of_melee {target : HostileReference}
    (isFirst : attacker.isFirstChoice target = true)
    (melee : attacker.isWithinMeleeRange target = true) :
    attacker.stops (some victim) target = true :=
  stops_some_iff.mpr ⟨isFirst, .inr (waits_eq_false_iff.mpr (.inr (.inr melee)))⟩

/-- When the first target which settles the comparison has the most threat. -/
theorem stop_threat_iff (sorted : SortedByThreat threatList)
    (found : threatList.find? attacker.isFirstChoice = some first)
    (unusable : attacker.isFirstChoice victim = false) {target : HostileReference}
    (stop : threatList.find? (attacker.stops (some victim)) = some target) :
    target.threat = first.threat ↔
      attacker.waits victim first = false ∨
        ∃ other ∈ threatList, attacker.isFirstChoice other = true ∧
          other.threat = first.threat ∧ attacker.waits victim first = true ∧
            attacker.isWithinMeleeRange other = true := by
  have member := List.mem_of_find?_eq_some stop
  have ⟨targetFirst, settled⟩ := stops_some_iff.mp (List.find?_some stop)
  constructor
  · intro most
    cases waiting : attacker.waits victim first with
    | false => exact .inl rfl
    | true =>
        have ⟨above, below, _⟩ := waits_iff.mp waiting
        have differs : victim ≠ target := by
          rintro rfl
          rw [unusable] at targetFirst
          cases targetFirst
        rcases waits_eq_false_iff.mp (settled.resolve_left differs) with low | far | melee
        · linarith
        · linarith
        · exact .inr ⟨target, member, targetFirst, most, rfl, melee⟩
  · intro finds
    apply le_antisymm (sorted.le_of_find found member targetFirst)
    rcases finds with passes | ⟨other, otherMember, otherFirst, most, _, melee⟩
    · have firstStops : attacker.stops (some victim) first = true :=
        stops_some_iff.mpr ⟨List.find?_some found, .inr passes⟩
      exact sorted.le_of_find stop (List.mem_of_find?_eq_some found) firstStops
    · rw [← most]
      exact sorted.le_of_find stop otherMember (stops_of_melee otherFirst melee)

theorem chosen_eq_or (victim target : HostileReference) :
    attacker.chosen victim target = victim ∨ attacker.chosen victim target = target := by
  unfold chosen
  split_ifs
  · exact .inl rfl
  · exact .inr rfl
  · exact .inr rfl

/-- What a first pass leaves undecided is not decided by the second one for first choice. -/
theorem second_not_first
    (noStop : ∀ target ∈ threatList, ¬ attacker.stops (some victim) target = true)
    (unusable : attacker.isFirstChoice victim = false) {target : HostileReference}
    (isResult : (attacker.pass true (some victim) threatList).victim = some target) :
    attacker.isFirstChoice target = false := by
  rw [pass_second] at isResult
  obtain ⟨other, found, rfl⟩ := Option.map_eq_some_iff.mp isResult
  change attacker.isFirstChoice (attacker.chosen victim other) = false
  have either : attacker.chosen victim other = victim ∨ attacker.chosen victim other = other :=
    chosen_eq_or victim other
  rcases either with isVictim | isOther
  · rw [isVictim]
    exact unusable
  · rw [isOther]
    cases isFirst : attacker.isFirstChoice other with
    | false => rfl
    | true =>
        have settled := (decides_some_iff.mp (List.find?_some found)).2
        exact (noStop other (List.mem_of_find?_eq_some found)
          (stops_some_iff.mpr ⟨isFirst, settled⟩)).elim

theorem finish_unfound_some {rest : List HostileReference} {target : HostileReference}
    (isResult : attacker.finish threatList (attacker.unfound rest currentVictim) =
      some target) :
    (attacker.pass true currentVictim threatList).victim = some target := by
  unfold unfound at isResult
  cases isLast : rest.getLast? with
  | none =>
      rw [isLast] at isResult
      cases isResult
  | some last =>
      rw [isLast] at isResult
      dsimp only at isResult
      cases second : attacker.isSecondChoice last with
      | false =>
          rw [second] at isResult
          cases isResult
      | true =>
          rw [second] at isResult
          exact isResult

/-- Against a victim which cannot be attacked. -/
theorem takes_unattackable (sorted : SortedByThreat threatList) (member : victim ∈ threatList)
    (found : threatList.find? attacker.isFirstChoice = some first)
    (cannot : attacker.canCreatureAttack victim = false)
    (notSecond : attacker.isSecondChoice victim = false) :
    attacker.TakesFirstChoice threatList first
        (attacker.finish threatList (attacker.pass false (some victim) threatList)) ↔
      attacker.FindsFirstChoice threatList first victim := by
  have unusable : attacker.isFirstChoice victim = false := by
    unfold isFirstChoice
    rw [cannot, Bool.false_and]
  have listed : ∀ other, some victim = some other → other ∈ threatList := by
    intro other isOther
    rw [← Option.some.inj isOther]
    exact member
  have condition : attacker.FindsFirstChoice threatList first victim ↔
      attacker.waits victim first = false ∨
        ∃ other ∈ threatList, attacker.isFirstChoice other = true ∧
          other.threat = first.threat ∧ attacker.waits victim first = true ∧
            attacker.isWithinMeleeRange other = true := by
    unfold FindsFirstChoice
    rw [cannot, notSecond]
    simp
  have passed : attacker.pass false (some victim) threatList = _ :=
    pass_first (some victim) threatList
    fun other isOther _ => by
      rw [← Option.some.inj isOther]
      exact notSecond
  rw [condition]
  cases stop : threatList.find? (attacker.stops (some victim)) with
  | some target =>
      have targetFirst := isFirstChoice_of_stops (List.find?_some stop)
      have isTarget : attacker.chosen victim target = target := by
        unfold chosen
        rw [if_neg (fun stays : victim ≠ target ∧ _ => by
          rw [cannot] at stays
          cases stays.2), ite_self]
      rw [stop] at passed
      rw [passed]
      change attacker.TakesFirstChoice threatList first (some (attacker.chosen victim target)) ↔ _
      rw [isTarget, takesFirstChoice_some_iff (List.mem_of_find?_eq_some stop),
        and_iff_right targetFirst, stop_threat_iff sorted found unusable stop]
  | none =>
      have noStop := List.find?_eq_none.mp stop
      constructor
      · rintro ⟨target, targetMember, isResult, targetFirst, _⟩
        rw [stop] at passed
        rw [passed] at isResult
        have notFirst := second_not_first noStop unusable (finish_unfound_some isResult)
        rw [targetFirst] at notFirst
        cases notFirst
      · rintro (passes | ⟨other, otherMember, otherFirst, _, _, melee⟩)
        · exact (noStop first (List.mem_of_find?_eq_some found)
            (stops_some_iff.mpr ⟨List.find?_some found, .inr passes⟩)).elim
        · exact (noStop other otherMember (stops_of_melee otherFirst melee)).elim

section SecondChoiceVictim

variable {before after : List HostileReference}

theorem not_first_of_second (second : attacker.isSecondChoice victim = true) :
    attacker.isFirstChoice victim = false := by
  unfold isFirstChoice
  rw [second, Bool.not_true, Bool.and_false]

/-- A target with more threat than the victim stands before it. -/
theorem SortedByThreat.mem_before (sorted : SortedByThreat threatList)
    (split : threatList = before ++ victim :: after) {target : HostileReference}
    (member : target ∈ threatList) (above : 11 / 10 * victim.threat < target.threat) :
    target ∈ before := by
  have victimMember : victim ∈ threatList := by
    rw [split]
    exact List.mem_append_right _ List.mem_cons_self
  have positive := sorted.positive victim victimMember
  have ordered := sorted.sorted
  rw [split] at ordered member
  have atMost := (List.pairwise_cons.mp (List.pairwise_append.mp ordered).2.1).1
  rcases List.mem_append.mp member with early | late
  · exact early
  · rcases List.mem_cons.mp late with rfl | later
    · linarith
    · have belowVictim := atMost target later
      linarith

theorem takeWhile_split (split : threatList = before ++ victim :: after)
    (notBefore : victim ∉ before) :
    threatList.takeWhile (· ≠ victim) = before := by
  have differs : ∀ target ∈ before, decide (target ≠ victim) = true := by
    intro target member
    apply decide_eq_true
    rintro rfl
    exact notBefore member
  rw [split, List.takeWhile_append_of_pos differs, List.takeWhile_cons_of_neg (by simp),
    List.append_nil]

/-- A victim of second choice without first choice before it is forgotten in time. -/
theorem takes_of_none_before (split : threatList = before ++ victim :: after)
    (notBefore : victim ∉ before) (second : attacker.isSecondChoice victim = true)
    (found : threatList.find? attacker.isFirstChoice = some first)
    (noneBefore : before.find? attacker.isFirstChoice = none) :
    attacker.finish threatList (attacker.pass false (some victim) threatList) = some first := by
  have unusable := not_first_of_second second
  have foundAfter : after.find? attacker.isFirstChoice = some first := by
    rw [split, List.find?_append, noneBefore, Option.none_or, List.find?_cons, unusable] at found
    exact found
  have last : after ≠ [] := by
    rintro rfl
    cases foundAfter
  have noStop : before.find? (attacker.stops (some victim)) = none := by
    apply find_stops_eq_none
    intro target member
    exact Bool.eq_false_of_not_eq_true (List.find?_eq_none.mp noneBefore target member)
  have passed := pass_first_victim after second notBefore
  rw [noStop, ← split] at passed
  dsimp only at passed
  rw [passed, if_neg last, pass_first_none, foundAfter]
  rfl

theorem findsFirstChoice_of_before (sorted : SortedByThreat threatList)
    (split : threatList = before ++ victim :: after) (notBefore : victim ∉ before)
    (second : attacker.isSecondChoice victim = true)
    (foundBefore : before.find? attacker.isFirstChoice = some first) :
    attacker.FindsFirstChoice threatList first victim ↔
      (attacker.waits victim first = false ∧
        ¬ (attacker.canCreatureAttack victim = true ∧ first.threat ≤ 11 / 10 * victim.threat)) ∨
      (∃ target ∈ before, attacker.isFirstChoice target = true ∧
        target.threat = first.threat ∧ attacker.waits victim first = true ∧
          attacker.isWithinMeleeRange target = true) ∨
      (threatList.getLast? ≠ some victim ∧ attacker.lastIsSecondChoice threatList ∧
        (∀ target ∈ threatList, attacker.isFirstChoice target = true →
          attacker.waits victim target = true) ∧
        threatList.find? attacker.canCreatureAttack = some first) := by
  have notForgotten : ¬ (attacker.isSecondChoice victim = true ∧
      ∀ target ∈ threatList.takeWhile (· ≠ victim), attacker.isFirstChoice target = false) := by
    rintro ⟨_, nobody⟩
    rw [takeWhile_split split notBefore] at nobody
    have notFirst := nobody first (List.mem_of_find?_eq_some foundBefore)
    rw [List.find?_some foundBefore] at notFirst
    cases notFirst
  have inBefore : (∃ target ∈ threatList, attacker.isFirstChoice target = true ∧
        target.threat = first.threat ∧ attacker.waits victim first = true ∧
          attacker.isWithinMeleeRange target = true) ↔
      ∃ target ∈ before, attacker.isFirstChoice target = true ∧
        target.threat = first.threat ∧ attacker.waits victim first = true ∧
          attacker.isWithinMeleeRange target = true := by
    constructor
    · rintro ⟨target, member, isFirst, most, waiting, melee⟩
      have above : 11 / 10 * victim.threat < target.threat := by
        rw [most]
        exact (waits_iff.mp waiting).1
      exact ⟨target, sorted.mem_before split member above, isFirst, most, waiting, melee⟩
    · rintro ⟨target, member, rest⟩
      refine ⟨target, ?_, rest⟩
      rw [split]
      exact List.mem_append_left _ member
  unfold FindsFirstChoice
  rw [or_iff_right notForgotten, inBefore, and_iff_right second]

/-- A victim of second choice with first choice before it which settles the comparison. -/
theorem takes_of_stop_before (sorted : SortedByThreat threatList)
    (split : threatList = before ++ victim :: after) (notBefore : victim ∉ before)
    (second : attacker.isSecondChoice victim = true)
    (foundBefore : before.find? attacker.isFirstChoice = some first) {target : HostileReference}
    (stop : before.find? (attacker.stops (some victim)) = some target) :
    attacker.TakesFirstChoice threatList first
        (attacker.finish threatList (attacker.pass false (some victim) threatList)) ↔
      attacker.FindsFirstChoice threatList first victim := by
  have unusable := not_first_of_second second
  have inList : ∀ other ∈ before, other ∈ threatList := by
    rw [split]
    exact fun other => List.mem_append_left _
  have sortedBefore : SortedByThreat before :=
    sorted.sublist (by rw [split]; exact List.sublist_append_left before _)
  have member := List.mem_of_find?_eq_some stop
  have ⟨targetFirst, settled⟩ := stops_some_iff.mp (List.find?_some stop)
  have differs : victim ≠ target := by
    rintro rfl
    exact notBefore member
  have notWaiting : ¬ ∀ other ∈ threatList, attacker.isFirstChoice other = true →
      attacker.waits victim other = true := by
    intro waiting
    have targetWaits := waiting target (inList target member) targetFirst
    rw [settled.resolve_left differs] at targetWaits
    cases targetWaits
  have sameThreat := stop_threat_iff sortedBefore foundBefore unusable stop
  have passed := pass_first_victim after second notBefore
  rw [stop, ← split] at passed
  rw [passed, findsFirstChoice_of_before sorted split notBefore second foundBefore]
  change attacker.TakesFirstChoice threatList first (some (attacker.chosen victim target)) ↔ _
  by_cases stays : attacker.canCreatureAttack victim = true ∧
      target.threat ≤ 11 / 10 * victim.threat
  · have isVictim : attacker.chosen victim target = victim := by
      unfold chosen
      rw [if_pos (.inr stays.2), if_pos ⟨differs, stays.1⟩]
    have victimMember : victim ∈ threatList := by
      rw [split]
      exact List.mem_append_right _ List.mem_cons_self
    rw [isVictim, takesFirstChoice_some_iff victimMember, unusable]
    constructor
    · rintro ⟨isFirst, _⟩
      cases isFirst
    · rintro (⟨passes, moves⟩ | melee | ⟨_, _, waiting, _⟩)
      · have most := sameThreat.mpr (.inl passes)
        rw [most] at stays
        exact (moves stays).elim
      · have most := sameThreat.mpr (.inr melee)
        obtain ⟨_, _, _, _, waiting, _⟩ := melee
        have above := (waits_iff.mp waiting).1
        linarith [stays.2]
      · exact (notWaiting waiting).elim
  · have isTarget : attacker.chosen victim target = target := by
      unfold chosen
      split_ifs with low keeps
      · exact (stays ⟨keeps.2, low.resolve_left differs⟩).elim
      · rfl
      · rfl
    rw [isTarget, takesFirstChoice_some_iff (inList target member), and_iff_right targetFirst]
    constructor
    · intro most
      rcases sameThreat.mp most with passes | melee
      · rw [most] at stays
        exact .inl ⟨passes, stays⟩
      · exact .inr (.inl melee)
    · rintro (⟨passes, _⟩ | melee | ⟨_, _, waiting, _⟩)
      · exact sameThreat.mpr (.inl passes)
      · exact sameThreat.mpr (.inr melee)
      · exact (notWaiting waiting).elim

theorem finish_unfound_of_last {rest : List HostileReference}
    (last : attacker.lastIsSecondChoice rest) :
    attacker.finish threatList (attacker.unfound rest currentVictim) =
      (attacker.pass true currentVictim threatList).victim := by
  obtain ⟨target, isLast, second⟩ := last
  unfold unfound
  rw [isLast]
  dsimp only
  rw [second]
  rfl

theorem pass_second_none (rest : List HostileReference) :
    (attacker.pass true none rest).victim = rest.find? attacker.canCreatureAttack := by
  rw [pass_second]
  change (rest.find? attacker.canCreatureAttack).map id = _
  rw [Option.map_id]
  rfl

/-- A victim of second choice with first choice before it which is all passed over. -/
theorem takes_of_waiting_before (sorted : SortedByThreat threatList)
    (split : threatList = before ++ victim :: after) (notBefore : victim ∉ before)
    (notAfter : victim ∉ after) (second : attacker.isSecondChoice victim = true)
    (foundBefore : before.find? attacker.isFirstChoice = some first)
    (noStop : before.find? (attacker.stops (some victim)) = none) :
    attacker.TakesFirstChoice threatList first
        (attacker.finish threatList (attacker.pass false (some victim) threatList)) ↔
      attacker.FindsFirstChoice threatList first victim := by
  have unusable := not_first_of_second second
  have inList : ∀ other ∈ before, other ∈ threatList := by
    rw [split]
    exact fun other => List.mem_append_left _
  have waiting : ∀ other ∈ before, attacker.isFirstChoice other = true →
      attacker.waits victim other = true := by
    intro other member isFirst
    cases passes : attacker.waits victim other with
    | true => rfl
    | false =>
        exact (List.find?_eq_none.mp noStop other member
          (stops_some_iff.mpr ⟨isFirst, .inr passes⟩)).elim
  have isFirst : attacker.isFirstChoice first = true := List.find?_some foundBefore
  have firstMember := List.mem_of_find?_eq_some foundBefore
  have firstWaits := waiting first firstMember isFirst
  have above := (waits_iff.mp firstWaits).1
  have passed := pass_first_victim after second notBefore
  rw [noStop, ← split] at passed
  dsimp only at passed
  rw [findsFirstChoice_of_before sorted split notBefore second foundBefore, firstWaits, passed]
  have noMelee : ¬ ∃ target ∈ before, attacker.isFirstChoice target = true ∧
      target.threat = first.threat ∧ true = true ∧
        attacker.isWithinMeleeRange target = true := by
    rintro ⟨target, member, targetFirst, _, _, melee⟩
    exact List.find?_eq_none.mp noStop target member (stops_of_melee targetFirst melee)
  have noPass : ¬ (true = false ∧
      ¬ (attacker.canCreatureAttack victim = true ∧
        first.threat ≤ 11 / 10 * victim.threat)) := by
    rintro ⟨isFalse, _⟩
    cases isFalse
  rw [or_iff_right noPass, or_iff_right noMelee]
  by_cases last : after = []
  · have isLast : threatList.getLast? = some victim := by
      rw [split, last]
      exact List.getLast?_concat
    have noneStops : ∀ target ∈ threatList, ¬ attacker.stops (some victim) target = true := by
      intro target member stop
      rw [split, last] at member
      rcases List.mem_append.mp member with early | isVictim
      · exact List.find?_eq_none.mp noStop target early stop
      · rw [List.mem_singleton.mp isVictim] at stop
        have victimFirst := isFirstChoice_of_stops stop
        rw [unusable] at victimFirst
        cases victimFirst
    rw [if_pos last]
    constructor
    · rintro ⟨target, _, isResult, targetFirst, _⟩
      have notFirst := second_not_first noneStops unusable isResult
      rw [targetFirst] at notFirst
      cases notFirst
    · rintro ⟨notLast, _⟩
      exact (notLast isLast).elim
  · have isLast : threatList.getLast? = after.getLast? := by
      rw [split]
      exact getLast?_split last
    have notLast : threatList.getLast? ≠ some victim := by
      rw [isLast]
      exact fun isVictim => notAfter (List.mem_of_getLast? isVictim)
    rw [if_neg last, pass_first_none]
    cases foundAfter : after.find? attacker.isFirstChoice with
    | some other =>
        have otherMember : other ∈ threatList := by
          rw [split]
          exact List.mem_append_right _
            (List.mem_cons_of_mem victim (List.mem_of_find?_eq_some foundAfter))
        have low : ¬ 11 / 10 * victim.threat < other.threat := by
          intro otherAbove
          have early := sorted.mem_before split otherMember otherAbove
          have distinct := List.Nodup.of_map _ sorted.units
          rw [split] at distinct
          exact (List.nodup_append.mp distinct).2.2 other early other
            (List.mem_cons_of_mem victim (List.mem_of_find?_eq_some foundAfter)) rfl
        change attacker.TakesFirstChoice threatList first (some other) ↔ _
        rw [takesFirstChoice_some_iff otherMember]
        constructor
        · rintro ⟨_, most⟩
          rw [most] at low
          exact (low above).elim
        · rintro ⟨_, _, allWait, _⟩
          exact (low (waits_iff.mp
            (allWait other otherMember (List.find?_some foundAfter))).1).elim
    | none =>
        have allWait : ∀ target ∈ threatList, attacker.isFirstChoice target = true →
            attacker.waits victim target = true := by
          intro target member targetFirst
          rw [split] at member
          rcases List.mem_append.mp member with early | late
          · exact waiting target early targetFirst
          · rcases List.mem_cons.mp late with rfl | later
            · rw [unusable] at targetFirst
              cases targetFirst
            · exact (List.find?_eq_none.mp foundAfter target later targetFirst).elim
        have sameLast : attacker.lastIsSecondChoice threatList ↔
            attacker.lastIsSecondChoice after := by
          unfold lastIsSecondChoice
          rw [isLast]
        rw [and_iff_right notLast, sameLast, and_iff_right allWait]
        dsimp only
        constructor
        · rintro ⟨target, _, isResult, targetFirst, _⟩
          have lastSecond := ((finish_unfound_isSome after).mp ⟨target, isResult⟩).1
          rw [finish_unfound_of_last lastSecond, pass_second_none] at isResult
          have foundFirst : threatList.find? attacker.isFirstChoice = some target :=
            find_of_imp (fun _ has => (isFirstChoice_iff.mp has).1) isResult targetFirst
          rw [split, List.find?_append, foundBefore, Option.some_or] at foundFirst
          rw [← foundFirst] at isResult
          exact ⟨lastSecond, isResult⟩
        · rintro ⟨lastSecond, isResult⟩
          rw [finish_unfound_of_last lastSecond, pass_second_none]
          exact ⟨first, inList first firstMember, isResult, isFirst, rfl⟩

end SecondChoiceVictim

/-! ## Every victim -/

theorem takesFirstChoice_iff (sorted : SortedByThreat threatList)
    (listed : ∀ victim, currentVictim = some victim → victim ∈ threatList)
    (unusable : ∀ victim, currentVictim = some victim → attacker.isFirstChoice victim = false)
    (found : threatList.find? attacker.isFirstChoice = some first) :
    attacker.TakesFirstChoice threatList first
        (attacker.finish threatList (attacker.pass false currentVictim threatList)) ↔
      ∀ victim, currentVictim = some victim → attacker.isFirstChoice victim = false →
        attacker.FindsFirstChoice threatList first victim := by
  cases currentVictim with
  | none =>
      rw [pass_first_none, found]
      change attacker.TakesFirstChoice threatList first (some first) ↔ _
      rw [takesFirstChoice_some_iff (List.mem_of_find?_eq_some found)]
      constructor
      · intro _ victim isNone
        cases isNone
      · exact fun _ => ⟨List.find?_some found, rfl⟩
  | some victim =>
      have condition : (∀ other, some victim = some other → attacker.isFirstChoice other = false →
          attacker.FindsFirstChoice threatList first other) ↔
            attacker.FindsFirstChoice threatList first victim := by
        constructor
        · exact fun finds => finds victim rfl (unusable victim rfl)
        · intro finds other isOther _
          rw [← Option.some.inj isOther]
          exact finds
      rw [condition]
      have member := listed victim rfl
      cases second : attacker.isSecondChoice victim with
      | false =>
          have cannot : attacker.canCreatureAttack victim = false := by
            have notFirst := unusable victim rfl
            unfold isFirstChoice at notFirst
            rw [second, Bool.not_false, Bool.and_true] at notFirst
            exact notFirst
          exact takes_unattackable sorted member found cannot second
      | true =>
          obtain ⟨before, after, split, notBefore, notAfter⟩ := sorted.exists_split member
          cases foundBefore : before.find? attacker.isFirstChoice with
          | none =>
              rw [takes_of_none_before split notBefore second found foundBefore,
                takesFirstChoice_some_iff (List.mem_of_find?_eq_some found)]
              constructor
              · intro _
                refine .inl ⟨second, fun target member => ?_⟩
                rw [takeWhile_split split notBefore] at member
                exact Bool.eq_false_of_not_eq_true
                  (List.find?_eq_none.mp foundBefore target member)
              · exact fun _ => ⟨List.find?_some found, rfl⟩
          | some other =>
              have isFirst : other = first := by
                rw [split, List.find?_append, foundBefore, Option.some_or] at found
                exact Option.some.inj found
              rw [isFirst] at foundBefore
              cases stop : before.find? (attacker.stops (some victim)) with
              | some target =>
                  exact takes_of_stop_before sorted split notBefore second foundBefore stop
              | none =>
                  exact takes_of_waiting_before sorted split notBefore notAfter second
                    foundBefore stop

/-- The two passes obey the rules exactly when they find the victim. -/
theorem obeysThreatRules_iff (sorted : SortedByThreat threatList)
    (listed : ∀ victim, currentVictim = some victim → victim ∈ threatList) :
    attacker.ObeysThreatRules threatList currentVictim
        (attacker.finish threatList (attacker.pass false currentVictim threatList)) ↔
      attacker.FindsVictim threatList currentVictim := by
  unfold FindsVictim
  cases found : threatList.find? attacker.isFirstChoice with
  | none =>
      have noFirst : ∀ target ∈ threatList, attacker.isFirstChoice target = false :=
        fun target member =>
          Bool.eq_false_of_not_eq_true (List.find?_eq_none.mp found target member)
      rw [obeys_of_noFirst listed noFirst fun _ => finish_sound listed]
      have someone := finish_noFirst sorted listed noFirst
      rw [← Option.isSome_iff_exists, Option.isSome_iff_ne_none] at someone
      have anybody : (∀ target ∈ threatList, attacker.canCreatureAttack target = false) ↔
          ¬ ∃ target ∈ threatList, attacker.canCreatureAttack target = true := by
        simp
      unfold FindsSecondChoice
      dsimp only
      rw [anybody]
      constructor
      · intro finds
        by_cases anyone : ∃ target ∈ threatList, attacker.canCreatureAttack target = true
        · exact .inr (someone.mp fun isNone => finds isNone anyone).2
        · exact .inl anyone
      · intro finds isNone anyone
        exact someone.mpr ⟨anyone, finds.resolve_left (not_not_intro anyone)⟩ isNone
  | some first =>
      dsimp only
      by_cases unusable : ∀ victim, currentVictim = some victim →
          attacker.isFirstChoice victim = false
      · rw [obeys_of_first sorted found unusable,
          takesFirstChoice_iff sorted listed unusable found]
      · obtain ⟨victim, usable⟩ := not_forall.mp unusable
        obtain ⟨rfl, isUsable⟩ := Classical.not_imp.mp usable
        rw [Bool.not_eq_false] at isUsable
        have obeys := obeys_of_usable sorted (listed victim rfl) isUsable
        refine iff_of_true obeys ?_
        intro other isOther notFirst
        rw [← Option.some.inj isOther, isUsable] at notFirst
        cases notFirst

/-- The search ends, and obeys the threat rules exactly when it finds the victim. -/
theorem selectNextVictim_obeys_iff (attacker : Attacker) {threatList : List HostileReference}
    {currentVictim : Option HostileReference} (sorted : SortedByThreat threatList)
    (listed : ∀ victim, currentVictim = some victim → victim ∈ threatList) :
    ∃ result,
      (∀ turns, 2 * threatList.length + 1 < turns →
        attacker.selectNextVictim turns threatList currentVictim = some result) ∧
      (attacker.ObeysThreatRules threatList currentVictim result ↔
        attacker.FindsVictim threatList currentVictim) :=
  ⟨_, fun _ enough => selectNextVictim_eq threatList currentVictim enough,
    obeysThreatRules_iff sorted listed⟩

end Sorted

/-- Nobody is immune, held or near, and the target 2 cannot be attacked. -/
def ranged : Attacker where
  isImmunedToDamage _ := false
  hasNegativeAuraWithInterruptFlag _ := false
  canCreatureAttack target := target.unitGuid ≠ 2
  isWithinMeleeRange _ := false

theorem selectNextVictim_obeys_iff_ranged :
    ∃ result,
      (∀ turns, 2 * [(⟨1, 140, 0⟩ : HostileReference), ⟨2, 100, 0⟩].length + 1 < turns →
        ranged.selectNextVictim turns [⟨1, 140, 0⟩, ⟨2, 100, 0⟩] (some ⟨2, 100, 0⟩) = some result) ∧
      (ranged.ObeysThreatRules [⟨1, 140, 0⟩, ⟨2, 100, 0⟩] (some ⟨2, 100, 0⟩) result ↔
        ranged.FindsVictim [⟨1, 140, 0⟩, ⟨2, 100, 0⟩] (some ⟨2, 100, 0⟩)) := by
  have sorted : SortedByThreat [⟨1, 140, 0⟩, ⟨2, 100, 0⟩] :=
    ⟨by decide +kernel, by decide +kernel, by decide⟩
  have listed : ∀ victim, some (⟨2, 100, 0⟩ : HostileReference) = some victim →
      victim ∈ [(⟨1, 140, 0⟩ : HostileReference), ⟨2, 100, 0⟩] := by
    intro victim isVictim
    rw [← Option.some.inj isVictim]
    exact List.mem_cons_of_mem _ List.mem_cons_self
  exact selectNextVictim_obeys_iff ranged sorted listed

/-- With 120 percent, the only target that can be attacked is passed over. -/
theorem selectNextVictim_passes_over :
    ranged.selectNextVictim 6 [⟨1, 120, 0⟩, ⟨2, 100, 0⟩] (some ⟨2, 100, 0⟩) = some none ∧
      ¬ ranged.ObeysThreatRules [⟨1, 120, 0⟩, ⟨2, 100, 0⟩] (some ⟨2, 100, 0⟩) none := by
  constructor
  · decide +kernel
  · intro obeys
    have nobody := obeys.none_iff.mp rfl ⟨1, 120, 0⟩ List.mem_cons_self
    cases nobody

end Attacker

end RealmServer.Combat
