import Mathlib

/-!
# Ascents

Each node has at most one mother.  Going up from a node either ends or enters a
circle, from a node outside of it unless the start lies on the circle.  On a
circle every node has exactly one child.
-/

namespace RealmServer.Ascent

universe u

variable {Node : Type u}

/-- One step up; nothing is above a node without a mother. -/
def ascend (mother : Node → Option Node) (node : Option Node) : Option Node := node.bind mother

/-- The node so many steps above the start. -/
def above (mother : Node → Option Node) (start : Node) (steps : Nat) : Option Node :=
  (ascend mother)^[steps] (some start)

def OnCircle (mother : Node → Option Node) (node : Node) : Prop :=
  some node ∈ Function.periodicPts (ascend mother)

/-- The ascent comes onto a circle at this node. -/
structure Enters (mother : Node → Option Node) (start entry : Node) (steps : Nat) : Prop where
  above : above mother start steps = some entry
  onCircle : OnCircle mother entry
  outside : ∀ earlier < steps, ∀ node, Ascent.above mother start earlier = some node →
    ¬OnCircle mother node

/-- The last link of the circle which the ascent enters. -/
structure Closes (mother : Node → Option Node) (start node : Node) : Prop where
  onCircle : OnCircle mother node
  link : ∃ entry steps, mother node = some entry ∧ Enters mother start entry steps

variable {mother : Node → Option Node}

theorem above_succ (start : Node) (steps : Nat) :
    above mother start (steps + 1) = (above mother start steps).bind mother :=
  Function.iterate_succ_apply' _ _ _

theorem above_succ_of_mother {start node : Node} (link : mother start = some node)
    (steps : Nat) : above mother start (steps + 1) = above mother node steps := by
  unfold above
  rw [Function.iterate_succ_apply]
  show (ascend mother)^[steps] (mother start) = _
  rw [link]

theorem above_add {start middle : Node} {steps : Nat}
    (reached : above mother start steps = some middle) (more : Nat) :
    above mother start (more + steps) = above mother middle more := by
  unfold above at reached ⊢
  rw [Function.iterate_add_apply, reached]

/-- An ascent which has ended stays so. -/
theorem above_none_of_le {start : Node} {steps later : Nat}
    (ended : above mother start steps = none) (le : steps ≤ later) :
    above mother start later = none := by
  induction le with
  | refl => exact ended
  | step _ induction => rw [above_succ, induction, Option.bind_none]

theorem above_of_le {start node : Node} {steps earlier : Nat}
    (reached : above mother start steps = some node) (le : earlier ≤ steps) :
    ∃ other, above mother start earlier = some other := by
  cases found : above mother start earlier with
  | none =>
      rw [above_none_of_le found le] at reached
      cases reached
  | some other => exact ⟨other, rfl⟩

/-! ## Circles -/

theorem onCircle_iff {node : Node} :
    OnCircle mother node ↔ ∃ steps, 0 < steps ∧ above mother node steps = some node :=
  Iff.rfl

theorem OnCircle.above {node other : Node} (onCircle : OnCircle mother node) {steps : Nat}
    (reached : above mother node steps = some other) : OnCircle mother other := by
  obtain ⟨period, positive, returns⟩ := onCircle
  have periodic := Function.IsPeriodicPt.apply_iterate returns steps
  rw [show (ascend mother)^[steps] (some node) = some other from reached] at periodic
  exact ⟨period, positive, periodic⟩

/-- Whatever is above a node of a circle is below it as well. -/
theorem OnCircle.returns {node other : Node} (onCircle : OnCircle mother node) {steps : Nat}
    (reached : Ascent.above mother node steps = some other) :
    ∃ back, Ascent.above mother other back = some node := by
  obtain ⟨period, positive, returns⟩ := onCircle
  have again : Ascent.above mother node (steps * period) = some node :=
    Function.IsPeriodicPt.const_mul returns steps
  have enough : steps ≤ steps * period := Nat.le_mul_of_pos_right steps positive
  refine ⟨steps * period - steps, ?_⟩
  rw [← above_add reached, Nat.sub_add_cancel enough]
  exact again

theorem OnCircle.endless {node : Node} (onCircle : OnCircle mother node) (steps : Nat) :
    ∃ other, Ascent.above mother node steps = some other := by
  obtain ⟨period, positive, returns⟩ := onCircle
  have again : Ascent.above mother node (steps * period) = some node :=
    Function.IsPeriodicPt.const_mul returns steps
  exact above_of_le again (Nat.le_mul_of_pos_right steps positive)

theorem OnCircle.eq_of_mother {first second entry : Node} (isFirst : OnCircle mother first)
    (isSecond : OnCircle mother second) (firstLink : mother first = some entry)
    (secondLink : mother second = some entry) : first = second := by
  obtain ⟨period, positive, returns⟩ := isFirst
  obtain ⟨other, otherPositive, otherReturns⟩ := isSecond
  have same : ascend mother (some first) = ascend mother (some second) :=
    firstLink.trans secondLink.symm
  exact Option.some.inj (returns.eq_of_apply_eq otherReturns positive otherPositive same)

theorem OnCircle.child {node : Node} (onCircle : OnCircle mother node) :
    ∃ child steps, Ascent.above mother node steps = some child ∧ mother child = some node := by
  obtain ⟨period, positive, returns⟩ := onCircle_iff.mp onCircle
  obtain ⟨steps, rfl⟩ := Nat.exists_eq_add_one_of_ne_zero (Nat.ne_of_gt positive)
  obtain ⟨child, reached⟩ := onCircle.endless steps
  rw [above_succ, reached] at returns
  exact ⟨child, steps, reached, returns⟩

theorem OnCircle.above_of_above {start first second : Node}
    (isSecond : OnCircle mother second) {steps other : Nat}
    (reachesFirst : Ascent.above mother start steps = some first)
    (reachesSecond : Ascent.above mother start other = some second) :
    ∃ more, Ascent.above mother first more = some second := by
  rcases Nat.le_total steps other with le | le
  · refine ⟨other - steps, ?_⟩
    rw [← above_add reachesFirst, Nat.sub_add_cancel le]
    exact reachesSecond
  · have reached : Ascent.above mother second (steps - other) = some first := by
      rw [← above_add reachesSecond, Nat.sub_add_cancel le]
      exact reachesFirst
    exact isSecond.returns reached

/-! ## Entries -/

theorem Enters.unique {start first second : Node} {steps other : Nat}
    (isFirst : Enters mother start first steps) (isSecond : Enters mother start second other) :
    first = second := by
  rcases Nat.lt_trichotomy steps other with less | rfl | less
  · exact absurd isFirst.onCircle (isSecond.outside steps less first isFirst.above)
  · exact Option.some.inj (isFirst.above.symm.trans isSecond.above)
  · exact absurd isSecond.onCircle (isFirst.outside other less second isSecond.above)

/-- An ascent to a node of a circle has entered the circle. -/
theorem exists_enters {start node : Node} {steps : Nat} (onCircle : OnCircle mother node)
    (reached : above mother start steps = some node) :
    ∃ entry first, Enters mother start entry first := by
  classical
  have meets : ∃ steps, ∃ node, above mother start steps = some node ∧ OnCircle mother node :=
    ⟨steps, node, reached, onCircle⟩
  obtain ⟨entry, isAbove, onCircle⟩ := Nat.find_spec meets
  refine ⟨entry, Nat.find meets, isAbove, onCircle, ?_⟩
  intro earlier less other isOther onCircle
  exact Nat.find_min meets less ⟨other, isOther, onCircle⟩

theorem Closes.unique {start first second : Node} (isFirst : Closes mother start first)
    (isSecond : Closes mother start second) : first = second := by
  obtain ⟨entry, steps, link, enters⟩ := isFirst.link
  obtain ⟨other, others, otherLink, otherEnters⟩ := isSecond.link
  obtain rfl := enters.unique otherEnters
  exact isFirst.onCircle.eq_of_mother isSecond.onCircle link otherLink

theorem Closes.reached {start node : Node} (closes : Closes mother start node) :
    ∃ steps, above mother start steps = some node := by
  obtain ⟨entry, steps, link, enters⟩ := closes.link
  have oneStep : above mother node 1 = some entry := link
  obtain ⟨back, returns⟩ := closes.onCircle.returns oneStep
  refine ⟨back + steps, ?_⟩
  rw [above_add enters.above]
  exact returns

/-- Each circle above a start has a link which closes it. -/
theorem exists_closes {start node : Node} {steps : Nat} (onCircle : OnCircle mother node)
    (reached : above mother start steps = some node) :
    ∃ last, Closes mother start last := by
  obtain ⟨entry, first, enters⟩ := exists_enters onCircle reached
  obtain ⟨child, back, isAbove, link⟩ := enters.onCircle.child
  exact ⟨child, enters.onCircle.above isAbove, entry, first, link, enters⟩

/-! ## Fewer links -/

/-- All links of one are links of the other. -/
structure Fewer (fewer mother : Node → Option Node) : Prop where
  link : ∀ child node, fewer child = some node → mother child = some node

variable {fewer : Node → Option Node}

theorem Fewer.above (isFewer : Fewer fewer mother) {start node : Node} {steps : Nat}
    (reached : Ascent.above fewer start steps = some node) :
    Ascent.above mother start steps = some node := by
  induction steps generalizing node with
  | zero => exact reached
  | succ steps induction =>
      rw [above_succ] at reached ⊢
      obtain ⟨middle, isMiddle, link⟩ := Option.bind_eq_some_iff.mp reached
      rw [induction isMiddle, Option.bind_some]
      exact isFewer.link middle node link

theorem Fewer.onCircle (isFewer : Fewer fewer mother) {node : Node}
    (onCircle : OnCircle fewer node) : OnCircle mother node := by
  obtain ⟨period, positive, returns⟩ := onCircle_iff.mp onCircle
  exact onCircle_iff.mpr ⟨period, positive, isFewer.above returns⟩

/-- The ascents agree where no link is missing. -/
theorem above_eq_of_links {start : Node}
    (same : ∀ steps node, above mother start steps = some node → fewer node = mother node)
    (steps : Nat) : above fewer start steps = above mother start steps := by
  induction steps with
  | zero => rfl
  | succ steps induction =>
      rw [above_succ, above_succ, induction]
      cases isAbove : above mother start steps with
      | none => rfl
      | some node => exact same steps node isAbove

end RealmServer.Ascent
