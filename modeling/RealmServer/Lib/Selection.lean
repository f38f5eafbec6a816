import Mathlib.Algebra.BigOperators.Group.Finset.Basic
import Mathlib.Data.Finset.Prod
import Mathlib.Data.Nat.Choose.Basic
import Mathlib.Data.Finset.Card
import Mathlib.Order.Interval.Finset.Nat
import Mathlib.Tactic.Ring

/-!
# Selection in one pass

A fixed number of the elements of a sequence is chosen in a single pass: with
`keep` elements still to choose among the `m` which are left, the next one is
chosen if a number drawn from `1 .. m` is at most `keep`.  All the numbers of a
pass together are an outcome.  What is proved is that every outcome chooses as
many elements as it should and that every choice comes from equally many
outcomes.
-/

namespace RealmServer.Selection

universe u

variable {Element : Type u}

/-! ## Choices -/

/-- The elements whose place in the choice says so. -/
def pick : List Bool → List Element → List Element
  | true :: choice, element :: elements => element :: pick choice elements
  | false :: choice, _ :: elements => pick choice elements
  | _, _ => []

/-- A choice of `keep` elements out of `size`. -/
structure Chooses (size keep : Nat) (choice : List Bool) : Prop where
  length : choice.length = size
  count : choice.count true = keep

@[simp]
theorem pick_nil (choice : List Bool) : pick choice ([] : List Element) = [] := by
  cases choice with
  | nil => rfl
  | cons first rest => cases first <;> rfl

theorem pick_sublist (choice : List Bool) (elements : List Element) :
    (pick choice elements).Sublist elements := by
  induction elements generalizing choice with
  | nil => simp
  | cons element elements induction =>
      cases choice with
      | nil => exact List.nil_sublist _
      | cons first rest =>
          cases first with
          | true => exact (induction rest).cons_cons element
          | false => exact (induction rest).cons element

theorem Chooses.length_pick {keep : Nat} {choice : List Bool} {elements : List Element}
    (chooses : Chooses elements.length keep choice) :
    (pick choice elements).length = keep := by
  induction elements generalizing choice keep with
  | nil =>
      have empty := List.eq_nil_of_length_eq_zero chooses.length
      have none := chooses.count
      rw [empty, List.count_nil] at none
      rw [pick_nil, List.length_nil, none]
  | cons element elements induction =>
      obtain ⟨length, count⟩ := chooses
      cases choice with
      | nil => simp at length
      | cons first rest =>
          rw [List.length_cons, List.length_cons, Nat.succ_inj] at length
          cases first with
          | true =>
              rw [List.count_cons_self] at count
              rw [pick, List.length_cons, induction ⟨length, rfl⟩, count]
          | false =>
              rw [List.count_cons_of_ne (by simp)] at count
              rw [pick, induction ⟨length, count⟩]

/-! ## Outcomes -/

/-- All the outcomes of a pass over so many elements. -/
def outcomes : Nat → Finset (List Nat)
  | 0 => {[]}
  | size + 1 => (Finset.Icc 1 (size + 1) ×ˢ outcomes size).image fun drawn => drawn.1 :: drawn.2

theorem cons_injective : Function.Injective fun drawn : Nat × List Nat => drawn.1 :: drawn.2 := by
  intro first second same
  obtain ⟨heads, tails⟩ := List.cons.inj same
  exact Prod.ext heads tails

@[simp]
theorem mem_outcomes_zero (rolls : List Nat) : rolls ∈ outcomes 0 ↔ rolls = [] :=
  Finset.mem_singleton

theorem mem_outcomes_succ (size : Nat) (rolls : List Nat) :
    rolls ∈ outcomes (size + 1) ↔
      ∃ roll later, rolls = roll :: later ∧ 1 ≤ roll ∧ roll ≤ size + 1 ∧
        later ∈ outcomes size := by
  rw [outcomes, Finset.mem_image]
  constructor
  · rintro ⟨⟨roll, later⟩, member, rfl⟩
    rw [Finset.mem_product, Finset.mem_Icc] at member
    exact ⟨roll, later, rfl, member.1.1, member.1.2, member.2⟩
  · rintro ⟨roll, later, rfl, positive, atMost, member⟩
    exact ⟨(roll, later),
      Finset.mem_product.2 ⟨Finset.mem_Icc.2 ⟨positive, atMost⟩, member⟩, rfl⟩

theorem card_outcomes (size : Nat) : (outcomes size).card = size.factorial := by
  induction size with
  | zero => rfl
  | succ size induction =>
      rw [outcomes, Finset.card_image_of_injective _ cons_injective, Finset.card_product,
        Nat.card_Icc, induction, Nat.factorial_succ, Nat.add_sub_cancel]

/-! ## What an outcome chooses -/

/-- The choice that is made for an outcome. -/
def decisions : Nat → List Nat → List Bool
  | _, [] => []
  | keep, roll :: rolls =>
      if roll ≤ keep then true :: decisions (keep - 1) rolls else false :: decisions keep rolls

theorem decisions_cons_of_le {keep roll : Nat} (chosen : roll ≤ keep) (rolls : List Nat) :
    decisions keep (roll :: rolls) = true :: decisions (keep - 1) rolls := if_pos chosen

theorem decisions_cons_of_lt {keep roll : Nat} (dropped : keep < roll) (rolls : List Nat) :
    decisions keep (roll :: rolls) = false :: decisions keep rolls :=
  if_neg (Nat.not_le.2 dropped)

/-- The number to keep never exceeds the number of elements which are left. -/
theorem decisions_chooses {size keep : Nat} (enough : keep ≤ size) {rolls : List Nat}
    (member : rolls ∈ outcomes size) : Chooses size keep (decisions keep rolls) := by
  induction size generalizing keep rolls with
  | zero =>
      rw [(mem_outcomes_zero rolls).1 member, Nat.le_zero.1 enough]
      exact ⟨rfl, rfl⟩
  | succ size induction =>
      obtain ⟨roll, later, rfl, positive, atMost, member⟩ := (mem_outcomes_succ size rolls).1 member
      rcases Nat.lt_or_ge keep roll with dropped | chosen
      · have left : keep ≤ size := by omega
        obtain ⟨length, count⟩ := induction left member
        rw [decisions_cons_of_lt dropped]
        exact ⟨by rw [List.length_cons, length], by rw [List.count_cons_of_ne (by simp), count]⟩
      · have left : keep - 1 ≤ size := by omega
        obtain ⟨length, count⟩ := induction left member
        rw [decisions_cons_of_le chosen]
        refine ⟨by rw [List.length_cons, length], ?_⟩
        rw [List.count_cons_self, count]
        omega

/-- The outcomes which lead to a choice. -/
def leadingTo (size keep : Nat) (choice : List Bool) : Finset (List Nat) :=
  (outcomes size).filter fun rolls => decisions keep rolls = choice

theorem mem_leadingTo {size keep : Nat} {choice : List Bool} {rolls : List Nat} :
    rolls ∈ leadingTo size keep choice ↔
      rolls ∈ outcomes size ∧ decisions keep rolls = choice := Finset.mem_filter

/-- The first element is chosen by the numbers up to `keep`. -/
theorem leadingTo_chosen {size keep : Nat} (enough : keep ≤ size + 1) (choice : List Bool) :
    leadingTo (size + 1) keep (true :: choice) =
      (Finset.Icc 1 keep ×ˢ leadingTo size (keep - 1) choice).image
        fun drawn => drawn.1 :: drawn.2 := by
  ext rolls
  rw [mem_leadingTo, mem_outcomes_succ, Finset.mem_image]
  constructor
  · rintro ⟨⟨roll, later, rfl, positive, _, member⟩, decided⟩
    rcases Nat.lt_or_ge keep roll with dropped | chosen
    · simp [decisions_cons_of_lt dropped] at decided
    · rw [decisions_cons_of_le chosen] at decided
      exact ⟨(roll, later), Finset.mem_product.2 ⟨Finset.mem_Icc.2 ⟨positive, chosen⟩,
        mem_leadingTo.2 ⟨member, (List.cons.inj decided).2⟩⟩, rfl⟩
  · rintro ⟨⟨roll, later⟩, member, rfl⟩
    rw [Finset.mem_product, Finset.mem_Icc, mem_leadingTo] at member
    obtain ⟨⟨positive, chosen⟩, member, decided⟩ := member
    exact ⟨⟨roll, later, rfl, positive, chosen.trans enough, member⟩,
      by rw [decisions_cons_of_le chosen, decided]⟩

/-- The first element is passed over for the numbers above `keep`. -/
theorem leadingTo_dropped (size keep : Nat) (choice : List Bool) :
    leadingTo (size + 1) keep (false :: choice) =
      (Finset.Icc (keep + 1) (size + 1) ×ˢ leadingTo size keep choice).image
        fun drawn => drawn.1 :: drawn.2 := by
  ext rolls
  rw [mem_leadingTo, mem_outcomes_succ, Finset.mem_image]
  constructor
  · rintro ⟨⟨roll, later, rfl, _, atMost, member⟩, decided⟩
    rcases Nat.lt_or_ge keep roll with dropped | chosen
    · rw [decisions_cons_of_lt dropped] at decided
      exact ⟨(roll, later), Finset.mem_product.2 ⟨Finset.mem_Icc.2 ⟨dropped, atMost⟩,
        mem_leadingTo.2 ⟨member, (List.cons.inj decided).2⟩⟩, rfl⟩
    · simp [decisions_cons_of_le chosen] at decided
  · rintro ⟨⟨roll, later⟩, member, rfl⟩
    rw [Finset.mem_product, Finset.mem_Icc, mem_leadingTo] at member
    obtain ⟨⟨dropped, atMost⟩, member, decided⟩ := member
    exact ⟨⟨roll, later, rfl, Nat.one_le_of_lt dropped, atMost, member⟩,
      by rw [decisions_cons_of_lt dropped, decided]⟩

/-- Every choice comes from equally many outcomes. -/
theorem card_leadingTo {size keep : Nat} {choice : List Bool}
    (chooses : Chooses size keep choice) :
    (leadingTo size keep choice).card = keep.factorial * (size - keep).factorial := by
  induction choice generalizing size keep with
  | nil =>
      obtain ⟨length, count⟩ := chooses
      rw [List.length_nil] at length
      rw [List.count_nil] at count
      rw [← length, ← count]
      rfl
  | cons first rest induction =>
      obtain ⟨length, count⟩ := chooses
      have atMost := List.count_le_length (a := true) (l := rest)
      rw [List.length_cons] at length
      rw [← length]
      cases first with
      | true =>
          rw [List.count_cons_self] at count
          rw [← count, leadingTo_chosen (by omega),
            Finset.card_image_of_injective _ cons_injective, Finset.card_product, Nat.card_Icc,
            Nat.add_sub_cancel, Nat.add_sub_cancel, induction ⟨rfl, rfl⟩, Nat.factorial_succ,
            Nat.add_sub_add_right, Nat.mul_assoc]
      | false =>
          rw [List.count_cons_of_ne (by simp)] at count
          have left : rest.length + 1 - keep = rest.length - keep + 1 := by omega
          rw [leadingTo_dropped, Finset.card_image_of_injective _ cons_injective,
            Finset.card_product, Nat.card_Icc, induction ⟨rfl, count⟩, left, Nat.factorial_succ,
            Nat.add_sub_add_right, left]
          ring

/-- A choice of `keep` elements out of `size` is one of `size.choose keep`. -/
theorem card_leadingTo_mul_choose {size keep : Nat} {choice : List Bool}
    (chooses : Chooses size keep choice) :
    (leadingTo size keep choice).card * size.choose keep = (outcomes size).card := by
  have atMost : keep ≤ size := by
    rw [← chooses.length, ← chooses.count]
    exact List.count_le_length
  rw [card_leadingTo chooses, card_outcomes, ← Nat.choose_mul_factorial_mul_factorial atMost]
  ring

end RealmServer.Selection
