import Mathlib

/-!
# Greedy filling

An amount is put into places one after the other, into each as much as it has
room for, and into none twice.  What is left over is the amount less the room
of the places which were not taken before, whatever their order.
-/

namespace RealmServer.GreedyFill

universe u

variable {Place : Type u}

/-- The places which were taken, with what each has got, and what is left. -/
structure Plan (Place : Type u) where
  taken : List (Place × Nat)
  left : Nat
deriving DecidableEq, Repr

namespace Plan

def places (plan : Plan Place) : List Place := plan.taken.map Prod.fst

def total (plan : Plan Place) : Nat := (plan.taken.map Prod.snd).sum

end Plan

variable (room : Place → Nat)

def put (plan : Plan Place) (place : Place) : Plan Place :=
  { taken := plan.taken ++ [(place, min (room place) plan.left)]
    left := plan.left - min (room place) plan.left }

variable [DecidableEq Place]

/-- Stops as soon as a place takes the rest. -/
def fill : List Place → Plan Place → Plan Place
  | [], plan => plan
  | place :: later, plan =>
      if place ∈ plan.places then fill later plan
      else if (put room plan place).left = 0 then put room plan place
      else fill later (put room plan place)

/-- The room of the places which are not taken. -/
def roomBeside (taken : List Place) : List Place → Nat
  | [] => 0
  | place :: later =>
      if place ∈ taken then roomBeside taken later
      else room place + roomBeside (taken ++ [place]) later

variable {room} {plan : Plan Place} {places : List Place}

/-! ## Filling -/

omit [DecidableEq Place] in
@[simp]
theorem places_put (place : Place) : (put room plan place).places = plan.places ++ [place] := by
  unfold put Plan.places
  rw [List.map_append, List.map_cons, List.map_nil]

section Cons

variable {place : Place} (later : List Place)

theorem fill_cons_of_mem (isTaken : place ∈ plan.places) :
    fill room (place :: later) plan = fill room later plan := if_pos isTaken

theorem fill_cons_of_full (isNew : place ∉ plan.places) (isFull : (put room plan place).left = 0) :
    fill room (place :: later) plan = put room plan place := by
  unfold fill
  rw [if_neg isNew, if_pos isFull]

theorem fill_cons_of_left (isNew : place ∉ plan.places) (isLeft : (put room plan place).left ≠ 0) :
    fill room (place :: later) plan = fill room later (put room plan place) := by
  rw [fill, if_neg isNew, if_neg isLeft]

end Cons

/-- What each put keeps, the filling keeps. -/
theorem fill_preserves (invariant : Plan Place → Prop)
    (keeps : ∀ plan place, place ∈ places → place ∉ plan.places → invariant plan →
      invariant (put room plan place))
    (holds : invariant plan) : invariant (fill room places plan) := by
  induction places generalizing plan with
  | nil => exact holds
  | cons place later induction =>
      have keepsLater : ∀ plan other, other ∈ later → other ∉ plan.places → invariant plan →
          invariant (put room plan other) :=
        fun plan other member => keeps plan other (List.mem_cons_of_mem place member)
      by_cases isTaken : place ∈ plan.places
      · rw [fill_cons_of_mem later isTaken]
        exact induction keepsLater holds
      have next := keeps plan place List.mem_cons_self isTaken holds
      by_cases isFull : (put room plan place).left = 0
      · rw [fill_cons_of_full later isTaken isFull]
        exact next
      · rw [fill_cons_of_left later isTaken isFull]
        exact induction keepsLater next

theorem total_fill (room : Place → Nat) (places : List Place) (plan : Plan Place) :
    (fill room places plan).total + (fill room places plan).left = plan.total + plan.left := by
  refine fill_preserves (fun after => after.total + after.left = plan.total + plan.left) ?_ rfl
  intro before place _ _ same
  have part := Nat.min_le_right (room place) before.left
  have grown : (put room before place).total =
      before.total + min (room place) before.left := by
    unfold put Plan.total
    rw [List.map_append, List.sum_append, List.map_singleton, List.sum_singleton]
  rw [grown]
  unfold put
  dsimp only
  omega

theorem nodup_fill (nodup : plan.places.Nodup) : (fill room places plan).places.Nodup := by
  refine fill_preserves (fun after => after.places.Nodup) ?_ nodup
  intro before place _ isNew nodup
  rw [places_put]
  exact List.Nodup.append nodup (List.nodup_singleton place) (List.disjoint_singleton.mpr isNew)

/-- A place gets no more than it has room for. -/
theorem le_room_of_mem_fill (old : ∀ entry ∈ plan.taken, entry.2 ≤ room entry.1) :
    ∀ entry ∈ (fill room places plan).taken, entry.2 ≤ room entry.1 := by
  refine fill_preserves (fun after => ∀ entry ∈ after.taken, entry.2 ≤ room entry.1) ?_ old
  intro before place _ _ fits
  exact List.forall_mem_append.mpr ⟨fits, List.forall_mem_singleton.mpr (Nat.min_le_left _ _)⟩

/-- What is taken was taken before or is one of the places. -/
theorem mem_places_fill {place : Place} (member : place ∈ (fill room places plan).places) :
    place ∈ plan.places ∨ place ∈ places := by
  revert member
  refine fill_preserves
    (fun after => place ∈ after.places → place ∈ plan.places ∨ place ∈ places) ?_ Or.inl
  intro before other member _ known
  rw [places_put, List.mem_append, List.mem_singleton]
  rintro (old | isOther)
  · exact known old
  · exact .inr (isOther ▸ member)

theorem taken_prefix_fill (room : Place → Nat) (places : List Place) (plan : Plan Place) :
    plan.taken <+: (fill room places plan).taken := by
  refine fill_preserves (fun after => plan.taken <+: after.taken) ?_ List.prefix_rfl
  intro before place _ _ isPrefix
  exact isPrefix.trans (List.prefix_append _ _)

theorem places_subset_fill {place : Place} (isTaken : place ∈ plan.places) :
    place ∈ (fill room places plan).places :=
  ((taken_prefix_fill room places plan).map Prod.fst).subset isTaken

/-- As long as something is left, all places were tried. -/
theorem mem_fill_of_left (isLeft : (fill room places plan).left ≠ 0) :
    ∀ place ∈ places, place ∈ (fill room places plan).places := by
  induction places generalizing plan with
  | nil => exact fun _ member => absurd member List.not_mem_nil
  | cons place later induction =>
      by_cases isTaken : place ∈ plan.places
      · rw [fill_cons_of_mem later isTaken] at isLeft ⊢
        exact List.forall_mem_cons.mpr ⟨places_subset_fill isTaken, induction isLeft⟩
      by_cases isFull : (put room plan place).left = 0
      · rw [fill_cons_of_full later isTaken isFull] at isLeft
        exact absurd isFull isLeft
      · rw [fill_cons_of_left later isTaken isFull] at isLeft ⊢
        refine List.forall_mem_cons.mpr ⟨places_subset_fill ?_, induction isLeft⟩
        rw [places_put]
        exact List.mem_append_right _ (List.mem_singleton_self place)

/-! ## Room -/

theorem left_fill (room : Place → Nat) (places : List Place) (plan : Plan Place) :
    (fill room places plan).left = plan.left - roomBeside room plan.places places := by
  induction places generalizing plan with
  | nil => rfl
  | cons place later induction =>
      unfold fill roomBeside
      split_ifs with isTaken isFull
      · exact induction plan
      · rw [isFull]
        unfold put at isFull
        dsimp only at isFull
        omega
      · rw [induction, places_put]
        unfold put
        dsimp only
        omega

/-- Filling places in two parts; the second is tried if something is left. -/
theorem fill_append (first second : List Place) (isLeft : plan.left ≠ 0) :
    fill room (first ++ second) plan =
      if (fill room first plan).left = 0 then fill room first plan
      else fill room second (fill room first plan) := by
  induction first generalizing plan with
  | nil =>
      rw [List.nil_append]
      exact (if_neg isLeft).symm
  | cons place later induction =>
      rw [List.cons_append]
      by_cases isTaken : place ∈ plan.places
      · rw [fill_cons_of_mem _ isTaken, fill_cons_of_mem _ isTaken]
        exact induction isLeft
      by_cases isFull : (put room plan place).left = 0
      · rw [fill_cons_of_full _ isTaken isFull, fill_cons_of_full _ isTaken isFull, if_pos isFull]
      · rw [fill_cons_of_left _ isTaken isFull, fill_cons_of_left _ isTaken isFull]
        exact induction isFull

/-- The first place is taken, whatever is left. -/
theorem head_mem_fill (place : Place) (later : List Place) (plan : Plan Place) :
    place ∈ (fill room (place :: later) plan).places := by
  by_cases isTaken : place ∈ plan.places
  · exact places_subset_fill isTaken
  have isPut : place ∈ (put room plan place).places := by
    rw [places_put]
    exact List.mem_append_right _ (List.mem_singleton_self place)
  by_cases isFull : (put room plan place).left = 0
  · rw [fill_cons_of_full later isTaken isFull]
    exact isPut
  · rw [fill_cons_of_left later isTaken isFull]
    exact places_subset_fill isPut

/-- The room does not depend on the order of the places, nor on how often each is named. -/
theorem roomBeside_eq_sum (room : Place → Nat) (taken places : List Place) :
    roomBeside room taken places = ∑ place ∈ places.toFinset \ taken.toFinset, room place := by
  induction places generalizing taken with
  | nil =>
      rw [List.toFinset_nil, Finset.empty_sdiff, Finset.sum_empty]
      rfl
  | cons place later induction =>
      unfold roomBeside
      rw [List.toFinset_cons]
      split_ifs with isTaken
      · rw [induction, Finset.insert_sdiff_of_mem _ (List.mem_toFinset.mpr isTaken)]
      · have isNew : place ∉ taken.toFinset := fun member => isTaken (List.mem_toFinset.mp member)
        have others : later.toFinset \ (taken ++ [place]).toFinset =
            (insert place (later.toFinset \ taken.toFinset)).erase place := by
          ext other
          simp only [Finset.mem_sdiff, Finset.mem_erase, Finset.mem_insert, List.mem_toFinset,
            List.mem_append, List.mem_singleton]
          tauto
        rw [induction, others, Finset.insert_sdiff_of_notMem _ isNew]
        exact Finset.add_sum_erase _ room (Finset.mem_insert_self place _)

theorem roomBeside_congr {first second : List Place}
    (same : ∀ place, place ∈ first ↔ place ∈ second) (places : List Place) :
    roomBeside room first places = roomBeside room second places := by
  rw [roomBeside_eq_sum, roomBeside_eq_sum]
  congr 2
  ext place
  rw [List.mem_toFinset, List.mem_toFinset, same]

/-- As long as something is left, all room is used. -/
theorem total_fill_of_left (isLeft : roomBeside room plan.places places < plan.left) :
    (fill room places plan).total = plan.total + roomBeside room plan.places places := by
  have isTotal := total_fill room places plan
  rw [left_fill] at isTotal
  omega

theorem mem_places_fill_iff (isLeft : roomBeside room plan.places places < plan.left)
    (place : Place) :
    place ∈ (fill room places plan).places ↔ place ∈ plan.places ∨ place ∈ places := by
  have notFull : (fill room places plan).left ≠ 0 := by
    rw [left_fill]
    exact Nat.sub_ne_zero_of_lt isLeft
  exact ⟨mem_places_fill, fun member =>
    member.elim places_subset_fill fun later => mem_fill_of_left notFull place later⟩

end RealmServer.GreedyFill
