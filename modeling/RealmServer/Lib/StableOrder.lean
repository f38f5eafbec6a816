import Mathlib

/-!
# Stable orders

Elements are inserted one after the other into a list, each behind those which
the comparison does not tell apart from it.  The result is a sorted list in
which such elements keep their order, and what is kept of it when the list is
cut off after each insertion is its beginning.
-/

namespace RealmServer.StableOrder

universe u

variable {Element : Type u} {before : Element → Element → Prop} {number : Element → Nat}

/-- First by the comparison and then by number. -/
def Ahead (before : Element → Element → Prop) (number : Element → Nat)
    (first second : Element) : Prop :=
  before first second ∨ ¬before second first ∧ number first ≤ number second

instance [DecidableRel before] : DecidableRel (Ahead before number) := fun first second =>
  inferInstanceAs (Decidable (before first second ∨
    ¬before second first ∧ number first ≤ number second))

theorem ahead_total (first second : Element) :
    Ahead before number first second ∨ Ahead before number second first := by
  by_cases isBefore : before first second
  · exact .inl (.inl isBefore)
  by_cases isAfter : before second first
  · exact .inr (.inl isAfter)
  rcases Nat.le_total (number first) (number second) with below | above
  · exact .inl (.inr ⟨isAfter, below⟩)
  · exact .inr (.inr ⟨isBefore, above⟩)

instance : Std.Total (Ahead before number) := ⟨ahead_total⟩

theorem ahead_antisymm [Std.Asymm before] {first second : Element}
    (ahead : Ahead before number first second) (behind : Ahead before number second first) :
    number first = number second := by
  rcases ahead with isBefore | ⟨notAfter, below⟩
  · rcases behind with isAfter | ⟨notBefore, _⟩
    · exact absurd isAfter (Std.Asymm.asymm _ _ isBefore)
    · exact absurd isBefore notBefore
  · rcases behind with isAfter | ⟨_, above⟩
    · exact absurd isAfter notAfter
    · exact le_antisymm below above

/-- The comparison never puts the later of two elements first. -/
theorem Ahead.not_before [Std.Asymm before] {first second : Element}
    (ahead : Ahead before number first second) : ¬before second first := by
  rcases ahead with isBefore | ⟨notAfter, _⟩
  · exact Std.Asymm.asymm _ _ isBefore
  · exact notAfter

section Connected

variable [Std.Asymm before] [IsOrderConnected Element before]

theorem before_of_before_of_ahead {first second third : Element} (isBefore : before first second)
    (ahead : Ahead before number second third) : before first third := by
  rcases IsOrderConnected.conn first third second isBefore with found | wrong
  · exact found
  · exact absurd wrong ahead.not_before

theorem before_of_ahead_of_before {first second third : Element}
    (ahead : Ahead before number first second) (isBefore : before second third) :
    before first third := by
  rcases IsOrderConnected.conn second first third isBefore with wrong | found
  · exact absurd wrong ahead.not_before
  · exact found

theorem Ahead.trans {first second third : Element} (ahead : Ahead before number first second)
    (further : Ahead before number second third) : Ahead before number first third := by
  have isAhead := ahead
  rcases ahead with isBefore | ⟨notAfter, below⟩
  · exact .inl (before_of_before_of_ahead isBefore further)
  rcases further with isBefore | ⟨notLater, later⟩
  · exact .inl (before_of_ahead_of_before isAhead isBefore)
  refine .inr ⟨?_, below.trans later⟩
  intro wrong
  rcases IsOrderConnected.conn third second first wrong with found | found
  · exact notLater found
  · exact notAfter found

instance : IsTrans Element (Ahead before number) := ⟨fun _ _ _ => Ahead.trans⟩

end Connected

/-! ## Cut off -/

section Insertions

variable (before) [DecidableRel before] (number)

/-- The elements by rank; those which compare alike are ranked by number. -/
def ranking (elements : List Element) : List Element :=
  elements.insertionSort (Ahead before number)

/-- An insertion after which the last element goes if there are too many. -/
def keepFirst (bound : Nat) (kept : List Element) (element : Element) : List Element :=
  if bound < (kept.orderedInsert before element).length then
    (kept.orderedInsert before element).dropLast
  else kept.orderedInsert before element

theorem ranking_length (elements : List Element) :
    (ranking before number elements).length = elements.length :=
  (List.perm_insertionSort _ elements).length_eq

theorem perm_ranking (elements : List Element) : (ranking before number elements).Perm elements :=
  List.perm_insertionSort _ elements

/-- What keeps the comparison and the numbers keeps the ranking. -/
theorem ranking_map {elements : List Element} (change : Element → Element)
    (keeps : ∀ first second, before (change first) (change second) ↔ before first second)
    (sameNumber : ∀ element, number (change element) = number element) :
    ranking before number (elements.map change) =
      (ranking before number elements).map change := by
  refine (List.map_insertionSort (Ahead before number) _ change elements ?_).symm
  intro first _ second _
  unfold Ahead
  rw [keeps, keeps, sameNumber, sameNumber]

theorem take_orderedInsert_take (bound : Nat) (elements : List Element) (element : Element) :
    ((elements.take bound).orderedInsert before element).take bound =
      (elements.orderedInsert before element).take bound := by
  induction elements generalizing bound with
  | nil => rw [List.take_nil]
  | cons head rest induction =>
      cases bound with
      | zero => rfl
      | succ bound =>
          by_cases isBefore : before element head
          · rw [List.take_succ_cons, List.orderedInsert_cons_of_le _ _ isBefore,
              List.orderedInsert_cons_of_le _ _ isBefore, List.take_succ_cons,
              List.take_succ_cons]
            congr 1
            cases bound with
            | zero => rfl
            | succ bound =>
                rw [List.take_succ_cons, List.take_succ_cons, List.take_take]
                congr 2
                omega
          · rw [List.take_succ_cons, List.orderedInsert_of_not_le _ _ isBefore,
              List.orderedInsert_of_not_le _ _ isBefore, List.take_succ_cons,
              List.take_succ_cons, induction]

theorem keepFirst_take (bound : Nat) (elements : List Element) (element : Element) :
    keepFirst before bound (elements.take bound) element =
      (elements.orderedInsert before element).take bound := by
  have length := List.orderedInsert_length before (elements.take bound) element
  have atMost := List.length_take_le bound elements
  unfold keepFirst
  split_ifs with tooMany
  · rw [← take_orderedInsert_take before, List.dropLast_eq_take]
    congr 1
    omega
  · have whole := List.take_of_length_le (not_lt.mp tooMany)
    rw [← take_orderedInsert_take before, whole]

theorem foldl_keepFirst (bound : Nat) (elements sorted : List Element) :
    elements.foldl (keepFirst before bound) (sorted.take bound) =
      (elements.foldl (fun kept element => kept.orderedInsert before element) sorted).take
        bound := by
  induction elements generalizing sorted with
  | nil => rfl
  | cons element rest induction =>
      rw [List.foldl_cons, List.foldl_cons, keepFirst_take, induction]

/-! ## Ranks -/

variable {before} {number} [Std.Asymm before] [IsOrderConnected Element before]

/-- The greatest number goes behind all which compare alike. -/
theorem pairwise_orderedInsert {kept : List Element} {element : Element}
    (sorted : kept.Pairwise (Ahead before number))
    (newest : ∀ other ∈ kept, number other ≤ number element) :
    (kept.orderedInsert before element).Pairwise (Ahead before number) := by
  induction kept with
  | nil => exact List.pairwise_singleton _ _
  | cons head rest induction =>
      by_cases isBefore : before element head
      · rw [List.orderedInsert_cons_of_le _ _ isBefore, List.pairwise_cons]
        refine ⟨?_, sorted⟩
        intro other member
        rcases List.mem_cons.mp member with rfl | later
        · exact .inl isBefore
        · have behind := (List.pairwise_cons.mp sorted).1 other later
          exact .inl (before_of_before_of_ahead isBefore behind)
      · rw [List.orderedInsert_of_not_le _ _ isBefore, List.pairwise_cons]
        rw [List.pairwise_cons] at sorted
        constructor
        · intro other member
          rcases (List.mem_orderedInsert before).mp member with rfl | later
          · exact .inr ⟨isBefore, newest head List.mem_cons_self⟩
          · exact sorted.1 other later
        · exact induction sorted.2 fun other later =>
            newest other (List.mem_cons_of_mem _ later)

theorem foldl_orderedInsert_spec {elements kept : List Element}
    (sorted : kept.Pairwise (Ahead before number))
    (increasing : (elements.map number).Pairwise (· < ·))
    (newer : ∀ other ∈ kept, ∀ element ∈ elements, number other ≤ number element) :
    (elements.foldl (fun kept element => kept.orderedInsert before element) kept).Pairwise
        (Ahead before number) ∧
      (elements.foldl (fun kept element => kept.orderedInsert before element) kept).Perm
        (kept ++ elements) := by
  induction elements generalizing kept with
  | nil =>
      rw [List.append_nil]
      exact ⟨sorted, .refl _⟩
  | cons element rest induction =>
      rw [List.map_cons, List.pairwise_cons] at increasing
      have inserted := pairwise_orderedInsert sorted fun other member =>
        newer other member element List.mem_cons_self
      have perm := List.perm_orderedInsert before element kept
      have later : ∀ other ∈ kept.orderedInsert before element, ∀ next ∈ rest,
          number other ≤ number next := by
        intro other member next isNext
        rcases List.mem_cons.mp (perm.mem_iff.mp member) with rfl | old
        · exact (increasing.1 _ (List.mem_map_of_mem isNext)).le
        · exact newer other old next (List.mem_cons_of_mem _ isNext)
      obtain ⟨ranked, same⟩ := induction inserted increasing.2 later
      refine ⟨ranked, same.trans ?_⟩
      exact (perm.append_right rest).trans List.perm_middle.symm

theorem pairwise_ranking (elements : List Element) :
    (ranking before number elements).Pairwise (Ahead before number) :=
  List.pairwise_insertionSort _ _

/-- With different numbers there is one sorted list of the elements. -/
theorem eq_ranking {elements sorted : List Element} (distinct : (elements.map number).Nodup)
    (ranked : sorted.Pairwise (Ahead before number)) (perm : sorted.Perm elements) :
    sorted = ranking before number elements := by
  have same := perm.trans (perm_ranking before number elements).symm
  apply same.eq_of_pairwise _ ranked (pairwise_ranking elements)
  intro first second isFirst isSecond ahead behind
  have equal := ahead_antisymm ahead behind
  exact List.inj_on_of_nodup_map distinct (perm.mem_iff.mp isFirst)
    ((perm_ranking before number elements).mem_iff.mp isSecond) equal

theorem foldl_orderedInsert_eq_ranking {elements : List Element}
    (increasing : (elements.map number).Pairwise (· < ·)) :
    elements.foldl (fun kept element => kept.orderedInsert before element) [] =
      ranking before number elements := by
  have empty : ([] : List Element).Pairwise (Ahead before number) := .nil
  obtain ⟨ranked, perm⟩ := foldl_orderedInsert_spec empty increasing nofun
  exact eq_ranking (increasing.imp Nat.ne_of_lt) ranked perm

theorem ranking_filter {elements : List Element} (distinct : (elements.map number).Nodup)
    (keep : Element → Bool) :
    ranking before number (elements.filter keep) =
      (ranking before number elements).filter keep := by
  have some : ((elements.filter keep).map number).Nodup :=
    distinct.sublist (List.filter_sublist.map number)
  exact (eq_ranking some ((pairwise_ranking elements).filter keep)
    ((perm_ranking before number elements).filter keep)).symm

/-- The ranking with an element whose number is the greatest. -/
theorem ranking_append {elements : List Element} {element : Element}
    (distinct : (elements.map number).Nodup)
    (newest : ∀ other ∈ elements, number other < number element) :
    ranking before number (elements ++ [element]) =
      (ranking before number elements).orderedInsert before element := by
  have inRanking : ∀ other ∈ ranking before number elements, number other < number element :=
    fun other member => newest other ((perm_ranking before number elements).mem_iff.mp member)
  have ranked := pairwise_orderedInsert (pairwise_ranking elements) fun other member =>
    (inRanking other member).le
  have perm : ((ranking before number elements).orderedInsert before element).Perm
      (elements ++ [element]) :=
    (List.perm_orderedInsert before element _).trans
      (((perm_ranking before number elements).cons element).trans
        (List.perm_append_singleton _ _).symm)
  refine (eq_ranking ?_ ranked perm).symm
  rw [List.map_append, List.nodup_append]
  refine ⟨distinct, List.nodup_singleton _, ?_⟩
  intro first isFirst second isSecond
  obtain ⟨other, member, rfl⟩ := List.mem_map.mp isFirst
  rw [List.mem_singleton.mp isSecond]
  exact Nat.ne_of_lt (newest other member)

theorem foldl_keepFirst_eq_take_ranking {elements : List Element} (bound : Nat)
    (increasing : (elements.map number).Pairwise (· < ·)) :
    elements.foldl (keepFirst before bound) [] =
      (ranking before number elements).take bound := by
  have cut := foldl_keepFirst before bound elements []
  rw [List.take_nil] at cut
  rw [cut, foldl_orderedInsert_eq_ranking increasing]

end Insertions

/-! ## Pages -/

/-- The elements of the ranks from `first` on, at most `size` many. -/
def slice (elements : List Element) (first size : Nat) : List Element :=
  (elements.drop first).take size

/-- Slices one after the other are the whole list. -/
theorem flatMap_slice (elements : List Element) {size pages : Nat}
    (enough : elements.length ≤ pages * size) :
    (List.range pages).flatMap (fun page => slice elements (page * size) size) = elements := by
  have beginning : ∀ pages, (List.range pages).flatMap
      (fun page => slice elements (page * size) size) = elements.take (pages * size) := by
    intro pages
    induction pages with
    | zero => rw [Nat.zero_mul, List.take_zero, List.range_zero, List.flatMap_nil]
    | succ pages induction =>
        rw [List.range_succ, List.flatMap_append, induction, List.flatMap_singleton,
          Nat.succ_mul, List.take_add]
        rfl
  rw [beginning, List.take_of_length_le enough]

end RealmServer.StableOrder
