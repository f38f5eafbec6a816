import Mathlib

/-!
# Ordered sets with a comparison of their own

A set ordered by a strict comparison keeps one element of each class of
elements which the comparison does not separate.  It is a list in that order
here; the comparison may look at less than the whole element, so an insertion
can be refused although the element is not in the set.
-/

namespace RealmServer.OrderedSet

universe u

variable {Element : Type u} (before : Element → Element → Prop) [DecidableRel before]

/-- The comparison does not tell two elements apart. -/
def Equivalent (first second : Element) : Prop := ¬before first second ∧ ¬before second first

instance (first second : Element) : Decidable (Equivalent before first second) :=
  inferInstanceAs (Decidable (_ ∧ _))

/-- Nothing changes where an equivalent element is there already. -/
def insert (element : Element) (elements : List Element) : List Element :=
  if ∃ other ∈ elements, Equivalent before element other then elements
  else elements.orderedInsert before element

variable {before}

theorem insert_of_equivalent {element other : Element} {elements : List Element}
    (member : other ∈ elements) (same : Equivalent before element other) :
    insert before element elements = elements :=
  if_pos ⟨other, member, same⟩

theorem insert_of_new {element : Element} {elements : List Element}
    (new : ∀ other ∈ elements, ¬Equivalent before element other) :
    insert before element elements = elements.orderedInsert before element := by
  apply if_neg
  rintro ⟨other, member, same⟩
  exact new other member same

theorem insert_perm {element : Element} {elements : List Element}
    (new : ∀ other ∈ elements, ¬Equivalent before element other) :
    (insert before element elements).Perm (element :: elements) := by
  rw [insert_of_new new]
  exact List.perm_orderedInsert before element elements

theorem mem_insert_of_mem {element other : Element} {elements : List Element}
    (member : other ∈ elements) : other ∈ insert before element elements := by
  unfold insert
  split_ifs
  · exact member
  · exact (List.mem_orderedInsert before).mpr (.inr member)

theorem eq_or_mem_of_mem_insert {element other : Element} {elements : List Element}
    (member : other ∈ insert before element elements) :
    other = element ∨ other ∈ elements := by
  unfold insert at member
  split_ifs at member
  · exact .inr member
  · exact (List.mem_orderedInsert before).mp member

/-- An element is in the set after its insertion unless an equivalent one is in its place. -/
theorem mem_insert_self {element : Element} {elements : List Element}
    (place : ∀ other ∈ elements, Equivalent before element other → other = element) :
    element ∈ insert before element elements := by
  by_cases present : ∃ other ∈ elements, Equivalent before element other
  · obtain ⟨other, member, same⟩ := present
    rw [insert_of_equivalent member same, ← place other member same]
    exact member
  · have new : ∀ other ∈ elements, ¬Equivalent before element other :=
      fun other member same => present ⟨other, member, same⟩
    rw [insert_of_new new]
    exact (List.mem_orderedInsert before).mpr (.inl rfl)

theorem orderedInsert_sorted
    (transitive : ∀ first second third, before first second → before second third →
      before first third)
    {element : Element} {elements : List Element}
    (new : ∀ other ∈ elements, ¬Equivalent before element other)
    (sorted : elements.Pairwise before) :
    (elements.orderedInsert before element).Pairwise before := by
  induction elements with
  | nil => exact List.pairwise_singleton before element
  | cons first rest induction =>
      rw [List.pairwise_cons] at sorted
      rw [List.orderedInsert_cons]
      split_ifs with isBefore
      · rw [List.pairwise_cons]
        constructor
        · intro other member
          rcases List.mem_cons.mp member with rfl | later
          · exact isBefore
          · exact transitive _ _ _ isBefore (sorted.1 other later)
        · exact List.pairwise_cons.mpr sorted
      · have isAfter : before first element := by
          by_contra notBefore
          exact new first List.mem_cons_self ⟨isBefore, notBefore⟩
        rw [List.pairwise_cons]
        constructor
        · intro other member
          rcases (List.mem_orderedInsert before).mp member with rfl | later
          · exact isAfter
          · exact sorted.1 other later
        · exact induction
            (fun other member => new other (List.mem_cons_of_mem _ member)) sorted.2

theorem insert_sorted
    (transitive : ∀ first second third, before first second → before second third →
      before first third)
    (element : Element) {elements : List Element} (sorted : elements.Pairwise before) :
    (insert before element elements).Pairwise before := by
  by_cases present : ∃ other ∈ elements, Equivalent before element other
  · rw [insert, if_pos present]
    exact sorted
  · have new : ∀ other ∈ elements, ¬Equivalent before element other :=
      fun other member same => present ⟨other, member, same⟩
    rw [insert_of_new new]
    exact orderedInsert_sorted transitive new sorted

end RealmServer.OrderedSet
