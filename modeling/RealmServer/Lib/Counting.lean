import RealmServer.Lib.Table

/-!
# Counts after a change

How the number of elements with a property changes when one element of a list,
or one row of a table, is changed or taken out.  The statements add on both
sides where a count may fall, so that nothing is subtracted.
-/

namespace RealmServer.Counting

universe u v

variable {Element : Type u}

/-- One for an element which is counted. -/
def counted (chosen : Element → Bool) (element : Element) : Nat :=
  if chosen element then 1 else 0

theorem countP_eq_sum (chosen : Element → Bool) (elements : List Element) :
    elements.countP chosen = (elements.map (counted chosen)).sum := by
  induction elements with
  | nil => rfl
  | cons first rest induction =>
      rw [List.countP_cons, List.map_cons, List.sum_cons, induction, counted]
      omega

theorem countP_modify {elements : List Element} {index : Nat} {element : Element}
    (place : elements[index]? = some element) (chosen : Element → Bool)
    (change : Element → Element) :
    (elements.modify index change).countP chosen + counted chosen element =
      elements.countP chosen + counted chosen (change element) := by
  induction elements generalizing index with
  | nil => simp at place
  | cons first rest induction =>
      cases index with
      | zero =>
          rw [List.getElem?_cons_zero, Option.some.injEq] at place
          rw [List.modify_zero_cons, List.countP_cons, List.countP_cons, place]
          unfold counted
          omega
      | succ index =>
          rw [List.getElem?_cons_succ] at place
          rw [List.modify_succ_cons, List.countP_cons, List.countP_cons]
          have later := induction place
          omega

theorem countP_eraseP {elements : List Element} {wanted : Element → Bool} {element : Element}
    (found : elements.find? wanted = some element) (chosen : Element → Bool) :
    (elements.eraseP wanted).countP chosen + counted chosen element =
      elements.countP chosen := by
  induction elements with
  | nil => simp at found
  | cons first rest induction =>
      by_cases isWanted : wanted first = true
      · rw [List.find?_cons_of_pos isWanted, Option.some.injEq] at found
        rw [List.eraseP_cons_of_pos isWanted, List.countP_cons, found, counted]
      · rw [List.find?_cons_of_neg isWanted] at found
        rw [List.eraseP_cons_of_neg isWanted, List.countP_cons, List.countP_cons]
        have later := induction found
        omega

/-- What no change touches is the same for the whole list. -/
theorem map_modify_of_same {Value : Type v} {view : Element → Value}
    {change : Element → Element} (same : ∀ element, view (change element) = view element)
    (elements : List Element) (index : Nat) :
    (elements.modify index change).map view = elements.map view := by
  apply List.ext_getElem?
  intro place
  rw [List.getElem?_map, List.getElem?_map, List.getElem?_modify]
  split_ifs
  · cases elements[place]? <;> simp [same]
  · simp

/-! ## Tables -/

section Tables

open Table

variable {Row : Type u} {Key : Type v} [DecidableEq Key] {keyOf : Row → Key}
variable {table : List Row} {row : Row}

theorem countP_table_modify (keys : (table.map keyOf).Nodup) (member : row ∈ table)
    (chosen : Row → Bool) (change : Row → Row) :
    (modify keyOf table (keyOf row) change).countP chosen + counted chosen row =
      table.countP chosen + counted chosen (change row) := by
  rw [countP_eq_sum, countP_eq_sum]
  exact sum_modify keys member change (counted chosen)

theorem countP_table_erase (keys : (table.map keyOf).Nodup) (member : row ∈ table)
    (chosen : Row → Bool) :
    (erase keyOf table (keyOf row)).countP chosen + counted chosen row =
      table.countP chosen := by
  rw [countP_eq_sum, countP_eq_sum]
  exact sum_erase keys member (counted chosen)

end Tables

end RealmServer.Counting
