import Mathlib

/-!
# Tables keyed by an attribute

Maps of the program and tables of its database are both lists of rows here,
with a function which reads the key of a row.  The operations are those of the
two kinds of owner: `assign` is `map[key] = row`, `insertNew` is an `INSERT`
under a primary key, `modify` and `erase` are `UPDATE` and `DELETE` with a key.
-/

namespace RealmServer.Table

universe u v

variable {Row : Type u} {Key : Type v} [DecidableEq Key] (keyOf : Row → Key)

/-- The row with a key. -/
def find (table : List Row) (key : Key) : Option Row :=
  table.find? fun row => keyOf row = key

def contains (table : List Row) (key : Key) : Bool :=
  table.any fun row => keyOf row = key

/-- Change the row with a key. -/
def modify (table : List Row) (key : Key) (change : Row → Row) : List Row :=
  table.map fun row => if keyOf row = key then change row else row

/-- Overwrite the row with the key of a new one. -/
def replace (table : List Row) (row : Row) : List Row :=
  modify keyOf table (keyOf row) fun _ => row

/-- Remove the row with a key. -/
def erase (table : List Row) (key : Key) : List Row :=
  table.filter fun row => keyOf row ≠ key

/-- Put a row in the place of the one with its key, if there is one. -/
def assign (table : List Row) (row : Row) : List Row :=
  erase keyOf table (keyOf row) ++ [row]

/-- Add a row; a second row with one key violates the primary key. -/
def insertNew (table : List Row) (row : Row) : List Row :=
  if contains keyOf table (keyOf row) then table else table ++ [row]

variable {keyOf}

theorem mem_of_find {table : List Row} {key : Key} {row : Row}
    (found : find keyOf table key = some row) : row ∈ table :=
  List.mem_of_find?_eq_some found

theorem key_of_find {table : List Row} {key : Key} {row : Row}
    (found : find keyOf table key = some row) : keyOf row = key := by
  simpa using List.find?_some found

theorem find_eq_none_iff {table : List Row} {key : Key} :
    find keyOf table key = none ↔ ∀ row ∈ table, keyOf row ≠ key := by
  simp [find]

theorem contains_iff {table : List Row} {key : Key} :
    contains keyOf table key = true ↔ ∃ row ∈ table, keyOf row = key := by
  simp [contains]

theorem mem_erase {table : List Row} {key : Key} {row : Row} :
    row ∈ erase keyOf table key ↔ row ∈ table ∧ keyOf row ≠ key := by
  simp [erase]

theorem mem_assign {table : List Row} {new row : Row} :
    row ∈ assign keyOf table new ↔
      (row ∈ table ∧ keyOf row ≠ keyOf new) ∨ row = new := by
  simp [assign, mem_erase]

theorem mem_modify {table : List Row} {key : Key} {change : Row → Row} {row : Row} :
    row ∈ modify keyOf table key change ↔
      (row ∈ table ∧ keyOf row ≠ key) ∨
        ∃ old ∈ table, keyOf old = key ∧ change old = row := by
  unfold modify
  rw [List.mem_map]
  constructor
  · rintro ⟨old, member, rfl⟩
    by_cases same : keyOf old = key
    · exact .inr ⟨old, member, same, by simp [same]⟩
    · exact .inl ⟨by simpa [same] using member, by simp [same]⟩
  · rintro (⟨member, other⟩ | ⟨old, member, same, rfl⟩)
    · exact ⟨row, member, by simp [other]⟩
    · exact ⟨old, member, by simp [same]⟩

/-- Among rows with different keys the key decides the row. -/
theorem find_of_mem {table : List Row} (keys : (table.map keyOf).Nodup)
    {row : Row} (member : row ∈ table) : find keyOf table (keyOf row) = some row := by
  induction table with
  | nil => simp at member
  | cons first rest induction =>
      rw [List.map_cons, List.nodup_cons] at keys
      rcases List.mem_cons.mp member with rfl | later
      · simp [find]
      · have other : keyOf first ≠ keyOf row := by
          intro same
          exact keys.1 (same ▸ List.mem_map_of_mem later)
        rw [find, List.find?_cons_of_neg (by simpa using other)]
        exact induction keys.2 later

/-- The order of rows with different keys does not matter. -/
theorem find_eq_of_perm {table other : List Row} (keys : (table.map keyOf).Nodup)
    (perm : other.Perm table) (key : Key) : find keyOf other key = find keyOf table key := by
  cases found : find keyOf table key with
  | none =>
      have absent := find_eq_none_iff.mp found
      exact find_eq_none_iff.mpr fun row member => absent row (perm.mem_iff.mp member)
  | some row =>
      have keysOther : (other.map keyOf).Nodup := (perm.map keyOf).nodup_iff.mpr keys
      rw [← key_of_find found]
      exact find_of_mem keysOther (perm.mem_iff.mpr (mem_of_find found))

theorem find_assign_self (table : List Row) (row : Row) :
    find keyOf (assign keyOf table row) (keyOf row) = some row := by
  have gone : ∀ other ∈ erase keyOf table (keyOf row), keyOf other ≠ keyOf row :=
    fun other member => (mem_erase.mp member).2
  unfold assign find
  rw [List.find?_append, List.find?_eq_none.mpr (by simpa using gone)]
  simp

theorem find_assign_of_ne {table : List Row} {row : Row} {key : Key}
    (differs : key ≠ keyOf row) :
    find keyOf (assign keyOf table row) key = find keyOf table key := by
  have kept : (erase keyOf table (keyOf row)).find? (fun other => keyOf other = key) =
      table.find? fun other => keyOf other = key := by
    unfold erase
    rw [List.find?_filter]
    congr 1
    funext other
    by_cases same : keyOf other = key
    · simp [same, differs]
    · simp [same]
  unfold assign find
  rw [List.find?_append, kept]
  simp [differs.symm]

theorem erase_eq_self {table : List Row} {key : Key}
    (absent : ∀ row ∈ table, keyOf row ≠ key) : erase keyOf table key = table := by
  simpa [erase] using absent

/-- Rows with keys of their own are added behind the others. -/
theorem foldl_assign {table rows : List Row} (keys : ((table ++ rows).map keyOf).Nodup) :
    rows.foldl (assign keyOf) table = table ++ rows := by
  induction rows generalizing table with
  | nil => exact (List.append_nil table).symm
  | cons row rest induction =>
      have absent : ∀ other ∈ table, keyOf other ≠ keyOf row := by
        rw [List.map_append, List.nodup_append] at keys
        intro other member
        exact keys.2.2 _ (List.mem_map_of_mem member) _ (by simp)
      have added : assign keyOf table row = table ++ [row] := by
        rw [assign, erase_eq_self absent]
      rw [List.foldl_cons, added, induction (by simpa using keys), List.append_assoc,
        List.singleton_append]

theorem find_erase (table : List Row) (key other : Key) :
    find keyOf (erase keyOf table key) other =
      if other = key then none else find keyOf table other := by
  split_ifs with same
  · exact find_eq_none_iff.mpr fun row member => same ▸ (mem_erase.mp member).2
  · unfold find erase
    rw [List.find?_filter]
    congr 1
    funext row
    by_cases isOther : keyOf row = other
    · simp [isOther, same]
    · simp [isOther]

/-- A row that goes need not be changed before. -/
theorem erase_modify (table : List Row) (key : Key) {change : Row → Row}
    (same : ∀ row, keyOf (change row) = keyOf row) :
    erase keyOf (modify keyOf table key change) key = erase keyOf table key := by
  unfold erase modify
  induction table with
  | nil => rfl
  | cons first rest induction =>
      rw [List.map_cons, List.filter_cons, List.filter_cons, induction]
      by_cases isKey : keyOf first = key
      · simp [isKey, same]
      · simp [isKey]

/-! ## The operations respect the key -/

theorem insertNew_keys {table : List Row} (keys : (table.map keyOf).Nodup) (row : Row) :
    ((insertNew keyOf table row).map keyOf).Nodup := by
  unfold insertNew
  split_ifs with present
  · exact keys
  · rw [List.map_append, List.nodup_append]
    refine ⟨keys, by simp, ?_⟩
    simp only [List.map_cons, List.map_nil, List.mem_singleton, forall_eq]
    rintro key member rfl
    obtain ⟨old, oldMember, same⟩ := List.mem_map.mp member
    exact present (contains_iff.mpr ⟨old, oldMember, same⟩)

omit [DecidableEq Key] in
theorem filter_keys {table : List Row} (keys : (table.map keyOf).Nodup)
    (keep : Row → Bool) : ((table.filter keep).map keyOf).Nodup :=
  keys.sublist (List.filter_sublist.map _)

/-- Among rows with different keys, the one with a key is kept or it is gone. -/
theorem find_filter {table : List Row} (keys : (table.map keyOf).Nodup) (keep : Row → Bool)
    (key : Key) : find keyOf (table.filter keep) key = (find keyOf table key).filter keep := by
  cases found : find keyOf table key with
  | none =>
      have absent := find_eq_none_iff.mp found
      exact find_eq_none_iff.mpr fun row member => absent row (List.mem_of_mem_filter member)
  | some row =>
      have isKey := key_of_find found
      by_cases kept : keep row = true
      · have member : row ∈ table.filter keep := List.mem_filter.mpr ⟨mem_of_find found, kept⟩
        rw [Option.filter_some_pos kept, ← isKey]
        exact find_of_mem (filter_keys keys keep) member
      · rw [Option.filter_some_neg (Bool.not_eq_true _ ▸ kept)]
        refine find_eq_none_iff.mpr fun other member same => kept ?_
        obtain ⟨inTable, otherKept⟩ := List.mem_filter.mp member
        have isRow := find_of_mem keys inTable
        rw [same, found] at isRow
        rw [Option.some.inj isRow]
        exact otherKept

theorem erase_keys {table : List Row} (keys : (table.map keyOf).Nodup) (key : Key) :
    ((erase keyOf table key).map keyOf).Nodup :=
  filter_keys keys _

/-- `map[key] = row` keeps one row for each key. -/
theorem assign_keys {table : List Row} (keys : (table.map keyOf).Nodup) (row : Row) :
    ((assign keyOf table row).map keyOf).Nodup := by
  unfold assign
  rw [List.map_append, List.nodup_append]
  refine ⟨erase_keys keys _, by simp, ?_⟩
  simp only [List.map_cons, List.map_nil, List.mem_singleton, forall_eq]
  rintro key member rfl
  obtain ⟨old, oldMember, same⟩ := List.mem_map.mp member
  exact (mem_erase.mp oldMember).2 same

omit [DecidableEq Key] in
theorem map_keys {table : List Row} (keys : (table.map keyOf).Nodup)
    {change : Row → Row} (same : ∀ row, keyOf (change row) = keyOf row) :
    ((table.map change).map keyOf).Nodup := by
  have ids : table.map (keyOf ∘ change) = table.map keyOf :=
    List.map_congr_left fun row _ => same row
  rw [List.map_map, ids]
  exact keys

@[simp]
theorem length_modify (table : List Row) (key : Key) (change : Row → Row) :
    (modify keyOf table key change).length = table.length := by
  simp [modify]

/-- A change which keeps the key keeps the list of keys. -/
theorem map_modify (table : List Row) (key : Key)
    {change : Row → Row} (same : ∀ row, keyOf (change row) = keyOf row) :
    (modify keyOf table key change).map keyOf = table.map keyOf := by
  unfold modify
  rw [List.map_map]
  apply List.map_congr_left
  intro row _
  dsimp only [Function.comp_apply]
  split_ifs
  · exact same row
  · rfl

/-- A change which keeps the key is made in the row with the key. -/
theorem find_modify (table : List Row) (key other : Key) {change : Row → Row}
    (same : ∀ row, keyOf (change row) = keyOf row) :
    find keyOf (modify keyOf table key change) other =
      (find keyOf table other).map fun row => if other = key then change row else row := by
  induction table with
  | nil => rfl
  | cons first rest induction =>
      unfold modify find at induction ⊢
      have kept : keyOf (if keyOf first = key then change first else first) = keyOf first := by
        split_ifs
        · exact same first
        · rfl
      rw [List.map_cons]
      by_cases isOther : keyOf first = other
      · rw [List.find?_cons_of_pos (by simpa [kept] using isOther),
          List.find?_cons_of_pos (by simpa using isOther), Option.map_some, isOther]
      · rw [List.find?_cons_of_neg (by simpa [kept] using isOther),
          List.find?_cons_of_neg (by simpa using isOther)]
        exact induction

theorem find_modify_of_ne {table : List Row} {key other : Key} (differs : other ≠ key)
    (change : Row → Row) (same : ∀ row, keyOf (change row) = keyOf row) :
    find keyOf (modify keyOf table key change) other = find keyOf table other := by
  rw [find_modify table key other same]
  simp only [if_neg differs, Option.map_id']

theorem find_modify_self {table : List Row} (key : Key) (change : Row → Row)
    (same : ∀ row, keyOf (change row) = keyOf row) :
    find keyOf (modify keyOf table key change) key = (find keyOf table key).map change := by
  rw [find_modify table key key same]
  simp only [if_pos]

/-- A change of nothing. -/
theorem modify_eq_self {table : List Row} {key : Key} {change : Row → Row}
    (same : ∀ row ∈ table, keyOf row = key → change row = row) :
    modify keyOf table key change = table := by
  unfold modify
  conv_rhs => rw [← List.map_id table]
  apply List.map_congr_left
  intro row member
  split_ifs with isKey
  · exact same row member isKey
  · rfl

theorem modify_keys {table : List Row} (keys : (table.map keyOf).Nodup) (key : Key)
    {change : Row → Row} (same : ∀ row, keyOf (change row) = keyOf row) :
    ((modify keyOf table key change).map keyOf).Nodup := by
  rw [map_modify table key same]
  exact keys

/-- The row is written where its key is. -/
theorem replace_eq (table : List Row) (row : Row) :
    replace keyOf table row =
      modify keyOf table (keyOf row) fun old => if keyOf old = keyOf row then row else old := by
  unfold replace modify
  apply List.map_congr_left
  intro old _
  by_cases same : keyOf old = keyOf row
  · simp [same]
  · simp [same]

theorem replace_keeps_key (row old : Row) :
    keyOf (if keyOf old = keyOf row then row else old) = keyOf old := by
  split_ifs with same
  · exact same.symm
  · rfl

theorem mem_replace {table : List Row} {new row : Row} (member : row ∈ replace keyOf table new) :
    row = new ∨ (row ∈ table ∧ keyOf row ≠ keyOf new) := by
  rcases mem_modify.mp member with old | ⟨_, _, _, rfl⟩
  · exact .inr old
  · exact .inl rfl

theorem map_replace (table : List Row) (row : Row) :
    (replace keyOf table row).map keyOf = table.map keyOf := by
  rw [replace_eq]
  exact map_modify table _ (replace_keeps_key row)

theorem find_replace_self {table : List Row} {row old : Row}
    (found : find keyOf table (keyOf row) = some old) :
    find keyOf (replace keyOf table row) (keyOf row) = some row := by
  rw [replace_eq, find_modify_self _ _ (replace_keeps_key row), found, Option.map_some,
    if_pos (key_of_find found)]

theorem find_replace_of_ne {table : List Row} {row : Row} {key : Key} (differs : key ≠ keyOf row) :
    find keyOf (replace keyOf table row) key = find keyOf table key := by
  rw [replace_eq]
  exact find_modify_of_ne differs _ (replace_keeps_key row)

theorem replace_replace {table : List Row} {first second : Row}
    (same : keyOf second = keyOf first) :
    replace keyOf (replace keyOf table first) second = replace keyOf table second := by
  unfold replace modify
  rw [List.map_map]
  apply List.map_congr_left
  intro row _
  dsimp only [Function.comp_apply]
  by_cases isKey : keyOf row = keyOf first
  · rw [if_pos isKey, if_pos same.symm, if_pos (isKey.trans same.symm)]
  · rw [if_neg isKey]

/-! ## Two tables with the same keys -/

section Images

variable {Image : Type*} {keyOfImage : Image → Key} {image : Row → Image}

theorem erase_map (same : ∀ row, keyOfImage (image row) = keyOf row)
    (table : List Row) (key : Key) :
    erase keyOfImage (table.map image) key = (erase keyOf table key).map image := by
  unfold erase
  rw [List.filter_map]
  apply congrArg
  apply List.filter_congr
  intro row _
  simp [same]

theorem modify_map (same : ∀ row, keyOfImage (image row) = keyOf row)
    {change : Row → Row} {changeImage : Image → Image}
    (commutes : ∀ row, changeImage (image row) = image (change row))
    (table : List Row) (key : Key) :
    modify keyOfImage (table.map image) key changeImage =
      (modify keyOf table key change).map image := by
  unfold modify
  rw [List.map_map, List.map_map]
  apply List.map_congr_left
  intro row _
  simp only [Function.comp_apply, same]
  split_ifs
  · exact commutes row
  · rfl

end Images

/-! ## Sums over a table -/

omit [DecidableEq Key] in
/-- Two weights which agree on every other row differ by the row's own weight. -/
theorem sum_agree {table : List Row} (keys : (table.map keyOf).Nodup)
    {row : Row} (member : row ∈ table) {before after : Row → Nat}
    (others : ∀ other ∈ table, keyOf other ≠ keyOf row → after other = before other) :
    (table.map after).sum + before row = (table.map before).sum + after row := by
  induction table with
  | nil => simp at member
  | cons first rest induction =>
      rw [List.map_cons, List.nodup_cons] at keys
      simp only [List.map_cons, List.sum_cons]
      rcases List.mem_cons.mp member with rfl | later
      · have same : rest.map after = rest.map before := by
          apply List.map_congr_left
          intro other otherMember
          apply others other (List.mem_cons_of_mem row otherMember)
          intro sameKey
          exact keys.1 (sameKey ▸ List.mem_map_of_mem otherMember)
        rw [same]
        omega
      · have differs : keyOf first ≠ keyOf row := by
          intro same
          exact keys.1 (same ▸ List.mem_map_of_mem later)
        have rest := induction keys.2 later
          fun other otherMember => others other (List.mem_cons_of_mem first otherMember)
        rw [others first List.mem_cons_self differs]
        omega

theorem sum_modify {table : List Row} (keys : (table.map keyOf).Nodup)
    {row : Row} (member : row ∈ table) (change : Row → Row) (weight : Row → Nat) :
    ((modify keyOf table (keyOf row) change).map weight).sum + weight row =
      (table.map weight).sum + weight (change row) := by
  let after : Row → Nat := fun other =>
    weight (if keyOf other = keyOf row then change other else other)
  have others : ∀ other ∈ table, keyOf other ≠ keyOf row → after other = weight other :=
    fun other _ differs => congrArg weight (if_neg differs)
  have atRow : after row = weight (change row) := congrArg weight (if_pos rfl)
  rw [modify, List.map_map, ← atRow]
  exact sum_agree keys member others

theorem sum_erase {table : List Row} (keys : (table.map keyOf).Nodup)
    {row : Row} (member : row ∈ table) (weight : Row → Nat) :
    ((erase keyOf table (keyOf row)).map weight).sum + weight row =
      (table.map weight).sum := by
  have dropped : ∀ rows : List Row,
      ((erase keyOf rows (keyOf row)).map weight).sum =
        (rows.map fun other => if keyOf other = keyOf row then 0 else weight other).sum := by
    intro rows
    induction rows with
    | nil => rfl
    | cons first rest induction =>
        unfold erase at induction ⊢
        by_cases same : keyOf first = keyOf row
        · rw [List.filter_cons_of_neg (by simpa using same), induction]
          simp [same]
        · rw [List.filter_cons_of_pos (by simpa using same)]
          simp only [List.map_cons, List.sum_cons, induction, if_neg same]
  let after : Row → Nat := fun other =>
    if keyOf other = keyOf row then 0 else weight other
  have others : ∀ other ∈ table, keyOf other ≠ keyOf row → after other = weight other :=
    fun other _ differs => if_neg differs
  have atRow : after row = 0 := if_pos rfl
  have agree := sum_agree keys member others
  rw [atRow, Nat.add_zero] at agree
  rw [dropped]
  exact agree

end RealmServer.Table
