import Mathlib

/-!
# Items on shelves

Several lists that share their items out among them.  `Exact` says that every
item is on one shelf at most, and there once.  Items come in as new ones, go
away, and move from shelf to shelf.
-/

namespace RealmServer.Shelves

universe u v

variable {Shelf : Type u} {Item : Type v} [DecidableEq Shelf] [DecidableEq Item]

/-- An item comes to the front of a shelf. -/
def pushFront (shelves : Shelf → List Item) (shelf : Shelf) (item : Item) : Shelf → List Item :=
  Function.update shelves shelf (item :: shelves shelf)

def pushBack (shelves : Shelf → List Item) (shelf : Shelf) (item : Item) : Shelf → List Item :=
  Function.update shelves shelf (shelves shelf ++ [item])

def take (shelves : Shelf → List Item) (shelf : Shelf) (item : Item) : Shelf → List Item :=
  Function.update shelves shelf ((shelves shelf).erase item)

/-- The item is on some shelf. -/
def Shelved (shelves : Shelf → List Item) (item : Item) : Prop :=
  ∃ shelf, item ∈ shelves shelf

structure Exact (shelves : Shelf → List Item) : Prop where
  once : ∀ shelf, (shelves shelf).Nodup
  one : ∀ {first second item}, item ∈ shelves first → item ∈ shelves second → first = second

variable {shelves : Shelf → List Item} {shelf other : Shelf} {item : Item}

omit [DecidableEq Item] in
theorem mem_update {items : List Item} :
    item ∈ Function.update shelves shelf items other ↔
      (other = shelf ∧ item ∈ items) ∨ (other ≠ shelf ∧ item ∈ shelves other) := by
  by_cases same : other = shelf
  · subst same
    simp
  · simp [same]

omit [DecidableEq Item] in
theorem mem_pushFront {present : Item} :
    present ∈ pushFront shelves shelf item other ↔
      present ∈ shelves other ∨ (other = shelf ∧ present = item) := by
  unfold pushFront
  rw [mem_update, List.mem_cons]
  by_cases same : other = shelf
  · subst same
    simp [or_comm]
  · simp [same]

omit [DecidableEq Item] in
theorem mem_pushBack {present : Item} :
    present ∈ pushBack shelves shelf item other ↔
      present ∈ shelves other ∨ (other = shelf ∧ present = item) := by
  unfold pushBack
  rw [mem_update, List.mem_append, List.mem_singleton]
  by_cases same : other = shelf
  · subst same
    simp
  · simp [same]

theorem mem_take (exact : Exact shelves) (member : item ∈ shelves shelf) {present : Item} :
    present ∈ take shelves shelf item other ↔ present ∈ shelves other ∧ present ≠ item := by
  unfold take
  rw [mem_update, (exact.once shelf).mem_erase_iff]
  constructor
  · rintro (⟨rfl, differs, present⟩ | ⟨elsewhere, present⟩)
    · exact ⟨present, differs⟩
    · refine ⟨present, ?_⟩
      rintro rfl
      exact elsewhere (exact.one present member)
  · rintro ⟨present, differs⟩
    by_cases same : other = shelf
    · exact .inl ⟨same, differs, same ▸ present⟩
    · exact .inr ⟨same, present⟩

theorem Exact.take (exact : Exact shelves) (member : item ∈ shelves shelf) :
    Exact (take shelves shelf item) := by
  constructor
  · intro other
    unfold Shelves.take
    by_cases same : other = shelf
    · subst same
      rw [Function.update_self]
      exact (exact.once other).erase item
    · rw [Function.update_of_ne same]
      exact exact.once other
  · intro first second present inFirst inSecond
    exact exact.one ((mem_take exact member).mp inFirst).1 ((mem_take exact member).mp inSecond).1

omit [DecidableEq Item] in
/-- An item that is on no shelf yet. -/
theorem Exact.pushFront (exact : Exact shelves) (new : ¬Shelved shelves item) (shelf : Shelf) :
    Exact (pushFront shelves shelf item) := by
  have absent : ∀ other, item ∉ shelves other := fun other member => new ⟨other, member⟩
  constructor
  · intro other
    unfold Shelves.pushFront
    by_cases same : other = shelf
    · subst same
      rw [Function.update_self]
      exact List.nodup_cons.mpr ⟨absent other, exact.once other⟩
    · rw [Function.update_of_ne same]
      exact exact.once other
  · intro first second present inFirst inSecond
    rcases mem_pushFront.mp inFirst with old | ⟨rfl, rfl⟩
    · rcases mem_pushFront.mp inSecond with alsoOld | ⟨rfl, rfl⟩
      · exact exact.one old alsoOld
      · exact absurd old (absent first)
    · rcases mem_pushFront.mp inSecond with old | ⟨rfl, -⟩
      · exact absurd old (absent second)
      · rfl

omit [DecidableEq Item] in
theorem Exact.pushBack (exact : Exact shelves) (new : ¬Shelved shelves item) (shelf : Shelf) :
    Exact (pushBack shelves shelf item) := by
  have fronted := exact.pushFront new shelf
  constructor
  · intro other
    have once := fronted.once other
    unfold Shelves.pushFront at once
    unfold Shelves.pushBack
    by_cases same : other = shelf
    · subst same
      rw [Function.update_self] at once ⊢
      exact (List.perm_append_singleton item _).nodup_iff.mpr once
    · rwa [Function.update_of_ne same] at once ⊢
  · intro first second present inFirst inSecond
    exact fronted.one (mem_pushFront.mpr (mem_pushBack.mp inFirst))
      (mem_pushFront.mpr (mem_pushBack.mp inSecond))

theorem shelved_take (exact : Exact shelves) (member : item ∈ shelves shelf) {present : Item} :
    Shelved (Shelves.take shelves shelf item) present ↔
      Shelved shelves present ∧ present ≠ item := by
  unfold Shelved
  simp only [mem_take exact member]
  constructor
  · rintro ⟨other, isThere, differs⟩
    exact ⟨⟨other, isThere⟩, differs⟩
  · rintro ⟨⟨other, isThere⟩, differs⟩
    exact ⟨other, isThere, differs⟩

omit [DecidableEq Item] in
theorem shelved_pushFront {present : Item} :
    Shelved (Shelves.pushFront shelves shelf item) present ↔
      Shelved shelves present ∨ present = item := by
  unfold Shelved
  simp only [mem_pushFront]
  constructor
  · rintro ⟨other, isThere | ⟨-, same⟩⟩
    · exact .inl ⟨other, isThere⟩
    · exact .inr same
  · rintro (⟨other, isThere⟩ | same)
    · exact ⟨other, .inl isThere⟩
    · exact ⟨shelf, .inr ⟨rfl, same⟩⟩

omit [DecidableEq Item] in
theorem shelved_pushBack {present : Item} :
    Shelved (Shelves.pushBack shelves shelf item) present ↔
      Shelved shelves present ∨ present = item := by
  unfold Shelved
  simp only [mem_pushBack, ← mem_pushFront]
  exact shelved_pushFront

/-- An item moves to the front of another shelf; it gets there before it leaves the old one. -/
theorem Exact.move (exact : Exact shelves) (member : item ∈ shelves shelf)
    (differs : other ≠ shelf) :
    Exact (Shelves.take (Shelves.pushFront shelves other item) shelf item) ∧
      ∀ present, Shelved (Shelves.take (Shelves.pushFront shelves other item) shelf item) present ↔
        Shelved shelves present := by
  have swapped : Shelves.take (Shelves.pushFront shelves other item) shelf item =
      Shelves.pushFront (Shelves.take shelves shelf item) other item := by
    unfold Shelves.take Shelves.pushFront
    rw [Function.update_of_ne differs.symm, Function.update_of_ne differs,
      Function.update_comm differs]
  have gone : ¬Shelved (Shelves.take shelves shelf item) item :=
    fun shelved => ((shelved_take exact member).mp shelved).2 rfl
  rw [swapped]
  refine ⟨(exact.take member).pushFront gone other, fun present => ?_⟩
  rw [shelved_pushFront, shelved_take exact member]
  constructor
  · rintro (⟨shelved, -⟩ | rfl)
    · exact shelved
    · exact ⟨shelf, member⟩
  · intro shelved
    by_cases same : present = item
    · exact .inr same
    · exact .inl ⟨shelved, same⟩

omit [DecidableEq Shelf] [DecidableEq Item] in
/-- The item is on exactly one shelf, and there once. -/
theorem Exact.existsUnique (exact : Exact shelves) (shelved : Shelved shelves item) :
    ∃! shelf, item ∈ shelves shelf := by
  obtain ⟨shelf, member⟩ := shelved
  exact ⟨shelf, member, fun other present => exact.one present member⟩

end RealmServer.Shelves
