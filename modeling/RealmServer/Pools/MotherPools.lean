import RealmServer.Lib.Ascent
import RealmServer.Pools.PoolGroup

/-!
# Mother pools

`PoolMgr::LoadFromDB` reads the rows of `pool_pool` into `mPoolPoolGroups`, which
spawning recurses over, and into `mPoolSearchMap`, which keeps one mother for each
child.  Then it goes up from every pool in the search map and removes the link
which closes a circle.
-/

namespace RealmServer.Pools

open Ascent

/-- A row of `pool_pool`. -/
structure PoolRow where
  poolId : Nat
  motherPool : Nat
  chance : Rat
deriving DecidableEq

structure MotherPools where
  /-- `mPoolPoolGroups`, by mother. -/
  groups : Nat → PoolGroup
  /-- `mPoolSearchMap`, from child to mother. -/
  searchMap : Nat → Option Nat

/-- The checks of a row. -/
def PoolRow.isAccepted (maxPoolId : Nat) (row : PoolRow) : Bool :=
  row.motherPool ≤ maxPoolId && row.poolId ≤ maxPoolId && row.motherPool ≠ row.poolId &&
    0 ≤ row.chance && row.chance ≤ 100

namespace MotherPools

def empty : MotherPools := ⟨fun _ => .empty, fun _ => none⟩

/-- A row which is accepted; `insert` leaves an earlier mother in the search map. -/
def addRow (maxLimit : Nat → Nat) (pools : MotherPools) (row : PoolRow) : MotherPools where
  groups := Function.update pools.groups row.motherPool
    ((pools.groups row.motherPool).addEntry ⟨row.poolId, row.chance⟩ (maxLimit row.motherPool))
  searchMap := Function.update pools.searchMap row.poolId
    ((pools.searchMap row.poolId).or (some row.motherPool))

def loadRows (maxPoolId : Nat) (maxLimit : Nat → Nat) (rows : List PoolRow) : MotherPools :=
  (rows.filter (PoolRow.isAccepted maxPoolId)).foldl (addRow maxLimit) empty

/-- The way up from a pool, within so many rounds: the link from a pool to a mother which
was met before, if it comes to one. -/
def circularLink (searchMap : Nat → Option Nat) :
    Nat → Nat → List Nat → Option (Option (Nat × Nat))
  | 0, _, _ => none
  | fuel + 1, pool, checkedPools =>
      match searchMap pool with
      | none => some none
      | some mother =>
          if mother ∈ pool :: checkedPools then some (some (pool, mother))
          else circularLink searchMap fuel mother (pool :: checkedPools)

/-- "Removing the last link between mother pool and child pool." -/
def removeLink (pools : MotherPools) (pool mother : Nat) : MotherPools where
  groups := Function.update pools.groups mother ((pools.groups mother).removeOneRelation pool)
  searchMap := Function.update pools.searchMap pool none

/-- The check for one pool. -/
def checkCircularReference (fuel : Nat) (pools : MotherPools) (pool : Nat) :
    Option MotherPools := do
  match ← circularLink pools.searchMap fuel pool [] with
  | none => some pools
  | some (child, mother) => some (pools.removeLink child mother)

/-- The check goes through the pools below `max_pool_id`. -/
def loadPoolPools (fuel maxPoolId : Nat) (maxLimit : Nat → Nat) (rows : List PoolRow) :
    Option MotherPools :=
  (List.range maxPoolId).foldlM (checkCircularReference fuel) (loadRows maxPoolId maxLimit rows)

/-- The pool is a member of the mother pool, so spawning the one may spawn the other. -/
def IsMother (pools : MotherPools) (mother pool : Nat) : Prop :=
  ∃ isExplicit, 0 < (pools.groups mother).copies isExplicit pool

end MotherPools

/-- The check comes to an end; then no pool is among its own mothers, and every link from which
an entry was removed closes a circle. -/
def BreaksCircles (maxPoolId : Nat) (maxLimit : Nat → Nat) (rows : List PoolRow) : Prop :=
  ∃ enough, ∀ fuel, enough ≤ fuel →
    ∃ pools, MotherPools.loadPoolPools fuel maxPoolId maxLimit rows = some pools ∧
      (∀ pool, ¬Relation.TransGen pools.IsMother pool pool) ∧
      ∀ mother pool isExplicit,
        (pools.groups mother).copies isExplicit pool <
            ((MotherPools.loadRows maxPoolId maxLimit rows).groups mother).copies isExplicit pool →
          Relation.TransGen (MotherPools.loadRows maxPoolId maxLimit rows).IsMother pool mother

/-! ## The rows -/

/-- How many rows put the pool into that list of the mother. -/
def listed (maxPoolId : Nat) (maxLimit : Nat → Nat) (rows : List PoolRow) (isExplicit : Bool)
    (mother pool : Nat) : Nat :=
  (rows.filter (PoolRow.isAccepted maxPoolId)).countP fun row =>
    row.poolId = pool && row.motherPool = mother &&
      isExplicit == (row.chance ≠ 0 && maxLimit mother = 1)

/-- The mother of the first row of a pool. -/
def firstMother (maxPoolId : Nat) (rows : List PoolRow) (pool : Nat) : Option Nat :=
  ((rows.filter (PoolRow.isAccepted maxPoolId)).find? fun row => row.poolId = pool).map
    PoolRow.motherPool

/-- The link of the pool to its first mother is the last one of a circle of first mothers, seen
from the least pool below the bound whose way up enters this circle. -/
def CutLink (mother : Nat → Option Nat) (bound pool : Nat) : Prop :=
  ∃ start < bound, Closes mother start pool ∧
    ∀ earlier < start, ∀ steps, above mother earlier steps ≠ some pool

/-- The pool stays a member: some row is left when one is taken away for its cut link. -/
def StaysMember (maxPoolId : Nat) (maxLimit : Nat → Nat) (rows : List PoolRow)
    (mother pool : Nat) : Prop :=
  ∃ isExplicit, 0 < listed maxPoolId maxLimit rows isExplicit mother pool ∧
    (firstMother maxPoolId rows pool = some mother →
      CutLink (firstMother maxPoolId rows) maxPoolId pool →
        1 < listed maxPoolId maxLimit rows isExplicit mother pool)

namespace MotherPools

theorem copies_addEntry (group : PoolGroup) (object : PoolObject) (maxEntries : Nat)
    (isExplicit : Bool) (guid : Nat) :
    (group.addEntry object maxEntries).copies isExplicit guid = group.copies isExplicit guid +
      if object.guid = guid ∧ isExplicit = (object.chance ≠ 0 && maxEntries = 1) then 1
      else 0 := by
  unfold PoolGroup.addEntry PoolGroup.copies
  by_cases chanced : object.chance ≠ 0 ∧ maxEntries = 1
  · have kind : (object.chance ≠ 0 && maxEntries = 1 : Bool) = true := by
      simpa using chanced
    rw [if_pos chanced, kind]
    cases isExplicit with
    | false => simp
    | true => simp [List.count_singleton]
  · have kind : (object.chance ≠ 0 && maxEntries = 1 : Bool) = false := by
      simpa using chanced
    rw [if_neg chanced, kind]
    cases isExplicit with
    | false => simp [List.count_singleton]
    | true => simp

section Loading

variable {maxPoolId : Nat} {maxLimit : Nat → Nat} {rows : List PoolRow}

theorem searchMap_foldl (pools : MotherPools) (rows : List PoolRow) (pool : Nat) :
    (rows.foldl (addRow maxLimit) pools).searchMap pool = (pools.searchMap pool).or
      ((rows.find? fun row => row.poolId = pool).map PoolRow.motherPool) := by
  induction rows generalizing pools with
  | nil => exact (Option.or_none).symm
  | cons row rest induction =>
      rw [List.foldl_cons, induction]
      unfold addRow
      dsimp only
      by_cases same : row.poolId = pool
      · subst same
        have head : (row :: rest).find? (fun other => other.poolId = row.poolId) = some row := by
          simp
        rw [Function.update_self, head, Option.or_assoc]
        rfl
      · rw [Function.update_of_ne (Ne.symm same), List.find?_cons_of_neg (by simpa using same)]

theorem loadRows_searchMap (pool : Nat) :
    (loadRows maxPoolId maxLimit rows).searchMap pool = firstMother maxPoolId rows pool := by
  unfold loadRows
  rw [searchMap_foldl]
  rfl

theorem copies_foldl (pools : MotherPools) (rows : List PoolRow) (isExplicit : Bool)
    (mother pool : Nat) :
    ((rows.foldl (addRow maxLimit) pools).groups mother).copies isExplicit pool =
      (pools.groups mother).copies isExplicit pool + rows.countP fun row =>
        row.poolId = pool && row.motherPool = mother &&
          isExplicit == (row.chance ≠ 0 && maxLimit mother = 1) := by
  induction rows generalizing pools with
  | nil => rfl
  | cons row rest induction =>
      rw [List.foldl_cons, induction, List.countP_cons]
      unfold addRow
      dsimp only
      by_cases same : row.motherPool = mother
      · subst same
        rw [Function.update_self, copies_addEntry]
        simp
        omega
      · rw [Function.update_of_ne (Ne.symm same)]
        simp [same]

theorem loadRows_copies (isExplicit : Bool) (mother pool : Nat) :
    ((loadRows maxPoolId maxLimit rows).groups mother).copies isExplicit pool =
      listed maxPoolId maxLimit rows isExplicit mother pool := by
  have none : (empty.groups mother).copies isExplicit pool = 0 := by
    cases isExplicit with
    | false => rfl
    | true => rfl
  unfold loadRows listed
  rw [copies_foldl, none, Nat.zero_add]

theorem firstMother_row {pool mother : Nat}
    (isFirst : firstMother maxPoolId rows pool = some mother) :
    ∃ row ∈ rows, row.isAccepted maxPoolId = true ∧ row.poolId = pool ∧
      row.motherPool = mother := by
  obtain ⟨row, found, rfl⟩ := Option.map_eq_some_iff.mp isFirst
  have member := List.mem_filter.mp (List.mem_of_find?_eq_some found)
  exact ⟨row, member.1, member.2, by simpa using List.find?_some found, rfl⟩

theorem listed_of_row {row : PoolRow} (isRow : row ∈ rows)
    (accepted : row.isAccepted maxPoolId = true) :
    ∃ isExplicit, 0 < listed maxPoolId maxLimit rows isExplicit row.motherPool row.poolId := by
  refine ⟨row.chance ≠ 0 && maxLimit row.motherPool = 1, ?_⟩
  unfold listed
  rw [List.countP_pos_iff]
  exact ⟨row, List.mem_filter.mpr ⟨isRow, accepted⟩, by simp⟩

theorem firstMother_bounded {pool mother : Nat}
    (isFirst : firstMother maxPoolId rows pool = some mother) :
    pool ≤ maxPoolId ∧ mother ≤ maxPoolId ∧ mother ≠ pool := by
  obtain ⟨row, _, accepted, rfl, rfl⟩ := firstMother_row isFirst
  unfold PoolRow.isAccepted at accepted
  simp only [Bool.and_eq_true, decide_eq_true_eq] at accepted
  exact ⟨accepted.1.1.1.2, accepted.1.1.1.1, accepted.1.1.2⟩

end Loading

end MotherPools

end RealmServer.Pools
