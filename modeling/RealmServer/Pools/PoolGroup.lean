import Mathlib

/-!
# Pools

A `PoolGroup` has the members of one kind of a pool: those with a chance of
their own, which only count while the pool has a limit of one, and those with
equal chances.
-/

namespace RealmServer.Pools

structure PoolObject where
  guid : Nat
  chance : Rat
deriving DecidableEq

/-- The members of a pool; the groups of all kinds look alike. -/
structure PoolGroup where
  explicitlyChanced : List PoolObject
  equalChanced : List PoolObject
deriving DecidableEq

namespace PoolGroup

def empty : PoolGroup := ⟨[], []⟩

def isEmpty (group : PoolGroup) : Bool :=
  group.explicitlyChanced.isEmpty && group.equalChanced.isEmpty

/-- `AddEntry`. -/
def addEntry (group : PoolGroup) (object : PoolObject) (maxEntries : Nat) : PoolGroup :=
  if object.chance ≠ 0 ∧ maxEntries = 1 then
    { group with explicitlyChanced := group.explicitlyChanced ++ [object] }
  else { group with equalChanced := group.equalChanced ++ [object] }

/-- `RemoveOneRelation`: the first entry of a child goes from each of the lists. -/
def removeOneRelation (group : PoolGroup) (childPoolId : Nat) : PoolGroup where
  explicitlyChanced := group.explicitlyChanced.eraseP fun object => object.guid = childPoolId
  equalChanced := group.equalChanced.eraseP fun object => object.guid = childPoolId

/-- How often a member is in one of the lists. -/
def copies (group : PoolGroup) (isExplicit : Bool) (guid : Nat) : Nat :=
  ((if isExplicit then group.explicitlyChanced else group.equalChanced).map
    PoolObject.guid).count guid

theorem copies_removeOneRelation (group : PoolGroup) (isExplicit : Bool) (child guid : Nat) :
    (group.removeOneRelation child).copies isExplicit guid =
      group.copies isExplicit guid - if child = guid then 1 else 0 := by
  have erased : ∀ objects : List PoolObject,
      ((objects.eraseP fun object => object.guid = child).map PoolObject.guid).count guid =
        (objects.map PoolObject.guid).count guid - if child = guid then 1 else 0 := by
    intro objects
    have guids : (objects.eraseP fun object => object.guid = child).map PoolObject.guid =
        (objects.map PoolObject.guid).erase child := by
      rw [List.erase_eq_eraseP, List.eraseP_map]
      congr 2
      funext object
      exact decide_eq_decide.mpr eq_comm
    rw [guids, List.count_erase]
    congr 1
    exact if_congr beq_iff_eq rfl rfl
  unfold copies removeOneRelation
  cases isExplicit with
  | false => exact erased group.equalChanced
  | true => exact erased group.explicitlyChanced

end PoolGroup

end RealmServer.Pools
