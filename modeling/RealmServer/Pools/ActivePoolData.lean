import RealmServer.Pools.PoolGroup

/-!
# Active members

`ActivePoolData` has the active objects of all pools together, and a counter for
each pool.  A pool with a counter is an active object itself.
-/

namespace RealmServer.Pools

/-- The classes a `PoolGroup` is made for. -/
inductive PoolKind where
  | creature
  | gameobject
  | pool
  | quest
deriving DecidableEq, Repr

structure ActivePoolData where
  spawnedCreatures : List Nat
  spawnedGameobjects : List Nat
  activeQuests : List Nat
  spawnedPools : Nat → Option Nat

namespace ActivePoolData

def isActiveObject (spawns : ActivePoolData) : PoolKind → Nat → Bool
  | .creature, guid => guid ∈ spawns.spawnedCreatures
  | .gameobject, guid => guid ∈ spawns.spawnedGameobjects
  | .pool, subPoolId => (spawns.spawnedPools subPoolId).isSome
  | .quest, questId => questId ∈ spawns.activeQuests

/-- Zero for a pool without a counter. -/
def getActiveObjectCount (spawns : ActivePoolData) (poolId : Nat) : Nat :=
  (spawns.spawnedPools poolId).getD 0

/-- `mSpawnedPools[poolId] = value`. -/
def setCounter (spawns : ActivePoolData) (poolId value : Nat) : ActivePoolData :=
  { spawns with spawnedPools := Function.update spawns.spawnedPools poolId (some value) }

/-- `++mSpawnedPools[poolId]`. -/
def increment (spawns : ActivePoolData) (poolId : Nat) : ActivePoolData :=
  spawns.setCounter poolId (spawns.getActiveObjectCount poolId + 1)

/-- The counter is not taken below zero, but it is made if there is none. -/
def decrement (spawns : ActivePoolData) (poolId : Nat) : ActivePoolData :=
  spawns.setCounter poolId (spawns.getActiveObjectCount poolId - 1)

/-- `ActivateObject`. -/
def activateObject (spawns : ActivePoolData) (kind : PoolKind) (guid poolId : Nat) :
    ActivePoolData :=
  match kind with
  | .creature =>
      { spawns with spawnedCreatures := spawns.spawnedCreatures.insert guid }.increment poolId
  | .gameobject =>
      { spawns with spawnedGameobjects := spawns.spawnedGameobjects.insert guid }.increment poolId
  | .pool => (spawns.setCounter guid 0).increment poolId
  | .quest => { spawns with activeQuests := spawns.activeQuests.insert guid }.increment poolId

/-- `RemoveObject`. -/
def removeObject (spawns : ActivePoolData) (kind : PoolKind) (guid poolId : Nat) :
    ActivePoolData :=
  match kind with
  | .creature =>
      { spawns with spawnedCreatures := spawns.spawnedCreatures.erase guid }.decrement poolId
  | .gameobject =>
      { spawns with spawnedGameobjects := spawns.spawnedGameobjects.erase guid }.decrement poolId
  | .pool =>
      { spawns with
        spawnedPools := Function.update spawns.spawnedPools guid none }.decrement poolId
  | .quest => { spawns with activeQuests := spawns.activeQuests.erase guid }.decrement poolId

end ActivePoolData

end RealmServer.Pools
