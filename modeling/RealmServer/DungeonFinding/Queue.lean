import RealmServer.Lib.OrderedSet

/-!
# The queue of the dungeon finder

`LFGQueue` introduces one premade (a player or a group) at a time and combines
it with every stored combination.  Sets of premades are kept as their guids,
in the order of the set; what a `Premade` points to is looked up in
`queueDataStore`.
-/

namespace RealmServer.DungeonFinding

/-- `ObjectGuid::Empty` is `none` where it can occur. -/
inductive ObjectGuid where
  | player (counter : Nat)
  | group (counter : Nat)
deriving DecidableEq, Repr

/-- `operator<`; the high part of a group is above the one of a player. -/
def ObjectGuid.Before : ObjectGuid → ObjectGuid → Prop
  | .player first, .player second => first < second
  | .player _, .group _ => True
  | .group _, .player _ => False
  | .group first, .group second => first < second

instance : DecidableRel ObjectGuid.Before
  | .player first, .player second => inferInstanceAs (Decidable (first < second))
  | .player _, .group _ => inferInstanceAs (Decidable True)
  | .group _, .player _ => inferInstanceAs (Decidable False)
  | .group first, .group second => inferInstanceAs (Decidable (first < second))

/-! ## Roles -/

inductive LfgRole where
  | tank
  | healer
  | damage
deriving DecidableEq, Repr

/-- The bit of `LfgRoles`. -/
def LfgRole.bit : LfgRole → UInt8
  | .tank => 2
  | .healer => 4
  | .damage => 8

def playerRoleLeader : UInt8 := 1

/-- In the order of `LfgRolesNeededMap`. -/
def LfgRole.all : List LfgRole := [.tank, .healer, .damage]

def neededAllRoles : LfgRole → Nat
  | .tank => 1
  | .healer => 1
  | .damage => 3

def maxGroupSize : Nat := 5

/-- A map from players to the roles they selected. -/
structure LfgRolesMap where
  players : List (ObjectGuid × UInt8)
  sorted : players.Pairwise fun first second => first.1.Before second.1

instance : Inhabited LfgRolesMap := ⟨{ players := [], sorted := .nil }⟩

/-- `roles.insert`, which keeps what is there. -/
def insertRoles (roles : List (ObjectGuid × UInt8)) (entry : ObjectGuid × UInt8) :
    List (ObjectGuid × UInt8) :=
  OrderedSet.insert (fun first second : ObjectGuid × UInt8 => first.1.Before second.1)
    entry roles

/-! ## Proposals -/

inductive LfgAnswer where
  | pending
  | deny
  | agree
deriving DecidableEq, Repr

inductive LfgProposalState where
  | initiating
  | failed
  | success
deriving DecidableEq, Repr

structure LfgProposalPlayer where
  guid : ObjectGuid
  role : LfgRole
  accept : LfgAnswer
  group : Option ObjectGuid
deriving DecidableEq, Repr

structure LfgProposal where
  id : UInt32 := 0
  dungeonId : Nat
  state : LfgProposalState := .initiating
  group : Option ObjectGuid
  leader : Option ObjectGuid
  cancelTime : Int
  isNew : Bool
  needSendUpdate : Bool := true
  queues : List ObjectGuid
  players : List LfgProposalPlayer
  commonDungeons : Finset Nat
  /-- The players which were put into `LFG_STATE_PROPOSAL` and sent the proposal. -/
  told : List ObjectGuid := []
deriving DecidableEq

def lfgTimeProposal : Int := 45

/-! ## The data of the queue -/

structure QueueData where
  joinTime : Int
  dungeons : Finset Nat
  roles : LfgRolesMap
  isLfgGroup : Bool
deriving Inhabited

/-- A map from dungeons to the time when they are added. -/
abbrev TimedDungeonSet : Type := List (Nat × Int)

structure DelayedDungeonEntry where
  dungeon : Nat
  timeToAdd : Int
  joinTime : Int
  premade : ObjectGuid
deriving DecidableEq, Repr

def delayedDungeonEntry (guid : ObjectGuid) (joinTime : Int) (timed : Nat × Int) :
    DelayedDungeonEntry where
  dungeon := timed.1
  timeToAdd := timed.2
  joinTime := joinTime
  premade := guid

/-- The order of `timedDungeonEntries` looks at the time only. -/
def DelayedDungeonEntry.Before (first second : DelayedDungeonEntry) : Prop :=
  first.timeToAdd < second.timeToAdd

instance : DecidableRel DelayedDungeonEntry.Before :=
  fun first second => inferInstanceAs (Decidable (first.timeToAdd < second.timeToAdd))

structure Combination where
  premades : List ObjectGuid
  joinTimeAvg : Int
  rolesNeeded : LfgRole → Nat

def Combination.Before (first second : Combination) : Prop :=
  first.joinTimeAvg < second.joinTimeAvg

instance : DecidableRel Combination.Before :=
  fun first second => inferInstanceAs (Decidable (first.joinTimeAvg < second.joinTimeAvg))

inductive CombinationInfoResult where
  | invalid
  | incomplete
  | complete
deriving DecidableEq, Repr

structure CombinationInfo where
  state : CombinationInfoResult
  premades : List ObjectGuid := []
  arrangement : List (ObjectGuid × LfgRole) := []
  commonDungeons : Finset Nat := ∅
  leaderGuid : Option ObjectGuid := none
  groupFromDungeon : Option ObjectGuid := none

structure LFGQueue where
  queueDataStore : ObjectGuid → Option QueueData
  /-- Removed data, which may be requested again. -/
  queueDataCellar : ObjectGuid → Option QueueData
  queue : List ObjectGuid
  newToQueue : List ObjectGuid
  allCombinations : List Combination
  timedDungeonEntries : List DelayedDungeonEntry
  combinationsUpdated : Bool
  timesUpdated : Bool
  isUpdating : Bool
  /-- Whether an `assert(!_isUpdating)` was reached in an update. -/
  assertFailed : Bool

/-- What a search finds outside the queue. -/
structure Surroundings where
  now : Int
  /-- The first player is online and ignores the second one. -/
  hasIgnore : ObjectGuid → ObjectGuid → Bool
  getGroup : ObjectGuid → Option ObjectGuid
  /-- `GetOldState` of a group is `LFG_STATE_DUNGEON`. -/
  oldStateIsDungeon : ObjectGuid → Bool
  /-- The numbers drawn for an arrangement, a leader and a dungeon. -/
  random : List ObjectGuid → Nat × Nat × Nat

def selectRandomContainerElement {Element : Type} (drawn : Nat) (container : List Element) :
    Option Element :=
  container[drawn % container.length]?

/-- `Premade::operator<`. -/
def PremadeBefore (data : ObjectGuid → QueueData) (first second : ObjectGuid) : Prop :=
  first ≠ second ∧
    if (data first).joinTime = (data second).joinTime then first.Before second
    else (data first).joinTime < (data second).joinTime

instance (data : ObjectGuid → QueueData) : DecidableRel (PremadeBefore data) :=
  fun _ _ => inferInstanceAs (Decidable (_ ∧ _))

/-! ## Combinations of premades -/

/-- The recursion of `CheckRoles`; the last argument collects the arrangements. -/
def checkRolesFrom (full : Bool) :
    List (ObjectGuid × UInt8) → (LfgRole → Nat) → List (ObjectGuid × LfgRole) →
      List (List (ObjectGuid × LfgRole)) → List (List (ObjectGuid × LfgRole))
  | [], _, interim, result =>
      if !full && !result.isEmpty then result else result ++ [interim]
  | nextPlayer :: players, needed, interim, result =>
      if !full && !result.isEmpty then result
      else
        LfgRole.all.foldl (fun result role =>
          if needed role = 0 ∨ role.bit &&& nextPlayer.2 = 0 then result
          else
            checkRolesFrom full players (Function.update needed role (needed role - 1))
              (interim ++ [(nextPlayer.1, role)]) result) result

def checkRoles (roles : List (ObjectGuid × UInt8)) (full : Bool) :
    List (List (ObjectGuid × LfgRole)) :=
  checkRolesFrom full roles neededAllRoles [] []

def selectLeader (drawn : Nat) (roles : List (ObjectGuid × UInt8)) : Option ObjectGuid :=
  let playersWithLeaderFlag := roles.filter fun entry => entry.2 &&& playerRoleLeader ≠ 0
  let candidates := if playersWithLeaderFlag.isEmpty then roles else playersWithLeaderFlag
  (selectRandomContainerElement drawn candidates).map Prod.fst

/-- The roles of all players of the premades. -/
def rolesOf (data : ObjectGuid → QueueData) (premades : List ObjectGuid) :
    List (ObjectGuid × UInt8) :=
  premades.foldl (fun roles premade => (data premade).roles.players.foldl insertRoles roles) []

def commonDungeonsOf (data : ObjectGuid → QueueData) (premades : List ObjectGuid) :
    Finset Nat :=
  match premades with
  | [] => ∅
  | first :: _ =>
      premades.foldl (fun common premade => (data premade).dungeons ∩ common)
        (data first).dungeons

/-- A player of one premade ignores a player of another. -/
def anyIgnore (surroundings : Surroundings) (data : ObjectGuid → QueueData)
    (premades : List ObjectGuid) : Bool :=
  premades.any fun premade =>
    premades.any fun other =>
      premade ≠ other &&
        (data premade).roles.players.any fun player =>
          (data other).roles.players.any fun ignored =>
            surroundings.hasIgnore player.1 ignored.1

def buildCombinationInfo (surroundings : Surroundings) (data : ObjectGuid → QueueData)
    (premades : List ObjectGuid) : CombinationInfo :=
  let roles := rolesOf data premades
  if maxGroupSize < roles.length then { state := .invalid }
  else
    let commonDungeons := commonDungeonsOf data premades
    if commonDungeons = ∅ then { state := .invalid }
    else
      let full : Bool := roles.length = maxGroupSize
      let armts := checkRoles roles full
      if armts = [] then { state := .invalid }
      else
        let groups := premades.filter fun premade => (data premade).isLfgGroup
        if 1 < groups.length then { state := .invalid }
        else if anyIgnore surroundings data premades then { state := .invalid }
        else
          let drawn := surroundings.random premades
          let arrangement := (selectRandomContainerElement drawn.1 armts).getD []
          if !full then { state := .incomplete, premades, arrangement }
          else
            { state := .complete
              premades
              arrangement
              commonDungeons
              leaderGuid := selectLeader drawn.2.1 roles
              groupFromDungeon := groups.head? }

def toCombination (data : ObjectGuid → QueueData) (combination : CombinationInfo) :
    Combination :=
  let sumJoinTime :=
    (combination.premades.map fun premade =>
      (data premade).joinTime * (data premade).roles.players.length).sum
  { premades := combination.premades
    joinTimeAvg := sumJoinTime / combination.arrangement.length
    rolesNeeded := fun role =>
      neededAllRoles role - combination.arrangement.countP fun entry => entry.2 = role }

def buildProposal (surroundings : Surroundings) (combinationInfo : CombinationInfo) :
    LfgProposal :=
  let group := combinationInfo.groupFromDungeon
  let isNew := !group.any surroundings.oldStateIsDungeon
  let drawn := surroundings.random combinationInfo.premades
  { dungeonId :=
      (selectRandomContainerElement drawn.2.2 (combinationInfo.commonDungeons.sort)).getD 0
    group
    leader := combinationInfo.leaderGuid
    cancelTime := surroundings.now + lfgTimeProposal
    isNew
    queues := combinationInfo.premades
    players := combinationInfo.arrangement.map fun entry =>
      let playerGroup := surroundings.getGroup entry.1
      { guid := entry.1
        role := entry.2
        accept :=
          if !isNew && playerGroup.isSome && playerGroup = group then .agree else .pending
        group := playerGroup }
    commonDungeons := combinationInfo.commonDungeons }

namespace LFGQueue

def empty : LFGQueue where
  queueDataStore := fun _ => none
  queueDataCellar := fun _ => none
  queue := []
  newToQueue := []
  allCombinations := []
  timedDungeonEntries := []
  combinationsUpdated := false
  timesUpdated := false
  isUpdating := false
  assertFailed := false

/-- What a premade points to. -/
def data (queue : LFGQueue) (guid : ObjectGuid) : QueueData :=
  (queue.queueDataStore guid).getD default

/-! ## Adding and removing -/

/-- `assert(!_isUpdating)`. -/
def assertNotUpdating (queue : LFGQueue) : LFGQueue :=
  { queue with assertFailed := queue.assertFailed || queue.isUpdating }

def isQueued (queue : LFGQueue) (premade : ObjectGuid) : Bool :=
  premade ∈ queue.queue || premade ∈ queue.newToQueue

/-- `RemoveFromQueue` of a premade. -/
def removePremade (queue : LFGQueue) (premade : ObjectGuid) : LFGQueue :=
  { queue with
    newToQueue := queue.newToQueue.filter (· ≠ premade)
    queue := queue.queue.filter (· ≠ premade)
    allCombinations := queue.allCombinations.filter (premade ∉ ·.premades)
    combinationsUpdated := true }

/-- `RemoveFromQueue` of a guid, which has to have data. -/
def removeFromQueue (queue : LFGQueue) (guid : ObjectGuid) : LFGQueue :=
  if (queue.queueDataStore guid).isSome then queue.removePremade guid else queue

/-- `RemoveFromQueue` of a set of premades. -/
def removePremades (queue : LFGQueue) (premades : List ObjectGuid) : LFGQueue :=
  premades.foldl removePremade queue

/-- The common end of `AddNewToQueue` and `AddOldToQueue`. -/
def insertNewToQueue (queue : LFGQueue) (premade : ObjectGuid) : LFGQueue :=
  let queue := if queue.isQueued premade then queue.removePremade premade else queue
  { queue with
    newToQueue := OrderedSet.insert (PremadeBefore queue.data) premade queue.newToQueue }

def addNewToQueue (queue : LFGQueue) (now : Int) (guid : ObjectGuid) (joinTime : Int)
    (dungeonTimes : TimedDungeonSet) (roles : LfgRolesMap) (isLfgGroup : Bool) : LFGQueue :=
  let queue := queue.assertNotUpdating
  let dungeons := ((dungeonTimes.filter (·.2 ≤ now)).map Prod.fst).toFinset
  let delayed := dungeonTimes.filter (now < ·.2)
  let timedDungeonEntries :=
    delayed.foldl (fun entries timed =>
      OrderedSet.insert DelayedDungeonEntry.Before (delayedDungeonEntry guid joinTime timed)
        entries)
      queue.timedDungeonEntries
  let queueDataStore :=
    Function.update queue.queueDataStore guid (some { joinTime, dungeons, roles, isLfgGroup })
  { queue with timedDungeonEntries, queueDataStore }.insertNewToQueue guid

def addOldToQueue (queue : LFGQueue) (guid : ObjectGuid) : LFGQueue :=
  let queue := queue.assertNotUpdating
  match queue.queueDataStore guid, queue.queueDataCellar guid with
  | some _, _ => queue.insertNewToQueue guid
  | none, none => queue
  | none, some archived =>
      { queue with
        queueDataStore := Function.update queue.queueDataStore guid (some archived)
      }.insertNewToQueue guid

def removeFromSystem (queue : LFGQueue) (guid : ObjectGuid) : LFGQueue :=
  let queue := queue.assertNotUpdating.removeFromQueue guid
  match queue.queueDataStore guid with
  | none => queue
  | some removed =>
      { queue with
        queueDataCellar := Function.update queue.queueDataCellar guid (some removed)
        queueDataStore := Function.update queue.queueDataStore guid none }

def setDebugUpdating (queue : LFGQueue) (isUpdating : Bool) : LFGQueue :=
  { queue with isUpdating }

/-! ## The search -/

/-- The loop over the existing combinations: the first full group, or the new combinations. -/
def searchCombinations (surroundings : Surroundings) (data : ObjectGuid → QueueData)
    (premade : ObjectGuid) :
    List Combination → List Combination → (Combination × CombinationInfo) ⊕ List Combination
  | [], newCombinations => .inr newCombinations
  | existing :: rest, newCombinations =>
      let info := buildCombinationInfo surroundings data
        (OrderedSet.insert (PremadeBefore data) premade existing.premades)
      match info.state with
      | .invalid => searchCombinations surroundings data premade rest newCombinations
      | .complete => .inl (existing, info)
      | .incomplete =>
          searchCombinations surroundings data premade rest
            (newCombinations.orderedInsert Combination.Before (toCombination data info))

/-- `FindGroup` with the proposal it adds. -/
def findGroup (queue : LFGQueue) (surroundings : Surroundings) (premade : ObjectGuid) :
    LFGQueue × Option LfgProposal :=
  let info := buildCombinationInfo surroundings queue.data [premade]
  match info.state with
  | .invalid => (queue, none)
  | .complete => (queue, some (buildProposal surroundings info))
  | .incomplete =>
      match searchCombinations surroundings queue.data premade queue.allCombinations
        [toCombination queue.data info] with
      | .inl (existing, info) =>
          (queue.removePremades existing.premades, some (buildProposal surroundings info))
      | .inr newCombinations =>
          ({ queue with
              queue := OrderedSet.insert (PremadeBefore queue.data) premade queue.queue
              allCombinations := newCombinations.foldl
                (fun all combination => all.orderedInsert Combination.Before combination)
                queue.allCombinations },
            none)

/-- One entry whose time has come. -/
def addTimedDungeon (queue : LFGQueue) (entry : DelayedDungeonEntry) : LFGQueue :=
  match queue.queueDataStore entry.premade with
  | none => queue
  | some data =>
      if data.joinTime = entry.joinTime then
        let queue :=
          { queue with
            queueDataStore := Function.update queue.queueDataStore entry.premade
              (some { data with dungeons := insert entry.dungeon data.dungeons }) }
        if entry.premade ∈ queue.queue then
          (queue.removePremade entry.premade).addOldToQueue entry.premade
        else queue
      else queue

/-- The loop over `timedDungeonEntries`. -/
def addTimedDungeons (now : Int) : List DelayedDungeonEntry → LFGQueue → LFGQueue
  | [], queue => { queue with timedDungeonEntries := [] }
  | entry :: rest, queue =>
      if entry.timeToAdd ≤ now then addTimedDungeons now rest (queue.addTimedDungeon entry)
      else { queue with timedDungeonEntries := entry :: rest }

/-- `FindGroups` with the proposal it adds. -/
def findGroups (queue : LFGQueue) (surroundings : Surroundings) :
    LFGQueue × Option LfgProposal :=
  let queue := addTimedDungeons surroundings.now queue.timedDungeonEntries queue
  match queue.newToQueue with
  | [] => (queue, none)
  | premade :: _ =>
      let (queue, proposal) := queue.findGroup surroundings premade
      ({ queue with newToQueue := queue.newToQueue.tail, combinationsUpdated := true }, proposal)

def needsUpdate (queue : LFGQueue) (now : Int) : Bool :=
  !queue.newToQueue.isEmpty || queue.combinationsUpdated || queue.timesUpdated ||
    queue.timedDungeonEntries.head?.any fun entry => entry.timeToAdd < now

end LFGQueue

/-! ## The queue in a run -/

inductive LFGQueueEvent where
  | addNewToQueue (now : Int) (guid : ObjectGuid) (joinTime : Int)
      (dungeonTimes : TimedDungeonSet) (roles : LfgRolesMap) (isLfgGroup : Bool)
  | addOldToQueue (guid : ObjectGuid)
  | removeFromSystem (guid : ObjectGuid)
  | findGroups (surroundings : Surroundings)

def LFGQueue.step (queue : LFGQueue) : LFGQueueEvent → LFGQueue
  | .addNewToQueue now guid joinTime dungeonTimes roles isLfgGroup =>
      queue.addNewToQueue now guid joinTime dungeonTimes roles isLfgGroup
  | .addOldToQueue guid => queue.addOldToQueue guid
  | .removeFromSystem guid => queue.removeFromSystem guid
  | .findGroups surroundings => (queue.findGroups surroundings).1

/-! ## What the operations leave alone -/

/-- The order of guids tells them apart. -/
theorem ObjectGuid.eq_of_not_before {first second : ObjectGuid}
    (isLater : ¬first.Before second) (isEarlier : ¬second.Before first) : first = second := by
  cases first with
  | player first =>
      cases second with
      | player second =>
          exact congrArg ObjectGuid.player
            (Nat.le_antisymm (Nat.le_of_not_lt isEarlier) (Nat.le_of_not_lt isLater))
      | group second => exact absurd trivial isLater
  | group first =>
      cases second with
      | player second => exact absurd trivial isEarlier
      | group second =>
          exact congrArg ObjectGuid.group
            (Nat.le_antisymm (Nat.le_of_not_lt isEarlier) (Nat.le_of_not_lt isLater))

theorem ObjectGuid.not_before_self (guid : ObjectGuid) : ¬guid.Before guid := by
  cases guid with
  | player counter => exact Nat.lt_irrefl counter
  | group counter => exact Nat.lt_irrefl counter

theorem equivalent_premadeBefore_iff {data : ObjectGuid → QueueData}
    {first second : ObjectGuid} :
    OrderedSet.Equivalent (PremadeBefore data) first second ↔ first = second := by
  constructor
  · rintro ⟨notBefore, notAfter⟩
    by_contra differ
    unfold PremadeBefore at notBefore notAfter
    rw [not_and] at notBefore notAfter
    have isLater := notBefore differ
    have isEarlier := notAfter (Ne.symm differ)
    by_cases sameTime : (data first).joinTime = (data second).joinTime
    · rw [if_pos sameTime] at isLater
      rw [if_pos sameTime.symm] at isEarlier
      exact differ (ObjectGuid.eq_of_not_before isLater isEarlier)
    · rw [if_neg sameTime] at isLater
      rw [if_neg (Ne.symm sameTime)] at isEarlier
      omega
  · rintro rfl
    exact ⟨fun before => before.1 rfl, fun before => before.1 rfl⟩

namespace LFGQueue

variable (queue : LFGQueue) (guid : ObjectGuid)

@[simp]
theorem assertNotUpdating_queueDataStore :
    queue.assertNotUpdating.queueDataStore = queue.queueDataStore := rfl

@[simp]
theorem assertNotUpdating_queueDataCellar :
    queue.assertNotUpdating.queueDataCellar = queue.queueDataCellar := rfl

@[simp]
theorem removePremade_queueDataStore :
    (queue.removePremade guid).queueDataStore = queue.queueDataStore := rfl

@[simp]
theorem removeFromQueue_queueDataStore :
    (queue.removeFromQueue guid).queueDataStore = queue.queueDataStore := by
  unfold removeFromQueue
  split_ifs
  · rfl
  · rfl

@[simp]
theorem removeFromQueue_timedDungeonEntries :
    (queue.removeFromQueue guid).timedDungeonEntries = queue.timedDungeonEntries := by
  unfold removeFromQueue
  split_ifs
  · rfl
  · rfl

@[simp]
theorem insertNewToQueue_queueDataStore :
    (queue.insertNewToQueue guid).queueDataStore = queue.queueDataStore := by
  unfold insertNewToQueue
  dsimp only
  split_ifs
  · rfl
  · rfl

@[simp]
theorem insertNewToQueue_timedDungeonEntries :
    (queue.insertNewToQueue guid).timedDungeonEntries = queue.timedDungeonEntries := by
  unfold insertNewToQueue
  dsimp only
  split_ifs
  · rfl
  · rfl

theorem removePremades_queueDataStore (premades : List ObjectGuid) :
    (queue.removePremades premades).queueDataStore = queue.queueDataStore := by
  unfold removePremades
  induction premades generalizing queue with
  | nil => rfl
  | cons premade rest induction => exact induction (queue.removePremade premade)

theorem removePremades_timedDungeonEntries (premades : List ObjectGuid) :
    (queue.removePremades premades).timedDungeonEntries = queue.timedDungeonEntries := by
  unfold removePremades
  induction premades generalizing queue with
  | nil => rfl
  | cons premade rest induction => exact induction (queue.removePremade premade)

/-- Data which is there stays; otherwise the archived data comes back. -/
theorem addOldToQueue_queueDataStore :
    (queue.addOldToQueue guid).queueDataStore =
      Function.update queue.queueDataStore guid
        ((queue.queueDataStore guid).or (queue.queueDataCellar guid)) := by
  unfold addOldToQueue
  dsimp only
  rw [assertNotUpdating_queueDataStore, assertNotUpdating_queueDataCellar]
  cases stored : queue.queueDataStore guid with
  | some data =>
      dsimp only
      rw [insertNewToQueue_queueDataStore, Option.some_or, ← stored, Function.update_eq_self]
      rfl
  | none =>
      cases archived : queue.queueDataCellar guid with
      | none =>
          dsimp only
          rw [Option.none_or, ← stored, Function.update_eq_self]
          rfl
      | some data =>
          dsimp only
          rw [insertNewToQueue_queueDataStore, Option.none_or]

@[simp]
theorem addOldToQueue_timedDungeonEntries :
    (queue.addOldToQueue guid).timedDungeonEntries = queue.timedDungeonEntries := by
  unfold addOldToQueue
  dsimp only
  split
  · exact insertNewToQueue_timedDungeonEntries _ _
  · rfl
  · exact insertNewToQueue_timedDungeonEntries _ _

theorem removeFromSystem_queueDataStore :
    (queue.removeFromSystem guid).queueDataStore =
      Function.update queue.queueDataStore guid none := by
  unfold removeFromSystem
  dsimp only
  rw [removeFromQueue_queueDataStore, assertNotUpdating_queueDataStore]
  cases stored : queue.queueDataStore guid with
  | none =>
      dsimp only
      rw [removeFromQueue_queueDataStore, ← stored, Function.update_eq_self]
      rfl
  | some data => rfl

@[simp]
theorem removeFromSystem_timedDungeonEntries :
    (queue.removeFromSystem guid).timedDungeonEntries = queue.timedDungeonEntries := by
  unfold removeFromSystem
  dsimp only
  split
  · exact removeFromQueue_timedDungeonEntries _ _
  · exact removeFromQueue_timedDungeonEntries _ _

theorem addTimedDungeon_queueDataStore (entry : DelayedDungeonEntry) :
    (queue.addTimedDungeon entry).queueDataStore =
      Function.update queue.queueDataStore entry.premade
        ((queue.queueDataStore entry.premade).map fun data =>
          if data.joinTime = entry.joinTime then
            { data with dungeons := insert entry.dungeon data.dungeons }
          else data) := by
  unfold addTimedDungeon
  cases stored : queue.queueDataStore entry.premade with
  | none =>
      dsimp only
      rw [Option.map_none, ← stored, Function.update_eq_self]
  | some data =>
      dsimp only
      rw [Option.map_some]
      split_ifs with sameTime inQueue
      · rw [addOldToQueue_queueDataStore, removePremade_queueDataStore]
        dsimp only
        rw [Function.update_self, Option.some_or, Function.update_idem]
      · rfl
      · rw [← stored, Function.update_eq_self]

variable (surroundings : Surroundings)

theorem findGroup_queueDataStore :
    (queue.findGroup surroundings guid).1.queueDataStore = queue.queueDataStore := by
  unfold findGroup
  dsimp only
  split
  · rfl
  · rfl
  · split
    · exact removePremades_queueDataStore _ _
    · rfl

theorem findGroup_timedDungeonEntries :
    (queue.findGroup surroundings guid).1.timedDungeonEntries =
      queue.timedDungeonEntries := by
  unfold findGroup
  dsimp only
  split
  · rfl
  · rfl
  · split
    · exact removePremades_timedDungeonEntries _ _
    · rfl

/-- Only the delayed dungeons change the data in a search. -/
theorem findGroups_queueDataStore :
    (queue.findGroups surroundings).1.queueDataStore =
      (addTimedDungeons surroundings.now queue.timedDungeonEntries queue).queueDataStore := by
  unfold findGroups
  dsimp only
  split
  · rfl
  · exact findGroup_queueDataStore _ _ _

theorem findGroups_timedDungeonEntries :
    (queue.findGroups surroundings).1.timedDungeonEntries =
      (addTimedDungeons surroundings.now queue.timedDungeonEntries queue).timedDungeonEntries := by
  unfold findGroups
  dsimp only
  split
  · rfl
  · exact findGroup_timedDungeonEntries _ _ _

end LFGQueue

end RealmServer.DungeonFinding
