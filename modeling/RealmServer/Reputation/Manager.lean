import RealmServer.Lib.Table
import RealmServer.Lib.Transition

/-!
# Reputation

A player has a standing with each faction of the list, relative to a base value
which depends on his race and class.  Four counters of eight bits are kept
beside the standings, and the factions that changed are saved as rows of
`character_reputation`.
-/

namespace RealmServer.Reputation

open Table

/-! ## Factions -/

/-- `ReputationRank`. -/
abbrev ReputationRank := Nat

def repHated : ReputationRank := 0

def repHostile : ReputationRank := 1

def repUnfriendly : ReputationRank := 2

def repHonored : ReputationRank := 5

def repRevered : ReputationRank := 6

def repExalted : ReputationRank := 7

def maxReputationRank : Nat := 8

/-- `PointsInRank`. -/
def pointsInRank : List Int32 := [36000, 3000, 3000, 3000, 6000, 12000, 21000, 1000]

def reputationCap : Int32 := 42999

def reputationBottom : Int32 := -42000

/-- The loop of `ReputationToRank` over the ranks below one. -/
def rankBelow (standing : Int32) : Nat → Int32 → ReputationRank
  | 0, _ => repHated
  | rank + 1, limit =>
      let limit := limit - pointsInRank.getD rank 0
      if limit ≤ standing then rank else rankBelow standing rank limit

def reputationToRank (standing : Int32) : ReputationRank :=
  rankBelow standing maxReputationRank (reputationCap + 1)

def factionFlagVisible : UInt8 := 0x01

def factionFlagAtWar : UInt8 := 0x02

def factionFlagHidden : UInt8 := 0x04

def factionFlagInvisibleForced : UInt8 := 0x08

def factionFlagPeaceForced : UInt8 := 0x10

def factionFlagInactive : UInt8 := 0x20

def factionFlagSpecial : UInt8 := 0x80

def hasFlag (flags flag : UInt8) : Bool := flags &&& flag != 0

/-- A row of `Faction.dbc`. -/
structure FactionEntry where
  id : Nat
  reputationListID : Int32
  baseRepRaceMask : Fin 4 → UInt32
  baseRepClassMask : Fin 4 → UInt32
  baseRepValue : Fin 4 → Int32
  reputationFlags : Fin 4 → UInt32
  team : Nat
  /-- `spilloverRateOut` is not zero. -/
  spillsOut : Bool
  spilloverMaxRankIn : Nat

namespace FactionEntry

def canHaveReputation (entry : FactionEntry) : Bool := 0 ≤ entry.reputationListID

/-- The key of the faction among the states. -/
def key (entry : FactionEntry) : UInt32 := entry.reputationListID.toUInt32

end FactionEntry

/-- The masks of a player. -/
structure Player where
  raceMask : UInt32
  classMask : UInt32

/-- The base value which is for the player; the first one counts. -/
def baseIndex (player : Player) (entry : FactionEntry) : Option (Fin 4) :=
  (List.finRange 4).find? fun index =>
    (entry.baseRepRaceMask index &&& player.raceMask != 0 ||
        (entry.baseRepRaceMask index == 0 && entry.baseRepClassMask index != 0)) &&
      (entry.baseRepClassMask index &&& player.classMask != 0 ||
        entry.baseRepClassMask index == 0)

def getBaseReputation (player : Player) (entry : FactionEntry) : Int32 :=
  match baseIndex player entry with
  | none => 0
  | some index => entry.baseRepValue index

/-- `GetDefaultStateFlags`, in the eight bits a state has for it. -/
def getDefaultStateFlags (player : Player) (entry : FactionEntry) : UInt8 :=
  match baseIndex player entry with
  | none => 0
  | some index => (entry.reputationFlags index).toUInt8

/-- A faction that gets a part of another one's reputation. -/
structure Spillover where
  faction : Nat
  factionRank : ReputationRank
  /-- `int32(standing * faction_rate)`. -/
  rate : Int32 → Int32

/--
`sFactionStore` and what depends on it.  Only what the data of the game has is
allowed: list ids are used once, the base values are standings, and no faction
is inactive by default.
-/
structure FactionStore where
  entries : List FactionEntry
  ids : (entries.map FactionEntry.id).Nodup
  listIds : ((entries.filter FactionEntry.canHaveReputation).map FactionEntry.key).Nodup
  baseValues : ∀ entry ∈ entries, ∀ index,
    reputationBottom ≤ entry.baseRepValue index ∧ entry.baseRepValue index ≤ reputationCap
  active : ∀ entry ∈ entries, ∀ index,
    hasFlag (entry.reputationFlags index).toUInt8 factionFlagInactive = false
  few : (entries.filter FactionEntry.canHaveReputation).length ≤ 255
  /-- `GetFactionTeamList`. -/
  teamList : Nat → Option (List Nat)
  /-- `GetRepSpilloverTemplate`. -/
  templates : Nat → Option (List Spillover)

namespace FactionStore

def lookupEntry (store : FactionStore) (id : Nat) : Option FactionEntry :=
  find FactionEntry.id store.entries id

/-- The factions with a place in the list; row 0 is not looked at. -/
def listed (store : FactionStore) : List FactionEntry :=
  (store.entries.filter FactionEntry.canHaveReputation).filter (·.id ≠ 0)

end FactionStore

/-! ## States -/

structure FactionState where
  id : Nat
  reputationListID : UInt32
  standing : Int32
  flags : UInt8
  needSend : Bool
  needSave : Bool
deriving DecidableEq

namespace FactionState

def has (faction : FactionState) (flag : UInt8) : Bool := hasFlag faction.flags flag

/-- Always invisible or hidden. -/
def isConcealed (faction : FactionState) : Bool :=
  faction.has (factionFlagInvisibleForced ||| factionFlagHidden)

/-- `SetVisible` changes something. -/
def becomesVisible (faction : FactionState) : Bool :=
  !(faction.isConcealed && !faction.has factionFlagSpecial) && !faction.has factionFlagVisible

def setVisible (faction : FactionState) : FactionState :=
  if faction.becomesVisible then
    { faction with
      flags := faction.flags ||| factionFlagVisible
      needSend := true
      needSave := true }
  else faction

/-- `SetAtWar`; `sworn` says that it is one of two factions which are enemies for ever. -/
def setAtWar (faction : FactionState) (sworn atWar : Bool) : FactionState :=
  let faction :=
    if atWar && sworn then { faction with flags := faction.flags ||| factionFlagAtWar }
    else faction
  -- not allow declare war to own faction
  if atWar && faction.has factionFlagPeaceForced then faction
  else if faction.has factionFlagAtWar = atWar then faction
  else
    { faction with
      flags :=
        if atWar then faction.flags ||| factionFlagAtWar
        else faction.flags &&& ~~~factionFlagAtWar
      needSend := true
      needSave := true }

def setInactive (faction : FactionState) (inactive : Bool) : FactionState :=
  -- always invisible or hidden faction can't be inactive
  if inactive && (faction.isConcealed || !faction.has factionFlagVisible) then faction
  else if faction.has factionFlagInactive = inactive then faction
  else
    { faction with
      flags :=
        if inactive then faction.flags ||| factionFlagInactive
        else faction.flags &&& ~~~factionFlagInactive
      needSend := true
      needSave := true }

/-- The flags of a saved faction in `LoadFromDB`. -/
def loadFlags (faction : FactionState) (sworn : FactionState → Bool) (rank : ReputationRank)
    (dbFactionFlags : UInt32) : FactionState :=
  let has (flag : UInt8) : Bool := dbFactionFlags &&& flag.toUInt32 != 0
  let faction := if has factionFlagVisible then faction.setVisible else faction
  let faction := if has factionFlagInactive then faction.setInactive true else faction
  let faction :=
    if has factionFlagAtWar then faction.setAtWar (sworn faction) true
    else if faction.has factionFlagVisible then faction.setAtWar false false
    else faction
  -- set atWar for hostile
  let faction :=
    if rank ≤ repHostile then faction.setAtWar (sworn faction) true else faction
  -- reset changed flag if values similar to saved in DB
  if faction.flags.toUInt32 = dbFactionFlags then
    { faction with needSend := false, needSave := false }
  else faction

end FactionState

/-- A call of `SetOneFactionReputation` that found its faction. -/
structure Change where
  /-- `GetReputation` before the call. -/
  before : Int32
  incremental : Bool
  /-- What was given, after the rate. -/
  amount : Int32
  /-- `GetReputation` after the call. -/
  after : Int32
deriving DecidableEq

structure Manager where
  /-- `_factions`. -/
  factions : List FactionState
  visibleFactionCount : UInt8
  honoredFactionCount : UInt8
  reveredFactionCount : UInt8
  exaltedFactionCount : UInt8
  sendFactionIncreased : Bool
  /-- All changes so far. -/
  history : List Change

/-- A row of `character_reputation` for the player. -/
structure Row where
  faction : UInt16
  standing : Int32
  flags : UInt16
deriving DecidableEq

/-- The rates for one change, as functions of the standing. -/
structure Rates where
  /-- `RATE_REPUTATION_GAIN`. -/
  gain : Int32 → Int32
  /-- `spilloverRateOut`, for the parent of the faction. -/
  parent : Int32 → Int32
  /-- What a faction of the same team gets, from the standing or what is spilled of it. -/
  team : FactionEntry → Bool → Int32 → Int32

section Manager

variable (store : FactionStore) (player : Player)

namespace Manager

/-- A new manager. -/
def init : Manager := ⟨[], 0, 0, 0, 0, false, []⟩

/-- `_factions.find` with the list id of a faction, which becomes unsigned. -/
def findState (manager : Manager) (entry : FactionEntry) : Option FactionState :=
  find FactionState.reputationListID manager.factions entry.key

def getState (manager : Manager) (entry : FactionEntry) : Option FactionState :=
  if entry.canHaveReputation then manager.findState entry else none

def getReputation (manager : Manager) (entry : FactionEntry) : Int32 :=
  match manager.getState entry with
  | none => 0
  | some faction => getBaseReputation player entry + faction.standing

def getRank (manager : Manager) (entry : FactionEntry) : ReputationRank :=
  reputationToRank (manager.getReputation player entry)

/-- `Player::GetReputationRank`. -/
def getReputationRank (manager : Manager) (id : Nat) : ReputationRank :=
  match store.lookupEntry id with
  | none => reputationToRank 0
  | some entry => manager.getRank player entry

/-- A state is written through its pointer. -/
def write (manager : Manager) (faction : FactionState) : Manager :=
  { manager with
    factions := replace FactionState.reputationListID manager.factions faction }

/-- Two factions which nobody makes peace with. -/
def isSworn (manager : Manager) (faction : FactionState) : Bool :=
  let manager := manager.write faction
  (faction.id == 1104 && manager.getReputationRank store player 1104 < repUnfriendly) ||
    (faction.id == 1105 && manager.getReputationRank store player 1105 < repUnfriendly)

/-- One of the counters after a rank has changed. -/
def countRank (rank old new : ReputationRank) (count : UInt8) : UInt8 :=
  let count := if rank ≤ old then count - 1 else count
  if rank ≤ new then count + 1 else count

def updateRankCounters (manager : Manager) (old new : ReputationRank) : Manager :=
  { manager with
    exaltedFactionCount := countRank repExalted old new manager.exaltedFactionCount
    reveredFactionCount := countRank repRevered old new manager.reveredFactionCount
    honoredFactionCount := countRank repHonored old new manager.honoredFactionCount }

/-- `SetVisible`, which counts the faction. -/
def showFaction (manager : Manager) (faction : FactionState) : Manager :=
  { manager.write faction.setVisible with
    visibleFactionCount :=
      if faction.becomesVisible then manager.visibleFactionCount + 1
      else manager.visibleFactionCount }

/-! ### Loading and saving -/

def initialState (entry : FactionEntry) : FactionState where
  id := entry.id
  reputationListID := entry.key
  standing := 0
  flags := getDefaultStateFlags player entry
  needSend := true
  needSave := true

/-- One faction in `Initialize`. -/
def initializeOne (manager : Manager) (entry : FactionEntry) : Manager :=
  let newFaction := initialState player entry
  let manager := { manager with
    visibleFactionCount :=
      if newFaction.has factionFlagVisible then manager.visibleFactionCount + 1
      else manager.visibleFactionCount }
  let manager := manager.updateRankCounters repHostile
    (reputationToRank (getBaseReputation player entry))
  { manager with
    factions := assign FactionState.reputationListID manager.factions newFaction }

def initializeFactions (manager : Manager) : Manager :=
  store.listed.foldl (initializeOne player) { init with history := manager.history }

/-- One row in `LoadFromDB`. -/
def loadRow (manager : Manager) (row : Row) : Manager :=
  match store.lookupEntry row.faction.toNat with
  | none => manager
  | some entry =>
      match manager.getState entry with
      | none => manager
      | some faction =>
          -- update standing to current
          let faction := { faction with standing := row.standing }
          let base := getBaseReputation player entry
          let manager := manager.updateRankCounters (reputationToRank base)
            (reputationToRank (base + faction.standing))
          let dbFactionFlags := row.flags.toUInt32
          let becomesVisible := faction.becomesVisible &&
            dbFactionFlags &&& factionFlagVisible.toUInt32 != 0
          let faction := faction.loadFlags (manager.isSworn store player)
            (reputationToRank (base + faction.standing)) dbFactionFlags
          { manager.write faction with
            visibleFactionCount :=
              if becomesVisible then manager.visibleFactionCount + 1
              else manager.visibleFactionCount }

def loadFromDB (manager : Manager) (rows : List Row) : Manager :=
  rows.foldl (loadRow store player) (initializeFactions store player manager)

/-- One faction in `SaveToDB`, deleted and inserted. -/
def saveOne (rows : List Row) (faction : FactionState) : List Row :=
  if faction.needSave then
    let row : Row := ⟨UInt16.ofNat faction.id, faction.standing, faction.flags.toUInt16⟩
    assign Row.faction rows row
  else rows

def saveToDB (manager : Manager) (rows : List Row) : Manager × List Row :=
  ({ manager with
      factions := manager.factions.map fun faction => { faction with needSave := false } },
    manager.factions.foldl saveOne rows)

/-! ### Changes -/

/-- `SendState`. -/
def sendState (manager : Manager) : Manager :=
  { manager with
    sendFactionIncreased := false
    factions := manager.factions.map fun faction => { faction with needSend := false } }

def setOneFactionReputation (rates : Rates) (manager : Manager) (entry : FactionEntry)
    (standing : Int32) (incremental : Bool) : Manager :=
  match manager.findState entry with
  | none => manager
  | some faction =>
      let baseRep := getBaseReputation player entry
      let amount := if incremental then rates.gain standing else standing
      let standing := if incremental then amount + (faction.standing + baseRep) else amount
      let standing :=
        if reputationCap < standing then reputationCap
        else if standing < reputationBottom then reputationBottom
        else standing
      let oldRank := reputationToRank (faction.standing + baseRep)
      let newRank := reputationToRank standing
      let before := manager.getReputation player entry
      let faction := { faction with
        standing := standing - baseRep
        needSend := true
        needSave := true }
      let manager := manager.showFaction faction
      let faction := faction.setVisible
      let faction :=
        if newRank ≤ repHostile then
          faction.setAtWar (manager.isSworn store player faction) true
        else faction
      let manager := manager.write faction
      let manager := { manager with
        sendFactionIncreased := manager.sendFactionIncreased || oldRank < newRank }
      let manager := manager.updateRankCounters oldRank newRank
      let change : Change := ⟨before, incremental, amount, manager.getReputation player entry⟩
      { manager with history := change :: manager.history }

/-- Spillover to the factions of a team. -/
def spillToTeam (rates : Rates) (entry : FactionEntry) (standing : Int32)
    (incremental reduced : Bool) (manager : Manager) (list : List Nat) : Manager :=
  list.foldl (fun manager id =>
    match store.lookupEntry id with
    | none => manager
    | some target =>
        if target.id = entry.id ∨ target.spilloverMaxRankIn < manager.getRank player target then
          manager
        else
          let spilloverRep := rates.team target reduced standing
          if spilloverRep ≠ 0 ∨ !incremental then
            manager.setOneFactionReputation store player rates target spilloverRep incremental
          else manager) manager

/-- Spillover by a template of the database. -/
def spillByTemplate (rates : Rates) (standing : Int32) (incremental : Bool) (manager : Manager)
    (template : List Spillover) : Manager :=
  template.foldl (fun manager spillover =>
    if spillover.faction ≠ 0 ∧
        manager.getReputationRank store player spillover.faction ≤ spillover.factionRank then
      match store.lookupEntry spillover.faction with
      | none => manager
      | some target =>
          manager.setOneFactionReputation store player rates target (spillover.rate standing)
            incremental
    else manager) manager

/-- The spillover of `SetReputation`. -/
def spill (rates : Rates) (manager : Manager) (entry : FactionEntry) (standing : Int32)
    (incremental : Bool) : Manager :=
  match store.templates entry.id with
  | some template => spillByTemplate store player rates standing incremental manager template
  | none =>
      match store.teamList entry.id with
      | some list => spillToTeam store player rates entry standing incremental false manager list
      | none =>
          if entry.team ≠ 0 ∧ entry.spillsOut then
            match store.lookupEntry entry.team with
            | none => manager
            | some parent =>
                let special : Bool := match manager.findState parent with
                  | none => false
                  | some state => state.has factionFlagSpecial
                -- some team factions have own reputation standing
                if special then
                  manager.setOneFactionReputation store player rates parent
                    (rates.parent standing) incremental
                else
                  match store.teamList entry.team with
                  | none => manager
                  | some list =>
                      spillToTeam store player rates entry standing incremental true manager list
          else manager

def setReputation (rates : Rates) (manager : Manager) (entry : FactionEntry) (standing : Int32)
    (incremental : Bool) : Manager :=
  let manager := manager.spill store player rates entry standing incremental
  -- spillover done, update faction itself
  match manager.findState entry with
  | none => manager
  | some _ =>
      (manager.setOneFactionReputation store player rates entry standing incremental).sendState

/-- `SetVisible` with a faction. -/
def setVisible (manager : Manager) (entry : FactionEntry) : Manager :=
  match manager.getState entry with
  | none => manager
  | some faction => manager.showFaction faction

def setAtWar (manager : Manager) (repListID : UInt32) (on : Bool) : Manager :=
  match find FactionState.reputationListID manager.factions repListID with
  | none => manager
  | some faction =>
      -- always invisible or hidden faction can't change war state
      if faction.isConcealed then manager
      else manager.write (faction.setAtWar (manager.isSworn store player faction) on)

def setInactive (manager : Manager) (repListID : UInt32) (on : Bool) : Manager :=
  match find FactionState.reputationListID manager.factions repListID with
  | none => manager
  | some faction => manager.write (faction.setInactive on)

end Manager

end Manager

/-! ## Events -/

inductive Event where
  | loadFromDB
  | saveToDB
  | setReputation (rates : Rates) (id : Nat) (standing : Int32) (incremental : Bool)
  | setOneFactionReputation (rates : Rates) (id : Nat) (standing : Int32) (incremental : Bool)
  | setVisible (id : Nat)
  | setAtWar (repListID : UInt32) (on : Bool)
  | setInactive (repListID : UInt32) (on : Bool)

/-- A manager and the rows of its player. -/
structure State where
  manager : Manager
  rows : List Row

section Step

variable (store : FactionStore) (player : Player)

/-- A change of a faction, if there is one with the id. -/
def State.withEntry (state : State) (id : Nat) (change : Manager → FactionEntry → Manager) :
    State :=
  match store.lookupEntry id with
  | none => state
  | some entry => { state with manager := change state.manager entry }

def step (state : State) : Event → State
  | .loadFromDB => { state with manager := state.manager.loadFromDB store player state.rows }
  | .saveToDB =>
      let (manager, rows) := state.manager.saveToDB state.rows
      ⟨manager, rows⟩
  | .setReputation rates id standing incremental =>
      state.withEntry store id fun manager entry =>
        manager.setReputation store player rates entry standing incremental
  | .setOneFactionReputation rates id standing incremental =>
      state.withEntry store id fun manager entry =>
        manager.setOneFactionReputation store player rates entry standing incremental
  | .setVisible id => state.withEntry store id fun manager entry => manager.setVisible entry
  | .setAtWar repListID on =>
      { state with manager := state.manager.setAtWar store player repListID on }
  | .setInactive repListID on =>
      { state with manager := state.manager.setInactive repListID on }

/-- A player who logs in for the first time. -/
def State.start : State := ⟨Manager.init.loadFromDB store player [], []⟩

end Step

end RealmServer.Reputation
