import RealmServer.Lib.Table
import RealmServer.DungeonFinding.Queue

/-!
# Updates of the dungeon finder

`LFGMgr` owns the queues and the proposals.  `UpdateStart` schedules
`UpdateQueues` on another thread, where every queue searches once; `UpdateFinish`
waits for it, removes obsolete proposals and sends new ones.  In between the
main thread only runs operations after `UpdateFinish` and before `UpdateStart`.
-/

namespace RealmServer.DungeonFinding

inductive LfgState where
  | none
  | rolecheck
  | queued
  | proposal
  | dungeon
  | finishedDungeon
  | raidbrowser
deriving DecidableEq, Repr

/-- The states in `LfgPlayerData` and `LfgGroupData`, which behave alike. -/
structure LfgStates where
  state : LfgState := .none
  oldState : LfgState := .none
deriving DecidableEq, Repr

def LfgStates.setState (states : LfgStates) : LfgState → LfgStates
  | .none => { state := .none, oldState := .none }
  | .finishedDungeon => { state := .finishedDungeon, oldState := .finishedDungeon }
  | .dungeon => { state := .dungeon, oldState := .dungeon }
  | state => { states with state }

def LfgStates.restoreState (states : LfgStates) : LfgStates :=
  { states with state := states.oldState }

structure LFGMgr where
  /-- The keys of `QueuesStore`. -/
  queueIds : List UInt8
  queuesStore : UInt8 → LFGQueue
  /-- The queues which the scheduled update has not reached. -/
  currentUpdate : List UInt8
  /-- Between `UpdateStart` and `UpdateFinish`. -/
  updateStarted : Bool
  proposalsStore : List LfgProposal
  lfgProposalId : UInt32
  /-- `PlayersStore` and `GroupsStore`. -/
  states : ObjectGuid → LfgStates
  team : ObjectGuid → UInt8
  group : ObjectGuid → Option ObjectGuid
  players : ObjectGuid → List ObjectGuid
  /-- Proposals which were removed as obsolete before they were sent. -/
  neverSent : List LfgProposal

/-- The type of removal. -/
inductive LfgUpdateType where
  | proposalFailed
  | proposalDeclined
deriving DecidableEq, Repr

/-- The groups after `MakeNewGroup`, which moves the players outside the finder. -/
structure Regrouping where
  gguid : ObjectGuid
  group : ObjectGuid → Option ObjectGuid
  players : ObjectGuid → List ObjectGuid

/-- The answer of a player. -/
def LfgProposal.answer (proposal : LfgProposal) (guid : ObjectGuid) (accept : LfgAnswer) :
    LfgProposal :=
  { proposal with
    players := proposal.players.map fun player =>
      if player.guid = guid then { player with accept } else player }

def LfgProposal.send (proposal : LfgProposal) : LfgProposal :=
  { proposal with
    needSendUpdate := false
    told := proposal.players.map LfgProposalPlayer.guid }

/-- "Remove players/groups from Queue"; wait times are updated for more than two premades. -/
def LFGQueue.removeCompleted (queue : LFGQueue) (queues : List ObjectGuid) : LFGQueue :=
  let queue :=
    if maxGroupSize / 2 < queues.length then { queue with timesUpdated := true } else queue
  queues.foldl LFGQueue.removeFromSystem queue

namespace LFGMgr

def start (states : ObjectGuid → LfgStates) (team : ObjectGuid → UInt8)
    (group : ObjectGuid → Option ObjectGuid) (players : ObjectGuid → List ObjectGuid) :
    LFGMgr where
  queueIds := []
  queuesStore := fun _ => .empty
  currentUpdate := []
  updateStarted := false
  proposalsStore := []
  lfgProposalId := 1
  states
  team
  group
  players
  neverSent := []

/-! ## Access -/

def setState (manager : LFGMgr) (guid : ObjectGuid) (state : LfgState) : LFGMgr :=
  { manager with
    states := Function.update manager.states guid ((manager.states guid).setState state) }

def restoreState (manager : LFGMgr) (guid : ObjectGuid) : LFGMgr :=
  { manager with
    states := Function.update manager.states guid (manager.states guid).restoreState }

/-- The key of `GetQueue`. -/
def queueId (manager : LFGMgr) : ObjectGuid → UInt8
  | .player counter => manager.team (.player counter)
  | .group counter =>
      match manager.players (.group counter) with
      | [] => 0
      | first :: _ => manager.team first

/-- Change the queue which `GetQueue` returns; it is created if there is none. -/
def changeQueue (manager : LFGMgr) (queueId : UInt8) (change : LFGQueue → LFGQueue) : LFGMgr :=
  { manager with
    queueIds := OrderedSet.insert (· < ·) queueId manager.queueIds
    queuesStore :=
      Function.update manager.queuesStore queueId (change (manager.queuesStore queueId)) }

/-! ## Proposals -/

def addProposal (manager : LFGMgr) (proposal : LfgProposal) : LFGMgr :=
  let lfgProposalId := manager.lfgProposalId + 1
  { manager with
    lfgProposalId
    proposalsStore :=
      Table.assign LfgProposal.id manager.proposalsStore { proposal with id := lfgProposalId } }

/-- The premade of a player in a proposal. -/
def premadeOf (player : LfgProposalPlayer) : ObjectGuid :=
  player.group.getD player.guid

/-- The premades which leave the queue with a removed proposal. -/
def toRemove (manager : LFGMgr) (proposal : LfgProposal) (type : LfgUpdateType) :
    List ObjectGuid :=
  let declined := proposal.players.filter fun player =>
    player.accept ≠ .agree && (player.accept = .deny || type = .proposalFailed)
  let withoutData := proposal.queues.filter fun guid =>
    ((manager.queuesStore (manager.queueId guid)).queueDataStore guid).isNone
  (declined.map premadeOf ++ withoutData).foldl
    (fun guids guid => OrderedSet.insert ObjectGuid.Before guid guids) []

/-- "Notify players": the state of a player and of his group. -/
def leaveOrReadd (removed : List ObjectGuid) (manager : LFGMgr) (player : LfgProposalPlayer) :
    LFGMgr :=
  if premadeOf player ∈ removed then
    let manager := manager.restoreState player.guid
    if premadeOf player ≠ player.guid then manager.restoreState (premadeOf player)
    else manager
  else
    let manager := manager.setState player.guid .queued
    if premadeOf player ≠ player.guid then manager.setState (premadeOf player) .queued
    else manager

def removeProposal (manager : LFGMgr) (proposal : LfgProposal) (type : LfgUpdateType) :
    LFGMgr :=
  let removed := manager.toRemove proposal type
  let manager := proposal.players.foldl (leaveOrReadd removed) manager
  let queueId := (proposal.players.head?.map fun player => manager.queueId player.guid).getD 0
  let manager := manager.changeQueue queueId fun queue =>
    (proposal.queues.filter (· ∉ removed)).foldl LFGQueue.addOldToQueue
      (removed.foldl LFGQueue.removeFromSystem queue)
  { manager with
    proposalsStore := Table.erase LfgProposal.id manager.proposalsStore proposal.id }

/-- The end of `UpdateProposal`, when all have agreed. -/
def completeProposal (manager : LFGMgr) (proposal : LfgProposal) (guid : ObjectGuid)
    (regrouping : Regrouping) : LFGMgr :=
  let manager := proposal.players.foldl
    (fun manager player => manager.setState player.guid .dungeon) manager
  let manager := manager.changeQueue (manager.queueId guid) fun queue =>
    queue.removeCompleted proposal.queues
  let manager :=
    { manager with group := regrouping.group, players := regrouping.players }.setState
      regrouping.gguid .dungeon
  { manager with
    proposalsStore := Table.erase LfgProposal.id manager.proposalsStore proposal.id }

def updateProposal (manager : LFGMgr) (proposalId : UInt32) (guid : ObjectGuid)
    (accept : Bool) (regrouping : Regrouping) : LFGMgr :=
  match Table.find LfgProposal.id manager.proposalsStore proposalId with
  | none => manager
  | some proposal =>
      if guid ∉ proposal.players.map LfgProposalPlayer.guid then manager
      else
        let proposal := proposal.answer guid (if accept then .agree else .deny)
        if !accept then manager.removeProposal proposal .proposalDeclined
        else if proposal.players.any fun player => player.accept ≠ .agree then
          { manager with
            proposalsStore :=
              Table.modify LfgProposal.id manager.proposalsStore proposalId fun proposal =>
                proposal.answer guid .agree }
        else manager.completeProposal proposal guid regrouping

/-- `LeaveLfg` in `LFG_STATE_PROPOSAL`; the player is the leader where a group leaves. -/
def leaveProposal (manager : LFGMgr) (guid : ObjectGuid) : LFGMgr :=
  match manager.proposalsStore.find? fun proposal =>
    guid ∈ proposal.players.map LfgProposalPlayer.guid with
  | none => manager
  | some proposal => manager.removeProposal (proposal.answer guid .deny) .proposalDeclined

/-! ## Updates -/

def updateStart (manager : LFGMgr) (now : Int) : LFGMgr :=
  let manager := { manager with updateStarted := true }
  if manager.queueIds.any fun queueId => (manager.queuesStore queueId).needsUpdate now then
    { manager with
      queuesStore := fun queueId =>
        if queueId ∈ manager.queueIds then (manager.queuesStore queueId).setDebugUpdating true
        else manager.queuesStore queueId
      currentUpdate := manager.currentUpdate ++ manager.queueIds }
  else manager

/-- One queue of `UpdateQueues`. -/
def updateQueue (manager : LFGMgr) (now : Int)
    (hasIgnore : ObjectGuid → ObjectGuid → Bool) (random : List ObjectGuid → Nat × Nat × Nat) :
    LFGMgr :=
  match manager.currentUpdate with
  | [] => manager
  | queueId :: rest =>
      let (queue, proposal) := (manager.queuesStore queueId).findGroups
        { now
          hasIgnore
          getGroup := manager.group
          oldStateIsDungeon := fun group => (manager.states group).oldState = .dungeon
          random }
      let queue :=
        { queue with combinationsUpdated := false, timesUpdated := false }.setDebugUpdating false
      let manager :=
        { manager with
          currentUpdate := rest
          queuesStore := Function.update manager.queuesStore queueId queue }
      match proposal with
      | none => manager
      | some proposal => manager.addProposal proposal

/-- "Remove obsolete proposals". -/
def removeObsoleteProposals (manager : LFGMgr) (now : Int) : LFGMgr :=
  let obsolete := manager.proposalsStore.filter fun proposal => proposal.cancelTime < now
  let manager := obsolete.foldl
    (fun manager proposal => manager.removeProposal proposal .proposalFailed) manager
  { manager with neverSent := manager.neverSent ++ obsolete.filter (·.needSendUpdate) }

/-- One round of the loop over the players of a proposal which is sent. -/
def putIntoProposal (manager : LFGMgr) (player : LfgProposalPlayer) : LFGMgr :=
  let manager := manager.setState player.guid .proposal
  match manager.group player.guid with
  | none => manager
  | some gguid => manager.setState gguid .proposal

/-- The body of the loop in `UpdateFinish` which sends a proposal. -/
def sendProposal (manager : LFGMgr) (proposal : LfgProposal) : LFGMgr :=
  let manager :=
    { manager with
      proposalsStore :=
        Table.modify LfgProposal.id manager.proposalsStore proposal.id LfgProposal.send }
  proposal.players.foldl putIntoProposal manager

/-- The loop, which starts at `find(m_lfgProposalId)`. -/
def sendProposals (manager : LFGMgr) : LFGMgr :=
  if Table.contains LfgProposal.id manager.proposalsStore manager.lfgProposalId then
    (manager.proposalsStore.filter fun proposal =>
      manager.lfgProposalId ≤ proposal.id && proposal.needSendUpdate).foldl sendProposal manager
  else manager

/-- `UpdateFinish`; with the option it waits until the update has reached all queues. -/
def updateFinish (manager : LFGMgr) (now : Int) (isOptionEnabled : Bool) : LFGMgr :=
  if !isOptionEnabled then { manager with updateStarted := false }
  else if manager.currentUpdate ≠ [] then manager
  else { (manager.removeObsoleteProposals now).sendProposals with updateStarted := false }

end LFGMgr

/-! ## The manager in a run -/

/-- What the main thread does to a queue. -/
inductive QueueOperation where
  | addNewToQueue (now : Int) (guid : ObjectGuid) (joinTime : Int)
      (dungeonTimes : TimedDungeonSet) (roles : LfgRolesMap) (isLfgGroup : Bool)
  | addOldToQueue (guid : ObjectGuid)
  | removeFromSystem (guid : ObjectGuid)

def LFGQueue.operate (queue : LFGQueue) : QueueOperation → LFGQueue
  | .addNewToQueue now guid joinTime dungeonTimes roles isLfgGroup =>
      queue.addNewToQueue now guid joinTime dungeonTimes roles isLfgGroup
  | .addOldToQueue guid => queue.addOldToQueue guid
  | .removeFromSystem guid => queue.removeFromSystem guid

/-- What the main thread does after `UpdateFinish` and before `UpdateStart`. -/
inductive MainOperation where
  | operateQueue (queueId : UInt8) (operation : QueueOperation)
  | setState (guid : ObjectGuid) (state : LfgState)
  | updateProposal (proposalId : UInt32) (guid : ObjectGuid) (accept : Bool)
      (regrouping : Regrouping)
  | leaveProposal (guid : ObjectGuid)

inductive UpdateEvent where
  | main (operation : MainOperation)
  | updateStart (now : Int)
  | updateQueue (now : Int) (hasIgnore : ObjectGuid → ObjectGuid → Bool)
      (random : List ObjectGuid → Nat × Nat × Nat)
  | updateFinish (now : Int) (isOptionEnabled : Bool)

namespace LFGMgr

def operate (manager : LFGMgr) : MainOperation → LFGMgr
  | .operateQueue queueId operation =>
      manager.changeQueue queueId fun queue => queue.operate operation
  | .setState guid state => manager.setState guid state
  | .updateProposal proposalId guid accept regrouping =>
      manager.updateProposal proposalId guid accept regrouping
  | .leaveProposal guid => manager.leaveProposal guid

def step (manager : LFGMgr) : UpdateEvent → LFGMgr
  | .main operation => if manager.updateStarted then manager else manager.operate operation
  | .updateStart now => if manager.updateStarted then manager else manager.updateStart now
  | .updateQueue now hasIgnore random => manager.updateQueue now hasIgnore random
  | .updateFinish now isOptionEnabled =>
      if manager.updateStarted then manager.updateFinish now isOptionEnabled else manager

end LFGMgr

end RealmServer.DungeonFinding
