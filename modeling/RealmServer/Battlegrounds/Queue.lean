import RealmServer.Lib.Shelves
import RealmServer.Lib.Table

/-!
# The queue for battlegrounds and arenas

Players join a `BattlegroundQueue` in groups.  Each group waits in one of the
lists of its bracket until it is invited to a battleground; from then on its
players leave it one by one, into the battleground or out of the queue.  Two
rated teams, or the players of a skirmish, may come from one faction, and some
of them then change to the list of the other one.
-/

namespace RealmServer.Battlegrounds

open Table Shelves

abbrev ObjectGuid := Nat

/-- The address of a `GroupQueueInfo`. -/
abbrev GroupId := Nat

inductive Team where
  | alliance
  | horde
deriving DecidableEq, Repr

def Team.other : Team → Team
  | .alliance => .horde
  | .horde => .alliance

def maxBattlegroundBrackets : Nat := 16

abbrev BracketId := Fin maxBattlegroundBrackets

/-- `BattlegroundQueueGroupTypes`. -/
inductive QueueGroupType where
  | premade (team : Team)
  | normal (team : Team)
  | mixed
deriving DecidableEq, Repr

/-- The indices from 0 to `BG_QUEUE_GROUP_TYPES_COUNT`. -/
def QueueGroupType.all : List QueueGroupType :=
  [.premade .alliance, .premade .horde, .normal .alliance, .normal .horde, .mixed]

def battlegroundTypeNone : Nat := 0

def battlegroundAA : Nat := 6

def inviteAcceptWaitTime : UInt32 := 60000

/-! ## Battlegrounds -/

structure PlayerData where
  guid : ObjectGuid
  rating : ℚ
  crossfactionPlayer : Bool
  isHeal : Bool
  avgItemLevel : ℚ
  premadeSize : UInt32
deriving DecidableEq

/-- `BattlegroundMatchmakingData`; the arrays have one entry for each team. -/
structure MatchmakingData where
  playerData : Team → List PlayerData
  totalPremadeSize : Team → UInt32
  totalRating : Team → ℚ
  totalItemLevel : Team → ℚ
  totalHealerCount : Team → UInt32
  totalCrossfactionCount : UInt32

structure BattlegroundPlayer where
  guid : ObjectGuid
  team : Team
deriving DecidableEq, Repr

structure Battleground where
  instanceId : Nat
  typeId : Nat
  invitedAlliance : UInt32
  invitedHorde : UInt32
  matchmakingData : MatchmakingData
  /-- `m_Players`. -/
  players : List BattlegroundPlayer

/-- What `InviteGroupToBG` asks about a player. -/
structure PlayerState where
  /-- He is connected, not logging out, and in the world or teleported far. -/
  canBeInvited : Bool
  rating : ℚ
  /-- `GetOTeam`, the team of his race. -/
  oTeam : Team
  isHealer : Bool
  pvpItemLevel : ℚ

structure Surroundings where
  player : ObjectGuid → PlayerState
  gameTime : UInt32

namespace MatchmakingData

def empty : MatchmakingData where
  playerData := fun _ => []
  totalPremadeSize := fun _ => 0
  totalRating := fun _ => 0
  totalItemLevel := fun _ => 0
  totalHealerCount := fun _ => 0
  totalCrossfactionCount := 0

/-- The array entry of a team changes. -/
def add {Value : Type} (entries : Team → Value) (team : Team) (change : Value → Value) :
    Team → Value :=
  Function.update entries team (change (entries team))

/-- `AddPlayerData` for a player in a group of some size, which plays for a team. -/
def addPlayerData (data : MatchmakingData) (guid : ObjectGuid) (player : PlayerState)
    (team : Team) (groupSize : Nat) : MatchmakingData :=
  let premadeSize := UInt32.ofNat groupSize
  let crossfaction : Bool := team ≠ player.oTeam
  { playerData := add data.playerData team fun rows =>
      assign PlayerData.guid rows
        ⟨guid, player.rating, crossfaction, player.isHealer, player.pvpItemLevel, premadeSize⟩
    totalCrossfactionCount :=
      if crossfaction then data.totalCrossfactionCount + 1 else data.totalCrossfactionCount
    totalPremadeSize := add data.totalPremadeSize team (· + premadeSize)
    totalRating := add data.totalRating team (· + player.rating)
    totalItemLevel := add data.totalItemLevel team (· + player.pvpItemLevel)
    totalHealerCount :=
      if player.isHealer then add data.totalHealerCount team (· + 1)
      else data.totalHealerCount }

/-- One round of the loop in `RemovePlayerData`. -/
def removeFromTeam (guid : ObjectGuid) (data : MatchmakingData) (team : Team) :
    MatchmakingData :=
  match find PlayerData.guid (data.playerData team) guid with
  | none => data
  | some row =>
      { playerData := add data.playerData team fun rows => erase PlayerData.guid rows guid
        totalCrossfactionCount :=
          if row.crossfactionPlayer then data.totalCrossfactionCount - 1
          else data.totalCrossfactionCount
        totalPremadeSize := add data.totalPremadeSize team (· - row.premadeSize)
        totalRating := add data.totalRating team (· - row.rating)
        totalItemLevel := add data.totalItemLevel team (· - row.avgItemLevel)
        totalHealerCount :=
          if row.isHeal then add data.totalHealerCount team (· - 1)
          else data.totalHealerCount }

def removePlayerData (data : MatchmakingData) (guid : ObjectGuid) : MatchmakingData :=
  [Team.alliance, .horde].foldl (removeFromTeam guid) data

end MatchmakingData

namespace Battleground

def getInvitedCount (battleground : Battleground) (team : Team) : UInt32 :=
  match team with
  | .alliance => battleground.invitedAlliance
  | .horde => battleground.invitedHorde

def increaseInvitedCount (battleground : Battleground) (team : Team) : Battleground :=
  match team with
  | .alliance => { battleground with invitedAlliance := battleground.invitedAlliance + 1 }
  | .horde => { battleground with invitedHorde := battleground.invitedHorde + 1 }

def decreaseInvitedCount (battleground : Battleground) (team : Team) : Battleground :=
  match team with
  | .alliance => { battleground with invitedAlliance := battleground.invitedAlliance - 1 }
  | .horde => { battleground with invitedHorde := battleground.invitedHorde - 1 }

/-- A player who was counted for a team is gone. -/
def forget (battleground : Battleground) (team : Team) (guid : ObjectGuid) : Battleground :=
  let battleground := battleground.decreaseInvitedCount team
  { battleground with matchmakingData := battleground.matchmakingData.removePlayerData guid }

/-- `AddPlayer`. -/
def addPlayer (battleground : Battleground) (guid : ObjectGuid) (team : Team) : Battleground :=
  { battleground with players := assign BattlegroundPlayer.guid battleground.players ⟨guid, team⟩ }

/-- `RemovePlayerAtLeave`; others than participants are not counted. -/
def removePlayerAtLeave (battleground : Battleground) (guid : ObjectGuid) : Battleground :=
  match find BattlegroundPlayer.guid battleground.players guid with
  | none => battleground
  | some player =>
      { battleground with players := erase BattlegroundPlayer.guid battleground.players guid
        }.forget player.team guid

end Battleground

/-! ## Queues -/

structure PlayerQueueInfo where
  guid : ObjectGuid
  lastOnlineTime : UInt32
  rating : ℚ
  avgItemLevel : ℚ
  isHeal : Bool
  groupInfo : GroupId
  /-- `SetInviteForBattlegroundQueueType` was called for the player. -/
  isInvited : Bool
deriving DecidableEq

structure GroupQueueInfo where
  id : GroupId
  /-- The keys of `Players`, in the order of the map. -/
  players : List ObjectGuid
  team : Team
  bgTypeId : Nat
  isRated : Bool
  arenaType : UInt8
  arenaTeamId : Nat
  joinTime : UInt32
  removeInviteTime : UInt32
  isInvitedToBGInstanceGUID : Nat
  arenaTeamRating : UInt32
  arenaMatchmakerRating : UInt32
  opponentsTeamRating : UInt32
  opponentsMatchmakerRating : UInt32
  allowCrossfaction : Bool
deriving DecidableEq, Repr

def GroupQueueInfo.isInvited (group : GroupQueueInfo) : Bool :=
  group.isInvitedToBGInstanceGUID != 0

structure BattlegroundQueue where
  /-- `m_QueuedPlayers`. -/
  queuedPlayers : List PlayerQueueInfo
  /-- The groups which are allocated. -/
  groupInfos : List GroupQueueInfo
  /-- `m_QueuedGroups`. -/
  queuedGroups : BracketId × QueueGroupType → List GroupId
  nextGroup : GroupId
  /-- The battlegrounds for this queue in `bgDataStore`. -/
  battlegrounds : List Battleground
  /-- `GenerateInstanceId` has given one less. -/
  nextInstanceId : Nat

/-- What `AddGroup` asks about a player who joins. -/
structure QueueMember where
  guid : ObjectGuid
  isHealer : Bool
  pvpItemLevel : ℚ
  arenaSkillRating : ℚ
  rating : ℚ

structure JoinRequest where
  leader : QueueMember
  leaderTeam : Team
  /-- The leader has not set `CROSSFACTION_DISABLED`. -/
  allowsCrossfaction : Bool
  /-- The players whom `grp` references. -/
  grp : Option (List QueueMember)
  leads : ∀ members, grp = some members → leader ∈ members
  bgTypeId : Nat
  bracketId : BracketId
  arenaType : UInt8
  isRated : Bool
  isPremade : Bool
  arenaRating : UInt32
  matchmakerRating : UInt32
  arenaTeamId : Nat
  isSoloQueue : Bool
  gameTime : UInt32

/-- Those who are added to the group. -/
def JoinRequest.members (request : JoinRequest) : List QueueMember :=
  request.grp.getD [request.leader]

/-- The index of the queue. -/
def JoinRequest.index (request : JoinRequest) : QueueGroupType :=
  if request.arenaType = 0 || request.isSoloQueue then .mixed
  else if !request.isRated && !request.isPremade then .normal request.leaderTeam
  else .premade request.leaderTeam

namespace BattlegroundQueue

def empty : BattlegroundQueue where
  queuedPlayers := []
  groupInfos := []
  queuedGroups := fun _ => []
  nextGroup := 0
  battlegrounds := []
  nextInstanceId := 1

/-- What a pointer to a group leads to. -/
def group (queue : BattlegroundQueue) (id : GroupId) : Option GroupQueueInfo :=
  find GroupQueueInfo.id queue.groupInfos id

def modifyGroup (queue : BattlegroundQueue) (id : GroupId)
    (change : GroupQueueInfo → GroupQueueInfo) : BattlegroundQueue :=
  { queue with groupInfos := modify GroupQueueInfo.id queue.groupInfos id change }

def groupsAt (queue : BattlegroundQueue) (place : BracketId × QueueGroupType) :
    List GroupQueueInfo :=
  (queue.queuedGroups place).filterMap queue.group

/-- One member for `m_QueuedPlayers` and `Players`. -/
def addMember (request : JoinRequest) (ginfo : GroupId) (queue : BattlegroundQueue)
    (member : QueueMember) : BattlegroundQueue :=
  let info : PlayerQueueInfo := {
    guid := member.guid
    lastOnlineTime := request.gameTime
    rating := if request.isRated then member.arenaSkillRating else member.rating
    avgItemLevel := member.pvpItemLevel
    isHeal := member.isHealer
    groupInfo := ginfo
    isInvited := false }
  { queue with
    queuedPlayers := assign PlayerQueueInfo.guid queue.queuedPlayers info
  }.modifyGroup ginfo fun group =>
    { group with players := (group.players.erase member.guid).orderedInsert (· ≤ ·) member.guid }

/-- `AddGroup`. -/
def addGroup (crossfactionEnabled : Bool) (queue : BattlegroundQueue) (request : JoinRequest) :
    BattlegroundQueue :=
  let ginfo : GroupQueueInfo := {
    id := queue.nextGroup
    players := []
    team := request.leaderTeam
    bgTypeId := request.bgTypeId
    isRated := request.isRated
    arenaType := request.arenaType
    arenaTeamId := request.arenaTeamId
    joinTime := request.gameTime
    removeInviteTime := 0
    isInvitedToBGInstanceGUID := 0
    arenaTeamRating := request.arenaRating
    arenaMatchmakerRating := request.matchmakerRating
    opponentsTeamRating := 0
    opponentsMatchmakerRating := 0
    allowCrossfaction := crossfactionEnabled && request.allowsCrossfaction }
  let queue := { queue with
    groupInfos := queue.groupInfos ++ [ginfo]
    nextGroup := queue.nextGroup + 1 }
  let queue := request.members.foldl (addMember request ginfo.id) queue
  { queue with
    queuedGroups := pushBack queue.queuedGroups (request.bracketId, request.index) ginfo.id }

/-! ## Battlegrounds of the queue -/

/-- `GetBattleground`. -/
def getBattleground (queue : BattlegroundQueue) (instanceId bgTypeId : Nat) :
    Option Battleground :=
  if instanceId = 0 then none
  else
    queue.battlegrounds.find? fun battleground =>
      battleground.instanceId == instanceId &&
        (bgTypeId == battlegroundTypeNone || battleground.typeId == bgTypeId)

def modifyBattleground (queue : BattlegroundQueue) (instanceId : Nat)
    (change : Battleground → Battleground) : BattlegroundQueue :=
  { queue with
    battlegrounds := modify Battleground.instanceId queue.battlegrounds instanceId change }

/-- `CreateNewBattleground` with `StartBattleground`, which puts it into `bgDataStore`. -/
def createNewBattleground (queue : BattlegroundQueue) (bgTypeId : Nat) :
    Nat × BattlegroundQueue :=
  (queue.nextInstanceId,
    { queue with
      battlegrounds := queue.battlegrounds ++
        [⟨queue.nextInstanceId, bgTypeId, 0, 0, .empty, []⟩]
      nextInstanceId := queue.nextInstanceId + 1 })

/-! ## `RemovePlayer` -/

/-- The search for the list of a group, which ends after the first bracket with a hit. -/
def findQueue (queue : BattlegroundQueue) (id : GroupId) : Option (BracketId × QueueGroupType) :=
  let hits (bracket : BracketId) : List QueueGroupType :=
    QueueGroupType.all.filter fun index => (queue.queuedGroups (bracket, index)).contains id
  match (List.finRange maxBattlegroundBrackets).reverse.find? fun bracket =>
      !(hits bracket).isEmpty with
  | none => none
  | some bracket => (hits bracket).getLast?.map fun index => (bracket, index)

/-- The player leaves his group, which is deleted once it is empty. -/
def leaveGroup (queue : BattlegroundQueue) (group : GroupQueueInfo)
    (place : BracketId × QueueGroupType) (guid : ObjectGuid) (decreaseInvitedCount : Bool) :
    BattlegroundQueue :=
  let players := group.players.erase guid
  let queue := queue.modifyGroup group.id fun group => { group with players }
  let queue :=
    if decreaseInvitedCount && group.isInvited then
      match queue.getBattleground group.isInvitedToBGInstanceGUID group.bgTypeId with
      | none => queue
      | some battleground =>
          queue.modifyBattleground battleground.instanceId (·.forget group.team guid)
    else queue
  let queue := { queue with
    queuedPlayers := erase PlayerQueueInfo.guid queue.queuedPlayers guid }
  if players.isEmpty then
    { queue with
      queuedGroups := take queue.queuedGroups place group.id
      groupInfos := erase GroupQueueInfo.id queue.groupInfos group.id }
  else queue

/-- `RemovePlayer`, with a bound for the players it may remove. -/
def removePlayerRounds (decreaseInvitedCount : Bool) :
    Nat → BattlegroundQueue → ObjectGuid → BattlegroundQueue
  | 0, queue, _ => queue
  | rounds + 1, queue, guid =>
      match find PlayerQueueInfo.guid queue.queuedPlayers guid with
      | none => queue
      | some player =>
          match queue.group player.groupInfo, queue.findQueue player.groupInfo with
          | some group, some place =>
              let next := queue.leaveGroup group place guid decreaseInvitedCount
              match group.players.erase guid with
              | [] => next
              | other :: _ =>
                  -- don't remove recursively if already invited to bg!
                  if !group.isInvited && group.isRated then
                    removePlayerRounds decreaseInvitedCount rounds next other
                  else next
          | _, _ => queue

/-- `RemovePlayer`; every round takes a player out of `m_QueuedPlayers`. -/
def removePlayer (queue : BattlegroundQueue) (guid : ObjectGuid) (decreaseInvitedCount : Bool) :
    BattlegroundQueue :=
  removePlayerRounds decreaseInvitedCount queue.queuedPlayers.length queue guid

/-! ## Invitations -/

/-- One player in `InviteGroupToBG`. -/
def invitePlayer (surroundings : Surroundings) (instanceId : Nat) (team : Team) (groupSize : Nat)
    (queue : BattlegroundQueue) (guid : ObjectGuid) : BattlegroundQueue :=
  let player := surroundings.player guid
  if !player.canBeInvited then queue
  else
    let queue := queue.modifyBattleground instanceId fun battleground =>
      let battleground := battleground.increaseInvitedCount team
      { battleground with
        matchmakingData :=
          battleground.matchmakingData.addPlayerData guid player team groupSize }
    { queue with
      queuedPlayers := modify PlayerQueueInfo.guid queue.queuedPlayers guid fun info =>
        { info with isInvited := true } }

/-- `InviteGroupToBG`; the side is set before anything else. -/
def inviteGroupToBG (surroundings : Surroundings) (queue : BattlegroundQueue) (ginfo : GroupId)
    (instanceId : Nat) (side : Option Team) : BattlegroundQueue :=
  match queue.group ginfo with
  | none => queue
  | some group =>
      let team := side.getD group.team
      let queue := queue.modifyGroup ginfo fun group => { group with team }
      if group.isInvited then queue
      else
        let queue := queue.modifyGroup ginfo fun group =>
          { group with
            isInvitedToBGInstanceGUID := instanceId
            removeInviteTime := surroundings.gameTime + inviteAcceptWaitTime }
        group.players.foldl
          (invitePlayer surroundings instanceId team group.players.length) queue

/-- `StartProposal`: a group for each number of `assigment`. -/
def startProposal (surroundings : Surroundings) (queue : BattlegroundQueue) (instanceId : Nat)
    (baseQueue : List GroupId) (assigment : List Int) : BattlegroundQueue :=
  (baseQueue.zip assigment).foldl (fun queue (group, team) =>
    if team = 0 then queue.inviteGroupToBG surroundings group instanceId (some .alliance)
    else if team = 1 then queue.inviteGroupToBG surroundings group instanceId (some .horde)
    else queue) queue

end BattlegroundQueue

/-! ## Selection pools -/

structure SelectionPool where
  selectedGroups : List GroupId
  playerCount : Nat
deriving DecidableEq, Repr

namespace SelectionPool

def init : SelectionPool := ⟨[], 0⟩

/-- `SelectionPool::AddGroup`. -/
def addGroup (pool : SelectionPool) (ginfo : GroupQueueInfo) (desiredCount : Nat) :
    Bool × SelectionPool :=
  if !ginfo.isInvited && pool.playerCount + ginfo.players.length ≤ desiredCount then
    (true,
      ⟨pool.selectedGroups ++ [ginfo.id], pool.playerCount + ginfo.players.length⟩)
  else (pool.playerCount < desiredCount, pool)

/-- The loop which stops at the group with which there are enough players. -/
def selectUntil (minPlayers maxPlayers : Nat) :
    List GroupQueueInfo → SelectionPool → SelectionPool × List GroupQueueInfo
  | [], pool => (pool, [])
  | group :: rest, pool =>
      if group.isInvited then selectUntil minPlayers maxPlayers rest pool
      else
        let pool := (pool.addGroup group maxPlayers).2
        if minPlayers ≤ pool.playerCount then (pool, rest)
        else selectUntil minPlayers maxPlayers rest pool

/-- The loop which stops when the pool is full. -/
def fill (desiredCount : Nat) : List GroupQueueInfo → SelectionPool → SelectionPool
  | [], pool => pool
  | group :: rest, pool =>
      if group.isInvited then fill desiredCount rest pool
      else
        let (more, pool) := pool.addGroup group desiredCount
        if more then fill desiredCount rest pool else pool

end SelectionPool

/-! ## Arenas -/

/-- The timers and limits for rated arenas. -/
structure ArenaConfig where
  ratingDiscardTimer : UInt32
  maxRatingDifference : UInt32
  ratingWideningTimer : UInt32
  ratingWideningDelta : UInt32

structure UpdateSurroundings extends Surroundings where
  hasTemplate : Bool
  hasBracketEntry : Bool
  /-- `CreateNewBattleground` finds a template. -/
  createsBattleground : Bool
  isArenaTesting : Bool
  /-- `CONFIG_BATTLEGROUND_INVITATION_TYPE`. -/
  invitationType : Nat
  config : ArenaConfig

/-- `teamPredicate`. -/
def teamPredicate (surroundings : UpdateSurroundings) (arenaRating : UInt32)
    (group : GroupQueueInfo) : Bool :=
  let currentTime := surroundings.gameTime.toInt32
  let config := surroundings.config
  let discardTime := currentTime - config.ratingDiscardTimer.toInt32
  let isRatingWidening := 0 < config.ratingWideningTimer && 0 < config.ratingWideningDelta
  let joinTime := group.joinTime.toInt32
  if group.isInvited then false
  else if !isRatingWidening && joinTime < discardTime then true
  else
    let teamMMR := group.arenaMatchmakerRating
    let teamMMRDelta := config.maxRatingDifference +
      if isRatingWidening then
        (currentTime - joinTime).toUInt32 / config.ratingWideningTimer *
          config.ratingWideningDelta
      else 0
    teamMMR ≤ arenaRating + teamMMRDelta && arenaRating ≤ teamMMR + teamMMRDelta

namespace BattlegroundQueue

/-- `CheckNormalMatch` for an arena, with the pools of both teams. -/
def checkNormalMatch (invitationType : Nat) (queue : BattlegroundQueue) (bracket : BracketId)
    (minPlayers maxPlayers : Nat) : Bool × (Team → SelectionPool) :=
  let selected (team : Team) : SelectionPool × List GroupQueueInfo :=
    SelectionPool.selectUntil minPlayers maxPlayers (queue.groupsAt (bracket, .normal team)) .init
  let count (team : Team) : Nat := (selected team).1.playerCount
  let pools (team : Team) : SelectionPool := (selected team).1
  let enough : Bool := minPlayers ≤ count .alliance && minPlayers ≤ count .horde
  if invitationType ≠ 0 && enough then
    -- we will try to invite more groups to team with less players indexed by j
    let j : Team := if count .horde < count .alliance then .horde else .alliance
    let more := SelectionPool.fill (count j.other) (selected j).2 (selected j).1
    let pools := Function.update pools j more
    let difference : Int := (pools .horde).playerCount - (pools .alliance).playerCount
    if 2 < difference.natAbs then (false, pools)
    else
      (minPlayers ≤ (pools .alliance).playerCount && minPlayers ≤ (pools .horde).playerCount,
        pools)
  else (enough, pools)

/-- A selected group changes its team and its list; the old list is searched behind `ginfo`. -/
def moveToOtherTeam (bracket : BracketId) (teamIndex : Team) (ginfo : GroupId)
    (queue : BattlegroundQueue) (id : GroupId) : BattlegroundQueue :=
  let queue := queue.modifyGroup id fun group => { group with team := teamIndex.other }
  let groups := pushFront queue.queuedGroups (bracket, .normal teamIndex.other) id
  let place := (bracket, QueueGroupType.normal teamIndex)
  let behind := (groups place).idxOf ginfo + 1
  { queue with
    queuedGroups := Function.update groups place
      ((groups place).take behind ++ ((groups place).drop behind).erase id) }

/-- `CheckSkirmishForSameFaction`. -/
def checkSkirmishForSameFaction (queue : BattlegroundQueue) (pools : Team → SelectionPool)
    (bracket : BracketId) (minPlayersPerTeam : Nat) :
    Bool × (Team → SelectionPool) × BattlegroundQueue :=
  if (pools .alliance).playerCount < minPlayersPerTeam &&
      (pools .horde).playerCount < minPlayersPerTeam then
    (false, pools, queue)
  else
    let teamIndex : Team :=
      if (pools .horde).playerCount = minPlayersPerTeam then .horde else .alliance
    let otherTeam := teamIndex.other
    -- clear other team's selection
    let pools := Function.update pools otherTeam .init
    match (pools teamIndex).selectedGroups.getLast? with
    -- what lies behind an empty list is no group of the queue
    | none => (false, pools, queue)
    | some ginfo =>
        let groups := queue.queuedGroups (bracket, .normal teamIndex)
        if !groups.contains ginfo then (false, pools, queue)
        else
          let behind := (groups.drop (groups.idxOf ginfo + 1)).filterMap queue.group
          let pools := Function.update pools otherTeam
            (SelectionPool.fill minPlayersPerTeam behind (pools otherTeam))
          if (pools otherTeam).playerCount ≠ minPlayersPerTeam then (false, pools, queue)
          else
            (true, pools,
              (pools otherTeam).selectedGroups.foldl (moveToOtherTeam bracket teamIndex ginfo)
                queue)

/-- Each selected group is invited for the team it has. -/
def inviteSelected (surroundings : Surroundings) (instanceId : Nat) (queue : BattlegroundQueue)
    (pool : SelectionPool) : BattlegroundQueue :=
  pool.selectedGroups.foldl (fun queue id =>
    queue.inviteGroupToBG surroundings id instanceId ((queue.group id).map GroupQueueInfo.team))
    queue

/-- The part of the update for matches which are not rated. -/
def updateSkirmish (surroundings : UpdateSurroundings) (queue : BattlegroundQueue)
    (bracket : BracketId) (minPlayers maxPlayers : Nat) : BattlegroundQueue :=
  let (normal, pools) :=
    queue.checkNormalMatch surroundings.invitationType bracket minPlayers maxPlayers
  let (found, pools, queue) :=
    if normal then (true, pools, queue)
    else queue.checkSkirmishForSameFaction pools bracket minPlayers
  if !found then queue
  else if !surroundings.createsBattleground then queue
  else
    let (instanceId, queue) := queue.createNewBattleground battlegroundAA
    let queue :=
      queue.inviteSelected surroundings.toSurroundings instanceId (pools .alliance)
    queue.inviteSelected surroundings.toSurroundings instanceId (pools .horde)

/-- The rating of the team with the longest wait, if the caller gives none. -/
def arenaRatingToMatch (queue : BattlegroundQueue) (bracket : BracketId) (arenaRating : UInt32) :
    Option UInt32 :=
  if arenaRating ≠ 0 then some arenaRating
  else
    match (queue.groupsAt (bracket, .premade .alliance)).head?,
        (queue.groupsAt (bracket, .premade .horde)).head? with
    | some front1, some front2 =>
        if front1.joinTime < front2.joinTime then some front1.arenaMatchmakerRating
        else some front2.arenaMatchmakerRating
    | some front1, none => some front1.arenaMatchmakerRating
    | none, some front2 => some front2.arenaMatchmakerRating
    | none, none => none

/-- `itr_teams`, when two teams were found. -/
def findTeams (queue : BattlegroundQueue) (bracket : BracketId)
    (predicate : GroupQueueInfo → Bool) : Option (GroupQueueInfo × GroupQueueInfo) :=
  let groups (team : Team) : List GroupQueueInfo := queue.groupsAt (bracket, .premade team)
  -- looking for a match with the same faction
  let next (team : Team) : Option GroupQueueInfo :=
    ((groups team).drop ((groups team).findIdx predicate + 1)).find? predicate
  match (groups .alliance).find? predicate, (groups .horde).find? predicate with
  | some first, some second => some (first, second)
  | some first, none => (next .alliance).map fun second => (first, second)
  | none, some first => (next .horde).map fun second => (first, second)
  | none, none => none

/-- The two teams of a rated match, before anything is done with them. -/
def ratedTeams (surroundings : UpdateSurroundings) (queue : BattlegroundQueue)
    (bracket : BracketId) (arenaRating : UInt32) : Option (GroupQueueInfo × GroupQueueInfo) :=
  match queue.arenaRatingToMatch bracket arenaRating with
  | none => none
  | some arenaRating => queue.findTeams bracket (teamPredicate surroundings arenaRating)

def setOpponents (queue : BattlegroundQueue) (id : GroupId) (opponents : GroupQueueInfo) :
    BattlegroundQueue :=
  queue.modifyGroup id fun group =>
    { group with
      opponentsTeamRating := opponents.arenaTeamRating
      opponentsMatchmakerRating := opponents.arenaMatchmakerRating }

/-- A team which does not have the faction it plays for moves to the other list. -/
def moveToFaction (queue : BattlegroundQueue) (bracket : BracketId) (group : GroupQueueInfo)
    (team : Team) : BattlegroundQueue :=
  if group.team ≠ team then
    { queue with
      queuedGroups := take (pushFront queue.queuedGroups (bracket, .premade team) group.id)
        (bracket, .premade team.other) group.id }
  else queue

/-- The part of the update for rated matches. -/
def updateRated (surroundings : UpdateSurroundings) (queue : BattlegroundQueue)
    (bracket : BracketId) (arenaRating : UInt32) : BattlegroundQueue :=
  match queue.ratedTeams surroundings bracket arenaRating with
  | none => queue
  | some (aTeam, hTeam) =>
      if !surroundings.createsBattleground then queue
      else
        let (instanceId, queue) := queue.createNewBattleground battlegroundAA
        let queue := (queue.setOpponents aTeam.id hTeam).setOpponents hTeam.id aTeam
        let queue := (queue.moveToFaction bracket aTeam .alliance).moveToFaction
          bracket hTeam .horde
        let queue := queue.inviteGroupToBG surroundings.toSurroundings aTeam.id instanceId
          (some .alliance)
        queue.inviteGroupToBG surroundings.toSurroundings hTeam.id instanceId (some .horde)

/--
`BattlegroundQueueUpdate` for arenas.  They never get into the free slot queue,
and `CheckPremadeMatch` is not for them.
-/
def battlegroundQueueUpdate (surroundings : UpdateSurroundings) (queue : BattlegroundQueue)
    (bracket : BracketId) (arenaType : UInt8) (isRated : Bool) (arenaRating : UInt32) :
    BattlegroundQueue :=
  if QueueGroupType.all.all fun index => (queue.queuedGroups (bracket, index)).isEmpty then queue
  else if !surroundings.hasTemplate || !surroundings.hasBracketEntry then queue
  else
    let maxPlayersPerTeam := arenaType.toNat
    let minPlayersPerTeam := if surroundings.isArenaTesting then 1 else arenaType.toNat
    if isRated then queue.updateRated surroundings bracket arenaRating
    else queue.updateSkirmish surroundings bracket minPlayersPerTeam maxPlayersPerTeam

end BattlegroundQueue

end RealmServer.Battlegrounds
