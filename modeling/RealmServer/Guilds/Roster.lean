import RealmServer.Lib.Table

/-!
# The guild roster

Leader, ranks and members of one guild, in memory and in the database.  Every
operation of the source appends its statements to a transaction which its
caller commits, so the model changes the rows together with the memory.

A name in a request stands for the guid which `PlayerCache` resolves it to, and
a session for the guid of its player.
-/

namespace RealmServer.Guilds

open Table

/-! ## Constants -/

def guildRanksMinCount : Nat := 5
def guildRanksMaxCount : Nat := 10
def guildRankNone : Nat := 0xFF

def grGuildmaster : Nat := 0
def grOfficer : Nat := 1

def grRightEmpty : UInt32 := 0x40
def grRightGchatlisten : UInt32 := grRightEmpty ||| 0x1
def grRightGchatspeak : UInt32 := grRightEmpty ||| 0x2
def grRightRemove : UInt32 := grRightEmpty ||| 0x20
def grRightPromote : UInt32 := grRightEmpty ||| 0x80
def grRightDemote : UInt32 := grRightEmpty ||| 0x100
def grRightAll : UInt32 := 0x001DF1FF

def guildWithdrawMoneyUnlimited : UInt32 := 0xFFFFFFFF

/-! ## Data -/

structure Member where
  guid : Nat
  rankId : Nat
deriving DecidableEq, Repr

/-- What the guild reads from its surroundings and never changes. -/
structure GuildEnvironment where
  /-- `Guild.AllowMultipleGuildMaster`. -/
  allowMultipleGuildMaster : Bool
  /-- `GetTrinityString` for the five default ranks. -/
  defaultRankName : Nat → String
  /-- The order in which the hash map of the members is walked. -/
  iterationOrder : List Member → List Member
  iterationOrder_perm : ∀ members, (iterationOrder members).Perm members

structure RankInfo where
  rankId : Nat
  name : String
  rights : UInt32
  bankMoneyPerDay : UInt32
deriving DecidableEq, Repr

/-- The default configuration, with members walked in the order they joined. -/
def plainEnvironment : GuildEnvironment where
  allowMultipleGuildMaster := false
  defaultRankName := fun _ => ""
  iterationOrder := id
  iterationOrder_perm := fun _ => .refl _

/-- The rows of one guild. -/
structure GuildRows where
  /-- The `leaderguid` of the guild's row; no row after `Disband`. -/
  leaderGuid : Option Nat
  ranks : List RankInfo
  members : List Member
deriving DecidableEq, Repr

structure Roster where
  leaderGuid : Nat
  ranks : List RankInfo
  members : List Member
  rows : GuildRows
  /-- Players whose cached guild id is not zero. -/
  guilded : List Nat
  /-- Players the character table and the cache know. -/
  characters : List Nat
  disbanded : Bool
deriving DecidableEq, Repr

/-! ## Lookups -/

def Roster.getMember (roster : Roster) (guid : Nat) : Option Member :=
  find Member.guid roster.members guid

/-- `uint8(m_ranks.size())`. -/
def Roster.getRanksSize (roster : Roster) : Nat := roster.ranks.length % 2 ^ 8

/-- `uint8(m_ranks.size() - 1)`. -/
def Roster.getLowestRankId (roster : Roster) : Nat :=
  (roster.ranks.length + (2 ^ 8 - 1)) % 2 ^ 8

def Roster.getRankInfo (roster : Roster) (rankId : Nat) : Option RankInfo :=
  if rankId < roster.getRanksSize then roster.ranks[rankId]? else none

/-- A missing rank has no rights. -/
def Roster.getRankRights (roster : Roster) (rankId : Nat) : UInt32 :=
  match roster.getRankInfo rankId with
  | some rankInfo => rankInfo.rights
  | none => 0

/-- Compared with `GR_RIGHT_EMPTY`, which every named right contains. -/
def Roster.hasRankRight (roster : Roster) (player : Nat) (right : UInt32) : Bool :=
  match roster.getMember player with
  | some member => roster.getRankRights member.rankId &&& right != grRightEmpty
  | none => false

def Member.isRank (member : Member) (rankId : Nat) : Bool := member.rankId == rankId

def Member.isRankNotLower (member : Member) (rankId : Nat) : Bool :=
  member.rankId ≤ rankId

def Roster.isLeader (roster : Roster) (player : Nat) : Bool :=
  player == roster.leaderGuid ||
    (roster.getMember player).any (·.isRank grGuildmaster)

/-! ## Ranks of members -/

/-- `ChangeRank` on every member with a property. -/
def Roster.changeRankWhere
    (roster : Roster) (chosen : Member → Bool) (newRank : Nat) : Roster :=
  { roster with
    members := roster.members.map fun member =>
      if chosen member then { member with rankId := newRank } else member
    rows.members := roster.rows.members.map fun row =>
      if roster.members.any fun member => chosen member && member.guid == row.guid
      then { row with rankId := newRank } else row }

/-- `Member::ChangeRank`. -/
def Roster.changeRank (roster : Roster) (guid newRank : Nat) : Roster :=
  roster.changeRankWhere (·.guid == guid) newRank

/-- `_SetLeaderGUID`. -/
def Roster.setLeaderGUID (roster : Roster) (guid : Nat) : Roster :=
  let roster := { roster with leaderGuid := guid }.changeRank guid grGuildmaster
  { roster with rows.leaderGuid := roster.rows.leaderGuid.map fun _ => guid }

def Roster.changeMemberRank (roster : Roster) (guid newRank : Nat) : Roster :=
  if newRank ≤ roster.getLowestRankId then
    match roster.getMember guid with
    | some member => roster.changeRank member.guid newRank
    | none => roster
  else roster

def Roster.handleSetLeader (roster : Roster) (player target : Nat) : Roster :=
  if !roster.isLeader player then roster
  else
    match roster.getMember player, roster.getMember target with
    | some oldLeader, some newLeader =>
        (roster.setLeaderGUID newLeader.guid).changeRank oldLeader.guid grOfficer
    | _, _ => roster

/-- Promotion and demotion by one rank. -/
def Roster.handleUpdateMemberRank
    (roster : Roster) (player target : Nat) (demote : Bool) : Roster :=
  if !roster.hasRankRight player (if demote then grRightDemote else grRightPromote)
  then roster
  else
    match roster.getMember target, roster.getMember player with
    | some member, some memberMe =>
        if member.guid = player then roster
        else if demote then
          if member.isRankNotLower memberMe.rankId then roster
          else if roster.getLowestRankId ≤ member.rankId then roster
          else roster.changeRank member.guid ((member.rankId + 1) % 2 ^ 8)
        else if member.isRankNotLower ((memberMe.rankId + 1) % 2 ^ 8) then roster
        else roster.changeRank member.guid ((member.rankId + (2 ^ 8 - 1)) % 2 ^ 8)
    | _, _ => roster

/-! ## Rank records -/

/-- `_CreateRank`; the source reports `false` when there are ten ranks. -/
def Roster.createRank (roster : Roster) (name : String) (rights : UInt32) : Roster :=
  let newRankId := roster.getRanksSize
  if guildRanksMaxCount ≤ newRankId then roster
  else
    let info : RankInfo :=
      { rankId := newRankId, name, rights
        bankMoneyPerDay :=
          if newRankId ≠ grGuildmaster then 0 else guildWithdrawMoneyUnlimited }
    { roster with
      ranks := roster.ranks ++ [info]
      rows.ranks := insertNew RankInfo.rankId roster.rows.ranks info }

def Roster.createDefaultGuildRanks
    (environment : GuildEnvironment) (roster : Roster) : Roster :=
  let chat := grRightGchatlisten ||| grRightGchatspeak
  let name := environment.defaultRankName
  ((((({ roster with rows.ranks := [] }.createRank (name 0) grRightAll).createRank
    (name 1) grRightAll).createRank (name 2) chat).createRank (name 3) chat).createRank
    (name 4) chat)

def Roster.handleAddNewRank (roster : Roster) (player : Nat) (name : String) : Roster :=
  if guildRanksMaxCount ≤ roster.getRanksSize then roster
  else if roster.isLeader player then
    roster.createRank name (grRightGchatlisten ||| grRightGchatspeak)
  else roster

/-- The statement removes `rid >= rankId`, the vector its last element. -/
def Roster.removeRank (roster : Roster) (player rankId : Nat) : Roster :=
  if roster.getRanksSize ≤ guildRanksMinCount ∨ roster.getRanksSize ≤ rankId
      ∨ !roster.isLeader player then roster
  else
    { roster with
      ranks := roster.ranks.dropLast
      rows.ranks := roster.rows.ranks.filter fun row => row.rankId < rankId }

def Roster.handleRemoveLowestRank (roster : Roster) (player : Nat) : Roster :=
  roster.removeRank player roster.getLowestRankId

/--
The common body of the setters of a rank record.  A value which is there
already is not written, and the statement names the id the record carries.
-/
def Roster.setRankField {Value : Type} [DecidableEq Value]
    (roster : Roster) (rankId : Nat)
    (get : RankInfo → Value) (set : Value → RankInfo → RankInfo)
    (value : RankInfo → Value) : Roster :=
  match roster.getRankInfo rankId with
  | none => roster
  | some rankInfo =>
      if get rankInfo = value rankInfo then roster
      else
        { roster with
          ranks := roster.ranks.modify rankId (set (value rankInfo))
          rows.ranks := modify RankInfo.rankId roster.rows.ranks rankInfo.rankId
            (set (value rankInfo)) }

def Roster.setName (roster : Roster) (rankId : Nat) (name : String) : Roster :=
  roster.setRankField rankId RankInfo.name
    (fun value rankInfo => { rankInfo with name := value }) (fun _ => name)

/-- The guild master keeps every right. -/
def Roster.setRights (roster : Roster) (rankId : Nat) (rights : UInt32) : Roster :=
  roster.setRankField rankId RankInfo.rights
    (fun value rankInfo => { rankInfo with rights := value })
    (fun rankInfo => if rankInfo.rankId = grGuildmaster then grRightAll else rights)

def Roster.setBankMoneyPerDay
    (roster : Roster) (rankId : Nat) (money : UInt32) : Roster :=
  roster.setRankField rankId RankInfo.bankMoneyPerDay
    (fun value rankInfo => { rankInfo with bankMoneyPerDay := value })
    (fun rankInfo =>
      if rankInfo.rankId = grGuildmaster then guildWithdrawMoneyUnlimited else money)

def Roster.handleSetRankInfo
    (roster : Roster) (player rankId : Nat)
    (name : String) (rights money : UInt32) : Roster :=
  if !roster.isLeader player then roster
  else ((roster.setName rankId name).setRights rankId rights).setBankMoneyPerDay
    rankId money

/-! ## Joining and leaving -/

/-- `AddMember`; online players are in the cache as well. -/
def Roster.addMember (roster : Roster) (guid rankId : Nat) : Roster :=
  if roster.guilded.contains guid then roster
  else if !roster.characters.contains guid then roster
  else
    let member : Member :=
      { guid, rankId := if rankId = guildRankNone then roster.getLowestRankId else rankId }
    { roster with
      members := assign Member.guid roster.members member
      rows.members := insertNew Member.guid roster.rows.members member
      guilded := guid :: roster.guilded }

/-- The last part of `DeleteMember`: cache, map and database. -/
def Roster.eraseMember (roster : Roster) (guid : Nat) : Roster :=
  { roster with
    members := erase Member.guid roster.members guid
    rows.members := erase Member.guid roster.rows.members guid
    guilded := roster.guilded.filter (· ≠ guid) }

/-- Members are deleted one by one, as disbanding. -/
def Roster.disband (roster : Roster) : Roster :=
  let roster := (roster.members.map Member.guid).foldl Roster.eraseMember roster
  { roster with
    rows := { roster.rows with leaderGuid := none, ranks := [] }
    disbanded := true }

/-- One member of the search for a new leader. -/
def betterLeader (guid : Nat) (newLeader : Option Member) (member : Member) :
    Option Member :=
  if member.guid = guid then newLeader
  else
    match newLeader with
    | none => some member
    | some best => if best.rankId > member.rankId then some member else some best

/-- The member other than `guid` with the smallest rank id, the first of them. -/
def chooseLeader (guid : Nat) (members : List Member) : Option Member :=
  members.foldl (betterLeader guid) none

def Roster.deleteMember
    (environment : GuildEnvironment) (roster : Roster)
    (guid : Nat) (isDisbanding : Bool) : Roster :=
  if roster.leaderGuid = guid ∧ !isDisbanding then
    match chooseLeader guid (environment.iterationOrder roster.members) with
    | none => roster.disband
    | some newLeader => (roster.setLeaderGUID newLeader.guid).eraseMember guid
  else roster.eraseMember guid

def Roster.handleLeaveMember
    (environment : GuildEnvironment) (roster : Roster) (player : Nat) : Roster :=
  if roster.isLeader player then
    if 1 < roster.members.length then roster else roster.disband
  else roster.deleteMember environment player false

def Roster.handleRemoveMember
    (environment : GuildEnvironment) (roster : Roster) (player target : Nat) : Roster :=
  if !roster.hasRankRight player grRightRemove then roster
  else
    match roster.getMember target with
    | none => roster
    | some member =>
        if member.isRank grGuildmaster then roster
        else
          match roster.getMember player with
          | none => roster
          | some memberMe =>
              if member.isRankNotLower memberMe.rankId then roster
              else roster.deleteMember environment member.guid false

/-! ## Loading -/

/-- Leader rights are restored in memory only. -/
def RankInfo.loadFromDB (row : RankInfo) : RankInfo :=
  if row.rankId = grGuildmaster then { row with rights := row.rights ||| grRightAll }
  else row

/-- The record of some position does not carry the number of that position. -/
def Roster.brokenRanks (roster : Roster) : Bool :=
  roster.getRanksSize < guildRanksMinCount || guildRanksMaxCount < roster.getRanksSize ||
    (List.range roster.getRanksSize).any fun rankId =>
      (roster.getRankInfo rankId).any fun rankInfo => rankInfo.rankId ≠ rankId

def Roster.validateRanks (environment : GuildEnvironment) (roster : Roster) : Roster :=
  if roster.brokenRanks then
    { roster with ranks := [] }.createDefaultGuildRanks environment
  else roster

/-- Members whose rank does not exist are set to the lowest. -/
def Roster.validateMembers (roster : Roster) : Roster :=
  roster.changeRankWhere (fun member => member.rankId > roster.getRanksSize)
    roster.getLowestRankId

/-- Find or restore the leader. -/
def Roster.validateLeader (environment : GuildEnvironment) (roster : Roster) : Roster :=
  match roster.getMember roster.leaderGuid with
  | none => roster.deleteMember environment roster.leaderGuid false
  | some leader =>
      if leader.isRank grGuildmaster then roster
      else roster.setLeaderGUID leader.guid

/-- Unless several are allowed, other guild masters become officers. -/
def Roster.validateMasters (environment : GuildEnvironment) (roster : Roster) : Roster :=
  if environment.allowMultipleGuildMaster then roster
  else
    roster.changeRankWhere
      (fun member => member.isRank grGuildmaster && member.guid != roster.leaderGuid)
      grOfficer

def Roster.validate (environment : GuildEnvironment) (roster : Roster) : Roster :=
  let roster := ((roster.validateRanks environment).validateMembers).validateLeader
    environment
  if roster.disbanded then roster else roster.validateMasters environment

/-- A guild as the database may hold it, the rank rows in the order of their key. -/
structure StoredGuild where
  leaderGuid : Nat
  ranks : List RankInfo
  members : List Member
  rankKeys : (ranks.map RankInfo.rankId).Pairwise (· < ·)
  rankBytes : ∀ row ∈ ranks, row.rankId < 2 ^ 8
  memberKeys : (members.map Member.guid).Nodup
  memberBytes : ∀ row ∈ members, row.rankId < 2 ^ 8

/-- The guild as `LoadGuilds` reads it, ranks in the order of their ids. -/
def Roster.fromRows
    (leaderGuid : Nat) (ranks : List RankInfo) (members : List Member)
    (guilded characters : List Nat) : Roster :=
  let known := members.filter fun row => characters.contains row.guid
  { leaderGuid
    ranks := (ranks.insertionSort fun left right => left.rankId ≤ right.rankId).map
      RankInfo.loadFromDB
    members := known
    rows := { leaderGuid := some leaderGuid, ranks, members := known }
    guilded := known.map Member.guid ++ guilded
    characters
    disbanded := false }

/-- `LoadGuilds` for the rows of one guild, with its last part, `Validate`. -/
def Roster.load
    (environment : GuildEnvironment) (leaderGuid : Nat)
    (ranks : List RankInfo) (members : List Member)
    (guilded characters : List Nat) : Roster :=
  (Roster.fromRows leaderGuid ranks members guilded characters).validate environment

def StoredGuild.load
    (environment : GuildEnvironment) (stored : StoredGuild)
    (guilded characters : List Nat) : Roster :=
  Roster.load environment stored.leaderGuid stored.ranks stored.members guilded characters

/-- A guild between its constructor and its first rank. -/
def Roster.empty (leader : Nat) (guilded characters : List Nat) : Roster where
  leaderGuid := leader
  ranks := []
  members := []
  rows := { leaderGuid := some leader, ranks := [], members := [] }
  guilded := guilded
  characters := characters
  disbanded := false

/-- `Create`; the leader is the first member. -/
def Roster.create
    (environment : GuildEnvironment) (leader : Nat)
    (guilded characters : List Nat) : Roster :=
  ((Roster.empty leader guilded characters).createDefaultGuildRanks
    environment).addMember leader grGuildmaster

/-- A guild comes from the database or from a charter. -/
inductive GuildOrigin where
  | loaded (stored : StoredGuild) (guilded characters : List Nat)
  /-- The assertion in `Create`: its leader can join. -/
  | created (leader : Nat) (guilded characters : List Nat)
      (free : leader ∉ guilded) (known : leader ∈ characters)

def GuildOrigin.start (environment : GuildEnvironment) : GuildOrigin → Roster
  | .loaded stored guilded characters => stored.load environment guilded characters
  | .created leader guilded characters _ _ =>
      Roster.create environment leader guilded characters

/-- A restart: the guild is read back from its rows. -/
def Roster.reload (environment : GuildEnvironment) (roster : Roster) : Roster :=
  match roster.rows.leaderGuid with
  | none => roster
  | some leaderGuid =>
      Roster.load environment leaderGuid roster.rows.ranks roster.rows.members
        roster.guilded roster.characters

/-! ## Events -/

inductive GuildEvent where
  | setLeader (player target : Nat)
  | updateMemberRank (player target : Nat) (demote : Bool)
  | changeMemberRank (guid newRank : Nat)
  | addNewRank (player : Nat) (name : String)
  | removeLowestRank (player : Nat)
  | setRankInfo (player rankId : Nat) (name : String) (rights money : UInt32)
  /-- No caller passes a rank to a guild which exists. -/
  | addMember (guid : Nat)
  | leaveMember (player : Nat)
  | removeMember (player target : Nat)
  | deleteMember (guid : Nat) (isDisbanding : Bool)
  /-- `DeleteFromDB` takes the character out of its guild first. -/
  | deleteCharacter (guid : Nat)
  | createCharacter (guid : Nat)
  | reload

def Roster.handle (environment : GuildEnvironment) (roster : Roster) :
    GuildEvent → Roster
  | .setLeader player target => roster.handleSetLeader player target
  | .updateMemberRank player target demote =>
      roster.handleUpdateMemberRank player target demote
  | .changeMemberRank guid newRank => roster.changeMemberRank guid newRank
  | .addNewRank player name => roster.handleAddNewRank player name
  | .removeLowestRank player => roster.handleRemoveLowestRank player
  | .setRankInfo player rankId name rights money =>
      roster.handleSetRankInfo player rankId name rights money
  | .addMember guid => roster.addMember guid guildRankNone
  | .leaveMember player => roster.handleLeaveMember environment player
  | .removeMember player target => roster.handleRemoveMember environment player target
  | .deleteMember guid isDisbanding => roster.deleteMember environment guid isDisbanding
  | .deleteCharacter guid =>
      let roster := roster.deleteMember environment guid false
      { roster with characters := roster.characters.filter (· ≠ guid) }
  | .createCharacter guid => { roster with characters := guid :: roster.characters }
  | .reload => roster.reload environment

/-- Nothing happens to a guild which has been disbanded. -/
def step (environment : GuildEnvironment) (roster : Roster) (event : GuildEvent) :
    Roster :=
  if roster.disbanded then roster else roster.handle environment event

end RealmServer.Guilds
