import RealmServer.Lib.Transition
import RealmServer.Battlegrounds.Queue

/-!
# Membership in a queue

Three structures of a queue point to each other: the players, the groups and
the lists.  `Membership` is what they agree on.  Most operations do not touch
it at all, which is what `SameMembership` says; groups that join, players who
leave and groups that change their list are the rest.
-/

namespace RealmServer.Battlegrounds

open Table Shelves Transition

/-- What happens to a queue and its battlegrounds. -/
inductive Event where
  | addGroup (crossfactionEnabled : Bool) (request : JoinRequest)
  | removePlayer (guid : ObjectGuid) (decreaseInvitedCount : Bool)
  | update (surroundings : UpdateSurroundings) (bracket : BracketId) (arenaType : UInt8)
      (isRated : Bool) (arenaRating : UInt32)
  | createBattleground (bgTypeId : Nat)
  | inviteGroup (surroundings : Surroundings) (ginfo : GroupId) (instanceId : Nat)
      (side : Option Team)
  | startProposal (surroundings : Surroundings) (instanceId : Nat) (baseQueue : List GroupId)
      (assigment : List Int)
  | join (guid : ObjectGuid)
  | leave (instanceId : Nat) (guid : ObjectGuid)

namespace BattlegroundQueue

/--
`HandleBattleFieldPortOpcode` with the action to enter, and `AddPlayer` on
arrival.  `GetTeam` is then the team of the group, which `SetBGTeam` has set.
-/
def join (queue : BattlegroundQueue) (guid : ObjectGuid) : BattlegroundQueue :=
  match find PlayerQueueInfo.guid queue.queuedPlayers guid with
  | none => queue
  | some info =>
      match queue.group info.groupInfo with
      | none => queue
      | some ginfo =>
          match queue.getBattleground ginfo.isInvitedToBGInstanceGUID ginfo.bgTypeId with
          | none => queue
          | some battleground =>
              -- cheating?
              if !info.isInvited then queue
              else
                (queue.removePlayer guid false).modifyBattleground battleground.instanceId
                  (·.addPlayer guid ginfo.team)

/-- The battleground of an invitation is one that exists. -/
def hasBattleground (queue : BattlegroundQueue) (instanceId : Nat) : Bool :=
  contains Battleground.instanceId queue.battlegrounds instanceId

def step (queue : BattlegroundQueue) : Event → BattlegroundQueue
  | .addGroup crossfactionEnabled request => queue.addGroup crossfactionEnabled request
  | .removePlayer guid decreaseInvitedCount => queue.removePlayer guid decreaseInvitedCount
  | .update surroundings bracket arenaType isRated arenaRating =>
      queue.battlegroundQueueUpdate surroundings bracket arenaType isRated arenaRating
  | .createBattleground bgTypeId => (queue.createNewBattleground bgTypeId).2
  | .inviteGroup surroundings ginfo instanceId side =>
      if queue.hasBattleground instanceId then
        queue.inviteGroupToBG surroundings ginfo instanceId side
      else queue
  | .startProposal surroundings instanceId baseQueue assigment =>
      if queue.hasBattleground instanceId then
        queue.startProposal surroundings instanceId baseQueue assigment
      else queue
  | .join guid => queue.join guid
  | .leave instanceId guid =>
      queue.modifyBattleground instanceId (·.removePlayerAtLeave guid)

/-! ## Membership -/

/-- Players and groups lead to each other. -/
structure Linked (queue : BattlegroundQueue) : Prop where
  groupIds : (queue.groupInfos.map GroupQueueInfo.id).Nodup
  playerGuids : (queue.queuedPlayers.map PlayerQueueInfo.guid).Nodup
  unique : ∀ group ∈ queue.groupInfos, group.players.Nodup
  /-- `GroupInfo` leads to the group of the player, and back. -/
  points : ∀ info ∈ queue.queuedPlayers, ∃ group ∈ queue.groupInfos,
    group.id = info.groupInfo ∧ info.guid ∈ group.players
  listed : ∀ group ∈ queue.groupInfos, ∀ guid ∈ group.players, ∃ info ∈ queue.queuedPlayers,
    info.guid = guid ∧ info.groupInfo = group.id

structure Membership (queue : BattlegroundQueue) : Prop extends Linked queue where
  older : ∀ group ∈ queue.groupInfos, group.id < queue.nextGroup
  exact : Exact queue.queuedGroups
  /-- The groups in the lists are those which are allocated. -/
  live : ∀ id, Shelved queue.queuedGroups id ↔ id ∈ queue.groupInfos.map GroupQueueInfo.id
  occupied : ∀ group ∈ queue.groupInfos, group.players ≠ []
  instances : ∀ battleground ∈ queue.battlegrounds,
    0 < battleground.instanceId ∧ battleground.instanceId < queue.nextInstanceId
  instanceIds : (queue.battlegrounds.map Battleground.instanceId).Nodup
  nextInstance : 0 < queue.nextInstanceId

/-- A group that waits in a list of premade groups is of the team of the list. -/
def Teamed (queue : BattlegroundQueue) : Prop :=
  ∀ group ∈ queue.groupInfos, group.isInvited = false →
    ∀ bracket team, group.id ∈ queue.queuedGroups (bracket, .premade team) → group.team = team

theorem group_eq_some_iff {queue : BattlegroundQueue}
    (groupIds : (queue.groupInfos.map GroupQueueInfo.id).Nodup) {id : GroupId}
    {group : GroupQueueInfo} :
    queue.group id = some group ↔ group ∈ queue.groupInfos ∧ group.id = id := by
  constructor
  · exact fun found => ⟨mem_of_find found, key_of_find found⟩
  · rintro ⟨member, rfl⟩
    exact find_of_mem groupIds member

theorem mem_groupsAt {queue : BattlegroundQueue}
    (groupIds : (queue.groupInfos.map GroupQueueInfo.id).Nodup)
    {place : BracketId × QueueGroupType} {group : GroupQueueInfo} :
    group ∈ queue.groupsAt place ↔
      group ∈ queue.groupInfos ∧ group.id ∈ queue.queuedGroups place := by
  unfold groupsAt
  rw [List.mem_filterMap]
  constructor
  · rintro ⟨id, member, found⟩
    obtain ⟨isGroup, rfl⟩ := (group_eq_some_iff groupIds).mp found
    exact ⟨isGroup, member⟩
  · rintro ⟨isGroup, member⟩
    exact ⟨group.id, member, (group_eq_some_iff groupIds).mpr ⟨isGroup, rfl⟩⟩

theorem group_of_player {queue : BattlegroundQueue} (linked : queue.Linked)
    {first second : GroupQueueInfo} (isFirst : first ∈ queue.groupInfos)
    (isSecond : second ∈ queue.groupInfos) {guid : ObjectGuid} (inFirst : guid ∈ first.players)
    (inSecond : guid ∈ second.players) : first = second := by
  obtain ⟨info, member, isGuid, toFirst⟩ := linked.listed first isFirst guid inFirst
  obtain ⟨other, isOther, alsoGuid, toSecond⟩ := linked.listed second isSecond guid inSecond
  have same : info = other :=
    List.inj_on_of_nodup_map linked.playerGuids member isOther (isGuid.trans alsoGuid.symm)
  subst same
  exact List.inj_on_of_nodup_map linked.groupIds isFirst isSecond
    (toFirst.symm.trans toSecond)

/-! ### Operations that leave it alone -/

/-- The same players in the same groups in the same lists. -/
structure SameMembership (queue next : BattlegroundQueue) : Prop where
  groups : next.groupInfos.map (fun group => (group.id, group.players)) =
    queue.groupInfos.map fun group => (group.id, group.players)
  players : next.queuedPlayers.map (fun info => (info.guid, info.groupInfo)) =
    queue.queuedPlayers.map fun info => (info.guid, info.groupInfo)
  lists : next.queuedGroups = queue.queuedGroups
  nextGroup : next.nextGroup = queue.nextGroup
  instanceIds : next.battlegrounds.map Battleground.instanceId =
    queue.battlegrounds.map Battleground.instanceId
  nextInstanceId : next.nextInstanceId = queue.nextInstanceId

theorem SameMembership.refl (queue : BattlegroundQueue) : SameMembership queue queue :=
  ⟨rfl, rfl, rfl, rfl, rfl, rfl⟩

theorem SameMembership.trans {first second third : BattlegroundQueue}
    (before : SameMembership first second) (after : SameMembership second third) :
    SameMembership first third :=
  ⟨after.groups.trans before.groups, after.players.trans before.players,
    after.lists.trans before.lists, after.nextGroup.trans before.nextGroup,
    after.instanceIds.trans before.instanceIds, after.nextInstanceId.trans before.nextInstanceId⟩

/-- Each row of one table has one like it in the other. -/
theorem exists_of_map_eq {Row Value : Type} {view : Row → Value} {rows others : List Row}
    (same : rows.map view = others.map view) {row : Row} (member : row ∈ rows) :
    ∃ other ∈ others, view other = view row := by
  have present := List.mem_map_of_mem (f := view) member
  rw [same] at present
  exact List.mem_map.mp present

theorem Membership.of_same {queue next : BattlegroundQueue} (membership : queue.Membership)
    (same : SameMembership queue next) : next.Membership := by
  have ids := congrArg (List.map Prod.fst) same.groups
  rw [List.map_map, List.map_map] at ids
  have guids := congrArg (List.map Prod.fst) same.players
  rw [List.map_map, List.map_map] at guids
  have oldGroup : ∀ group ∈ next.groupInfos, ∃ old ∈ queue.groupInfos,
      old.id = group.id ∧ old.players = group.players := by
    intro group member
    obtain ⟨old, isOld, equal⟩ := exists_of_map_eq same.groups member
    exact ⟨old, isOld, congrArg Prod.fst equal, congrArg Prod.snd equal⟩
  have newGroup : ∀ group ∈ queue.groupInfos, ∃ new ∈ next.groupInfos,
      new.id = group.id ∧ new.players = group.players := by
    intro group member
    obtain ⟨new, isNew, equal⟩ := exists_of_map_eq same.groups.symm member
    exact ⟨new, isNew, congrArg Prod.fst equal, congrArg Prod.snd equal⟩
  refine ⟨⟨?_, ?_, ?_, ?_, ?_⟩, ?_, ?_, ?_, ?_, ?_, ?_, ?_⟩
  · exact ids.symm ▸ membership.groupIds
  · exact guids.symm ▸ membership.playerGuids
  · intro group member
    obtain ⟨old, isOld, -, samePlayers⟩ := oldGroup group member
    exact samePlayers ▸ membership.unique old isOld
  · intro info member
    obtain ⟨oldInfo, isOldInfo, equal⟩ := exists_of_map_eq same.players member
    rw [Prod.mk.injEq] at equal
    obtain ⟨old, isOld, toGroup, inside⟩ := membership.points oldInfo isOldInfo
    obtain ⟨new, isNew, sameId, samePlayers⟩ := newGroup old isOld
    refine ⟨new, isNew, ?_, ?_⟩
    · rw [sameId, toGroup, equal.2]
    · rw [samePlayers, ← equal.1]
      exact inside
  · intro group member guid inside
    obtain ⟨old, isOld, sameId, samePlayers⟩ := oldGroup group member
    obtain ⟨info, isInfo, isGuid, toGroup⟩ :=
      membership.listed old isOld guid (samePlayers ▸ inside)
    obtain ⟨new, isNew, equal⟩ := exists_of_map_eq same.players.symm isInfo
    rw [Prod.mk.injEq] at equal
    exact ⟨new, isNew, equal.1.trans isGuid, equal.2.trans (toGroup.trans sameId)⟩
  · intro group member
    obtain ⟨old, isOld, sameId, -⟩ := oldGroup group member
    rw [same.nextGroup, ← sameId]
    exact membership.older old isOld
  · exact same.lists ▸ membership.exact
  · intro id
    rw [same.lists, membership.live id]
    exact ids.symm ▸ Iff.rfl
  · intro group member
    obtain ⟨old, isOld, -, samePlayers⟩ := oldGroup group member
    exact samePlayers ▸ membership.occupied old isOld
  · intro battleground member
    obtain ⟨old, isOld, sameId⟩ := exists_of_map_eq same.instanceIds member
    rw [same.nextInstanceId, ← sameId]
    exact membership.instances old isOld
  · exact same.instanceIds.symm ▸ membership.instanceIds
  · exact same.nextInstanceId.symm ▸ membership.nextInstance

section Same

variable (queue : BattlegroundQueue)

theorem same_modifyGroup (id : GroupId) {change : GroupQueueInfo → GroupQueueInfo}
    (sameId : ∀ group, (change group).id = group.id)
    (samePlayers : ∀ group, (change group).players = group.players) :
    SameMembership queue (queue.modifyGroup id change) := by
  refine ⟨?_, rfl, rfl, rfl, rfl, rfl⟩
  unfold modifyGroup Table.modify
  rw [List.map_map]
  apply List.map_congr_left
  intro group _
  dsimp only [Function.comp_apply]
  split_ifs
  · rw [sameId, samePlayers]
  · rfl

theorem same_modifyBattleground (instanceId : Nat) {change : Battleground → Battleground}
    (sameId : ∀ battleground, (change battleground).instanceId = battleground.instanceId) :
    SameMembership queue (queue.modifyBattleground instanceId change) :=
  ⟨rfl, rfl, rfl, rfl, map_modify _ _ sameId, rfl⟩

theorem increaseInvitedCount_instanceId (battleground : Battleground) (team : Team) :
    (battleground.increaseInvitedCount team).instanceId = battleground.instanceId := by
  cases team <;> rfl

theorem forget_instanceId (battleground : Battleground) (team : Team) (guid : ObjectGuid) :
    (battleground.forget team guid).instanceId = battleground.instanceId := by
  cases team <;> rfl

theorem removePlayerAtLeave_instanceId (battleground : Battleground) (guid : ObjectGuid) :
    (battleground.removePlayerAtLeave guid).instanceId = battleground.instanceId := by
  unfold Battleground.removePlayerAtLeave
  split
  · rfl
  · exact forget_instanceId _ _ _

theorem same_invitePlayer (surroundings : Surroundings) (instanceId : Nat) (team : Team)
    (groupSize : Nat) (guid : ObjectGuid) :
    SameMembership queue (queue.invitePlayer surroundings instanceId team groupSize guid) := by
  unfold invitePlayer
  dsimp only
  split_ifs
  · exact .refl _
  · refine ⟨rfl, ?_, rfl, rfl, map_modify _ _ ?_, rfl⟩
    · dsimp only [modifyBattleground]
      unfold Table.modify
      rw [List.map_map]
      apply List.map_congr_left
      intro info _
      dsimp only [Function.comp_apply]
      split_ifs <;> rfl
    · exact fun battleground => increaseInvitedCount_instanceId battleground team

theorem same_foldl {Input : Type} (change : BattlegroundQueue → Input → BattlegroundQueue)
    (same : ∀ queue input, SameMembership queue (change queue input)) (inputs : List Input) :
    SameMembership queue (inputs.foldl change queue) := by
  induction inputs generalizing queue with
  | nil => exact .refl _
  | cons first rest induction => exact (same queue first).trans (induction (change queue first))

theorem same_inviteGroupToBG (surroundings : Surroundings) (ginfo : GroupId) (instanceId : Nat)
    (side : Option Team) :
    SameMembership queue (queue.inviteGroupToBG surroundings ginfo instanceId side) := by
  unfold inviteGroupToBG
  split
  · exact .refl _
  · rename_i group found
    have sided : SameMembership queue
        (queue.modifyGroup ginfo fun old => { old with team := side.getD group.team }) :=
      same_modifyGroup queue ginfo (fun _ => rfl) (fun _ => rfl)
    dsimp only
    split_ifs
    · exact sided
    · refine sided.trans ((same_modifyGroup _ ginfo ?_ ?_).trans (same_foldl _ _ ?_ _))
      · exact fun _ => rfl
      · exact fun _ => rfl
      · exact fun queue guid => same_invitePlayer queue _ _ _ _ _

end Same

end BattlegroundQueue

end RealmServer.Battlegrounds
