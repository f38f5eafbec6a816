import RealmServer.Battlegrounds.Membership

/-!
# Joining and leaving a queue

A new group gets its players one after another before it is put into a list.
A player who leaves takes his group with him if he was its last, and the rest
of a rated team which is not invited yet goes with him as well.
-/

namespace RealmServer.Battlegrounds.BattlegroundQueue

open Table Shelves Transition

variable {queue : BattlegroundQueue}

/-! ## A group joins -/

/-- A queue while a group gets its players. -/
structure Gathering (ginfo : GroupId) (before queue : BattlegroundQueue) : Prop
    extends Linked queue where
  ids : queue.groupInfos.map GroupQueueInfo.id = before.groupInfos.map GroupQueueInfo.id
  others : ∀ group ∈ queue.groupInfos, group.id ≠ ginfo → group ∈ before.groupInfos
  teams : ∀ group ∈ queue.groupInfos, ∃ old ∈ before.groupInfos,
    old.id = group.id ∧ old.team = group.team
  mine : ∀ info ∈ queue.queuedPlayers, info ∈ before.queuedPlayers ∨ info.groupInfo = ginfo
  lists : queue.queuedGroups = before.queuedGroups
  nextGroup : queue.nextGroup = before.nextGroup
  battlegrounds : queue.battlegrounds = before.battlegrounds
  nextInstanceId : queue.nextInstanceId = before.nextInstanceId

theorem mem_orderedInsert_erase {players : List ObjectGuid} {guid other : ObjectGuid} :
    other ∈ (players.erase guid).orderedInsert (· ≤ ·) guid ↔ other = guid ∨ other ∈ players := by
  rw [List.mem_orderedInsert]
  by_cases same : other = guid
  · simp [same]
  · simp [same, List.mem_erase_of_ne same]

theorem Gathering.addMember {ginfo : GroupId} {before : BattlegroundQueue}
    (gathering : Gathering ginfo before queue)
    (present : ginfo ∈ before.groupInfos.map GroupQueueInfo.id) (request : JoinRequest)
    {member : QueueMember}
    (new : ∀ info ∈ before.queuedPlayers, info.guid ≠ member.guid) :
    Gathering ginfo before (addMember request ginfo queue member) := by
  have free : ∀ info ∈ queue.queuedPlayers, info.guid = member.guid → info.groupInfo = ginfo := by
    intro info isInfo same
    rcases gathering.mine info isInfo with old | mine
    · exact absurd same (new info old)
    · exact mine
  have isGroup : ∃ group ∈ queue.groupInfos, group.id = ginfo := by
    rw [← gathering.ids] at present
    exact List.mem_map.mp present
  refine ⟨⟨modify_keys gathering.groupIds _ fun _ => rfl, assign_keys gathering.playerGuids _,
    ?_, ?_, ?_⟩, ?_, ?_, ?_, ?_, gathering.lists, gathering.nextGroup, gathering.battlegrounds,
    gathering.nextInstanceId⟩
  · intro group isGroup
    rcases mem_modify.mp isGroup with ⟨isOld, -⟩ | ⟨old, isOld, -, rfl⟩
    · exact gathering.unique group isOld
    · have inserted := List.perm_orderedInsert (· ≤ ·) member.guid (old.players.erase member.guid)
      have unique := gathering.unique old isOld
      exact inserted.nodup_iff.mpr (List.nodup_cons.mpr ⟨unique.not_mem_erase, unique.erase _⟩)
  · intro info isInfo
    rcases mem_assign.mp isInfo with ⟨isOld, differs⟩ | rfl
    · obtain ⟨group, isGroup, toGroup, inside⟩ := gathering.points info isOld
      by_cases same : group.id = ginfo
      · exact ⟨_, mem_modify.mpr (.inr ⟨group, isGroup, same, rfl⟩), toGroup,
          mem_orderedInsert_erase.mpr (.inr inside)⟩
      · exact ⟨group, mem_modify.mpr (.inl ⟨isGroup, same⟩), toGroup, inside⟩
    · obtain ⟨group, isGroup, same⟩ := isGroup
      exact ⟨_, mem_modify.mpr (.inr ⟨group, isGroup, same, rfl⟩), same,
        mem_orderedInsert_erase.mpr (.inl rfl)⟩
  · intro group isGroup guid inside
    have kept : ∀ old ∈ queue.groupInfos, guid ∈ old.players →
        (guid = member.guid → old.id ≠ ginfo) → guid ≠ member.guid := by
      rintro old isOld inOld elsewhere rfl
      obtain ⟨info, isInfo, same, toGroup⟩ := gathering.listed old isOld _ inOld
      exact elsewhere rfl (toGroup.symm.trans (free info isInfo same))
    rcases mem_modify.mp isGroup with ⟨isOld, other⟩ | ⟨old, isOld, same, rfl⟩
    · obtain ⟨info, isInfo, isGuid, toGroup⟩ := gathering.listed group isOld guid inside
      have differs := kept group isOld inside fun _ => other
      exact ⟨info, mem_assign.mpr (.inl ⟨isInfo, isGuid ▸ differs⟩), isGuid, toGroup⟩
    · by_cases isMember : guid = member.guid
      · exact ⟨_, mem_assign.mpr (.inr rfl), isMember.symm, same.symm⟩
      · have inOld := (mem_orderedInsert_erase.mp inside).resolve_left isMember
        obtain ⟨info, isInfo, isGuid, toGroup⟩ := gathering.listed old isOld guid inOld
        exact ⟨info, mem_assign.mpr (.inl ⟨isInfo, isGuid ▸ isMember⟩), isGuid, toGroup⟩
  · rw [← gathering.ids]
    exact map_modify _ _ fun _ => rfl
  · intro group isGroup differs
    rcases mem_modify.mp isGroup with ⟨isOld, -⟩ | ⟨old, -, same, rfl⟩
    · exact gathering.others group isOld differs
    · exact absurd same differs
  · intro group isGroup
    rcases mem_modify.mp isGroup with ⟨isOld, -⟩ | ⟨old, isOld, -, rfl⟩
    · exact gathering.teams group isOld
    · exact gathering.teams old isOld
  · intro info isInfo
    rcases mem_assign.mp isInfo with ⟨isOld, -⟩ | rfl
    · exact gathering.mine info isOld
    · exact .inr rfl

theorem Gathering.addMembers {ginfo : GroupId} {before : BattlegroundQueue}
    (gathering : Gathering ginfo before queue)
    (present : ginfo ∈ before.groupInfos.map GroupQueueInfo.id) (request : JoinRequest)
    {members : List QueueMember}
    (new : ∀ member ∈ members, ∀ info ∈ before.queuedPlayers, info.guid ≠ member.guid) :
    Gathering ginfo before (members.foldl (BattlegroundQueue.addMember request ginfo) queue) := by
  induction members generalizing queue with
  | nil => exact gathering
  | cons member rest induction =>
      rw [List.forall_mem_cons] at new
      exact induction (gathering.addMember present request new.1) new.2

/-- A group that has got a player is not empty. -/
theorem occupied_addMembers {ginfo : GroupId} (request : JoinRequest) {members : List QueueMember}
    (some : members ≠ []) :
    ∀ group ∈ (members.foldl (addMember request ginfo) queue).groupInfos, group.id = ginfo →
      group.players ≠ [] := by
  induction members using List.reverseRecOn with
  | nil => exact absurd rfl some
  | append_singleton earlier member _ =>
      rw [List.foldl_append, List.foldl_cons, List.foldl_nil]
      intro group isGroup same
      rcases mem_modify.mp isGroup with ⟨-, differs⟩ | ⟨old, -, -, rfl⟩
      · exact absurd same differs
      · exact List.ne_nil_of_mem (mem_orderedInsert_erase.mpr (.inl rfl))

theorem members_ne_nil (request : JoinRequest) : request.members ≠ [] := by
  unfold JoinRequest.members
  cases given : request.grp with
  | none => simp
  | some members => exact List.ne_nil_of_mem (request.leads members given)

/-- Nobody who joins is in the queue. -/
def AllNew (queue : BattlegroundQueue) (request : JoinRequest) : Prop :=
  ∀ member ∈ request.members, ∀ info ∈ queue.queuedPlayers, info.guid ≠ member.guid

/-- What `AddGroup` allocates. -/
theorem gathering_start (membership : queue.Membership) (ginfo : GroupQueueInfo)
    (isNext : ginfo.id = queue.nextGroup) (empty : ginfo.players = []) :
    Gathering ginfo.id
      { queue with
        groupInfos := queue.groupInfos ++ [ginfo]
        nextGroup := queue.nextGroup + 1 }
      { queue with
        groupInfos := queue.groupInfos ++ [ginfo]
        nextGroup := queue.nextGroup + 1 } := by
  refine ⟨⟨?_, membership.playerGuids, ?_, ?_, ?_⟩, rfl, fun _ member _ => member,
    fun group member => ⟨group, member, rfl, rfl⟩, fun _ member => .inl member, rfl, rfl, rfl, rfl⟩
  · dsimp only
    rw [List.map_append, List.map_singleton, List.nodup_append_comm, List.singleton_append,
      List.nodup_cons]
    refine ⟨fun present => ?_, membership.groupIds⟩
    obtain ⟨group, isGroup, same⟩ := List.mem_map.mp present
    exact absurd (same.trans isNext) (Nat.ne_of_lt (membership.older group isGroup))
  · intro group isGroup
    rcases List.mem_append.mp isGroup with isOld | isNew
    · exact membership.unique group isOld
    · rw [List.mem_singleton.mp isNew, empty]
      exact List.nodup_nil
  · intro info isInfo
    obtain ⟨group, isGroup, points⟩ := membership.points info isInfo
    exact ⟨group, List.mem_append_left _ isGroup, points⟩
  · intro group isGroup guid inside
    rcases List.mem_append.mp isGroup with isOld | isNew
    · exact membership.listed group isOld guid inside
    · rw [List.mem_singleton.mp isNew, empty] at inside
      exact absurd inside List.not_mem_nil

theorem Membership.addGroup (membership : queue.Membership) (crossfactionEnabled : Bool)
    {request : JoinRequest} (new : AllNew queue request) :
    (queue.addGroup crossfactionEnabled request).Membership := by
  unfold BattlegroundQueue.addGroup
  extract_lets ginfo allocated gathered
  have gathering : Gathering ginfo.id allocated gathered :=
    (gathering_start membership ginfo rfl rfl).addMembers (by simp) request new
  have ids : gathered.groupInfos.map GroupQueueInfo.id =
      queue.groupInfos.map GroupQueueInfo.id ++ [queue.nextGroup] := by
    rw [gathering.ids]
    simp [allocated, ginfo]
  have lists : gathered.queuedGroups = queue.queuedGroups := gathering.lists
  have absent : ¬Shelved queue.queuedGroups queue.nextGroup := by
    intro shelved
    obtain ⟨group, isGroup, same⟩ := List.mem_map.mp ((membership.live _).mp shelved)
    exact absurd same (Nat.ne_of_lt (membership.older group isGroup))
  refine ⟨⟨gathering.groupIds, gathering.playerGuids, gathering.unique, gathering.points,
    gathering.listed⟩, ?_, ?_, ?_, ?_, ?_, ?_, ?_⟩
  · intro group isGroup
    have present : group.id ∈ gathered.groupInfos.map GroupQueueInfo.id :=
      List.mem_map_of_mem isGroup
    dsimp only
    rw [gathering.nextGroup]
    rw [ids, List.mem_append, List.mem_singleton] at present
    rcases present with isOld | isNew
    · obtain ⟨old, isOld, same⟩ := List.mem_map.mp isOld
      exact same ▸ Nat.lt_succ_of_lt (membership.older old isOld)
    · exact isNew ▸ Nat.lt_succ_self _
  · dsimp only
    rw [lists]
    exact membership.exact.pushBack absent _
  · intro id
    dsimp only
    rw [lists, shelved_pushBack, membership.live, ids, List.mem_append, List.mem_singleton]
  · intro group isGroup
    by_cases same : group.id = ginfo.id
    · exact occupied_addMembers request (members_ne_nil request) group isGroup same
    · have isOld := gathering.others group isGroup same
      rcases List.mem_append.mp isOld with isOld | isNew
      · exact membership.occupied group isOld
      · exact absurd (congrArg GroupQueueInfo.id (List.mem_singleton.mp isNew)) same
  · intro battleground
    dsimp only
    rw [gathering.battlegrounds, gathering.nextInstanceId]
    exact membership.instances battleground
  · dsimp only
    rw [gathering.battlegrounds]
    exact membership.instanceIds
  · dsimp only
    rw [gathering.nextInstanceId]
    exact membership.nextInstance

/-! ## A player leaves -/

/-- The list that the search finds holds the group. -/
theorem mem_of_findQueue {id : GroupId} {place : BracketId × QueueGroupType}
    (found : queue.findQueue id = some place) : id ∈ queue.queuedGroups place := by
  unfold findQueue at found
  dsimp only at found
  split at found
  · exact absurd found (by simp)
  · obtain ⟨index, isLast, rfl⟩ := Option.map_eq_some_iff.mp found
    have hit := List.mem_of_getLast? isLast
    rw [List.mem_filter, List.contains_iff_mem] at hit
    exact hit.2

theorem QueueGroupType.mem_all (index : QueueGroupType) : index ∈ QueueGroupType.all := by
  rcases index with (team | team | _) <;> first | decide | (cases team <;> decide)

theorem findQueue_isSome {id : GroupId} (shelved : Shelved queue.queuedGroups id) :
    (queue.findQueue id).isSome := by
  obtain ⟨⟨bracket, index⟩, present⟩ := shelved
  unfold findQueue
  dsimp only
  split
  · rename_i nowhere
    have missing := List.find?_eq_none.mp nowhere bracket (by simp)
    have hit : index ∈ QueueGroupType.all.filter
        fun index => (queue.queuedGroups (bracket, index)).contains id :=
      List.mem_filter.mpr ⟨QueueGroupType.mem_all index, List.contains_iff_mem.mpr present⟩
    exact absurd (by simpa using List.ne_nil_of_mem hit) missing
  · rename_i found isFound
    have some := List.find?_some isFound
    rw [Option.isSome_map, List.getLast?_isSome]
    simpa using some

/-- The battlegrounds once a player has left his group. -/
def battlegroundsWithout (queue : BattlegroundQueue) (group : GroupQueueInfo) (guid : ObjectGuid)
    (decreaseInvitedCount : Bool) : List Battleground :=
  if decreaseInvitedCount && group.isInvited then
    match queue.getBattleground group.isInvitedToBGInstanceGUID group.bgTypeId with
    | none => queue.battlegrounds
    | some battleground =>
        modify Battleground.instanceId queue.battlegrounds battleground.instanceId
          (·.forget group.team guid)
  else queue.battlegrounds

theorem leaveGroup_eq (queue : BattlegroundQueue) (group : GroupQueueInfo)
    (place : BracketId × QueueGroupType) (guid : ObjectGuid) (decreaseInvitedCount : Bool) :
    queue.leaveGroup group place guid decreaseInvitedCount =
      { queue with
        queuedPlayers := erase PlayerQueueInfo.guid queue.queuedPlayers guid
        groupInfos :=
          if group.players.erase guid = [] then
            erase GroupQueueInfo.id queue.groupInfos group.id
          else
            modify GroupQueueInfo.id queue.groupInfos group.id fun old =>
              { old with players := group.players.erase guid }
        queuedGroups :=
          if group.players.erase guid = [] then take queue.queuedGroups place group.id
          else queue.queuedGroups
        battlegrounds := queue.battlegroundsWithout group guid decreaseInvitedCount } := by
  have gone : erase GroupQueueInfo.id (modify GroupQueueInfo.id queue.groupInfos group.id
      fun old => { old with players := group.players.erase guid }) group.id =
        erase GroupQueueInfo.id queue.groupInfos group.id :=
    erase_modify _ _ fun _ => rfl
  have unseen : ∀ instanceId bgTypeId, (queue.modifyGroup group.id
      fun old => { old with players := group.players.erase guid }).getBattleground instanceId
        bgTypeId = queue.getBattleground instanceId bgTypeId := fun _ _ => rfl
  unfold leaveGroup battlegroundsWithout
  simp only [unseen, List.isEmpty_iff]
  split_ifs with empty counted
  · cases queue.getBattleground group.isInvitedToBGInstanceGUID group.bgTypeId <;>
      simp only [modifyGroup, modifyBattleground, gone]
  · simp only [modifyGroup, gone]
  · cases queue.getBattleground group.isInvitedToBGInstanceGUID group.bgTypeId <;> rfl
  · rfl

/-- The battleground hears of it, and nothing else is different. -/
theorem map_battlegroundsWithout (queue : BattlegroundQueue) (group : GroupQueueInfo)
    (guid : ObjectGuid) (decreaseInvitedCount : Bool) :
    (queue.battlegroundsWithout group guid decreaseInvitedCount).map Battleground.instanceId =
      queue.battlegrounds.map Battleground.instanceId := by
  unfold battlegroundsWithout
  split_ifs
  · split
    · rfl
    · exact map_modify _ _ fun battleground => forget_instanceId battleground _ _
  · rfl

section Leaving

variable (membership : queue.Membership) {group : GroupQueueInfo}
  (isGroup : group ∈ queue.groupInfos) {guid : ObjectGuid} (inside : guid ∈ group.players)

include membership isGroup inside

/-- A group dies with its last player. -/
theorem Membership.withoutGroup {place : BracketId × QueueGroupType}
    (present : group.id ∈ queue.queuedGroups place) (empty : group.players.erase guid = []) :
    { queue with
      queuedPlayers := erase PlayerQueueInfo.guid queue.queuedPlayers guid
      groupInfos := erase GroupQueueInfo.id queue.groupInfos group.id
      queuedGroups := take queue.queuedGroups place group.id }.Membership := by
  have alone : ∀ other ∈ group.players, other = guid := by
    intro other member
    by_contra differs
    exact List.not_mem_nil (empty ▸ (List.mem_erase_of_ne differs).mpr member)
  refine ⟨⟨erase_keys membership.groupIds _, erase_keys membership.playerGuids _,
    fun other isOther => membership.unique other (mem_erase.mp isOther).1, ?_, ?_⟩,
    fun other isOther => membership.older other (mem_erase.mp isOther).1,
    membership.exact.take present, ?_,
    fun other isOther => membership.occupied other (mem_erase.mp isOther).1,
    membership.instances, membership.instanceIds, membership.nextInstance⟩
  · intro info isInfo
    obtain ⟨isInfo, differs⟩ := mem_erase.mp isInfo
    obtain ⟨other, isOther, toGroup, member⟩ := membership.points info isInfo
    refine ⟨other, mem_erase.mpr ⟨isOther, fun same => differs ?_⟩, toGroup, member⟩
    have equal := List.inj_on_of_nodup_map membership.groupIds isOther isGroup same
    exact alone info.guid (equal ▸ member)
  · intro other isOther player member
    obtain ⟨isOther, differs⟩ := mem_erase.mp isOther
    obtain ⟨info, isInfo, isGuid, toGroup⟩ := membership.listed other isOther player member
    refine ⟨info, mem_erase.mpr ⟨isInfo, fun same => differs (congrArg _ ?_)⟩, isGuid, toGroup⟩
    exact group_of_player membership.toLinked isOther isGroup member
      (isGuid.symm.trans same ▸ inside)
  · intro id
    rw [shelved_take membership.exact present, membership.live id, List.mem_map, List.mem_map]
    constructor
    · rintro ⟨⟨other, isOther, rfl⟩, differs⟩
      exact ⟨other, mem_erase.mpr ⟨isOther, differs⟩, rfl⟩
    · rintro ⟨other, isOther, rfl⟩
      obtain ⟨isOther, differs⟩ := mem_erase.mp isOther
      exact ⟨⟨other, isOther, rfl⟩, differs⟩

theorem Membership.withoutMember (others : group.players.erase guid ≠ []) :
    { queue with
      queuedPlayers := erase PlayerQueueInfo.guid queue.queuedPlayers guid
      groupInfos := modify GroupQueueInfo.id queue.groupInfos group.id fun old =>
        { old with players := group.players.erase guid } }.Membership := by
  have ids : (modify GroupQueueInfo.id queue.groupInfos group.id fun old =>
      { old with players := group.players.erase guid }).map GroupQueueInfo.id =
        queue.groupInfos.map GroupQueueInfo.id := map_modify _ _ fun _ => rfl
  have unique := membership.unique group isGroup
  refine ⟨⟨modify_keys membership.groupIds _ fun _ => rfl, erase_keys membership.playerGuids _,
    ?_, ?_, ?_⟩, ?_, membership.exact, fun id => by rw [ids, membership.live id], ?_,
    membership.instances, membership.instanceIds, membership.nextInstance⟩
  · intro other isOther
    rcases mem_modify.mp isOther with ⟨isOld, -⟩ | ⟨old, -, -, rfl⟩
    · exact membership.unique other isOld
    · exact unique.erase _
  · intro info isInfo
    obtain ⟨isInfo, differs⟩ := mem_erase.mp isInfo
    obtain ⟨other, isOther, toGroup, member⟩ := membership.points info isInfo
    by_cases same : other.id = group.id
    · have equal := List.inj_on_of_nodup_map membership.groupIds isOther isGroup same
      exact ⟨_, mem_modify.mpr (.inr ⟨other, isOther, same, rfl⟩), toGroup,
        (List.mem_erase_of_ne differs).mpr (equal ▸ member)⟩
    · exact ⟨other, mem_modify.mpr (.inl ⟨isOther, same⟩), toGroup, member⟩
  · intro other isOther player member
    have found : ∃ old ∈ queue.groupInfos, old.id = other.id ∧ player ∈ old.players ∧
        player ≠ guid := by
      rcases mem_modify.mp isOther with ⟨isOld, differs⟩ | ⟨old, isOld, same, rfl⟩
      · refine ⟨other, isOld, rfl, member, ?_⟩
        rintro rfl
        exact differs (congrArg _
          (group_of_player membership.toLinked isOld isGroup member inside))
      · have equal := List.inj_on_of_nodup_map membership.groupIds isOld isGroup same
        obtain ⟨differs, member⟩ := unique.mem_erase_iff.mp member
        exact ⟨old, isOld, rfl, equal ▸ member, differs⟩
    obtain ⟨old, isOld, sameId, member, differs⟩ := found
    obtain ⟨info, isInfo, isGuid, toGroup⟩ := membership.listed old isOld player member
    exact ⟨info, mem_erase.mpr ⟨isInfo, isGuid ▸ differs⟩, isGuid, toGroup.trans sameId⟩
  · intro other isOther
    rcases mem_modify.mp isOther with ⟨isOld, -⟩ | ⟨old, isOld, -, rfl⟩
    · exact membership.older other isOld
    · exact membership.older old isOld
  · intro other isOther
    rcases mem_modify.mp isOther with ⟨isOld, -⟩ | ⟨old, -, -, rfl⟩
    · exact membership.occupied other isOld
    · exact others

theorem Membership.leaveGroup {place : BracketId × QueueGroupType}
    (present : group.id ∈ queue.queuedGroups place) (decreaseInvitedCount : Bool) :
    (queue.leaveGroup group place guid decreaseInvitedCount).Membership := by
  have instanceIds := map_battlegroundsWithout queue group guid decreaseInvitedCount
  rw [leaveGroup_eq]
  by_cases empty : group.players.erase guid = []
  · rw [if_pos empty, if_pos empty]
    exact (membership.withoutGroup isGroup inside present empty).of_same
      ⟨rfl, rfl, rfl, rfl, instanceIds, rfl⟩
  · rw [if_neg empty, if_neg empty]
    exact (membership.withoutMember isGroup inside empty).of_same
      ⟨rfl, rfl, rfl, rfl, instanceIds, rfl⟩

end Leaving

/-- What `RemovePlayer` looks up is there. -/
theorem Membership.found (membership : queue.Membership) {guid : ObjectGuid}
    {player : PlayerQueueInfo}
    (isPlayer : find PlayerQueueInfo.guid queue.queuedPlayers guid = some player) :
    ∃ group ∈ queue.groupInfos, ∃ place, group.id ∈ queue.queuedGroups place ∧
      guid ∈ group.players ∧ queue.group player.groupInfo = some group ∧
        queue.findQueue player.groupInfo = some place := by
  obtain ⟨group, isGroup, toGroup, inside⟩ := membership.points player (mem_of_find isPlayer)
  have shelved : Shelved queue.queuedGroups group.id :=
    (membership.live group.id).mpr (List.mem_map_of_mem isGroup)
  obtain ⟨place, found⟩ := Option.isSome_iff_exists.mp (findQueue_isSome shelved)
  refine ⟨group, isGroup, place, mem_of_findQueue found, key_of_find isPlayer ▸ inside,
    (group_eq_some_iff membership.groupIds).mpr ⟨isGroup, toGroup⟩, toGroup ▸ found⟩

theorem Membership.removePlayerRounds (membership : queue.Membership)
    (decreaseInvitedCount : Bool) (rounds : Nat) (guid : ObjectGuid) :
    (removePlayerRounds decreaseInvitedCount rounds queue guid).Membership := by
  induction rounds generalizing queue guid with
  | zero => exact membership
  | succ rounds induction =>
      unfold BattlegroundQueue.removePlayerRounds
      split
      · exact membership
      · rename_i player isPlayer
        obtain ⟨group, isGroup, place, present, inside, found, foundPlace⟩ :=
          membership.found isPlayer
        rw [found, foundPlace]
        have next := membership.leaveGroup isGroup inside present decreaseInvitedCount
        dsimp only
        split
        · exact next
        · split_ifs
          · exact induction next _
          · exact next

theorem Membership.removePlayer (membership : queue.Membership) (guid : ObjectGuid)
    (decreaseInvitedCount : Bool) : (queue.removePlayer guid decreaseInvitedCount).Membership :=
  membership.removePlayerRounds _ _ _

/-- All the players of a group are gone, and the group with them. -/
structure GoneTogether (queue next : BattlegroundQueue) (group : GroupQueueInfo) : Prop where
  groups : next.groupInfos = erase GroupQueueInfo.id queue.groupInfos group.id
  players : next.queuedPlayers =
    queue.queuedPlayers.filter fun info => info.guid ∉ group.players
  lists : ¬Shelved next.queuedGroups group.id

/--
A rated team leaves as a whole.  Induction over the rounds, each of which
leaves one player less in the team.
-/
theorem Membership.wholeTeam (membership : queue.Membership) {group : GroupQueueInfo}
    (isGroup : group ∈ queue.groupInfos) (isRated : group.isRated = true)
    (uninvited : group.isInvited = false) {guid : ObjectGuid} (inside : guid ∈ group.players)
    (decreaseInvitedCount : Bool) {rounds : Nat} (enough : group.players.length ≤ rounds) :
    let next := BattlegroundQueue.removePlayerRounds decreaseInvitedCount rounds queue guid
    next.groupInfos = erase GroupQueueInfo.id queue.groupInfos group.id ∧
      next.queuedPlayers = queue.queuedPlayers.filter fun info => info.guid ∉ group.players := by
  induction rounds generalizing queue group guid with
  | zero => exact absurd inside (by simp [List.length_eq_zero_iff.mp (Nat.le_zero.mp enough)])
  | succ rounds induction =>
      obtain ⟨info, isInfo, rfl, -⟩ := membership.listed group isGroup guid inside
      have isPlayer := find_of_mem membership.playerGuids isInfo
      obtain ⟨same, isSame, place, present, alsoInside, found, foundPlace⟩ :=
        membership.found isPlayer
      obtain rfl := group_of_player membership.toLinked isSame isGroup alsoInside inside
      have next := membership.leaveGroup isGroup inside present decreaseInvitedCount
      have shape := leaveGroup_eq queue same place info.guid decreaseInvitedCount
      have unique := membership.unique same isGroup
      unfold BattlegroundQueue.removePlayerRounds
      rw [isPlayer]
      dsimp only
      rw [found, foundPlace]
      dsimp only
      cases others : same.players.erase info.guid with
      | nil =>
          rw [shape, if_pos others]
          refine ⟨rfl, List.filter_congr fun other _ => ?_⟩
          have alone : other.guid ∈ same.players ↔ other.guid = info.guid := by
            refine ⟨fun member => ?_, fun equal => equal ▸ inside⟩
            by_contra differs
            exact List.not_mem_nil (others ▸ (List.mem_erase_of_ne differs).mpr member)
          simp [alone]
      | cons other rest =>
          have remain : same.players.erase info.guid ≠ [] := by simp [others]
          have goesOn : (!same.isInvited && same.isRated) = true := by simp [uninvited, isRated]
          simp only [if_pos goesOn]
          have groups := congrArg BattlegroundQueue.groupInfos shape
          have players := congrArg BattlegroundQueue.queuedPlayers shape
          simp only [if_neg remain] at groups players
          have isNext : { same with players := same.players.erase info.guid } ∈
              (queue.leaveGroup same place info.guid decreaseInvitedCount).groupInfos := by
            rw [groups]
            exact mem_modify.mpr (.inr ⟨same, isGroup, rfl, rfl⟩)
          have shorter : (same.players.erase info.guid).length ≤ rounds := by
            rw [List.length_erase_of_mem inside]
            omega
          have rest := induction next isNext isRated uninvited
            (show other ∈ same.players.erase info.guid by simp [others]) shorter
          refine ⟨?_, ?_⟩
          · rw [rest.1, groups]
            exact erase_modify _ _ fun _ => rfl
          · rw [rest.2, players]
            unfold Table.erase
            rw [List.filter_filter]
            apply List.filter_congr
            intro player _
            by_cases equal : player.guid = info.guid
            · simp [equal, inside]
            · simp [equal, List.mem_erase_of_ne equal]

theorem Membership.goneTogether (membership : queue.Membership) {group : GroupQueueInfo}
    (isGroup : group ∈ queue.groupInfos) (isRated : group.isRated = true)
    (uninvited : group.isInvited = false) {guid : ObjectGuid} (inside : guid ∈ group.players)
    (decreaseInvitedCount : Bool) :
    GoneTogether queue (queue.removePlayer guid decreaseInvitedCount) group := by
  have listed : group.players ⊆ queue.queuedPlayers.map PlayerQueueInfo.guid := by
    intro player member
    obtain ⟨info, isInfo, isGuid, -⟩ := membership.listed group isGroup player member
    exact isGuid ▸ List.mem_map_of_mem isInfo
  have enough := ((membership.unique group isGroup).subperm listed).length_le
  rw [List.length_map] at enough
  obtain ⟨groups, players⟩ :=
    membership.wholeTeam isGroup isRated uninvited inside decreaseInvitedCount enough
  refine ⟨groups, players, fun shelved => ?_⟩
  have live := ((membership.removePlayer guid decreaseInvitedCount).live group.id).mp shelved
  obtain ⟨other, isOther, same⟩ := List.mem_map.mp live
  exact (mem_erase.mp (groups ▸ isOther : other ∈ erase GroupQueueInfo.id _ _)).2 same

end RealmServer.Battlegrounds.BattlegroundQueue
