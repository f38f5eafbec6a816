import RealmServer.Battlegrounds.Leaving

/-!
# Pairing the groups of a queue

An update finds two rated teams or the players of a skirmish.  Groups then
change their list, which is done right only if they are where the code takes
them from: rated teams that were not invited yet wait in the list of their own
team.  `Continues` is how that is kept by everything else.
-/

namespace RealmServer.Battlegrounds.BattlegroundQueue

open Table Shelves Transition

variable {queue : BattlegroundQueue}

/-! ## Teams and lists -/

/-- Uninvited groups in the lists for premade groups were there before, for the same team. -/
def Continues (queue next : BattlegroundQueue) : Prop :=
  ∀ group ∈ next.groupInfos, group.isInvited = false →
    ∀ bracket team, group.id ∈ next.queuedGroups (bracket, .premade team) →
      ∃ old ∈ queue.groupInfos, old.id = group.id ∧ old.team = group.team ∧
        old.isInvited = false ∧ old.id ∈ queue.queuedGroups (bracket, .premade team)

theorem Continues.refl (queue : BattlegroundQueue) : Continues queue queue :=
  fun group isGroup uninvited _ _ present => ⟨group, isGroup, rfl, rfl, uninvited, present⟩

theorem Continues.trans {first second third : BattlegroundQueue}
    (before : Continues first second) (after : Continues second third) :
    Continues first third := by
  intro group isGroup uninvited bracket team present
  obtain ⟨middle, isMiddle, sameId, sameTeam, uninvited, present⟩ :=
    after group isGroup uninvited bracket team present
  obtain ⟨old, isOld, oldId, oldTeam, uninvited, present⟩ :=
    before middle isMiddle uninvited bracket team present
  exact ⟨old, isOld, oldId.trans sameId, oldTeam.trans sameTeam, uninvited, present⟩

theorem Teamed.of_continues {next : BattlegroundQueue} (teamed : queue.Teamed)
    (continues : Continues queue next) : next.Teamed := by
  intro group isGroup uninvited bracket team present
  obtain ⟨old, isOld, -, sameTeam, uninvited, present⟩ :=
    continues group isGroup uninvited bracket team present
  exact sameTeam.symm.trans (teamed old isOld uninvited bracket team present)

/-- The lists are the same, and each uninvited group has one like it. -/
theorem continues_of_groups {next : BattlegroundQueue}
    (lists : ∀ place, next.queuedGroups place ⊆ queue.queuedGroups place)
    (groups : ∀ group ∈ next.groupInfos, group.isInvited = false →
      ∃ old ∈ queue.groupInfos, old.id = group.id ∧ old.team = group.team ∧
        old.isInvited = false) :
    Continues queue next := by
  intro group isGroup uninvited bracket team present
  obtain ⟨old, isOld, sameId, sameTeam, uninvited⟩ := groups group isGroup uninvited
  exact ⟨old, isOld, sameId, sameTeam, uninvited, sameId ▸ lists _ present⟩

theorem continues_leaveGroup (queue : BattlegroundQueue) (group : GroupQueueInfo)
    (place : BracketId × QueueGroupType) (guid : ObjectGuid) (decreaseInvitedCount : Bool) :
    Continues queue (queue.leaveGroup group place guid decreaseInvitedCount) := by
  rw [leaveGroup_eq]
  apply continues_of_groups
  · intro other id present
    dsimp only at present
    split_ifs at present
    · rcases mem_update.mp present with ⟨rfl, present⟩ | ⟨-, present⟩
      · exact List.mem_of_mem_erase present
      · exact present
    · exact present
  · intro next isNext uninvited
    dsimp only at isNext
    split_ifs at isNext
    · exact ⟨next, (mem_erase.mp isNext).1, rfl, rfl, uninvited⟩
    · rcases mem_modify.mp isNext with ⟨isOld, -⟩ | ⟨old, isOld, -, rfl⟩
      · exact ⟨next, isOld, rfl, rfl, uninvited⟩
      · exact ⟨old, isOld, rfl, rfl, uninvited⟩

theorem continues_removePlayer (guid : ObjectGuid) (decreaseInvitedCount : Bool) :
    Continues queue (queue.removePlayer guid decreaseInvitedCount) := by
  unfold removePlayer
  generalize queue.queuedPlayers.length = rounds
  induction rounds generalizing queue guid with
  | zero => exact .refl queue
  | succ rounds induction =>
      unfold removePlayerRounds
      split
      · exact .refl queue
      · split
        · rename_i group place _ _
          have next := continues_leaveGroup queue group place guid decreaseInvitedCount
          split
          · exact next
          · dsimp only
            split_ifs
            · exact next.trans (induction _)
            · exact next
        · exact .refl queue

/-! ## Invitations -/

theorem groupInfos_invitePlayers (surroundings : Surroundings) (instanceId : Nat) (team : Team)
    (groupSize : Nat) (players : List ObjectGuid) :
    (players.foldl (invitePlayer surroundings instanceId team groupSize) queue).groupInfos =
      queue.groupInfos := by
  induction players generalizing queue with
  | nil => rfl
  | cons guid rest induction =>
      rw [List.foldl_cons, induction]
      unfold invitePlayer
      dsimp only
      split_ifs <;> rfl

/-- A group that is not invited after an invitation is another one. -/
theorem mem_of_uninvited (groupIds : (queue.groupInfos.map GroupQueueInfo.id).Nodup)
    {surroundings : Surroundings} {ginfo : GroupId} {instanceId : Nat} {side : Option Team}
    (isInstance : instanceId ≠ 0) {group : GroupQueueInfo}
    (isGroup : group ∈ (queue.inviteGroupToBG surroundings ginfo instanceId side).groupInfos)
    (uninvited : group.isInvited = false) : group ∈ queue.groupInfos ∧ group.id ≠ ginfo := by
  unfold inviteGroupToBG at isGroup
  split at isGroup
  · rename_i missing
    exact ⟨isGroup, find_eq_none_iff.mp missing group isGroup⟩
  · rename_i invited found
    obtain ⟨isInvited, rfl⟩ := (group_eq_some_iff groupIds).mp found
    dsimp only at isGroup
    split_ifs at isGroup with already
    · rcases mem_modify.mp isGroup with old | ⟨old, isOld, same, rfl⟩
      · exact old
      · obtain rfl := List.inj_on_of_nodup_map groupIds isOld isInvited same
        exact absurd uninvited (by simpa [GroupQueueInfo.isInvited] using already)
    · rw [groupInfos_invitePlayers] at isGroup
      rcases mem_modify.mp isGroup with ⟨isOld, differs⟩ | ⟨old, -, -, rfl⟩
      · rcases mem_modify.mp isOld with old | ⟨old, -, same, rfl⟩
        · exact old
        · exact absurd same differs
      · exact absurd uninvited (by simpa [GroupQueueInfo.isInvited] using isInstance)

/-- A step between two queues that keeps what pairing needs. -/
structure Kept (queue next : BattlegroundQueue) : Prop where
  membership : next.Membership
  continues : Continues queue next

theorem Kept.trans {first second third : BattlegroundQueue} (before : Kept first second)
    (after : Kept second third) : Kept first third :=
  ⟨after.membership, before.continues.trans after.continues⟩

theorem kept_foldl {Input : Type} (change : BattlegroundQueue → Input → BattlegroundQueue)
    (kept : ∀ queue input, queue.Membership → Kept queue (change queue input))
    (membership : queue.Membership) (inputs : List Input) :
    Kept queue (inputs.foldl change queue) := by
  induction inputs generalizing queue with
  | nil => exact ⟨membership, .refl queue⟩
  | cons first rest induction =>
      have next := kept queue first membership
      exact next.trans (induction next.membership)

theorem kept_inviteGroupToBG (membership : queue.Membership) (surroundings : Surroundings)
    (ginfo : GroupId) {instanceId : Nat} (isInstance : instanceId ≠ 0) (side : Option Team) :
    Kept queue (queue.inviteGroupToBG surroundings ginfo instanceId side) := by
  have same := same_inviteGroupToBG queue surroundings ginfo instanceId side
  refine ⟨membership.of_same same, continues_of_groups (fun _ => ?_) ?_⟩
  · exact same.lists ▸ List.Subset.refl _
  · intro group isGroup uninvited
    have isOld := (mem_of_uninvited membership.groupIds isInstance isGroup uninvited).1
    exact ⟨group, isOld, rfl, rfl, uninvited⟩

theorem kept_startProposal (membership : queue.Membership) (surroundings : Surroundings)
    {instanceId : Nat} (isInstance : instanceId ≠ 0) (baseQueue : List GroupId)
    (assigment : List Int) :
    Kept queue (queue.startProposal surroundings instanceId baseQueue assigment) := by
  refine kept_foldl _ ?_ membership _
  rintro queue ⟨group, team⟩ membership
  dsimp only
  split_ifs
  · exact kept_inviteGroupToBG membership _ _ isInstance _
  · exact kept_inviteGroupToBG membership _ _ isInstance _
  · exact ⟨membership, .refl queue⟩

theorem kept_inviteSelected (membership : queue.Membership) (surroundings : Surroundings)
    {instanceId : Nat} (isInstance : instanceId ≠ 0) (pool : SelectionPool) :
    Kept queue (queue.inviteSelected surroundings instanceId pool) :=
  kept_foldl _ (fun _ _ membership => kept_inviteGroupToBG membership _ _ isInstance _)
    membership _

theorem kept_createNewBattleground (membership : queue.Membership) (bgTypeId : Nat) :
    Kept queue (queue.createNewBattleground bgTypeId).2 := by
  refine ⟨{ membership with
    instances := ?_, instanceIds := ?_, nextInstance := Nat.succ_pos _ }, Continues.refl queue⟩
  · intro battleground isBattleground
    rcases List.mem_append.mp isBattleground with isOld | isNew
    · obtain ⟨positive, older⟩ := membership.instances battleground isOld
      exact ⟨positive, Nat.lt_succ_of_lt older⟩
    · rw [List.mem_singleton.mp isNew]
      exact ⟨membership.nextInstance, Nat.lt_succ_self _⟩
  · unfold createNewBattleground
    dsimp only
    rw [List.map_append, List.map_singleton, List.nodup_append_comm, List.singleton_append,
      List.nodup_cons]
    refine ⟨fun present => ?_, membership.instanceIds⟩
    obtain ⟨old, isOld, same⟩ := List.mem_map.mp present
    exact absurd same (Nat.ne_of_lt (membership.instances old isOld).2)

/-! ## Groups change their list -/

theorem Membership.moved (membership : queue.Membership) {id : GroupId}
    {shelf other : BracketId × QueueGroupType} (present : id ∈ queue.queuedGroups shelf)
    (differs : other ≠ shelf) :
    { queue with
      queuedGroups := take (pushFront queue.queuedGroups other id) shelf id }.Membership := by
  obtain ⟨exact, shelved⟩ := membership.exact.move present differs
  exact { membership with
    exact
    live := fun id => (shelved id).trans (membership.live id) }

/-- Nothing but the group that moves gets into a list. -/
theorem mem_of_mem_moved {shelves : BracketId × QueueGroupType → List GroupId}
    {shelf other place : BracketId × QueueGroupType} {id present : GroupId}
    (member : present ∈ take (pushFront shelves other id) shelf id place) :
    present ∈ shelves place ∨ (place = other ∧ present = id) := by
  have before : present ∈ pushFront shelves other id place := by
    rcases mem_update.mp member with ⟨rfl, member⟩ | ⟨-, member⟩
    · exact List.mem_of_mem_erase member
    · exact member
  exact mem_pushFront.mp before

/-! ### Rated teams -/

theorem sublist_filterMap_group (queue : BattlegroundQueue) (ids : List GroupId) :
    ((ids.filterMap queue.group).map GroupQueueInfo.id).Sublist ids := by
  induction ids with
  | nil => exact List.Sublist.refl []
  | cons id rest induction =>
      cases found : queue.group id with
      | none =>
          rw [List.filterMap_cons_none found]
          exact induction.cons id
      | some group =>
          have same : group.id = id := key_of_find found
          rw [List.filterMap_cons_some found, List.map_cons, same]
          exact induction.cons_cons id

theorem not_mem_behind {Item : Type} {items : List Item} (unique : items.Nodup)
    {predicate : Item → Bool} {first : Item} (found : items.find? predicate = some first) :
    first ∉ items.drop (items.findIdx predicate + 1) := by
  obtain ⟨holds, before, behind, rfl, others⟩ := List.find?_eq_some_iff_append.mp found
  have index : (before ++ first :: behind).findIdx predicate = before.length := by
    rw [List.findIdx_append, List.findIdx_eq_length_of_false, List.findIdx_cons]
    · simp [holds]
    · exact fun item member => by simpa using others item member
  rw [index, List.drop_append, List.drop_of_length_le (Nat.le_succ _), List.nil_append,
    Nat.add_sub_cancel_left, List.drop_one, List.tail_cons]
  exact (List.nodup_cons.mp (List.nodup_append.mp unique).2.1).1

/-- Two teams for a match. -/
structure Opponents (queue : BattlegroundQueue) (bracket : BracketId)
    (first second : GroupQueueInfo) : Prop where
  firstGroup : first ∈ queue.groupInfos
  secondGroup : second ∈ queue.groupInfos
  firstUninvited : first.isInvited = false
  secondUninvited : second.isInvited = false
  different : first.id ≠ second.id
  firstList : ∃ team, first.id ∈ queue.queuedGroups (bracket, .premade team)
  secondList : ∃ team, second.id ∈ queue.queuedGroups (bracket, .premade team)

theorem Membership.findTeams (membership : queue.Membership) {bracket : BracketId}
    {predicate : GroupQueueInfo → Bool}
    (uninvited : ∀ group, predicate group = true → group.isInvited = false)
    {first second : GroupQueueInfo}
    (found : queue.findTeams bracket predicate = some (first, second)) :
    Opponents queue bracket first second := by
  have place : ∀ {team group}, group ∈ queue.groupsAt (bracket, .premade team) →
      group ∈ queue.groupInfos ∧ group.id ∈ queue.queuedGroups (bracket, .premade team) :=
    fun member => (mem_groupsAt membership.groupIds).mp member
  -- the second team waits behind the first one
  have behind : ∀ {team group other},
      (queue.groupsAt (bracket, .premade team)).find? predicate = some group →
      ((queue.groupsAt (bracket, .premade team)).drop
        ((queue.groupsAt (bracket, .premade team)).findIdx predicate + 1)).find? predicate =
          some other → Opponents queue bracket group other := by
    intro team group other isFirst isNext
    have unique : ((queue.groupsAt (bracket, .premade team)).map GroupQueueInfo.id).Nodup :=
      (sublist_filterMap_group queue _).nodup (membership.exact.once _)
    have isGroup := place (List.mem_of_find?_eq_some isFirst)
    have later := List.mem_of_find?_eq_some isNext
    have isOther := place (List.mem_of_mem_drop later)
    refine ⟨isGroup.1, isOther.1, uninvited group (List.find?_some isFirst),
      uninvited other (List.find?_some isNext), fun same => ?_, ⟨team, isGroup.2⟩,
      ⟨team, isOther.2⟩⟩
    obtain rfl := List.inj_on_of_nodup_map membership.groupIds isGroup.1 isOther.1 same
    exact not_mem_behind unique.of_map isFirst later
  unfold BattlegroundQueue.findTeams at found
  dsimp only at found
  split at found
  · rename_i alliance horde isAlliance isHorde
    rw [Option.some.injEq, Prod.mk.injEq] at found
    obtain ⟨rfl, rfl⟩ := found
    have isFirst := place (List.mem_of_find?_eq_some isAlliance)
    have isSecond := place (List.mem_of_find?_eq_some isHorde)
    refine ⟨isFirst.1, isSecond.1, uninvited _ (List.find?_some isAlliance),
      uninvited _ (List.find?_some isHorde), fun same => ?_, ⟨_, isFirst.2⟩, ⟨_, isSecond.2⟩⟩
    have places := membership.exact.one isFirst.2 (same ▸ isSecond.2)
    exact absurd places (by simp)
  · rename_i alliance isAlliance isHorde
    obtain ⟨other, isNext, equal⟩ := Option.map_eq_some_iff.mp found
    rw [Prod.mk.injEq] at equal
    obtain ⟨rfl, rfl⟩ := equal
    exact behind isAlliance isNext
  · rename_i horde isAlliance isHorde
    obtain ⟨other, isNext, equal⟩ := Option.map_eq_some_iff.mp found
    rw [Prod.mk.injEq] at equal
    obtain ⟨rfl, rfl⟩ := equal
    exact behind isHorde isNext
  · exact absurd found (by simp)

theorem uninvited_of_teamPredicate {surroundings : UpdateSurroundings} {arenaRating : UInt32}
    {group : GroupQueueInfo} (holds : teamPredicate surroundings arenaRating group = true) :
    group.isInvited = false := by
  unfold teamPredicate at holds
  by_contra invited
  rw [Bool.not_eq_false] at invited
  simp [invited] at holds

theorem Membership.ratedTeams (membership : queue.Membership)
    {surroundings : UpdateSurroundings} {bracket : BracketId} {arenaRating : UInt32}
    {aTeam hTeam : GroupQueueInfo}
    (found : queue.ratedTeams surroundings bracket arenaRating = some (aTeam, hTeam)) :
    Opponents queue bracket aTeam hTeam := by
  unfold BattlegroundQueue.ratedTeams at found
  split at found
  · exact absurd found (by simp)
  · exact membership.findTeams (fun _ => uninvited_of_teamPredicate) found

/-- A team is taken from the list it waits in. -/
theorem Membership.moveToFaction (membership : queue.Membership) {bracket : BracketId}
    {group : GroupQueueInfo}
    (waits : group.id ∈ queue.queuedGroups (bracket, .premade group.team)) (team : Team) :
    (queue.moveToFaction bracket group team).Membership := by
  unfold BattlegroundQueue.moveToFaction
  split_ifs with differs
  · have own : group.team = team.other := by
      revert differs
      cases group.team <;> cases team <;> simp [Team.other]
    rw [own] at waits
    exact membership.moved waits (by cases team <;> simp [Team.other])
  · exact membership

theorem mem_of_mem_moveToFaction {bracket : BracketId} {group : GroupQueueInfo} {team : Team}
    {place : BracketId × QueueGroupType} {id : GroupId} (differs : id ≠ group.id)
    (present : id ∈ (queue.moveToFaction bracket group team).queuedGroups place) :
    id ∈ queue.queuedGroups place := by
  unfold moveToFaction at present
  split_ifs at present
  · exact (mem_of_mem_moved present).resolve_right fun moved => differs moved.2
  · exact present

theorem mem_moveToFaction {bracket : BracketId} {group : GroupQueueInfo} {team : Team}
    {place : BracketId × QueueGroupType} {id : GroupId} (differs : id ≠ group.id)
    (present : id ∈ queue.queuedGroups place) :
    id ∈ (queue.moveToFaction bracket group team).queuedGroups place := by
  unfold moveToFaction
  split_ifs
  · unfold take
    have pushed : id ∈ pushFront queue.queuedGroups (bracket, .premade team) group.id place :=
      mem_pushFront.mpr (.inl present)
    rw [mem_update]
    by_cases same : place = (bracket, .premade team.other)
    · exact .inl ⟨same, (List.mem_erase_of_ne differs).mpr (same ▸ pushed)⟩
    · exact .inr ⟨same, pushed⟩
  · exact present

theorem same_setOpponents (queue : BattlegroundQueue) (id : GroupId)
    (opponents : GroupQueueInfo) : SameMembership queue (queue.setOpponents id opponents) :=
  same_modifyGroup queue id (fun _ => rfl) fun _ => rfl

theorem continues_setOpponents (id : GroupId) (opponents : GroupQueueInfo) :
    Continues queue (queue.setOpponents id opponents) := by
  refine continues_of_groups (fun _ => List.Subset.refl _) ?_
  intro group isGroup uninvited
  rcases mem_modify.mp isGroup with ⟨isOld, -⟩ | ⟨old, isOld, -, rfl⟩
  · exact ⟨group, isOld, rfl, rfl, uninvited⟩
  · exact ⟨old, isOld, rfl, rfl, uninvited⟩

theorem groupInfos_moveToFaction (bracket : BracketId) (group : GroupQueueInfo) (team : Team) :
    (queue.moveToFaction bracket group team).groupInfos = queue.groupInfos := by
  unfold moveToFaction
  split_ifs <;> rfl

/-- Both teams change their lists, if they have to, and are invited. -/
theorem kept_pairing (membership : queue.Membership) {bracket : BracketId}
    {aTeam hTeam : GroupQueueInfo}
    (aWaits : aTeam.id ∈ queue.queuedGroups (bracket, .premade aTeam.team))
    (hWaits : hTeam.id ∈ queue.queuedGroups (bracket, .premade hTeam.team))
    (different : aTeam.id ≠ hTeam.id) (surroundings : Surroundings) {instanceId : Nat}
    (isInstance : instanceId ≠ 0) :
    Kept queue
      ((((queue.moveToFaction bracket aTeam .alliance).moveToFaction bracket hTeam
        .horde).inviteGroupToBG surroundings aTeam.id instanceId
          (some .alliance)).inviteGroupToBG surroundings hTeam.id instanceId (some .horde)) := by
  have first := membership.moveToFaction aWaits .alliance
  have second := first.moveToFaction (mem_moveToFaction different.symm hWaits) .horde
  have third := kept_inviteGroupToBG second surroundings aTeam.id isInstance (some .alliance)
  have fourth := kept_inviteGroupToBG third.membership surroundings hTeam.id isInstance
    (some .horde)
  refine ⟨fourth.membership, ?_⟩
  intro group isGroup uninvited bracket' team present
  obtain ⟨isGroup, notHorde⟩ :=
    mem_of_uninvited third.membership.groupIds isInstance isGroup uninvited
  obtain ⟨isGroup, notAlliance⟩ := mem_of_uninvited second.groupIds isInstance isGroup uninvited
  rw [groupInfos_moveToFaction, groupInfos_moveToFaction] at isGroup
  rw [(same_inviteGroupToBG _ _ _ _ _).lists, (same_inviteGroupToBG _ _ _ _ _).lists] at present
  exact ⟨group, isGroup, rfl, rfl, uninvited,
    mem_of_mem_moveToFaction notAlliance (mem_of_mem_moveToFaction notHorde present)⟩

theorem kept_updateRated (membership : queue.Membership) (teamed : queue.Teamed)
    (surroundings : UpdateSurroundings) (bracket : BracketId) (arenaRating : UInt32) :
    Kept queue (queue.updateRated surroundings bracket arenaRating) := by
  unfold updateRated
  split
  · exact ⟨membership, .refl queue⟩
  · rename_i aTeam hTeam found
    split_ifs
    · exact ⟨membership, .refl queue⟩
    · have opponents := membership.ratedTeams found
      obtain ⟨aList, aPresent⟩ := opponents.firstList
      obtain ⟨hList, hPresent⟩ := opponents.secondList
      have aTeamed := teamed aTeam opponents.firstGroup opponents.firstUninvited _ _ aPresent
      have hTeamed := teamed hTeam opponents.secondGroup opponents.secondUninvited _ _ hPresent
      have created := kept_createNewBattleground membership battlegroundAA
      have isInstance : queue.nextInstanceId ≠ 0 := Nat.ne_of_gt membership.nextInstance
      have set : Kept (queue.createNewBattleground battlegroundAA).2
          (((queue.createNewBattleground battlegroundAA).2.setOpponents aTeam.id
            hTeam).setOpponents hTeam.id aTeam) :=
        ⟨created.membership.of_same ((same_setOpponents _ _ _).trans (same_setOpponents _ _ _)),
          (continues_setOpponents _ _).trans (continues_setOpponents _ _)⟩
      exact (created.trans set).trans (kept_pairing set.membership (aTeamed ▸ aPresent)
        (hTeamed ▸ hPresent) opponents.different _ isInstance)

/-! ### Players of a skirmish -/

theorem sublist_fill (desiredCount : Nat) (groups : List GroupQueueInfo) (pool : SelectionPool) :
    (SelectionPool.fill desiredCount groups pool).selectedGroups.Sublist
      (pool.selectedGroups ++ groups.map GroupQueueInfo.id) := by
  induction groups generalizing pool with
  | nil =>
      rw [List.map_nil, List.append_nil]
      exact List.Sublist.refl _
  | cons group rest induction =>
      have skipped : (pool.selectedGroups ++ rest.map GroupQueueInfo.id).Sublist
          (pool.selectedGroups ++ (group :: rest).map GroupQueueInfo.id) :=
        (List.sublist_cons_self _ _).append_left _
      unfold SelectionPool.fill SelectionPool.addGroup
      split_ifs with invited fits
      · exact (induction pool).trans skipped
      · simpa using induction
          ⟨pool.selectedGroups ++ [group.id], pool.playerCount + group.players.length⟩
      · dsimp only
        split_ifs
        · exact (induction pool).trans skipped
        · exact List.sublist_append_left _ _

/-- A group behind `ginfo` changes its list, and `ginfo` stays where it is. -/
theorem moveToOtherTeam_behind (membership : queue.Membership) {bracket : BracketId}
    {teamIndex : Team} {ginfo : GroupId} {before behind : List GroupId}
    (list : queue.queuedGroups (bracket, .normal teamIndex) = before ++ ginfo :: behind)
    {id : GroupId} (present : id ∈ behind) :
    Kept queue (moveToOtherTeam bracket teamIndex ginfo queue id) ∧
      (moveToOtherTeam bracket teamIndex ginfo queue id).queuedGroups
        (bracket, .normal teamIndex) = before ++ ginfo :: behind.erase id := by
  have once := membership.exact.once (bracket, .normal teamIndex)
  rw [list, List.nodup_append, List.nodup_cons] at once
  obtain ⟨-, ⟨notBehind, -⟩, apart⟩ := once
  have notBefore : ginfo ∉ before := fun member => apart ginfo member ginfo List.mem_cons_self rfl
  have idNotBefore : id ∉ before :=
    fun member => apart id member id (List.mem_cons_of_mem _ present) rfl
  have differs : ginfo ≠ id := fun same => notBehind (same ▸ present)
  have others : (bracket, QueueGroupType.normal teamIndex) ≠
      (bracket, .normal teamIndex.other) := by
    cases teamIndex <;> simp [Team.other]
  have place : id ∈ queue.queuedGroups (bracket, .normal teamIndex) := by
    rw [list]
    exact List.mem_append_right _ (List.mem_cons_of_mem _ present)
  have index : (before ++ ginfo :: behind).idxOf ginfo = before.length := by
    rw [List.idxOf_append_of_notMem notBefore, List.idxOf_cons_self, Nat.add_zero]
  have found : (before ++ ginfo :: behind).take (before.length + 1) ++
      ((before ++ ginfo :: behind).drop (before.length + 1)).erase id =
        before ++ ginfo :: behind.erase id := by
    simp [List.take_append, List.drop_append, List.take_of_length_le, List.drop_of_length_le]
  have erased : (before ++ ginfo :: behind).erase id = before ++ ginfo :: behind.erase id := by
    rw [List.erase_append_right _ idNotBefore, List.erase_cons_tail (by simpa using differs)]
  have moved : moveToOtherTeam bracket teamIndex ginfo queue id =
      { queue.modifyGroup id fun group => { group with team := teamIndex.other } with
        queuedGroups := take (pushFront queue.queuedGroups (bracket, .normal teamIndex.other) id)
          (bracket, .normal teamIndex) id } := by
    unfold moveToOtherTeam take pushFront modifyGroup
    dsimp only
    rw [Function.update_of_ne others, list, index, found, erased]
  have changed : SameMembership queue
      (queue.modifyGroup id fun group => { group with team := teamIndex.other }) :=
    same_modifyGroup queue id (fun _ => rfl) fun _ => rfl
  rw [moved]
  refine ⟨⟨(membership.of_same changed).moved place others.symm, ?_⟩, ?_⟩
  · intro group isGroup uninvited bracket' team waits
    have waits := (mem_of_mem_moved waits).resolve_right (by simp)
    rcases mem_modify.mp isGroup with ⟨isOld, -⟩ | ⟨old, isOld, same, rfl⟩
    · exact ⟨group, isOld, rfl, rfl, uninvited, waits⟩
    · have places := membership.exact.one waits (same ▸ place)
      exact absurd places (by simp)
  · dsimp only
    unfold take pushFront
    rw [Function.update_self, Function.update_of_ne others, list, erased]

/-- Induction over the groups that move; those which are left stay behind `ginfo`. -/
theorem kept_moveToOtherTeam (membership : queue.Membership) {bracket : BracketId}
    {teamIndex : Team} {ginfo : GroupId} {before behind : List GroupId}
    (list : queue.queuedGroups (bracket, .normal teamIndex) = before ++ ginfo :: behind)
    {ids : List GroupId} (unique : ids.Nodup) (present : ids ⊆ behind) :
    Kept queue (ids.foldl (moveToOtherTeam bracket teamIndex ginfo) queue) := by
  induction ids generalizing queue behind with
  | nil => exact ⟨membership, .refl queue⟩
  | cons id rest induction =>
      rw [List.nodup_cons] at unique
      rw [List.cons_subset] at present
      obtain ⟨next, nextList⟩ := moveToOtherTeam_behind membership list present.1
      refine next.trans (induction next.membership nextList unique.2 fun other member => ?_)
      have differs : other ≠ id := fun same => unique.1 (same ▸ member)
      exact (List.mem_erase_of_ne differs).mpr (present.2 member)

theorem kept_checkSkirmishForSameFaction (membership : queue.Membership)
    (pools : Team → SelectionPool) (bracket : BracketId) (minPlayersPerTeam : Nat) :
    Kept queue
      (queue.checkSkirmishForSameFaction pools bracket minPlayersPerTeam).2.2 := by
  have unchanged : Kept queue queue := ⟨membership, .refl queue⟩
  unfold checkSkirmishForSameFaction
  split
  · exact unchanged
  · dsimp only
    generalize (if (pools .horde).playerCount = minPlayersPerTeam then Team.horde
      else Team.alliance) = teamIndex
    split
    · exact unchanged
    · rename_i ginfo _
      split_ifs with missing full
      · exact unchanged
      · exact unchanged
      · rw [Function.update_self, Function.update_self]
        have member : ginfo ∈ queue.queuedGroups (bracket, .normal teamIndex) := by
          simpa using missing
        obtain ⟨before, behind, list, notBefore⟩ := List.eq_append_cons_of_mem member
        have index : (before ++ ginfo :: behind).idxOf ginfo = before.length := by
          rw [List.idxOf_append_of_notMem notBefore, List.idxOf_cons_self, Nat.add_zero]
        have dropped : (before ++ ginfo :: behind).drop (before.length + 1) = behind := by
          simp [List.drop_append]
        rw [list, index, dropped]
        have selected := sublist_fill minPlayersPerTeam (behind.filterMap queue.group) .init
        rw [SelectionPool.init, List.nil_append] at selected
        have once := membership.exact.once (bracket, .normal teamIndex)
        rw [list, List.nodup_append, List.nodup_cons] at once
        have groups : ((behind.filterMap queue.group).map GroupQueueInfo.id).Sublist behind :=
          sublist_filterMap_group queue behind
        exact kept_moveToOtherTeam membership list
          ((selected.trans groups).nodup once.2.1.2) (selected.trans groups).subset

theorem kept_updateSkirmish (membership : queue.Membership)
    (surroundings : UpdateSurroundings) (bracket : BracketId) (minPlayers maxPlayers : Nat) :
    Kept queue (queue.updateSkirmish surroundings bracket minPlayers maxPlayers) := by
  unfold updateSkirmish
  generalize queue.checkNormalMatch surroundings.invitationType bracket minPlayers maxPlayers =
    checked
  obtain ⟨normal, pools⟩ := checked
  dsimp only
  have matched : Kept queue
      (if normal then (true, pools, queue)
        else queue.checkSkirmishForSameFaction pools bracket minPlayers).2.2 := by
    split_ifs
    · exact ⟨membership, .refl queue⟩
    · exact kept_checkSkirmishForSameFaction membership _ _ _
  generalize (if normal then (true, pools, queue)
    else queue.checkSkirmishForSameFaction pools bracket minPlayers) = result at matched ⊢
  obtain ⟨found, pools, next⟩ := result
  dsimp only at matched ⊢
  split_ifs
  · exact matched
  · exact matched
  · have isInstance : next.nextInstanceId ≠ 0 := Nat.ne_of_gt matched.membership.nextInstance
    have created := matched.trans
      (kept_createNewBattleground matched.membership battlegroundAA)
    have alliance := created.trans (kept_inviteSelected created.membership
      surroundings.toSurroundings isInstance (pools .alliance))
    exact alliance.trans (kept_inviteSelected alliance.membership
      surroundings.toSurroundings isInstance (pools .horde))

theorem kept_battlegroundQueueUpdate (membership : queue.Membership) (teamed : queue.Teamed)
    (surroundings : UpdateSurroundings) (bracket : BracketId) (arenaType : UInt8)
    (isRated : Bool) (arenaRating : UInt32) :
    Kept queue
      (queue.battlegroundQueueUpdate surroundings bracket arenaType isRated arenaRating) := by
  unfold battlegroundQueueUpdate
  dsimp only
  split
  · exact ⟨membership, .refl queue⟩
  · split
    · exact ⟨membership, .refl queue⟩
    · split
      · exact kept_updateRated membership teamed _ _ _
      · exact kept_updateSkirmish membership _ _ _ _

/-! ## All events -/

theorem Teamed.addGroup (teamed : queue.Teamed) (membership : queue.Membership)
    (crossfactionEnabled : Bool) {request : JoinRequest} (new : AllNew queue request) :
    (queue.addGroup crossfactionEnabled request).Teamed := by
  unfold BattlegroundQueue.addGroup
  extract_lets ginfo allocated gathered
  have gathering : Gathering ginfo.id allocated gathered :=
    (gathering_start membership ginfo rfl rfl).addMembers (by simp) request new
  have absent : queue.nextGroup ∉ queue.groupInfos.map GroupQueueInfo.id := by
    intro member
    obtain ⟨old, isOld, same⟩ := List.mem_map.mp member
    exact absurd same (Nat.ne_of_lt (membership.older old isOld))
  intro group isGroup uninvited bracket team present
  dsimp only at isGroup present
  rw [gathering.lists, mem_pushBack] at present
  rcases present with present | ⟨place, isNext⟩
  · have differs : group.id ≠ ginfo.id := by
      intro same
      exact absent ((membership.live _).mp ⟨_, same ▸ present⟩)
    have isOld := (List.mem_append.mp (gathering.others group isGroup differs)).resolve_right
      fun isNew => differs (congrArg _ (List.mem_singleton.mp isNew))
    exact teamed group isOld uninvited bracket team present
  · obtain ⟨old, isOld, sameId, sameTeam⟩ := gathering.teams group isGroup
    have isNew := (List.mem_append.mp isOld).resolve_left
      fun isOld => absent (List.mem_map.mpr ⟨old, isOld, sameId.trans isNext⟩)
    rw [← sameTeam, List.mem_singleton.mp isNew]
    have index : request.index = .premade team := (congrArg Prod.snd place).symm
    unfold JoinRequest.index at index
    split_ifs at index
    exact QueueGroupType.premade.inj index

theorem kept_join (membership : queue.Membership) (guid : ObjectGuid) :
    Kept queue (queue.join guid) := by
  unfold join
  have unchanged : Kept queue queue := ⟨membership, .refl queue⟩
  split
  · exact unchanged
  · split
    · exact unchanged
    · split
      · exact unchanged
      · split_ifs
        · exact unchanged
        · have removed : Kept queue (queue.removePlayer guid false) :=
            ⟨membership.removePlayer guid false, continues_removePlayer guid false⟩
          exact removed.trans
            ⟨removed.membership.of_same (same_modifyBattleground _ _ fun _ => rfl), .refl _⟩

/-- The players who join are new to the queue. -/
def Admissible (queue : BattlegroundQueue) : Event → Prop
  | .addGroup _ request => AllNew queue request
  | _ => True

/-- The condition on a battleground is that it exists. -/
theorem instanceId_ne_zero (membership : queue.Membership) {instanceId : Nat}
    (isThere : queue.hasBattleground instanceId = true) : instanceId ≠ 0 := by
  obtain ⟨battleground, isBattleground, rfl⟩ := contains_iff.mp isThere
  exact Nat.ne_of_gt (membership.instances battleground isBattleground).1

/-- One step, whatever happens. -/
theorem step_membership (membership : queue.Membership) (teamed : queue.Teamed) {event : Event}
    (admissible : Admissible queue event) :
    (queue.step event).Membership ∧ (queue.step event).Teamed := by
  have ofKept : ∀ {next : BattlegroundQueue}, Kept queue next → next.Membership ∧ next.Teamed :=
    fun kept => ⟨kept.membership, teamed.of_continues kept.continues⟩
  cases event with
  | addGroup crossfactionEnabled request =>
      exact ⟨membership.addGroup crossfactionEnabled admissible,
        teamed.addGroup membership crossfactionEnabled admissible⟩
  | removePlayer guid decreaseInvitedCount =>
      exact ofKept ⟨membership.removePlayer guid decreaseInvitedCount,
        continues_removePlayer guid decreaseInvitedCount⟩
  | update surroundings bracket arenaType isRated arenaRating =>
      exact ofKept (kept_battlegroundQueueUpdate membership teamed _ _ _ _ _)
  | createBattleground bgTypeId =>
      exact ofKept (kept_createNewBattleground membership bgTypeId)
  | inviteGroup surroundings ginfo instanceId side =>
      dsimp only [step]
      split_ifs with isThere
      · exact ofKept (kept_inviteGroupToBG membership _ _ (instanceId_ne_zero membership isThere) _)
      · exact ⟨membership, teamed⟩
  | startProposal surroundings instanceId baseQueue assigment =>
      dsimp only [step]
      split_ifs with isThere
      · exact ofKept
          (kept_startProposal membership _ (instanceId_ne_zero membership isThere) _ _)
      · exact ⟨membership, teamed⟩
  | join guid => exact ofKept (kept_join membership guid)
  | leave instanceId guid =>
      exact ofKept ⟨membership.of_same (same_modifyBattleground _ _ fun battleground =>
        removePlayerAtLeave_instanceId battleground guid), .refl queue⟩

theorem membership_empty : empty.Membership := by
  refine ⟨⟨List.nodup_nil, List.nodup_nil, ?_, ?_, ?_⟩, ?_, ⟨fun _ => List.nodup_nil, ?_⟩, ?_, ?_,
    ?_, List.nodup_nil, Nat.one_pos⟩ <;> simp [empty, Shelved]

theorem teamed_empty : empty.Teamed :=
  fun _ member => absurd member List.not_mem_nil

/-- Groups, players and lists of a queue agree. -/
structure Consistent (queue : BattlegroundQueue) : Prop where
  oneList : ∀ group ∈ queue.groupInfos, (∃! place, group.id ∈ queue.queuedGroups place) ∧
    ∀ place, (queue.queuedGroups place).count group.id ≤ 1
  occupied : ∀ group ∈ queue.groupInfos, group.players ≠ []
  noDeletedGroup : ∀ place, ∀ id ∈ queue.queuedGroups place,
    ∃ group ∈ queue.groupInfos, group.id = id
  oneGroup : ∀ guid, guid ∈ queue.queuedPlayers.map PlayerQueueInfo.guid ↔
    ∃! group, group ∈ queue.groupInfos ∧ guid ∈ group.players
  groupInfo : ∀ info ∈ queue.queuedPlayers, ∃ group,
    queue.group info.groupInfo = some group ∧ info.guid ∈ group.players

theorem Membership.consistent (membership : queue.Membership) : queue.Consistent := by
  refine ⟨?_, membership.occupied, ?_, ?_, ?_⟩
  · intro group isGroup
    have shelved := (membership.live group.id).mpr (List.mem_map_of_mem isGroup)
    exact ⟨membership.exact.existsUnique shelved,
      fun place => List.nodup_iff_count_le_one.mp (membership.exact.once place) _⟩
  · intro place id present
    exact List.mem_map.mp ((membership.live id).mp ⟨place, present⟩)
  · intro guid
    constructor
    · intro present
      obtain ⟨info, isInfo, rfl⟩ := List.mem_map.mp present
      obtain ⟨group, isGroup, -, inside⟩ := membership.points info isInfo
      exact ⟨group, ⟨isGroup, inside⟩, fun other isOther =>
        group_of_player membership.toLinked isOther.1 isGroup isOther.2 inside⟩
    · rintro ⟨group, ⟨isGroup, inside⟩, -⟩
      obtain ⟨info, isInfo, rfl, -⟩ := membership.listed group isGroup guid inside
      exact List.mem_map_of_mem isInfo
  · intro info isInfo
    obtain ⟨group, isGroup, toGroup, inside⟩ := membership.points info isInfo
    exact ⟨group, (group_eq_some_iff membership.groupIds).mpr ⟨isGroup, toGroup⟩, inside⟩

/-- Rated teams meet others, and leave as a whole. -/
def RatedTeamsStayWhole (queue : BattlegroundQueue) : Event → Prop
  | .update surroundings bracket _ _ arenaRating => ∀ aTeam hTeam,
      queue.ratedTeams surroundings bracket arenaRating = some (aTeam, hTeam) →
        Opponents queue bracket aTeam hTeam
  | .removePlayer guid decreaseInvitedCount => ∀ group ∈ queue.groupInfos,
      guid ∈ group.players → group.isRated = true → group.isInvited = false →
        GoneTogether queue (queue.removePlayer guid decreaseInvitedCount) group
  | _ => True

theorem Membership.ratedTeamsStayWhole (membership : queue.Membership) (event : Event) :
    RatedTeamsStayWhole queue event := by
  cases event with
  | update surroundings bracket arenaType isRated arenaRating =>
      exact fun _ _ found => membership.ratedTeams found
  | removePlayer guid decreaseInvitedCount =>
      exact fun _ isGroup inside isRated uninvited =>
        membership.goneTogether isGroup isRated uninvited inside _
  | _ => trivial

theorem consistent_throughout {events : List Event}
    (admissible : EveryStep step Admissible empty events) :
    Throughout step Consistent empty events ∧
      EveryStep step RatedTeamsStayWhole empty events := by
  have preserved : ∀ queue event, queue.Membership ∧ queue.Teamed → Admissible queue event →
      (queue.step event).Membership ∧ (queue.step event).Teamed :=
    fun _ _ holds admissible => step_membership holds.1 holds.2 admissible
  have initial : empty.Membership ∧ empty.Teamed := ⟨membership_empty, teamed_empty⟩
  constructor
  · exact (throughout_of_invariant preserved initial admissible).mono
      fun _ holds => holds.1.consistent
  · exact everyStep_of_invariant preserved
      (fun _ event holds _ => holds.1.ratedTeamsStayWhole event) initial admissible

def someMember (guid : ObjectGuid) : QueueMember := ⟨guid, false, 0, 1500, 1500⟩

theorem firstBracket_inside : 0 < maxBattlegroundBrackets := by decide

/-- A rated team of the alliance for an arena of two against two. -/
def someTeam (leader second : ObjectGuid) : JoinRequest where
  leader := someMember leader
  leaderTeam := .alliance
  allowsCrossfaction := false
  grp := some [someMember leader, someMember second]
  leads := by simp
  bgTypeId := battlegroundAA
  bracketId := ⟨0, firstBracket_inside⟩
  arenaType := 2
  isRated := true
  isPremade := true
  arenaRating := 1500
  matchmakerRating := 1500
  arenaTeamId := 1
  isSoloQueue := false
  gameTime := 0

def someSurroundings : UpdateSurroundings where
  player := fun _ => ⟨true, 1500, .alliance, false, 0⟩
  gameTime := 1000
  hasTemplate := true
  hasBracketEntry := true
  createsBattleground := true
  isArenaTesting := false
  invitationType := 0
  config := ⟨600000, 150, 0, 0⟩

/-- Two teams of one faction meet, and a third one gives up. -/
def someEvents : List Event :=
  [.addGroup false (someTeam 1 2), .addGroup false (someTeam 3 4), .addGroup false (someTeam 5 6),
    .update someSurroundings ⟨0, firstBracket_inside⟩ 2 true 0, .removePlayer 5 true, .join 1,
    .leave 1 1]

theorem someEvents_consistent :
    Throughout step Consistent empty someEvents ∧
      EveryStep step RatedTeamsStayWhole empty someEvents := by
  have admissible : EveryStep step Admissible empty someEvents := by
    refine ⟨?_, ?_, ?_, trivial, trivial, trivial, trivial, trivial⟩
    · simp [Admissible, AllNew, empty]
    · unfold Admissible AllNew
      decide
    · unfold Admissible AllNew
      decide
  exact consistent_throughout admissible

end RealmServer.Battlegrounds.BattlegroundQueue
