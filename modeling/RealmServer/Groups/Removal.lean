import RealmServer.Groups.Membership

/-!
# What a removal leaves

`RemoveMember` tells its callers whether the group is still there.  It disbands
the group at three places.  The first two return false; after the last one,
which counts the references that are left, the function goes on to its
`return true`.
-/

namespace RealmServer.Groups

open Transition

namespace Group

/--
The part of `Battleground::RemovePlayerAtLeave` for the raid of a side, with
what `GetBgRaid` gives afterwards.  `~Group` takes a raid from its
battleground.
-/
def bgRaidAtLeave (surroundings : Surroundings) (group : Group) (guid : ObjectGuid) :
    Option Group :=
  let (isKept, after) := group.removeMember surroundings guid .default
  let bgRaid := if group.isBGGroup && group.disbands < after.disbands then none else some after
  -- group was disbanded
  if !isKept then none else bgRaid

/-- A removal which returns true leaves a group in order, any other one none. -/
structure LeavesWellFormed (surroundings : Surroundings) (group : Group) (guid : ObjectGuid)
    (method : RemoveMethod) : Prop where
  kept : (group.removeMember surroundings guid method).1 = true →
    let after := (group.removeMember surroundings guid method).2
    after.disbands = group.disbands ∧
      after.isMember after.leaderGuid = true ∧
      (group.startsVote method = false →
        after.isMember guid = false ∧ after.masterLooterGuid ≠ guid)
  gone : (group.removeMember surroundings guid method).1 = false →
    let after := (group.removeMember surroundings guid method).2
    after.disbands = group.disbands + 1 ∨ after.memberSlots = []
  /-- The battleground does not keep a deleted raid. -/
  raid : group.isBGGroup = true →
    ∀ after, group.bgRaidAtLeave surroundings guid = some after →
      after.disbands = group.disbands

/-! ## When that works -/

/-- The slots besides the one of a member. -/
def otherSlots (group : Group) (guid : ObjectGuid) : List MemberSlot :=
  group.memberSlots.eraseP fun slot => slot.guid == guid

/-- The leader, or whoever of the others can take his place. -/
def heir (surroundings : Surroundings) (group : Group) (guid : ObjectGuid) : ObjectGuid :=
  if group.leaderGuid ≠ guid then group.leaderGuid
  else
    ((group.otherSlots guid).find? fun slot => surroundings.isConnected slot.guid).elim guid
      MemberSlot.guid

/-- One member of an LFG group stays, and not in its dungeon. -/
def LeavesLastBehind (surroundings : Surroundings) (group : Group) (guid : ObjectGuid) : Prop :=
  group.isLFGGroup = true ∧ group.membersCount = 2 ∧
    (surroundings.dungeonMapId = 0 ∨
      surroundings.isConnected (group.heir surroundings guid) = false ∨
      (surroundings.isAlive (group.heir surroundings guid) = true ∧
        surroundings.mapId (group.heir surroundings guid) ≠ surroundings.dungeonMapId))

/--
The references of the others and what is left of the player's own ones.  A
raid of a battleground keeps those of a player who is not connected, and one
to which the player returns.
-/
def referencesLeft (surroundings : Surroundings) (group : Group) (guid : ObjectGuid) : Nat :=
  let own := group.sources.countP (· = guid)
  group.sources.countP (· ≠ guid) +
    if group.isBGGroup || group.isBFGroup then
      if surroundings.isConnected guid then (if group.isOriginalGroup guid then 1 else 0) else own
    else own - (if surroundings.isConnected guid then 2 else 1)

/-- Enough of the others are connected, and one of them if the leader goes. -/
def StaysTogether (surroundings : Surroundings) (group : Group) (guid : ObjectGuid) : Prop :=
  group.referencesToKeep ≤ group.referencesLeft surroundings guid ∧
    group.guids.count guid = 1 ∧ group.isMember group.leaderGuid = true ∧
    (group.leaderGuid = guid →
      ∃ slot ∈ group.otherSlots guid, surroundings.isConnected slot.guid = true)

/-- The condition on a group under which a member can be removed. -/
def AllowsRemoval (surroundings : Surroundings) (group : Group) (guid : ObjectGuid)
    (method : RemoveMethod) : Prop :=
  if group.startsVote method then group.isMember group.leaderGuid = true
  else
    group.membersCount ≤ group.sizeToKeep ∨ group.LeavesLastBehind surroundings guid ∨
      group.StaysTogether surroundings guid

instance (surroundings : Surroundings) (group : Group) (guid : ObjectGuid) :
    Decidable (group.LeavesLastBehind surroundings guid) :=
  inferInstanceAs (Decidable (_ ∧ _))

instance (surroundings : Surroundings) (group : Group) (guid : ObjectGuid) :
    Decidable (group.StaysTogether surroundings guid) :=
  inferInstanceAs (Decidable (_ ∧ _))

instance (surroundings : Surroundings) (group : Group) (guid : ObjectGuid)
    (method : RemoveMethod) : Decidable (AllowsRemoval surroundings group guid method) :=
  inferInstanceAs (Decidable (ite _ _ _))

/-! ## References -/

/-- Two references of a player at most: `m_group` and `m_originalGroup`. -/
theorem length_references (references : List MemberReference) (guid : ObjectGuid) :
    references.length =
      (references.map MemberReference.source).countP (· ≠ guid) +
        (references.count ⟨guid, false⟩ + references.count ⟨guid, true⟩) := by
  induction references with
  | nil => rfl
  | cons first rest induction =>
      rcases first with ⟨source, original⟩
      rw [List.length_cons, List.map_cons, List.countP_cons, List.count_cons, List.count_cons,
        induction]
      by_cases own : source = guid
      · subst own
        cases original <;> simp <;> omega
      · simp [own]
        omega

theorem countP_own (references : List MemberReference) (guid : ObjectGuid) :
    (references.map MemberReference.source).countP (· = guid) =
      references.count ⟨guid, false⟩ + references.count ⟨guid, true⟩ := by
  have split : (references.map MemberReference.source).length =
      (references.map MemberReference.source).countP (· ≠ guid) +
        (references.map MemberReference.source).countP
          fun source => decide ¬decide (source ≠ guid) = true :=
    List.length_eq_countP_add_countP _
  have same : (references.map MemberReference.source).countP
      (fun source => decide ¬decide (source ≠ guid) = true) =
        (references.map MemberReference.source).countP (· = guid) := by
    apply List.countP_congr
    intro source _
    simp
  rw [List.length_map, length_references references guid] at split
  omega

theorem countP_others_filter (references : List MemberReference) (guid : ObjectGuid)
    (original : Bool) :
    ((references.filter (· ≠ ⟨guid, original⟩)).map MemberReference.source).countP (· ≠ guid) =
      (references.map MemberReference.source).countP (· ≠ guid) := by
  rw [List.countP_map, List.countP_map, List.countP_filter]
  apply List.countP_congr
  rintro ⟨source, isOriginal⟩ _
  simp only [Function.comp_apply, Bool.and_eq_true, decide_eq_true_eq, ne_eq,
    MemberReference.mk.injEq, and_iff_left_iff_imp]
  rintro differs ⟨same, _⟩
  exact differs same

theorem count_filter_self (references : List MemberReference) (reference : MemberReference) :
    (references.filter (· ≠ reference)).count reference = 0 := by
  rw [List.count_eq_zero]
  simp

theorem count_filter_other (references : List MemberReference)
    {reference other : MemberReference} (differs : other ≠ reference) :
    (references.filter (· ≠ reference)).count other = references.count other := by
  rw [List.count_filter]
  simpa using differs

/-- `DelinkMember` takes one reference of the player, if he has any. -/
theorem length_delinkMember (group : Group) (guid : ObjectGuid) :
    (group.delinkMember guid).memberMgr.length =
      group.sources.countP (· ≠ guid) + (group.sources.countP (· = guid) - 1) := by
  unfold delinkMember sources
  rw [countP_own]
  dsimp only
  rw [List.length_eraseP, length_references group.memberMgr guid]
  split_ifs with any
  · have found : 0 < (group.memberMgr.map MemberReference.source).countP (· = guid) := by
      rw [List.countP_pos_iff]
      obtain ⟨reference, member, same⟩ := List.any_eq_true.mp any
      exact ⟨reference.source, List.mem_map_of_mem member, by simpa using same⟩
    rw [countP_own] at found
    omega
  · have absent : (group.memberMgr.map MemberReference.source).countP (· = guid) = 0 := by
      rw [List.countP_eq_zero]
      intro source member same
      obtain ⟨reference, present, rfl⟩ := List.mem_map.mp member
      exact any (List.any_eq_true.mpr ⟨reference, present, by simpa using same⟩)
    rw [countP_own] at absent
    omega

theorem length_removeFromRaid (group : Group) (guid : ObjectGuid) :
    (group.removeFromRaid guid).memberMgr.length =
      group.sources.countP (· ≠ guid) + if group.isOriginalGroup guid then 1 else 0 := by
  unfold removeFromRaid
  split_ifs with original
  · unfold linkMember unlinkMember sources
    dsimp only
    rw [length_references _ guid, countP_others_filter, List.map_cons,
      List.countP_cons_of_neg (by simp), countP_others_filter, countP_others_filter,
      count_filter_self, count_filter_other _ (by simp), List.count_cons_self,
      count_filter_self]
  · have absent : group.memberMgr.count ⟨guid, true⟩ = 0 := by
      rw [List.count_eq_zero]
      simpa [isOriginalGroup] using original
    unfold unlinkMember sources
    dsimp only
    rw [length_references _ guid, countP_others_filter, count_filter_self,
      count_filter_other _ (by simp), absent]

/-- Outside battlegrounds no reference of a connected player stays. -/
theorem length_unset_delink {group : Group} {guid : ObjectGuid}
    (unique : group.memberMgr.Nodup) (original : Bool)
    (isOther : original = false → group.isOriginalGroup guid = false) :
    ((group.unlinkMember guid original).delinkMember guid).memberMgr.length =
      group.sources.countP (· ≠ guid) := by
  rw [length_delinkMember]
  unfold unlinkMember sources
  dsimp only
  rw [countP_own, countP_others_filter]
  have once : ∀ reference, group.memberMgr.count reference ≤ 1 :=
    List.nodup_iff_count_le_one.mp unique
  cases original with
  | false =>
      have absent : group.memberMgr.count ⟨guid, true⟩ = 0 := by
        rw [List.count_eq_zero]
        simpa [isOriginalGroup] using isOther rfl
      rw [count_filter_self, count_filter_other _ (by simp), absent]
      omega
  | true =>
      have atMost := once ⟨guid, false⟩
      rw [count_filter_self, count_filter_other _ (by simp)]
      omega

theorem length_removeReferences {group : Group} (unique : group.memberMgr.Nodup)
    (surroundings : Surroundings) (guid : ObjectGuid) :
    (group.removeReferences surroundings guid).memberMgr.length =
      group.referencesLeft surroundings guid := by
  have once : ∀ reference, group.memberMgr.count reference ≤ 1 :=
    List.nodup_iff_count_le_one.mp unique
  have own := countP_own group.memberMgr guid
  have atMostFalse := once ⟨guid, false⟩
  have atMostTrue := once ⟨guid, true⟩
  unfold referencesLeft
  by_cases raid : (group.isBGGroup || group.isBFGroup) = true
  · have kept : ∀ after : Group, after.isBGGroup = group.isBGGroup →
        after.isBFGroup = group.isBFGroup → (!after.isBGGroup && !after.isBFGroup) = false := by
      intro after sameBG sameBF
      rw [sameBG, sameBF]
      revert raid
      cases group.isBGGroup <;> cases group.isBFGroup <;> simp
    unfold removeReferences
    by_cases connected : surroundings.isConnected guid = true
    · have unset : group.unsetGroup guid = group.removeFromRaid guid := if_pos raid
      simp only [if_pos connected, if_pos raid]
      rw [kept _ (by rw [unsetGroup_eq]; rfl) (by rw [unsetGroup_eq]; rfl), unset]
      exact length_removeFromRaid group guid
    · simp only [if_neg connected, if_pos raid]
      rw [kept group rfl rfl, if_neg Bool.false_ne_true]
      unfold sources
      rw [own]
      exact length_references group.memberMgr guid
  · have plain : ∀ after : Group, after.isBGGroup = group.isBGGroup →
        after.isBFGroup = group.isBFGroup → (!after.isBGGroup && !after.isBFGroup) = true := by
      intro after sameBG sameBF
      rw [sameBG, sameBF]
      revert raid
      cases group.isBGGroup <;> cases group.isBFGroup <;> simp
    unfold removeReferences
    by_cases connected : surroundings.isConnected guid = true
    · simp only [if_pos connected, if_neg raid]
      rw [if_pos (plain _ (by rw [unsetGroup_eq]; rfl) (by rw [unsetGroup_eq]; rfl))]
      have none : group.sources.countP (· = guid) - 2 = 0 := by
        unfold sources
        omega
      rw [none, Nat.add_zero, unsetGroup, if_neg raid]
      split_ifs with original
      · exact length_unset_delink unique true (by simp)
      · exact length_unset_delink unique false (by simpa using original)
    · simp only [if_neg connected, if_neg raid]
      rw [if_pos (plain group rfl rfl)]
      exact length_delinkMember group guid

/-! ## One removal -/

section OneRemoval

variable (surroundings : Surroundings) {group : Group} {guid : ObjectGuid}

/-- What `RemoveMember` changes before it picks a leader. -/
def beforeLeader (surroundings : Surroundings) (group : Group) (guid : ObjectGuid) : Group :=
  let group := group.removeReferences surroundings guid
  { group with
    looting := group.looting.removeFromRolls surroundings.luck guid }.removeSlot guid

theorem withoutMember_eq (group : Group) (guid : ObjectGuid) :
    group.withoutMember surroundings guid =
      ((group.beforeLeader surroundings guid).pickLeader surroundings guid).replaceMasterLooter
        guid := rfl

theorem beforeLeader_fields (group : Group) (guid : ObjectGuid) :
    let before := group.beforeLeader surroundings guid
    before.groupType = group.groupType ∧ before.bgGroup = group.bgGroup ∧
      before.bfGroup = group.bfGroup ∧ before.disbands = group.disbands ∧
      before.leaderGuid = group.leaderGuid ∧
      before.masterLooterGuid = group.masterLooterGuid ∧
      before.memberMgr = (group.removeReferences surroundings guid).memberMgr := by
  unfold beforeLeader
  rw [removeReferences_eq]
  unfold removeSlot
  dsimp only
  split <;> exact ⟨rfl, rfl, rfl, rfl, rfl, rfl, rfl⟩

theorem removeSlot_memberSlots (group : Group) (guid : ObjectGuid) :
    (group.removeSlot guid).memberSlots = group.otherSlots guid := by
  unfold removeSlot
  cases found : group.memberSlot guid with
  | none =>
      unfold memberSlot at found
      rw [List.find?_eq_none] at found
      exact (List.eraseP_of_forall_not found).symm
  | some slot => rfl

theorem beforeLeader_memberSlots (group : Group) (guid : ObjectGuid) :
    (group.beforeLeader surroundings guid).memberSlots = group.otherSlots guid := by
  unfold beforeLeader
  rw [removeReferences_eq]
  exact removeSlot_memberSlots _ guid

theorem changeLeader_fields (group : Group) (guid : ObjectGuid) :
    let after := group.changeLeader surroundings guid
    after.groupType = group.groupType ∧ after.bgGroup = group.bgGroup ∧
      after.bfGroup = group.bfGroup ∧ after.disbands = group.disbands ∧
      after.masterLooterGuid = group.masterLooterGuid ∧ after.memberMgr = group.memberMgr := by
  unfold changeLeader
  dsimp only
  split
  · exact ⟨rfl, rfl, rfl, rfl, rfl, rfl⟩
  · split_ifs <;> exact ⟨rfl, rfl, rfl, rfl, rfl, rfl⟩

theorem pickLeader_fields (group : Group) (guid : ObjectGuid) :
    let after := group.pickLeader surroundings guid
    after.groupType = group.groupType ∧ after.bgGroup = group.bgGroup ∧
      after.bfGroup = group.bfGroup ∧ after.disbands = group.disbands ∧
      after.masterLooterGuid = group.masterLooterGuid ∧ after.memberMgr = group.memberMgr := by
  unfold pickLeader
  dsimp only
  split_ifs
  · exact ⟨rfl, rfl, rfl, rfl, rfl, rfl⟩
  · split
    · exact ⟨rfl, rfl, rfl, rfl, rfl, rfl⟩
    · exact changeLeader_fields surroundings group _

theorem leaderGuid_changeLeader {newLeader : ObjectGuid} (member : newLeader ∈ group.guids)
    (connected : surroundings.isConnected newLeader = true) :
    (group.changeLeader surroundings newLeader).leaderGuid = newLeader := by
  obtain ⟨slot, found⟩ := Option.isSome_iff_exists.mp (memberSlot_isSome_iff.mpr member)
  unfold changeLeader
  rw [found]
  dsimp only
  rw [connected]
  rfl

theorem leaderGuid_withoutMember (group : Group) (guid : ObjectGuid) :
    (group.withoutMember surroundings guid).leaderGuid = group.heir surroundings guid := by
  have slots := beforeLeader_memberSlots surroundings group guid
  obtain ⟨-, -, -, -, leader, -, -⟩ := beforeLeader_fields surroundings group guid
  have sameLeader : ∀ after : Group, (after.replaceMasterLooter guid).leaderGuid =
      after.leaderGuid := by
    intro after
    unfold replaceMasterLooter
    split_ifs <;> rfl
  rw [withoutMember_eq, sameLeader]
  unfold pickLeader heir
  rw [leader, slots]
  split_ifs with isOther
  · exact leader
  · cases found : (group.otherSlots guid).find? fun slot => surroundings.isConnected slot.guid with
    | none => exact leader.trans (not_not.mp isOther)
    | some slot =>
        have present : slot.guid ∈ (group.beforeLeader surroundings guid).guids := by
          unfold guids
          rw [slots]
          exact List.mem_map_of_mem (List.mem_of_find?_eq_some found)
        exact leaderGuid_changeLeader surroundings present (by simpa using List.find?_some found)

theorem withoutMember_fields (group : Group) (guid : ObjectGuid) :
    let after := group.withoutMember surroundings guid
    after.groupType = group.groupType ∧ after.bgGroup = group.bgGroup ∧
      after.bfGroup = group.bfGroup ∧ after.disbands = group.disbands ∧
      after.memberMgr = (group.removeReferences surroundings guid).memberMgr := by
  obtain ⟨type, bg, bf, disbands, -, -, references⟩ :=
    beforeLeader_fields surroundings group guid
  obtain ⟨type', bg', bf', disbands', -, references'⟩ :=
    pickLeader_fields surroundings (group.beforeLeader surroundings guid) guid
  rw [withoutMember_eq]
  unfold replaceMasterLooter
  dsimp only
  split_ifs
  all_goals exact ⟨type'.trans type, bg'.trans bg, bf'.trans bf, disbands'.trans disbands,
    references'.trans references⟩

theorem masterLooterGuid_withoutMember
    (other : (group.withoutMember surroundings guid).leaderGuid ≠ guid) :
    (group.withoutMember surroundings guid).masterLooterGuid ≠ guid := by
  rw [withoutMember_eq] at other ⊢
  unfold replaceMasterLooter at other ⊢
  split_ifs at other ⊢ with isLooter
  · exact other
  · exact isLooter

/-- The group is led by one who stays, unless the last connected one has left. -/
theorem heir_stays_iff (member : guid ∈ group.guids) :
    (group.heir surroundings guid ∈ (group.withoutMember surroundings guid).guids ∧
        guid ∉ (group.withoutMember surroundings guid).guids) ↔
      group.guids.count guid = 1 ∧ group.isMember group.leaderGuid = true ∧
        (group.leaderGuid = guid →
          ∃ slot ∈ group.otherSlots guid, surroundings.isConnected slot.guid = true) := by
  have positive := List.count_pos_iff.mpr member
  have once : guid ∉ group.guids.erase guid ↔ group.guids.count guid = 1 := by
    rw [← List.count_eq_zero, List.count_erase_self]
    omega
  rw [guids_withoutMember, once, isMember_iff, and_comm]
  apply and_congr_right
  intro isOnce
  unfold heir
  by_cases leads : group.leaderGuid = guid
  · rw [if_neg (not_not.mpr leads), leads]
    cases found : (group.otherSlots guid).find? fun slot => surroundings.isConnected slot.guid with
    | none =>
        rw [List.find?_eq_none] at found
        constructor
        · exact fun stays => absurd stays (once.mpr isOnce)
        · rintro ⟨-, someone⟩
          obtain ⟨slot, present, connected⟩ := someone rfl
          exact absurd connected (found slot present)
    | some slot =>
        have present := List.mem_of_find?_eq_some found
        have stays : slot.guid ∈ group.guids.erase guid := by
          rw [guids, ← guids_eraseP]
          exact List.mem_map_of_mem present
        exact ⟨fun _ => ⟨member, fun _ => ⟨slot, present, by simpa using List.find?_some found⟩⟩,
          fun _ => stays⟩
  · rw [if_pos leads, List.mem_erase_of_ne leads]
    exact ⟨fun kept => ⟨kept, fun same => absurd same leads⟩, fun kept => kept.1⟩

theorem leftDungeon_iff (member : guid ∈ group.guids) :
    (group.withoutMember surroundings guid).leftDungeon surroundings = true ↔
      group.LeavesLastBehind surroundings guid := by
  obtain ⟨type, -⟩ := withoutMember_fields surroundings group guid
  have lfg : (group.withoutMember surroundings guid).isLFGGroup = group.isLFGGroup :=
    congrArg (Nat.testBit · 3) type
  have count : (group.withoutMember surroundings guid).membersCount + 1 = group.membersCount := by
    rw [← length_guids, ← length_guids, guids_withoutMember, List.length_erase_of_mem member]
    have positive := List.length_pos_of_mem member
    omega
  unfold leftDungeon LeavesLastBehind
  rw [leaderGuid_withoutMember, lfg]
  simp only [Bool.and_eq_true, Bool.or_eq_true, beq_iff_eq, Bool.not_eq_true', bne_iff_ne,
    and_assoc, or_assoc]
  rw [show (group.withoutMember surroundings guid).membersCount = 1 ↔ group.membersCount = 2 by
    omega]

theorem tooFewReferences_iff (unique : group.memberMgr.Nodup) (guid : ObjectGuid) :
    (group.withoutMember surroundings guid).memberMgr.length <
        (group.withoutMember surroundings guid).referencesToKeep ↔
      group.referencesLeft surroundings guid < group.referencesToKeep := by
  obtain ⟨type, bg, -, -, references⟩ := withoutMember_fields surroundings group guid
  have toKeep : (group.withoutMember surroundings guid).referencesToKeep =
      group.referencesToKeep := by
    unfold referencesToKeep isLFGGroup isBGGroup
    rw [type, bg]
  rw [toKeep, references, length_removeReferences unique]

theorem bgRaidAtLeave_disbands (raid : group.isBGGroup = true) {after : Group}
    (left : group.bgRaidAtLeave surroundings guid = some after) :
    after.disbands = group.disbands := by
  unfold bgRaidAtLeave at left
  have atLeast : group.disbands ≤ (group.removeMember surroundings guid .default).2.disbands := by
    obtain ⟨-, -, -, disbands, -⟩ := withoutMember_fields surroundings group guid
    unfold removeMember disband
    dsimp only
    split_ifs <;> simp [disbands]
  dsimp only at left
  rw [raid] at left
  by_cases deleted : group.disbands < (group.removeMember surroundings guid .default).2.disbands
  · simp [deleted] at left
  · simp only [deleted, decide_false, Bool.and_false, Bool.false_eq_true, if_false] at left
    split_ifs at left
    rw [← Option.some.inj left]
    omega

/-! The five ways through the function. -/

theorem leavesWellFormed_of_disband {method : RemoveMethod} {last : Group}
    (result : group.removeMember surroundings guid method = (false, last.disband))
    (disbands : last.disbands = group.disbands) :
    LeavesWellFormed surroundings group guid method := by
  constructor
  · rw [result]
    exact fun kept => absurd kept Bool.false_ne_true
  · rw [result]
    exact fun _ => .inl (congrArg (· + 1) disbands)
  · exact fun isBG after left => bgRaidAtLeave_disbands surroundings isBG left

theorem not_leavesWellFormed_of_deleted {method : RemoveMethod} {last : Group}
    (result : group.removeMember surroundings guid method = (true, last.disband))
    (disbands : last.disbands = group.disbands) :
    ¬LeavesWellFormed surroundings group guid method := by
  intro leaves
  have kept := leaves.kept
  rw [result] at kept
  have same : last.disbands + 1 = group.disbands := (kept rfl).1
  omega

theorem leavesWellFormed_vote_iff {method : RemoveMethod} (member : guid ∈ group.guids)
    (vote : group.startsVote method = true) :
    LeavesWellFormed surroundings group guid method ↔
      group.isMember group.leaderGuid = true := by
  have occupied : (!group.memberSlots.isEmpty) = true := by
    have present := List.length_pos_of_mem member
    rw [length_guids, membersCount] at present
    cases slots : group.memberSlots with
    | nil => simp [slots] at present
    | cons first rest => rfl
  have result : group.removeMember surroundings guid method = (true, group) := by
    unfold removeMember
    rw [if_pos vote, occupied]
  constructor
  · intro leaves
    have kept := leaves.kept
    rw [result] at kept
    exact (kept rfl).2.1
  · intro led
    constructor
    · rw [result]
      exact fun _ => ⟨rfl, led, fun noVote => absurd vote (by simp [noVote])⟩
    · rw [result]
      exact fun gone => absurd gone.symm Bool.false_ne_true
    · exact fun isBG after left => bgRaidAtLeave_disbands surroundings isBG left

theorem leavesWellFormed_kept_iff {method : RemoveMethod}
    (noVote : group.startsVote method = false)
    (result : group.removeMember surroundings guid method =
      (true, group.withoutMember surroundings guid)) :
    LeavesWellFormed surroundings group guid method ↔
      group.heir surroundings guid ∈ (group.withoutMember surroundings guid).guids ∧
        guid ∉ (group.withoutMember surroundings guid).guids := by
  have leader := leaderGuid_withoutMember surroundings group guid
  obtain ⟨-, -, -, disbands, -⟩ := withoutMember_fields surroundings group guid
  constructor
  · intro leaves
    have kept := leaves.kept
    rw [result] at kept
    obtain ⟨-, isLed, removed⟩ := kept rfl
    rw [isMember_iff, leader] at isLed
    have notMember := (removed noVote).1
    rw [Bool.eq_false_iff, Ne, isMember_iff] at notMember
    exact ⟨isLed, notMember⟩
  · rintro ⟨isLed, removed⟩
    constructor
    · rw [result]
      intro _
      refine ⟨disbands, ?_, fun _ => ⟨?_, ?_⟩⟩
      · rw [isMember_iff, leader]
        exact isLed
      · rw [Bool.eq_false_iff, Ne, isMember_iff]
        exact removed
      · apply masterLooterGuid_withoutMember
        rw [leader]
        intro same
        rw [same] at isLed
        exact removed isLed
    · rw [result]
      exact fun gone => absurd gone.symm Bool.false_ne_true
    · exact fun isBG after left => bgRaidAtLeave_disbands surroundings isBG left

theorem leavesWellFormed_iff (member : guid ∈ group.guids)
    (references : group.memberMgr.Nodup) (method : RemoveMethod) :
    LeavesWellFormed surroundings group guid method ↔
      AllowsRemoval surroundings group guid method := by
  unfold AllowsRemoval
  by_cases vote : group.startsVote method = true
  · rw [if_pos vote]
    exact leavesWellFormed_vote_iff surroundings member vote
  rw [if_neg vote]
  by_cases large : group.sizeToKeep < group.membersCount
  swap
  · have result : group.removeMember surroundings guid method = (false, group.disband) := by
      unfold removeMember
      rw [if_neg vote, if_neg large]
    exact iff_of_true (leavesWellFormed_of_disband surroundings result rfl)
      (.inl (not_lt.mp large))
  have behind := leftDungeon_iff surroundings member
  have few := tooFewReferences_iff surroundings references guid
  obtain ⟨-, -, -, disbands, -⟩ := withoutMember_fields surroundings group guid
  by_cases isBehind : (group.withoutMember surroundings guid).leftDungeon surroundings = true
  · have result : group.removeMember surroundings guid method =
        (false, (group.withoutMember surroundings guid).disband) := by
      unfold removeMember
      rw [if_neg vote, if_pos large]
      exact if_pos isBehind
    exact iff_of_true (leavesWellFormed_of_disband surroundings result disbands)
      (.inr (.inl (behind.mp isBehind)))
  by_cases tooFew : (group.withoutMember surroundings guid).memberMgr.length <
      (group.withoutMember surroundings guid).referencesToKeep
  · have result : group.removeMember surroundings guid method =
        (true, (group.withoutMember surroundings guid).disband) := by
      unfold removeMember
      rw [if_neg vote, if_pos large]
      dsimp only
      rw [if_neg isBehind, if_pos tooFew]
    apply iff_of_false (not_leavesWellFormed_of_deleted surroundings result disbands)
    rintro (small | last | stays)
    · exact absurd large (not_lt.mpr small)
    · exact isBehind (behind.mpr last)
    · exact absurd (few.mp tooFew) (not_lt.mpr stays.1)
  · have result : group.removeMember surroundings guid method =
        (true, group.withoutMember surroundings guid) := by
      unfold removeMember
      rw [if_neg vote, if_pos large]
      dsimp only
      rw [if_neg isBehind, if_neg tooFew]
    have enough : group.referencesToKeep ≤ group.referencesLeft surroundings guid :=
      not_lt.mp fun less => tooFew (few.mpr less)
    rw [leavesWellFormed_kept_iff surroundings (Bool.eq_false_iff.mpr vote) result,
      heir_stays_iff surroundings member]
    constructor
    · exact fun led => .inr (.inr ⟨enough, led⟩)
    · rintro (small | last | stays)
      · exact absurd large (not_lt.mpr small)
      · exact absurd (behind.mpr last) isBehind
      · exact stays.2

end OneRemoval

/-! ## Reachable groups -/

theorem nodup_linkMember {group : Group} (unique : group.memberMgr.Nodup)
    (source : ObjectGuid) (original : Bool) :
    (group.linkMember source original).memberMgr.Nodup := by
  unfold linkMember
  rw [List.nodup_cons]
  exact ⟨by simp, unique.filter _⟩

theorem nodup_unlinkMember {group : Group} (unique : group.memberMgr.Nodup)
    (source : ObjectGuid) (original : Bool) :
    (group.unlinkMember source original).memberMgr.Nodup :=
  unique.filter _

theorem nodup_setGroup {group : Group} (unique : group.memberMgr.Nodup)
    (guid : ObjectGuid) (inGroup : Bool) :
    (group.setGroup guid inGroup).memberMgr.Nodup := by
  unfold setGroup
  dsimp only
  split_ifs
  · exact nodup_linkMember (nodup_unlinkMember (nodup_linkMember unique _ _) _ _) _ _
  · exact nodup_linkMember (nodup_unlinkMember (nodup_unlinkMember unique _ _) _ _) _ _
  · exact nodup_linkMember unique _ _
  · exact nodup_linkMember unique _ _

theorem nodup_unsetGroup {group : Group} (unique : group.memberMgr.Nodup) (guid : ObjectGuid) :
    (group.unsetGroup guid).memberMgr.Nodup := by
  unfold unsetGroup removeFromRaid
  split_ifs
  · exact nodup_unlinkMember (nodup_linkMember (nodup_unlinkMember unique _ _) _ _) _ _
  · exact nodup_unlinkMember unique _ _
  · exact nodup_unlinkMember unique _ _
  · exact nodup_unlinkMember unique _ _

theorem nodup_removeReferences {group : Group} (unique : group.memberMgr.Nodup)
    (surroundings : Surroundings) (guid : ObjectGuid) :
    (group.removeReferences surroundings guid).memberMgr.Nodup := by
  have unset : (if surroundings.isConnected guid = true then group.unsetGroup guid
      else group).memberMgr.Nodup := by
    split_ifs
    · exact nodup_unsetGroup unique guid
    · exact unique
  unfold removeReferences
  dsimp only
  split_ifs at unset ⊢
  · exact unset.sublist List.eraseP_sublist
  · exact unset
  · exact unset.sublist List.eraseP_sublist
  · exact unset

theorem addMember_memberMgr {group : Group} (unique : group.memberMgr.Nodup)
    (guid : ObjectGuid) (inGroup : Bool) :
    (group.addMember guid inGroup).2.memberMgr.Nodup := by
  unfold addMember
  cases group.freeSubGroup with
  | none => exact unique
  | some subGroup => exact nodup_setGroup (by exact unique) guid inGroup

theorem removeMember_memberMgr {group : Group} (unique : group.memberMgr.Nodup)
    (surroundings : Surroundings) (guid : ObjectGuid) (method : RemoveMethod) :
    (group.removeMember surroundings guid method).2.memberMgr.Nodup := by
  obtain ⟨-, -, -, -, references⟩ := withoutMember_fields surroundings group guid
  unfold removeMember
  dsimp only
  split_ifs
  · exact unique
  · exact List.nodup_nil
  · exact List.nodup_nil
  · rw [references]
    exact nodup_removeReferences unique surroundings guid
  · exact List.nodup_nil

theorem handleGroupChangeSubGroupOpcode_memberMgr (group : Group) (sender guid : ObjectGuid)
    (groupNr : UInt8) :
    (group.handleGroupChangeSubGroupOpcode sender guid groupNr).memberMgr = group.memberMgr := by
  unfold handleGroupChangeSubGroupOpcode changeMembersGroup
  split_ifs
  · rfl
  · rfl
  · rfl
  · rfl
  · split
    · rfl
    · split_ifs <;> rfl

theorem setMembersGroup_memberMgr (group : Group) (guid : ObjectGuid) (subgroup : UInt8) :
    (group.setMembersGroup guid subgroup).memberMgr = group.memberMgr := by
  unfold setMembersGroup
  split <;> rfl

/-- No reference is linked twice. -/
theorem nodup_step {group : Group} (unique : group.memberMgr.Nodup) (event : Event) :
    (group.step event).memberMgr.Nodup := by
  unfold step
  split_ifs
  · exact unique
  cases event with
  | addMember guid inGroup => exact addMember_memberMgr unique guid inGroup
  | removeMember surroundings guid method =>
      exact removeMember_memberMgr unique surroundings guid method
  | changeLeader surroundings guid =>
      obtain ⟨-, -, -, -, -, references⟩ := changeLeader_fields surroundings group guid
      dsimp only
      rw [references]
      exact unique
  | changeSubGroup sender guid groupNr =>
      dsimp only
      rw [handleGroupChangeSubGroupOpcode_memberMgr]
      exact unique
  | setMembersGroup guid subgroup =>
      dsimp only
      rw [setMembersGroup_memberMgr]
      exact unique
  | link source original => exact nodup_linkMember unique source original
  | unlink source original => exact nodup_unlinkMember unique source original
  | setMasterLooterGuid guid => exact unique
  | convertToLFG => exact unique
  | convertToRaid => exact unique
  | groupLoot nearby contents => exact unique
  | needBeforeGreed nearby contents => exact unique
  | countRollVote luck player itemGUID choice => exact unique
  | endRoll luck loot => exact unique

theorem loadGroupFromDB_fields (isKnown : ObjectGuid → Bool) (looting : Looting)
    (row : GroupRow) :
    (loadGroupFromDB isKnown looting row).memberSlots = [] ∧
      (loadGroupFromDB isKnown looting row).memberMgr = [] := by
  unfold loadGroupFromDB
  dsimp only
  split_ifs <;> exact ⟨rfl, rfl⟩

theorem load_memberMgr (isKnown : ObjectGuid → Bool) (members : List MemberRow) (group : Group) :
    (members.foldl (loadMemberFromDB isKnown) group).memberMgr = group.memberMgr := by
  induction members generalizing group with
  | nil => rfl
  | cons row rest induction =>
      rw [List.foldl_cons, induction]
      unfold loadMemberFromDB
      split_ifs <;> rfl

theorem Starts.nodup_memberMgr {group : Group} (starts : Starts group) :
    group.memberMgr.Nodup := by
  cases starts with
  | created bgGroup bfGroup looting leader inGroup =>
      unfold create
      dsimp only
      apply addMember_memberMgr
      split_ifs <;> exact List.nodup_nil
  | loaded isKnown looting row members =>
      unfold load
      rw [load_memberMgr, (loadGroupFromDB_fields isKnown looting row).2]
      exact List.nodup_nil

/--
Any removal of a member from any reachable group leaves it in order, or
disbands it and says so, exactly if the group is allowed to lose the member.
-/
theorem removal_leavesWellFormed_iff {start : Group} (starts : Starts start)
    (events : List Event) (surroundings : Surroundings) {guid : ObjectGuid}
    (member : (run step start events).isMember guid = true) (method : RemoveMethod) :
    LeavesWellFormed surroundings (run step start events) guid method ↔
      AllowsRemoval surroundings (run step start events) guid method := by
  have preserved : ∀ (group : Group) (event : Event), group.memberMgr.Nodup →
      (group.step event).memberMgr.Nodup := fun _ event unique => nodup_step unique event
  have unique : (run step start events).memberMgr.Nodup :=
    run_of_preserved preserved events starts.nodup_memberMgr
  exact leavesWellFormed_iff surroundings (isMember_iff.mp member) unique method

/-! ## A party of three -/

/-- Everyone else is connected, and numbers are low. -/
def absent (guid : ObjectGuid) : Surroundings where
  isConnected := (· ≠ guid)
  dungeonMapId := 0
  isAlive := fun _ => true
  mapId := fun _ => 0
  luck := {
    urand := fun _ _ => 1
    urand_bounds := fun _ _ => ⟨by decide, by decide⟩
    hasSession := (· ≠ guid)
    canStoreNewItem := fun _ _ => true }

/-- Player 1 founds a party. -/
def founded : Group := ((new false false (.fresh 1)).create 1 false).2

theorem founded_starts : Starts founded := .created false false (.fresh 1) 1 false

/-- While all are connected the party goes on without one of them. -/
theorem connectedParty_leavesWellFormed :
    LeavesWellFormed (absent 0) (run step founded [.addMember 2 false, .addMember 3 false]) 3
      .leave :=
  (removal_leavesWellFormed_iff founded_starts _ (absent 0) rfl .leave).mpr (by decide)

/-- Player 2 has lost his connection when player 3 leaves. -/
theorem disconnectedMember_not_leavesWellFormed :
    ¬LeavesWellFormed (absent 2)
      (run step founded [.addMember 2 false, .addMember 3 false, .unlink 2 false]) 3 .leave := by
  intro leaves
  have kept := leaves.kept (by decide)
  exact absurd kept.1 (by decide)

end Group

end RealmServer.Groups
