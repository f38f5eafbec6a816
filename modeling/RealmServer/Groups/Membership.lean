import RealmServer.Lib.Counting
import RealmServer.Lib.Transition
import RealmServer.Groups.Group

/-!
# The life of a group

Everything that happens to a group as one list of events, and what the
operations do to the list of its members.
-/

namespace RealmServer.Groups

open Table Transition

/-- What happens to a group. -/
inductive Event where
  | addMember (guid : ObjectGuid) (inGroup : Bool)
  | removeMember (surroundings : Surroundings) (guid : ObjectGuid) (method : RemoveMethod)
  | changeLeader (surroundings : Surroundings) (guid : ObjectGuid)
  | setMasterLooterGuid (guid : ObjectGuid)
  | convertToLFG
  | convertToRaid
  | changeSubGroup (sender guid : ObjectGuid) (groupNr : UInt8)
  | setMembersGroup (guid : ObjectGuid) (subgroup : UInt8)
  /-- References come and go with logins, logouts and the player's other groups. -/
  | link (source : ObjectGuid) (original : Bool)
  | unlink (source : ObjectGuid) (original : Bool)
  | groupLoot (nearby : Looting.Nearby) (contents : Loot)
  | needBeforeGreed (nearby : Looting.Nearby) (contents : Loot)
  | countRollVote (luck : Luck) (player itemGUID : ObjectGuid) (choice : Nat)
  | endRoll (luck : Luck) (loot : LootId)

namespace Group

/-- The members which the loot functions go through. -/
def sources (group : Group) : List ObjectGuid := group.memberMgr.map MemberReference.source

def step (group : Group) (event : Event) : Group :=
  if 0 < group.disbands then group
  else
    match event with
    | .addMember guid inGroup => (group.addMember guid inGroup).2
    | .removeMember surroundings guid method => (group.removeMember surroundings guid method).2
    | .changeLeader surroundings guid => group.changeLeader surroundings guid
    | .setMasterLooterGuid guid => { group with masterLooterGuid := guid }
    | .convertToLFG => group.convertToLFG
    | .convertToRaid => group.convertToRaid
    | .changeSubGroup sender guid groupNr =>
        group.handleGroupChangeSubGroupOpcode sender guid groupNr
    | .setMembersGroup guid subgroup => group.setMembersGroup guid subgroup
    | .link source original => group.linkMember source original
    | .unlink source original => group.unlinkMember source original
    | .groupLoot nearby contents =>
        { group with
          looting :=
            Looting.groupLoot nearby group.sources group.lootThreshold group.looting contents }
    | .needBeforeGreed nearby contents =>
        { group with
          looting :=
            Looting.needBeforeGreed nearby group.sources group.lootThreshold group.looting
              contents }
    | .countRollVote luck player itemGUID choice =>
        { group with looting := group.looting.countRollVote luck player itemGUID choice }
    | .endRoll luck loot => { group with looting := group.looting.endRoll luck loot }

/-- A group as `Create` or `LoadGroups` leaves it. -/
inductive Starts : Group → Prop where
  | created (bgGroup bfGroup : Bool) (looting : Looting) (leader : ObjectGuid) (inGroup : Bool) :
      Starts ((new bgGroup bfGroup looting).create leader inGroup).2
  | loaded (isKnown : ObjectGuid → Bool) (looting : Looting) (row : GroupRow)
      (members : List MemberRow) : Starts (load isKnown looting row members)

/-! ## Slots -/

def guids (group : Group) : List ObjectGuid := group.memberSlots.map MemberSlot.guid

theorem memberSlot_isSome_iff {group : Group} {guid : ObjectGuid} :
    (group.memberSlot guid).isSome = true ↔ guid ∈ group.guids := by
  unfold memberSlot guids
  rw [List.find?_isSome, List.mem_map]
  simp only [beq_iff_eq]

theorem isMember_iff {group : Group} {guid : ObjectGuid} :
    group.isMember guid = true ↔ guid ∈ group.guids :=
  memberSlot_isSome_iff

theorem memberSlot_eq_none_iff {group : Group} {guid : ObjectGuid} :
    group.memberSlot guid = none ↔ guid ∉ group.guids := by
  rw [← memberSlot_isSome_iff, Option.isSome_iff_ne_none, not_not]

theorem length_guids (group : Group) : group.guids.length = group.membersCount :=
  List.length_map _

theorem guids_modifySlot (group : Group) (guid : ObjectGuid) {change : MemberSlot → MemberSlot}
    (same : ∀ slot, (change slot).guid = slot.guid) :
    (group.modifySlot guid change).guids = group.guids :=
  Counting.map_modify_of_same same _ _

theorem guids_eraseP (slots : List MemberSlot) (guid : ObjectGuid) :
    (slots.eraseP fun slot => slot.guid == guid).map MemberSlot.guid =
      (slots.map MemberSlot.guid).erase guid := by
  induction slots with
  | nil => rfl
  | cons first rest induction =>
      rw [List.map_cons, List.erase_cons]
      by_cases isFirst : first.guid = guid
      · rw [List.eraseP_cons_of_pos (by simpa using isFirst), if_pos (by simpa using isFirst)]
      · rw [List.eraseP_cons_of_neg (by simpa using isFirst), if_neg (by simpa using isFirst),
          List.map_cons, induction]

/-! ## The operations and the slots -/

section Operations

variable (group : Group) (surroundings : Surroundings) (guid : ObjectGuid)

/-- Changes of the references change nothing else. -/
theorem setGroup_eq (inGroup : Bool) :
    group.setGroup guid inGroup =
      { group with memberMgr := (group.setGroup guid inGroup).memberMgr } := by
  unfold setGroup linkMember unlinkMember
  split_ifs <;> rfl

theorem unsetGroup_eq :
    group.unsetGroup guid = { group with memberMgr := (group.unsetGroup guid).memberMgr } := by
  unfold unsetGroup removeFromRaid linkMember unlinkMember
  split_ifs <;> rfl

theorem removeReferences_eq :
    group.removeReferences surroundings guid =
      { group with memberMgr := (group.removeReferences surroundings guid).memberMgr } := by
  unfold removeReferences
  by_cases connected : surroundings.isConnected guid = true
  · rw [if_pos connected, unsetGroup_eq]
    dsimp only
    split_ifs <;> rfl
  · rw [if_neg connected]
    dsimp only
    split_ifs <;> rfl

theorem guids_removeSlot : (group.removeSlot guid).guids = group.guids.erase guid := by
  unfold removeSlot
  cases found : group.memberSlot guid with
  | none => exact (List.erase_of_not_mem (memberSlot_eq_none_iff.mp found)).symm
  | some slot => exact guids_eraseP group.memberSlots guid

theorem guids_changeLeader : (group.changeLeader surroundings guid).guids = group.guids := by
  unfold changeLeader
  cases group.memberSlot guid with
  | none => rfl
  | some slot =>
      dsimp only
      split_ifs
      · rfl
      · exact guids_modifySlot _ _ fun _ => rfl

theorem guids_pickLeader : (group.pickLeader surroundings guid).guids = group.guids := by
  unfold pickLeader
  split_ifs
  · rfl
  · split
    · rfl
    · exact guids_changeLeader _ _ _

theorem guids_replaceMasterLooter : (group.replaceMasterLooter guid).guids = group.guids := by
  unfold replaceMasterLooter
  split_ifs <;> rfl

theorem guids_withoutMember :
    (group.withoutMember surroundings guid).guids = group.guids.erase guid := by
  unfold withoutMember
  rw [guids_replaceMasterLooter, guids_pickLeader, guids_removeSlot, removeReferences_eq]
  rfl

end Operations

end Group

end RealmServer.Groups
