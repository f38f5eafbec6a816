import RealmServer.Groups.Removal

/-!
# The counters of the sub groups

A raid keeps the sizes of its sub groups in an array beside the slots.  They
are counted anew by `_initRaidSubGroupsCounter` and otherwise changed with the
slots, except by `_setMembersGroup`, which only adds.  No function checks the
sub groups which come from the database.
-/

namespace RealmServer.Groups

open Transition Counting

namespace Group

/-! ## Counting -/

def inSubGroup (subgroup : Nat) (slot : MemberSlot) : Bool := slot.group.toNat == subgroup

/-- The size of a sub group. -/
def subGroupSize (slots : List MemberSlot) (subgroup : Nat) : Nat :=
  slots.countP (inSubGroup subgroup)

/-- The counters say how large the sub groups are. -/
def Exact (counts : SubGroupsCounts) (slots : List MemberSlot) : Prop :=
  ∀ index, (counts index).toNat = subGroupSize slots index

/-- Every member is in one of the sub groups, and none of these is overfull. -/
structure Orderly (slots : List MemberSlot) : Prop where
  inside : ∀ slot ∈ slots, slot.group.toNat < maxRaidSubGroups
  atMost : ∀ subgroup < maxRaidSubGroups, subGroupSize slots subgroup ≤ maxGroupSize

/-- `AddMember` chooses the lowest sub group with room, and refuses where there is none. -/
def AddsToFirstNotFull (group : Group) : Prop :=
  ∀ guid inGroup,
    ((group.addMember guid inGroup).1 = true →
      ∃ subgroup : UInt8,
        (group.addMember guid inGroup).2.memberSlots =
          group.memberSlots ++ [⟨guid, subgroup, 0⟩] ∧
        subgroup.toNat < maxRaidSubGroups ∧
        subGroupSize group.memberSlots subgroup.toNat < maxGroupSize ∧
        ∀ lower < subgroup.toNat, maxGroupSize ≤ subGroupSize group.memberSlots lower) ∧
    ((group.addMember guid inGroup).1 = false →
      ∀ subgroup < maxRaidSubGroups, maxGroupSize ≤ subGroupSize group.memberSlots subgroup)

/-- What holds of a raid with exact counters. -/
structure ExactRaid (group : Group) : Prop where
  counters : ∃ counts, group.subGroupsCounts = some counts ∧ Exact counts group.memberSlots
  orderly : Orderly group.memberSlots
  adds : AddsToFirstNotFull group

/-- As long as the group exists. -/
def RaidsExact (group : Group) : Prop :=
  group.disbands = 0 → group.isRaidGroup = true → ExactRaid group

/-! ## One counter -/

theorem subGroupSize_append (slots : List MemberSlot) (slot : MemberSlot) (subgroup : Nat) :
    subGroupSize (slots ++ [slot]) subgroup =
      subGroupSize slots subgroup + counted (inSubGroup subgroup) slot := by
  unfold subGroupSize
  rw [List.countP_append, List.countP_singleton]
  rfl

theorem subGroupSize_congr {slots others : List MemberSlot}
    (same : others.map MemberSlot.group = slots.map MemberSlot.group) (subgroup : Nat) :
    subGroupSize others subgroup = subGroupSize slots subgroup := by
  have byGroup : ∀ members : List MemberSlot, subGroupSize members subgroup =
      (members.map MemberSlot.group).countP fun group => group.toNat == subgroup := by
    intro members
    rw [List.countP_map]
    rfl
  rw [byGroup, byGroup, same]

theorem Orderly.congr {slots others : List MemberSlot} (orderly : Orderly slots)
    (same : others.map MemberSlot.group = slots.map MemberSlot.group) : Orderly others := by
  constructor
  · intro slot member
    have present : slot.group ∈ slots.map MemberSlot.group := by
      rw [← same]
      exact List.mem_map_of_mem member
    obtain ⟨old, oldMember, sameGroup⟩ := List.mem_map.mp present
    rw [← sameGroup]
    exact orderly.inside old oldMember
  · intro subgroup inside
    rw [subGroupSize_congr same]
    exact orderly.atMost subgroup inside

theorem toNat_add_one {count : UInt8} (small : count.toNat < 255) :
    (count + 1).toNat = count.toNat + 1 := by
  rw [UInt8.toNat_add]
  exact Nat.mod_eq_of_lt (by simpa using Nat.succ_lt_succ small)

theorem toNat_sub_one {count : UInt8} (positive : 0 < count.toNat) :
    (count - 1).toNat = count.toNat - 1 := by
  have atLeast : (1 : UInt8) ≤ count := by
    rw [UInt8.le_iff_toNat_le]
    exact positive
  rw [UInt8.toNat_sub_of_le _ _ atLeast]
  rfl

theorem counted_inSubGroup (slot : MemberSlot) (index : Fin maxRaidSubGroups) :
    counted (inSubGroup index) slot = if index.val = slot.group.toNat then 1 else 0 := by
  unfold counted inSubGroup
  by_cases same : index.val = slot.group.toNat
  · simp [same]
  · simp [same, Ne.symm same]

/-- A slot is added to a sub group that is not full. -/
theorem Exact.increase {counts : SubGroupsCounts} {slots others : List MemberSlot}
    (exact : Exact counts slots) {slot : MemberSlot}
    (small : subGroupSize slots slot.group.toNat < 255)
    (added : ∀ index : Fin maxRaidSubGroups, subGroupSize others index =
      subGroupSize slots index + counted (inSubGroup index) slot) :
    Exact (increaseCount counts slot.group) others := by
  intro index
  rw [added, counted_inSubGroup]
  unfold increaseCount
  split_ifs with isIndex
  · have bound : (counts index).toNat < 255 := by
      rw [exact index, isIndex]
      exact small
    rw [toNat_add_one bound, exact index]
  · exact exact index

/-- A slot is taken from its sub group. -/
theorem Exact.decrease {counts : SubGroupsCounts} {slots others : List MemberSlot}
    (exact : Exact counts slots) {slot : MemberSlot}
    (removed : ∀ index : Fin maxRaidSubGroups,
      subGroupSize others index + counted (inSubGroup index) slot = subGroupSize slots index) :
    Exact (decreaseCount counts slot.group) others := by
  intro index
  have change := removed index
  rw [counted_inSubGroup] at change
  have before := exact index
  unfold decreaseCount
  split_ifs at change ⊢ with isIndex
  · rw [toNat_sub_one (by omega)]
    omega
  · omega

theorem Orderly.of_le {slots others : List MemberSlot} (orderly : Orderly slots)
    (members : ∀ slot ∈ others, slot ∈ slots)
    (fewer : ∀ subgroup, subGroupSize others subgroup ≤ subGroupSize slots subgroup) :
    Orderly others :=
  ⟨fun slot member => orderly.inside slot (members slot member),
    fun subgroup inside => (fewer subgroup).trans (orderly.atMost subgroup inside)⟩

theorem foldl_increaseCount (slots : List MemberSlot) (counts : SubGroupsCounts)
    (index : Fin maxRaidSubGroups) :
    slots.foldl (fun counts slot => increaseCount counts slot.group) counts index =
      counts index + UInt8.ofNat (subGroupSize slots index) := by
  induction slots generalizing counts with
  | nil => simp [subGroupSize]
  | cons first rest induction =>
      have size : subGroupSize (first :: rest) index =
          subGroupSize rest index + counted (inSubGroup index) first := by
        unfold subGroupSize
        rw [List.countP_cons]
        rfl
      rw [List.foldl_cons, induction, size, counted_inSubGroup]
      unfold increaseCount
      split_ifs
      · rw [UInt8.ofNat_add, add_assoc, add_comm (UInt8.ofNat (subGroupSize rest index))]
        rfl
      · rfl

/-- The counters are right as bytes. -/
def ExactAsBytes (counts : SubGroupsCounts) (slots : List MemberSlot) : Prop :=
  ∀ index : Fin maxRaidSubGroups, counts index = UInt8.ofNat (subGroupSize slots index)

theorem ExactAsBytes.exact {counts : SubGroupsCounts} {slots : List MemberSlot}
    (bytes : ExactAsBytes counts slots) (orderly : Orderly slots) : Exact counts slots := by
  intro index
  have size : subGroupSize slots index ≤ 5 := orderly.atMost index index.isLt
  rw [bytes index, UInt8.toNat_ofNat']
  exact Nat.mod_eq_of_lt (by omega)

theorem exactAsBytes_foldl (slots : List MemberSlot) :
    ExactAsBytes (slots.foldl (fun counts slot => increaseCount counts slot.group) fun _ => 0)
      slots := by
  intro index
  rw [foldl_increaseCount, zero_add]

/-! ## A new member -/

theorem firstNotFull_eq_some {counts : SubGroupsCounts} {index : Fin maxRaidSubGroups}
    (found : firstNotFull counts = some index) :
    (counts index).toNat < maxGroupSize ∧
      ∀ lower < index, maxGroupSize ≤ (counts lower).toNat := by
  unfold firstNotFull at found
  rw [List.find?_eq_some_iff_getElem] at found
  obtain ⟨hasRoom, place, inside, atPlace, earlier⟩ := found
  refine ⟨by simpa using hasRoom, fun lower isLower => ?_⟩
  have isPlace : index.val = place := by
    rw [← atPlace]
    simp
  have full := earlier lower.val (by rw [← isPlace]; exact isLower)
  simpa using full

theorem firstNotFull_eq_none {counts : SubGroupsCounts} (found : firstNotFull counts = none)
    (index : Fin maxRaidSubGroups) : maxGroupSize ≤ (counts index).toNat := by
  unfold firstNotFull at found
  rw [List.find?_eq_none] at found
  simpa using found index (List.mem_finRange index)

theorem toNat_ofNat_index (index : Fin maxRaidSubGroups) :
    (UInt8.ofNat index.val).toNat = index.val := by
  have inside : index.val < 8 := index.isLt
  rw [UInt8.toNat_ofNat']
  exact Nat.mod_eq_of_lt (by omega)

theorem addMember_of_free {group : Group} {subgroup : UInt8}
    (free : group.freeSubGroup = some subgroup) (guid : ObjectGuid) (inGroup : Bool) :
    (group.addMember guid inGroup).1 = true ∧
      (group.addMember guid inGroup).2.memberSlots =
        group.memberSlots ++ [⟨guid, subgroup, 0⟩] ∧
      (group.addMember guid inGroup).2.subGroupsCounts =
        group.subGroupsCounts.map (increaseCount · subgroup) ∧
      (group.addMember guid inGroup).2.groupType = group.groupType ∧
      (group.addMember guid inGroup).2.disbands = group.disbands := by
  unfold addMember
  rw [free]
  dsimp only
  rw [setGroup_eq]
  exact ⟨rfl, rfl, rfl, rfl, rfl⟩

theorem addMember_of_full {group : Group} (full : group.freeSubGroup = none)
    (guid : ObjectGuid) (inGroup : Bool) :
    group.addMember guid inGroup = (false, group) := by
  unfold addMember
  rw [full]

/-- Exact counters lead `AddMember` to the right sub group. -/
theorem addsToFirstNotFull {group : Group} {counts : SubGroupsCounts}
    (isCounts : group.subGroupsCounts = some counts) (exact : Exact counts group.memberSlots) :
    AddsToFirstNotFull group := by
  intro guid inGroup
  cases found : firstNotFull counts with
  | none =>
      have full : group.freeSubGroup = none := by
        unfold freeSubGroup
        rw [isCounts]
        dsimp only
        rw [found, Option.map_none]
      rw [addMember_of_full full]
      refine ⟨fun added => absurd added Bool.false_ne_true, fun _ subgroup inside => ?_⟩
      have large := firstNotFull_eq_none found ⟨subgroup, inside⟩
      rw [exact] at large
      exact large
  | some index =>
      have free : group.freeSubGroup = some (UInt8.ofNat index.val) := by
        unfold freeSubGroup
        rw [isCounts]
        dsimp only
        rw [found, Option.map_some]
      obtain ⟨isAdded, slots, -⟩ := addMember_of_free free guid inGroup
      obtain ⟨hasRoom, earlier⟩ := firstNotFull_eq_some found
      refine ⟨fun _ => ⟨_, slots, ?_, ?_, fun lower isLower => ?_⟩, fun refused => ?_⟩
      · rw [toNat_ofNat_index]
        exact index.isLt
      · rw [toNat_ofNat_index, ← exact index]
        exact hasRoom
      · rw [toNat_ofNat_index] at isLower
        have full := earlier ⟨lower, isLower.trans index.isLt⟩ isLower
        rw [exact] at full
        exact full
      · rw [isAdded] at refused
        exact absurd refused.symm Bool.false_ne_true

/-- The rest follows from the counters. -/
theorem exactRaid_of_counters {group : Group} {counts : SubGroupsCounts}
    (isCounts : group.subGroupsCounts = some counts) (exact : Exact counts group.memberSlots)
    (orderly : Orderly group.memberSlots) : ExactRaid group :=
  ⟨⟨counts, isCounts, exact⟩, orderly, addsToFirstNotFull isCounts exact⟩

theorem ExactRaid.addMember {group : Group} (raid : ExactRaid group) (guid : ObjectGuid)
    (inGroup : Bool) : ExactRaid (group.addMember guid inGroup).2 := by
  obtain ⟨counts, isCounts, exact⟩ := raid.counters
  obtain ⟨accepts, -⟩ := raid.adds guid inGroup
  cases free : group.freeSubGroup with
  | none =>
      rw [addMember_of_full free]
      exact raid
  | some subgroup =>
      obtain ⟨isAdded, slots, counters, -⟩ := addMember_of_free free guid inGroup
      obtain ⟨chosen, sameSlots, inside, hasRoom, -⟩ := accepts isAdded
      have isChosen : chosen = subgroup := by
        rw [slots] at sameSlots
        have last := List.append_cancel_left sameSlots
        simp only [List.cons.injEq, MemberSlot.mk.injEq, and_true, true_and] at last
        exact last.symm
      rw [isChosen] at inside hasRoom
      have room : subGroupSize group.memberSlots subgroup.toNat < 5 := hasRoom
      rw [isCounts, Option.map_some] at counters
      let member : MemberSlot := ⟨guid, subgroup, 0⟩
      have small : subGroupSize group.memberSlots member.group.toNat < 255 :=
        room.trans (by decide)
      refine exactRaid_of_counters counters ?_ ?_
      · rw [slots]
        exact exact.increase small fun index => subGroupSize_append _ member _
      · rw [slots]
        constructor
        · intro slot member
          rcases List.mem_append.mp member with old | new
          · exact raid.orderly.inside slot old
          · rw [List.mem_singleton.mp new]
            exact inside
        · intro other isOther
          have before := raid.orderly.atMost other isOther
          rw [subGroupSize_append]
          unfold counted inSubGroup
          dsimp only
          split_ifs with isSame
          · rw [← beq_iff_eq.mp isSame]
            exact hasRoom
          · exact before

/-! ## The other operations -/

theorem RaidsExact.of_groups {group next : Group} (exact : RaidsExact group)
    (disbands : next.disbands = 0 → group.disbands = 0)
    (raid : next.isRaidGroup = group.isRaidGroup)
    (counters : next.subGroupsCounts = group.subGroupsCounts)
    (groups : next.memberSlots.map MemberSlot.group = group.memberSlots.map MemberSlot.group) :
    RaidsExact next := by
  intro alive isRaid
  rw [raid] at isRaid
  have before := exact (disbands alive) isRaid
  obtain ⟨counts, isCounts, isExact⟩ := before.counters
  refine exactRaid_of_counters (counters.trans isCounts) (fun index => ?_)
    (before.orderly.congr groups)
  rw [isExact, subGroupSize_congr groups]

theorem groups_changeLeader (surroundings : Surroundings) (group : Group) (guid : ObjectGuid) :
    (group.changeLeader surroundings guid).memberSlots.map MemberSlot.group =
        group.memberSlots.map MemberSlot.group ∧
      (group.changeLeader surroundings guid).subGroupsCounts = group.subGroupsCounts := by
  unfold changeLeader
  split
  · exact ⟨rfl, rfl⟩
  · split_ifs
    · exact ⟨rfl, rfl⟩
    · refine ⟨?_, rfl⟩
      unfold modifySlot
      exact map_modify_of_same (by exact fun _ => rfl) _ _

theorem groups_withoutMember (surroundings : Surroundings) (group : Group) (guid : ObjectGuid) :
    (group.withoutMember surroundings guid).memberSlots.map MemberSlot.group =
        (group.removeSlot guid).memberSlots.map MemberSlot.group ∧
      (group.withoutMember surroundings guid).subGroupsCounts =
        (group.removeSlot guid).subGroupsCounts := by
  have before : (group.beforeLeader surroundings guid).memberSlots =
        (group.removeSlot guid).memberSlots ∧
      (group.beforeLeader surroundings guid).subGroupsCounts =
        (group.removeSlot guid).subGroupsCounts := by
    unfold beforeLeader
    rw [removeReferences_eq]
    unfold removeSlot memberSlot
    dsimp only
    split <;> exact ⟨rfl, rfl⟩
  have led : ((group.beforeLeader surroundings guid).pickLeader surroundings guid
        ).memberSlots.map MemberSlot.group =
          (group.beforeLeader surroundings guid).memberSlots.map MemberSlot.group ∧
      ((group.beforeLeader surroundings guid).pickLeader surroundings guid).subGroupsCounts =
        (group.beforeLeader surroundings guid).subGroupsCounts := by
    unfold pickLeader
    split_ifs
    · exact ⟨rfl, rfl⟩
    · split
      · exact ⟨rfl, rfl⟩
      · exact groups_changeLeader surroundings _ _
  rw [withoutMember_eq, ← before.1, ← before.2, ← led.1, ← led.2]
  unfold replaceMasterLooter
  split_ifs <;> exact ⟨rfl, rfl⟩

theorem ExactRaid.removeSlot {group : Group} (raid : ExactRaid group) (guid : ObjectGuid) :
    ExactRaid (group.removeSlot guid) := by
  obtain ⟨counts, isCounts, exact⟩ := raid.counters
  cases found : group.memberSlot guid with
  | none =>
      unfold Group.removeSlot
      rw [found]
      exact raid
  | some slot =>
      have sizes : ∀ subgroup, subGroupSize
          (group.memberSlots.eraseP fun slot => slot.guid == guid) subgroup +
            counted (inSubGroup subgroup) slot = subGroupSize group.memberSlots subgroup :=
        fun subgroup => countP_eraseP found _
      unfold Group.removeSlot
      rw [found]
      have counters : (group.subGroupCounterDecrease slot.group).subGroupsCounts =
          some (decreaseCount counts slot.group) := by
        unfold subGroupCounterDecrease
        dsimp only
        rw [isCounts, Option.map_some]
      exact exactRaid_of_counters counters (exact.decrease fun index => sizes index)
        (raid.orderly.of_le (fun _ member => List.mem_of_mem_eraseP member)
          fun subgroup => Nat.le.intro (sizes subgroup))

theorem RaidsExact.removeMember {group : Group} (exact : RaidsExact group)
    (surroundings : Surroundings) (guid : ObjectGuid) (method : RemoveMethod) :
    RaidsExact (group.removeMember surroundings guid method).2 := by
  have deleted : ∀ last : Group, RaidsExact last.disband :=
    fun last alive => absurd alive (Nat.succ_ne_zero last.disbands)
  unfold Group.removeMember
  dsimp only
  split_ifs
  · exact exact
  · exact deleted _
  · exact deleted _
  · obtain ⟨type, -, -, disbands, -⟩ := withoutMember_fields surroundings group guid
    obtain ⟨groups, counters⟩ := groups_withoutMember surroundings group guid
    have same : (group.removeSlot guid).groupType = group.groupType ∧
        (group.removeSlot guid).disbands = group.disbands := by
      unfold Group.removeSlot
      split <;> exact ⟨rfl, rfl⟩
    have removed : RaidsExact (group.removeSlot guid) := by
      intro alive isRaid
      have raid : group.isRaidGroup = true := by
        unfold isRaidGroup at isRaid ⊢
        rwa [same.1] at isRaid
      exact (exact (same.2 ▸ alive) raid).removeSlot guid
    refine removed.of_groups (fun alive => ?_) ?_ counters groups
    · rw [same.2, ← disbands]
      exact alive
    · unfold isRaidGroup
      rw [type, same.1]
  · exact deleted _

/-! ### A member changes his sub group -/

theorem subGroupSize_modifySlot {group : Group} {guid : ObjectGuid} {slot : MemberSlot}
    (found : group.memberSlot guid = some slot) (subgroup : UInt8) (size : Nat) :
    subGroupSize (group.modifySlot guid fun slot => { slot with group := subgroup }).memberSlots
        size + counted (inSubGroup size) slot =
      subGroupSize group.memberSlots size +
        counted (inSubGroup size) { slot with group := subgroup } := by
  have place : group.memberSlots[group.memberSlots.findIdx fun slot => slot.guid == guid]? =
      some slot := by
    rw [← List.find?_eq_getElem?_findIdx]
    exact found
  exact countP_modify place _ _

theorem mem_modifySlot {group : Group} {guid : ObjectGuid} {subgroup : UInt8} {slot : MemberSlot}
    (member : slot ∈ (group.modifySlot guid fun slot =>
      { slot with group := subgroup }).memberSlots) :
    slot ∈ group.memberSlots ∨ slot.group = subgroup := by
  unfold modifySlot at member
  obtain ⟨place, atPlace⟩ := List.mem_iff_getElem?.mp member
  rw [List.getElem?_modify] at atPlace
  split_ifs at atPlace
  · obtain ⟨old, -, changed⟩ := Option.map_eq_some_iff.mp atPlace
    right
    rw [← changed]
  · rw [Option.map_eq_map, Option.map_id_fun', id] at atPlace
    exact .inl (List.mem_of_getElem? atPlace)

theorem ExactRaid.changeMembersGroup {group : Group} (raid : ExactRaid group)
    {guid : ObjectGuid} {slot : MemberSlot} (found : group.memberSlot guid = some slot)
    {subgroup : UInt8} (inside : subgroup.toNat < maxRaidSubGroups)
    (hasRoom : subGroupSize group.memberSlots subgroup.toNat < maxGroupSize) :
    ExactRaid (((group.modifySlot guid fun slot => { slot with group := subgroup }
      ).subGroupCounterIncrease subgroup).subGroupCounterDecrease slot.group) := by
  obtain ⟨counts, isCounts, exact⟩ := raid.counters
  let moved : MemberSlot := { slot with group := subgroup }
  have sizes := subGroupSize_modifySlot found subgroup
  have small : subGroupSize group.memberSlots moved.group.toNat < 255 :=
    hasRoom.trans (by decide)
  -- the member is counted twice in between
  have doubled : Exact (increaseCount counts moved.group) (group.memberSlots ++ [moved]) :=
    exact.increase small fun index => subGroupSize_append _ _ _
  have counters : (((group.modifySlot guid fun slot => { slot with group := subgroup }
      ).subGroupCounterIncrease subgroup).subGroupCounterDecrease slot.group).subGroupsCounts =
        some (decreaseCount (increaseCount counts subgroup) slot.group) := by
    unfold subGroupCounterDecrease subGroupCounterIncrease modifySlot
    dsimp only
    rw [isCounts, Option.map_some, Option.map_some]
  refine exactRaid_of_counters counters (doubled.decrease fun index => ?_) ⟨?_, ?_⟩
  · rw [subGroupSize_append]
    exact sizes index
  · intro other member
    rcases mem_modifySlot member with old | new
    · exact raid.orderly.inside other old
    · rw [new]
      exact inside
  · intro other isOther
    have change := sizes other
    have before := raid.orderly.atMost other isOther
    apply le_trans (Nat.le.intro change)
    by_cases isSame : subgroup.toNat = other
    · have bound : counted (inSubGroup other) moved ≤ 1 := by
        unfold counted
        split_ifs <;> omega
      rw [isSame] at hasRoom
      exact (Nat.add_le_add_left bound _).trans hasRoom
    · have notCounted : counted (inSubGroup other) moved = 0 := by
        unfold counted inSubGroup
        exact if_neg (by simpa using isSame)
      exact (Nat.add_le_add_left notCounted.le _).trans before

theorem RaidsExact.handleGroupChangeSubGroupOpcode {group : Group} (exact : RaidsExact group)
    (sender guid : ObjectGuid) (groupNr : UInt8) :
    RaidsExact (group.handleGroupChangeSubGroupOpcode sender guid groupNr) := by
  unfold Group.handleGroupChangeSubGroupOpcode
  split_ifs with outside notAllowed noRoom
  · exact exact
  · exact exact
  · exact exact
  unfold Group.changeMembersGroup
  split_ifs with noRaid
  · exact exact
  cases found : group.memberSlot guid with
  | none => exact exact
  | some slot =>
      dsimp only
      split_ifs
      · exact exact
      intro alive _
      have raid := exact alive (by simpa using noRaid)
      obtain ⟨counts, isCounts, isExact⟩ := raid.counters
      have inside : groupNr.toNat < maxRaidSubGroups := not_le.mp outside
      have room : (counts ⟨groupNr.toNat, inside⟩).toNat < maxGroupSize := by
        unfold hasFreeSlotSubGroup at noRoom
        rw [isCounts] at noRoom
        simpa [inside] using noRoom
      rw [isExact] at room
      exact raid.changeMembersGroup found inside room

/-- `_setMembersGroup` leaves the member in the count of his old sub group. -/
theorem not_exactRaid_setMembersGroup {group : Group} (raid : ExactRaid group)
    {guid : ObjectGuid} {slot : MemberSlot} (found : group.memberSlot guid = some slot)
    (subgroup : UInt8) : ¬ExactRaid (group.setMembersGroup guid subgroup) := by
  intro after
  obtain ⟨counts, isCounts, exact⟩ := raid.counters
  obtain ⟨counts', isCounts', exact'⟩ := after.counters
  have counters : counts' = increaseCount counts subgroup := by
    unfold Group.setMembersGroup at isCounts'
    rw [found] at isCounts'
    unfold subGroupCounterIncrease modifySlot at isCounts'
    dsimp only at isCounts'
    rw [isCounts, Option.map_some, Option.some.injEq] at isCounts'
    exact isCounts'.symm
  have slots : (group.setMembersGroup guid subgroup).memberSlots =
      (group.modifySlot guid fun slot => { slot with group := subgroup }).memberSlots := by
    unfold Group.setMembersGroup
    rw [found]
    rfl
  rw [slots, counters] at exact'
  have member : slot ∈ group.memberSlots := List.mem_of_find?_eq_some found
  let old : Fin maxRaidSubGroups := ⟨slot.group.toNat, raid.orderly.inside slot member⟩
  have change := subGroupSize_modifySlot found subgroup old
  have own : counted (inSubGroup old) slot = 1 := by
    unfold counted inSubGroup
    exact if_pos (beq_self_eq_true _)
  have before := exact old
  have later := exact' old
  have small : subGroupSize group.memberSlots old ≤ 5 := raid.orderly.atMost old old.isLt
  rw [counted_inSubGroup { slot with group := subgroup } old] at change
  unfold increaseCount at later
  dsimp only at change
  split_ifs at later change with isSame
  · rw [toNat_add_one (by omega)] at later
    omega
  · omega

/-! ## New raids -/

/-- With counters that are right as bytes, everything depends on the members. -/
theorem raidsExact_iff_orderly {group : Group} (alive : group.disbands = 0)
    (isRaid : group.isRaidGroup = true) {counts : SubGroupsCounts}
    (isCounts : group.subGroupsCounts = some counts)
    (bytes : ExactAsBytes counts group.memberSlots) :
    RaidsExact group ↔ Orderly group.memberSlots :=
  ⟨fun exact => (exact alive isRaid).orderly,
    fun orderly _ _ => exactRaid_of_counters isCounts (bytes.exact orderly) orderly⟩

theorem isRaidGroup_convertToRaid (group : Group) : group.convertToRaid.isRaidGroup = true := by
  unfold isRaidGroup convertToRaid initRaidSubGroupsCounter groupTypeRaid
  have bit : Nat.testBit 0x02 1 = true := by decide
  dsimp only
  rw [Nat.testBit_or, bit, Bool.or_true]

theorem raidsExact_convertToRaid_iff {group : Group} (alive : group.disbands = 0) :
    RaidsExact group.convertToRaid ↔ Orderly group.memberSlots :=
  raidsExact_iff_orderly (by exact alive) (isRaidGroup_convertToRaid group) rfl
    (exactAsBytes_foldl group.memberSlots)

theorem isRaidGroup_convertToLFG (group : Group) :
    group.convertToLFG.isRaidGroup = group.isRaidGroup := by
  unfold isRaidGroup convertToLFG groupTypeLFG groupTypeLFGRestricted
  have lfg : Nat.testBit 0x08 1 = false := by decide
  have restricted : Nat.testBit 0x04 1 = false := by decide
  dsimp only
  rw [Nat.testBit_or, Nat.testBit_or, lfg, restricted, Bool.or_false, Bool.or_false]

/-- The members of a group that is loaded, while its counters keep up as bytes. -/
theorem exactAsBytes_load (isKnown : ObjectGuid → Bool) (members : List MemberRow)
    {group : Group} {counts : SubGroupsCounts} (isCounts : group.subGroupsCounts = some counts)
    (bytes : ExactAsBytes counts group.memberSlots) :
    ∃ loaded, (members.foldl (loadMemberFromDB isKnown) group).subGroupsCounts = some loaded ∧
      ExactAsBytes loaded (members.foldl (loadMemberFromDB isKnown) group).memberSlots := by
  induction members generalizing group counts with
  | nil => exact ⟨counts, isCounts, bytes⟩
  | cons row rest induction =>
      rw [List.foldl_cons]
      by_cases known : isKnown row.memberGuid = true
      · let member : MemberSlot := ⟨row.memberGuid, row.subgroup, row.memberFlags⟩
        have next : loadMemberFromDB isKnown group row =
            { group with
              memberSlots := group.memberSlots ++ [member]
              subGroupsCounts := some (increaseCount counts row.subgroup) } := by
          unfold loadMemberFromDB subGroupCounterIncrease
          rw [known, isCounts]
          rfl
        rw [next]
        apply induction rfl
        intro index
        dsimp only
        rw [subGroupSize_append, counted_inSubGroup]
        unfold increaseCount
        rw [bytes index]
        split_ifs
        · rw [UInt8.ofNat_add]
          rfl
        · rfl
      · have next : loadMemberFromDB isKnown group row = group := by
          unfold loadMemberFromDB
          rw [Bool.eq_false_iff.mpr known]
          rfl
        rw [next]
        exact induction isCounts bytes

theorem load_unchanged (isKnown : ObjectGuid → Bool) (members : List MemberRow) (group : Group) :
    (members.foldl (loadMemberFromDB isKnown) group).groupType = group.groupType ∧
      (members.foldl (loadMemberFromDB isKnown) group).disbands = group.disbands := by
  induction members generalizing group with
  | nil => exact ⟨rfl, rfl⟩
  | cons row rest induction =>
      rw [List.foldl_cons, (induction _).1, (induction _).2]
      unfold loadMemberFromDB
      split_ifs <;> exact ⟨rfl, rfl⟩

theorem loadGroupFromDB_counters (isKnown : ObjectGuid → Bool) (looting : Looting)
    (row : GroupRow) :
    (loadGroupFromDB isKnown looting row).disbands = 0 ∧
      ((loadGroupFromDB isKnown looting row).isRaidGroup = true →
        (loadGroupFromDB isKnown looting row).subGroupsCounts = some fun _ => 0) := by
  unfold loadGroupFromDB
  dsimp only
  split_ifs with unknown raid
  · exact ⟨rfl, fun isRaid => absurd isRaid (by simp [isRaidGroup, new])⟩
  · exact ⟨rfl, fun _ => rfl⟩
  · exact ⟨rfl, fun isRaid => absurd isRaid raid⟩

theorem counters_initIfRaid {group : Group} (slots : group.memberSlots = []) :
    (if group.isRaidGroup then group.initRaidSubGroupsCounter else group).isRaidGroup = true →
      (if group.isRaidGroup then group.initRaidSubGroupsCounter else group).subGroupsCounts =
        some fun _ => 0 := by
  split_ifs with raid
  · intro _
    unfold initRaidSubGroupsCounter
    rw [slots]
    rfl
  · exact fun isRaid => absurd isRaid raid

theorem Starts.raidsExact_iff {start : Group} (starts : Starts start) :
    RaidsExact start ↔ (start.isRaidGroup = true → Orderly start.memberSlots) := by
  cases starts with
  | created bgGroup bfGroup looting leader inGroup =>
      have ready : ∀ prepared : Group, prepared.memberSlots = [] →
          (prepared.isRaidGroup = true → prepared.subGroupsCounts = some fun _ => 0) →
            ((prepared.addMember leader inGroup).2.isRaidGroup = true →
              ExactRaid (prepared.addMember leader inGroup).2) := by
        intro prepared slots counters isRaid
        have type : (prepared.addMember leader inGroup).2.groupType = prepared.groupType := by
          cases free : prepared.freeSubGroup with
          | none => rw [addMember_of_full free]
          | some subgroup => exact (addMember_of_free free leader inGroup).2.2.2.1
        have isCounts := counters (by unfold isRaidGroup at isRaid ⊢; rwa [type] at isRaid)
        have empty : Orderly prepared.memberSlots := by
          rw [slots]
          exact ⟨by simp, fun subgroup _ => Nat.zero_le _⟩
        have exact : Exact (fun _ => 0) prepared.memberSlots := by
          rw [slots]
          exact fun _ => rfl
        exact (exactRaid_of_counters isCounts exact empty).addMember leader inGroup
      have raids : ((new bgGroup bfGroup looting).create leader inGroup).2.isRaidGroup = true →
          ExactRaid ((new bgGroup bfGroup looting).create leader inGroup).2 := by
        unfold create
        dsimp only
        apply ready
        · dsimp only
          split_ifs <;> rfl
        · apply counters_initIfRaid
          split_ifs <;> rfl
      exact ⟨fun _ isRaid => (raids isRaid).orderly, fun _ _ isRaid => raids isRaid⟩
  | loaded isKnown looting row members =>
      obtain ⟨slots, -⟩ := loadGroupFromDB_fields isKnown looting row
      obtain ⟨alive, counters⟩ := loadGroupFromDB_counters isKnown looting row
      obtain ⟨type, disbands⟩ :=
        load_unchanged isKnown members (loadGroupFromDB isKnown looting row)
      have isAlive : (load isKnown looting row members).disbands = 0 := disbands.trans alive
      have raid : (load isKnown looting row members).isRaidGroup = true →
          (RaidsExact (load isKnown looting row members) ↔
            Orderly (load isKnown looting row members).memberSlots) := by
        intro isRaid
        have wasRaid : (loadGroupFromDB isKnown looting row).isRaidGroup = true := by
          unfold isRaidGroup load at *
          rwa [type] at isRaid
        obtain ⟨loaded, isLoaded, bytes⟩ :=
          exactAsBytes_load isKnown members (counters wasRaid) (by
            rw [slots]
            exact fun _ => rfl)
        exact raidsExact_iff_orderly isAlive isRaid isLoaded bytes
      exact ⟨fun exact isRaid => (raid isRaid).mp exact,
        fun orderly alive isRaid => (raid isRaid).mpr (orderly isRaid) alive isRaid⟩

/-! ## Runs -/

/--
What keeps the counters exact: only orderly groups become raids, and nobody in
a raid is moved by `_setMembersGroup`.
-/
def KeepsExact (group : Group) : Event → Prop
  | .convertToRaid => group.disbands = 0 → Orderly group.memberSlots
  | .setMembersGroup guid _ =>
      group.disbands = 0 → group.isRaidGroup = true → group.isMember guid = false
  | _ => True

theorem raidsExact_addMember {group : Group} (exact : RaidsExact group) (guid : ObjectGuid)
    (inGroup : Bool) : RaidsExact (group.addMember guid inGroup).2 := by
  intro alive isRaid
  cases free : group.freeSubGroup with
  | none =>
      rw [addMember_of_full free] at alive isRaid ⊢
      exact exact alive isRaid
  | some subgroup =>
      obtain ⟨-, -, -, type, disbands⟩ := addMember_of_free free guid inGroup
      have raid : group.isRaidGroup = true := by
        unfold isRaidGroup at isRaid ⊢
        rwa [type] at isRaid
      exact (exact (disbands ▸ alive) raid).addMember guid inGroup

theorem raidsExact_setMembersGroup_iff {group : Group} (exact : RaidsExact group)
    (alive : group.disbands = 0) (guid : ObjectGuid) (subgroup : UInt8) :
    RaidsExact (group.setMembersGroup guid subgroup) ↔
      (group.isRaidGroup = true → group.isMember guid = false) := by
  cases found : group.memberSlot guid with
  | none =>
      have same : group.setMembersGroup guid subgroup = group := by
        unfold Group.setMembersGroup
        rw [found]
      rw [same]
      exact iff_of_true exact fun _ => by simp [isMember, found]
  | some slot =>
      have kept : (group.setMembersGroup guid subgroup).disbands = group.disbands ∧
          (group.setMembersGroup guid subgroup).isRaidGroup = group.isRaidGroup := by
        unfold Group.setMembersGroup
        rw [found]
        exact ⟨rfl, rfl⟩
      constructor
      · intro after isRaid
        exact absurd (after (kept.1.trans alive) (kept.2.trans isRaid))
          (not_exactRaid_setMembersGroup (exact alive isRaid) found subgroup)
      · intro noRaid _ isRaid
        have notMember := noRaid (kept.2 ▸ isRaid)
        simp [isMember, found] at notMember

theorem step_raidsExact_iff {group : Group} (exact : RaidsExact group) (event : Event) :
    RaidsExact (group.step event) ↔ KeepsExact group event := by
  unfold Group.step
  split_ifs with deleted
  · refine iff_of_true exact ?_
    cases event <;> first | trivial | exact fun alive => absurd alive (by omega)
  have alive : group.disbands = 0 := by omega
  cases event with
  | convertToRaid =>
      exact (raidsExact_convertToRaid_iff alive).trans ⟨fun orderly _ => orderly,
        fun orderly => orderly alive⟩
  | setMembersGroup guid subgroup =>
      exact (raidsExact_setMembersGroup_iff exact alive guid subgroup).trans
        ⟨fun noRaid _ => noRaid, fun noRaid => noRaid alive⟩
  | addMember guid inGroup => exact iff_of_true (raidsExact_addMember exact guid inGroup) trivial
  | removeMember surroundings guid method =>
      exact iff_of_true (exact.removeMember surroundings guid method) trivial
  | changeLeader surroundings guid =>
      obtain ⟨groups, counters⟩ := groups_changeLeader surroundings group guid
      obtain ⟨type, -, -, disbands, -⟩ := changeLeader_fields surroundings group guid
      exact iff_of_true (exact.of_groups (fun after => disbands ▸ after)
        (congrArg (Nat.testBit · 1) type) counters groups) trivial
  | changeSubGroup sender guid groupNr =>
      exact iff_of_true (exact.handleGroupChangeSubGroupOpcode sender guid groupNr) trivial
  | convertToLFG =>
      exact iff_of_true (exact.of_groups id (isRaidGroup_convertToLFG group) rfl rfl) trivial
  | setMasterLooterGuid guid => exact iff_of_true (exact.of_groups id rfl rfl rfl) trivial
  | link source original => exact iff_of_true (exact.of_groups id rfl rfl rfl) trivial
  | unlink source original => exact iff_of_true (exact.of_groups id rfl rfl rfl) trivial
  | groupLoot nearby contents => exact iff_of_true (exact.of_groups id rfl rfl rfl) trivial
  | needBeforeGreed nearby contents => exact iff_of_true (exact.of_groups id rfl rfl rfl) trivial
  | countRollVote luck player itemGUID choice =>
      exact iff_of_true (exact.of_groups id rfl rfl rfl) trivial
  | endRoll luck loot => exact iff_of_true (exact.of_groups id rfl rfl rfl) trivial

/--
The counters of a raid are exact in every state of a run exactly if what was
loaded is orderly and every step keeps them exact.
-/
theorem raidsExact_throughout_iff {start : Group} (starts : Starts start)
    (events : List Event) :
    Throughout step RaidsExact start events ↔
      (start.isRaidGroup = true → Orderly start.memberSlots) ∧
        EveryStep step KeepsExact start events := by
  rw [← starts.raidsExact_iff]
  have steps : ∀ (group : Group) (event : Event), True → RaidsExact group →
      (RaidsExact (group.step event) ↔ KeepsExact group event) :=
    fun _ event _ exact => step_raidsExact_iff exact event
  have exactly : RaidsExact start →
      (Throughout step RaidsExact start events ↔ EveryStep step KeepsExact start events) :=
    fun exact => throughout_iff_everyStep (fun _ _ _ => trivial) steps trivial exact
  exact ⟨fun holds => ⟨holds.head, (exactly holds.head).mp holds⟩,
    fun ⟨exact, keeps⟩ => (exactly exact).mpr keeps⟩

/-- A party becomes a raid, and its leader moves the second member. -/
theorem raidsExact_newRaid :
    Throughout step RaidsExact founded
      [.addMember 2 false, .convertToRaid, .changeSubGroup 1 2 3, .convertToRaid] := by
  refine (raidsExact_throughout_iff founded_starts _).mpr
    ⟨fun isRaid => absurd isRaid (by decide), trivial, fun _ => ⟨?_, ?_⟩, trivial,
      fun _ => ⟨?_, ?_⟩, trivial⟩
  all_goals decide

/-- The second member was stored with the sub group behind the last one. -/
theorem loadedRaid_not_raidsExact :
    ¬Throughout step RaidsExact
      (load (fun _ => true) (.fresh 1) ⟨1, 2, 2, 0⟩ [⟨1, 0, 0⟩, ⟨2, 0, 8⟩]) [] := by
  intro exact
  have inside := (exact rfl rfl).orderly.inside ⟨2, 8, 0⟩ (by decide)
  exact absurd inside (by decide)

end Group

end RealmServer.Groups
