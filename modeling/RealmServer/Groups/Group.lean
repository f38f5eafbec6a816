import RealmServer.Groups.Rolls

/-!
# Groups

A `Group` lists its members in slots and keeps three things in step with them:
the counters of the raid sub groups, the leader, and the references of the
players who are connected.  Removing a member may disband it, at three
different places.
-/

namespace RealmServer.Groups

open Table

/-- The macro `MAX_RAID_SUBGROUPS`. -/
def maxRaidSubGroups : Nat := maxRaidSize / maxGroupSize

/-! ## Bits of `GroupType` and of the member flags -/

def groupTypeBGRaid : Nat := 0x01 ||| 0x02

def groupTypeRaid : Nat := 0x02

def groupTypeLFGRestricted : Nat := 0x04

def groupTypeLFG : Nat := 0x08

def memberFlagAssistant : UInt8 := 0x01

inductive RemoveMethod where
  | default
  | kick
  | leave
  | kickLFG
deriving DecidableEq, Repr

structure MemberSlot where
  guid : ObjectGuid
  group : UInt8
  flags : UInt8
deriving DecidableEq, Repr

/-- A `GroupReference`: the `m_group` or the `m_originalGroup` of a player. -/
structure MemberReference where
  source : ObjectGuid
  original : Bool
deriving DecidableEq, Repr

/-- `m_subGroupsCounts`, once it is allocated. -/
abbrev SubGroupsCounts := Fin maxRaidSubGroups → UInt8

structure Group where
  groupType : Nat
  /-- Whether `m_bgGroup` and `m_bfGroup` are set. -/
  bgGroup : Bool
  bfGroup : Bool
  memberSlots : List MemberSlot
  /-- `m_memberMgr`, the latest reference first. -/
  memberMgr : List MemberReference
  subGroupsCounts : Option SubGroupsCounts
  leaderGuid : ObjectGuid
  masterLooterGuid : ObjectGuid
  lootThreshold : Nat
  /-- `RollId`. -/
  looting : Looting
  /-- How often `Disband` ran; it ends with `delete this`. -/
  disbands : Nat

/-- The world around a group while a member is removed. -/
structure Surroundings where
  /-- `FindConnectedPlayer`. -/
  isConnected : ObjectGuid → Bool
  /-- `sLFGMgr->GetDungeonMapId`. -/
  dungeonMapId : Nat
  isAlive : ObjectGuid → Bool
  mapId : ObjectGuid → Nat
  luck : Luck

namespace Group

def isLFGGroup (group : Group) : Bool := group.groupType.testBit 3

def isRaidGroup (group : Group) : Bool := group.groupType.testBit 1

def isBGGroup (group : Group) : Bool := group.bgGroup

def isBFGroup (group : Group) : Bool := group.bfGroup

def membersCount (group : Group) : Nat := group.memberSlots.length

/-- `_getMemberWSlot`; the list may hold a guid more than once. -/
def memberSlot (group : Group) (guid : ObjectGuid) : Option MemberSlot :=
  group.memberSlots.find? fun slot => slot.guid == guid

def isMember (group : Group) (guid : ObjectGuid) : Bool :=
  (group.memberSlot guid).isSome

def isLeader (group : Group) (guid : ObjectGuid) : Bool :=
  group.leaderGuid == guid

def isAssistant (group : Group) (guid : ObjectGuid) : Bool :=
  (group.memberSlot guid).any fun slot => slot.flags &&& memberFlagAssistant != 0

def isFull (group : Group) : Bool :=
  if group.isRaidGroup then decide (maxRaidSize ≤ group.membersCount)
  else decide (maxGroupSize ≤ group.membersCount)

/-- The change of the slot which `_getMemberWSlot` finds. -/
def modifySlot (group : Group) (guid : ObjectGuid) (change : MemberSlot → MemberSlot) : Group :=
  { group with
    memberSlots := group.memberSlots.modify
      (group.memberSlots.findIdx fun slot => slot.guid == guid) change }

/-! ## Sub groups -/

/--
`++m_subGroupsCounts[subgroup]`.  An index past the end writes behind the
array, which none of the counters shows.
-/
def increaseCount (counts : SubGroupsCounts) (subgroup : UInt8) : SubGroupsCounts :=
  fun index => if index.val = subgroup.toNat then counts index + 1 else counts index

def decreaseCount (counts : SubGroupsCounts) (subgroup : UInt8) : SubGroupsCounts :=
  fun index => if index.val = subgroup.toNat then counts index - 1 else counts index

def subGroupCounterIncrease (group : Group) (subgroup : UInt8) : Group :=
  { group with subGroupsCounts := group.subGroupsCounts.map (increaseCount · subgroup) }

def subGroupCounterDecrease (group : Group) (subgroup : UInt8) : Group :=
  { group with subGroupsCounts := group.subGroupsCounts.map (decreaseCount · subgroup) }

/-- `_initRaidSubGroupsCounter`, for an old array as for a new one. -/
def initRaidSubGroupsCounter (group : Group) : Group :=
  { group with
    subGroupsCounts := some (group.memberSlots.foldl
      (fun counts slot => increaseCount counts slot.group) fun _ => 0) }

/-- The first sub group with room, where the counters are there. -/
def firstNotFull (counts : SubGroupsCounts) : Option (Fin maxRaidSubGroups) :=
  (List.finRange maxRaidSubGroups).find? fun index => (counts index).toNat < maxGroupSize

/-- The sub group of a new member, none where every one is full. -/
def freeSubGroup (group : Group) : Option UInt8 :=
  match group.subGroupsCounts with
  | none => some 0
  | some counts => (firstNotFull counts).map fun index => UInt8.ofNat index.val

def hasFreeSlotSubGroup (group : Group) (subgroup : UInt8) : Bool :=
  match group.subGroupsCounts with
  | none => false
  | some counts =>
      -- the handler has checked the index
      if inside : subgroup.toNat < maxRaidSubGroups then
        decide ((counts ⟨subgroup.toNat, inside⟩).toNat < maxGroupSize)
      else false

/-! ## References -/

/-- `link` with `LinkMember`. -/
def linkMember (group : Group) (source : ObjectGuid) (original : Bool) : Group :=
  { group with
    memberMgr := ⟨source, original⟩ :: group.memberMgr.filter (· ≠ ⟨source, original⟩) }

/-- `unlink` of one of the two references of a player. -/
def unlinkMember (group : Group) (source : ObjectGuid) (original : Bool) : Group :=
  { group with memberMgr := group.memberMgr.filter (· ≠ ⟨source, original⟩) }

/-- `DelinkMember`. -/
def delinkMember (group : Group) (guid : ObjectGuid) : Group :=
  { group with memberMgr := group.memberMgr.eraseP fun reference => reference.source == guid }

/-- The player's `m_originalGroup` is this group. -/
def isOriginalGroup (group : Group) (guid : ObjectGuid) : Bool :=
  group.memberMgr.contains ⟨guid, true⟩

/--
`Player::RemoveFromBattlegroundOrBattlefieldRaid`.  If the player left this
group for another raid, it is the group he comes back to.
-/
def removeFromRaid (group : Group) (guid : ObjectGuid) : Group :=
  if group.isOriginalGroup guid then
    ((group.unlinkMember guid false).linkMember guid false).unlinkMember guid true
  else group.unlinkMember guid false

/-- The references of a player who leaves. -/
def unsetGroup (group : Group) (guid : ObjectGuid) : Group :=
  if group.isBGGroup || group.isBFGroup then group.removeFromRaid guid
  else if group.isOriginalGroup guid then group.unlinkMember guid true
  else group.unlinkMember guid false

/-- The references of a player who joins; `inGroup` tells whether he is in a group. -/
def setGroup (group : Group) (guid : ObjectGuid) (inGroup : Bool) : Group :=
  if inGroup then
    if group.isBGGroup || group.isBFGroup then
      -- `m_group` moves to `m_originalGroup`, which may be this group as well
      let moved :=
        if group.memberMgr.contains ⟨guid, false⟩ then group.linkMember guid true
        else group.unlinkMember guid true
      (moved.unlinkMember guid false).linkMember guid false
    else group.linkMember guid true
  else group.linkMember guid false

/-! ## Members -/

/-- `AddMember` of a connected player, with its result. -/
def addMember (group : Group) (guid : ObjectGuid) (inGroup : Bool) : Bool × Group :=
  match group.freeSubGroup with
  | none => (false, group)
  | some subGroup =>
      let member : MemberSlot := ⟨guid, subGroup, 0⟩
      let joined := { group with memberSlots := group.memberSlots ++ [member] }
      (true, (joined.subGroupCounterIncrease subGroup).setGroup guid inGroup)

/-- `Group::Group` with the owner which is set before `Create`. -/
def new (bgGroup bfGroup : Bool) (looting : Looting) : Group where
  groupType := 0
  bgGroup
  bfGroup
  memberSlots := []
  memberMgr := []
  subGroupsCounts := none
  leaderGuid := 0
  masterLooterGuid := 0
  lootThreshold := 2
  looting
  disbands := 0

def create (group : Group) (leader : ObjectGuid) (inGroup : Bool) : Bool × Group :=
  let group := { group with leaderGuid := leader }
  let group :=
    if group.isBGGroup || group.isBFGroup then { group with groupType := groupTypeBGRaid }
    else group
  let group := if group.isRaidGroup then group.initRaidSubGroupsCounter else group
  { group with lootThreshold := 2, masterLooterGuid := 0 }.addMember leader inGroup

def convertToLFG (group : Group) : Group :=
  { group with groupType := group.groupType ||| groupTypeLFG ||| groupTypeLFGRestricted }

def convertToRaid (group : Group) : Group :=
  { group with groupType := group.groupType ||| groupTypeRaid }.initRaidSubGroupsCounter

/-- A row of `groups`. -/
structure GroupRow where
  leaderGuid : ObjectGuid
  lootThreshold : Nat
  groupType : UInt8
  masterLooterGuid : ObjectGuid

/-- A row of `group_member`. -/
structure MemberRow where
  memberGuid : ObjectGuid
  memberFlags : UInt8
  subgroup : UInt8

/-- `LoadGroupFromDB`; `isKnown` is `PlayerCache::Exists`. -/
def loadGroupFromDB (isKnown : ObjectGuid → Bool) (looting : Looting) (row : GroupRow) : Group :=
  let group := { new false false looting with leaderGuid := row.leaderGuid }
  if !isKnown row.leaderGuid then group
  else
    let group := { group with
      lootThreshold := row.lootThreshold
      groupType := row.groupType.toNat
      masterLooterGuid := row.masterLooterGuid }
    if group.isRaidGroup then group.initRaidSubGroupsCounter else group

def loadMemberFromDB (isKnown : ObjectGuid → Bool) (group : Group) (row : MemberRow) : Group :=
  if !isKnown row.memberGuid then group
  else
    let member : MemberSlot := ⟨row.memberGuid, row.subgroup, row.memberFlags⟩
    { group with memberSlots := group.memberSlots ++ [member] }.subGroupCounterIncrease
      row.subgroup

/-- `LoadGroups` for one group. -/
def load (isKnown : ObjectGuid → Bool) (looting : Looting) (row : GroupRow)
    (members : List MemberRow) : Group :=
  members.foldl (loadMemberFromDB isKnown) (loadGroupFromDB isKnown looting row)

/-- `_setMembersGroup`. -/
def setMembersGroup (group : Group) (guid : ObjectGuid) (subgroup : UInt8) : Group :=
  match group.memberSlot guid with
  | none => group
  | some _ =>
      (group.modifySlot guid fun slot => { slot with group := subgroup }).subGroupCounterIncrease
        subgroup

def changeMembersGroup (group : Group) (guid : ObjectGuid) (subgroup : UInt8) : Group :=
  if !group.isRaidGroup then group
  else
    match group.memberSlot guid with
    | none => group
    | some slot =>
        if slot.group = subgroup then group
        else
          ((group.modifySlot guid fun slot => { slot with group := subgroup }
            ).subGroupCounterIncrease subgroup).subGroupCounterDecrease slot.group

/-- `HandleGroupChangeSubGroupOpcode`. -/
def handleGroupChangeSubGroupOpcode (group : Group) (sender guid : ObjectGuid)
    (groupNr : UInt8) : Group :=
  if maxRaidSubGroups ≤ groupNr.toNat then group
  else if !group.isLeader sender && !group.isAssistant sender then group
  else if !group.hasFreeSlotSubGroup groupNr then group
  else group.changeMembersGroup guid groupNr

def changeLeader (surroundings : Surroundings) (group : Group) (newLeaderGuid : ObjectGuid) :
    Group :=
  match group.memberSlot newLeaderGuid with
  | none => group
  | some _ =>
      -- Don't allow switching leader to offline players
      if !surroundings.isConnected newLeaderGuid then group
      else
        { group with leaderGuid := newLeaderGuid }.modifySlot newLeaderGuid fun slot =>
          { slot with flags := slot.flags &&& ~~~memberFlagAssistant }

/-- `Disband` up to `delete this`, which cuts the references that are left. -/
def disband (group : Group) : Group :=
  { group with
    memberSlots := []
    memberMgr := []
    looting := { group.looting with rolls := [] }
    disbands := group.disbands + 1 }

/-! ## `RemoveMember` -/

/-- The references, the player's own ones first. -/
def removeReferences (surroundings : Surroundings) (group : Group) (guid : ObjectGuid) : Group :=
  let group := if surroundings.isConnected guid then group.unsetGroup guid else group
  if !group.isBGGroup && !group.isBFGroup then group.delinkMember guid else group

/-- Update subgroups. -/
def removeSlot (group : Group) (guid : ObjectGuid) : Group :=
  match group.memberSlot guid with
  | none => group
  | some slot =>
      let group := group.subGroupCounterDecrease slot.group
      { group with memberSlots := group.memberSlots.eraseP fun slot => slot.guid == guid }

/-- Pick new leader if necessary. -/
def pickLeader (surroundings : Surroundings) (group : Group) (guid : ObjectGuid) : Group :=
  if group.leaderGuid ≠ guid then group
  else
    match group.memberSlots.find? fun slot => surroundings.isConnected slot.guid with
    | none => group
    | some slot => group.changeLeader surroundings slot.guid

def replaceMasterLooter (group : Group) (guid : ObjectGuid) : Group :=
  if group.masterLooterGuid = guid then { group with masterLooterGuid := group.leaderGuid }
  else group

/-- What `RemoveMember` does to a group which has members left. -/
def withoutMember (surroundings : Surroundings) (group : Group) (guid : ObjectGuid) : Group :=
  let group := group.removeReferences surroundings guid
  let group := { group with looting := group.looting.removeFromRolls surroundings.luck guid }
  ((group.removeSlot guid).pickLeader surroundings guid).replaceMasterLooter guid

/-- The last one of an LFG group is not in the dungeon, or not connected. -/
def leftDungeon (surroundings : Surroundings) (group : Group) : Bool :=
  group.isLFGGroup && group.membersCount == 1 &&
    (surroundings.dungeonMapId == 0 || !surroundings.isConnected group.leaderGuid ||
      (surroundings.isAlive group.leaderGuid &&
        surroundings.mapId group.leaderGuid != surroundings.dungeonMapId))

/-- More members than that must be there before the removal. -/
def sizeToKeep (group : Group) : Nat :=
  if group.isBGGroup || group.isLFGGroup || group.isBFGroup then 1 else 2

/-- As many references must be left after the removal. -/
def referencesToKeep (group : Group) : Nat :=
  if group.isLFGGroup || group.isBGGroup then 1 else 2

/-- LFG group vote kick handled in scripts. -/
def startsVote (group : Group) (method : RemoveMethod) : Bool :=
  group.isLFGGroup && method == .kick

def removeMember (surroundings : Surroundings) (group : Group) (guid : ObjectGuid)
    (method : RemoveMethod) : Bool × Group :=
  if group.startsVote method then (!group.memberSlots.isEmpty, group)
  else if group.sizeToKeep < group.membersCount then
    let group := group.withoutMember surroundings guid
    if group.leftDungeon surroundings then (false, group.disband)
    else if group.memberMgr.length < group.referencesToKeep then (true, group.disband)
    else (true, group)
  else (false, group.disband)

end Group

end RealmServer.Groups
