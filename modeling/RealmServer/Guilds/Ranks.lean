import RealmServer.Lib.Transition
import RealmServer.Guilds.RosterBounds

/-!
# The guild ranks

A rank is known three ways: by its place in `m_ranks`, by the id in its record
and by its row, and members refer to it by number.  `RanksHold` says that the
three agree and that no member refers to a rank which does not exist.

`Validate` compares with `>` where the number of ranks is already out of range,
and removing the lowest rank does not look at the members who hold it.  Every
other operation keeps `RanksHold`, and changes the rights only of the members
and the rank it names.
-/

namespace RealmServer.Guilds

open Table Transition

/-- Every member's rank exists, and records and rows are numbered in order. -/
structure RanksValid (roster : Roster) : Prop where
  member : ∀ member ∈ roster.members, member.rankId < roster.ranks.length
  ids : roster.ranks.map RankInfo.rankId = List.range roster.ranks.length
  rows : roster.rows.ranks = roster.ranks

/-- What else a restart relies on. -/
structure RowsAgree (roster : Roster) : Prop where
  leader : roster.rows.leaderGuid = some roster.leaderGuid
  members : roster.rows.members = roster.members
  known : ∀ member ∈ roster.members, member.guid ∈ roster.characters
  masterRights : ∀ rankInfo ∈ roster.ranks, rankInfo.rankId = grGuildmaster →
    rankInfo.rights ||| grRightAll = rankInfo.rights

structure RanksHold (roster : Roster) : Prop extends
  RanksValid roster, RowsAgree roster

/-- Nothing is said about the ranks of the members. -/
structure Repaired (count : Nat) (roster : Roster) : Prop extends RowsAgree roster where
  count : roster.ranks.length = count
  ids : roster.ranks.map RankInfo.rankId = List.range roster.ranks.length
  rows : roster.rows.ranks = roster.ranks

theorem RanksHold.repaired {roster : Roster} (holds : RanksHold roster) :
    Repaired roster.ranks.length roster :=
  ⟨holds.toRowsAgree, rfl, holds.ids, holds.rows⟩

theorem Repaired.holds {count : Nat} {roster : Roster} (repaired : Repaired count roster)
    (member : ∀ member ∈ roster.members, member.rankId < roster.ranks.length) :
    RanksHold roster :=
  ⟨⟨member, repaired.ids, repaired.rows⟩, repaired.toRowsAgree⟩

def HasValidRanks (roster : Roster) : Prop :=
  roster.disbanded = true ∨ RanksValid roster

/-- The members whose rank or rights an event is about. -/
def GuildEvent.names (event : GuildEvent) (roster : Roster) (member : Member) : Prop :=
  match event with
  | .setLeader player target => member.guid = player ∨ member.guid = target
  | .updateMemberRank _ target _ => member.guid = target
  | .changeMemberRank guid _ => member.guid = guid
  | .removeLowestRank _ => member.rankId = roster.getLowestRankId
  | .setRankInfo _ rankId _ _ _ => member.rankId = rankId
  | .deleteMember guid _ | .deleteCharacter guid => guid = roster.leaderGuid
  | _ => False

/-- Members who stay and are not named keep their rights. -/
def Keeps (named : Member → Prop) (roster next : Roster) : Prop :=
  ∀ before ∈ roster.members, ∀ after ∈ next.members,
    after.guid = before.guid → ¬ named before →
      next.getRankRights after.rankId = roster.getRankRights before.rankId

def RightsKept (environment : GuildEnvironment) (roster : Roster) (event : GuildEvent) :
    Prop :=
  Keeps (event.names roster) roster (step environment roster event)

/-! ## Numbered records -/

theorem getElem_rankId {ranks : List RankInfo}
    (ids : ranks.map RankInfo.rankId = List.range ranks.length)
    {index : Nat} (inside : index < ranks.length) : ranks[index].rankId = index := by
  have same := congrArg (·[index]?) ids
  simpa [inside] using same

theorem rankId_lt {ranks : List RankInfo}
    (ids : ranks.map RankInfo.rankId = List.range ranks.length)
    {rankInfo : RankInfo} (member : rankInfo ∈ ranks) :
    rankInfo.rankId < ranks.length := by
  have inside : rankInfo.rankId ∈ ranks.map RankInfo.rankId :=
    List.mem_map_of_mem member
  rw [ids] at inside
  exact List.mem_range.mp inside

/-- `rid >= rankId` and `pop_back` remove the same rank. -/
theorem filter_eq_dropLast {ranks : List RankInfo}
    (ids : ranks.map RankInfo.rankId = List.range ranks.length) :
    ranks.filter (fun row => row.rankId < ranks.length - 1) = ranks.dropLast := by
  rcases List.eq_nil_or_concat ranks with rfl | ⟨init, last, rfl⟩
  · rfl
  · simp only [List.concat_eq_append, List.length_append, List.length_singleton,
      Nat.add_sub_cancel, List.dropLast_concat]
    simp only [List.concat_eq_append, List.map_append, List.map_cons, List.map_nil,
      List.length_append, List.length_singleton, List.range_succ] at ids
    obtain ⟨initIds, lastId⟩ := List.append_inj ids (by simp)
    rw [List.filter_append]
    have initKept : init.filter (fun row => row.rankId < init.length) = init := by
      rw [List.filter_eq_self]
      intro row member
      exact decide_eq_true (rankId_lt initIds member)
    have lastGone : [last].filter (fun row => row.rankId < init.length) = [] := by
      simpa using (List.cons.inj lastId).1.ge
    rw [initKept, lastGone, List.append_nil]

/-- Index and id name the same record. -/
theorem modify_eq_modify {ranks : List RankInfo}
    (ids : ranks.map RankInfo.rankId = List.range ranks.length)
    (rankId : Nat) (change : RankInfo → RankInfo) :
    Table.modify RankInfo.rankId ranks rankId change = ranks.modify rankId change := by
  apply List.ext_getElem
  · simp [Table.modify]
  · intro index left right
    have inside : index < ranks.length := by simpa [Table.modify] using left
    have id := getElem_rankId ids inside
    simp only [Table.modify, List.getElem_map, List.getElem_modify, id, eq_comm]

/-- A number in range finds its record. -/
theorem getRankInfo_eq {roster : Roster} (bounded : Bounded roster) (rankId : Nat) :
    roster.getRankInfo rankId = roster.ranks[rankId]? := by
  rw [Roster.getRankInfo, bounded.getRanksSize]
  split_ifs with inside
  · rfl
  · exact (List.getElem?_eq_none (Nat.le_of_not_lt inside)).symm

/-- Rights depend on the records alone. -/
theorem getRankRights_eq {roster : Roster} (bounded : Bounded roster) (rankId : Nat) :
    roster.getRankRights rankId =
      (roster.ranks[rankId]?.map RankInfo.rights).getD 0 := by
  rw [Roster.getRankRights, getRankInfo_eq bounded]
  cases roster.ranks[rankId]? <;> rfl

/-! ## Keeping rights -/

section Keeps

variable {named : Member → Prop} {roster next : Roster}

/-- Where the guids are different, members who stay are the same members. -/
theorem keeps_of_subset (keys : (roster.members.map Member.guid).Nodup)
    (members : next.members ⊆ roster.members)
    (rights : ∀ member ∈ roster.members, ¬ named member →
      next.getRankRights member.rankId = roster.getRankRights member.rankId) :
    Keeps named roster next := by
  intro before present after remains same unnamed
  have found := find_of_mem keys (members remains)
  rw [same, find_of_mem keys present] at found
  obtain rfl := Option.some.inj found
  exact rights before present unnamed

theorem Keeps.refl (keys : (roster.members.map Member.guid).Nodup) :
    Keeps named roster roster :=
  keeps_of_subset keys (List.Subset.refl _) fun _ _ _ => rfl

theorem keeps_of_nil (members : next.members = []) : Keeps named roster next := by
  intro before present after remains
  simp [members] at remains

/-- Two steps which do not name a guid. -/
theorem Keeps.trans (named : Nat → Prop) {first second third : Roster}
    (left : Keeps (fun member => named member.guid) first second)
    (right : Keeps (fun member => named member.guid) second third)
    (middle : ∀ member ∈ third.members, ∃ old ∈ second.members, old.guid = member.guid) :
    Keeps (fun member => named member.guid) first third := by
  intro before present after remains same unnamed
  obtain ⟨old, oldPresent, oldSame⟩ := middle after remains
  have guid : old.guid = before.guid := oldSame.trans same
  have oldUnnamed : ¬ named old.guid := guid ▸ unnamed
  rw [right old oldPresent after remains oldSame.symm oldUnnamed]
  exact left before present old oldPresent guid unnamed

theorem Keeps.mono {wider : Member → Prop} (keeps : Keeps named roster next)
    (within : ∀ member, named member → wider member) : Keeps wider roster next :=
  fun before present after remains same unnamed =>
    keeps before present after remains same fun isNamed => unnamed (within before isNamed)

end Keeps

/-- The guids of the members are those of their rows. -/
theorem RanksHold.keys {roster : Roster} (bounded : Bounded roster)
    (holds : RanksHold roster) : (roster.members.map Member.guid).Nodup := by
  rw [← holds.members]
  exact bounded.memberRows

/-! ## Ranks of members -/

section ChangeRank

variable {roster : Roster} {chosen : Member → Bool} {newRank : Nat}

theorem changeRankWhere_rows
    (keys : (roster.members.map Member.guid).Nodup)
    (rows : roster.rows.members = roster.members) :
    (roster.changeRankWhere chosen newRank).rows.members =
      (roster.changeRankWhere chosen newRank).members := by
  unfold Roster.changeRankWhere
  dsimp only
  rw [rows]
  apply List.map_congr_left
  intro row present
  have same : (roster.members.any fun member =>
      chosen member && member.guid == row.guid) = chosen row := by
    rw [Bool.eq_iff_iff, List.any_eq_true]
    constructor
    · rintro ⟨member, memberPresent, both⟩
      rw [Bool.and_eq_true, beq_iff_eq] at both
      have found := find_of_mem keys memberPresent
      rw [both.2, find_of_mem keys present] at found
      rw [Option.some.inj found]
      exact both.1
    · intro isChosen
      exact ⟨row, present, by simp [isChosen]⟩
  rw [same]

theorem Repaired.changeRankWhere {count : Nat}
    (keys : (roster.members.map Member.guid).Nodup) (repaired : Repaired count roster) :
    Repaired count (roster.changeRankWhere chosen newRank) where
  __ := repaired
  members := changeRankWhere_rows keys repaired.members
  known := by
    intro member present
    obtain ⟨old, oldPresent, rfl⟩ := mem_changeRankWhere.mp present
    have oldKnown := repaired.known old oldPresent
    split_ifs
    all_goals exact oldKnown

/-- The chosen members need not have had a rank. -/
theorem Repaired.changeRankWhere_holds {count : Nat}
    (keys : (roster.members.map Member.guid).Nodup) (repaired : Repaired count roster)
    (exists_ : newRank < roster.ranks.length)
    (others : ∀ member ∈ roster.members, ¬ chosen member = true →
      member.rankId < roster.ranks.length) :
    RanksHold (roster.changeRankWhere chosen newRank) := by
  apply (repaired.changeRankWhere keys).holds
  intro member present
  obtain ⟨old, oldPresent, rfl⟩ := mem_changeRankWhere.mp present
  split_ifs with isChosen
  · exact exists_
  · exact others old oldPresent isChosen

theorem RanksHold.changeRankWhere (bounded : Bounded roster) (holds : RanksHold roster)
    (exists_ : newRank < roster.ranks.length) :
    RanksHold (roster.changeRankWhere chosen newRank) :=
  holds.repaired.changeRankWhere_holds (holds.keys bounded) exists_
    fun member present _ => holds.member member present

theorem changeRankWhere_keeps (keys : (roster.members.map Member.guid).Nodup) :
    Keeps (fun member => chosen member = true) roster
      (roster.changeRankWhere chosen newRank) := by
  intro before present after remains same unnamed
  obtain ⟨old, oldPresent, rfl⟩ := mem_changeRankWhere.mp remains
  have guid : old.guid = before.guid := by
    split_ifs at same
    all_goals exact same
  have found := find_of_mem keys oldPresent
  rw [guid, find_of_mem keys present] at found
  obtain rfl := Option.some.inj found
  rw [if_neg unnamed]
  rfl

/-- Nobody is chosen. -/
theorem changeRankWhere_none (keys : (roster.members.map Member.guid).Nodup)
    (rows : roster.rows.members = roster.members)
    (none : ∀ member ∈ roster.members, chosen member = false) :
    roster.changeRankWhere chosen newRank = roster := by
  have members : (roster.changeRankWhere chosen newRank).members = roster.members := by
    unfold Roster.changeRankWhere
    dsimp only
    rw [List.map_congr_left fun member present => if_neg (by simp [none member present])]
    exact List.map_id' roster.members
  have rowMembers :
      (roster.changeRankWhere chosen newRank).rows.members = roster.rows.members := by
    rw [changeRankWhere_rows keys rows, members, rows]
  unfold Roster.changeRankWhere at members rowMembers ⊢
  dsimp only at members rowMembers
  rw [members, rowMembers]

theorem RanksHold.changeRank (bounded : Bounded roster) (holds : RanksHold roster)
    {guid : Nat} (exists_ : newRank < roster.ranks.length) :
    RanksHold (roster.changeRank guid newRank) :=
  holds.changeRankWhere bounded exists_

theorem changeRank_keeps (bounded : Bounded roster) (holds : RanksHold roster)
    {guid : Nat} :
    Keeps (fun member => member.guid = guid) roster (roster.changeRank guid newRank) :=
  (changeRankWhere_keeps (holds.keys bounded)).mono fun _ isChosen => beq_iff_eq.mp isChosen

end ChangeRank

theorem Repaired.setLeaderGUID {roster : Roster} {count guid : Nat} (bounded : Bounded roster)
    (repaired : Repaired count roster)
    (others : ∀ member ∈ roster.members, member.guid ≠ guid →
      member.rankId < roster.ranks.length) : RanksHold (roster.setLeaderGUID guid) := by
  have minCount := bounded.minCount
  rw [guildRanksMinCount] at minCount
  have exists_ : grGuildmaster < roster.ranks.length := by
    rw [grGuildmaster]
    omega
  have keys : (roster.members.map Member.guid).Nodup := repaired.members ▸ bounded.memberRows
  have ranked : RanksHold (roster.changeRank guid grGuildmaster) :=
    repaired.changeRankWhere_holds keys exists_ fun member present other =>
      others member present fun same => other (beq_iff_eq.mpr same)
  refine { ranked with leader := ?_ }
  have leader := repaired.leader
  show roster.rows.leaderGuid.map _ = _
  rw [leader]
  rfl

theorem RanksHold.setLeaderGUID {roster : Roster} (bounded : Bounded roster)
    (holds : RanksHold roster) (guid : Nat) : RanksHold (roster.setLeaderGUID guid) :=
  holds.repaired.setLeaderGUID bounded fun member present _ => holds.member member present

theorem setLeaderGUID_keeps {roster : Roster} (bounded : Bounded roster)
    (holds : RanksHold roster) (guid : Nat) :
    Keeps (fun member => member.guid = guid) roster (roster.setLeaderGUID guid) :=
  (changeRank_keeps bounded holds :
    Keeps _ roster (roster.changeRank guid grGuildmaster))

theorem RanksHold.handleSetLeader {roster : Roster} (bounded : Bounded roster)
    (holds : RanksHold roster) (player target : Nat) :
    RanksHold (roster.handleSetLeader player target) := by
  have minCount := bounded.minCount
  rw [guildRanksMinCount] at minCount
  unfold Roster.handleSetLeader
  split
  · exact holds
  · split
    · refine (holds.setLeaderGUID bounded _).changeRank (bounded.setLeaderGUID _) ?_
      show grOfficer < roster.ranks.length
      rw [grOfficer]
      omega
    · exact holds

theorem handleSetLeader_keeps {roster : Roster} (bounded : Bounded roster)
    (holds : RanksHold roster) (player target : Nat) :
    Keeps (fun member => member.guid = player ∨ member.guid = target) roster
      (roster.handleSetLeader player target) := by
  have keys := holds.keys bounded
  unfold Roster.handleSetLeader
  split
  · exact Keeps.refl keys
  · split
    · rename_i oldLeader newLeader foundOld foundNew
      have isOld := key_of_find foundOld
      have isNew := key_of_find foundNew
      have first := setLeaderGUID_keeps bounded holds newLeader.guid
      have second : Keeps (fun member => member.guid = oldLeader.guid)
          (roster.setLeaderGUID newLeader.guid)
          ((roster.setLeaderGUID newLeader.guid).changeRank oldLeader.guid grOfficer) :=
        changeRank_keeps (bounded.setLeaderGUID _) (holds.setLeaderGUID bounded _)
      refine Keeps.trans (fun guid => guid = player ∨ guid = target)
        (first.mono ?_) (second.mono ?_) ?_
      · rintro member same
        exact .inr (same.trans isNew)
      · rintro member same
        exact .inl (same.trans isOld)
      · intro member remains
        obtain ⟨old, oldPresent, rfl⟩ := mem_changeRankWhere.mp remains
        refine ⟨old, oldPresent, ?_⟩
        split_ifs
        all_goals rfl
    · exact Keeps.refl keys

theorem RankUpdate.holds {roster next : Roster} {player target : Nat}
    (bounded : Bounded roster) (holds : RanksHold roster)
    (update : RankUpdate roster player target next) : RanksHold next := by
  have lowest := bounded.getLowestRankId
  have maxCount := bounded.maxCount
  rw [guildRanksMaxCount] at maxCount
  cases update with
  | refused => exact holds
  | demoted member memberMe found foundMe lower notLowest =>
      refine holds.changeRank bounded ?_
      omega
  | promoted member memberMe found foundMe lower =>
      have rank := holds.member member (mem_of_find found)
      refine holds.changeRank bounded ?_
      omega

theorem RankUpdate.keeps {roster next : Roster} {player target : Nat}
    (bounded : Bounded roster) (holds : RanksHold roster)
    (update : RankUpdate roster player target next) :
    Keeps (fun member => member.guid = target) roster next := by
  cases update with
  | refused => exact Keeps.refl (holds.keys bounded)
  | demoted member memberMe found foundMe lower notLowest =>
      rw [key_of_find found]
      exact changeRank_keeps bounded holds
  | promoted member memberMe found foundMe lower =>
      rw [key_of_find found]
      exact changeRank_keeps bounded holds

theorem RanksHold.changeMemberRank {roster : Roster} (bounded : Bounded roster)
    (holds : RanksHold roster) (guid newRank : Nat) :
    RanksHold (roster.changeMemberRank guid newRank) := by
  have lowest := bounded.getLowestRankId
  have minCount := bounded.minCount
  rw [guildRanksMinCount] at minCount
  unfold Roster.changeMemberRank
  split_ifs with exists_
  · split
    · exact holds.changeRank bounded (by omega)
    · exact holds
  · exact holds

theorem changeMemberRank_keeps {roster : Roster} (bounded : Bounded roster)
    (holds : RanksHold roster) (guid newRank : Nat) :
    Keeps (fun member => member.guid = guid) roster
      (roster.changeMemberRank guid newRank) := by
  unfold Roster.changeMemberRank
  split_ifs
  · split
    · rename_i member found
      rw [key_of_find found]
      exact changeRank_keeps bounded holds
    · exact Keeps.refl (holds.keys bounded)
  · exact Keeps.refl (holds.keys bounded)

/-! ## Rank records -/

theorem createRank_eq {roster : Roster} (bounded : Bounded roster)
    (holds : RanksHold roster) (room : roster.ranks.length < guildRanksMaxCount)
    (name : String) (rights : UInt32) :
    roster.createRank name rights =
      { roster with
        ranks := roster.ranks ++ [⟨roster.ranks.length, name, rights, 0⟩]
        rows.ranks := roster.ranks ++ [⟨roster.ranks.length, name, rights, 0⟩] } := by
  have minCount := bounded.minCount
  rw [guildRanksMinCount] at minCount
  have notMaster : roster.ranks.length ≠ grGuildmaster := by
    rw [grGuildmaster]
    omega
  have fresh : contains RankInfo.rankId roster.ranks roster.ranks.length = false := by
    rw [← Bool.not_eq_true, contains_iff]
    rintro ⟨row, member, same⟩
    exact absurd (rankId_lt holds.ids member) (by omega)
  unfold Roster.createRank
  dsimp only
  rw [bounded.getRanksSize, if_neg (Nat.not_le_of_lt room), holds.rows, insertNew,
    fresh, if_pos notMaster]
  rfl

theorem RanksHold.createRank {roster : Roster} (bounded : Bounded roster)
    (holds : RanksHold roster) (room : roster.ranks.length < guildRanksMaxCount)
    (name : String) (rights : UInt32) : RanksHold (roster.createRank name rights) := by
  have minCount := bounded.minCount
  rw [guildRanksMinCount] at minCount
  rw [createRank_eq bounded holds room]
  constructor
  · constructor
    · intro member present
      rw [List.length_append]
      exact Nat.lt_of_lt_of_le (holds.member member present) (Nat.le_add_right _ _)
    · simp [List.range_succ, holds.ids]
    · rfl
  · constructor
    · exact holds.leader
    · exact holds.members
    · exact holds.known
    · intro rankInfo present master
      rcases List.mem_append.mp present with old | new
      · exact holds.masterRights rankInfo old master
      · rw [List.mem_singleton.mp new, grGuildmaster] at master
        dsimp only at master
        omega

theorem handleAddNewRank_cases {roster : Roster} (bounded : Bounded roster)
    (player : Nat) (name : String) :
    roster.handleAddNewRank player name = roster ∨
      (roster.ranks.length < guildRanksMaxCount ∧
        roster.handleAddNewRank player name =
          roster.createRank name (grRightGchatlisten ||| grRightGchatspeak)) := by
  unfold Roster.handleAddNewRank
  rw [bounded.getRanksSize]
  split_ifs with full leader
  · exact .inl rfl
  · exact .inr ⟨Nat.lt_of_not_le full, rfl⟩
  · exact .inl rfl

/-- A member's rank keeps its record when records are added or removed behind it. -/
theorem keeps_of_getElem {named : Member → Prop} {roster next : Roster}
    (bounded : Bounded roster) (boundedNext : Bounded next)
    (holds : RanksHold roster) (members : next.members ⊆ roster.members)
    (rights : ∀ member ∈ roster.members, ¬ named member →
      next.ranks[member.rankId]?.map RankInfo.rights =
        roster.ranks[member.rankId]?.map RankInfo.rights) :
    Keeps named roster next := by
  apply keeps_of_subset (holds.keys bounded) members
  intro member present unnamed
  rw [getRankRights_eq boundedNext, getRankRights_eq bounded,
    rights member present unnamed]

theorem handleAddNewRank_keeps {roster : Roster} (bounded : Bounded roster)
    (holds : RanksHold roster) (player : Nat) (name : String) :
    Keeps (fun _ => False) roster (roster.handleAddNewRank player name) := by
  have boundedNext := bounded.handleAddNewRank player name
  rcases handleAddNewRank_cases bounded player name with same | ⟨room, created⟩
  · rw [same]
    exact Keeps.refl (holds.keys bounded)
  · rw [created, createRank_eq bounded holds room] at boundedNext ⊢
    apply keeps_of_getElem bounded boundedNext holds (List.Subset.refl _)
    intro member present _
    rw [List.getElem?_append_left (holds.member member present)]

theorem RanksHold.handleAddNewRank {roster : Roster} (bounded : Bounded roster)
    (holds : RanksHold roster) (player : Nat) (name : String) :
    RanksHold (roster.handleAddNewRank player name) := by
  rcases handleAddNewRank_cases bounded player name with same | ⟨room, created⟩
  · rw [same]
    exact holds
  · rw [created]
    exact holds.createRank bounded room name _

theorem handleRemoveLowestRank_cases {roster : Roster} (bounded : Bounded roster)
    (holds : RanksHold roster) (player : Nat) :
    roster.handleRemoveLowestRank player = roster ∨
      (guildRanksMinCount < roster.ranks.length ∧ roster.isLeader player = true ∧
        roster.handleRemoveLowestRank player =
          { roster with
            ranks := roster.ranks.dropLast
            rows.ranks := roster.ranks.dropLast }) := by
  unfold Roster.handleRemoveLowestRank Roster.removeRank
  rw [bounded.getRanksSize, bounded.getLowestRankId]
  split_ifs with refused
  · exact .inl rfl
  · simp only [not_or, Nat.not_le, Bool.not_eq_true', Bool.not_eq_false] at refused
    refine .inr ⟨refused.1, refused.2.2, ?_⟩
    rw [holds.rows, filter_eq_dropLast holds.ids]

theorem RanksHold.handleRemoveLowestRank {roster : Roster} (bounded : Bounded roster)
    (holds : RanksHold roster) (player : Nat)
    (unused : guildRanksMinCount < roster.ranks.length → roster.isLeader player = true →
      ∀ member ∈ roster.members, member.rankId ≠ roster.getLowestRankId) :
    RanksHold (roster.handleRemoveLowestRank player) := by
  rcases handleRemoveLowestRank_cases bounded holds player with
    same | ⟨above, leader, removed⟩
  · rw [same]
    exact holds
  · rw [removed]
    constructor
    · constructor
      · intro member present
        have other := unused above leader member present
        have inside := holds.member member present
        rw [bounded.getLowestRankId] at other
        rw [List.length_dropLast]
        omega
      · rw [List.map_dropLast, holds.ids, List.length_dropLast]
        apply List.ext_getElem
        · simp
        · intro index _ _
          simp
      · rfl
    · exact { holds with
        masterRights := fun rankInfo present =>
          holds.masterRights rankInfo (List.dropLast_subset _ present) }

theorem handleRemoveLowestRank_keeps {roster : Roster} (bounded : Bounded roster)
    (holds : RanksHold roster) (player : Nat) :
    Keeps (fun member => member.rankId = roster.getLowestRankId) roster
      (roster.handleRemoveLowestRank player) := by
  have boundedNext := bounded.removeRank player roster.getLowestRankId
  rcases handleRemoveLowestRank_cases bounded holds player with
    same | ⟨above, leader, removed⟩
  · rw [same]
    exact Keeps.refl (holds.keys bounded)
  · rw [← Roster.handleRemoveLowestRank, removed] at boundedNext
    rw [removed]
    apply keeps_of_getElem bounded boundedNext holds (List.Subset.refl _)
    intro member present unnamed
    have inside := holds.member member present
    rw [bounded.getLowestRankId] at unnamed
    dsimp only
    rw [List.getElem?_dropLast, if_pos (by omega)]

section SetRankField

variable {Value : Type} [DecidableEq Value] {roster : Roster} {rankId : Nat}
  {get : RankInfo → Value} {set : Value → RankInfo → RankInfo}
  {value : RankInfo → Value}

variable (rankId get set value) in
theorem setRankField_cases (holds : RanksHold roster) :
    roster.setRankField rankId get set value = roster ∨
      ∃ rankInfo, roster.setRankField rankId get set value =
        { roster with
          ranks := roster.ranks.modify rankId (set (value rankInfo))
          rows.ranks := roster.ranks.modify rankId (set (value rankInfo)) } ∧
        rankInfo ∈ roster.ranks ∧ rankInfo.rankId = rankId := by
  unfold Roster.setRankField
  split
  · exact .inl rfl
  · rename_i rankInfo found
    split_ifs
    · exact .inl rfl
    · have stored : roster.ranks[rankId]? = some rankInfo := by
        unfold Roster.getRankInfo at found
        split_ifs at found
        exact found
      obtain ⟨inside, same⟩ := List.getElem?_eq_some_iff.mp stored
      have id : rankInfo.rankId = rankId := same ▸ getElem_rankId holds.ids inside
      refine .inr ⟨rankInfo, ?_, List.mem_of_getElem? stored, id⟩
      rw [holds.rows, id, modify_eq_modify holds.ids]

theorem RanksHold.setRankField (holds : RanksHold roster)
    (same : ∀ new row, (set new row).rankId = row.rankId)
    (master : ∀ row rankInfo : RankInfo, row.rankId = grGuildmaster →
      rankInfo.rankId = grGuildmaster → row.rights ||| grRightAll = row.rights →
      (set (value rankInfo) row).rights ||| grRightAll =
        (set (value rankInfo) row).rights) :
    RanksHold (roster.setRankField rankId get set value) := by
  rcases setRankField_cases rankId get set value holds with unchanged | ⟨rankInfo, changed, _, id⟩
  · rw [unchanged]
    exact holds
  · rw [changed, ← modify_eq_modify holds.ids]
    constructor
    · constructor
      · intro member present
        simpa using holds.member member present
      · simp only [map_modify _ _ (same _), length_modify, holds.ids]
      · rfl
    · refine ⟨holds.leader, holds.members, holds.known, ?_⟩
      intro row present isMaster
      rcases mem_modify.mp present with ⟨old, _⟩ | ⟨old, oldPresent, isRank, rfl⟩
      · exact holds.masterRights row old isMaster
      · rw [same] at isMaster
        exact master old rankInfo isMaster (id.trans (isRank.symm.trans isMaster))
          (holds.masterRights old oldPresent isMaster)

theorem setRankField_keeps (bounded : Bounded roster) (holds : RanksHold roster)
    (same : ∀ new row, (set new row).rankId = row.rankId) :
    Keeps (fun member => member.rankId = rankId) roster
      (roster.setRankField rankId get set value) := by
  have boundedNext := bounded.setRankField rankId get value same
  rcases setRankField_cases rankId get set value holds with unchanged | ⟨rankInfo, changed, _, _⟩
  · rw [unchanged]
    exact Keeps.refl (holds.keys bounded)
  · rw [changed] at boundedNext ⊢
    apply keeps_of_getElem bounded boundedNext holds (List.Subset.refl _)
    intro member _ unnamed
    dsimp only
    rw [List.getElem?_modify_ne _ _ (Ne.symm unnamed)]

end SetRankField

theorem RanksHold.setName {roster : Roster} (holds : RanksHold roster)
    (rankId : Nat) (name : String) : RanksHold (roster.setName rankId name) :=
  holds.setRankField (fun _ _ => rfl) fun _ _ _ _ rights => rights

theorem RanksHold.setRights {roster : Roster} (holds : RanksHold roster)
    (rankId : Nat) (rights : UInt32) : RanksHold (roster.setRights rankId rights) := by
  unfold Roster.setRights
  refine holds.setRankField (fun _ _ => rfl) ?_
  intro row rankInfo _ isMaster _
  dsimp only
  rw [if_pos isMaster]
  rfl

theorem RanksHold.setBankMoneyPerDay {roster : Roster} (holds : RanksHold roster)
    (rankId : Nat) (money : UInt32) :
    RanksHold (roster.setBankMoneyPerDay rankId money) :=
  holds.setRankField (fun _ _ => rfl) fun _ _ _ _ rights => rights

theorem RanksHold.handleSetRankInfo {roster : Roster} (holds : RanksHold roster)
    (player rankId : Nat) (name : String) (rights money : UInt32) :
    RanksHold (roster.handleSetRankInfo player rankId name rights money) := by
  unfold Roster.handleSetRankInfo
  split
  · exact holds
  · exact ((holds.setName rankId name).setRights rankId rights).setBankMoneyPerDay
      rankId money

/-- Two steps which leave the members as they are. -/
theorem Keeps.trans_members {named : Member → Prop} {first second third : Roster}
    (keys : (first.members.map Member.guid).Nodup)
    (left : Keeps named first second) (right : Keeps named second third)
    (leftMembers : second.members = first.members)
    (rightMembers : third.members = second.members) :
    Keeps named first third := by
  apply keeps_of_subset keys (by rw [rightMembers, leftMembers]; exact List.Subset.refl _)
  intro member present unnamed
  have presentSecond : member ∈ second.members := leftMembers ▸ present
  have presentThird : member ∈ third.members := rightMembers ▸ presentSecond
  rw [right member presentSecond member presentThird rfl unnamed,
    left member present member presentSecond rfl unnamed]

theorem handleSetRankInfo_keeps {roster : Roster} (bounded : Bounded roster)
    (holds : RanksHold roster) (player rankId : Nat)
    (name : String) (rights money : UInt32) :
    Keeps (fun member => member.rankId = rankId) roster
      (roster.handleSetRankInfo player rankId name rights money) := by
  have keys := holds.keys bounded
  unfold Roster.handleSetRankInfo
  split
  · exact Keeps.refl keys
  · have boundedName : Bounded (roster.setName rankId name) :=
      bounded.setRankField rankId _ _ fun _ _ => rfl
    have boundedRights :
        Bounded ((roster.setName rankId name).setRights rankId rights) :=
      boundedName.setRankField rankId _ _ fun _ _ => rfl
    have holdsName := holds.setName rankId name
    have holdsRights := holdsName.setRights rankId rights
    have nameMembers : (roster.setName rankId name).members = roster.members :=
      (setRankField_frame _ _ _ _ _).1
    have rightsMembers : ((roster.setName rankId name).setRights rankId rights).members =
        (roster.setName rankId name).members :=
      (setRankField_frame _ _ _ _ _).1
    have named : Keeps (fun member => member.rankId = rankId) roster
        (roster.setName rankId name) :=
      setRankField_keeps bounded holds fun _ _ => rfl
    have righted : Keeps (fun member => member.rankId = rankId)
        (roster.setName rankId name) ((roster.setName rankId name).setRights rankId rights) :=
      setRankField_keeps boundedName holdsName fun _ _ => rfl
    have paid : Keeps (fun member => member.rankId = rankId)
        ((roster.setName rankId name).setRights rankId rights)
        (((roster.setName rankId name).setRights rankId rights).setBankMoneyPerDay
          rankId money) :=
      setRankField_keeps boundedRights holdsRights fun _ _ => rfl
    have both := named.trans_members keys righted nameMembers rightsMembers
    exact both.trans_members keys paid (rightsMembers.trans nameMembers)
      (setRankField_frame _ _ _ _ _).1

/-! ## Joining and leaving -/

theorem contains_eq_false_of {roster : Roster} (bounded : Bounded roster) {guid : Nat}
    (free : ¬ roster.guilded.contains guid = true) :
    ∀ member ∈ roster.members, member.guid ≠ guid := by
  rintro member present rfl
  apply free
  simpa using bounded.guilded member present

theorem RanksHold.addMember {roster : Roster} (bounded : Bounded roster)
    (holds : RanksHold roster) (guid : Nat) :
    RanksHold (roster.addMember guid guildRankNone) := by
  have lowest := bounded.getLowestRankId
  have minCount := bounded.minCount
  rw [guildRanksMinCount] at minCount
  unfold Roster.addMember
  dsimp only
  rw [if_pos rfl]
  split_ifs with free unknown
  · exact holds
  · exact holds
  · have other := contains_eq_false_of bounded free
    have absent : contains Member.guid roster.members guid = false := by
      rw [← Bool.not_eq_true, contains_iff]
      rintro ⟨member, present, same⟩
      exact other member present same
    constructor
    · refine ⟨?_, holds.ids, holds.rows⟩
      intro member present
      rcases mem_assign.mp present with ⟨old, _⟩ | rfl
      · exact holds.member member old
      · dsimp only
        omega
    · refine ⟨holds.leader, ?_, ?_, holds.masterRights⟩
      · dsimp only
        rw [holds.members, insertNew, assign]
        dsimp only
        rw [absent, if_neg Bool.false_ne_true, erase_eq_self other]
      · intro member present
        rcases mem_assign.mp present with ⟨old, _⟩ | rfl
        · exact holds.known member old
        · simpa using unknown

theorem addMember_keeps {roster : Roster} (bounded : Bounded roster)
    (holds : RanksHold roster) (guid : Nat) :
    Keeps (fun _ => False) roster (roster.addMember guid guildRankNone) := by
  have keys := holds.keys bounded
  unfold Roster.addMember
  dsimp only
  split_ifs with free unknown
  · exact Keeps.refl keys
  · exact Keeps.refl keys
  all_goals
    have other := contains_eq_false_of bounded free
    intro before present after remains same _
    rcases mem_assign.mp remains with ⟨old, _⟩ | rfl
    · have found := find_of_mem keys old
      rw [same, find_of_mem keys present] at found
      rw [Option.some.inj found]
      rfl
    · exact absurd same.symm (other before present)

theorem RanksHold.eraseMember {roster : Roster} (holds : RanksHold roster) (guid : Nat) :
    RanksHold (roster.eraseMember guid) where
  __ := holds
  member := fun member present => holds.member member (mem_erase.mp present).1
  members := congrArg (erase Member.guid · guid) holds.members
  known := fun member present => holds.known member (mem_erase.mp present).1

theorem eraseMember_keeps {named : Member → Prop} {roster : Roster}
    (bounded : Bounded roster) (holds : RanksHold roster) (guid : Nat) :
    Keeps named roster (roster.eraseMember guid) :=
  keeps_of_subset (holds.keys bounded) (fun _ remains => (mem_erase.mp remains).1)
    fun _ _ _ => rfl

theorem disband_members (roster : Roster) : roster.disband.members = [] := by
  have walk : ∀ (guids : List Nat) (current : Roster),
      (guids.foldl Roster.eraseMember current).members =
        current.members.filter fun member => member.guid ∉ guids := by
    intro guids
    induction guids with
    | nil => exact fun current => by simp
    | cons guid rest induction =>
        intro current
        rw [List.foldl_cons, induction, Roster.eraseMember, erase, List.filter_filter]
        apply List.filter_congr
        intro member _
        simp [Bool.and_comm]
  show ((roster.members.map Member.guid).foldl Roster.eraseMember roster).members = []
  rw [walk, List.filter_eq_nil_iff]
  intro member present
  simpa using ⟨member, present, rfl⟩

/-- The ranks hold, or the guild is gone. -/
def HoldsRanks (roster : Roster) : Prop :=
  (roster.disbanded = true ∧ roster.members = []) ∨ RanksHold roster

theorem deleteMember_holds (environment : GuildEnvironment) {roster : Roster}
    (bounded : Bounded roster) (holds : RanksHold roster)
    (guid : Nat) (isDisbanding : Bool) :
    HoldsRanks (roster.deleteMember environment guid isDisbanding) := by
  unfold Roster.deleteMember
  split_ifs
  · split
    · exact .inl ⟨rfl, disband_members roster⟩
    · exact .inr ((holds.setLeaderGUID bounded _).eraseMember guid)
  · exact .inr (holds.eraseMember guid)

/-- Only the leader's departure touches somebody else. -/
theorem deleteMember_keeps (environment : GuildEnvironment) {roster : Roster}
    (bounded : Bounded roster) (holds : RanksHold roster)
    (guid : Nat) (isDisbanding : Bool) :
    Keeps (fun _ => guid = roster.leaderGuid) roster
      (roster.deleteMember environment guid isDisbanding) := by
  unfold Roster.deleteMember
  split_ifs with leader
  · intro _ _ _ _ _ unnamed
    exact absurd leader.1.symm unnamed
  · exact eraseMember_keeps bounded holds guid

theorem deleteMember_absent (environment : GuildEnvironment) (roster : Roster)
    (guid : Nat) (isDisbanding : Bool) :
    ∀ member ∈ (roster.deleteMember environment guid isDisbanding).members,
      member.guid ≠ guid := by
  unfold Roster.deleteMember
  split_ifs
  · split
    · simp [disband_members]
    · exact fun member remains => (mem_erase.mp remains).2
  · exact fun member remains => (mem_erase.mp remains).2

theorem deleteCharacter_holds (environment : GuildEnvironment) {roster : Roster}
    (bounded : Bounded roster) (holds : RanksHold roster) (guid : Nat) :
    HoldsRanks (roster.handle environment (.deleteCharacter guid)) := by
  rcases deleteMember_holds environment bounded holds guid false with gone | deleted
  · exact .inl gone
  · refine .inr { deleted with known := ?_ }
    intro member present
    have other := deleteMember_absent environment roster guid false member present
    exact List.mem_filter.mpr ⟨deleted.known member present, decide_eq_true other⟩

theorem handleLeaveMember_holds (environment : GuildEnvironment) {roster : Roster}
    (bounded : Bounded roster) (holds : RanksHold roster) (player : Nat) :
    HoldsRanks (roster.handleLeaveMember environment player) := by
  unfold Roster.handleLeaveMember
  split_ifs
  · exact .inr holds
  · exact .inl ⟨rfl, disband_members roster⟩
  · exact deleteMember_holds environment bounded holds player false

theorem handleLeaveMember_keeps (environment : GuildEnvironment) {roster : Roster}
    (bounded : Bounded roster) (holds : RanksHold roster) (player : Nat) :
    Keeps (fun _ => False) roster (roster.handleLeaveMember environment player) := by
  unfold Roster.handleLeaveMember
  split_ifs with leader
  · exact Keeps.refl (holds.keys bounded)
  · exact keeps_of_nil (disband_members roster)
  · apply (deleteMember_keeps environment bounded holds player false).mono
    rintro _ rfl
    exact leader (by simp [Roster.isLeader])

/-- The player may remove members, and may remove this one. -/
def Roster.acceptsRemoval (roster : Roster) (player target : Nat) : Prop :=
  roster.hasRankRight player grRightRemove = true ∧
    ∃ member memberMe, roster.getMember target = some member ∧
      roster.getMember player = some memberMe ∧ ¬ member.isRank grGuildmaster = true ∧
        ¬ member.isRankNotLower memberMe.rankId = true

theorem handleRemoveMember_cases (environment : GuildEnvironment) (roster : Roster)
    (player target : Nat) :
    roster.handleRemoveMember environment player target = roster ∨
      roster.acceptsRemoval player target ∧
        roster.handleRemoveMember environment player target =
          roster.deleteMember environment target false := by
  unfold Roster.handleRemoveMember
  split
  · exact .inl rfl
  · rename_i right
    split
    · exact .inl rfl
    · rename_i member found
      split
      · exact .inl rfl
      · rename_i notMaster
        split
        · exact .inl rfl
        · rename_i memberMe foundMe
          split
          · exact .inl rfl
          · rename_i lower
            have hasRight : roster.hasRankRight player grRightRemove = true := by
              simpa using right
            exact .inr ⟨⟨hasRight, member, memberMe, found, foundMe, notMaster, lower⟩,
              by rw [key_of_find found]⟩

/-! ## Loading -/

theorem insertionSort_ranks {ranks : List RankInfo}
    (keys : (ranks.map RankInfo.rankId).Pairwise (· < ·)) :
    (ranks.insertionSort fun left right => left.rankId ≤ right.rankId) = ranks := by
  apply List.Pairwise.insertionSort_eq
  exact (List.pairwise_map.mp keys).imp Nat.le_of_lt

theorem loadFromDB_eq {rankInfo : RankInfo}
    (rights : rankInfo.rankId = grGuildmaster →
      rankInfo.rights ||| grRightAll = rankInfo.rights) :
    rankInfo.loadFromDB = rankInfo := by
  unfold RankInfo.loadFromDB
  split_ifs with master
  · rw [rights master]
  · rfl

/-- Whole ranks need no repair. -/
theorem not_broken_of_ids {roster : Roster}
    (minCount : guildRanksMinCount ≤ roster.ranks.length)
    (maxCount : roster.ranks.length ≤ guildRanksMaxCount)
    (ids : roster.ranks.map RankInfo.rankId = List.range roster.ranks.length) :
    roster.brokenRanks = false := by
  have size : roster.getRanksSize = roster.ranks.length := by
    rw [guildRanksMaxCount] at maxCount
    exact getRanksSize_eq (by omega)
  simp only [Roster.brokenRanks, Bool.or_eq_false_iff, decide_eq_false_iff_not,
    List.any_eq_false, List.mem_range, Bool.not_eq_true, size]
  refine ⟨⟨by omega, by omega⟩, ?_⟩
  intro index inside
  rw [Roster.getRankInfo, size, if_pos inside, List.getElem?_eq_getElem inside]
  simp [getElem_rankId ids inside]

/-- The leader has his rank, and nobody else has it unless several are allowed. -/
def LeaderRanked (environment : GuildEnvironment) (roster : Roster) : Prop :=
  (∃ member ∈ roster.members,
      member.guid = roster.leaderGuid ∧ member.rankId = grGuildmaster) ∧
    (environment.allowMultipleGuildMaster = true ∨
      ∀ member ∈ roster.members,
        member.rankId = grGuildmaster → member.guid = roster.leaderGuid)

/-- `Validate` has nothing to do. -/
theorem validate_eq {environment : GuildEnvironment} {roster : Roster}
    (live : roster.disbanded = false)
    (minCount : guildRanksMinCount ≤ roster.ranks.length)
    (maxCount : roster.ranks.length ≤ guildRanksMaxCount)
    (keys : (roster.members.map Member.guid).Nodup)
    (holds : RanksHold roster) (ranked : LeaderRanked environment roster) :
    roster.validate environment = roster := by
  have whole := not_broken_of_ids minCount maxCount holds.ids
  have size : roster.getRanksSize = roster.ranks.length := by
    rw [guildRanksMaxCount] at maxCount
    exact getRanksSize_eq (by omega)
  have ranks : roster.validateRanks environment = roster := by
    rw [Roster.validateRanks, whole, if_neg Bool.false_ne_true]
  have members : roster.validateMembers = roster := by
    apply changeRankWhere_none keys holds.members
    intro member present
    have inside := holds.member member present
    rw [size]
    exact decide_eq_false (by omega)
  have leader : roster.validateLeader environment = roster := by
    obtain ⟨⟨member, present, isLeader, master⟩, _⟩ := ranked
    have found : roster.getMember roster.leaderGuid = some member := by
      rw [← isLeader]
      exact find_of_mem keys present
    have isMaster : member.isRank grGuildmaster = true := beq_iff_eq.mpr master
    rw [Roster.validateLeader, found]
    exact if_pos isMaster
  have masters : roster.validateMasters environment = roster := by
    unfold Roster.validateMasters
    split_ifs with several
    · rfl
    · apply changeRankWhere_none keys holds.members
      intro member present
      rcases ranked.2 with allowed | single
      · exact absurd allowed several
      · cases master : member.isRank grGuildmaster with
        | false => rfl
        | true =>
            have isLeader := single member present (beq_iff_eq.mp master)
            simp [isLeader]
  rw [Roster.validate, ranks, members, leader, live, if_neg Bool.false_ne_true, masters]

/-- A restart brings back what was there. -/
theorem reload_eq {environment : GuildEnvironment} {roster : Roster}
    (live : roster.disbanded = false) (bounded : Bounded roster)
    (holds : RanksHold roster) (ranked : LeaderRanked environment roster) :
    roster.reload environment =
      { roster with guilded := roster.members.map Member.guid ++ roster.guilded } := by
  have sorted : (roster.ranks.map RankInfo.rankId).Pairwise (· < ·) := by
    rw [holds.ids]
    exact List.pairwise_lt_range
  have loaded : roster.ranks.map RankInfo.loadFromDB = roster.ranks := by
    rw [List.map_congr_left fun rankInfo present =>
      loadFromDB_eq (holds.masterRights rankInfo present)]
    exact List.map_id' roster.ranks
  have known : roster.members.filter (fun row => roster.characters.contains row.guid) =
      roster.members := by
    rw [List.filter_eq_self]
    intro member present
    simpa using holds.known member present
  have rows : roster.rows =
      { leaderGuid := some roster.leaderGuid
        ranks := roster.ranks
        members := roster.members } := by
    rw [← holds.leader, ← holds.rows, ← holds.members]
  have keys := holds.keys bounded
  have valid : RanksHold
      { roster with guilded := roster.members.map Member.guid ++ roster.guilded } :=
    { holds with }
  unfold Roster.reload
  rw [holds.leader, holds.rows, holds.members]
  dsimp only [Roster.load, Roster.fromRows]
  rw [insertionSort_ranks sorted, loaded, known, ← rows]
  have same :
      { roster with
        guilded := roster.members.map Member.guid ++ roster.guilded }.validate
          environment =
        { roster with guilded := roster.members.map Member.guid ++ roster.guilded } :=
    validate_eq live bounded.minCount bounded.maxCount keys valid ranked
  rw [live] at same ⊢
  exact same

theorem reload_holds {environment : GuildEnvironment} {roster : Roster}
    (live : roster.disbanded = false) (bounded : Bounded roster)
    (holds : RanksHold roster) (ranked : LeaderRanked environment roster) :
    RanksHold (roster.reload environment) := by
  rw [reload_eq live bounded holds ranked]
  exact { holds with }

theorem reload_keeps {environment : GuildEnvironment} {roster : Roster}
    (live : roster.disbanded = false) (bounded : Bounded roster)
    (holds : RanksHold roster) (ranked : LeaderRanked environment roster) :
    Keeps (fun _ => False) roster (roster.reload environment) := by
  rw [reload_eq live bounded holds ranked]
  exact keeps_of_subset (holds.keys bounded) (List.Subset.refl _) fun _ _ _ => rfl

/-! ## Runs -/

/-- The steps which leave the ranks valid, and the rights with their owners. -/
def KeepsRanks (environment : GuildEnvironment) (roster : Roster) : GuildEvent → Prop
  | .removeLowestRank player =>
      guildRanksMinCount < roster.ranks.length → roster.isLeader player = true →
        ∀ member ∈ roster.members, member.rankId ≠ roster.getLowestRankId
  | .removeMember player target =>
      roster.acceptsRemoval player target → target ≠ roster.leaderGuid
  | .reload => LeaderRanked environment roster
  | _ => True

theorem step_holds {environment : GuildEnvironment} {roster : Roster} {event : GuildEvent}
    (bounded : Bounded roster) (holds : HoldsRanks roster)
    (condition : KeepsRanks environment roster event) :
    HoldsRanks (step environment roster event) := by
  rcases live : roster.disbanded with _ | _
  · have ranks : RanksHold roster := holds.resolve_left (by simp [live])
    rw [step, live, if_neg Bool.false_ne_true]
    cases event with
    | setLeader player target => exact .inr (ranks.handleSetLeader bounded player target)
    | updateMemberRank player target demote =>
        exact .inr ((handleUpdateMemberRank_cases rfl).holds bounded ranks)
    | changeMemberRank guid newRank =>
        exact .inr (ranks.changeMemberRank bounded guid newRank)
    | addNewRank player name => exact .inr (ranks.handleAddNewRank bounded player name)
    | removeLowestRank player =>
        exact .inr (ranks.handleRemoveLowestRank bounded player condition)
    | setRankInfo player rankId name rights money =>
        exact .inr (ranks.handleSetRankInfo player rankId name rights money)
    | addMember guid => exact .inr (ranks.addMember bounded guid)
    | leaveMember player => exact handleLeaveMember_holds environment bounded ranks player
    | removeMember player target =>
        rw [Roster.handle]
        rcases handleRemoveMember_cases environment roster player target with
          same | ⟨_, removed⟩
        · rw [same]
          exact .inr ranks
        · rw [removed]
          exact deleteMember_holds environment bounded ranks target false
    | deleteMember guid isDisbanding =>
        exact deleteMember_holds environment bounded ranks guid isDisbanding
    | deleteCharacter guid => exact deleteCharacter_holds environment bounded ranks guid
    | createCharacter guid =>
        exact .inr { ranks with
          known := fun member present => List.mem_cons_of_mem _ (ranks.known member present) }
    | reload => exact .inr (reload_holds live bounded ranks condition)
  · rw [step, if_pos live]
    exact holds

theorem step_keeps {environment : GuildEnvironment} {roster : Roster} {event : GuildEvent}
    (bounded : Bounded roster) (holds : HoldsRanks roster)
    (condition : KeepsRanks environment roster event) :
    RightsKept environment roster event := by
  unfold RightsKept
  rcases holds with ⟨gone, none⟩ | holds
  · rw [step, if_pos gone]
    exact keeps_of_nil none
  have keys := holds.keys bounded
  rcases live : roster.disbanded with _ | _
  · rw [step, live, if_neg Bool.false_ne_true]
    cases event with
    | setLeader player target => exact handleSetLeader_keeps bounded holds player target
    | updateMemberRank player target demote =>
        exact (handleUpdateMemberRank_cases rfl).keeps bounded holds
    | changeMemberRank guid newRank =>
        exact changeMemberRank_keeps bounded holds guid newRank
    | addNewRank player name => exact handleAddNewRank_keeps bounded holds player name
    | removeLowestRank player => exact handleRemoveLowestRank_keeps bounded holds player
    | setRankInfo player rankId name rights money =>
        exact handleSetRankInfo_keeps bounded holds player rankId name rights money
    | addMember guid => exact addMember_keeps bounded holds guid
    | leaveMember player => exact handleLeaveMember_keeps environment bounded holds player
    | removeMember player target =>
        rw [Roster.handle]
        rcases handleRemoveMember_cases environment roster player target with
          same | ⟨accepted, removed⟩
        · rw [same]
          exact Keeps.refl keys
        · rw [removed]
          exact (deleteMember_keeps environment bounded holds target false).mono
            fun _ isLeader => absurd isLeader (condition accepted)
    | deleteMember guid isDisbanding =>
        exact deleteMember_keeps environment bounded holds guid isDisbanding
    | deleteCharacter guid => exact deleteMember_keeps environment bounded holds guid false
    | createCharacter guid =>
        exact keeps_of_subset keys (List.Subset.refl _) fun _ _ _ => rfl
    | reload => exact reload_keeps live bounded holds condition
  · rw [step, if_pos live]
    exact Keeps.refl keys

/-! ## The first load -/

/-- `Validate` keeps the ranks it finds. -/
def StoredGuild.wholeRanks (stored : StoredGuild) : Bool :=
  guildRanksMinCount ≤ stored.ranks.length && stored.ranks.length ≤ guildRanksMaxCount &&
    stored.ranks.map RankInfo.rankId == List.range stored.ranks.length

/-- The number of ranks after the repair. -/
def StoredGuild.rankCount (stored : StoredGuild) : Nat :=
  if stored.wholeRanks then stored.ranks.length else 5

/-- No repair is missed, and none stays in memory. -/
structure StoredGuild.Sound (stored : StoredGuild) (characters : List Nat) : Prop where
  rank : ∀ row ∈ stored.members, row.guid ∈ characters → row.guid ≠ stored.leaderGuid →
    row.rankId ≠ stored.rankCount
  master : stored.wholeRanks = true → ∀ row ∈ stored.ranks,
    row.rankId = grGuildmaster → row.rights ||| grRightAll = row.rights

def GuildOrigin.Sound : GuildOrigin → Prop
  | .loaded stored _ characters => stored.Sound characters
  | .created _ _ _ _ _ => True

theorem loadFromDB_rankId (row : RankInfo) : row.loadFromDB.rankId = row.rankId := by
  unfold RankInfo.loadFromDB
  split_ifs
  all_goals rfl

/-- Ranks are repaired, or were whole and had all the rights of the master. -/
theorem validateRanks_repaired (environment : GuildEnvironment) {stored : StoredGuild}
    {characters : List Nat} (sound : stored.Sound characters) {roster : Roster}
    (ranks : roster.ranks = stored.ranks.map RankInfo.loadFromDB)
    (rowRanks : roster.rows.ranks = stored.ranks)
    (leader : roster.rows.leaderGuid = some roster.leaderGuid)
    (members : roster.rows.members = roster.members)
    (known : ∀ member ∈ roster.members, member.guid ∈ roster.characters) :
    Repaired stored.rankCount (roster.validateRanks environment) := by
  have length : roster.ranks.length = stored.ranks.length := by simp [ranks]
  have ids : roster.ranks.map RankInfo.rankId = stored.ranks.map RankInfo.rankId := by
    rw [ranks, List.map_map]
    exact List.map_congr_left fun row _ => loadFromDB_rankId row
  cases whole : stored.wholeRanks with
  | true =>
      have parts := whole
      simp only [StoredGuild.wholeRanks, Bool.and_eq_true, decide_eq_true_eq,
        beq_iff_eq] at parts
      obtain ⟨⟨minCount, maxCount⟩, storedIds⟩ := parts
      have numbered : roster.ranks.map RankInfo.rankId =
          List.range roster.ranks.length := by
        rw [ids, length, storedIds]
      have unbroken : roster.brokenRanks = false :=
        not_broken_of_ids (length ▸ minCount) (length ▸ maxCount) numbered
      have same : roster.ranks = stored.ranks := by
        rw [ranks, List.map_congr_left fun row present =>
          loadFromDB_eq (sound.master whole row present)]
        exact List.map_id' stored.ranks
      rw [Roster.validateRanks, unbroken, if_neg Bool.false_ne_true]
      refine ⟨⟨leader, members, known, ?_⟩, ?_, numbered, rowRanks.trans same.symm⟩
      · rw [same]
        exact sound.master whole
      · rw [length, StoredGuild.rankCount, whole, if_pos rfl]
  | false =>
      have broken : roster.brokenRanks = true := by
        by_contra unbroken
        have keyed : KeyedRanks stored.ranks :=
          ⟨stored.rankKeys.imp Nat.ne_of_lt, stored.rankBytes⟩
        obtain ⟨minCount, maxCount, numbered⟩ := wholeRanks_of_not_broken
          (length ▸ keyed.length_le) (Bool.not_eq_true _ |>.mp unbroken)
        rw [ids, length] at numbered
        rw [length] at minCount maxCount
        simp [StoredGuild.wholeRanks, minCount, maxCount, numbered] at whole
      rw [Roster.validateRanks, broken, if_pos rfl, createDefaultGuildRanks_eq]
      refine ⟨⟨leader, members, known, ?_⟩, ?_, ?_, rfl⟩
      · simp [defaultRanks, grGuildmaster]
      · rw [StoredGuild.rankCount, whole, if_neg Bool.false_ne_true]
        rfl
      · rfl

theorem validateRanks_leader (environment : GuildEnvironment) (roster : Roster) :
    (roster.validateRanks environment).leaderGuid = roster.leaderGuid := by
  unfold Roster.validateRanks
  split_ifs
  · rw [createDefaultGuildRanks_eq]
  · rfl

/-- Only the number itself slips through the comparison. -/
theorem validateMembers_lt {roster : Roster} {count : Nat}
    (repaired : Repaired count roster)
    (minCount : guildRanksMinCount ≤ roster.ranks.length)
    (maxCount : roster.ranks.length ≤ guildRanksMaxCount)
    (rank : ∀ member ∈ roster.members, member.guid ≠ roster.leaderGuid →
      member.rankId ≠ count) :
    ∀ member ∈ roster.validateMembers.members, member.guid ≠ roster.leaderGuid →
      member.rankId < roster.ranks.length := by
  rw [guildRanksMinCount] at minCount
  rw [guildRanksMaxCount] at maxCount
  have size : roster.getRanksSize = roster.ranks.length := getRanksSize_eq (by omega)
  have lowest : roster.getLowestRankId = roster.ranks.length - 1 :=
    getLowestRankId_eq (by omega) (by omega)
  intro member present notLeader
  obtain ⟨old, oldPresent, rfl⟩ := mem_changeRankWhere.mp present
  have oldNotLeader : old.guid ≠ roster.leaderGuid := by
    split_ifs at notLeader
    all_goals exact notLeader
  have other := rank old oldPresent oldNotLeader
  rw [← repaired.count] at other
  rw [size, lowest]
  split_ifs with above
  · dsimp only
    omega
  · simp only [gt_iff_lt, decide_eq_true_eq, not_lt] at above
    omega

/-- The leader gets his rank, whatever it was. -/
theorem validateLeader_holds (environment : GuildEnvironment) {roster : Roster} {count : Nat}
    (bounded : Bounded roster) (repaired : Repaired count roster)
    (others : ∀ member ∈ roster.members, member.guid ≠ roster.leaderGuid →
      member.rankId < roster.ranks.length) :
    HoldsRanks (roster.validateLeader environment) := by
  have minCount := bounded.minCount
  rw [guildRanksMinCount] at minCount
  unfold Roster.validateLeader
  split
  · rename_i notFound
    have holds : RanksHold roster := repaired.holds fun member present =>
      others member present (find_eq_none_iff.mp notFound member present)
    exact deleteMember_holds environment bounded holds _ false
  · rename_i leader found
    have isLeader := key_of_find found
    split_ifs with isMaster
    · refine .inr (repaired.holds fun member present => ?_)
      by_cases same : member.guid = roster.leaderGuid
      · have foundAgain := find_of_mem (repaired.members ▸ bounded.memberRows) present
        rw [same] at foundAgain
        obtain rfl := Option.some.inj (foundAgain.symm.trans found)
        rw [beq_iff_eq.mp isMaster, grGuildmaster]
        omega
      · exact others member present same
    · rw [isLeader]
      exact .inr (repaired.setLeaderGUID bounded others)

theorem validateMasters_holds (environment : GuildEnvironment) {roster : Roster}
    (bounded : Bounded roster) (holds : RanksHold roster) :
    RanksHold (roster.validateMasters environment) := by
  have minCount := bounded.minCount
  rw [guildRanksMinCount] at minCount
  unfold Roster.validateMasters
  split_ifs
  · exact holds
  · refine holds.changeRankWhere bounded ?_
    rw [grOfficer]
    omega

theorem StoredGuild.load_holds (environment : GuildEnvironment) {stored : StoredGuild}
    {characters : List Nat} (sound : stored.Sound characters) (guilded : List Nat) :
    HoldsRanks (stored.load environment guilded characters) := by
  have keyed : KeyedRanks stored.ranks :=
    ⟨stored.rankKeys.imp Nat.ne_of_lt, stored.rankBytes⟩
  generalize fromRows : Roster.fromRows stored.leaderGuid stored.ranks stored.members
    guilded characters = loaded
  have ranks : loaded.ranks = stored.ranks.map RankInfo.loadFromDB := by
    rw [← fromRows, Roster.fromRows, insertionSort_ranks stored.rankKeys]
  have rowRanks : loaded.rows.ranks = stored.ranks := by rw [← fromRows]; rfl
  have leader : loaded.rows.leaderGuid = some loaded.leaderGuid := by rw [← fromRows]; rfl
  have rowMembers : loaded.rows.members = loaded.members := by rw [← fromRows]; rfl
  have sameLeader : loaded.leaderGuid = stored.leaderGuid := by rw [← fromRows]; rfl
  have sameCharacters : loaded.characters = characters := by rw [← fromRows]; rfl
  have known : ∀ member ∈ loaded.members,
      member ∈ stored.members ∧ member.guid ∈ loaded.characters := by
    rw [← fromRows]
    intro member present
    simpa [Roster.fromRows] using present
  have guildedMembers : ∀ member ∈ loaded.members, member.guid ∈ loaded.guilded := by
    rw [← fromRows]
    intro member present
    exact List.mem_append_left _ (List.mem_map_of_mem present)
  have keys : (loaded.members.map Member.guid).Nodup := by
    rw [← fromRows]
    exact filter_keys stored.memberKeys _
  have repaired := validateRanks_repaired environment sound ranks rowRanks leader
    rowMembers fun member present => (known member present).2
  obtain ⟨whole, keyedRows⟩ := validateRanks_whole environment
    (by rw [ranks, List.length_map]; exact keyed.length_le) (rowRanks ▸ keyed)
  obtain ⟨members, guildedEq, _⟩ := validateRanks_members environment loaded
  have others := validateMembers_lt repaired whole.minCount whole.maxCount <| by
    intro member present notLeader
    rw [members] at present
    rw [validateRanks_leader, sameLeader] at notLeader
    obtain ⟨isRow, exists_⟩ := known member present
    rw [sameCharacters] at exists_
    exact sound.rank member isRow exists_ notLeader
  have bounded : Bounded (loaded.validateRanks environment).validateMembers := by
    apply validateMembers_bounded whole keyedRows
    · rw [members, guildedEq]
      exact guildedMembers
    · rw [repaired.members, members]
      exact keys
  unfold StoredGuild.load Roster.load
  rw [fromRows, Roster.validate]
  have led := validateLeader_holds environment bounded
    (repaired.changeRankWhere (members ▸ keys)) others
  split_ifs with gone
  · exact led
  · have ranksHeld := led.resolve_left fun disbanded => gone disbanded.1
    exact .inr (validateMasters_holds environment (bounded.validateLeader environment)
      ranksHeld)

theorem GuildOrigin.start_holds (environment : GuildEnvironment) {origin : GuildOrigin}
    (sound : origin.Sound) : HoldsRanks (origin.start environment) := by
  cases origin with
  | loaded stored guilded characters =>
      exact stored.load_holds environment sound guilded
  | created leader guilded characters free known =>
      right
      rw [GuildOrigin.start, create_eq environment free known]
      refine ⟨⟨?_, rfl, rfl⟩, ⟨rfl, rfl, ?_, ?_⟩⟩
      · simp [defaultRanks, grGuildmaster]
      · simpa using known
      · simp [defaultRanks, grGuildmaster]

/--
From rows which need no silent repair, while nobody holds a rank which is
removed, the leader is not removed and restarts find the leader's rank: ranks
are valid in every state, and every step keeps the rights of those it does not
name.
-/
theorem ranks_stay_valid (environment : GuildEnvironment) {origin : GuildOrigin}
    (sound : origin.Sound) {events : List GuildEvent}
    (safe : EveryStep (step environment) (KeepsRanks environment)
      (origin.start environment) events) :
    Throughout (step environment) HasValidRanks (origin.start environment) events ∧
      EveryStep (step environment) (RightsKept environment)
        (origin.start environment) events := by
  have preserved : ∀ roster event, Bounded roster ∧ HoldsRanks roster →
      KeepsRanks environment roster event →
        Bounded (step environment roster event) ∧
          HoldsRanks (step environment roster event) :=
    fun roster event invariant condition =>
      ⟨invariant.1.step environment event,
        step_holds invariant.1 invariant.2 condition⟩
  have initial := And.intro (origin.start_bounded environment)
    (origin.start_holds environment sound)
  constructor
  · apply (throughout_of_invariant preserved initial safe).mono
    rintro roster ⟨_, holds⟩
    exact holds.imp And.left RanksHold.toRanksValid
  · exact everyStep_of_invariant preserved
      (fun roster event invariant condition =>
        step_keeps invariant.1 invariant.2 condition)
      initial safe

/-! ## A member of rank six among six ranks -/

/-- Six ranks, and a member whose rank is one too high. -/
def sixRanks (memberRank : Nat) : StoredGuild where
  leaderGuid := 7
  ranks := defaultRanks plainEnvironment ++ [⟨5, "", 0x43, 0⟩]
  members := [⟨7, 0⟩, ⟨8, memberRank % 2 ^ 8⟩]
  rankKeys := by decide
  rankBytes := by decide
  memberKeys := by simp
  memberBytes := by
    simp
    omega

theorem sixRanks_stay_valid :
    Throughout (step plainEnvironment) HasValidRanks
        ((GuildOrigin.loaded (sixRanks 4) [] [7, 8]).start plainEnvironment)
        [.removeLowestRank 7, .updateMemberRank 7 8 false, .reload] ∧
      EveryStep (step plainEnvironment) (RightsKept plainEnvironment)
        ((GuildOrigin.loaded (sixRanks 4) [] [7, 8]).start plainEnvironment)
        [.removeLowestRank 7, .updateMemberRank 7 8 false, .reload] :=
  have sound : (GuildOrigin.loaded (sixRanks 4) [] [7, 8]).Sound :=
    ⟨by decide, by decide⟩
  ranks_stay_valid plainEnvironment sound
    ⟨fun _ _ => by decide, trivial, ⟨by decide, .inr (by decide)⟩, trivial⟩

theorem sixRanks_invalid :
    ¬ Throughout (step plainEnvironment) HasValidRanks
      ((GuildOrigin.loaded (sixRanks 6) [] [7, 8]).start plainEnvironment) [] := by
  rintro (disbanded | valid)
  · exact absurd disbanded (by decide)
  · exact absurd (valid.member ⟨8, 6⟩ (by decide)) (by decide)

end RealmServer.Guilds
