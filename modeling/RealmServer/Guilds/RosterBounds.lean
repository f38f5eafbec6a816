import RealmServer.Guilds.Roster
import RealmServer.Lib.Transition

/-!
# Bounds of the roster

`Bounded` is kept by every operation, whoever calls it: between five and ten
ranks, no rank id above ten, and members are known to the cache as guilded.
The stored rows respect the primary keys of their tables.  Both `Leader` and `Ranks` build on it.
-/

namespace RealmServer.Guilds

open Table

/-- The rank table respects its key. -/
structure KeyedRanks (ranks : List RankInfo) : Prop where
  keys : (ranks.map RankInfo.rankId).Nodup
  bytes : ∀ row ∈ ranks, row.rankId < 2 ^ 8

structure Bounded (roster : Roster) : Prop where
  minCount : guildRanksMinCount ≤ roster.ranks.length
  maxCount : roster.ranks.length ≤ guildRanksMaxCount
  rank : ∀ member ∈ roster.members, member.rankId ≤ guildRanksMaxCount
  guilded : ∀ member ∈ roster.members, member.guid ∈ roster.guilded
  rows : KeyedRanks roster.rows.ranks
  memberRows : (roster.rows.members.map Member.guid).Nodup

/-! ## Sizes -/

theorem getRanksSize_eq {roster : Roster} (small : roster.ranks.length < 2 ^ 8) :
    roster.getRanksSize = roster.ranks.length :=
  Nat.mod_eq_of_lt small

theorem Bounded.getRanksSize {roster : Roster} (bounded : Bounded roster) :
    roster.getRanksSize = roster.ranks.length := by
  have maxCount := bounded.maxCount
  rw [guildRanksMaxCount] at maxCount
  exact getRanksSize_eq (by omega)

theorem getLowestRankId_eq {roster : Roster}
    (nonempty : 0 < roster.ranks.length) (small : roster.ranks.length ≤ 2 ^ 8) :
    roster.getLowestRankId = roster.ranks.length - 1 := by
  rw [Roster.getLowestRankId]
  omega

theorem Bounded.getLowestRankId {roster : Roster} (bounded : Bounded roster) :
    roster.getLowestRankId = roster.ranks.length - 1 := by
  have minCount := bounded.minCount
  have maxCount := bounded.maxCount
  rw [guildRanksMinCount] at minCount
  rw [guildRanksMaxCount] at maxCount
  exact getLowestRankId_eq (by omega) (by omega)

theorem Bounded.lowest_bounds {roster : Roster} (bounded : Bounded roster) :
    4 ≤ roster.getLowestRankId ∧ roster.getLowestRankId ≤ 9 := by
  have minCount := bounded.minCount
  have maxCount := bounded.maxCount
  rw [guildRanksMinCount] at minCount
  rw [guildRanksMaxCount] at maxCount
  rw [bounded.getLowestRankId]
  omega

/-! ## Ranks of members -/

section ChangeRank

variable {roster : Roster} {chosen : Member → Bool} {newRank : Nat}

theorem mem_changeRankWhere {member : Member} :
    member ∈ (roster.changeRankWhere chosen newRank).members ↔
      ∃ old ∈ roster.members,
        (if chosen old then { old with rankId := newRank } else old) = member := by
  simp [Roster.changeRankWhere]

theorem Bounded.changeRankWhere
    (bounded : Bounded roster) (small : newRank ≤ guildRanksMaxCount) :
    Bounded (roster.changeRankWhere chosen newRank) where
  __ := bounded
  rank := by
    intro member present
    obtain ⟨old, oldPresent, rfl⟩ := mem_changeRankWhere.mp present
    split_ifs
    · exact small
    · exact bounded.rank old oldPresent
  guilded := by
    intro member present
    obtain ⟨old, oldPresent, rfl⟩ := mem_changeRankWhere.mp present
    have oldGuilded := bounded.guilded old oldPresent
    split_ifs
    all_goals exact oldGuilded
  memberRows := by
    apply map_keys bounded.memberRows
    intro row
    split_ifs
    all_goals rfl

end ChangeRank

theorem Bounded.setLeaderGUID {roster : Roster} (bounded : Bounded roster) (guid : Nat) :
    Bounded (roster.setLeaderGUID guid) := by
  have leader : Bounded { roster with leaderGuid := guid } :=
    { bounded with }
  have ranked : Bounded ({ roster with leaderGuid := guid }.changeRank guid grGuildmaster) :=
    leader.changeRankWhere (by decide)
  exact { ranked with }

theorem Bounded.handleSetLeader
    {roster : Roster} (bounded : Bounded roster) (player target : Nat) :
    Bounded (roster.handleSetLeader player target) := by
  unfold Roster.handleSetLeader
  split
  · exact bounded
  · split
    · exact (bounded.setLeaderGUID _).changeRankWhere (by decide)
    · exact bounded

theorem Bounded.changeMemberRank
    {roster : Roster} (bounded : Bounded roster) (guid newRank : Nat) :
    Bounded (roster.changeMemberRank guid newRank) := by
  unfold Roster.changeMemberRank
  split_ifs with exists_
  · split
    · refine bounded.changeRankWhere ?_
      have lowest := bounded.lowest_bounds
      rw [guildRanksMaxCount]
      omega
    · exact bounded
  · exact bounded

/-- What a promotion or demotion can do, and what was checked for it. -/
inductive RankUpdate (roster : Roster) (player target : Nat) : Roster → Prop where
  | refused : RankUpdate roster player target roster
  | demoted (member memberMe : Member)
      (found : roster.getMember target = some member)
      (foundMe : roster.getMember player = some memberMe)
      (lower : memberMe.rankId < member.rankId)
      (notLowest : member.rankId < roster.getLowestRankId) :
      RankUpdate roster player target
        (roster.changeRank member.guid ((member.rankId + 1) % 2 ^ 8))
  | promoted (member memberMe : Member)
      (found : roster.getMember target = some member)
      (foundMe : roster.getMember player = some memberMe)
      (lower : (memberMe.rankId + 1) % 2 ^ 8 < member.rankId) :
      RankUpdate roster player target
        (roster.changeRank member.guid ((member.rankId + (2 ^ 8 - 1)) % 2 ^ 8))

theorem handleUpdateMemberRank_cases
    {roster next : Roster} {player target : Nat} {demote : Bool}
    (handled : roster.handleUpdateMemberRank player target demote = next) :
    RankUpdate roster player target next := by
  unfold Roster.handleUpdateMemberRank at handled
  cases demote with
  | true =>
      simp only [if_true, Member.isRankNotLower, decide_eq_true_eq] at handled
      split at handled
      · exact handled ▸ .refused
      · split at handled
        · rename_i member memberMe found foundMe
          split_ifs at handled with self notLower lowest
          · exact handled ▸ .refused
          · exact handled ▸ .refused
          · exact handled ▸ .refused
          · exact handled ▸
              .demoted member memberMe found foundMe (by omega) (by omega)
        · exact handled ▸ .refused
  | false =>
      simp only [Bool.false_eq_true, if_false, Member.isRankNotLower,
        decide_eq_true_eq] at handled
      split at handled
      · exact handled ▸ .refused
      · split at handled
        · rename_i member memberMe found foundMe
          split_ifs at handled with self notLower
          · exact handled ▸ .refused
          · exact handled ▸ .refused
          · exact handled ▸ .promoted member memberMe found foundMe (by omega)
        · exact handled ▸ .refused

theorem Bounded.handleUpdateMemberRank
    {roster : Roster} (bounded : Bounded roster)
    (player target : Nat) (demote : Bool) :
    Bounded (roster.handleUpdateMemberRank player target demote) := by
  have lowest := bounded.lowest_bounds
  generalize handled : roster.handleUpdateMemberRank player target demote = next
  cases handleUpdateMemberRank_cases handled with
  | refused => exact bounded
  | demoted member memberMe found foundMe lower notLowest =>
      refine bounded.changeRankWhere ?_
      rw [guildRanksMaxCount]
      omega
  | promoted member memberMe found foundMe lower =>
      refine bounded.changeRankWhere ?_
      have rank := bounded.rank member (mem_of_find found)
      rw [guildRanksMaxCount] at rank ⊢
      omega

/-! ## Rank records -/

theorem KeyedRanks.nil : KeyedRanks [] :=
  ⟨List.nodup_nil, by simp⟩

theorem KeyedRanks.insertNew {ranks : List RankInfo} (keyed : KeyedRanks ranks)
    {info : RankInfo} (byte : info.rankId < 2 ^ 8) :
    KeyedRanks (Table.insertNew RankInfo.rankId ranks info) := by
  refine ⟨insertNew_keys keyed.keys info, ?_⟩
  intro row member
  unfold Table.insertNew at member
  split_ifs at member
  · exact keyed.bytes row member
  · rcases List.mem_append.mp member with old | new
    · exact keyed.bytes row old
    · rw [List.mem_singleton.mp new]
      exact byte

theorem KeyedRanks.filter {ranks : List RankInfo} (keyed : KeyedRanks ranks)
    (keep : RankInfo → Bool) : KeyedRanks (ranks.filter keep) where
  keys := filter_keys keyed.keys keep
  bytes := fun row member => keyed.bytes row (List.mem_of_mem_filter member)

theorem KeyedRanks.modify {ranks : List RankInfo} (keyed : KeyedRanks ranks)
    (rankId : Nat) {change : RankInfo → RankInfo}
    (same : ∀ row, (change row).rankId = row.rankId) :
    KeyedRanks (Table.modify RankInfo.rankId ranks rankId change) := by
  refine ⟨modify_keys keyed.keys rankId same, ?_⟩
  intro row member
  rcases mem_modify.mp member with ⟨old, _⟩ | ⟨old, oldMember, _, rfl⟩
  · exact keyed.bytes row old
  · rw [same]
    exact keyed.bytes old oldMember

theorem Bounded.handleAddNewRank
    {roster : Roster} (bounded : Bounded roster) (player : Nat) (name : String) :
    Bounded (roster.handleAddNewRank player name) := by
  unfold Roster.handleAddNewRank
  split_ifs with full leader
  · exact bounded
  · unfold Roster.createRank
    dsimp only
    rw [if_neg full]
    have size := bounded.getRanksSize
    rw [guildRanksMaxCount, size] at full
    constructor
    · have minCount := bounded.minCount
      rw [List.length_append]
      omega
    · rw [List.length_append, guildRanksMaxCount]
      simp only [List.length_singleton]
      omega
    · exact bounded.rank
    · exact bounded.guilded
    · refine bounded.rows.insertNew ?_
      dsimp only
      omega
    · exact bounded.memberRows
  · exact bounded

theorem Bounded.removeRank
    {roster : Roster} (bounded : Bounded roster) (player rankId : Nat) :
    Bounded (roster.removeRank player rankId) := by
  unfold Roster.removeRank
  split_ifs with refused
  · exact bounded
  · rw [bounded.getRanksSize] at refused
    constructor
    · rw [List.length_dropLast]
      omega
    · have maxCount := bounded.maxCount
      rw [List.length_dropLast]
      omega
    · exact bounded.rank
    · exact bounded.guilded
    · exact bounded.rows.filter _
    · exact bounded.memberRows

theorem setRankField_frame {Value : Type} [DecidableEq Value]
    (roster : Roster) (rankId : Nat)
    (get : RankInfo → Value) (set : Value → RankInfo → RankInfo)
    (value : RankInfo → Value) :
    (roster.setRankField rankId get set value).members = roster.members ∧
      (roster.setRankField rankId get set value).leaderGuid = roster.leaderGuid := by
  unfold Roster.setRankField
  split
  · exact ⟨rfl, rfl⟩
  · split_ifs
    all_goals exact ⟨rfl, rfl⟩

theorem Bounded.setRankField {Value : Type} [DecidableEq Value]
    {roster : Roster} (bounded : Bounded roster) (rankId : Nat)
    (get : RankInfo → Value) {set : Value → RankInfo → RankInfo}
    (value : RankInfo → Value)
    (same : ∀ new row, (set new row).rankId = row.rankId) :
    Bounded (roster.setRankField rankId get set value) := by
  unfold Roster.setRankField
  split
  · exact bounded
  · split_ifs
    · exact bounded
    · constructor
      · rw [List.length_modify]
        exact bounded.minCount
      · rw [List.length_modify]
        exact bounded.maxCount
      · exact bounded.rank
      · exact bounded.guilded
      · exact bounded.rows.modify _ (same _)
      · exact bounded.memberRows

theorem Bounded.handleSetRankInfo
    {roster : Roster} (bounded : Bounded roster) (player rankId : Nat)
    (name : String) (rights money : UInt32) :
    Bounded (roster.handleSetRankInfo player rankId name rights money) := by
  unfold Roster.handleSetRankInfo
  split
  · exact bounded
  · have named : Bounded (roster.setName rankId name) :=
      bounded.setRankField rankId _ _ fun _ _ => rfl
    have ranked : Bounded ((roster.setName rankId name).setRights rankId rights) :=
      named.setRankField rankId _ _ fun _ _ => rfl
    exact ranked.setRankField rankId _ _ fun _ _ => rfl

/-! ## Joining and leaving -/

theorem Bounded.addMember
    {roster : Roster} (bounded : Bounded roster) (guid : Nat) :
    Bounded (roster.addMember guid guildRankNone) := by
  have lowest := bounded.lowest_bounds
  unfold Roster.addMember
  dsimp only
  rw [if_pos rfl]
  split_ifs
  · exact bounded
  · exact bounded
  · refine ⟨bounded.minCount, bounded.maxCount, ?_, ?_, bounded.rows,
      insertNew_keys bounded.memberRows _⟩
    · intro member present
      rcases mem_assign.mp present with ⟨old, _⟩ | rfl
      · exact bounded.rank member old
      · rw [guildRanksMaxCount]
        dsimp only
        omega
    · intro member present
      rcases mem_assign.mp present with ⟨old, _⟩ | rfl
      · exact List.mem_cons_of_mem _ (bounded.guilded member old)
      · exact List.mem_cons_self

theorem Bounded.eraseMember
    {roster : Roster} (bounded : Bounded roster) (guid : Nat) :
    Bounded (roster.eraseMember guid) where
  __ := bounded
  rank := fun member present => bounded.rank member (mem_erase.mp present).1
  guilded := by
    intro member present
    obtain ⟨old, other⟩ := mem_erase.mp present
    exact List.mem_filter.mpr ⟨bounded.guilded member old, by simpa using other⟩
  memberRows := erase_keys bounded.memberRows guid

theorem Bounded.disband {roster : Roster} (bounded : Bounded roster) :
    Bounded roster.disband := by
  have erased : ∀ (guids : List Nat) (current : Roster), Bounded current →
      Bounded (guids.foldl Roster.eraseMember current) := by
    intro guids
    induction guids with
    | nil => exact fun current holds => holds
    | cons guid rest induction =>
        exact fun current holds => induction _ (holds.eraseMember guid)
  have final := erased (roster.members.map Member.guid) roster bounded
  exact { final with rows := KeyedRanks.nil }

theorem Bounded.deleteMember (environment : GuildEnvironment)
    {roster : Roster} (bounded : Bounded roster) (guid : Nat) (isDisbanding : Bool) :
    Bounded (roster.deleteMember environment guid isDisbanding) := by
  unfold Roster.deleteMember
  split_ifs
  · split
    · exact bounded.disband
    · exact (bounded.setLeaderGUID _).eraseMember guid
  · exact bounded.eraseMember guid

theorem Bounded.handleLeaveMember (environment : GuildEnvironment)
    {roster : Roster} (bounded : Bounded roster) (player : Nat) :
    Bounded (roster.handleLeaveMember environment player) := by
  unfold Roster.handleLeaveMember
  split_ifs
  · exact bounded
  · exact bounded.disband
  · exact bounded.deleteMember environment player false

theorem Bounded.handleRemoveMember (environment : GuildEnvironment)
    {roster : Roster} (bounded : Bounded roster) (player target : Nat) :
    Bounded (roster.handleRemoveMember environment player target) := by
  unfold Roster.handleRemoveMember
  split
  · exact bounded
  · split
    · exact bounded
    · split
      · exact bounded
      · split
        · exact bounded
        · split
          · exact bounded
          · exact bounded.deleteMember environment _ false

/-! ## Loading -/

theorem KeyedRanks.length_le {ranks : List RankInfo} (keyed : KeyedRanks ranks) :
    ranks.length ≤ 2 ^ 8 := by
  have inside : ranks.map RankInfo.rankId ⊆ List.range (2 ^ 8) := by
    intro rankId member
    obtain ⟨row, rowMember, rfl⟩ := List.mem_map.mp member
    exact List.mem_range.mpr (keyed.bytes row rowMember)
  simpa using (keyed.keys.subperm inside).length_le

/-- The ranks of a new guild. -/
def defaultRanks (environment : GuildEnvironment) : List RankInfo :=
  let chat := grRightGchatlisten ||| grRightGchatspeak
  let name := environment.defaultRankName
  [⟨0, name 0, grRightAll, guildWithdrawMoneyUnlimited⟩, ⟨1, name 1, grRightAll, 0⟩,
    ⟨2, name 2, chat, 0⟩, ⟨3, name 3, chat, 0⟩, ⟨4, name 4, chat, 0⟩]

theorem createDefaultGuildRanks_eq
    (environment : GuildEnvironment) (roster : Roster) :
    { roster with ranks := [] }.createDefaultGuildRanks environment =
      { roster with
        ranks := defaultRanks environment
        rows.ranks := defaultRanks environment } :=
  rfl

/-- Ranks which need no repair. -/
structure WholeRanks (roster : Roster) : Prop where
  minCount : guildRanksMinCount ≤ roster.ranks.length
  maxCount : roster.ranks.length ≤ guildRanksMaxCount
  ids : roster.ranks.map RankInfo.rankId = List.range roster.ranks.length

theorem wholeRanks_of_not_broken {roster : Roster}
    (small : roster.ranks.length ≤ 2 ^ 8)
    (whole : roster.brokenRanks = false) : WholeRanks roster := by
  simp only [Roster.brokenRanks, Bool.or_eq_false_iff, decide_eq_false_iff_not,
    List.any_eq_false, List.mem_range, Bool.not_eq_true] at whole
  obtain ⟨⟨minCount, maxCount⟩, ids⟩ := whole
  have size : roster.getRanksSize = roster.ranks.length := by
    refine getRanksSize_eq (lt_of_le_of_ne small ?_)
    intro full
    rw [Roster.getRanksSize, full, guildRanksMinCount] at minCount
    omega
  rw [size] at minCount maxCount ids
  refine ⟨by omega, by omega, List.ext_getElem (by simp) ?_⟩
  intro index inside _
  rw [List.length_map] at inside
  have id := ids index inside
  rw [Roster.getRankInfo, size, if_pos inside, List.getElem?_eq_getElem inside] at id
  simpa using id

theorem defaultRanks_whole (environment : GuildEnvironment) (roster : Roster) :
    WholeRanks { roster with
      ranks := defaultRanks environment
      rows.ranks := defaultRanks environment } :=
  ⟨by simp [defaultRanks, guildRanksMinCount], by simp [defaultRanks, guildRanksMaxCount],
    by simp [defaultRanks, List.range, List.range.loop]⟩

/-- After the repair the ranks are whole, and the rest of the guild is as it was. -/
theorem validateRanks_whole (environment : GuildEnvironment) {roster : Roster}
    (small : roster.ranks.length ≤ 2 ^ 8) (rows : KeyedRanks roster.rows.ranks) :
    WholeRanks (roster.validateRanks environment) ∧
      KeyedRanks (roster.validateRanks environment).rows.ranks := by
  unfold Roster.validateRanks
  split_ifs with broken
  · rw [createDefaultGuildRanks_eq]
    refine ⟨defaultRanks_whole environment roster, ?_, ?_⟩
    · simp [defaultRanks]
    · simp [defaultRanks]
  · exact ⟨wholeRanks_of_not_broken small (Bool.not_eq_true _ |>.mp broken), rows⟩

theorem validateRanks_members (environment : GuildEnvironment) (roster : Roster) :
    (roster.validateRanks environment).members = roster.members ∧
      (roster.validateRanks environment).guilded = roster.guilded ∧
      (roster.validateRanks environment).rows.members = roster.rows.members := by
  unfold Roster.validateRanks
  split_ifs
  · rw [createDefaultGuildRanks_eq]
    exact ⟨rfl, rfl, rfl⟩
  · exact ⟨rfl, rfl, rfl⟩

/-- Members of a rank above the lowest by two or more come down to the lowest. -/
theorem validateMembers_bounded {roster : Roster}
    (whole : WholeRanks roster) (rows : KeyedRanks roster.rows.ranks)
    (guilded : ∀ member ∈ roster.members, member.guid ∈ roster.guilded)
    (memberRows : (roster.rows.members.map Member.guid).Nodup) :
    Bounded roster.validateMembers where
  __ := whole
  rank := by
    have minCount := whole.minCount
    have maxCount := whole.maxCount
    rw [guildRanksMinCount] at minCount
    rw [guildRanksMaxCount] at maxCount
    have size : roster.getRanksSize = roster.ranks.length :=
      getRanksSize_eq (by omega)
    have lowest : roster.getLowestRankId = roster.ranks.length - 1 :=
      getLowestRankId_eq (by omega) (by omega)
    intro member present
    obtain ⟨old, oldPresent, rfl⟩ := mem_changeRankWhere.mp present
    rw [size, lowest, guildRanksMaxCount]
    split_ifs with above
    · dsimp only
      omega
    · simp only [gt_iff_lt, decide_eq_true_eq] at above
      omega
  guilded := by
    intro member present
    obtain ⟨old, oldPresent, rfl⟩ := mem_changeRankWhere.mp present
    have oldGuilded := guilded old oldPresent
    split_ifs
    all_goals exact oldGuilded
  rows := rows
  memberRows := by
    apply map_keys memberRows
    intro row
    split_ifs
    all_goals rfl

theorem Bounded.validateLeader (environment : GuildEnvironment)
    {roster : Roster} (bounded : Bounded roster) :
    Bounded (roster.validateLeader environment) := by
  unfold Roster.validateLeader
  split
  · exact bounded.deleteMember environment _ false
  · split_ifs
    · exact bounded
    · exact bounded.setLeaderGUID _

theorem Bounded.validateMasters (environment : GuildEnvironment)
    {roster : Roster} (bounded : Bounded roster) :
    Bounded (roster.validateMasters environment) := by
  unfold Roster.validateMasters
  split_ifs
  · exact bounded
  · exact bounded.changeRankWhere (by decide)

theorem validate_bounded (environment : GuildEnvironment) {roster : Roster}
    (small : roster.ranks.length ≤ 2 ^ 8) (rows : KeyedRanks roster.rows.ranks)
    (guilded : ∀ member ∈ roster.members, member.guid ∈ roster.guilded)
    (memberRows : (roster.rows.members.map Member.guid).Nodup) :
    Bounded (roster.validate environment) := by
  obtain ⟨whole, keyed⟩ := validateRanks_whole environment small rows
  obtain ⟨members, guildedEq, memberRowsEq⟩ := validateRanks_members environment roster
  have ranked : Bounded (roster.validateRanks environment).validateMembers := by
    refine validateMembers_bounded whole keyed ?_ ?_
    · rw [members, guildedEq]
      exact guilded
    · rw [memberRowsEq]
      exact memberRows
  have led := ranked.validateLeader environment
  unfold Roster.validate
  dsimp only
  split_ifs
  · exact led
  · exact led.validateMasters environment

theorem load_bounded (environment : GuildEnvironment) (leaderGuid : Nat)
    {ranks : List RankInfo} (keyed : KeyedRanks ranks)
    {members : List Member} (memberKeys : (members.map Member.guid).Nodup)
    (guilded characters : List Nat) :
    Bounded (Roster.load environment leaderGuid ranks members guilded characters) := by
  unfold Roster.load
  refine validate_bounded environment ?_ keyed ?_ (filter_keys memberKeys _)
  · simpa [Roster.fromRows] using keyed.length_le
  · intro member present
    exact List.mem_append_left _ (List.mem_map_of_mem present)

theorem Bounded.reload (environment : GuildEnvironment)
    {roster : Roster} (bounded : Bounded roster) :
    Bounded (roster.reload environment) := by
  unfold Roster.reload
  split
  · exact bounded
  · exact load_bounded environment _ bounded.rows bounded.memberRows _ _

theorem StoredGuild.load_bounded
    (environment : GuildEnvironment) (stored : StoredGuild)
    (guilded characters : List Nat) :
    Bounded (stored.load environment guilded characters) :=
  Guilds.load_bounded environment _ ⟨stored.rankKeys.imp Nat.ne_of_lt, stored.rankBytes⟩
    stored.memberKeys _ _

theorem create_eq (environment : GuildEnvironment) {leader : Nat}
    {guilded characters : List Nat}
    (free : leader ∉ guilded) (known : leader ∈ characters) :
    Roster.create environment leader guilded characters =
      { leaderGuid := leader
        ranks := defaultRanks environment
        members := [{ guid := leader, rankId := grGuildmaster }]
        rows :=
          { leaderGuid := some leader
            ranks := defaultRanks environment
            members := [{ guid := leader, rankId := grGuildmaster }] }
        guilded := leader :: guilded
        characters
        disbanded := false } := by
  have ranks :
      (Roster.empty leader guilded characters).createDefaultGuildRanks environment =
        { Roster.empty leader guilded characters with
          ranks := defaultRanks environment
          rows.ranks := defaultRanks environment } :=
    createDefaultGuildRanks_eq environment (Roster.empty leader guilded characters)
  rw [Roster.create, ranks]
  unfold Roster.addMember
  simp [Roster.empty, free, known, grGuildmaster, guildRankNone, assign, erase, insertNew, contains]

theorem GuildOrigin.start_bounded
    (environment : GuildEnvironment) (origin : GuildOrigin) :
    Bounded (origin.start environment) := by
  cases origin with
  | loaded stored guilded characters =>
      exact stored.load_bounded environment guilded characters
  | created leader guilded characters free known =>
      rw [GuildOrigin.start, create_eq environment free known]
      constructor
      · simp [defaultRanks, guildRanksMinCount]
      · simp [defaultRanks, guildRanksMaxCount]
      · simp [grGuildmaster]
      · simp
      · exact ⟨by simp [defaultRanks], by simp [defaultRanks]⟩
      · simp

/-- No event leaves the bounds. -/
theorem Bounded.step (environment : GuildEnvironment)
    {roster : Roster} (bounded : Bounded roster) (event : GuildEvent) :
    Bounded (step environment roster event) := by
  unfold Guilds.step
  split_ifs
  · exact bounded
  · cases event with
    | setLeader player target => exact bounded.handleSetLeader player target
    | updateMemberRank player target demote =>
        exact bounded.handleUpdateMemberRank player target demote
    | changeMemberRank guid newRank => exact bounded.changeMemberRank guid newRank
    | addNewRank player name => exact bounded.handleAddNewRank player name
    | removeLowestRank player => exact bounded.removeRank player _
    | setRankInfo player rankId name rights money =>
        exact bounded.handleSetRankInfo player rankId name rights money
    | addMember guid => exact bounded.addMember guid
    | leaveMember player => exact bounded.handleLeaveMember environment player
    | removeMember player target =>
        exact bounded.handleRemoveMember environment player target
    | deleteMember guid isDisbanding =>
        exact bounded.deleteMember environment guid isDisbanding
    | deleteCharacter guid =>
        have deleted := bounded.deleteMember environment guid false
        exact { deleted with }
    | createCharacter guid => exact { bounded with }
    | reload => exact bounded.reload environment

theorem bounded_throughout (environment : GuildEnvironment)
    (origin : GuildOrigin) (events : List GuildEvent) :
    Transition.Throughout (step environment) Bounded (origin.start environment) events :=
  Transition.throughout_of_invariant
    (fun _ event bounded _ => bounded.step environment event)
    (origin.start_bounded environment)
    (Transition.everyStep_iff_forall.mpr fun _ _ => trivial)

end RealmServer.Guilds
