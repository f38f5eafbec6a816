import RealmServer.Lib.Transition
import RealmServer.Guilds.RosterBounds

/-!
# The guild leader

The leader is recorded twice: by `m_leaderGuid` and by the rank of a member.
`OneLeader` says that the two agree.  Loading repairs whatever the database
holds; after that every operation keeps the agreement, with three exceptions
which `KeepsOneLeader` names.  `HandleSetLeader` gives the new leader his rank
before it takes the rank from the old one, so a leader who names himself ends
as an officer.
-/

namespace RealmServer.Guilds

open Table Transition

/-- The leader is a member, and the members of rank zero are the leader. -/
structure OneLeader (roster : Roster) : Prop where
  present : ∃ member ∈ roster.members, member.guid = roster.leaderGuid
  master : ∀ member ∈ roster.members,
    member.rankId = grGuildmaster ↔ member.guid = roster.leaderGuid

def HasOneLeader (roster : Roster) : Prop :=
  roster.disbanded = true ∨ OneLeader roster

/-- Nothing but the members and the leader matters. -/
theorem OneLeader.of_eq {roster next : Roster} (one : OneLeader roster)
    (members : next.members = roster.members)
    (leaderGuid : next.leaderGuid = roster.leaderGuid) : OneLeader next := by
  constructor
  · rw [members, leaderGuid]
    exact one.present
  · rw [members, leaderGuid]
    exact one.master

/-! ## Ranks of members -/

theorem isLeader_iff {roster : Roster} (one : OneLeader roster) (player : Nat) :
    roster.isLeader player = true ↔ player = roster.leaderGuid := by
  unfold Roster.isLeader
  constructor
  · intro leader
    rcases Bool.or_eq_true _ _ |>.mp leader with same | ranked
    · exact beq_iff_eq.mp same
    · obtain ⟨member, found, master⟩ := Option.any_eq_true _ _ |>.mp ranked
      rw [← key_of_find found]
      exact (one.master member (mem_of_find found)).mp (beq_iff_eq.mp master)
  · rintro rfl
    simp

theorem getMember_isSome_iff (roster : Roster) (guid : Nat) :
    (∃ member, roster.getMember guid = some member) ↔
      ∃ member ∈ roster.members, member.guid = guid := by
  rw [← Option.ne_none_iff_exists', Ne, Roster.getMember, find_eq_none_iff]
  simp

theorem OneLeader.changeRankWhere
    {roster : Roster} (one : OneLeader roster)
    {chosen : Member → Bool} {newRank : Nat}
    (agrees : ∀ member ∈ roster.members, chosen member = true →
      (newRank = grGuildmaster ↔ member.guid = roster.leaderGuid)) :
    OneLeader (roster.changeRankWhere chosen newRank) := by
  constructor
  · obtain ⟨member, present, leader⟩ := one.present
    refine ⟨_, mem_changeRankWhere.mpr ⟨member, present, rfl⟩, ?_⟩
    split_ifs
    all_goals exact leader
  · intro member present
    obtain ⟨old, oldPresent, rfl⟩ := mem_changeRankWhere.mp present
    split_ifs with isChosen
    · exact agrees old oldPresent isChosen
    · exact one.master old oldPresent

theorem OneLeader.changeRank
    {roster : Roster} (one : OneLeader roster) {guid newRank : Nat}
    (agrees : newRank = grGuildmaster ↔ guid = roster.leaderGuid) :
    OneLeader (roster.changeRank guid newRank) := by
  apply one.changeRankWhere
  intro member _ isChosen
  rw [beq_iff_eq.mp isChosen]
  exact agrees

/-- The rank goes to a member who is not the leader yet. -/
theorem setLeader_oneLeader
    {roster : Roster} (one : OneLeader roster) {target : Nat}
    (member : ∃ member ∈ roster.members, member.guid = target)
    (other : target ≠ roster.leaderGuid) :
    OneLeader ((roster.setLeaderGUID target).changeRank roster.leaderGuid grOfficer) := by
  constructor
  · obtain ⟨member, present, rfl⟩ := member
    have ranked : { member with rankId := grGuildmaster } ∈
        (roster.setLeaderGUID member.guid).members :=
      mem_changeRankWhere.mpr ⟨member, present, by simp⟩
    refine ⟨{ member with rankId := grGuildmaster },
      mem_changeRankWhere.mpr ⟨_, ranked, ?_⟩, rfl⟩
    simp [other]
  · intro last present
    obtain ⟨middle, middlePresent, rfl⟩ := mem_changeRankWhere.mp present
    obtain ⟨first, firstPresent, rfl⟩ := mem_changeRankWhere.mp middlePresent
    have leader : ((roster.setLeaderGUID target).changeRank roster.leaderGuid
        grOfficer).leaderGuid = target := rfl
    have master := one.master first firstPresent
    rw [leader]
    by_cases isTarget : first.guid = target
    · simp [isTarget, other]
    · by_cases isOld : first.guid = roster.leaderGuid
      · simp [isOld, Ne.symm other, grOfficer, grGuildmaster]
      · simp [isTarget, isOld, master]

/-- A leader who names himself ends as an officer. -/
theorem setLeader_self
    (roster : Roster) :
    ¬ OneLeader ((roster.setLeaderGUID roster.leaderGuid).changeRank
      roster.leaderGuid grOfficer) := by
  intro after
  obtain ⟨member, present, leader⟩ := after.present
  have master := (after.master member present).mpr leader
  obtain ⟨middle, _, rfl⟩ := mem_changeRankWhere.mp present
  have isLeader : (middle.guid == roster.leaderGuid) = true := by
    split_ifs at leader with chosen
    · exact chosen
    · exact absurd (beq_iff_eq.mpr leader) chosen
  rw [if_pos isLeader] at master
  simp [grOfficer, grGuildmaster] at master

theorem OneLeader.handleUpdateMemberRank
    {roster : Roster} (bounded : Bounded roster) (one : OneLeader roster)
    (player target : Nat) (demote : Bool) :
    OneLeader (roster.handleUpdateMemberRank player target demote) := by
  generalize handled : roster.handleUpdateMemberRank player target demote = next
  have lowest := bounded.lowest_bounds
  cases handleUpdateMemberRank_cases handled with
  | refused => exact one
  | demoted member memberMe found foundMe lower notLowest =>
      have master := one.master member (mem_of_find found)
      rw [grGuildmaster] at master
      refine one.changeRank (iff_of_false ?_ ?_)
      · rw [grGuildmaster]
        omega
      · exact fun leader => by
          have zero := master.mpr leader
          omega
  | promoted member memberMe found foundMe lower =>
      have master := one.master member (mem_of_find found)
      have rank := bounded.rank member (mem_of_find found)
      have rankMe := bounded.rank memberMe (mem_of_find foundMe)
      rw [guildRanksMaxCount] at rank rankMe
      rw [grGuildmaster] at master
      refine one.changeRank (iff_of_false ?_ ?_)
      · rw [grGuildmaster]
        omega
      · exact fun leader => by
          have zero := master.mpr leader
          omega

/-! ## Joining and leaving -/

theorem OneLeader.addMember
    {roster : Roster} (bounded : Bounded roster) (one : OneLeader roster) (guid : Nat) :
    OneLeader (roster.addMember guid guildRankNone) := by
  have lowest := bounded.lowest_bounds
  unfold Roster.addMember
  dsimp only
  rw [if_pos rfl]
  split_ifs with guilded
  · exact one
  · exact one
  · obtain ⟨leader, present, isLeader⟩ := one.present
    have other : guid ≠ roster.leaderGuid := by
      rintro rfl
      apply guilded
      simpa [isLeader] using bounded.guilded leader present
    constructor
    · exact ⟨leader, mem_assign.mpr (.inl ⟨present, by simpa [isLeader] using other.symm⟩),
        isLeader⟩
    · intro member present
      rcases mem_assign.mp present with ⟨old, _⟩ | rfl
      · exact one.master member old
      · refine iff_of_false ?_ other
        rw [grGuildmaster]
        dsimp only
        omega

theorem OneLeader.eraseMember
    {roster : Roster} (one : OneLeader roster) {guid : Nat}
    (other : guid ≠ roster.leaderGuid) : OneLeader (roster.eraseMember guid) := by
  constructor
  · obtain ⟨leader, present, isLeader⟩ := one.present
    exact ⟨leader, mem_erase.mpr ⟨present, isLeader ▸ other.symm⟩, isLeader⟩
  · intro member present
    exact one.master member (mem_erase.mp present).1

theorem betterLeader_cases {guid : Nat} {best : Option Member}
    {member newLeader : Member}
    (better : betterLeader guid best member = some newLeader) :
    (newLeader = member ∧ member.guid ≠ guid) ∨ best = some newLeader := by
  unfold betterLeader at better
  split_ifs at better with skipped
  · exact .inr better
  · cases best with
    | none => exact .inl ⟨(Option.some.inj better).symm, skipped⟩
    | some best =>
        dsimp only at better
        split_ifs at better
        · exact .inl ⟨(Option.some.inj better).symm, skipped⟩
        · exact .inr better

theorem chooseLeader_mem {guid : Nat} {members : List Member} {newLeader : Member}
    (chosen : chooseLeader guid members = some newLeader) :
    newLeader ∈ members ∧ newLeader.guid ≠ guid := by
  suffices walk : ∀ (rest : List Member) (best : Option Member),
      rest.foldl (betterLeader guid) best = some newLeader →
      (newLeader ∈ rest ∧ newLeader.guid ≠ guid) ∨ best = some newLeader by
    rcases walk members none chosen with found | absurd
    · exact found
    · simp at absurd
  intro rest
  induction rest with
  | nil => exact fun best same => .inr same
  | cons member rest induction =>
      intro best same
      rcases induction _ same with ⟨later, other⟩ | now
      · exact .inl ⟨List.mem_cons_of_mem _ later, other⟩
      · rcases betterLeader_cases now with ⟨rfl, other⟩ | before
        · exact .inl ⟨List.mem_cons_self, other⟩
        · exact .inr before

/-- The office passes on to the chosen member, and the old leader goes. -/
theorem OneLeader.replace
    {roster : Roster} (one : OneLeader roster) {newLeader : Member}
    (present : newLeader ∈ roster.members) (other : newLeader.guid ≠ roster.leaderGuid) :
    OneLeader ((roster.setLeaderGUID newLeader.guid).eraseMember roster.leaderGuid) := by
  constructor
  · have ranked : { newLeader with rankId := grGuildmaster } ∈
        (roster.setLeaderGUID newLeader.guid).members :=
      mem_changeRankWhere.mpr ⟨newLeader, present, by simp⟩
    exact ⟨_, mem_erase.mpr ⟨ranked, other⟩, rfl⟩
  · intro member remains
    obtain ⟨changed, notOld⟩ := mem_erase.mp remains
    obtain ⟨old, oldPresent, rfl⟩ := mem_changeRankWhere.mp changed
    have master := one.master old oldPresent
    have leader : ((roster.setLeaderGUID newLeader.guid).eraseMember
        roster.leaderGuid).leaderGuid = newLeader.guid := rfl
    rw [leader]
    split_ifs at notOld ⊢ with isNew
    · simpa using isNew
    · simp only [beq_iff_eq] at isNew
      rw [master]
      exact iff_of_false notOld isNew

theorem deleteMember_hasOneLeader (environment : GuildEnvironment)
    {roster : Roster} (one : OneLeader roster) (guid : Nat) :
    HasOneLeader (roster.deleteMember environment guid false) := by
  unfold Roster.deleteMember
  split_ifs with leader
  · obtain ⟨rfl, _⟩ := leader
    split
    · exact .inl rfl
    · rename_i newLeader chosen
      obtain ⟨member, other⟩ := chooseLeader_mem chosen
      have present := (environment.iterationOrder_perm roster.members).mem_iff.mp member
      exact .inr (one.replace present other)
  · simp only [Bool.not_false, and_true] at leader
    exact .inr (one.eraseMember (Ne.symm leader))

theorem handleLeaveMember_hasOneLeader (environment : GuildEnvironment)
    {roster : Roster} (one : OneLeader roster) (player : Nat) :
    HasOneLeader (roster.handleLeaveMember environment player) := by
  unfold Roster.handleLeaveMember
  split_ifs
  · exact .inr one
  · exact .inl rfl
  · exact deleteMember_hasOneLeader environment one player

theorem handleRemoveMember_hasOneLeader (environment : GuildEnvironment)
    {roster : Roster} (one : OneLeader roster) (player target : Nat) :
    HasOneLeader (roster.handleRemoveMember environment player target) := by
  unfold Roster.handleRemoveMember
  split
  · exact .inr one
  · split
    · exact .inr one
    · split
      · exact .inr one
      · split
        · exact .inr one
        · split
          · exact .inr one
          · exact deleteMember_hasOneLeader environment one _

/-! ## Loading -/

/-- After `validateLeader` the leader is there and has his rank. -/
structure Led (roster : Roster) : Prop where
  present : ∃ member ∈ roster.members, member.guid = roster.leaderGuid
  rank : ∀ member ∈ roster.members,
    member.guid = roster.leaderGuid → member.rankId = grGuildmaster

theorem setLeaderGUID_led {roster : Roster} {guid : Nat}
    (present : ∃ member ∈ roster.members, member.guid = guid) :
    Led (roster.setLeaderGUID guid) := by
  constructor
  · obtain ⟨member, present, rfl⟩ := present
    refine ⟨_, mem_changeRankWhere.mpr ⟨member, present, rfl⟩, ?_⟩
    split_ifs
    all_goals rfl
  · intro member present leader
    obtain ⟨old, _, rfl⟩ := mem_changeRankWhere.mp present
    split_ifs at leader ⊢ with chosen
    · rfl
    · exact absurd (beq_iff_eq.mpr leader) chosen

/-- Whether or not the stored leader is a member, somebody leads afterwards. -/
theorem validateLeader_led (environment : GuildEnvironment) {roster : Roster}
    (keys : ∀ left ∈ roster.members, ∀ right ∈ roster.members,
      left.guid = right.guid → left.rankId = right.rankId) :
    (roster.validateLeader environment).disbanded = true ∨
      Led (roster.validateLeader environment) := by
  unfold Roster.validateLeader
  split
  · rename_i missing
    unfold Roster.deleteMember
    rw [if_pos ⟨rfl, rfl⟩]
    split
    · exact .inl rfl
    · rename_i newLeader chosen
      obtain ⟨member, other⟩ := chooseLeader_mem chosen
      have present := (environment.iterationOrder_perm roster.members).mem_iff.mp member
      have led := setLeaderGUID_led ⟨newLeader, present, rfl⟩
      right
      constructor
      · obtain ⟨leader, leaderPresent, isLeader⟩ := led.present
        exact ⟨leader, mem_erase.mpr ⟨leaderPresent, isLeader ▸ other⟩, isLeader⟩
      · intro member remains
        exact led.rank member (mem_erase.mp remains).1
  · rename_i leader found
    have present := mem_of_find found
    have isLeader := key_of_find found
    split_ifs with master
    · right
      refine ⟨⟨leader, present, isLeader⟩, ?_⟩
      intro member memberPresent same
      rw [keys member memberPresent leader present (same.trans isLeader.symm)]
      exact beq_iff_eq.mp master
    · exact .inr (setLeaderGUID_led ⟨leader, present, rfl⟩)

/-- The other guild masters are set back, unless several are allowed. -/
theorem validateMasters_oneLeader {environment : GuildEnvironment}
    (single : environment.allowMultipleGuildMaster = false)
    {roster : Roster} (led : Led roster) :
    OneLeader (roster.validateMasters environment) := by
  unfold Roster.validateMasters
  rw [single, if_neg Bool.false_ne_true]
  constructor
  · obtain ⟨member, present, leader⟩ := led.present
    refine ⟨_, mem_changeRankWhere.mpr ⟨member, present, rfl⟩, ?_⟩
    split_ifs
    all_goals exact leader
  · intro member present
    obtain ⟨old, oldPresent, rfl⟩ := mem_changeRankWhere.mp present
    have rank := led.rank old oldPresent
    have leader : (roster.changeRankWhere
        (fun member => member.isRank grGuildmaster && member.guid != roster.leaderGuid)
        grOfficer).leaderGuid = roster.leaderGuid := rfl
    rw [leader]
    simp only [Member.isRank, Bool.and_eq_true, beq_iff_eq, bne_iff_ne]
    split_ifs with isOther
    · exact iff_of_false (by simp [grOfficer, grGuildmaster]) isOther.2
    · constructor
      · intro master
        by_contra notLeader
        exact isOther ⟨master, notLeader⟩
      · exact rank

theorem validate_hasOneLeader {environment : GuildEnvironment}
    (single : environment.allowMultipleGuildMaster = false) {roster : Roster}
    (keys : (roster.members.map Member.guid).Nodup) :
    HasOneLeader (roster.validate environment) := by
  have ranked : ∀ left ∈ (roster.validateRanks environment).validateMembers.members,
      ∀ right ∈ (roster.validateRanks environment).validateMembers.members,
        left.guid = right.guid → left.rankId = right.rankId := by
    intro left leftPresent right rightPresent same
    obtain ⟨oldLeft, oldLeftPresent, rfl⟩ := mem_changeRankWhere.mp leftPresent
    obtain ⟨oldRight, oldRightPresent, rfl⟩ := mem_changeRankWhere.mp rightPresent
    rw [(validateRanks_members environment roster).1] at oldLeftPresent oldRightPresent
    have guids : oldLeft.guid = oldRight.guid := by
      split_ifs at same
      all_goals exact same
    have found := find_of_mem keys oldLeftPresent
    rw [guids, find_of_mem keys oldRightPresent] at found
    rw [Option.some.inj found]
  unfold Roster.validate
  dsimp only
  rcases validateLeader_led environment ranked with disbanded | led
  · rw [if_pos disbanded]
    exact .inl disbanded
  · split_ifs with disbanded
    · exact .inl disbanded
    · exact .inr (validateMasters_oneLeader single led)

theorem load_hasOneLeader {environment : GuildEnvironment}
    (single : environment.allowMultipleGuildMaster = false) (leaderGuid : Nat)
    (ranks : List RankInfo) {members : List Member}
    (keys : (members.map Member.guid).Nodup) (guilded characters : List Nat) :
    HasOneLeader
      (Roster.load environment leaderGuid ranks members guilded characters) := by
  unfold Roster.load
  exact validate_hasOneLeader single (filter_keys keys _)

theorem GuildOrigin.start_hasOneLeader {environment : GuildEnvironment}
    (single : environment.allowMultipleGuildMaster = false) (origin : GuildOrigin) :
    HasOneLeader (origin.start environment) := by
  cases origin with
  | loaded stored guilded characters =>
      exact load_hasOneLeader single _ _ stored.memberKeys _ _
  | created leader guilded characters free known =>
      right
      rw [GuildOrigin.start, create_eq environment free known]
      exact ⟨by simp, by simp⟩

theorem reload_hasOneLeader {environment : GuildEnvironment}
    (single : environment.allowMultipleGuildMaster = false)
    {roster : Roster} (bounded : Bounded roster) (one : OneLeader roster) :
    HasOneLeader (roster.reload environment) := by
  unfold Roster.reload
  split
  · exact .inr one
  · exact load_hasOneLeader single _ _ bounded.memberRows _ _

/-! ## Runs -/

/-- The steps after which leader and rank still agree. -/
def KeepsOneLeader (roster : Roster) : GuildEvent → Prop
  | .setLeader player target =>
      roster.disbanded = false → player = roster.leaderGuid → target ≠ player
  | .changeMemberRank guid newRank =>
      roster.disbanded = false → newRank ≤ roster.getLowestRankId →
        (∃ member ∈ roster.members, member.guid = guid) →
        (newRank = grGuildmaster ↔ guid = roster.leaderGuid)
  | .deleteMember guid isDisbanding =>
      roster.disbanded = false → isDisbanding = true → guid ≠ roster.leaderGuid
  | _ => True

theorem hasOneLeader_iff {roster : Roster} (live : roster.disbanded = false) :
    HasOneLeader roster ↔ OneLeader roster := by
  simp [HasOneLeader, live]

theorem handleSetLeader_oneLeader_iff
    {roster : Roster} (one : OneLeader roster) (player target : Nat) :
    OneLeader (roster.handleSetLeader player target) ↔
      (player = roster.leaderGuid → target ≠ player) := by
  unfold Roster.handleSetLeader
  split
  · rename_i noLeader
    rw [Bool.not_eq_true', ← Bool.not_eq_true, isLeader_iff one] at noLeader
    exact iff_of_true one fun leader => absurd leader noLeader
  · rename_i leader
    rw [Bool.not_eq_true', Bool.not_eq_false, isLeader_iff one] at leader
    subst leader
    split
    · rename_i oldLeader newLeader foundOld foundNew
      rw [key_of_find foundOld, key_of_find foundNew]
      constructor
      · rintro after - rfl
        exact setLeader_self roster after
      · intro other
        exact setLeader_oneLeader one
          ⟨newLeader, mem_of_find foundNew, key_of_find foundNew⟩ (other rfl)
    · rename_i missing
      refine iff_of_true one ?_
      rintro - rfl
      obtain ⟨member, found⟩ := (getMember_isSome_iff roster _).mpr one.present
      exact missing member member found found

theorem changeMemberRank_oneLeader_iff
    {roster : Roster} (one : OneLeader roster) (guid newRank : Nat) :
    OneLeader (roster.changeMemberRank guid newRank) ↔
      (newRank ≤ roster.getLowestRankId →
        (∃ member ∈ roster.members, member.guid = guid) →
        (newRank = grGuildmaster ↔ guid = roster.leaderGuid)) := by
  unfold Roster.changeMemberRank
  split_ifs with exists_
  · split
    · rename_i member found
      have present := mem_of_find found
      have isGuid := key_of_find found
      rw [isGuid]
      constructor
      · intro after _ _
        have changed := after.master _ (mem_changeRankWhere.mpr ⟨member, present, rfl⟩)
        rw [if_pos (beq_iff_eq.mpr isGuid)] at changed
        rw [← isGuid]
        exact changed
      · intro agrees
        exact one.changeRank (agrees exists_ ⟨member, present, isGuid⟩)
    · rename_i missing
      refine iff_of_true one ?_
      rintro - member
      obtain ⟨_, found⟩ := (getMember_isSome_iff roster guid).mpr member
      simp [missing] at found
  · exact iff_of_true one fun within => absurd within exists_

theorem eraseMember_oneLeader_iff
    {roster : Roster} (one : OneLeader roster) (guid : Nat) :
    OneLeader (roster.eraseMember guid) ↔ guid ≠ roster.leaderGuid := by
  constructor
  · rintro after rfl
    obtain ⟨member, present, leader⟩ := after.present
    exact (mem_erase.mp present).2 leader
  · exact one.eraseMember

theorem OneLeader.setRankField {Value : Type} [DecidableEq Value]
    {roster : Roster} (one : OneLeader roster) (rankId : Nat)
    (get : RankInfo → Value) (set : Value → RankInfo → RankInfo)
    (value : RankInfo → Value) :
    OneLeader (roster.setRankField rankId get set value) :=
  one.of_eq (setRankField_frame roster rankId get set value).1
    (setRankField_frame roster rankId get set value).2

theorem OneLeader.handleSetRankInfo
    {roster : Roster} (one : OneLeader roster) (player rankId : Nat)
    (name : String) (rights money : UInt32) :
    OneLeader (roster.handleSetRankInfo player rankId name rights money) := by
  unfold Roster.handleSetRankInfo
  split
  · exact one
  · exact ((one.setRankField _ _ _ _).setRankField _ _ _ _).setRankField _ _ _ _

theorem OneLeader.handleAddNewRank
    {roster : Roster} (one : OneLeader roster) (player : Nat) (name : String) :
    OneLeader (roster.handleAddNewRank player name) := by
  unfold Roster.handleAddNewRank Roster.createRank
  dsimp only
  split_ifs
  all_goals exact one.of_eq rfl rfl

theorem OneLeader.removeRank
    {roster : Roster} (one : OneLeader roster) (player rankId : Nat) :
    OneLeader (roster.removeRank player rankId) := by
  unfold Roster.removeRank
  split_ifs
  all_goals exact one.of_eq rfl rfl

theorem step_hasOneLeader_iff {environment : GuildEnvironment}
    (single : environment.allowMultipleGuildMaster = false)
    (roster : Roster) (event : GuildEvent)
    (bounded : Bounded roster) (holds : HasOneLeader roster) :
    HasOneLeader (step environment roster event) ↔ KeepsOneLeader roster event := by
  cases live : roster.disbanded with
  | true =>
      rw [step, if_pos live]
      refine iff_of_true holds ?_
      cases event <;> simp [KeepsOneLeader, live]
  | false =>
      have one := (hasOneLeader_iff live).mp holds
      rw [step, if_neg (by simp [live])]
      cases event with
      | setLeader player target =>
          have same : (roster.handleSetLeader player target).disbanded = false := by
            unfold Roster.handleSetLeader
            split
            · exact live
            · split
              all_goals exact live
          rw [Roster.handle, hasOneLeader_iff same, handleSetLeader_oneLeader_iff one]
          simp [KeepsOneLeader, live]
      | updateMemberRank player target demote =>
          exact iff_of_true
            (.inr (one.handleUpdateMemberRank bounded player target demote)) trivial
      | changeMemberRank guid newRank =>
          have same : (roster.changeMemberRank guid newRank).disbanded = false := by
            unfold Roster.changeMemberRank
            split
            · split
              all_goals exact live
            · exact live
          rw [Roster.handle, hasOneLeader_iff same, changeMemberRank_oneLeader_iff one]
          simp [KeepsOneLeader, live]
      | addNewRank player name =>
          exact iff_of_true (.inr (one.handleAddNewRank player name)) trivial
      | removeLowestRank player =>
          exact iff_of_true (.inr (one.removeRank player _)) trivial
      | setRankInfo player rankId name rights money =>
          exact iff_of_true
            (.inr (one.handleSetRankInfo player rankId name rights money)) trivial
      | addMember guid => exact iff_of_true (.inr (one.addMember bounded guid)) trivial
      | leaveMember player =>
          exact iff_of_true (handleLeaveMember_hasOneLeader environment one player) trivial
      | removeMember player target =>
          exact iff_of_true
            (handleRemoveMember_hasOneLeader environment one player target) trivial
      | deleteMember guid isDisbanding =>
          cases isDisbanding with
          | false =>
              refine iff_of_true (deleteMember_hasOneLeader environment one guid) ?_
              simp [KeepsOneLeader]
          | true =>
              have erased : roster.deleteMember environment guid true =
                  roster.eraseMember guid := by
                simp [Roster.deleteMember]
              have same : (roster.eraseMember guid).disbanded = false := live
              rw [Roster.handle, erased, hasOneLeader_iff same,
                eraseMember_oneLeader_iff one]
              simp [KeepsOneLeader, live]
      | deleteCharacter guid =>
          refine iff_of_true ?_ trivial
          exact (deleteMember_hasOneLeader environment one guid).imp id
            fun after => after.of_eq rfl rfl
      | createCharacter guid => exact iff_of_true (.inr (one.of_eq rfl rfl)) trivial
      | reload => exact iff_of_true (reload_hasOneLeader single bounded one) trivial

/--
For every guild, from the database or from a charter, and every sequence of
events: leader and rank agree throughout exactly when every step is one of
those which keep them in agreement.
-/
theorem throughout_hasOneLeader_iff {environment : GuildEnvironment}
    (single : environment.allowMultipleGuildMaster = false)
    (origin : GuildOrigin) (events : List GuildEvent) :
    Throughout (step environment) HasOneLeader (origin.start environment) events ↔
      EveryStep (step environment) KeepsOneLeader (origin.start environment) events :=
  throughout_iff_everyStep
    (fun _ event bounded => bounded.step environment event)
    (step_hasOneLeader_iff single)
    (origin.start_bounded environment)
    (origin.start_hasOneLeader single)

/-! ## A leader who names himself -/

/-- A new guild whose leader is player 7. -/
def newGuild : GuildOrigin :=
  .created 7 [] [7, 8] (by decide) (by decide)

theorem newGuild_keepsOneLeader :
    plainEnvironment.allowMultipleGuildMaster = false ∧
      Throughout (step plainEnvironment) HasOneLeader
        (newGuild.start plainEnvironment)
        [.addMember 8, .setLeader 7 8, .updateMemberRank 8 7 true, .reload] :=
  ⟨rfl, (throughout_hasOneLeader_iff rfl newGuild _).mpr
    ⟨trivial, fun _ _ => by decide, trivial, trivial, trivial⟩⟩

theorem setLeader_self_breaks :
    ¬ Throughout (step plainEnvironment) HasOneLeader
      (newGuild.start plainEnvironment) [.setLeader 7 7] := by
  rintro ⟨_, disbanded | one⟩
  · exact absurd disbanded (by decide)
  · have leader := one.master { guid := 7, rankId := grOfficer } (by decide)
    exact absurd (leader.mpr rfl) (by decide)

end RealmServer.Guilds
