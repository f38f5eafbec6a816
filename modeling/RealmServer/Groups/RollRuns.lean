import RealmServer.Groups.FairRolls

/-!
# The rolls of a group

`FairRolls` is kept by every operation of a group as long as nobody votes
twice, a leaving member is not the last one to vote and new rolls wait for a
vote.  Everything else that happens to the group leaves its rolls alone.
-/

namespace RealmServer.Groups

open Transition

namespace Group

/-! ## A removal and the rolls -/

section Removal

variable (surroundings : Surroundings) (group : Group) (guid : ObjectGuid)

theorem looting_removeSlot : (group.removeSlot guid).looting = group.looting := by
  unfold removeSlot
  split <;> rfl

theorem looting_changeLeader :
    (group.changeLeader surroundings guid).looting = group.looting := by
  unfold changeLeader
  split
  · rfl
  · split_ifs <;> rfl

theorem looting_pickLeader : (group.pickLeader surroundings guid).looting = group.looting := by
  unfold pickLeader
  split_ifs
  · rfl
  · split
    · rfl
    · exact looting_changeLeader _ _ _

theorem looting_replaceMasterLooter :
    (group.replaceMasterLooter guid).looting = group.looting := by
  unfold replaceMasterLooter
  split_ifs <;> rfl

theorem looting_withoutMember :
    (group.withoutMember surroundings guid).looting =
      group.looting.removeFromRolls surroundings.luck guid := by
  unfold withoutMember
  rw [looting_replaceMasterLooter, looting_pickLeader, looting_removeSlot, removeReferences_eq]

/-- The group does not go on without the member. -/
def DisbandsWithout : Prop :=
  group.membersCount ≤ group.sizeToKeep ∨
    (group.withoutMember surroundings guid).leftDungeon surroundings = true ∨
    (group.withoutMember surroundings guid).memberMgr.length <
      (group.withoutMember surroundings guid).referencesToKeep

end Removal

/-! ## The other operations and the rolls -/

theorem looting_addMember (group : Group) (guid : ObjectGuid) (inGroup : Bool) :
    (group.addMember guid inGroup).2.looting = group.looting := by
  unfold addMember
  split
  · rfl
  · dsimp only
    rw [setGroup_eq]
    rfl

theorem looting_changeMembersGroup (group : Group) (guid : ObjectGuid) (subgroup : UInt8) :
    (group.changeMembersGroup guid subgroup).looting = group.looting := by
  unfold changeMembersGroup
  split_ifs
  · rfl
  · split
    · rfl
    · split_ifs <;> rfl

theorem looting_handleGroupChangeSubGroupOpcode (group : Group) (sender guid : ObjectGuid)
    (groupNr : UInt8) :
    (group.handleGroupChangeSubGroupOpcode sender guid groupNr).looting = group.looting := by
  unfold handleGroupChangeSubGroupOpcode
  split_ifs
  · rfl
  · rfl
  · rfl
  · exact looting_changeMembersGroup _ _ _

theorem looting_setMembersGroup (group : Group) (guid : ObjectGuid) (subgroup : UInt8) :
    (group.setMembersGroup guid subgroup).looting = group.looting := by
  unfold setMembersGroup
  split <;> rfl

/-! ## One step -/

/-- The steps that keep every roll counted, open while votes are missing and no longer. -/
def KeepsCount (group : Group) (event : Event) : Prop :=
  group.disbands = 0 →
    match event with
    | .removeMember surroundings guid method =>
        group.startsVote method = true ∨ DisbandsWithout surroundings group guid ∨
          group.looting.NotLastToVote guid
    | .groupLoot nearby contents | .needBeforeGreed nearby contents =>
        Looting.Votable nearby group.sources group.lootThreshold contents
    | .countRollVote _ player itemGUID choice => group.looting.FirstVote player itemGUID choice
    | _ => True

/-- What one step does not do to the votes, and what the timer does to the rolls. -/
structure FairStep (group : Group) (event : Event) : Prop where
  firstVotesFinal : Looting.FirstVotesFinal group.looting (group.step event).looting
  endRoll : ∀ luck loot, event = .endRoll luck loot → group.disbands = 0 →
    ∀ roll ∈ (group.step event).looting.rolls, roll.loot ≠ some loot

theorem keeps_removeMember {group : Group} (consistent : group.looting.Consistent)
    (pending : group.looting.Pending) (surroundings : Surroundings) (guid : ObjectGuid)
    (method : RemoveMethod)
    (keeps : group.startsVote method = true ∨ DisbandsWithout surroundings group guid ∨
      group.looting.NotLastToVote guid) :
    Looting.Keeps group.looting (group.removeMember surroundings guid method).2.looting := by
  obtain ⟨withoutRolls, final⟩ :=
    Looting.consistent_removeFromRolls surroundings.luck consistent guid
  have disbanded : Looting.Keeps group.looting
      (group.withoutMember surroundings guid).disband.looting := by
    unfold disband
    rw [looting_withoutMember]
    exact Looting.keeps_noRolls withoutRolls final
  unfold removeMember
  dsimp only
  split_ifs with vote size left references
  · exact Looting.keeps_refl consistent pending
  · exact disbanded
  · exact disbanded
  · rw [looting_withoutMember]
    apply Looting.keeps_removeFromRolls surroundings.luck consistent pending
    rcases keeps with isVote | disbands | notLast
    · exact absurd isVote vote
    · rcases disbands with few | isLeft | fewReferences
      · exact absurd size (not_lt.mpr few)
      · exact absurd isLeft left
      · exact absurd fewReferences references
    · exact notLast
  · have same := Looting.keeps_refl consistent pending
    exact Looting.keeps_noRolls consistent same.final

theorem keeps_step {group : Group} (consistent : group.looting.Consistent)
    (pending : group.looting.Pending) (event : Event) (keeps : group.KeepsCount event) :
    Looting.Keeps group.looting (group.step event).looting := by
  have unchanged := Looting.keeps_refl consistent pending
  unfold step
  split_ifs with disbanded
  · exact unchanged
  replace keeps := keeps (Nat.eq_zero_of_not_pos disbanded)
  cases event with
  | removeMember surroundings guid method =>
      exact keeps_removeMember consistent pending surroundings guid method keeps
  | groupLoot nearby contents => exact Looting.keeps_startRolls consistent pending keeps
  | needBeforeGreed nearby contents => exact Looting.keeps_startRolls consistent pending keeps
  | countRollVote luck player itemGUID choice =>
      exact Looting.keeps_countRollVote luck consistent pending keeps
  | endRoll luck loot => exact Looting.keeps_endRoll luck loot consistent pending
  | addMember guid inGroup =>
      dsimp only
      rw [looting_addMember]
      exact unchanged
  | changeLeader surroundings guid =>
      dsimp only
      rw [looting_changeLeader]
      exact unchanged
  | changeSubGroup sender guid groupNr =>
      dsimp only
      rw [looting_handleGroupChangeSubGroupOpcode]
      exact unchanged
  | setMembersGroup guid subgroup =>
      dsimp only
      rw [looting_setMembersGroup]
      exact unchanged
  | setMasterLooterGuid guid => exact unchanged
  | convertToLFG => exact unchanged
  | convertToRaid => exact unchanged
  | link source original => exact unchanged
  | unlink source original => exact unchanged

/-- The timer closes the rolls for its loot, whatever their votes are. -/
theorem noRolls_of_endRoll {group : Group} (luck : Luck) (loot : LootId)
    (alive : group.disbands = 0) :
    ∀ roll ∈ (group.step (.endRoll luck loot)).looting.rolls, roll.loot ≠ some loot := by
  unfold step
  rw [if_neg (by omega)]
  exact Looting.endRollFrom_done luck loot group.looting.rolls.length le_rfl

theorem fairStep {group : Group} (consistent : group.looting.Consistent)
    (pending : group.looting.Pending) (event : Event) (keeps : group.KeepsCount event) :
    FairStep group event := by
  refine ⟨(keeps_step consistent pending event keeps).final, ?_⟩
  rintro luck loot rfl alive
  exact noRolls_of_endRoll luck loot alive

/-! ## Runs -/

theorem consistent_fresh (nextItemGuid : ObjectGuid) :
    (Looting.fresh nextItemGuid).Consistent ∧ (Looting.fresh nextItemGuid).Pending := by
  refine ⟨⟨?_, ?_, ?_, ?_, ?_, ?_, ?_, ?_⟩, fun roll member => absurd member List.not_mem_nil⟩
  · exact fun roll member => absurd member List.not_mem_nil
  · exact fun roll member => absurd member List.not_mem_nil
  · exact fun roll member => absurd member List.not_mem_nil
  · exact fun roll member => absurd member List.not_mem_nil
  · exact List.nodup_nil
  · exact List.nodup_nil
  · exact fun closing member => absurd member List.not_mem_nil
  · exact ⟨fun loot itemSlot => rfl, fun loot => (sub_zero _).symm⟩

/--
A group that has not found any loot yet.  As long as nobody votes twice, rolls
begin with a vote missing and no leaving member is the last to vote, its rolls
are fair.
-/
theorem fairRolls_throughout (group : Group) (nextItemGuid : ObjectGuid) {events : List Event}
    (keeps : EveryStep step KeepsCount { group with looting := .fresh nextItemGuid } events) :
    Throughout step (fun group => group.looting.FairRolls)
        { group with looting := .fresh nextItemGuid } events ∧
      EveryStep step FairStep { group with looting := .fresh nextItemGuid } events := by
  have preserved : ∀ (group : Group) (event : Event),
      group.looting.Consistent ∧ group.looting.Pending → group.KeepsCount event →
        (group.step event).looting.Consistent ∧ (group.step event).looting.Pending := by
    rintro group event ⟨consistent, pending⟩ isKept
    have next := keeps_step consistent pending event isKept
    exact ⟨next.consistent, next.pending⟩
  have initial := consistent_fresh nextItemGuid
  constructor
  · have holds : Throughout step
        (fun group => group.looting.Consistent ∧ group.looting.Pending)
        { group with looting := .fresh nextItemGuid } events :=
      throughout_of_invariant preserved initial keeps
    exact holds.mono fun _ both => both.1.fairRolls both.2
  · exact everyStep_of_invariant preserved
      (fun group event both isKept => fairStep both.1 both.2 event isKept) initial keeps

/-! ## Three players and one item -/

/-- All are near the corpse, and none passes beforehand. -/
def gathered : Looting.Nearby where
  hasSession := fun _ => true
  allowedForPlayer := fun _ _ => true
  isAtGroupRewardDistance := fun _ => true
  getPassOnGroupLoot := fun _ => false

def corpse : Loot where
  items := [⟨6948, 2, false, false, false, false, false⟩]
  questItems := []
  unlootedCount := 1

/-- A party finds the item with guid 1. -/
def partyFindsItem : List Event :=
  [.addMember 2 false, .addMember 3 false, .groupLoot gathered corpse]

theorem partyFindsItem_votable : Looting.Votable gathered [3, 2, 1] 2 corpse := by
  refine ⟨⟨by decide, by decide⟩, fun item _ _ _ _ => ?_⟩
  exact ⟨1, by decide, rfl, rfl⟩

/-- Every player votes once, and player 2 wins with the first highest number. -/
def everyoneVotes : List Event :=
  partyFindsItem ++
    [.countRollVote (absent 0).luck 1 1 rollGreed, .countRollVote (absent 0).luck 2 1 rollNeed,
      .countRollVote (absent 0).luck 3 1 rollNeed]

theorem everyoneVotes_fairRolls :
    Throughout step (fun group => group.looting.FairRolls)
        { founded with looting := .fresh 1 } everyoneVotes ∧
      EveryStep step FairStep { founded with looting := .fresh 1 } everyoneVotes := by
  refine fairRolls_throughout founded 1 ⟨?_, ?_, ?_, ?_, ?_, ?_, trivial⟩
  · exact fun _ => trivial
  · exact fun _ => trivial
  · exact fun _ => partyFindsItem_votable
  · intro _
    unfold Looting.FirstVote
    decide
  · intro _
    unfold Looting.FirstVote
    decide
  · intro _
    unfold Looting.FirstVote
    decide

/-- Player 1 needs the item, and then he is greedy. -/
def votesTwice : List Event :=
  partyFindsItem ++
    [.countRollVote (absent 0).luck 1 1 rollNeed, .countRollVote (absent 0).luck 1 1 rollGreed]

/-- Player 3 leaves when only his vote is missing. -/
def lastVoterLeaves : List Event :=
  partyFindsItem ++
    [.countRollVote (absent 0).luck 1 1 rollNeed, .countRollVote (absent 0).luck 2 1 rollGreed,
      .removeMember (absent 0) 3 .leave]

theorem votes_not_fairRolls :
    ¬Throughout step (fun group => group.looting.FairRolls)
        { founded with looting := .fresh 1 } votesTwice ∧
      ¬Throughout step (fun group => group.looting.FairRolls)
        { founded with looting := .fresh 1 } lastVoterLeaves := by
  constructor
  · intro fair
    have rolls : (run step { founded with looting := .fresh 1 } votesTwice).looting.rolls =
        [⟨1, 6948, some 0, [⟨1, .greed⟩, ⟨2, .notEmitedYet⟩, ⟨3, .notEmitedYet⟩], 3, 1, 1,
          0, 0⟩] := by
      decide
    have counted := fair.last.counted _ (rolls ▸ List.mem_singleton_self _)
    exact absurd counted.need (by decide)
  · intro fair
    have rolls : (run step { founded with looting := .fresh 1 } lastVoterLeaves).looting.rolls =
        [⟨1, 6948, some 0, [⟨1, .need⟩, ⟨2, .greed⟩], 2, 1, 1, 0, 0⟩] := by
      decide
    have undecided := fair.last.undecided _ (rolls ▸ List.mem_singleton_self _)
    unfold Roll.Undecided at undecided
    exact absurd undecided (by decide)

end Group

end RealmServer.Groups
