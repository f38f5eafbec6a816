import RealmServer.Lib.Counting
import RealmServer.Groups.Rolls

/-!
# The counters of a roll

`CountRollVote`, `RemoveMember` and the functions which start a roll keep the
four counters by hand.  `Counted` says that they agree with the votes; then the
roll is complete exactly when no vote is missing, and `CountTheRoll` gives the
item to a voter with the first highest number or to nobody.
-/

namespace RealmServer.Groups

open Table Counting

/-! ## Counters and votes -/

/-- How many players voted one way. -/
def Roll.votes (roll : Roll) (chosen : RollVote → Bool) : Nat :=
  roll.playerVote.countP fun entry => chosen entry.vote

namespace Roll

def isPass (vote : RollVote) : Bool := vote == .pass

def isMissing (vote : RollVote) : Bool := vote == .notEmitedYet

/-- The counters agree with the votes. -/
structure Counted (roll : Roll) : Prop where
  players : roll.totalPlayersRolling.toNat = roll.playerVote.length
  need : roll.totalNeed.toNat = roll.votes isNeed
  greed : roll.totalGreed.toNat = roll.votes isGreed
  pass : roll.totalPass.toNat = roll.votes isPass

/-- One vote for each player, and one that can be given. -/
structure WellFormed (roll : Roll) : Prop where
  unique : (roll.playerVote.map PlayerVote.guid).Nodup
  valid : ∀ entry ∈ roll.playerVote, entry.vote ≠ .notValid

/-- Somebody has not voted yet. -/
def Undecided (roll : Roll) : Prop := ∃ entry ∈ roll.playerVote, entry.vote = .notEmitedYet

theorem undecided_iff (roll : Roll) : roll.Undecided ↔ 0 < roll.votes isMissing := by
  unfold Undecided votes
  rw [List.countP_pos_iff]
  simp [isMissing]

theorem one_kind {vote : RollVote} (valid : vote ≠ .notValid) :
    (if isPass vote then 1 else 0) + (if isNeed vote then 1 else 0) +
      (if isGreed vote then 1 else 0) + (if isMissing vote then 1 else 0) = 1 := by
  cases vote with
  | notValid => exact absurd rfl valid
  | pass => rfl
  | need => rfl
  | greed => rfl
  | disenchant => rfl
  | notEmitedYet => rfl

/-- Every vote is counted in one way. -/
theorem length_playerVote {roll : Roll} (wellFormed : roll.WellFormed) :
    roll.playerVote.length = roll.votes isPass + roll.votes isNeed + roll.votes isGreed +
      roll.votes isMissing := by
  have valid := wellFormed.valid
  unfold votes
  generalize roll.playerVote = entries at valid ⊢
  induction entries with
  | nil => rfl
  | cons first rest induction =>
      have later := induction fun entry member => valid entry (List.mem_cons_of_mem first member)
      have one := one_kind (valid first List.mem_cons_self)
      rw [List.length_cons, List.countP_cons, List.countP_cons, List.countP_cons,
        List.countP_cons]
      omega

/-- The test of `CountRollVote` says what it is meant to say. -/
theorem allVoted_iff {roll : Roll} (counted : roll.Counted) (wellFormed : roll.WellFormed) :
    Looting.allVoted roll = true ↔ ¬roll.Undecided := by
  have all := length_playerVote wellFormed
  unfold Looting.allVoted
  rw [undecided_iff, decide_eq_true_eq, counted.players, counted.pass, counted.need,
    counted.greed]
  omega

end Roll

namespace Looting

open Roll

/-! ## A vote -/

theorem castVote_other {roll : Roll} {choice : Nat} (other : maxRollType ≤ choice)
    (player : ObjectGuid) : castVote roll player choice = roll := by
  have isOther : 4 ≤ choice := other
  unfold castVote rollPass rollNeed rollGreed rollDisenchant
  rw [if_neg (by omega), if_neg (by omega), if_neg (by omega), if_neg (by omega)]

/-- The vote for a choice byte. -/
def voteOf (choice : Nat) : RollVote :=
  if choice = rollPass then .pass
  else if choice = rollNeed then .need
  else if choice = rollGreed then .greed
  else .disenchant

theorem castVote_playerVote {choice : Nat} (known : choice < maxRollType) (roll : Roll)
    (player : ObjectGuid) :
    (castVote roll player choice).playerVote =
      modify PlayerVote.guid roll.playerVote player fun entry =>
        { entry with vote := voteOf choice } := by
  have isKnown : choice < 4 := known
  unfold castVote voteOf rollPass rollNeed rollGreed rollDisenchant
  dsimp only
  split_ifs
  · rfl
  · rfl
  · rfl
  · rfl
  · omega

/-- What a vote does not touch. -/
theorem castVote_fields (roll : Roll) (player : ObjectGuid) (choice : Nat) :
    let voted := castVote roll player choice
    voted.itemGUID = roll.itemGUID ∧ voted.loot = roll.loot ∧
      voted.itemSlot = roll.itemSlot ∧
      voted.totalPlayersRolling = roll.totalPlayersRolling ∧
      voted.playerVote.map PlayerVote.guid = roll.playerVote.map PlayerVote.guid := by
  have same : ∀ vote, (modify PlayerVote.guid roll.playerVote player fun entry =>
      { entry with vote }).map PlayerVote.guid = roll.playerVote.map PlayerVote.guid :=
    fun vote => map_modify _ _ fun _ => rfl
  unfold castVote
  dsimp only
  split_ifs
  · exact ⟨rfl, rfl, rfl, rfl, same _⟩
  · exact ⟨rfl, rfl, rfl, rfl, same _⟩
  · exact ⟨rfl, rfl, rfl, rfl, same _⟩
  · exact ⟨rfl, rfl, rfl, rfl, same _⟩
  · exact ⟨rfl, rfl, rfl, rfl, rfl⟩

theorem wellFormed_castVote {roll : Roll} (wellFormed : roll.WellFormed) (player : ObjectGuid)
    (choice : Nat) : (castVote roll player choice).WellFormed := by
  obtain ⟨-, -, -, -, guids⟩ := castVote_fields roll player choice
  constructor
  · rw [guids]
    exact wellFormed.unique
  · intro entry member
    by_cases known : choice < maxRollType
    · rw [castVote_playerVote known, mem_modify] at member
      rcases member with ⟨old, -⟩ | ⟨old, -, -, rfl⟩
      · exact wellFormed.valid entry old
      · unfold voteOf
        dsimp only
        split_ifs <;> exact RollVote.noConfusion
    · rw [castVote_other (not_lt.mp known)] at member
      exact wellFormed.valid entry member

/-- A byte that counts one more. -/
theorem toNat_succ {count : UInt8} {votes : Nat} (before : count.toNat = votes)
    (small : votes < 255) : (count + 1).toNat = votes + 1 := by
  rw [UInt8.toNat_add, before]
  exact Nat.mod_eq_of_lt (by simpa using Nat.succ_lt_succ small)

theorem toNat_pred {count : UInt8} {votes : Nat} (before : count.toNat = votes + 1) :
    (count - 1).toNat = votes := by
  have atLeast : (1 : UInt8) ≤ count := by
    rw [UInt8.le_iff_toNat_le, before]
    exact Nat.succ_le_succ (Nat.zero_le votes)
  rw [UInt8.toNat_sub_of_le _ _ atLeast, before]
  rfl

theorem votes_castVote {roll : Roll} (unique : (roll.playerVote.map PlayerVote.guid).Nodup)
    {entry : PlayerVote} (member : entry ∈ roll.playerVote) {choice : Nat}
    (known : choice < maxRollType) (chosen : RollVote → Bool) :
    (castVote roll entry.guid choice).votes chosen + (if chosen entry.vote then 1 else 0) =
      roll.votes chosen + if chosen (voteOf choice) then 1 else 0 := by
  unfold votes
  rw [castVote_playerVote known]
  exact countP_table_modify unique member (fun entry => chosen entry.vote) _

theorem counted_castVote {roll : Roll} (counted : roll.Counted) (wellFormed : roll.WellFormed)
    {entry : PlayerVote} (member : entry ∈ roll.playerVote)
    (first : entry.vote = .notEmitedYet) (choice : Nat) :
    (castVote roll entry.guid choice).Counted := by
  by_cases known : choice < maxRollType
  swap
  · rw [castVote_other (not_lt.mp known)]
    exact counted
  have small : roll.playerVote.length < 256 := by
    rw [← counted.players]
    exact UInt8.toNat_lt _
  have all := length_playerVote wellFormed
  have missing := (undecided_iff roll).mp ⟨entry, member, first⟩
  obtain ⟨-, -, -, players, guids⟩ := castVote_fields roll entry.guid choice
  have length := congrArg List.length guids
  rw [List.length_map, List.length_map] at length
  have samePlayers : (castVote roll entry.guid choice).totalPlayersRolling.toNat =
      (castVote roll entry.guid choice).playerVote.length := by
    rw [players, length]
    exact counted.players
  have change := votes_castVote wellFormed.unique member known
  rw [first] at change
  have pass := change isPass
  have need := change isNeed
  have greed := change isGreed
  have isKnown : choice = 0 ∨ choice = 1 ∨ choice = 2 ∨ choice = 3 := by
    have less : choice < 4 := known
    omega
  rcases isKnown with rfl | rfl | rfl | rfl
  · exact ⟨samePlayers, counted.need.trans need.symm, counted.greed.trans greed.symm,
      (toNat_succ counted.pass (by omega)).trans pass.symm⟩
  · exact ⟨samePlayers, (toNat_succ counted.need (by omega)).trans need.symm,
      counted.greed.trans greed.symm, counted.pass.trans pass.symm⟩
  · exact ⟨samePlayers, counted.need.trans need.symm,
      (toNat_succ counted.greed (by omega)).trans greed.symm, counted.pass.trans pass.symm⟩
  · exact ⟨samePlayers, counted.need.trans need.symm,
      (toNat_succ counted.greed (by omega)).trans greed.symm, counted.pass.trans pass.symm⟩

/-! ## A player leaves -/

/-- A roll without a player. -/
def leave (guid : ObjectGuid) (roll : Roll) : Roll :=
  match find PlayerVote.guid roll.playerVote guid with
  | none => roll
  | some entry =>
      { uncountVote roll entry.vote with
        playerVote := erase PlayerVote.guid roll.playerVote guid }

theorem leave_fields (guid : ObjectGuid) (roll : Roll) :
    (leave guid roll).itemGUID = roll.itemGUID ∧ (leave guid roll).loot = roll.loot ∧
      (leave guid roll).itemSlot = roll.itemSlot ∧
      (leave guid roll).playerVote = erase PlayerVote.guid roll.playerVote guid := by
  unfold leave
  split
  · rename_i absent
    exact ⟨rfl, rfl, rfl, (erase_eq_self (find_eq_none_iff.mp absent)).symm⟩
  · rename_i entry found
    unfold uncountVote
    cases entry.vote <;> exact ⟨rfl, rfl, rfl, rfl⟩

theorem wellFormed_leave {roll : Roll} (wellFormed : roll.WellFormed) (guid : ObjectGuid) :
    (leave guid roll).WellFormed := by
  obtain ⟨-, -, -, votes⟩ := leave_fields guid roll
  constructor
  · rw [votes]
    exact erase_keys wellFormed.unique guid
  · rw [votes]
    exact fun entry member => wellFormed.valid entry (mem_erase.mp member).1

theorem votes_leave {roll : Roll} (unique : (roll.playerVote.map PlayerVote.guid).Nodup)
    {entry : PlayerVote} (member : entry ∈ roll.playerVote) (chosen : RollVote → Bool) :
    (leave entry.guid roll).votes chosen + (if chosen entry.vote then 1 else 0) =
      roll.votes chosen := by
  unfold votes
  rw [(leave_fields entry.guid roll).2.2.2]
  exact countP_table_erase unique member fun entry => chosen entry.vote

theorem counted_leave {roll : Roll} (counted : roll.Counted) (wellFormed : roll.WellFormed)
    (guid : ObjectGuid) : (leave guid roll).Counted := by
  cases found : find PlayerVote.guid roll.playerVote guid with
  | none =>
      unfold leave
      rw [found]
      exact counted
  | some entry =>
      have member := mem_of_find found
      have isGuid := key_of_find found
      subst isGuid
      have change := votes_leave wellFormed.unique member
      have pass := change isPass
      have need := change isNeed
      have greed := change isGreed
      have length : (erase PlayerVote.guid roll.playerVote entry.guid).length + 1 =
          roll.playerVote.length := by
        have all := countP_table_erase wellFormed.unique member fun _ => true
        simpa [Counting.counted] using all
      have left : leave entry.guid roll =
          { uncountVote roll entry.vote with
            playerVote := erase PlayerVote.guid roll.playerVote entry.guid } := by
        unfold leave
        rw [found]
      have players : (roll.totalPlayersRolling - 1).toNat =
          (erase PlayerVote.guid roll.playerVote entry.guid).length :=
        toNat_pred (counted.players.trans length.symm)
      rw [left] at pass need greed ⊢
      have valid := wellFormed.valid entry member
      cases vote : entry.vote with
      | notValid => exact absurd vote valid
      | pass =>
          rw [vote] at pass need greed
          exact ⟨players, counted.need.trans need.symm, counted.greed.trans greed.symm,
            toNat_pred (counted.pass.trans pass.symm)⟩
      | need =>
          rw [vote] at pass need greed
          exact ⟨players, toNat_pred (counted.need.trans need.symm),
            counted.greed.trans greed.symm, counted.pass.trans pass.symm⟩
      | greed =>
          rw [vote] at pass need greed
          exact ⟨players, counted.need.trans need.symm,
            toNat_pred (counted.greed.trans greed.symm), counted.pass.trans pass.symm⟩
      | disenchant =>
          rw [vote] at pass need greed
          exact ⟨players, counted.need.trans need.symm,
            toNat_pred (counted.greed.trans greed.symm), counted.pass.trans pass.symm⟩
      | notEmitedYet =>
          rw [vote] at pass need greed
          exact ⟨players, counted.need.trans need.symm, counted.greed.trans greed.symm,
            counted.pass.trans pass.symm⟩

/-! ## A new roll -/

theorem setVote_perm {votes : List PlayerVote} {guid : ObjectGuid}
    (absent : guid ∉ votes.map PlayerVote.guid) (vote : RollVote) :
    (setVote votes guid vote).Perm (⟨guid, vote⟩ :: votes) := by
  unfold setVote
  rw [erase_eq_self]
  · exact List.perm_orderedInsert _ _ _
  · rintro entry member rfl
    exact absent (List.mem_map_of_mem member)

/-- What holds of a roll while its players are listed. -/
structure Gathers (passes : ObjectGuid → Bool) (players : List ObjectGuid) (roll : Roll) :
    Prop where
  counted : roll.Counted
  votes : (roll.playerVote).Perm
    (players.map fun guid => ⟨guid, if passes guid then .pass else .notEmitedYet⟩)

theorem gathers_addPlayer {passes : ObjectGuid → Bool} {players : List ObjectGuid} {roll : Roll}
    (gathers : Gathers passes players roll) {guid : ObjectGuid} (new : guid ∉ players)
    (small : players.length < 255) :
    Gathers passes (guid :: players) (addPlayer passes roll guid) := by
  obtain ⟨counted, votes⟩ := gathers
  have length : roll.playerVote.length = players.length := by
    rw [votes.length_eq, List.length_map]
  have absent : guid ∉ roll.playerVote.map PlayerVote.guid := by
    intro member
    rw [(votes.map PlayerVote.guid).mem_iff, List.map_map] at member
    obtain ⟨other, present, rfl⟩ := List.mem_map.mp member
    exact new present
  have counts : ∀ chosen : RollVote → Bool, roll.votes chosen ≤ roll.playerVote.length :=
    fun _ => List.countP_le_length
  have permuted : ∀ vote,
    (setVote roll.playerVote guid vote).Perm (⟨guid, vote⟩ :: roll.playerVote) :=
    setVote_perm absent
  have one : ∀ vote (chosen : RollVote → Bool),
      (setVote roll.playerVote guid vote).countP (fun entry => chosen entry.vote) =
        roll.votes chosen + if chosen vote then 1 else 0 := by
    intro vote chosen
    rw [(permuted vote).countP_eq, List.countP_cons]
    rfl
  have players' : ∀ vote, (roll.totalPlayersRolling + 1).toNat =
      (setVote roll.playerVote guid vote).length := by
    intro vote
    rw [(permuted vote).length_eq]
    exact toNat_succ counted.players (by omega)
  unfold addPlayer
  split_ifs with passing
  · refine ⟨⟨players' .pass, ?_, ?_, ?_⟩, ?_⟩
    · exact counted.need.trans (one .pass isNeed).symm
    · exact counted.greed.trans (one .pass isGreed).symm
    · have bound := counts isPass
      exact (toNat_succ counted.pass (by omega)).trans (one .pass isPass).symm
    · rw [List.map_cons, if_pos passing]
      exact (permuted .pass).trans (votes.cons _)
  · refine ⟨⟨players' .notEmitedYet, ?_, ?_, ?_⟩, ?_⟩
    · exact counted.need.trans (one .notEmitedYet isNeed).symm
    · exact counted.greed.trans (one .notEmitedYet isGreed).symm
    · exact counted.pass.trans (one .notEmitedYet isPass).symm
    · rw [List.map_cons, if_neg passing]
      exact (permuted .notEmitedYet).trans (votes.cons _)

theorem gathers_foldl {passes : ObjectGuid → Bool} (players others : List ObjectGuid)
    {roll : Roll} (gathers : Gathers passes others roll)
    (unique : (players ++ others).Nodup) (small : (players ++ others).length < 256) :
    Gathers passes (players.reverse ++ others) (players.foldl (addPlayer passes) roll) := by
  induction players generalizing others roll with
  | nil => exact gathers
  | cons first rest induction =>
      rw [List.cons_append, List.nodup_cons] at unique
      rw [List.cons_append, List.length_cons] at small
      rw [List.foldl_cons, List.reverse_cons, List.append_assoc, List.singleton_append]
      have isNew : first ∉ others := fun member => unique.1 (List.mem_append_right _ member)
      have next := gathers_addPlayer gathers isNew (by rw [List.length_append] at small; omega)
      apply induction (first :: others) next
      · exact (List.perm_middle.nodup_iff).mpr (List.nodup_cons.mpr unique)
      · rw [List.length_append, List.length_cons] at *
        omega

theorem addPlayer_fields (passes : ObjectGuid → Bool) (roll : Roll) (guid : ObjectGuid) :
    (addPlayer passes roll guid).itemGUID = roll.itemGUID ∧
      (addPlayer passes roll guid).loot = roll.loot ∧
      (addPlayer passes roll guid).itemSlot = roll.itemSlot := by
  unfold addPlayer
  split_ifs <;> exact ⟨rfl, rfl, rfl⟩

theorem newRoll_fields (itemGUID : ObjectGuid) (loot : LootId) (itemSlot : Nat)
    (item : LootItem) (passes : ObjectGuid → Bool) (players : List ObjectGuid) :
    let roll := newRoll itemGUID loot itemSlot item passes players
    roll.itemGUID = itemGUID ∧ roll.loot = some loot ∧ roll.itemSlot = itemSlot := by
  have kept : ∀ roll : Roll,
      (players.foldl (addPlayer passes) roll).itemGUID = roll.itemGUID ∧
        (players.foldl (addPlayer passes) roll).loot = roll.loot ∧
        (players.foldl (addPlayer passes) roll).itemSlot = roll.itemSlot := by
    induction players with
    | nil => exact fun _ => ⟨rfl, rfl, rfl⟩
    | cons first rest induction =>
        intro roll
        obtain ⟨guid, loot, slot⟩ := addPlayer_fields passes roll first
        obtain ⟨guids, loots, slots⟩ := induction (addPlayer passes roll first)
        exact ⟨guids.trans guid, loots.trans loot, slots.trans slot⟩
  exact kept _

theorem newRoll_gathers (itemGUID : ObjectGuid) (loot : LootId) (itemSlot : Nat)
    (item : LootItem) (passes : ObjectGuid → Bool) {players : List ObjectGuid}
    (unique : players.Nodup) (small : players.length < 256) :
    Gathers passes players (newRoll itemGUID loot itemSlot item passes players) := by
  have start : Gathers passes [] ⟨itemGUID, item.itemid, some loot, [], 0, 0, 0, 0, itemSlot⟩ :=
    ⟨⟨rfl, rfl, rfl, rfl⟩, List.Perm.refl _⟩
  have all := gathers_foldl players [] start (by rwa [List.append_nil])
    (by rwa [List.append_nil])
  rw [List.append_nil] at all
  exact ⟨all.counted, all.votes.trans ((List.reverse_perm players).map _)⟩

theorem Gathers.wellFormed {passes : ObjectGuid → Bool} {players : List ObjectGuid} {roll : Roll}
    (gathers : Gathers passes players roll) (unique : players.Nodup) : roll.WellFormed := by
  constructor
  · rw [(gathers.votes.map PlayerVote.guid).nodup_iff, List.map_map]
    have same : players.map (PlayerVote.guid ∘ fun guid =>
        ⟨guid, if passes guid then .pass else .notEmitedYet⟩) = players := by
      rw [List.map_congr_left (fun guid _ => rfl)]
      exact List.map_id players
    rw [same]
    exact unique
  · intro entry member
    rw [gathers.votes.mem_iff] at member
    obtain ⟨guid, -, rfl⟩ := List.mem_map.mp member
    dsimp only
    split_ifs <;> exact RollVote.noConfusion

theorem Gathers.undecided {passes : ObjectGuid → Bool} {players : List ObjectGuid} {roll : Roll}
    (gathers : Gathers passes players roll) {guid : ObjectGuid} (member : guid ∈ players)
    (votes : passes guid = false) : roll.Undecided := by
  refine ⟨⟨guid, .notEmitedYet⟩, ?_, rfl⟩
  rw [gathers.votes.mem_iff]
  exact List.mem_map.mpr ⟨guid, member, by rw [votes]; rfl⟩

end Looting

end RealmServer.Groups
