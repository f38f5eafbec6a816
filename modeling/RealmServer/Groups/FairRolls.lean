import RealmServer.Groups.Closings
import RealmServer.Groups.Removal

/-!
# Fair rolls

From its start to its closing a roll counts every player once, as long as no
one votes twice.  The invariant `Consistent` ties the rolls that are open and
those that were closed to the loots; only the rule that somebody in an open
roll has not voted yet can be broken in other ways, by a member who leaves as
the last one to vote and by players who all pass on loot beforehand.
-/

namespace RealmServer.Groups

open Table Transition Counting

namespace Looting

open Roll

/-! ## What is promised -/

/-- The open rolls and the closed ones. -/
def allRolls (looting : Looting) : List Roll :=
  looting.rolls ++ looting.closings.map Closing.roll

/-- What a roll is for. -/
def place (roll : Roll) : Option LootId × Nat := (roll.loot, roll.itemSlot)

def awardedFrom (loot : LootId) (closing : Closing) : Bool :=
  closing.awarded.isSome && closing.roll.loot == some loot

def awardedAt (loot : LootId) (itemSlot : Nat) (closing : Closing) : Bool :=
  awardedFrom loot closing && closing.roll.itemSlot == itemSlot

/-- The loots are what the group found, less what it awarded. -/
structure Settled (looting : Looting) : Prop where
  looted : ∀ loot itemSlot, (looting.loots loot).looted itemSlot =
    ((looting.found loot).looted itemSlot).map
      (· || looting.closings.any (awardedAt loot itemSlot))
  unlootedCount : ∀ loot, (looting.loots loot).unlootedCount =
    (looting.found loot).unlootedCount -
      UInt8.ofNat (looting.closings.countP (awardedFrom loot))

/-- Every roll counts right, is open while votes are missing, and is closed once. -/
structure FairRolls (looting : Looting) : Prop where
  counted : ∀ roll ∈ looting.rolls, roll.Counted
  undecided : ∀ roll ∈ looting.rolls, roll.Undecided
  /-- No roll is both open and closed, or closed twice, and no item has two rolls. -/
  once : (looting.allRolls.map Roll.itemGUID).Nodup
  oneRoll : (looting.allRolls.map place).Nodup
  fair : ∀ closing ∈ looting.closings, FairClosing closing
  settled : looting.Settled

/-- A later state of a roll has the votes that were given. -/
def VotesKept (roll later : Roll) : Prop :=
  ∀ entry ∈ roll.playerVote, entry.vote ≠ .notEmitedYet →
    ∀ kept ∈ later.playerVote, kept.guid = entry.guid → kept.vote = entry.vote

/-- The first vote of a player is final, also for the closing. -/
def FirstVotesFinal (looting next : Looting) : Prop :=
  ∀ roll ∈ looting.rolls, ∀ later ∈ next.allRolls, later.itemGUID = roll.itemGUID →
    VotesKept roll later

/-! ## Consistent rolls -/

structure Consistent (looting : Looting) : Prop where
  wellFormed : ∀ roll ∈ looting.rolls, roll.WellFormed
  counted : ∀ roll ∈ looting.rolls, roll.Counted
  linked : ∀ roll ∈ looting.allRolls, ∃ loot < looting.nextLoot, roll.loot = some loot
  older : ∀ roll ∈ looting.allRolls, roll.itemGUID < looting.nextItemGuid
  once : (looting.allRolls.map Roll.itemGUID).Nodup
  oneRoll : (looting.allRolls.map place).Nodup
  fair : ∀ closing ∈ looting.closings, FairClosing closing
  settled : looting.Settled

/-- Somebody's vote is missing in every open roll. -/
def Pending (looting : Looting) : Prop := ∀ roll ∈ looting.rolls, roll.Undecided

theorem Consistent.fairRolls {looting : Looting} (consistent : looting.Consistent)
    (pending : looting.Pending) : looting.FairRolls :=
  ⟨consistent.counted, pending, consistent.once, consistent.oneRoll, consistent.fair,
    consistent.settled⟩

theorem mem_allRolls_of_open {looting : Looting} {roll : Roll} (member : roll ∈ looting.rolls) :
    roll ∈ looting.allRolls := List.mem_append_left _ member

theorem eq_of_itemGUID {looting : Looting} (consistent : looting.Consistent) {roll other : Roll}
    (member : roll ∈ looting.allRolls) (otherMember : other ∈ looting.allRolls)
    (same : roll.itemGUID = other.itemGUID) : roll = other :=
  List.inj_on_of_nodup_map consistent.once member otherMember same

/-! ### Other rolls in the place of the open ones -/

/-- Rolls for the same items with the same ids. -/
theorem Consistent.replaceRolls {looting : Looting} (consistent : looting.Consistent)
    {rolls : List Roll}
    (same : rolls.map (fun roll => (roll.itemGUID, roll.loot, roll.itemSlot)) =
      looting.rolls.map fun roll => (roll.itemGUID, roll.loot, roll.itemSlot))
    (wellFormed : ∀ roll ∈ rolls, roll.WellFormed) (counted : ∀ roll ∈ rolls, roll.Counted) :
    Consistent { looting with rolls } := by
  have all : ({ looting with rolls } : Looting).allRolls.map
      (fun roll => (roll.itemGUID, roll.loot, roll.itemSlot)) =
        looting.allRolls.map fun roll => (roll.itemGUID, roll.loot, roll.itemSlot) := by
    unfold allRolls
    rw [List.map_append, List.map_append, same]
  have transfer : ∀ roll ∈ ({ looting with rolls } : Looting).allRolls,
      ∃ old ∈ looting.allRolls, roll.itemGUID = old.itemGUID ∧ roll.loot = old.loot := by
    intro roll member
    have present := List.mem_map_of_mem (f := fun roll : Roll =>
      (roll.itemGUID, roll.loot, roll.itemSlot)) member
    rw [all] at present
    obtain ⟨old, oldMember, equal⟩ := List.mem_map.mp present
    rw [Prod.mk.injEq, Prod.mk.injEq] at equal
    exact ⟨old, oldMember, equal.1.symm, equal.2.1.symm⟩
  refine ⟨wellFormed, counted, ?_, ?_, ?_, ?_, consistent.fair, ?_⟩
  · intro roll member
    obtain ⟨old, oldMember, -, isLoot⟩ := transfer roll member
    rw [isLoot]
    exact consistent.linked old oldMember
  · intro roll member
    obtain ⟨old, oldMember, isGuid, -⟩ := transfer roll member
    rw [isGuid]
    exact consistent.older old oldMember
  · have guids := congrArg (List.map Prod.fst) all
    rw [List.map_map, List.map_map] at guids
    have once := consistent.once
    exact guids.symm ▸ once
  · have places := congrArg (List.map Prod.snd) all
    rw [List.map_map, List.map_map] at places
    have oneRoll := consistent.oneRoll
    exact places.symm ▸ oneRoll
  · exact ⟨consistent.settled.looted, consistent.settled.unlootedCount⟩

theorem Consistent.noRolls {looting : Looting} (consistent : looting.Consistent) :
    Consistent { looting with rolls := [] } := by
  have closed : ∀ roll ∈ looting.closings.map Closing.roll, roll ∈ looting.allRolls :=
    fun roll member => List.mem_append_right _ member
  have fewer : (looting.closings.map Closing.roll).Sublist looting.allRolls :=
    List.sublist_append_right _ _
  exact ⟨by simp, by simp, fun roll member => consistent.linked roll (closed roll member),
    fun roll member => consistent.older roll (closed roll member),
    consistent.once.sublist (fewer.map _), consistent.oneRoll.sublist (fewer.map _),
    consistent.fair, ⟨consistent.settled.looted, consistent.settled.unlootedCount⟩⟩

/-! ### A roll is closed -/

theorem Settled.closes {looting next : Looting} (settled : looting.Settled) {closing : Closing}
    (closings : next.closings = looting.closings ++ [closing])
    (found : next.found = looting.found) {loot : LootId} (isLoot : closing.roll.loot = some loot)
    (settles : Settles looting closing next) : next.Settled := by
  have taken := settles.taken loot isLoot
  have noAward : ∀ other, other ≠ loot ∨ closing.awarded = none →
      awardedFrom other closing = false := by
    rintro other (differs | nothing)
    · unfold awardedFrom
      rw [isLoot]
      simp [Ne.symm differs]
    · unfold awardedFrom
      rw [nothing]
      rfl
  have kept : ∀ other, other ≠ loot ∨ closing.awarded = none →
      (looting.loots other).SameLooted (next.loots other) := by
    rintro other (differs | nothing)
    · exact settles.kept other (.inl fun same => differs (Option.some.inj (isLoot ▸ same.symm)))
    · exact settles.kept other (.inr nothing)
  have cases : ∀ other, (other ≠ loot ∨ closing.awarded = none) ∨
      (other = loot ∧ closing.awarded.isSome = true) := by
    intro other
    by_cases same : other = loot
    · cases awarded : closing.awarded with
      | none => exact .inl (.inr rfl)
      | some player => exact .inr ⟨same, rfl⟩
    · exact .inl (.inl same)
  constructor
  · intro other itemSlot
    rw [closings, found, List.any_append, List.any_cons, List.any_nil, Bool.or_false]
    rcases cases other with isKept | ⟨rfl, awarded⟩
    · have none : awardedAt other itemSlot closing = false := by
        unfold awardedAt
        rw [noAward other isKept, Bool.false_and]
      rw [none, Bool.or_false, (kept other isKept).looted itemSlot]
      exact settled.looted other itemSlot
    · rw [(taken awarded).1, Loot.looted_takeItem, settled.looted]
      have isAt : awardedAt other itemSlot closing = (closing.roll.itemSlot == itemSlot) := by
        unfold awardedAt awardedFrom
        rw [awarded, isLoot, beq_self_eq_true, Bool.true_and, Bool.true_and]
      rw [isAt]
      split_ifs with same
      · rw [beq_iff_eq.mpr same, Option.map_map]
        congr 1
        funext looted
        simp
      · rw [beq_eq_false_iff_ne.mpr same, Bool.or_false]
  · intro other
    rw [closings, found, List.countP_append, List.countP_singleton]
    rcases cases other with isKept | ⟨rfl, awarded⟩
    · rw [noAward other isKept, if_neg Bool.false_ne_true, Nat.add_zero,
        (kept other isKept).unlootedCount]
      exact settled.unlootedCount other
    · have isFrom : awardedFrom other closing = true := by
        unfold awardedFrom
        rw [awarded, isLoot, beq_self_eq_true, Bool.true_and]
      rw [(taken awarded).2, settled.unlootedCount, if_pos isFrom, UInt8.ofNat_add]
      exact sub_sub _ _ _

/-- The same rolls, one of which is closed now. -/
theorem allRolls_perm {looting next : Looting} {index : Nat} {roll : Roll} {closing : Closing}
    (place : looting.rolls[index]? = some roll) (closes : Closes looting index roll closing next) :
    next.allRolls.Perm looting.allRolls := by
  obtain ⟨inside, atPlace⟩ := List.getElem?_eq_some_iff.mp place
  have moved : (roll :: looting.rolls.eraseIdx index).Perm looting.rolls := by
    rw [← atPlace]
    exact List.getElem_cons_eraseIdx_perm inside
  unfold allRolls
  rw [closes.rolls, closes.closings, List.map_append, List.map_singleton, closes.roll]
  refine List.Perm.trans ?_ (moved.append_right _)
  rw [← List.append_assoc, List.cons_append]
  exact List.perm_append_singleton roll _

theorem Consistent.countTheRoll {looting : Looting} (consistent : looting.Consistent)
    (luck : Luck) {index : Nat} {roll : Roll} (place : looting.rolls[index]? = some roll) :
    (looting.countTheRoll luck index).Consistent ∧
      (looting.countTheRoll luck index).rolls = looting.rolls.eraseIdx index ∧
      (looting.countTheRoll luck index).allRolls.Perm looting.allRolls ∧
      (looting.countTheRoll luck index).nextItemGuid = looting.nextItemGuid := by
  have member : roll ∈ looting.rolls := List.mem_of_getElem? place
  obtain ⟨loot, -, isLoot⟩ := consistent.linked roll (mem_allRolls_of_open member)
  obtain ⟨closing, closes, isFair⟩ :=
    countTheRoll_closes luck place isLoot (consistent.counted roll member)
  have same := allRolls_perm place closes
  have stays : ∀ other ∈ (looting.countTheRoll luck index).rolls, other ∈ looting.rolls := by
    rw [closes.rolls]
    exact fun other => List.mem_of_mem_eraseIdx
  refine ⟨⟨fun other isOpen => consistent.wellFormed other (stays other isOpen),
    fun other isOpen => consistent.counted other (stays other isOpen), ?_, ?_, ?_, ?_, ?_, ?_⟩,
    closes.rolls, same, closes.nextItemGuid⟩
  · rw [closes.nextLoot]
    exact fun other present => consistent.linked other (same.mem_iff.mp present)
  · rw [closes.nextItemGuid]
    exact fun other present => consistent.older other (same.mem_iff.mp present)
  · exact (same.map _).nodup_iff.mpr consistent.once
  · exact (same.map _).nodup_iff.mpr consistent.oneRoll
  · rw [closes.closings]
    intro other present
    rcases List.mem_append.mp present with old | new
    · exact consistent.fair other old
    · rw [List.mem_singleton.mp new]
      exact isFair
  · exact consistent.settled.closes closes.closings closes.found (closes.roll ▸ isLoot)
      closes.settles

theorem Pending.eraseIdx {looting next : Looting} {index : Nat}
    (others : ∀ roll ∈ looting.rolls.eraseIdx index, roll.Undecided)
    (rolls : next.rolls = looting.rolls.eraseIdx index) : next.Pending := by
  unfold Pending
  rw [rolls]
  exact others

/-! ### A vote -/

/-- The votes which `CountRollVote` may see. -/
def FirstVote (looting : Looting) (player itemGUID : ObjectGuid) (choice : Nat) : Prop :=
  ∀ roll ∈ looting.rolls, roll.itemGUID = itemGUID → choice < maxRollType →
    ((looting.getLoot roll).any fun loot => loot.items.isEmpty) = false →
      ∀ entry ∈ roll.playerVote, entry.guid = player → entry.vote = .notEmitedYet

theorem getRoll_eq_some {looting : Looting} {itemGUID : ObjectGuid} {index : Nat}
    (found : looting.getRoll itemGUID = some index) :
    ∃ roll, looting.rolls[index]? = some roll ∧ roll.itemGUID = itemGUID := by
  unfold getRoll at found
  obtain ⟨inside, isRoll, -⟩ := List.findIdx?_eq_some_iff_getElem.mp found
  rw [Bool.and_eq_true, beq_iff_eq] at isRoll
  exact ⟨_, List.getElem?_eq_getElem inside, isRoll.1⟩

/-- A roll takes the place of one for the same item. -/
theorem map_set_of_same {Value : Type} (view : Roll → Value) {rolls : List Roll} {index : Nat}
    {roll next : Roll} (place : rolls[index]? = some roll) (same : view next = view roll) :
    (rolls.set index next).map view = rolls.map view := by
  obtain ⟨inside, atPlace⟩ := List.getElem?_eq_some_iff.mp place
  rw [List.map_set, same, ← atPlace]
  have insideMap : index < (rolls.map view).length := by simpa using inside
  have isView : view rolls[index] = (rolls.map view)[index] := by simp
  rw [isView]
  exact List.set_getElem_self _

theorem mem_set {rolls : List Roll} {index : Nat} {next roll : Roll}
    (member : roll ∈ rolls.set index next) : roll ∈ rolls ∨ roll = next :=
  List.mem_or_eq_of_mem_set member

theorem castVote_votesKept {roll : Roll} (unique : (roll.playerVote.map PlayerVote.guid).Nodup)
    {player : ObjectGuid} {choice : Nat}
    (first : choice < maxRollType → ∀ entry ∈ roll.playerVote, entry.guid = player →
      entry.vote = .notEmitedYet) : VotesKept roll (castVote roll player choice) := by
  intro entry member decided kept keptMember same
  by_cases known : choice < maxRollType
  · rw [castVote_playerVote known, mem_modify] at keptMember
    rcases keptMember with ⟨old, -⟩ | ⟨old, -, isPlayer, rfl⟩
    · have isEntry : kept = entry := List.inj_on_of_nodup_map unique old member same
      rw [isEntry]
    · have isEntry : entry.guid = player := same.symm.trans isPlayer
      exact absurd (first known entry member isEntry) decided
  · rw [castVote_other (not_lt.mp known)] at keptMember
    rw [List.inj_on_of_nodup_map unique keptMember member same]

theorem VotesKept.refl {roll : Roll} (unique : (roll.playerVote.map PlayerVote.guid).Nodup) :
    VotesKept roll roll := by
  intro entry member _ kept keptMember same
  rw [List.inj_on_of_nodup_map unique keptMember member same]

/-- Only rolls from before, or new ones. -/
def SameRolls (looting next : Looting) : Prop :=
  ∀ later ∈ next.allRolls, later ∈ looting.allRolls ∨ looting.nextItemGuid ≤ later.itemGUID

theorem SameRolls.firstVotesFinal {looting next : Looting} (same : SameRolls looting next)
    (consistent : looting.Consistent) : FirstVotesFinal looting next := by
  intro roll member later present isRoll
  have known := mem_allRolls_of_open member
  rcases same later present with old | new
  · rw [eq_of_itemGUID consistent old known isRoll]
    exact VotesKept.refl (consistent.wellFormed roll member).unique
  · rw [isRoll] at new
    exact absurd (consistent.older roll known) (not_lt.mpr new)

/-- A roll that changes without changing what it is for. -/
theorem Consistent.set {looting : Looting} (consistent : looting.Consistent) {index : Nat}
    {roll next : Roll} (place : looting.rolls[index]? = some roll)
    (same : next.itemGUID = roll.itemGUID ∧ next.loot = roll.loot ∧
      next.itemSlot = roll.itemSlot)
    (wellFormed : next.WellFormed) (counted : next.Counted) :
    Consistent { looting with rolls := looting.rolls.set index next } := by
  refine consistent.replaceRolls
    (map_set_of_same _ place (by rw [same.1, same.2.1, same.2.2])) ?_ ?_
  · intro other isOther
    rcases mem_set isOther with old | rfl
    · exact consistent.wellFormed other old
    · exact wellFormed
  · intro other isOther
    rcases mem_set isOther with old | rfl
    · exact consistent.counted other old
    · exact counted

theorem firstVotesFinal_set {looting : Looting} (consistent : looting.Consistent) {index : Nat}
    {roll next : Roll} (place : looting.rolls[index]? = some roll)
    (same : next.itemGUID = roll.itemGUID) (kept : VotesKept roll next) :
    FirstVotesFinal looting { looting with rolls := looting.rolls.set index next } := by
  intro old isOpen later present sameItem
  have known := mem_allRolls_of_open isOpen
  have member : roll ∈ looting.allRolls := mem_allRolls_of_open (List.mem_of_getElem? place)
  have split : later ∈ looting.allRolls ∨ later = next := by
    rcases List.mem_append.mp present with isSet | closed
    · exact (mem_set isSet).imp_left mem_allRolls_of_open
    · exact .inl (List.mem_append_right _ closed)
  rcases split with isOld | rfl
  · rw [eq_of_itemGUID consistent isOld known sameItem]
    exact VotesKept.refl (consistent.wellFormed old isOpen).unique
  · rw [← eq_of_itemGUID consistent member known (same ▸ sameItem)]
    exact kept

/-- What a step of the rolls keeps. -/
structure Keeps (looting next : Looting) : Prop where
  consistent : next.Consistent
  pending : next.Pending
  final : FirstVotesFinal looting next

theorem keeps_refl {looting : Looting} (consistent : looting.Consistent)
    (pending : looting.Pending) : Keeps looting looting :=
  ⟨consistent, pending, SameRolls.firstVotesFinal (fun _ member => .inl member) consistent⟩

theorem keeps_countRollVote (luck : Luck) {looting : Looting} (consistent : looting.Consistent)
    (pending : looting.Pending) {player itemGUID : ObjectGuid} {choice : Nat}
    (first : FirstVote looting player itemGUID choice) :
    Keeps looting (looting.countRollVote luck player itemGUID choice) := by
  have unchanged := keeps_refl consistent pending
  unfold countRollVote
  cases found : looting.getRoll itemGUID with
  | none => exact unchanged
  | some index =>
      obtain ⟨roll, place, isItem⟩ := getRoll_eq_some found
      have member : roll ∈ looting.rolls := List.mem_of_getElem? place
      dsimp only
      rw [place]
      dsimp only
      by_cases stranger : (find PlayerVote.guid roll.playerVote player).isNone = true
      · rw [if_pos stranger]
        exact unchanged
      rw [if_neg stranger]
      by_cases noItems : ((looting.getLoot roll).any fun loot => loot.items.isEmpty) = true
      · rw [if_pos noItems]
        exact unchanged
      rw [if_neg noItems]
      obtain ⟨entry, isEntry⟩ :
          ∃ entry, find PlayerVote.guid roll.playerVote player = some entry := by
        cases isEntry : find PlayerVote.guid roll.playerVote player with
        | none => exact absurd (by rw [isEntry]; rfl) stranger
        | some entry => exact ⟨entry, rfl⟩
      have entryMember := mem_of_find isEntry
      have isPlayer := key_of_find isEntry
      have isFirst : choice < maxRollType → ∀ entry ∈ roll.playerVote, entry.guid = player →
          entry.vote = .notEmitedYet :=
        fun known => first roll member isItem known (Bool.eq_false_iff.mpr noItems)
      have sameKeys := castVote_fields roll player choice
      have wellFormed := wellFormed_castVote (consistent.wellFormed roll member) player choice
      have counted : (castVote roll player choice).Counted := by
        by_cases known : choice < maxRollType
        · subst isPlayer
          exact counted_castVote (consistent.counted roll member)
            (consistent.wellFormed roll member) entryMember (isFirst known entry entryMember rfl)
            choice
        · rw [castVote_other (not_lt.mp known)]
          exact consistent.counted roll member
      have next := consistent.set place ⟨sameKeys.1, sameKeys.2.1, sameKeys.2.2.1⟩ wellFormed
        counted
      have final := firstVotesFinal_set consistent place sameKeys.1
        (castVote_votesKept (consistent.wellFormed roll member).unique isFirst)
      split_ifs with complete
      · have atPlace : (looting.rolls.set index (castVote roll player choice))[index]? =
            some (castVote roll player choice) :=
          List.getElem?_set_self (List.getElem?_eq_some_iff.mp place).1
        obtain ⟨closed, rolls, same, -⟩ := next.countTheRoll luck atPlace
        refine ⟨closed, Pending.eraseIdx ?_ rolls, ?_⟩
        · dsimp only
          rw [List.eraseIdx_set_eq]
          exact fun other isOther => pending other (List.mem_of_mem_eraseIdx isOther)
        · exact fun old isOpen later present =>
            final old isOpen later (same.mem_iff.mp present)
      · refine ⟨next, ?_, final⟩
        intro other isOther
        rcases mem_set isOther with old | rfl
        · exact pending other old
        · by_contra decided
          exact complete ((allVoted_iff counted wellFormed).mpr decided)

/-! ### The timer -/

theorem keeps_endRollFrom (luck : Luck) (loot : LootId) (rounds : Nat) {looting : Looting}
    (consistent : looting.Consistent) (pending : looting.Pending) :
    (endRollFrom luck loot rounds looting).Consistent ∧
      (endRollFrom luck loot rounds looting).Pending ∧
      SameRolls looting (endRollFrom luck loot rounds looting) := by
  induction rounds generalizing looting with
  | zero => exact ⟨consistent, pending, fun _ member => .inl member⟩
  | succ rounds induction =>
      unfold endRollFrom
      cases found : looting.rolls.findIdx? fun roll => roll.loot == some loot with
      | none => exact ⟨consistent, pending, fun _ member => .inl member⟩
      | some index =>
          obtain ⟨inside, -⟩ := List.findIdx?_eq_some_iff_getElem.mp found
          obtain ⟨closed, rolls, same, nextGuid⟩ :=
            consistent.countTheRoll luck (List.getElem?_eq_getElem inside)
          have fewer := Pending.eraseIdx
            (fun roll member => pending roll (List.mem_of_mem_eraseIdx member)) rolls
          obtain ⟨later, laterPending, laterRolls⟩ := induction closed fewer
          refine ⟨later, laterPending, fun roll member => ?_⟩
          rcases laterRolls roll member with old | new
          · exact .inl (same.mem_iff.mp old)
          · exact .inr (nextGuid ▸ new)

theorem keeps_endRoll (luck : Luck) (loot : LootId) {looting : Looting}
    (consistent : looting.Consistent) (pending : looting.Pending) :
    Keeps looting (looting.endRoll luck loot) := by
  obtain ⟨closed, later, same⟩ :=
    keeps_endRollFrom luck loot looting.rolls.length consistent pending
  exact ⟨closed, later, same.firstVotesFinal consistent⟩

theorem length_countTheRoll (luck : Luck) {looting : Looting} {index : Nat}
    (inside : index < looting.rolls.length) :
    (looting.countTheRoll luck index).rolls.length + 1 = looting.rolls.length := by
  have modified : ∀ roll change, (looting.modifyLoot roll change).rolls = looting.rolls := by
    intro roll change
    unfold modifyLoot
    split <;> rfl
  have stored : ∀ roll guid, (looting.storeItem luck roll guid).2.rolls = looting.rolls := by
    intro roll guid
    unfold storeItem
    split_ifs <;> exact modified _ _
  have awarded : ∀ roll best, (looting.award luck roll best).2.rolls = looting.rolls := by
    intro roll best
    unfold award
    split
    · exact stored _ _
    · exact modified _ _
    · rfl
  have rolled : ∀ roll chosen (give : RolledNumber → Option ObjectGuid × Looting),
      (∀ best, (give best).2.rolls = looting.rolls) →
        (looting.rollOff luck roll chosen give index).rolls = looting.rolls.eraseIdx index := by
    intro roll chosen give gives
    unfold rollOff
    split
    · rfl
    · dsimp only
      split_ifs
      · exact congrArg (List.eraseIdx · index) (gives _)
      · rfl
  have rolls : (looting.countTheRoll luck index).rolls = looting.rolls.eraseIdx index := by
    unfold countTheRoll
    rw [List.getElem?_eq_getElem inside]
    dsimp only
    split_ifs
    · rfl
    · exact rolled _ _ _ fun best => stored _ _
    · exact rolled _ _ _ fun best => awarded _ _
    · exact congrArg (List.eraseIdx · index) (modified _ _)
  rw [rolls, List.length_eraseIdx_of_lt inside]
  omega

theorem endRollFrom_done (luck : Luck) (loot : LootId) (rounds : Nat) {looting : Looting}
    (enough : looting.rolls.length ≤ rounds) :
    ∀ roll ∈ (endRollFrom luck loot rounds looting).rolls, roll.loot ≠ some loot := by
  induction rounds generalizing looting with
  | zero =>
      have empty : looting.rolls = [] := List.length_eq_zero_iff.mp (Nat.le_zero.mp enough)
      unfold endRollFrom
      simp [empty]
  | succ rounds induction =>
      unfold endRollFrom
      cases found : looting.rolls.findIdx? fun roll => roll.loot == some loot with
      | none =>
          intro roll member same
          have other := List.findIdx?_eq_none_iff.mp found roll member
          simp [same] at other
      | some index =>
          obtain ⟨inside, -⟩ := List.findIdx?_eq_some_iff_getElem.mp found
          have fewer := length_countTheRoll luck inside
          exact induction (by omega)

/-! ### A member leaves -/

theorem countRollVote_of_absent (luck : Luck) {looting : Looting} {player itemGUID : ObjectGuid}
    (absent : ∀ roll ∈ looting.rolls, roll.itemGUID = itemGUID →
      find PlayerVote.guid roll.playerVote player = none) (choice : Nat) :
    looting.countRollVote luck player itemGUID choice = looting := by
  unfold countRollVote
  cases found : looting.getRoll itemGUID with
  | none => rfl
  | some index =>
      obtain ⟨roll, place, isItem⟩ := getRoll_eq_some found
      dsimp only
      rw [place]
      dsimp only
      rw [absent roll (List.mem_of_getElem? place) isItem]
      rfl

/--
One round of the loop.  The vote is taken out before `CountRollVote` looks for
it, so that the roll is never counted here.
-/
theorem removeFromRoll_eq (luck : Luck) (guid : ObjectGuid) {looting : Looting}
    (guids : (looting.rolls.map Roll.itemGUID).Nodup) {index : Nat} {roll : Roll}
    (place : looting.rolls[index]? = some roll) :
    removeFromRoll luck guid looting index =
      { looting with rolls := looting.rolls.set index (leave guid roll) } := by
  unfold removeFromRoll
  rw [place]
  dsimp only
  obtain ⟨inside, atPlace⟩ := List.getElem?_eq_some_iff.mp place
  cases found : find PlayerVote.guid roll.playerVote guid with
  | none =>
      have same : leave guid roll = roll := by
        unfold leave
        rw [found]
      rw [same, ← atPlace, List.set_getElem_self]
  | some entry =>
      have left : { uncountVote roll entry.vote with
          playerVote := erase PlayerVote.guid roll.playerVote guid } = leave guid roll := by
        unfold leave
        rw [found]
      obtain ⟨sameGuid, -, -, votes⟩ := leave_fields guid roll
      dsimp only
      rw [left]
      apply countRollVote_of_absent
      intro other member isItem
      have unique : ((looting.rolls.set index (leave guid roll)).map Roll.itemGUID).Nodup := by
        rw [map_set_of_same Roll.itemGUID place sameGuid]
        exact guids
      have isLeft : other = leave guid roll := by
        apply List.inj_on_of_nodup_map unique member
        · exact List.mem_of_getElem? (List.getElem?_set_self inside)
        · rw [isItem, sameGuid]
      rw [isLeft, votes, find_eq_none_iff]
      exact fun kept isKept => (mem_erase.mp isKept).2

theorem foldl_removeFromRoll (luck : Luck) (guid : ObjectGuid) {looting : Looting}
    (guids : (looting.rolls.map Roll.itemGUID).Nodup) (rounds : Nat)
    (atMost : rounds ≤ looting.rolls.length) :
    (List.range rounds).foldl (removeFromRoll luck guid) looting =
      { looting with
        rolls := (looting.rolls.take rounds).map (leave guid) ++ looting.rolls.drop rounds } := by
  induction rounds with
  | zero => rfl
  | succ rounds induction =>
      have inside : rounds < looting.rolls.length := atMost
      have same : ∀ roll : Roll, (leave guid roll).itemGUID = roll.itemGUID :=
        fun roll => (leave_fields guid roll).1
      have sameGuids : ((looting.rolls.take rounds).map (leave guid) ++
          looting.rolls.drop rounds).map Roll.itemGUID = looting.rolls.map Roll.itemGUID := by
        rw [List.map_append, List.map_map]
        have taken : (looting.rolls.take rounds).map (Roll.itemGUID ∘ leave guid) =
            (looting.rolls.take rounds).map Roll.itemGUID :=
          List.map_congr_left fun roll _ => same roll
        rw [taken, ← List.map_append, List.take_append_drop]
      have length : ((looting.rolls.take rounds).map (leave guid)).length = rounds := by
        rw [List.length_map, List.length_take]
        omega
      have atPlace : ((looting.rolls.take rounds).map (leave guid) ++
          looting.rolls.drop rounds)[rounds]? = some looting.rolls[rounds] := by
        rw [List.getElem?_append_right (by omega), length, Nat.sub_self, List.getElem?_drop,
          Nat.add_zero, List.getElem?_eq_getElem inside]
      rw [List.range_succ, List.foldl_append, induction (by omega), List.foldl_cons,
        List.foldl_nil, removeFromRoll_eq luck guid (by exact sameGuids ▸ guids) atPlace]
      congr 1
      dsimp only
      rw [List.set_append_right _ _ (by omega), length, Nat.sub_self,
        List.drop_eq_getElem_cons inside, List.set_cons_zero,
        List.take_succ_eq_append_getElem inside,
        List.map_append, List.append_assoc]
      rfl

/-- The player is taken out of every roll. -/
theorem removeFromRolls_eq (luck : Luck) (guid : ObjectGuid) {looting : Looting}
    (consistent : looting.Consistent) :
    looting.removeFromRolls luck guid =
      { looting with rolls := looting.rolls.map (leave guid) } := by
  have guids : (looting.rolls.map Roll.itemGUID).Nodup :=
    consistent.once.sublist ((List.sublist_append_left _ _).map _)
  unfold removeFromRolls
  rw [foldl_removeFromRoll luck guid guids _ le_rfl, List.take_length, List.drop_length,
    List.append_nil]

/-- Somebody else has not voted yet in any roll of the player. -/
def NotLastToVote (looting : Looting) (guid : ObjectGuid) : Prop :=
  ∀ roll ∈ looting.rolls, guid ∈ roll.playerVote.map PlayerVote.guid →
    ∃ entry ∈ roll.playerVote, entry.guid ≠ guid ∧ entry.vote = .notEmitedYet

theorem leave_votesKept {roll : Roll} (unique : (roll.playerVote.map PlayerVote.guid).Nodup)
    (guid : ObjectGuid) : VotesKept roll (leave guid roll) := by
  intro entry member decided kept keptMember same
  rw [(leave_fields guid roll).2.2.2, mem_erase] at keptMember
  exact VotesKept.refl unique entry member decided kept keptMember.1 same

theorem consistent_removeFromRolls (luck : Luck) {looting : Looting}
    (consistent : looting.Consistent) (guid : ObjectGuid) :
    (looting.removeFromRolls luck guid).Consistent ∧
      FirstVotesFinal looting (looting.removeFromRolls luck guid) := by
  rw [removeFromRolls_eq luck guid consistent]
  have keys : ∀ roll : Roll, ((leave guid roll).itemGUID, (leave guid roll).loot,
      (leave guid roll).itemSlot) = (roll.itemGUID, roll.loot, roll.itemSlot) := by
    intro roll
    obtain ⟨sameGuid, sameLoot, sameSlot, -⟩ := leave_fields guid roll
    rw [sameGuid, sameLoot, sameSlot]
  constructor
  · refine consistent.replaceRolls ?_ ?_ ?_
    · rw [List.map_map]
      exact List.map_congr_left fun roll _ => keys roll
    · intro other member
      obtain ⟨roll, isOpen, rfl⟩ := List.mem_map.mp member
      exact wellFormed_leave (consistent.wellFormed roll isOpen) guid
    · intro other member
      obtain ⟨roll, isOpen, rfl⟩ := List.mem_map.mp member
      exact counted_leave (consistent.counted roll isOpen) (consistent.wellFormed roll isOpen) guid
  · intro roll isOpen later present sameItem
    have known := mem_allRolls_of_open isOpen
    have wellFormed := consistent.wellFormed roll isOpen
    rcases List.mem_append.mp present with isLeft | closed
    · obtain ⟨old, oldOpen, rfl⟩ := List.mem_map.mp isLeft
      rw [(leave_fields guid old).1] at sameItem
      rw [eq_of_itemGUID consistent (mem_allRolls_of_open oldOpen) known sameItem]
      exact leave_votesKept wellFormed.unique guid
    · have old : later ∈ looting.allRolls := List.mem_append_right _ closed
      rw [eq_of_itemGUID consistent old known sameItem]
      exact VotesKept.refl wellFormed.unique

theorem keeps_removeFromRolls (luck : Luck) {looting : Looting} (consistent : looting.Consistent)
    (pending : looting.Pending) {guid : ObjectGuid} (notLast : looting.NotLastToVote guid) :
    Keeps looting (looting.removeFromRolls luck guid) := by
  obtain ⟨next, final⟩ := consistent_removeFromRolls luck consistent guid
  refine ⟨next, ?_, final⟩
  rw [removeFromRolls_eq luck guid consistent]
  intro left member
  obtain ⟨roll, isOpen, rfl⟩ := List.mem_map.mp member
  unfold Undecided
  rw [(leave_fields guid roll).2.2.2]
  by_cases plays : guid ∈ roll.playerVote.map PlayerVote.guid
  · obtain ⟨entry, isEntry, other, missing⟩ := notLast roll isOpen plays
    exact ⟨entry, mem_erase.mpr ⟨isEntry, other⟩, missing⟩
  · obtain ⟨entry, isEntry, missing⟩ := pending roll isOpen
    refine ⟨entry, mem_erase.mpr ⟨isEntry, fun same => plays ?_⟩, missing⟩
    rw [← same]
    exact List.mem_map_of_mem isEntry

theorem keeps_noRolls {looting next : Looting} (consistent : next.Consistent)
    (final : FirstVotesFinal looting next) : Keeps looting { next with rolls := [] } := by
  refine ⟨consistent.noRolls, fun roll member => absurd member (List.not_mem_nil), ?_⟩
  intro roll isOpen later present
  exact final roll isOpen later (List.mem_append_right _ (by simpa [allRolls] using present))

/-! ### New rolls -/

/-- The rolls for a loot so far are for slots before one. -/
def SlotsBefore (looting : Looting) (loot : LootId) (itemSlot : Nat) : Prop :=
  ∀ roll ∈ looting.allRolls, roll.loot = some loot → roll.itemSlot < itemSlot

/-- While the items of the last loot are offered. -/
structure Offering (loot : LootId) (itemSlot : Nat) (looting : Looting) : Prop where
  consistent : looting.Consistent
  pending : looting.Pending
  isLast : looting.nextLoot = loot + 1
  before : SlotsBefore looting loot itemSlot

theorem Settled.of_sameLooted {looting : Looting} (settled : looting.Settled)
    {loots : LootId → Loot}
    (same : ∀ loot, (looting.loots loot).SameLooted (loots loot)) (rolls : List Roll)
    (nextItemGuid : ObjectGuid) : Settled { looting with loots, rolls, nextItemGuid } := by
  constructor
  · intro loot itemSlot
    exact ((same loot).looted itemSlot).trans (settled.looted loot itemSlot)
  · intro loot
    exact (same loot).unlootedCount.trans (settled.unlootedCount loot)

/-- A change of one loot that takes nothing from it. -/
theorem sameLooted_update (loots : LootId → Loot) (loot : LootId) (itemSlot : Nat)
    {change : LootItem → LootItem} (same : ∀ item, (change item).isLooted = item.isLooted)
    (other : LootId) :
    (loots other).SameLooted
      (Function.update loots loot ((loots loot).modifyItem itemSlot change) other) := by
  by_cases isOther : other = loot
  · subst isOther
    rw [Function.update_self]
    exact Loot.sameLooted_modifyItem _ _ same
  · rw [Function.update_of_ne isOther]
    exact .refl _

theorem Consistent.nextGuid {looting : Looting} (consistent : looting.Consistent) :
    Consistent { looting with nextItemGuid := looting.nextItemGuid + 1 } :=
  { consistent with
    older := fun roll member => Nat.lt_succ_of_lt (consistent.older roll member)
    settled := { consistent.settled with } }

theorem Offering.startRoll {loot : LootId} {itemSlot : Nat} {looting : Looting}
    (offering : Offering loot itemSlot looting) (item : LootItem) {passes : ObjectGuid → Bool}
    {players : List ObjectGuid} (unique : players.Nodup) (small : players.length < 256)
    (votes : players ≠ [] → ∃ guid ∈ players, passes guid = false) :
    Offering loot (itemSlot + 1) (looting.startRoll loot itemSlot item passes players) ∧
      SameRolls looting (looting.startRoll loot itemSlot item passes players) := by
  have consistent := offering.consistent
  let roll := newRoll looting.nextItemGuid loot itemSlot item passes players
  obtain ⟨isGuid, isLoot, isSlot⟩ :=
    newRoll_fields looting.nextItemGuid loot itemSlot item passes players
  have gathers := newRoll_gathers looting.nextItemGuid loot itemSlot item passes unique small
  have later : SlotsBefore looting loot (itemSlot + 1) :=
    fun old member same => Nat.lt_succ_of_lt (offering.before old member same)
  unfold Looting.startRoll
  dsimp only
  split_ifs with someone
  swap
  · exact ⟨⟨consistent.nextGuid, offering.pending, offering.isLast, later⟩,
      fun _ member => .inl member⟩
  have wellFormed : roll.WellFormed := gathers.wellFormed unique
  have counted : roll.Counted := gathers.counted
  have undecided : roll.Undecided := by
    have some : players ≠ [] := by
      rintro rfl
      exact absurd someone (lt_irrefl 0)
    obtain ⟨guid, member, isFree⟩ := votes some
    exact gathers.undecided member isFree
  rw [modifyLoot_eq isLoot]
  have all : ∀ old, old ∈ (looting.rolls ++ [roll]) ++ looting.closings.map Closing.roll →
      old ∈ looting.allRolls ∨ old = roll := by
    intro old member
    rcases List.mem_append.mp member with isOpen | closed
    · rcases List.mem_append.mp isOpen with old | new
      · exact .inl (mem_allRolls_of_open old)
      · exact .inr (List.mem_singleton.mp new)
    · exact .inl (List.mem_append_right _ closed)
  have permuted : ((looting.rolls ++ [roll]) ++ looting.closings.map Closing.roll).Perm
      (roll :: looting.allRolls) := by
    rw [List.append_assoc, List.singleton_append]
    exact List.perm_middle
  refine ⟨⟨⟨?_, ?_, ?_, ?_, ?_, ?_, consistent.fair, ?_⟩, ?_, offering.isLast, ?_⟩, ?_⟩
  · intro old member
    rcases List.mem_append.mp member with isOpen | new
    · exact consistent.wellFormed old isOpen
    · exact List.mem_singleton.mp new ▸ wellFormed
  · intro old member
    rcases List.mem_append.mp member with isOpen | new
    · exact consistent.counted old isOpen
    · exact List.mem_singleton.mp new ▸ counted
  · intro old member
    rcases all old member with known | rfl
    · exact consistent.linked old known
    · exact ⟨loot, by rw [show _ = _ from offering.isLast]; exact Nat.lt_succ_self loot, isLoot⟩
  · intro old member
    rcases all old member with known | rfl
    · exact Nat.lt_succ_of_lt (consistent.older old known)
    · exact isGuid ▸ Nat.lt_succ_self _
  · refine (permuted.map _).nodup_iff.mpr ?_
    rw [List.map_cons, List.nodup_cons]
    refine ⟨fun member => ?_, consistent.once⟩
    obtain ⟨old, known, same⟩ := List.mem_map.mp member
    have older := consistent.older old known
    rw [same, isGuid] at older
    exact absurd older (lt_irrefl _)
  · refine (permuted.map _).nodup_iff.mpr ?_
    rw [List.map_cons, List.nodup_cons]
    refine ⟨fun member => ?_, consistent.oneRoll⟩
    obtain ⟨old, known, same⟩ := List.mem_map.mp member
    unfold place at same
    rw [Prod.mk.injEq] at same
    have isBefore := offering.before old known (same.1.trans isLoot)
    rw [same.2, isSlot] at isBefore
    exact absurd isBefore (lt_irrefl _)
  · have same : ∀ other, (looting.loots other).SameLooted
        (Function.update looting.loots loot ((looting.loots loot).modifyItem itemSlot
          fun item => { item with isBlocked := true }) other) := by
      refine fun other => sameLooted_update looting.loots loot itemSlot ?_ other
      exact fun _ => rfl
    exact consistent.settled.of_sameLooted same _ _
  · intro old member
    rcases List.mem_append.mp member with isOpen | new
    · exact offering.pending old isOpen
    · exact List.mem_singleton.mp new ▸ undecided
  · intro old member isForLoot
    rcases all old member with known | rfl
    · exact later old known isForLoot
    · exact isSlot ▸ Nat.lt_succ_self _
  · intro old member
    rcases all old member with known | rfl
    · exact .inl known
    · exact .inr (isGuid ▸ le_rfl)

/-- Rolls are offered from one slot on, for the slots that are left. -/
theorem Offering.next {loot : LootId} {itemSlot : Nat} {looting : Looting}
    (offering : Offering loot itemSlot looting) : Offering loot (itemSlot + 1) looting :=
  { offering with
    before := fun roll member same => Nat.lt_succ_of_lt (offering.before roll member same) }

theorem Offering.markItem {loot : LootId} {itemSlot : Nat} {looting : Looting}
    (offering : Offering loot itemSlot looting) (slot : Nat) {change : LootItem → LootItem}
    (same : ∀ item, (change item).isLooted = item.isLooted) :
    Offering loot itemSlot { looting with
      loots := Function.update looting.loots loot
        ((looting.loots loot).modifyItem slot change) } := by
  have consistent := offering.consistent
  exact ⟨⟨consistent.wellFormed, consistent.counted, consistent.linked, consistent.older,
      consistent.once, consistent.oneRoll, consistent.fair,
      consistent.settled.of_sameLooted (sameLooted_update looting.loots loot slot same) _ _⟩,
    offering.pending, offering.isLast, offering.before⟩

theorem SameRolls.trans {first second third : Looting} (before : SameRolls first second)
    (older : first.nextItemGuid ≤ second.nextItemGuid) (after : SameRolls second third) :
    SameRolls first third := by
  intro roll member
  rcases after roll member with known | new
  · exact before roll known
  · exact .inr (older.trans new)

theorem nextItemGuid_startRoll (looting : Looting) (loot : LootId) (itemSlot : Nat)
    (item : LootItem) (passes : ObjectGuid → Bool) (players : List ObjectGuid) :
    (looting.startRoll loot itemSlot item passes players).nextItemGuid =
      looting.nextItemGuid + 1 := by
  unfold Looting.startRoll
  dsimp only
  split_ifs
  · unfold modifyLoot
    split <;> rfl
  · rfl

/-- Someone who can roll for the item does not pass beforehand. -/
def SomeoneVotes (nearby : Nearby) (members : List ObjectGuid) (item : LootItem) : Prop :=
  (∃ guid ∈ members, nearby.rolls item guid = true) →
    ∃ guid ∈ members, nearby.rolls item guid = true ∧ nearby.getPassOnGroupLoot guid = false

/-- The members for whom a roll is opened are told apart and fit its counters. -/
structure Countable (members : List ObjectGuid) : Prop where
  unique : members.Nodup
  small : members.length < 256

theorem Countable.filter {members : List ObjectGuid} (countable : Countable members)
    (chosen : ObjectGuid → Bool) :
    (members.filter chosen).Nodup ∧ (members.filter chosen).length < 256 :=
  ⟨countable.unique.filter _,
    lt_of_le_of_lt (List.length_filter_le _ _) countable.small⟩

/-- What one item of a new loot keeps. -/
structure Offers (loot : LootId) (itemSlot : Nat) (looting next : Looting) : Prop where
  offering : Offering loot itemSlot next
  same : SameRolls looting next
  older : looting.nextItemGuid ≤ next.nextItemGuid

theorem offers_offerItem {nearby : Nearby} {members : List ObjectGuid}
    (countable : Countable members) (lootThreshold : Nat) {loot : LootId} {looting : Looting}
    {item : LootItem} {itemSlot : Nat} (offering : Offering loot itemSlot looting)
    (votes : item.freeforall = false → lootThreshold ≤ item.quality →
      SomeoneVotes nearby members item) :
    Offers loot (itemSlot + 1) looting
      (looting.offerItem nearby members lootThreshold loot (item, itemSlot)) := by
  unfold offerItem
  dsimp only
  split_ifs with free valuable
  · exact ⟨offering.next, fun _ member => .inl member, le_rfl⟩
  · obtain ⟨unique, small⟩ := countable.filter (nearby.rolls item)
    have someone : members.filter (nearby.rolls item) ≠ [] →
        ∃ guid ∈ members.filter (nearby.rolls item), nearby.getPassOnGroupLoot guid = false := by
      intro nonempty
      obtain ⟨guid, present⟩ := List.exists_mem_of_ne_nil _ nonempty
      obtain ⟨member, rolls⟩ := List.mem_filter.mp present
      obtain ⟨voter, isMember, canRoll, isFree⟩ :=
        votes (Bool.eq_false_iff.mpr free) valuable ⟨guid, member, rolls⟩
      exact ⟨voter, List.mem_filter.mpr ⟨isMember, canRoll⟩, isFree⟩
    obtain ⟨next, same⟩ := offering.startRoll item unique small someone
    exact ⟨next, same, by rw [nextItemGuid_startRoll]; exact Nat.le_succ _⟩
  · refine ⟨(offering.markItem itemSlot ?_).next, fun _ member => .inl member, le_rfl⟩
    exact fun _ => rfl

theorem offers_offerQuestItem {nearby : Nearby} {members : List ObjectGuid}
    (countable : Countable members) {loot : LootId} {looting : Looting}
    {item : LootItem} {itemSlot : Nat} (offering : Offering loot itemSlot looting) :
    Offers loot (itemSlot + 1) looting
      (looting.offerQuestItem nearby members loot (item, itemSlot)) := by
  unfold offerQuestItem
  dsimp only
  split_ifs with follows
  · exact ⟨offering.next, fun _ member => .inl member, le_rfl⟩
  · obtain ⟨unique, small⟩ := countable.filter (nearby.rolls item)
    have someone : members.filter (nearby.rolls item) ≠ [] →
        ∃ guid ∈ members.filter (nearby.rolls item), (fun _ => false) guid = false := by
      intro nonempty
      obtain ⟨guid, present⟩ := List.exists_mem_of_ne_nil _ nonempty
      exact ⟨guid, present, rfl⟩
    obtain ⟨next, same⟩ := offering.startRoll item unique small someone
    exact ⟨next, same, by rw [nextItemGuid_startRoll]; exact Nat.le_succ _⟩

/-- The loops over the items, from one slot on. -/
theorem offers_foldl {loot : LootId} (offer : Looting → LootItem × Nat → Looting)
    (items : List LootItem)
    (offers : ∀ (looting : Looting) (itemSlot : Nat), ∀ item ∈ items,
      Offering loot itemSlot looting →
        Offers loot (itemSlot + 1) looting (offer looting (item, itemSlot)))
    {looting : Looting} {itemSlot : Nat} (offering : Offering loot itemSlot looting) :
    Offers loot (itemSlot + items.length) looting
      ((items.zipIdx itemSlot).foldl offer looting) := by
  induction items generalizing looting itemSlot with
  | nil => exact ⟨offering, fun _ member => .inl member, le_rfl⟩
  | cons first rest induction =>
      rw [List.zipIdx_cons, List.foldl_cons, List.length_cons]
      have one := offers looting itemSlot first (List.mem_cons_self ..) offering
      have others := induction
        (fun looting itemSlot item member =>
          offers looting itemSlot item (List.mem_cons_of_mem _ member)) one.offering
      refine ⟨?_, one.same.trans one.older others.same, one.older.trans others.older⟩
      have last := others.offering
      rwa [Nat.add_assoc, Nat.add_comm 1] at last

/-- A loot that has just been found has no rolls yet. -/
theorem Consistent.findLoot {looting : Looting} (consistent : looting.Consistent)
    (pending : looting.Pending) (contents : Loot) :
    Offering looting.nextLoot 0 { looting with
      loots := Function.update looting.loots looting.nextLoot contents
      found := Function.update looting.found looting.nextLoot contents
      nextLoot := looting.nextLoot + 1 } := by
  have older : ∀ roll ∈ looting.allRolls, roll.loot ≠ some looting.nextLoot := by
    intro roll member same
    obtain ⟨loot, isOld, isLoot⟩ := consistent.linked roll member
    rw [isLoot] at same
    exact absurd (Option.some.inj same ▸ isOld) (lt_irrefl looting.nextLoot)
  have notAwarded : ∀ closing ∈ looting.closings,
      awardedFrom looting.nextLoot closing = false := by
    intro closing member
    have isClosed : closing.roll ∈ looting.allRolls :=
      List.mem_append_right _ (List.mem_map_of_mem member)
    unfold awardedFrom
    rw [beq_eq_false_iff_ne.mpr (older closing.roll isClosed), Bool.and_false]
  refine ⟨⟨consistent.wellFormed, consistent.counted, ?_, consistent.older, consistent.once,
    consistent.oneRoll, consistent.fair, ?_⟩, pending, rfl, ?_⟩
  · intro roll member
    obtain ⟨loot, isOld, isLoot⟩ := consistent.linked roll member
    exact ⟨loot, Nat.lt_succ_of_lt isOld, isLoot⟩
  · constructor
    · intro loot itemSlot
      dsimp only
      by_cases isNew : loot = looting.nextLoot
      · subst isNew
        have none : looting.closings.any (awardedAt looting.nextLoot itemSlot) = false := by
          rw [List.any_eq_false]
          intro closing member
          unfold awardedAt
          rw [notAwarded closing member, Bool.false_and]
          exact Bool.false_ne_true
        rw [Function.update_self, Function.update_self, none]
        simp
      · rw [Function.update_of_ne isNew, Function.update_of_ne isNew]
        exact consistent.settled.looted loot itemSlot
    · intro loot
      dsimp only
      by_cases isNew : loot = looting.nextLoot
      · subst isNew
        have none : looting.closings.countP (awardedFrom looting.nextLoot) = 0 := by
          rw [List.countP_eq_zero]
          intro closing member
          rw [notAwarded closing member]
          exact Bool.false_ne_true
        rw [Function.update_self, Function.update_self, none]
        exact (sub_zero _).symm
      · rw [Function.update_of_ne isNew, Function.update_of_ne isNew]
        exact consistent.settled.unlootedCount loot
  · intro roll member same
    exact absurd same (older roll member)

/-- The loots for which the rolls start open. -/
structure Votable (nearby : Nearby) (members : List ObjectGuid) (lootThreshold : Nat)
    (contents : Loot) : Prop where
  countable : Countable members
  votes : ∀ item ∈ contents.items, item.freeforall = false → lootThreshold ≤ item.quality →
    SomeoneVotes nearby members item

theorem keeps_startRolls {looting : Looting} (consistent : looting.Consistent)
    (pending : looting.Pending) {nearby : Nearby} {members : List ObjectGuid}
    {lootThreshold : Nat} {contents : Loot}
    (votable : Votable nearby members lootThreshold contents) :
    Keeps looting (looting.startRolls nearby members lootThreshold contents) := by
  obtain ⟨countable, votes⟩ := votable
  have found := consistent.findLoot pending contents
  have items := offers_foldl (offerItem nearby members lootThreshold looting.nextLoot)
    contents.items (fun looting itemSlot item member offering =>
      offers_offerItem countable lootThreshold offering (votes item member)) found
  rw [Nat.zero_add] at items
  have questItems := offers_foldl (offerQuestItem nearby members looting.nextLoot)
    contents.questItems (fun looting itemSlot item _ offering =>
      offers_offerQuestItem countable offering) items.offering
  have same := items.same.trans items.older questItems.same
  refine ⟨questItems.offering.consistent, questItems.offering.pending, ?_⟩
  exact SameRolls.firstVotesFinal (fun roll member => same roll member) consistent

end Looting

end RealmServer.Groups
