import RealmServer.Groups.RollCounting

/-!
# Closing a roll

What `CountTheRoll` does to a roll whose counters agree with its votes: the
roll leaves `RollId`, the winner is the first voter with the highest number,
and the item is taken from the loot exactly if somebody gets it.
-/

namespace RealmServer.Groups

open Table Counting

/-! ## Loot -/

namespace Loot

/-- Whether the item of a slot is looted. -/
def looted (loot : Loot) (itemSlot : Nat) : Option Bool :=
  (loot.item itemSlot).map LootItem.isLooted

/-- The elements of a list after the change of one. -/
theorem getElem?_modify_eq_ite (items : List LootItem) (index : Nat)
    (change : LootItem → LootItem) (other : Nat) :
    (items.modify index change)[other]? =
      if index = other then items[other]?.map change else items[other]? := by
  rw [List.getElem?_modify]
  split_ifs with same
  · rfl
  · exact Option.map_id'

theorem item_modifyItem (loot : Loot) (itemSlot : Nat) (change : LootItem → LootItem)
    (other : Nat) :
    (loot.modifyItem itemSlot change).item other =
      if itemSlot = other then (loot.item other).map change else loot.item other := by
  unfold modifyItem item
  by_cases quest : loot.items.length ≤ itemSlot
  · rw [if_pos quest]
    dsimp only
    by_cases otherQuest : loot.items.length ≤ other
    · rw [if_pos otherQuest, if_pos otherQuest, getElem?_modify_eq_ite]
      by_cases same : itemSlot = other
      · rw [if_pos same, if_pos (by omega)]
      · rw [if_neg same, if_neg (by omega)]
    · rw [if_neg otherQuest, if_neg otherQuest, if_neg (by omega)]
  · rw [if_neg quest]
    dsimp only
    rw [List.length_modify]
    by_cases otherQuest : loot.items.length ≤ other
    · rw [if_pos otherQuest, if_pos otherQuest, if_neg (by omega)]
    · rw [if_neg otherQuest, if_neg otherQuest, getElem?_modify_eq_ite]

theorem unlootedCount_modifyItem (loot : Loot) (itemSlot : Nat) (change : LootItem → LootItem) :
    (loot.modifyItem itemSlot change).unlootedCount = loot.unlootedCount := by
  unfold modifyItem
  split_ifs <;> rfl

/-- Neither `is_looted` nor `unlootedCount` changed. -/
structure SameLooted (before after : Loot) : Prop where
  looted : ∀ itemSlot, after.looted itemSlot = before.looted itemSlot
  unlootedCount : after.unlootedCount = before.unlootedCount

theorem SameLooted.refl (loot : Loot) : SameLooted loot loot := ⟨fun _ => rfl, rfl⟩

theorem sameLooted_modifyItem (loot : Loot) (itemSlot : Nat) {change : LootItem → LootItem}
    (same : ∀ item, (change item).isLooted = item.isLooted) :
    SameLooted loot (loot.modifyItem itemSlot change) := by
  refine ⟨fun other => ?_, unlootedCount_modifyItem loot itemSlot change⟩
  unfold Loot.looted
  rw [item_modifyItem]
  split_ifs
  · rw [Option.map_map]
    exact congrArg (Option.map · _) (funext same)
  · rfl

theorem looted_takeItem (loot : Loot) (itemSlot other : Nat) :
    (loot.takeItem itemSlot).looted other =
      if itemSlot = other then (loot.looted other).map fun _ => true else loot.looted other := by
  have sameItem : (loot.takeItem itemSlot).item other =
      (loot.modifyItem itemSlot fun item => { item with isLooted := true }).item other := rfl
  unfold looted
  rw [sameItem, item_modifyItem]
  split_ifs
  · rw [Option.map_map, Option.map_map]
    rfl
  · rfl

theorem unlootedCount_takeItem (loot : Loot) (itemSlot : Nat) :
    (loot.takeItem itemSlot).unlootedCount = loot.unlootedCount - 1 := by
  unfold takeItem
  dsimp only
  rw [unlootedCount_modifyItem]

end Loot

/-! ## The highest number -/

/-- The first of the highest numbers belongs to a player. -/
def FirstHighest (numbers : List RolledNumber) (best : RolledNumber) : Prop :=
  ∃ before after, numbers = before ++ best :: after ∧
    (∀ earlier ∈ before, earlier.number < best.number) ∧
    ∀ later ∈ after, later.number ≤ best.number

/-- The loop keeps what it started with, or ends with the first highest number. -/
theorem foldl_higher (numbers : List RolledNumber) (start : RolledNumber) :
    (numbers.foldl Roll.higher start = start ∧
        ∀ entry ∈ numbers, entry.number ≤ start.number) ∨
      (FirstHighest numbers (numbers.foldl Roll.higher start) ∧
        start.number < (numbers.foldl Roll.higher start).number) := by
  induction numbers generalizing start with
  | nil => exact .inl ⟨rfl, by simp⟩
  | cons first rest induction =>
      rw [List.foldl_cons]
      unfold Roll.higher
      by_cases isHigher : start.number < first.number
      · rw [if_pos isHigher]
        right
        rcases induction first with ⟨same, lower⟩ | ⟨highest, higher⟩
        · unfold Roll.higher at same
          rw [same]
          exact ⟨⟨[], rest, rfl, by simp, lower⟩, isHigher⟩
        · obtain ⟨before, after, split, earlier, later⟩ := highest
          unfold Roll.higher at split earlier later higher
          refine ⟨⟨first :: before, after, by rw [List.cons_append, ← split], ?_, later⟩,
            isHigher.trans higher⟩
          intro entry member
          rcases List.mem_cons.mp member with rfl | isEarlier
          · exact higher
          · exact earlier entry isEarlier
      · rw [if_neg isHigher]
        rcases induction start with ⟨same, lower⟩ | ⟨highest, higher⟩
        · left
          refine ⟨same, fun entry member => ?_⟩
          rcases List.mem_cons.mp member with rfl | later
          · exact not_lt.mp isHigher
          · exact lower entry later
        · right
          obtain ⟨before, after, split, earlier, later⟩ := highest
          unfold Roll.higher at split earlier later higher
          refine ⟨⟨first :: before, after, by rw [List.cons_append, ← split], ?_, later⟩, higher⟩
          intro entry member
          rcases List.mem_cons.mp member with rfl | isEarlier
          · exact (not_lt.mp isHigher).trans_lt higher
          · exact earlier entry isEarlier

namespace Looting

open Roll

/-! ## What is fair -/

/--
The award of a closed roll: it goes to a player who needs the item or, if
nobody does, who is greedy for it, with the first highest number of those.
-/
def FairClosing (closing : Closing) : Prop :=
  ∀ player, closing.awarded = some player →
    ∃ chosen : RollVote → Bool,
      (chosen = isNeed ∨
        chosen = isGreed ∧ ∀ entry ∈ closing.roll.playerVote, isNeed entry.vote = false) ∧
      (closing.numbers.map fun number => (⟨number.guid, number.vote⟩ : PlayerVote)) =
        closing.roll.playerVote.filter (fun entry => chosen entry.vote) ∧
      ∃ best, FirstHighest closing.numbers best ∧ best.guid = player

/-- The effect of a closing on the loots. -/
structure Settles (looting : Looting) (closing : Closing) (next : Looting) : Prop where
  taken : ∀ loot, closing.roll.loot = some loot → closing.awarded.isSome = true →
    (∀ itemSlot, (next.loots loot).looted itemSlot =
      ((looting.loots loot).takeItem closing.roll.itemSlot).looted itemSlot) ∧
    (next.loots loot).unlootedCount = (looting.loots loot).unlootedCount - 1
  kept : ∀ loot, closing.roll.loot ≠ some loot ∨ closing.awarded = none →
    (looting.loots loot).SameLooted (next.loots loot)

/-- A roll at a place was closed. -/
structure Closes (looting : Looting) (index : Nat) (roll : Roll) (closing : Closing)
    (next : Looting) : Prop where
  roll : closing.roll = roll
  rolls : next.rolls = looting.rolls.eraseIdx index
  closings : next.closings = looting.closings ++ [closing]
  found : next.found = looting.found
  nextLoot : next.nextLoot = looting.nextLoot
  nextItemGuid : next.nextItemGuid = looting.nextItemGuid
  settles : Settles looting closing next

/-! ## Awards -/

/-- What an award does: the item is taken, or nothing is. -/
structure Awards (looting : Looting) (roll : Roll) (awarded : Option ObjectGuid)
    (next : Looting) : Prop where
  same : ∃ loots, next = { looting with loots }
  settles : Settles looting ⟨roll, [], none, awarded⟩ next

theorem modifyLoot_eq {looting : Looting} {roll : Roll} {loot : LootId}
    (isLoot : roll.loot = some loot) (change : Loot → Loot) :
    looting.modifyLoot roll change =
      { looting with
        loots := Function.update looting.loots loot (change (looting.loots loot)) } := by
  unfold modifyLoot
  rw [isLoot]

theorem awards_take {looting : Looting} {roll : Roll} {loot : LootId}
    (isLoot : roll.loot = some loot) (player : ObjectGuid) :
    Awards looting roll (some player)
      (looting.modifyLoot roll fun loot => loot.takeItem roll.itemSlot) := by
  rw [modifyLoot_eq isLoot]
  refine ⟨⟨_, rfl⟩, ?_, ?_⟩
  · intro other isOther _
    have same : loot = other := Option.some.inj (isLoot.symm.trans isOther)
    subst same
    dsimp only
    rw [Function.update_self]
    exact ⟨fun _ => rfl, Loot.unlootedCount_takeItem _ _⟩
  · rintro other (differs | noAward)
    · have isOther : other ≠ loot := fun same => differs (same ▸ isLoot)
      dsimp only
      rw [Function.update_of_ne isOther]
      exact .refl _
    · exact absurd noAward (Option.some_ne_none player)

theorem awards_unblock {looting : Looting} {roll : Roll} {loot : LootId}
    (isLoot : roll.loot = some loot) :
    Awards looting roll none
      (looting.modifyLoot roll fun loot => loot.unblockItem roll.itemSlot) := by
  rw [modifyLoot_eq isLoot]
  refine ⟨⟨_, rfl⟩, fun _ _ awarded => absurd awarded Bool.false_ne_true, fun other _ => ?_⟩
  dsimp only
  by_cases isOther : other = loot
  · subst isOther
    rw [Function.update_self]
    exact Loot.sameLooted_modifyItem _ _ fun _ => rfl
  · rw [Function.update_of_ne isOther]
    exact .refl _

theorem awards_nothing (looting : Looting) (roll : Roll) : Awards looting roll none looting :=
  ⟨⟨looting.loots, rfl⟩, fun _ _ awarded => absurd awarded Bool.false_ne_true,
    fun _ _ => .refl _⟩

theorem storeItem_awards (luck : Luck) {looting : Looting} {roll : Roll} {loot : LootId}
    (isLoot : roll.loot = some loot) (player : ObjectGuid) :
    Awards looting roll (looting.storeItem luck roll player).1
        (looting.storeItem luck roll player).2 ∧
      ((looting.storeItem luck roll player).1 = some player ∨
        (looting.storeItem luck roll player).1 = none) := by
  unfold storeItem
  split_ifs
  · exact ⟨awards_take isLoot player, .inl rfl⟩
  · exact ⟨awards_unblock isLoot, .inr rfl⟩

theorem award_awards (luck : Luck) {looting : Looting} {roll : Roll} {loot : LootId}
    (isLoot : roll.loot = some loot) (best : RolledNumber) :
    Awards looting roll (looting.award luck roll best).1 (looting.award luck roll best).2 ∧
      ((looting.award luck roll best).1 = some best.guid ∨
        (looting.award luck roll best).1 = none) := by
  unfold award
  split
  · exact storeItem_awards luck isLoot best.guid
  · exact ⟨awards_take isLoot best.guid, .inl rfl⟩
  · exact ⟨awards_nothing looting roll, .inr rfl⟩

/-! ## `CountTheRoll` -/

theorem closes_of_awards {looting after : Looting} {roll : Roll} (closing : Closing)
    (isRoll : closing.roll = roll) (awards : Awards looting roll closing.awarded after)
    (index : Nat) : Closes looting index roll closing (after.close index closing) := by
  obtain ⟨⟨loots, rfl⟩, settles⟩ := awards
  subst isRoll
  exact ⟨rfl, rfl, rfl, rfl, rfl, rfl, ⟨settles.taken, settles.kept⟩⟩

/-- The winner among voters is one of them. -/
theorem winner_firstHighest (luck : Luck) {roll : Roll} {chosen : RollVote → Bool}
    (someone : 0 < roll.votes chosen) (first : PlayerVote) :
    FirstHighest (roll.draw luck chosen) (roll.winner luck chosen first) := by
  obtain ⟨entry, member, isChosen⟩ := List.countP_pos_iff.mp someone
  have drawn : (⟨entry.guid, entry.vote, luck.urand roll.itemGUID entry.guid⟩ : RolledNumber) ∈
      roll.draw luck chosen :=
    List.mem_map.mpr ⟨entry, List.mem_filter.mpr ⟨member, isChosen⟩, rfl⟩
  rcases foldl_higher (roll.draw luck chosen) ⟨first.guid, .notValid, 0⟩ with ⟨-, lower⟩ | highest
  · have positive := (luck.urand_bounds roll.itemGUID entry.guid).1
    have zero := lower _ drawn
    dsimp only at zero
    omega
  · exact highest.1

theorem draw_entries (luck : Luck) (roll : Roll) (chosen : RollVote → Bool) :
    ((roll.draw luck chosen).map fun number => (⟨number.guid, number.vote⟩ : PlayerVote)) =
      roll.playerVote.filter fun entry => chosen entry.vote := by
  unfold draw
  rw [List.map_map]
  exact List.map_id _

theorem rollOff_closes (luck : Luck) {looting : Looting} {roll : Roll}
    {chosen : RollVote → Bool} (someone : 0 < roll.votes chosen)
    (fair : chosen = isNeed ∨
      chosen = isGreed ∧ ∀ entry ∈ roll.playerVote, isNeed entry.vote = false)
    {give : RolledNumber → Option ObjectGuid × Looting}
    (gives : ∀ best, Awards looting roll (give best).1 (give best).2 ∧
      ((give best).1 = some best.guid ∨ (give best).1 = none)) (index : Nat) :
    ∃ closing, Closes looting index roll closing (looting.rollOff luck roll chosen give index) ∧
      FairClosing closing := by
  unfold rollOff
  cases votes : roll.playerVote with
  | nil => simp [votes, Roll.votes] at someone
  | cons first rest =>
      let best := roll.winner luck chosen first
      have highest : FirstHighest (roll.draw luck chosen) best :=
        winner_firstHighest luck someone first
      by_cases session : luck.hasSession best.guid = true
      · obtain ⟨awards, toBest⟩ := gives best
        let closing : Closing := ⟨roll, roll.draw luck chosen, some best, (give best).1⟩
        have closes : Closes looting index roll closing ((give best).2.close index closing) :=
          closes_of_awards closing rfl awards index
        refine ⟨closing, ?_, fun player awarded =>
          ⟨chosen, fair, draw_entries luck roll chosen, best, highest, ?_⟩⟩
        · dsimp only
          rw [if_pos session]
          exact closes
        · rcases toBest with given | nothing
          · exact Option.some.inj (given.symm.trans awarded)
          · exact absurd (nothing.symm.trans awarded) (Option.some_ne_none player).symm
      · let closing : Closing := ⟨roll, roll.draw luck chosen, some best, none⟩
        have closes : Closes looting index roll closing (looting.close index closing) :=
          closes_of_awards closing rfl (awards_nothing looting roll) index
        refine ⟨closing, ?_, fun player awarded =>
          absurd awarded (Option.some_ne_none player).symm⟩
        dsimp only
        rw [if_neg session]
        exact closes

/-- With exact counters every roll is closed in a fair way. -/
theorem countTheRoll_closes (luck : Luck) {looting : Looting} {index : Nat} {roll : Roll}
    (place : looting.rolls[index]? = some roll) {loot : LootId} (isLoot : roll.loot = some loot)
    (counted : roll.Counted) :
    ∃ closing, Closes looting index roll closing (looting.countTheRoll luck index) ∧
      FairClosing closing := by
  have notDeleted : roll.loot.isNone = false := by rw [isLoot]; rfl
  unfold countTheRoll
  rw [place]
  dsimp only
  rw [notDeleted, if_neg Bool.false_ne_true]
  split_ifs with needed wanted
  · have someone : 0 < roll.votes isNeed := by
      rw [← counted.need]
      exact needed
    exact rollOff_closes luck someone (.inl rfl)
      (fun best => storeItem_awards luck isLoot best.guid) index
  · have someone : 0 < roll.votes isGreed := by
      rw [← counted.greed]
      exact wanted
    have nobody : ∀ entry ∈ roll.playerVote, isNeed entry.vote = false := by
      have none : roll.votes isNeed = 0 := by
        rw [← counted.need]
        exact Nat.eq_zero_of_not_pos needed
      intro entry member
      simpa using List.countP_eq_zero.mp none entry member
    exact rollOff_closes luck someone (.inr ⟨rfl, nobody⟩) (award_awards luck isLoot) index
  · exact ⟨_, closes_of_awards ⟨roll, [], none, none⟩ rfl (awards_unblock isLoot) index,
      fun player awarded => absurd awarded (Option.some_ne_none player).symm⟩

end Looting

end RealmServer.Groups
