import RealmServer.Looting.Generation

/-!
# The slots of a loot

However a loot is filled, it has no more items than a client shows and no more
quest items than are reserved, and each stack is of a size the item may have.
-/

namespace RealmServer.Looting

/-- A stack of an existing item, neither empty nor too large. -/
def LootItem.IsStack (templates : ItemTemplates) (item : LootItem) : Prop :=
  ∃ proto, templates item.itemid = some proto ∧
    1 ≤ item.count.toNat ∧ item.count.toNat ≤ proto.getMaxStackSize

structure Loot.WithinBounds (templates : ItemTemplates) (loot : Loot) : Prop where
  items : loot.items.length ≤ MAX_NR_LOOT_ITEMS
  questItems : loot.questItems.length ≤ MAX_NR_QUEST_ITEMS
  areStacks : ∀ item ∈ loot.items ++ loot.questItems, item.IsStack templates

section Slots

variable {templates : ItemTemplates} {loot : Loot}

theorem Loot.WithinBounds.push (bounds : loot.WithinBounds templates) {generated : LootItem}
    (free : (loot.slots generated.needsQuest).length < limit generated.needsQuest)
    (isStack : generated.IsStack templates) : (loot.push generated).WithinBounds templates := by
  obtain ⟨items, questItems, areStacks⟩ := bounds
  rw [List.forall_mem_append] at areStacks
  have withNew : ∀ slots : List LootItem, (∀ item ∈ slots, item.IsStack templates) →
      ∀ item ∈ slots ++ [generated], item.IsStack templates := by
    intro slots old
    exact List.forall_mem_append.mpr ⟨old, List.forall_mem_singleton.mpr isStack⟩
  unfold Loot.push
  unfold Loot.slots limit at free
  split_ifs at free ⊢ with needsQuest
  · refine ⟨items, ?_, List.forall_mem_append.mpr ⟨areStacks.1, withNew _ areStacks.2⟩⟩
    rw [List.length_append, List.length_singleton]
    exact free
  · refine ⟨?_, questItems, List.forall_mem_append.mpr ⟨withNew _ areStacks.1, areStacks.2⟩⟩
    rw [List.length_append, List.length_singleton]
    exact free

theorem Loot.WithinBounds.countUnlooted (bounds : loot.WithinBounds templates)
    (counted : Bool) : (loot.countUnlooted counted).WithinBounds templates := by
  unfold Loot.countUnlooted
  split_ifs
  · exact { bounds with }
  · exact bounds

/-- Something is left for every further stack; the count fits its field. -/
theorem Loot.WithinBounds.addStacks {item : LootStoreItem} {proto : ItemTemplate}
    (isProto : templates item.itemid = some proto) (counted : Bool) {further count : Nat}
    (fits : count < 2 ^ 8)
    (left : further * proto.getMaxStackSize < count + proto.getMaxStackSize)
    (bounds : loot.WithinBounds templates) :
    (loot.addStacks item proto.getMaxStackSize counted further count).WithinBounds
      templates := by
  induction further generalizing loot count with
  | zero => exact bounds
  | succ further induction =>
      have positive := proto.getMaxStackSize_pos
      have something : further * proto.getMaxStackSize < count := by
        rw [Nat.succ_mul] at left
        exact Nat.lt_of_add_lt_add_right left
      have leftNext : further * proto.getMaxStackSize <
          count - proto.getMaxStackSize + proto.getMaxStackSize := by
        cases further with
        | zero => omega
        | succ further =>
            rw [Nat.succ_mul] at something ⊢
            omega
      have isStack : (item.generate (min count proto.getMaxStackSize)).IsStack templates := by
        have size : min count proto.getMaxStackSize < 2 ^ 8 :=
          lt_of_le_of_lt (Nat.min_le_left _ _) fits
        refine ⟨proto, isProto, ?_⟩
        unfold LootStoreItem.generate
        rw [UInt8.toNat_ofNat_of_lt' size]
        exact ⟨le_min (Nat.zero_lt_of_lt something) positive, Nat.min_le_right _ _⟩
      unfold Loot.addStacks
      split_ifs with free
      · exact induction (lt_of_le_of_lt (Nat.sub_le _ _) fits) leftNext
          ((bounds.push free isStack).countUnlooted counted)
      · exact bounds

theorem numberOfStacks_mul {count maxStackSize : Nat} (positive : 0 < maxStackSize) :
    numberOfStacks count maxStackSize * maxStackSize < count + maxStackSize := by
  have division := Nat.div_add_mod' count maxStackSize
  have remainder := Nat.mod_lt count positive
  unfold numberOfStacks
  rw [Nat.add_mul]
  split_ifs with more
  · omega
  · omega

end Slots

/-! ## Filling -/

variable {world : World} {filling : Filling}

def Filling.WithinBounds (world : World) (filling : Filling) : Prop :=
  filling.loot.WithinBounds world.itemTemplates

theorem Filling.WithinBounds.addItem (bounds : filling.WithinBounds world) {item : LootStoreItem}
    (drops : item.Drops world.itemTemplates) : (filling.addItem world item).WithinBounds world := by
  unfold Filling.addItem
  cases isProto : world.itemTemplates item.itemid with
  | none => exact bounds
  | some proto =>
      have rolled := world.rolls.urand_mem filling.made _ _ (UInt8.le_iff_toNat_le.mp drops.counts)
      exact bounds.addStacks isProto _
        (lt_of_le_of_lt rolled.2 item.maxcount.toNat_lt)
        (numberOfStacks_mul proto.getMaxStackSize_pos)

theorem LootStoreItem.roll_loot (item : LootStoreItem) (rate : Bool) (overrideChance : ℚ) :
    (item.roll world rate overrideChance filling).2.loot = filling.loot := by
  unfold LootStoreItem.roll
  split_ifs
  all_goals rfl

theorem LootStoreItem.rollEntry_loot (item : LootStoreItem) (rate : Bool) :
    (item.rollEntry world rate filling).2.loot = filling.loot := by
  unfold LootStoreItem.rollEntry
  dsimp only
  split_ifs with noQuest known
  · exact item.roll_loot rate 0
  all_goals
    split
    all_goals
      rename_i rolled isRolled
      exact (congrArg (fun result => result.2.loot) isRolled).symm.trans (item.roll_loot rate _)

/-! ## Groups -/

variable {group : LootGroup} {lootMode : BitVec 16}

theorem selectByChance_mem {roll : ℚ} {items : List LootStoreItem} {item : LootStoreItem}
    (selected : selectByChance roll items = some item) : item ∈ items := by
  induction items generalizing roll with
  | nil => exact absurd selected (Option.some_ne_none item).symm
  | cons first later induction =>
      unfold selectByChance at selected
      split_ifs at selected
      · exact List.mem_cons.mpr (.inl (Option.some.inj selected).symm)
      · exact List.mem_cons.mpr (.inl (Option.some.inj selected).symm)
      · exact List.mem_cons_of_mem first (induction selected)

theorem LootGroup.rollExplicitlyChanced_spec :
    (group.rollExplicitlyChanced world lootMode filling).2.loot = filling.loot ∧
      ∀ item, (group.rollExplicitlyChanced world lootMode filling).1 = some item →
        item ∈ group.items := by
  unfold LootGroup.rollExplicitlyChanced
  dsimp only
  split_ifs with nothing
  · exact ⟨rfl, fun item selected => selected.elim⟩
  · refine ⟨rfl, fun item selected => List.mem_append_left _ ?_⟩
    exact List.mem_of_mem_filter (selectByChance_mem selected)

theorem LootGroup.rollEqualChanced_spec :
    (group.rollEqualChanced world lootMode filling).2.loot = filling.loot ∧
      ∀ item, (group.rollEqualChanced world lootMode filling).1 = some item →
        item ∈ group.items := by
  unfold LootGroup.rollEqualChanced
  dsimp only
  split_ifs with nothing
  · exact ⟨rfl, fun item selected => selected.elim⟩
  · refine ⟨rfl, fun item selected => List.mem_append_right _ ?_⟩
    exact List.mem_of_mem_filter (List.mem_of_getElem? selected)

theorem LootGroup.roll_spec :
    (group.roll world lootMode filling).2.loot = filling.loot ∧
      ∀ item, (group.roll world lootMode filling).1 = some item → item ∈ group.items := by
  obtain ⟨sameLoot, selects⟩ := @LootGroup.rollExplicitlyChanced_spec world filling group lootMode
  unfold LootGroup.roll
  split
  · rename_i item rolled isRolled
    rw [isRolled] at sameLoot selects
    exact ⟨sameLoot, selects⟩
  · rename_i rolled isRolled
    rw [isRolled] at sameLoot
    obtain ⟨sameAgain, selectsEqual⟩ := @LootGroup.rollEqualChanced_spec world rolled group lootMode
    exact ⟨sameAgain.trans sameLoot, selectsEqual⟩

theorem Filling.WithinBounds.processGroup (bounds : filling.WithinBounds world)
    (drops : ∀ item ∈ group.items, item.Drops world.itemTemplates) :
    (group.process world lootMode filling).WithinBounds world := by
  obtain ⟨sameLoot, selects⟩ := @LootGroup.roll_spec world filling group lootMode
  have rolledBounds : (group.roll world lootMode filling).2.WithinBounds world := by
    unfold Filling.WithinBounds
    rw [sameLoot]
    exact bounds
  unfold LootGroup.process
  split
  · rename_i item rolled isRolled
    rw [isRolled] at rolledBounds selects
    exact rolledBounds.addItem (drops item (selects item rfl))
  · rename_i rolled isRolled
    rw [isRolled] at rolledBounds
    exact rolledBounds

theorem Filling.WithinBounds.processGroups (bounds : filling.WithinBounds world)
    {template : LootTemplate} (good : template.Good world.itemTemplates) :
    (template.processGroups world lootMode filling).WithinBounds world := by
  have groupsGood := good.grouped
  unfold LootTemplate.processGroups
  generalize template.groups = groups at groupsGood ⊢
  induction groups generalizing filling with
  | nil => exact bounds
  | cons group later induction =>
      rw [List.foldl_cons]
      have laterGood : ∀ group, some group ∈ later →
          ∀ item ∈ group.items, item.Drops world.itemTemplates :=
        fun other member => groupsGood other (List.mem_cons_of_mem group member)
      cases group with
      | none => exact induction bounds laterGood
      | some group =>
          have drops := groupsGood group List.mem_cons_self
          exact induction (bounds.processGroup drops) laterGood

end RealmServer.Looting
