import RealmServer.Looting.LootStore

/-!
# Loot generation

A template is processed entry by entry and then group by group; an entry with
a reference processes the template it leads to, as often as its count says.
The questions for quest drops follow the references in the same way, but look
them up in the store they are asked about.  None of the three functions counts
how deep it is, so they are given turns here and have no result without them.
-/

namespace RealmServer.Looting

def MAX_NR_LOOT_ITEMS : Nat := 16

def MAX_NR_QUEST_ITEMS : Nat := 32

structure LootItem where
  itemid : Nat
  needsQuest : Bool
  count : UInt8
deriving DecidableEq, Repr

structure Loot where
  items : List LootItem
  questItems : List LootItem
  unlootedCount : UInt8
  maxDuplicates : UInt8
deriving DecidableEq, Repr

def QUEST_ITEM_DROP_STEP_0 : Nat := 0

def QUEST_ITEM_DROP_STEP_3 : Nat := 3

def QUEST_ITEM_DROP_STEP_INVALID : Nat := 4

/-- What the player who owns the loot is asked. -/
structure Player where
  isInGroup : Bool
  questIdOfItemId : Nat → Nat
  hasQuestForItem : Nat → Bool
  questItemDropSteps : Nat → Option Nat

def Player.getQuestItemDropStep (player : Player) (questId : Nat) : Nat :=
  (player.questItemDropSteps questId).getD QUEST_ITEM_DROP_STEP_INVALID

def Player.increaseOrAddQuestItemDropStep (player : Player) (questId : Nat) : Player :=
  { player with
    questItemDropSteps := Function.update player.questItemDropSteps questId
      (match player.questItemDropSteps questId with
      | none => some QUEST_ITEM_DROP_STEP_0
      | some step => some (step + 1)) }

def Player.resetQuestItemDropStep (player : Player) (questId : Nat) : Player :=
  { player with
    questItemDropSteps := Function.update player.questItemDropSteps questId none }

/-- The outcomes of the random rolls, by how many were made before. -/
structure Rolls where
  randChance : Nat → ℚ
  urand : Nat → Nat → Nat → Nat
  urand_mem : ∀ made least most, least ≤ most →
    least ≤ urand made least most ∧ urand made least most ≤ most

/-- What the generation of loot reads and does not change. -/
structure World where
  itemTemplates : ItemTemplates
  /-- Whether the loader of the conditions left some for the item. -/
  hasConditions : LootStoreItem → Bool
  /-- `RATE_DROP_ITEM_REFERENCED`. -/
  rateReferenced : ℚ
  /-- `RATE_DROP_ITEM_REFERENCED_AMOUNT`. -/
  rateReferencedAmount : ℚ
  rolls : Rolls
  /-- The rows of `reference_loot_template`. -/
  referenceRows : List LootRow
  /-- The rows of each of the other tables. -/
  otherRows : List (List LootRow)

/-- `LootTemplates_Reference`. -/
def World.references (world : World) : LootTemplateMap :=
  loadLootTable world.itemTemplates world.referenceRows

def World.stores (world : World) : List LootTemplateMap :=
  world.references :: world.otherRows.map (loadLootTable world.itemTemplates)

/-- The loot while it is filled, its owner, and how many rolls were made. -/
structure Filling where
  loot : Loot
  lootOwnerPlayer : Player
  made : Nat

/-! ## Items -/

def Loot.slots (loot : Loot) (needsQuest : Bool) : List LootItem :=
  if needsQuest then loot.questItems else loot.items

def limit (needsQuest : Bool) : Nat :=
  if needsQuest then MAX_NR_QUEST_ITEMS else MAX_NR_LOOT_ITEMS

def Loot.push (loot : Loot) (generated : LootItem) : Loot :=
  if generated.needsQuest then { loot with questItems := loot.questItems ++ [generated] }
  else { loot with items := loot.items ++ [generated] }

def LootStoreItem.generate (item : LootStoreItem) (count : Nat) : LootItem where
  itemid := item.itemid
  needsQuest := item.needsQuest
  count := UInt8.ofNat count

def Loot.countUnlooted (loot : Loot) (counted : Bool) : Loot :=
  if counted then { loot with unlootedCount := loot.unlootedCount + 1 } else loot

/-- The loop over the stacks; `counted` items await being looted by one player. -/
def Loot.addStacks (item : LootStoreItem) (maxStackSize : Nat) (counted : Bool) :
    Nat → Nat → Loot → Loot
  | 0, _, loot => loot
  | further + 1, count, loot =>
      if (loot.slots item.needsQuest).length < limit item.needsQuest then
        addStacks item maxStackSize counted further (count - maxStackSize)
          ((loot.push (item.generate (min count maxStackSize))).countUnlooted counted)
      else loot

def numberOfStacks (count maxStackSize : Nat) : Nat :=
  count / maxStackSize + if count % maxStackSize ≠ 0 then 1 else 0

def Filling.addItem (world : World) (filling : Filling) (item : LootStoreItem) : Filling :=
  match world.itemTemplates item.itemid with
  | none => filling
  | some proto =>
      let count := world.rolls.urand filling.made item.mincount.toNat item.maxcount.toNat
      let counted := !item.needsQuest && !world.hasConditions item && !proto.isMultiDrop
      { filling with
        loot := filling.loot.addStacks item proto.getMaxStackSize counted
          (numberOfStacks count proto.getMaxStackSize) count
        made := filling.made + 1 }

/-- `roll_chance_f`. -/
def Filling.rollChance (world : World) (filling : Filling) (chance : ℚ) : Bool × Filling :=
  (world.rolls.randChance filling.made < chance, { filling with made := filling.made + 1 })

/-- The chance the entry has, with the rate where rates are allowed. -/
def LootStoreItem.ratedChance (world : World) (item : LootStoreItem) (rate : Bool)
    (rollChance : ℚ) : ℚ :=
  if 0 < item.reference then rollChance * if rate then world.rateReferenced else 1
  else
    match world.itemTemplates item.itemid with
    | none => rollChance
    | some proto => rollChance * if rate then proto.qualityRate else 1

def LootStoreItem.roll (world : World) (item : LootStoreItem) (rate : Bool)
    (overrideChance : ℚ) (filling : Filling) : Bool × Filling :=
  if 100 ≤ item.chance then (true, filling)
  else
    filling.rollChance world (item.ratedChance world rate
      (if overrideChance ≠ 0 then overrideChance else item.chance))

/-! ## Groups -/

/-- Whether the duplicates in the loot reach the most there may be. -/
def foundDuplicates (itemid : Nat) (most : UInt8) : UInt8 → List LootItem → Bool
  | _, [] => false
  | found, other :: later =>
      if other.itemid = itemid then
        if found + 1 = most then true else foundDuplicates itemid most (found + 1) later
      else foundDuplicates itemid most found later

def lootGroupInvalidSelector (templates : ItemTemplates) (loot : Loot) (lootMode : BitVec 16)
    (item : LootStoreItem) : Bool :=
  if item.lootmode &&& lootMode = 0 then true
  else
    -- some tokens don't count for max duplicates
    let isToken :=
      match templates item.itemid with
      | none => false
      | some proto => proto.displayInfoID = 41438 || proto.displayInfoID = 64877
    foundDuplicates item.itemid (if isToken then 4 else loot.maxDuplicates) 0 loot.items

def selectByChance : ℚ → List LootStoreItem → Option LootStoreItem
  | _, [] => none
  | roll, item :: later =>
      if 100 ≤ item.chance then some item
      else if roll - item.chance < 0 then some item
      else selectByChance (roll - item.chance) later

def LootGroup.rollExplicitlyChanced (world : World) (group : LootGroup) (lootMode : BitVec 16)
    (filling : Filling) : Option LootStoreItem × Filling :=
  let possibleLoot := group.explicitlyChanced.filter fun item =>
    !lootGroupInvalidSelector world.itemTemplates filling.loot lootMode item
  if possibleLoot = [] then (none, filling)
  else
    (selectByChance (world.rolls.randChance filling.made) possibleLoot,
      { filling with made := filling.made + 1 })

def LootGroup.rollEqualChanced (world : World) (group : LootGroup) (lootMode : BitVec 16)
    (filling : Filling) : Option LootStoreItem × Filling :=
  let possibleLoot := group.equalChanced.filter fun item =>
    !lootGroupInvalidSelector world.itemTemplates filling.loot lootMode item
  if possibleLoot = [] then (none, filling)
  else
    (possibleLoot[world.rolls.urand filling.made 0 (possibleLoot.length - 1)]?,
      { filling with made := filling.made + 1 })

def LootGroup.roll (world : World) (group : LootGroup) (lootMode : BitVec 16)
    (filling : Filling) : Option LootStoreItem × Filling :=
  match group.rollExplicitlyChanced world lootMode filling with
  | (some item, rolled) => (some item, rolled)
  | (none, rolled) => group.rollEqualChanced world lootMode rolled

def LootGroup.process (world : World) (lootMode : BitVec 16) (group : LootGroup)
    (filling : Filling) : Filling :=
  match group.roll world lootMode filling with
  | (some item, rolled) => rolled.addItem world item
  | (none, rolled) => rolled

/-! ## Templates -/

def LootTemplate.group? (template : LootTemplate) (groupId : Nat) : Option LootGroup :=
  (template.groups[groupId - 1]?).join

def calculateQuestDropChance (step : Nat) (dbPct : ℚ) : ℚ :=
  if step = QUEST_ITEM_DROP_STEP_3 then 100
  else if step = QUEST_ITEM_DROP_STEP_0 then dbPct
  else dbPct + (100 - dbPct) / 3 * step

/-- The quest for which a player alone is helped to find the item, or 0. -/
def Player.questIdToHelp (player : Player) (item : LootStoreItem) : Nat :=
  if item.needsQuest ∧ 10 ≤ item.chance ∧ player.isInGroup = false then
    player.questIdOfItemId item.itemid
  else 0

/-- Whether the entry drops, and the step of its quest afterwards. -/
def LootStoreItem.rollEntry (world : World) (item : LootStoreItem) (rate : Bool)
    (filling : Filling) : Bool × Filling :=
  let questId := filling.lootOwnerPlayer.questIdToHelp item
  if questId = 0 then item.roll world rate 0 filling
  else
    let step := filling.lootOwnerPlayer.getQuestItemDropStep questId
    let (overrideChance, stepped) :=
      if step ≠ QUEST_ITEM_DROP_STEP_INVALID then
        (calculateQuestDropChance step item.chance, filling)
      else
        (0, { filling with
          lootOwnerPlayer :=
            filling.lootOwnerPlayer.increaseOrAddQuestItemDropStep questId })
    match item.roll world rate overrideChance stepped with
    | (false, rolled) =>
        (false, { rolled with
          lootOwnerPlayer := rolled.lootOwnerPlayer.increaseOrAddQuestItemDropStep questId })
    | (true, rolled) =>
        (true, { rolled with
          lootOwnerPlayer := rolled.lootOwnerPlayer.resetQuestItemDropStep questId })

def multiplicator (world : World) (item : LootStoreItem) : Nat :=
  (item.maxcount.toNat * world.rateReferencedAmount).floor.toNat

/-- One entry; `processReference` is the processing of the templates it leads to. -/
def LootStoreItem.processEntry (world : World) (rate : Bool) (lootMode : BitVec 16)
    (processReference : LootTemplate → Nat → Filling → Option Filling)
    (filling : Filling) (item : LootStoreItem) : Option Filling :=
  if item.lootmode &&& lootMode = 0 then some filling
  else
    match item.rollEntry world rate filling with
    | (false, rolled) => some rolled
    | (true, rolled) =>
        if 0 < item.reference then
          match world.references.lookup item.reference with
          | none => some rolled
          | some referenced =>
              (List.range (multiplicator world item)).foldlM
                (fun filled _ => processReference referenced item.groupid.toNat filled) rolled
        else some (rolled.addItem world item)

def LootTemplate.processGroups (world : World) (lootMode : BitVec 16) (template : LootTemplate)
    (filling : Filling) : Filling :=
  template.groups.foldl
    (fun filled group =>
      match group with
      | none => filled
      | some group => group.process world lootMode filled)
    filling

def LootTemplate.process (world : World) (rate : Bool) (lootMode : BitVec 16) :
    Nat → LootTemplate → Nat → Filling → Option Filling
  | 0, _, _, _ => none
  | turns + 1, template, groupId, filling =>
      if groupId ≠ 0 then
        match template.group? groupId with
        | none => some filling
        | some group => some (group.process world lootMode filling)
      else
        (template.entries.foldlM
          (LootStoreItem.processEntry world rate lootMode (process world rate lootMode turns))
          filling).map (template.processGroups world lootMode)

/-! ## Quest drops -/

/-- One entry; `hasReferenced` answers for the templates it leads to. -/
def LootStoreItem.hasDrop (wanted : LootStoreItem → Bool) (store : LootTemplateMap)
    (hasReferenced : LootTemplate → Nat → Option Bool) (item : LootStoreItem) : Option Bool :=
  if 0 < item.reference then
    match store.lookup item.reference with
    | none => some false
    | some referenced => hasReferenced referenced item.groupid.toNat
  else some (wanted item)

def LootGroup.hasDrop (wanted : LootStoreItem → Bool) (group : LootGroup) : Bool :=
  group.items.any wanted

def LootTemplate.hasGroupDrop (wanted : LootStoreItem → Bool) (template : LootTemplate) : Bool :=
  template.groups.any fun group => (group.map (LootGroup.hasDrop wanted)).getD false

/-- Whether the template has a wanted drop, looked for in this store. -/
def LootTemplate.hasDrop (wanted : LootStoreItem → Bool) (store : LootTemplateMap) :
    Nat → LootTemplate → Nat → Option Bool
  | 0, _, _ => none
  | turns + 1, template, groupId =>
      if groupId ≠ 0 then
        match template.group? groupId with
        | none => some false
        | some group => some (group.hasDrop wanted)
      else
        (template.entries.anyM
          (LootStoreItem.hasDrop wanted store (hasDrop wanted store turns))).map
          fun found => found || template.hasGroupDrop wanted

def LootTemplate.hasQuestDrop (store : LootTemplateMap) :
    Nat → LootTemplate → Nat → Option Bool :=
  LootTemplate.hasDrop LootStoreItem.needsQuest store

def LootTemplate.hasQuestDropForPlayer (store : LootTemplateMap) (player : Player) :
    Nat → LootTemplate → Nat → Option Bool :=
  LootTemplate.hasDrop (fun item => player.hasQuestForItem item.itemid) store

end RealmServer.Looting
