import RealmServer.Players.BuyBack
import RealmServer.Players.Purse
import RealmServer.Players.Stacks

/-!
# Slots and bags

The slots of a player and of the bags which he wears, and what the planner of
`CanStoreItem` asks about them: what is in a slot, which bag takes an item,
whether a stack takes more of it, and how many of a kind may be carried.
-/

namespace RealmServer.Players

/-! ## Slots -/

def NULL_BAG : Nat := 0
def NULL_SLOT : Nat := 255
def INVENTORY_SLOT_BAG_0 : Nat := 255

def EQUIPMENT_SLOT_START : Nat := 0
def INVENTORY_SLOT_BAG_START : Nat := 19
def INVENTORY_SLOT_BAG_END : Nat := 23
def INVENTORY_SLOT_ITEM_START : Nat := 23
def INVENTORY_SLOT_ITEM_END : Nat := 39
def BANK_SLOT_ITEM_START : Nat := 39
def BANK_SLOT_ITEM_END : Nat := 67
def BANK_SLOT_BAG_START : Nat := 67
def BANK_SLOT_BAG_END : Nat := 74
def KEYRING_SLOT_START : Nat := 86
def KEYRING_SLOT_END : Nat := 118
def CURRENCYTOKEN_SLOT_START : Nat := 118
def CURRENCYTOKEN_SLOT_END : Nat := 150
def PLAYER_SLOT_END : Nat := 150
def MAX_BAG_SIZE : Nat := 36

def getMaxKeyringSize : Nat := KEYRING_SLOT_END - KEYRING_SLOT_START

/-- `(bag << 8) | slot` of two bytes. -/
def position (bag slot : Nat) : Nat := bag * 256 + slot

/-- `for (j = begin; j < end; ++j)`. -/
def slotsFrom (first last : Nat) : List Nat := (List.range (last - first)).map (first + ·)

def isBagPos (bag slot : Nat) : Bool :=
  bag = INVENTORY_SLOT_BAG_0 && INVENTORY_SLOT_BAG_START ≤ slot && slot < INVENTORY_SLOT_BAG_END ||
    bag = INVENTORY_SLOT_BAG_0 && BANK_SLOT_BAG_START ≤ slot && slot < BANK_SLOT_BAG_END

/-! ## Templates -/

def BAG_FAMILY_MASK_ARROWS : Nat := 0x00000001
def BAG_FAMILY_MASK_BULLETS : Nat := 0x00000002
def BAG_FAMILY_MASK_SOUL_SHARDS : Nat := 0x00000004
def BAG_FAMILY_MASK_LEATHERWORKING_SUPP : Nat := 0x00000008
def BAG_FAMILY_MASK_INSCRIPTION_SUPP : Nat := 0x00000010
def BAG_FAMILY_MASK_HERBS : Nat := 0x00000020
def BAG_FAMILY_MASK_ENCHANTING_SUPP : Nat := 0x00000040
def BAG_FAMILY_MASK_ENGINEERING_SUPP : Nat := 0x00000080
def BAG_FAMILY_MASK_KEYS : Nat := 0x00000100
def BAG_FAMILY_MASK_GEMS : Nat := 0x00000200
def BAG_FAMILY_MASK_MINING_SUPP : Nat := 0x00000400
def BAG_FAMILY_MASK_CURRENCY_TOKENS : Nat := 0x00002000

def ITEM_CLASS_CONTAINER : Nat := 1
def ITEM_CLASS_QUIVER : Nat := 11
def ITEM_SUBCLASS_CONTAINER : Nat := 0
def INVTYPE_BAG : Nat := 18

/-- What storing reads of an `ItemTemplate`. -/
structure ItemTemplate where
  itemClass : Nat
  subClass : Nat
  inventoryType : Nat
  /-- No limit if it is not positive. -/
  maxCount : ℤ
  stackable : ℤ
  containerSlots : Nat
  /-- `Socket[0].Color`. -/
  socketColor : Nat
  gemProperties : Nat
  /-- A bit for each family. -/
  bagFamily : Nat
  itemLimitCategory : Nat
deriving DecidableEq, Repr

namespace ItemTemplate

def hasFamily (proto : ItemTemplate) (mask : Nat) : Bool := proto.bagFamily &&& mask ≠ 0

def isKey (proto : ItemTemplate) : Bool := proto.hasFamily BAG_FAMILY_MASK_KEYS

def isCurrencyToken (proto : ItemTemplate) : Bool :=
  proto.hasFamily BAG_FAMILY_MASK_CURRENCY_TOKENS

def getMaxStackSize (proto : ItemTemplate) : Nat :=
  if proto.stackable = 2147483647 ∨ proto.stackable ≤ 0 then 0x7FFFFFFF - 1
  else proto.stackable.toNat

/-- `Class` and `SubClass` of a bag for everything. -/
def isPlainContainer (bagProto : ItemTemplate) : Bool :=
  bagProto.itemClass = ITEM_CLASS_CONTAINER && bagProto.subClass = ITEM_SUBCLASS_CONTAINER

end ItemTemplate

/-- The family which a container of a subclass takes. -/
def containerFamily : Nat → Option Nat
  | 1 => some BAG_FAMILY_MASK_SOUL_SHARDS
  | 2 => some BAG_FAMILY_MASK_HERBS
  | 3 => some BAG_FAMILY_MASK_ENCHANTING_SUPP
  | 4 => some BAG_FAMILY_MASK_ENGINEERING_SUPP
  | 5 => some BAG_FAMILY_MASK_GEMS
  | 6 => some BAG_FAMILY_MASK_MINING_SUPP
  | 7 => some BAG_FAMILY_MASK_LEATHERWORKING_SUPP
  | 8 => some BAG_FAMILY_MASK_INSCRIPTION_SUPP
  | _ => none

def quiverFamily : Nat → Option Nat
  | 2 => some BAG_FAMILY_MASK_ARROWS
  | 3 => some BAG_FAMILY_MASK_BULLETS
  | _ => none

def itemCanGoIntoBag (proto bagProto : ItemTemplate) : Bool :=
  if bagProto.itemClass = ITEM_CLASS_CONTAINER then
    bagProto.subClass = ITEM_SUBCLASS_CONTAINER ||
      (containerFamily bagProto.subClass).any proto.hasFamily
  else if bagProto.itemClass = ITEM_CLASS_QUIVER then
    (quiverFamily bagProto.subClass).any proto.hasFamily
  else false

/-! ## What a player carries -/

inductive InventoryResult where
  | ok
  | nonemptyBagOverOtherBag
  | itemDoesntGoIntoBag
  | cantCarryMoreOfThis
  | itemCantStack
  | itemCantBeEquipped
  | itemsCantBeSwapped
  | itemNotFound
  | canOnlyDoWithEmptyBags
  | dontOwnThatItem
  | alreadyLooted
  | inventoryFull
  | itemMaxLimitCategoryCountExceeded
deriving DecidableEq, Repr

inductive LimitCategoryMode where
  | have
  | equip
deriving DecidableEq, Repr

structure ItemLimitCategoryEntry where
  maxCount : Nat
  mode : LimitCategoryMode
deriving DecidableEq, Repr

/-- The item which is moved, as `pSrcItem`. -/
structure SourceItem where
  item : Item
  /-- `m_lootGenerated`. -/
  lootGenerated : Bool
  /-- `IsBindedNotWith` the player. -/
  bindedNotWith : Bool
  isNotEmptyBag : Bool
deriving DecidableEq, Repr

/-- The slots of one player, with the templates and what is not in the slots themselves. -/
structure Storage where
  inventory : Inventory
  owner : Nat
  getItemTemplate : Nat → Option ItemTemplate
  /-- `sItemLimitCategoryStore`. -/
  limitCategories : Nat → Option ItemLimitCategoryEntry
  /-- `m_lootGenerated` of the item with a guid. -/
  lootGenerated : Nat → Bool
  /-- `GetGemCountWithID` of the item with a guid. -/
  getGemCountWithID : Nat → Nat → Nat

namespace Storage

variable (storage : Storage)

def itemIn (bag slot : Nat) : Option Item :=
  (storage.inventory.getItemByPos storage.owner (position bag slot)).map InventorySlot.item

def maxStackCount (entry : Nat) : Nat :=
  ((storage.getItemTemplate entry).map ItemTemplate.getMaxStackSize).getD 0

/-- The bag in a bag slot, with its template. -/
def getBagByPos (bag : Nat) : Option (Item × ItemTemplate) :=
  if INVENTORY_SLOT_BAG_START ≤ bag ∧ bag < INVENTORY_SLOT_BAG_END ∨
      BANK_SLOT_BAG_START ≤ bag ∧ bag < BANK_SLOT_BAG_END then
    match storage.itemIn INVENTORY_SLOT_BAG_0 bag with
    | none => none
    | some item =>
        match storage.getItemTemplate item.entry with
        | none => none
        | some proto => if proto.inventoryType = INVTYPE_BAG then some (item, proto) else none
  else none

def getItemByPos (bag slot : Nat) : Option Item :=
  if bag = INVENTORY_SLOT_BAG_0 ∧
      (slot < BANK_SLOT_BAG_END ∨ KEYRING_SLOT_START ≤ slot ∧ slot < CURRENCYTOKEN_SLOT_END) then
    storage.itemIn bag slot
  else
    match storage.getBagByPos bag with
    | none => none
    | some (_, bagProto) => if slot < bagProto.containerSlots then storage.itemIn bag slot else none

/-- What is in a slot, apart from the item which is moved. -/
def occupant (source : Option SourceItem) (bag slot : Nat) : Option Item :=
  (storage.getItemByPos bag slot).filter fun item =>
    ¬ (source.map fun source => source.item.guid) = some item.guid

def canBeMergedPartlyWith (item : Item) (entry : Nat) (proto : ItemTemplate) : InventoryResult :=
  if storage.lootGenerated item.guid then .alreadyLooted
  else if item.entry ≠ entry then .itemCantStack
  else if proto.getMaxStackSize ≤ item.count then .itemCantStack
  else .ok

/-! ## How many of a kind are carried -/

/-- The slots of the bags in a range of bag slots. -/
def bagPlaces (first last : Nat) : List (Nat × Nat) :=
  (slotsFrom first last).flatMap fun bag =>
    match storage.getBagByPos bag with
    | none => []
    | some (_, bagProto) => (slotsFrom 0 bagProto.containerSlots).map fun slot => (bag, slot)

def mainPlaces (first last : Nat) : List (Nat × Nat) :=
  (slotsFrom first last).map fun slot => (INVENTORY_SLOT_BAG_0, slot)

def itemsAt (skipItem : Option SourceItem) (places : List (Nat × Nat)) : List Item :=
  places.filterMap fun place => storage.occupant skipItem place.1 place.2

/-- The gems of a kind in the sockets of items. -/
def gemsIn (gem : Nat) (items : List Item) : Nat :=
  (items.map fun item =>
    if ((storage.getItemTemplate item.entry).map ItemTemplate.socketColor).getD 0 ≠ 0 then
      storage.getGemCountWithID item.guid gem
    else 0).sum

def isGem (skipItem : Option SourceItem) : Bool :=
  match skipItem with
  | none => false
  | some source =>
      ((storage.getItemTemplate source.item.entry).map ItemTemplate.gemProperties).getD 0 ≠ 0

/-- `GetItemCount`, with the bank. -/
def getItemCount (entry : Nat) (skipItem : Option SourceItem) : Nat :=
  let bags := storage.bagPlaces INVENTORY_SLOT_BAG_START INVENTORY_SLOT_BAG_END
  let bankBags := storage.bagPlaces BANK_SLOT_BAG_START BANK_SLOT_BAG_END
  let counted := storage.itemsAt skipItem
    (mainPlaces EQUIPMENT_SLOT_START INVENTORY_SLOT_ITEM_END ++
      mainPlaces KEYRING_SLOT_START CURRENCYTOKEN_SLOT_END ++ bags ++
        mainPlaces BANK_SLOT_ITEM_START BANK_SLOT_BAG_END ++ bankBags)
  let socketed := storage.itemsAt skipItem
    (mainPlaces EQUIPMENT_SLOT_START INVENTORY_SLOT_ITEM_END ++ bags ++
      mainPlaces BANK_SLOT_ITEM_START BANK_SLOT_ITEM_END ++ bankBags)
  ((counted.map (piecesOf entry)).sum +
    if storage.isGem skipItem then storage.gemsIn entry socketed else 0) % 2 ^ 32

def getItemCountWithLimitCategory (limitCategory : Nat) (skipItem : Option SourceItem) : Nat :=
  let counted := storage.itemsAt skipItem
    (mainPlaces EQUIPMENT_SLOT_START INVENTORY_SLOT_ITEM_END ++
      mainPlaces KEYRING_SLOT_START CURRENCYTOKEN_SLOT_END ++
      storage.bagPlaces INVENTORY_SLOT_BAG_START INVENTORY_SLOT_BAG_END ++
      mainPlaces BANK_SLOT_ITEM_START BANK_SLOT_BAG_END ++
      storage.bagPlaces BANK_SLOT_BAG_START BANK_SLOT_BAG_END)
  (counted.map fun item =>
    if (storage.getItemTemplate item.entry).map ItemTemplate.itemLimitCategory =
      some limitCategory then item.count else 0).sum % 2 ^ 32

/-- Whether a limit is passed, and by how much. -/
def excess (curcount count maxCount : Nat) : Option Nat :=
  if maxCount < (curcount + count) % 2 ^ 32 then some (sub32 ((count + curcount) % 2 ^ 32) maxCount)
  else none

def excessOfKind (entry count : Nat) (proto : ItemTemplate) (source : Option SourceItem) :
    Option Nat :=
  if 0 < proto.maxCount then
    excess (storage.getItemCount entry source) count proto.maxCount.toNat
  else none

def excessOfCategory (limitEntry : ItemLimitCategoryEntry) (count : Nat) (proto : ItemTemplate)
    (source : Option SourceItem) : Option Nat :=
  if limitEntry.mode = .have then
    excess (storage.getItemCountWithLimitCategory proto.itemLimitCategory source) count
      limitEntry.maxCount
  else none

/-- The answer, and `no_space_count`: how many of the count are too many. -/
def canTakeMoreSimilarItems (entry count : Nat) (proto : ItemTemplate)
    (source : Option SourceItem) : InventoryResult × Nat :=
  if (source.map SourceItem.lootGenerated).getD false then (.alreadyLooted, 0)
  else if proto.maxCount ≤ 0 ∧ proto.itemLimitCategory = 0 ∨ proto.maxCount = 2147483647 then
    (.ok, 0)
  else
    match storage.excessOfKind entry count proto source with
    | some tooMany => (.cantCarryMoreOfThis, tooMany)
    | none =>
        if proto.itemLimitCategory = 0 then (.ok, 0)
        else
          match storage.limitCategories proto.itemLimitCategory with
          | none => (.itemCantBeEquipped, count)
          | some limitEntry =>
              match storage.excessOfCategory limitEntry count proto source with
              | some tooMany => (.itemMaxLimitCategoryCountExceeded, tooMany)
              | none => (.ok, 0)

/-! ## Well-formed storages -/

/-- No item above its limit, the one which is moved apart. -/
structure WithinLimits (entry : Nat) (proto : ItemTemplate) (source : Option SourceItem) :
    Prop where
  ofKind : 0 < proto.maxCount → storage.getItemCount entry source ≤ proto.maxCount.toNat
  ofCategory : ∀ limitEntry, proto.itemLimitCategory ≠ 0 →
    storage.limitCategories proto.itemLimitCategory = some limitEntry → limitEntry.mode = .have →
      storage.getItemCountWithLimitCategory proto.itemLimitCategory source ≤ limitEntry.maxCount

structure WellFormed (nextItemGuid : Nat) : Prop where
  tidy : storage.inventory.Tidy storage.maxStackCount nextItemGuid
  counts : ∀ slot ∈ storage.inventory, 0 < slot.item.count
  /-- `Bag::Create` refuses bags which are larger. -/
  bags : ∀ bag item bagProto, storage.getBagByPos bag = some (item, bagProto) →
    bagProto.containerSlots ≤ MAX_BAG_SIZE

end Storage

end RealmServer.Players
