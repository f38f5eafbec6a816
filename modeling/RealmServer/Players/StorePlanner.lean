import RealmServer.Lib.GreedyFill
import RealmServer.Players.Storage

/-!
# The storage planner

`CanStoreItem` walks over ranges of slots in a fixed order and plans into each
slot as much as it has room for, until nothing is left.  A walk is either
refused, which ends the search or is passed over, or it fills the slots that it
does not skip; so a whole search fills the slots of its walks, one after the
other.
-/

namespace RealmServer.Players

open GreedyFill

/-! ## Requests and answers -/

structure StoreRequest where
  bag : Nat
  slot : Nat
  entry : Nat
  count : Nat
  pItem : Option SourceItem
  swap : Bool
deriving DecidableEq, Repr

namespace StoreRequest

/-- Both the bag and the slot are given. -/
def namesSlot (request : StoreRequest) : Bool :=
  request.bag ≠ NULL_BAG && request.slot ≠ NULL_SLOT

def isNotEmptyBag (request : StoreRequest) : Bool :=
  (request.pItem.map SourceItem.isNotEmptyBag).getD false

def sourceGuid (request : StoreRequest) : Option Nat :=
  request.pItem.map fun source => source.item.guid

end StoreRequest

structure StoreAnswer where
  result : InventoryResult
  /-- `dest`, and what is left of the count. -/
  plan : Plan Nat
  noSpaceCount : Option Nat
deriving DecidableEq, Repr

namespace Storage

section Walks

variable (storage : Storage) (request : StoreRequest) (proto : ItemTemplate)

/-! ## Walks -/

/-- `need_space` of a slot, unless the slot is passed over. -/
def needSpace (merge : Bool) (bag slot : Nat) : Option Nat :=
  match storage.occupant request.pItem bag slot with
  | none => if merge then none else some proto.getMaxStackSize
  | some item =>
      if merge ∧ storage.canBeMergedPartlyWith item request.entry proto = .ok then
        some (proto.getMaxStackSize - item.count)
      else none

/-- The loop over the slots of a bag, or over a range of the main slots. -/
def storeInSlots (merge : Bool) (skips : Nat → Bool) (bag : Nat) :
    List Nat → Plan Nat → Plan Nat
  | [], plan => plan
  | slot :: later, plan =>
      if skips slot then storeInSlots merge skips bag later plan
      else
        match storage.needSpace request proto merge bag slot with
        | none => storeInSlots merge skips bag later plan
        | some space =>
            if position bag slot ∈ plan.places then storeInSlots merge skips bag later plan
            else if (put (fun _ => space) plan (position bag slot)).left = 0 then
              put (fun _ => space) plan (position bag slot)
            else storeInSlots merge skips bag later (put (fun _ => space) plan (position bag slot))

/-- Whether an item fits to a slot which is empty. -/
def fitsToSlot (bag slot : Nat) : Bool :=
  if bag = INVENTORY_SLOT_BAG_0 then
    if KEYRING_SLOT_START ≤ slot ∧ slot < KEYRING_SLOT_START + getMaxKeyringSize ∧
      ¬ proto.isKey then
      false
    else if CURRENCYTOKEN_SLOT_START ≤ slot ∧ slot < CURRENCYTOKEN_SLOT_END ∧
        ¬ proto.isCurrencyToken then
      false
    else if BUYBACK_SLOT_START ≤ slot ∧ slot < BUYBACK_SLOT_END ∨ PLAYER_SLOT_END ≤ slot then false
    else true
  else
    match storage.getBagByPos bag with
    | none => false
    | some (_, bagProto) => slot < bagProto.containerSlots && itemCanGoIntoBag proto bagProto

/-- What `CanStoreItem_InSpecificSlot` checks, and its `need_space`. -/
def specificSlotSpace : Except InventoryResult Nat :=
  if request.isNotEmptyBag ∧ ¬ isBagPos request.bag request.slot then
    .error .canOnlyDoWithEmptyBags
  else
    match if request.swap then none
      else storage.occupant request.pItem request.bag request.slot with
    | none =>
        if storage.fitsToSlot proto request.bag request.slot then .ok proto.getMaxStackSize
        else .error .itemDoesntGoIntoBag
    | some item =>
        if storage.canBeMergedPartlyWith item request.entry proto = .ok then
          .ok (proto.getMaxStackSize - item.count)
        else .error (storage.canBeMergedPartlyWith item request.entry proto)

def canStoreItemInSpecificSlot (plan : Plan Nat) : Except InventoryResult (Plan Nat) :=
  (storage.specificSlotSpace request proto).map fun space =>
    if position request.bag request.slot ∈ plan.places then plan
    else put (fun _ => space) plan (position request.bag request.slot)

/-- What `CanStoreItem_InBag` checks, and the slots of the bag. -/
def bagSlots (bag : Nat) (nonSpecialized : Bool) (skipBag : Nat) :
    Except InventoryResult (List Nat) :=
  if bag = skipBag then .error .itemDoesntGoIntoBag
  else
    match storage.getBagByPos bag with
    | none => .error .itemDoesntGoIntoBag
    | some (pBag, bagProto) =>
        if request.sourceGuid = some pBag.guid then .error .itemDoesntGoIntoBag
        else if request.isNotEmptyBag then .error .canOnlyDoWithEmptyBags
        else if nonSpecialized ≠ bagProto.isPlainContainer then .error .itemDoesntGoIntoBag
        else if ¬ itemCanGoIntoBag proto bagProto then .error .itemDoesntGoIntoBag
        else .ok (slotsFrom 0 bagProto.containerSlots)

def canStoreItemInBag (bag : Nat) (plan : Plan Nat) (merge nonSpecialized : Bool)
    (skipBag skipSlot : Nat) : Except InventoryResult (Plan Nat) :=
  (storage.bagSlots request proto bag nonSpecialized skipBag).map fun slots =>
    storage.storeInSlots request proto merge (· = skipSlot) bag slots plan

/-- The slot which a walk over the main slots skips. -/
def skipsMain (skipBag skipSlot slot : Nat) : Bool :=
  INVENTORY_SLOT_BAG_0 = skipBag && slot = skipSlot

def canStoreItemInInventorySlots (slotBegin slotEnd : Nat) (plan : Plan Nat) (merge : Bool)
    (skipBag skipSlot : Nat) : Except InventoryResult (Plan Nat) :=
  if request.isNotEmptyBag then .error .canOnlyDoWithEmptyBags
  else
    .ok (storage.storeInSlots request proto merge (skipsMain skipBag skipSlot)
      INVENTORY_SLOT_BAG_0 (slotsFrom slotBegin slotEnd) plan)

end Walks

/-- The calls in `CanStoreItem`. -/
inductive Walk where
  | specificSlot
  /-- The bag that is named, first as a specialised one, then as a plain one. -/
  | specificBag (merge : Bool)
  | bag (bag : Nat) (merge nonSpecialized : Bool)
  | inventorySlots (slotBegin slotEnd : Nat) (merge : Bool)
deriving DecidableEq, Repr

inductive Pass where
  /-- A refusal is the answer. -/
  | required (walk : Walk)
  /-- `continue` after a refusal. -/
  | optional (walk : Walk)
  | refuseNonemptyBag
deriving DecidableEq, Repr

section Planner

variable (storage : Storage) (request : StoreRequest) (proto : ItemTemplate)

def walk (plan : Plan Nat) : Walk → Except InventoryResult (Plan Nat)
  | .specificSlot => storage.canStoreItemInSpecificSlot request proto plan
  | .specificBag merge =>
      match storage.canStoreItemInBag request proto request.bag plan merge false NULL_BAG
          request.slot with
      | .ok next => .ok next
      | .error _ =>
          storage.canStoreItemInBag request proto request.bag plan merge true NULL_BAG request.slot
  | .bag bag merge nonSpecialized =>
      storage.canStoreItemInBag request proto bag plan merge nonSpecialized request.bag request.slot
  | .inventorySlots slotBegin slotEnd merge =>
      storage.canStoreItemInInventorySlots request proto slotBegin slotEnd plan merge request.bag
        request.slot

/-! ## The order of the walks -/

def mergePasses : List Pass :=
  [.required (.inventorySlots KEYRING_SLOT_START CURRENCYTOKEN_SLOT_END true),
    .required (.inventorySlots INVENTORY_SLOT_ITEM_START INVENTORY_SLOT_ITEM_END true)]

def keyringPass : Pass :=
  .required (.inventorySlots KEYRING_SLOT_START (KEYRING_SLOT_START + getMaxKeyringSize) false)

def currencyPass : Pass :=
  .required (.inventorySlots CURRENCYTOKEN_SLOT_START CURRENCYTOKEN_SLOT_END false)

def backpackPass : Pass :=
  .required (.inventorySlots INVENTORY_SLOT_ITEM_START INVENTORY_SLOT_ITEM_END false)

def bagPasses (merge nonSpecialized : Bool) : List Pass :=
  (slotsFrom INVENTORY_SLOT_BAG_START INVENTORY_SLOT_BAG_END).map fun bag =>
    .optional (.bag bag merge nonSpecialized)

def slotPasses : List Pass := if request.namesSlot then [.required .specificSlot] else []

/-- With the main slots named as the bag. -/
def mainPasses : List Pass :=
  (if proto.stackable ≠ 1 then mergePasses else []) ++
    (if proto.isKey then [keyringPass, currencyPass]
      else if proto.isCurrencyToken then [currencyPass] else []) ++
    [backpackPass]

def wornBagPasses : List Pass :=
  (if proto.stackable ≠ 1 then [.required (.specificBag true)] else []) ++
    [.required (.specificBag false)]

def specificBagPasses : List Pass :=
  if request.bag = NULL_BAG then []
  else if request.bag = INVENTORY_SLOT_BAG_0 then mainPasses proto
  else wornBagPasses proto

def generalMergePasses : List Pass :=
  if proto.stackable ≠ 1 then
    mergePasses ++ (if proto.bagFamily ≠ 0 then bagPasses true false else []) ++ bagPasses true true
  else []

def generalFamilyPasses : List Pass :=
  if proto.bagFamily ≠ 0 then
    (if proto.isKey then [keyringPass] else if proto.isCurrencyToken then [currencyPass] else []) ++
      bagPasses false false
  else []

def generalPasses : List Pass :=
  generalMergePasses proto ++ generalFamilyPasses proto ++
    (if request.isNotEmptyBag then [.refuseNonemptyBag] else []) ++
      backpackPass :: bagPasses false true

def passes : List Pass :=
  slotPasses request ++ specificBagPasses request proto ++ generalPasses request proto

/-! ## The search -/

/-- Nothing is left, but a part of the count was too many of a kind. -/
def completed (noSimilarCount : Nat) (plan : Plan Nat) : StoreAnswer :=
  if noSimilarCount = 0 then { result := .ok, plan, noSpaceCount := none }
  else
    { result := .cantCarryMoreOfThis
      plan
      noSpaceCount := some ((plan.left + noSimilarCount) % 2 ^ 32) }

def refused (noSimilarCount : Nat) (result : InventoryResult) (plan : Plan Nat) : StoreAnswer :=
  { result, plan, noSpaceCount := some ((plan.left + noSimilarCount) % 2 ^ 32) }

def runPasses (noSimilarCount : Nat) : List Pass → Plan Nat → StoreAnswer
  | [], plan => refused noSimilarCount .inventoryFull plan
  | .required step :: later, plan =>
      match storage.walk request proto plan step with
      | .error result => refused noSimilarCount result plan
      | .ok next =>
          if next.left = 0 then completed noSimilarCount next
          else runPasses noSimilarCount later next
  | .optional step :: later, plan =>
      match storage.walk request proto plan step with
      | .error _ => runPasses noSimilarCount later plan
      | .ok next =>
          if next.left = 0 then completed noSimilarCount next
          else runPasses noSimilarCount later next
  | .refuseNonemptyBag :: _, plan =>
      { result := .nonemptyBagOverOtherBag, plan, noSpaceCount := none }

end Planner

/-- An answer before the first walk. -/
def nothingStored (request : StoreRequest) (dest : List (Nat × Nat)) (result : InventoryResult) :
    StoreAnswer where
  result
  plan := { taken := dest, left := request.count }
  noSpaceCount := some request.count

/-- `CanStoreItem` after the check of similar items. -/
def searchSlots (storage : Storage) (request : StoreRequest) (proto : ItemTemplate)
    (dest : List (Nat × Nat)) (similar : InventoryResult × Nat) : StoreAnswer :=
  if similar.1 = .ok then
    storage.runPasses request proto 0 (passes request proto)
      { taken := dest, left := request.count }
  else if request.count = similar.2 then nothingStored request dest similar.1
  else
    storage.runPasses request proto similar.2 (passes request proto)
      { taken := dest, left := sub32 request.count similar.2 }

/-- `CanStoreItem`; `dest` may have positions already. -/
def canStoreItem (storage : Storage) (request : StoreRequest) (dest : List (Nat × Nat)) :
    StoreAnswer :=
  match storage.getItemTemplate request.entry with
  | none =>
      nothingStored request dest (if request.swap then .itemsCantBeSwapped else .itemNotFound)
  | some proto =>
      if (request.pItem.map SourceItem.lootGenerated).getD false then
        nothingStored request dest .alreadyLooted
      else if (request.pItem.map SourceItem.bindedNotWith).getD false then
        nothingStored request dest .dontOwnThatItem
      else
        storage.searchSlots request proto dest
          (storage.canTakeMoreSimilarItems request.entry request.count proto request.pItem)

/-- `CanStoreNewItem`. -/
def canStoreNewItem (storage : Storage) (bag slot : Nat) (dest : List (Nat × Nat))
    (item count : Nat) : StoreAnswer :=
  storage.canStoreItem { bag, slot, entry := item, count, pItem := none, swap := false } dest

end Storage

end RealmServer.Players
