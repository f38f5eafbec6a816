import RealmServer.Lib.Table

/-!
# Items and inventories

Inventories of all players as one table of slots.  Where an item goes is
decided by `CanStoreItem`, whose answer is a list of positions and counts; what
`StoreItem` makes of the list is modelled here.  A position may hold a stack of
the same kind, which then grows, so an item can be split, cloned and merged.
-/

namespace RealmServer.Players

open Table

structure Item where
  guid : Nat
  entry : Nat
  count : Nat
deriving DecidableEq, Repr

/-- `SetCount` of a stack which grows. -/
def Item.addCount (item : Item) (count : Nat) : Item :=
  { item with count := item.count + count }

structure InventorySlot where
  owner : Nat
  pos : Nat
  item : Item
deriving DecidableEq, Repr

def InventorySlot.key (slot : InventorySlot) : Nat × Nat := (slot.owner, slot.pos)

structure ItemPosCount where
  pos : Nat
  count : Nat
deriving DecidableEq, Repr

abbrev Inventory := List InventorySlot

namespace Inventory

/-- `GetItemByPos`. -/
def getItemByPos (inventory : Inventory) (owner pos : Nat) : Option InventorySlot :=
  find InventorySlot.key inventory (owner, pos)

/-- `GetItemByGuid`. -/
def getItemByGuid (inventory : Inventory) (owner guid : Nat) : Option InventorySlot :=
  inventory.find? fun slot => slot.owner = owner && slot.item.guid = guid

/-- `MoveItemFromInventory`. -/
def moveItemFromInventory (inventory : Inventory) (owner pos : Nat) : Inventory :=
  erase InventorySlot.key inventory (owner, pos)

/-- A stack into an empty position, or onto the stack which is there. -/
def place (inventory : Inventory) (owner pos : Nat) (item : Item) : Inventory :=
  match inventory.getItemByPos owner pos with
  | none => inventory ++ [{ owner, pos, item }]
  | some _ =>
      modify InventorySlot.key inventory (owner, pos) fun slot =>
        { slot with item := slot.item.addCount item.count }

structure StoreResult where
  inventory : Inventory
  nextItemGuid : Nat
  /-- The item itself is gone: its last part was merged into a stack. -/
  merged : Bool
deriving DecidableEq, Repr

/-- `StoreItem`: clones for all positions but the last, the item itself for that one. -/
def storeItem (owner : Nat) (item : Item) :
    Inventory → Nat → List ItemPosCount → StoreResult
  | inventory, nextItemGuid, [] => { inventory, nextItemGuid, merged := false }
  | inventory, nextItemGuid, [last] =>
      { inventory := inventory.place owner last.pos { item with count := last.count }
        nextItemGuid
        merged := (inventory.getItemByPos owner last.pos).isSome }
  | inventory, nextItemGuid, first :: second :: rest =>
      if (inventory.getItemByPos owner first.pos).isSome then
        storeItem owner item
          (inventory.place owner first.pos { item with count := first.count })
          nextItemGuid (second :: rest)
      else
        storeItem owner item
          (inventory.place owner first.pos
            { guid := nextItemGuid, entry := item.entry, count := first.count })
          (nextItemGuid + 1) (second :: rest)

/-- What `CanStoreItem` answers when it answers `EQUIP_ERR_OK`. -/
def canStore (inventory : Inventory) (owner : Nat) (item : Item)
    (dest : List ItemPosCount) : Bool :=
  dest ≠ [] && (dest.map ItemPosCount.pos).Nodup &&
    (dest.map ItemPosCount.count).sum = item.count &&
    dest.all fun place =>
      match inventory.getItemByPos owner place.pos with
      | none => true
      | some slot => slot.item.entry = item.entry

/-! ## What an inventory holds -/

/-- The weight of everything in it. -/
def holds (weight : Item → Nat) (inventory : Inventory) : Nat :=
  (inventory.map fun slot => weight slot.item).sum

end Inventory

/-- How many pieces of one kind. -/
def piecesOf (entry : Nat) (item : Item) : Nat :=
  if item.entry = entry then item.count else 0

/-- Whether it is the item with a guid. -/
def isItem (guid : Nat) (item : Item) : Nat :=
  if item.guid = guid then 1 else 0

namespace Inventory

/-- One item in each position. -/
def Sound (inventory : Inventory) : Prop := (inventory.map InventorySlot.key).Nodup

section Moves

variable {inventory : Inventory} (sound : inventory.Sound) (weight : Item → Nat)

include sound

theorem holds_moveItemFromInventory {slot : InventorySlot} (member : slot ∈ inventory) :
    (inventory.moveItemFromInventory slot.owner slot.pos).holds weight + weight slot.item =
      inventory.holds weight :=
  sum_erase sound member fun slot => weight slot.item

theorem sound_moveItemFromInventory (owner pos : Nat) :
    (inventory.moveItemFromInventory owner pos).Sound :=
  erase_keys sound _

theorem sound_place (owner pos : Nat) (item : Item) :
    (inventory.place owner pos item).Sound := by
  unfold place
  cases found : inventory.getItemByPos owner pos with
  | none =>
      have absent := find_eq_none_iff.mp found
      dsimp only
      unfold Sound
      rw [List.map_append, List.nodup_append]
      refine ⟨sound, by simp, ?_⟩
      rintro key old _ new rfl
      obtain ⟨slot, member, same⟩ := List.mem_map.mp old
      simp only [List.map_cons, List.map_nil, List.mem_singleton] at new
      exact absent slot member (same.trans new)
  | some slot => exact modify_keys sound _ fun _ => rfl

omit sound in
/-- Into an empty position an item goes whole. -/
theorem holds_place_empty {owner pos : Nat} (item : Item)
    (empty : inventory.getItemByPos owner pos = none) :
    (inventory.place owner pos item).holds weight = inventory.holds weight + weight item := by
  unfold place holds
  rw [empty]
  simp

/-- Onto a stack of its kind, the stack grows by its count. -/
theorem holds_place_pieces {owner pos : Nat} (item : Item)
    (kind : ∀ slot, inventory.getItemByPos owner pos = some slot →
      slot.item.entry = item.entry) (entry : Nat) :
    (inventory.place owner pos item).holds (piecesOf entry) =
      inventory.holds (piecesOf entry) + piecesOf entry item := by
  cases found : inventory.getItemByPos owner pos with
  | none => exact holds_place_empty _ item found
  | some slot =>
      have sameKind := kind slot found
      have key := key_of_find found
      have sum := sum_modify sound (mem_of_find found)
        (fun slot => { slot with item := slot.item.addCount item.count })
        fun slot => piecesOf entry slot.item
      have grown : piecesOf entry (slot.item.addCount item.count) =
          piecesOf entry slot.item + piecesOf entry item := by
        unfold piecesOf Item.addCount
        dsimp only
        rw [sameKind]
        split_ifs <;> rfl
      rw [key, grown] at sum
      unfold place
      rw [found]
      unfold holds
      dsimp only
      omega

end Moves

/-- Other positions are left alone. -/
theorem getItemByPos_place_of_key_ne (inventory : Inventory) {owner pos other otherPos : Nat}
    (differs : (other, otherPos) ≠ (owner, pos)) (item : Item) :
    (inventory.place owner pos item).getItemByPos other otherPos =
      inventory.getItemByPos other otherPos := by
  unfold place
  cases found : inventory.getItemByPos owner pos with
  | none =>
      have notNew : ¬ InventorySlot.key { owner, pos, item } = (other, otherPos) :=
        fun same => differs same.symm
      dsimp only
      unfold getItemByPos find
      rw [List.find?_append, List.find?_cons_of_neg (by simpa using notNew), List.find?_nil,
        Option.or_none]
  | some slot => exact find_modify_of_ne differs _ fun _ => rfl

theorem getItemByPos_place_of_ne (inventory : Inventory) {owner pos other : Nat}
    (differs : other ≠ pos) (item : Item) :
    (inventory.place owner pos item).getItemByPos owner other =
      inventory.getItemByPos owner other := by
  apply getItemByPos_place_of_key_ne
  intro same
  exact differs (Prod.mk.inj same).2

section Storing

variable {owner : Nat} {item : Item}

/-- Every position of a plan is empty or has a stack of the kind. -/
def Fits (inventory : Inventory) (owner entry : Nat) (dest : List ItemPosCount) : Prop :=
  ∀ place ∈ dest, ∀ slot, inventory.getItemByPos owner place.pos = some slot →
    slot.item.entry = entry

theorem Fits.place {inventory : Inventory} {first : ItemPosCount}
    {rest : List ItemPosCount}
    (fits : inventory.Fits owner item.entry (first :: rest))
    (positions : ((first :: rest).map ItemPosCount.pos).Nodup) (stack : Item) :
    (inventory.place owner first.pos stack).Fits owner item.entry rest := by
  rw [List.map_cons, List.nodup_cons] at positions
  intro other later slot found
  have differs : other.pos ≠ first.pos := by
    intro same
    exact positions.1 (same ▸ List.mem_map_of_mem later)
  rw [getItemByPos_place_of_ne inventory differs] at found
  exact fits other (List.mem_cons_of_mem first later) slot found

theorem sound_storeItem (dest : List ItemPosCount) {inventory : Inventory}
    (sound : inventory.Sound) (nextItemGuid : Nat) :
    (storeItem owner item inventory nextItemGuid dest).inventory.Sound := by
  fun_induction storeItem owner item inventory nextItemGuid dest with
  | case1 => exact sound
  | case2 => exact sound_place sound _ _ _
  | case3 _ _ _ _ _ _ induction => exact induction (sound_place sound _ _ _)
  | case4 _ _ _ _ _ _ induction => exact induction (sound_place sound _ _ _)

theorem holds_storeItem_pieces (dest : List ItemPosCount) {inventory : Inventory}
    (sound : inventory.Sound) (nextItemGuid : Nat)
    (positions : (dest.map ItemPosCount.pos).Nodup)
    (fits : inventory.Fits owner item.entry dest) (entry : Nat) :
    (storeItem owner item inventory nextItemGuid dest).inventory.holds (piecesOf entry) =
      inventory.holds (piecesOf entry) +
        piecesOf entry { item with count := (dest.map ItemPosCount.count).sum } := by
  have split : ∀ left right, piecesOf entry { item with count := left + right } =
      piecesOf entry { item with count := left } +
        piecesOf entry { item with count := right } := by
    intro left right
    unfold piecesOf
    split_ifs <;> rfl
  fun_induction storeItem owner item inventory nextItemGuid dest with
  | case1 => simp [piecesOf]
  | case2 inventory _ last =>
      have placed := holds_place_pieces sound { item with count := last.count }
        (fits last List.mem_cons_self) entry
      dsimp only
      rw [placed]
      simp
  | case3 inventory _ first second rest _ induction =>
      have first' := holds_place_pieces sound { item with count := first.count }
        (fits first List.mem_cons_self) entry
      have rest' := induction (sound_place sound _ _ _) positions.of_cons
        (fits.place positions _)
      have whole : piecesOf entry
          { item with count := ((first :: second :: rest).map ItemPosCount.count).sum } =
            _ := split first.count ((second :: rest).map ItemPosCount.count).sum
      rw [rest', first', whole]
      omega
  | case4 inventory nextItemGuid first second rest _ induction =>
      have first' := holds_place_pieces sound
        { guid := nextItemGuid, entry := item.entry, count := first.count }
        (fits first List.mem_cons_self) entry
      have rest' := induction (sound_place sound _ _ _) positions.of_cons
        (fits.place positions _)
      have clone : piecesOf entry
          { guid := nextItemGuid, entry := item.entry, count := first.count } =
            piecesOf entry { item with count := first.count } := rfl
      have whole : piecesOf entry
          { item with count := ((first :: second :: rest).map ItemPosCount.count).sum } =
            _ := split first.count ((second :: rest).map ItemPosCount.count).sum
      rw [rest', first', clone, whole]
      omega

theorem nextItemGuid_le_storeItem (dest : List ItemPosCount) (inventory : Inventory)
    (nextItemGuid : Nat) :
    nextItemGuid ≤ (storeItem owner item inventory nextItemGuid dest).nextItemGuid := by
  fun_induction storeItem owner item inventory nextItemGuid dest with
  | case1 => exact le_rfl
  | case2 => exact le_rfl
  | case3 _ _ _ _ _ _ induction => exact induction
  | case4 _ _ _ _ _ _ induction => exact (Nat.le_succ _).trans induction

end Storing

end Inventory

end RealmServer.Players
