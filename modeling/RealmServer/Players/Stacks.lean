import RealmServer.Players.Inventory

/-!
# Stacks by position

What is in each position before and after items are taken out of an inventory
and stored in it.  Stacks have a limit for each kind, and every item has a guid
of its own, below the next one that is given to a clone.
-/

namespace RealmServer.Players

open Table

namespace Inventory

/-- How many pieces of one kind are in a position. -/
def piecesAt (inventory : Inventory) (kind owner pos : Nat) : Nat :=
  match inventory.getItemByPos owner pos with
  | none => 0
  | some slot => piecesOf kind slot.item

/-- How many pieces a plan stores in a position. -/
def planned : List ItemPosCount → Nat → Nat
  | [], _ => 0
  | place :: rest, pos => (if place.pos = pos then place.count else 0) + planned rest pos

/-- `SetCount` of a stack a part of which goes somewhere else. -/
def takePart (inventory : Inventory) (owner pos count : Nat) : Inventory :=
  modify InventorySlot.key inventory (owner, pos) fun slot =>
    { slot with item := { slot.item with count := slot.item.count - count } }

/-- No position has the item with a guid. -/
def Lacks (inventory : Inventory) (guid : Nat) : Prop :=
  ∀ slot ∈ inventory, slot.item.guid ≠ guid

/-- One item in each position, each item in one position, and no stack above its limit. -/
structure Tidy (maxStackCount : Nat → Nat) (inventory : Inventory) (nextItemGuid : Nat) :
    Prop where
  positions : inventory.Sound
  guids : (inventory.map fun slot => slot.item.guid).Nodup
  older : ∀ slot ∈ inventory, slot.item.guid < nextItemGuid
  limits : ∀ slot ∈ inventory, slot.item.count ≤ maxStackCount slot.item.entry

/-- What is planned for a position fits on what is there. -/
def HasRoom (maxStackCount : Nat → Nat) (inventory : Inventory) (owner : Nat) (item : Item)
    (place : ItemPosCount) : Prop :=
  place.count ≤ maxStackCount item.entry ∧
    ∀ slot, inventory.getItemByPos owner place.pos = some slot →
      slot.item.entry = item.entry ∧
        slot.item.count + place.count ≤ maxStackCount item.entry

/-! ## Plans -/

@[simp]
theorem planned_nil (pos : Nat) : planned [] pos = 0 := rfl

@[simp]
theorem planned_cons (place : ItemPosCount) (rest : List ItemPosCount) (pos : Nat) :
    planned (place :: rest) pos =
      (if place.pos = pos then place.count else 0) + planned rest pos := rfl

theorem piecesOf_add (kind : Nat) (item : Item) (left right : Nat) :
    piecesOf kind { item with count := left + right } =
      piecesOf kind { item with count := left } +
        piecesOf kind { item with count := right } := by
  unfold piecesOf
  split_ifs <;> rfl

theorem piecesOf_zero (kind : Nat) (item : Item) :
    piecesOf kind { item with count := 0 } = 0 := by
  unfold piecesOf
  split_ifs <;> rfl

theorem HasRoom.fits {maxStackCount : Nat → Nat} {inventory : Inventory} {owner : Nat}
    {item : Item} {dest : List ItemPosCount}
    (room : ∀ place ∈ dest, HasRoom maxStackCount inventory owner item place) :
    inventory.Fits owner item.entry dest := by
  intro place member slot found
  exact ((room place member).2 slot found).1

/-! ## One position -/

section Positions

variable (inventory : Inventory) {owner pos other otherPos : Nat}

theorem getItemByPos_place_empty (item : Item)
    (empty : inventory.getItemByPos owner pos = none) :
    (inventory.place owner pos item).getItemByPos owner pos =
      some { owner, pos, item } := by
  unfold place
  rw [empty]
  unfold getItemByPos find at empty ⊢
  rw [List.find?_append, empty, Option.none_or]
  exact List.find?_cons_of_pos (by simp [InventorySlot.key])

theorem getItemByPos_place_stack (item : Item) {slot : InventorySlot}
    (found : inventory.getItemByPos owner pos = some slot) :
    (inventory.place owner pos item).getItemByPos owner pos =
      some { slot with item := slot.item.addCount item.count } := by
  let grow : InventorySlot → InventorySlot := fun slot =>
    { slot with item := slot.item.addCount item.count }
  have changed : find InventorySlot.key
      (modify InventorySlot.key inventory (owner, pos) grow) (owner, pos) =
        (find InventorySlot.key inventory (owner, pos)).map grow :=
    find_modify_self _ _ fun _ => rfl
  unfold place
  rw [found]
  unfold getItemByPos at found ⊢
  rw [found] at changed
  exact changed

theorem getItemByPos_moveItemFromInventory :
    (inventory.moveItemFromInventory owner pos).getItemByPos other otherPos =
      if (other, otherPos) = (owner, pos) then none
      else inventory.getItemByPos other otherPos :=
  find_erase _ _ _

theorem getItemByPos_takePart_self (count : Nat) :
    (inventory.takePart owner pos count).getItemByPos owner pos =
      (inventory.getItemByPos owner pos).map fun slot =>
        { slot with item := { slot.item with count := slot.item.count - count } } :=
  find_modify_self _ _ fun _ => rfl

theorem getItemByPos_takePart_of_key_ne (differs : (other, otherPos) ≠ (owner, pos))
    (count : Nat) :
    (inventory.takePart owner pos count).getItemByPos other otherPos =
      inventory.getItemByPos other otherPos :=
  find_modify_of_ne differs _ fun _ => rfl

end Positions

/-! ## Pieces by position -/

section Pieces

variable {inventory : Inventory} {owner pos : Nat}

theorem piecesAt_congr {before after : Inventory} {owner pos : Nat}
    (same : after.getItemByPos owner pos = before.getItemByPos owner pos) (kind : Nat) :
    after.piecesAt kind owner pos = before.piecesAt kind owner pos := by
  unfold piecesAt
  rw [same]

theorem piecesAt_place (item : Item)
    (kindred : ∀ slot, inventory.getItemByPos owner pos = some slot →
      slot.item.entry = item.entry) (kind other otherPos : Nat) :
    (inventory.place owner pos item).piecesAt kind other otherPos =
      inventory.piecesAt kind other otherPos +
        if (other, otherPos) = (owner, pos) then piecesOf kind item else 0 := by
  by_cases here : (other, otherPos) = (owner, pos)
  · rw [if_pos here]
    obtain ⟨rfl, rfl⟩ := Prod.mk.inj here
    unfold piecesAt
    cases found : inventory.getItemByPos other otherPos with
    | none =>
        rw [getItemByPos_place_empty inventory item found]
        exact (Nat.zero_add _).symm
    | some slot =>
        have grown := piecesOf_add kind slot.item slot.item.count item.count
        have added : piecesOf kind { slot.item with count := item.count } =
            piecesOf kind item := by
          unfold piecesOf
          dsimp only
          rw [kindred slot found]
        rw [getItemByPos_place_stack inventory item found, ← added]
        exact grown
  · rw [if_neg here, Nat.add_zero]
    exact piecesAt_congr (getItemByPos_place_of_key_ne inventory here item) kind

theorem piecesAt_moveItemFromInventory (inventory : Inventory)
    (kind owner pos other otherPos : Nat) :
    (inventory.moveItemFromInventory owner pos).piecesAt kind other otherPos =
      if (other, otherPos) = (owner, pos) then 0
      else inventory.piecesAt kind other otherPos := by
  unfold piecesAt
  rw [getItemByPos_moveItemFromInventory]
  by_cases here : (other, otherPos) = (owner, pos)
  · rw [if_pos here, if_pos here]
  · rw [if_neg here, if_neg here]

theorem piecesAt_takePart {slot : InventorySlot}
    (found : inventory.getItemByPos owner pos = some slot) {count : Nat}
    (part : count ≤ slot.item.count) (kind other otherPos : Nat) :
    (inventory.takePart owner pos count).piecesAt kind other otherPos +
        (if (other, otherPos) = (owner, pos) then
          piecesOf kind { slot.item with count } else 0) =
      inventory.piecesAt kind other otherPos := by
  by_cases here : (other, otherPos) = (owner, pos)
  · rw [if_pos here]
    obtain ⟨rfl, rfl⟩ := Prod.mk.inj here
    have whole := piecesOf_add kind slot.item (slot.item.count - count) count
    rw [Nat.sub_add_cancel part] at whole
    unfold piecesAt
    rw [getItemByPos_takePart_self, found]
    exact whole.symm
  · rw [if_neg here, Nat.add_zero]
    exact piecesAt_congr (getItemByPos_takePart_of_key_ne inventory here count) kind

/-- What the first position of a plan gets, and the others. -/
theorem piecesOf_planned (owner : Nat) (item : Item) (first : ItemPosCount)
    (rest : List ItemPosCount)
    (kind other otherPos : Nat) :
    (if (other, otherPos) = (owner, first.pos) then
        piecesOf kind { item with count := first.count } else 0) +
      (if other = owner then piecesOf kind { item with count := planned rest otherPos }
        else 0) =
      if other = owner then
        piecesOf kind { item with count := planned (first :: rest) otherPos }
      else 0 := by
  by_cases mine : other = owner
  · subst mine
    rw [if_pos rfl, if_pos rfl, planned_cons, piecesOf_add]
    congr 1
    by_cases here : first.pos = otherPos
    · rw [if_pos (congrArg (Prod.mk other) here.symm), if_pos here]
    · have elsewhere : ¬ (other, otherPos) = (other, first.pos) := by
        intro same
        exact here (Prod.mk.inj same).2.symm
      rw [if_neg elsewhere, if_neg here, piecesOf_zero]
  · have elsewhere : ¬ (other, otherPos) = (owner, first.pos) := by
      intro same
      exact mine (Prod.mk.inj same).1
    rw [if_neg elsewhere, if_neg mine, if_neg mine]

theorem piecesAt_storeItem {item : Item} (dest : List ItemPosCount)
    {inventory : Inventory} (nextItemGuid : Nat)
    (positions : (dest.map ItemPosCount.pos).Nodup)
    (fits : inventory.Fits owner item.entry dest) (kind other otherPos : Nat) :
    (storeItem owner item inventory nextItemGuid dest).inventory.piecesAt kind other otherPos =
      inventory.piecesAt kind other otherPos +
        if other = owner then piecesOf kind { item with count := planned dest otherPos }
        else 0 := by
  fun_induction storeItem owner item inventory nextItemGuid dest with
  | case1 => simp [piecesOf_zero]
  | case2 inventory _ last =>
      have placed := piecesAt_place { item with count := last.count }
        (fits last List.mem_cons_self) kind other otherPos
      have split := piecesOf_planned owner item last [] kind other otherPos
      rw [placed, ← split]
      simp [piecesOf_zero]
  | case3 inventory _ first second rest _ induction =>
      have placed := piecesAt_place { item with count := first.count }
        (fits first List.mem_cons_self) kind other otherPos
      have split := piecesOf_planned owner item first (second :: rest) kind other
        otherPos
      rw [induction positions.of_cons (fits.place positions _), placed, ← split]
      omega
  | case4 inventory nextItemGuid first second rest _ induction =>
      have placed := piecesAt_place
        { guid := nextItemGuid, entry := item.entry, count := first.count }
        (fits first List.mem_cons_self) kind other otherPos
      have clone : piecesOf kind
          { guid := nextItemGuid, entry := item.entry, count := first.count } =
            piecesOf kind { item with count := first.count } := rfl
      have split := piecesOf_planned owner item first (second :: rest) kind other
        otherPos
      rw [induction positions.of_cons (fits.place positions _), placed, ← split, clone]
      omega

theorem getItemByPos_storeItem_of_not_mem (item : Item) (dest : List ItemPosCount)
    (inventory : Inventory) (nextItemGuid : Nat) {other otherPos : Nat}
    (outside : other = owner → otherPos ∉ dest.map ItemPosCount.pos) :
    (storeItem owner item inventory nextItemGuid dest).inventory.getItemByPos other otherPos =
      inventory.getItemByPos other otherPos := by
  have apart : ∀ place ∈ dest, (other, otherPos) ≠ (owner, place.pos) := by
    intro place member same
    obtain ⟨mine, here⟩ := Prod.mk.inj same
    exact outside mine (here ▸ List.mem_map_of_mem member)
  clear outside
  fun_induction storeItem owner item inventory nextItemGuid dest with
  | case1 => rfl
  | case2 inventory _ last =>
      exact getItemByPos_place_of_key_ne inventory (apart last List.mem_cons_self) _
  | case3 inventory _ first _ _ _ induction =>
      rw [induction fun place later => apart place (List.mem_cons_of_mem first later)]
      exact getItemByPos_place_of_key_ne inventory (apart first List.mem_cons_self) _
  | case4 inventory _ first _ _ _ induction =>
      rw [induction fun place later => apart place (List.mem_cons_of_mem first later)]
      exact getItemByPos_place_of_key_ne inventory (apart first List.mem_cons_self) _

end Pieces

/-! ## Guids and limits -/

section Guids

variable {maxStackCount : Nat → Nat} {inventory : Inventory} {nextItemGuid : Nat}
  {owner pos : Nat}

theorem Lacks.place_stack {guid : Nat} (lacks : inventory.Lacks guid) {item : Item}
    (occupied : (inventory.getItemByPos owner pos).isSome = true) :
    (inventory.place owner pos item).Lacks guid := by
  obtain ⟨slot, found⟩ := Option.isSome_iff_exists.mp occupied
  unfold place
  rw [found]
  intro slot member
  rcases mem_modify.mp member with ⟨old, _⟩ | ⟨old, oldMember, _, rfl⟩
  · exact lacks slot old
  · exact lacks old oldMember

theorem Lacks.place_new {guid : Nat} (lacks : inventory.Lacks guid) {item : Item}
    (differs : item.guid ≠ guid) : (inventory.place owner pos item).Lacks guid := by
  cases found : inventory.getItemByPos owner pos with
  | none =>
      unfold place
      rw [found]
      intro slot member
      rcases List.mem_append.mp member with old | new
      · exact lacks slot old
      · rw [List.mem_singleton.mp new]
        exact differs
  | some slot => exact lacks.place_stack (by rw [found]; rfl)

/-- Storing adds the item and clones, which are younger than all guids before. -/
theorem Lacks.storeItem {guid : Nat} (lacks : inventory.Lacks guid) {item : Item}
    (differs : item.guid ≠ guid) (old : guid < nextItemGuid) (dest : List ItemPosCount) :
    (storeItem owner item inventory nextItemGuid dest).inventory.Lacks guid := by
  fun_induction Inventory.storeItem owner item inventory nextItemGuid dest with
  | case1 => exact lacks
  | case2 => exact lacks.place_new differs
  | case3 _ _ _ _ _ occupied induction => exact induction (lacks.place_stack occupied) old
  | case4 _ _ _ _ _ _ induction =>
      exact induction (lacks.place_new old.ne') (Nat.lt_succ_of_lt old)

/-- What is taken out is not there any more. -/
theorem Tidy.lacks_moveItemFromInventory
    (tidy : inventory.Tidy maxStackCount nextItemGuid) {slot : InventorySlot}
    (found : inventory.getItemByPos owner pos = some slot) :
    (inventory.moveItemFromInventory owner pos).Lacks slot.item.guid := by
  intro other member same
  obtain ⟨otherMember, differs⟩ := mem_erase.mp member
  have equal : other = slot :=
    List.inj_on_of_nodup_map tidy.guids otherMember (mem_of_find found) same
  exact differs (equal ▸ key_of_find found)

theorem Tidy.moveItemFromInventory (tidy : inventory.Tidy maxStackCount nextItemGuid)
    (owner pos : Nat) :
    (inventory.moveItemFromInventory owner pos).Tidy maxStackCount nextItemGuid where
  positions := sound_moveItemFromInventory tidy.positions owner pos
  guids := tidy.guids.sublist (List.filter_sublist.map _)
  older := fun slot member => tidy.older slot (mem_erase.mp member).1
  limits := fun slot member => tidy.limits slot (mem_erase.mp member).1

theorem guids_modify (inventory : Inventory) (key : Nat × Nat)
    (change : InventorySlot → InventorySlot)
    (same : ∀ slot, (change slot).item.guid = slot.item.guid) :
    (Table.modify InventorySlot.key inventory key change).map
        (fun slot => slot.item.guid) =
      inventory.map fun slot => slot.item.guid := by
  unfold Table.modify
  rw [List.map_map]
  apply List.map_congr_left
  intro slot _
  dsimp only [Function.comp_apply]
  split_ifs
  · exact same slot
  · rfl

theorem Tidy.takePart (tidy : inventory.Tidy maxStackCount nextItemGuid)
    (owner pos count : Nat) :
    (inventory.takePart owner pos count).Tidy maxStackCount nextItemGuid where
  positions := modify_keys tidy.positions _ fun _ => rfl
  guids := by
    unfold Inventory.takePart
    rw [guids_modify]
    · exact tidy.guids
    · exact fun _ => rfl
  older := by
    intro slot member
    rcases mem_modify.mp member with ⟨old, _⟩ | ⟨old, oldMember, _, rfl⟩
    · exact tidy.older slot old
    · exact tidy.older old oldMember
  limits := by
    intro slot member
    rcases mem_modify.mp member with ⟨old, _⟩ | ⟨old, oldMember, _, rfl⟩
    · exact tidy.limits slot old
    · exact (Nat.sub_le _ _).trans (tidy.limits old oldMember)

theorem Tidy.place_stack (tidy : inventory.Tidy maxStackCount nextItemGuid) (item : Item)
    {slot : InventorySlot} (found : inventory.getItemByPos owner pos = some slot)
    (limit : slot.item.count + item.count ≤ maxStackCount slot.item.entry) :
    (inventory.place owner pos item).Tidy maxStackCount nextItemGuid where
  positions := sound_place tidy.positions _ _ _
  guids := by
    unfold place
    rw [found]
    dsimp only
    rw [guids_modify]
    · exact tidy.guids
    · exact fun _ => rfl
  older := by
    unfold place
    rw [found]
    intro other member
    rcases mem_modify.mp member with ⟨old, _⟩ | ⟨old, oldMember, _, rfl⟩
    · exact tidy.older other old
    · exact tidy.older old oldMember
  limits := by
    unfold place
    rw [found]
    intro other member
    rcases mem_modify.mp member with ⟨old, _⟩ | ⟨old, oldMember, here, rfl⟩
    · exact tidy.limits other old
    · have there : find InventorySlot.key inventory old.key = some old :=
        find_of_mem tidy.positions oldMember
      have isSlot : old = slot := by
        rw [here] at there
        exact Option.some.inj (there.symm.trans found)
      rw [isSlot]
      exact limit

theorem Tidy.place_new (tidy : inventory.Tidy maxStackCount nextItemGuid) (item : Item)
    (empty : inventory.getItemByPos owner pos = none) (lacks : inventory.Lacks item.guid)
    (older : item.guid < nextItemGuid) (limit : item.count ≤ maxStackCount item.entry) :
    (inventory.place owner pos item).Tidy maxStackCount nextItemGuid where
  positions := sound_place tidy.positions _ _ _
  guids := by
    unfold place
    rw [empty, List.map_append, List.nodup_append]
    refine ⟨tidy.guids, List.nodup_singleton _, ?_⟩
    rintro guid old other new rfl
    obtain ⟨slot, member, same⟩ := List.mem_map.mp old
    rw [List.map_singleton, List.mem_singleton] at new
    exact lacks slot member (same.trans new)
  older := by
    unfold place
    rw [empty]
    intro slot member
    rcases List.mem_append.mp member with old | new
    · exact tidy.older slot old
    · rw [List.mem_singleton.mp new]
      exact older
  limits := by
    unfold place
    rw [empty]
    intro slot member
    rcases List.mem_append.mp member with old | new
    · exact tidy.limits slot old
    · rw [List.mem_singleton.mp new]
      exact limit

theorem Tidy.younger (tidy : inventory.Tidy maxStackCount nextItemGuid) :
    inventory.Tidy maxStackCount (nextItemGuid + 1) where
  __ := tidy
  older := fun slot member => Nat.lt_succ_of_lt (tidy.older slot member)

theorem Tidy.lacks_nextItemGuid (tidy : inventory.Tidy maxStackCount nextItemGuid) :
    inventory.Lacks nextItemGuid :=
  fun slot member => (tidy.older slot member).ne

/-- What was done in one position leaves room in the others. -/
theorem HasRoom.congr {before after : Inventory} {item : Item} {place : ItemPosCount}
    (room : before.HasRoom maxStackCount owner item place)
    (same : after.getItemByPos owner place.pos = before.getItemByPos owner place.pos) :
    after.HasRoom maxStackCount owner item place :=
  ⟨room.1, fun slot found => room.2 slot (same.symm.trans found)⟩

theorem HasRoom.rest {item stack : Item} {first : ItemPosCount} {rest : List ItemPosCount}
    (room : ∀ place ∈ first :: rest, inventory.HasRoom maxStackCount owner item place)
    (positions : ((first :: rest).map ItemPosCount.pos).Nodup) :
    ∀ place ∈ rest,
      (inventory.place owner first.pos stack).HasRoom maxStackCount owner item place := by
  rw [List.map_cons, List.nodup_cons] at positions
  intro place later
  have differs : place.pos ≠ first.pos := by
    intro same
    exact positions.1 (same ▸ List.mem_map_of_mem later)
  exact (room place (List.mem_cons_of_mem first later)).congr
    (getItemByPos_place_of_ne inventory differs stack)

/-- Storing gives clones guids of their own, and stays within the limits. -/
theorem Tidy.storeItem {item : Item} (dest : List ItemPosCount)
    (tidy : inventory.Tidy maxStackCount nextItemGuid)
    (positions : (dest.map ItemPosCount.pos).Nodup)
    (room : ∀ place ∈ dest, inventory.HasRoom maxStackCount owner item place)
    (lacks : inventory.Lacks item.guid) (older : item.guid < nextItemGuid) :
    (storeItem owner item inventory nextItemGuid dest).inventory.Tidy maxStackCount
      (storeItem owner item inventory nextItemGuid dest).nextItemGuid := by
  fun_induction Inventory.storeItem owner item inventory nextItemGuid dest with
  | case1 => exact tidy
  | case2 inventory _ last =>
      have lastRoom := room last List.mem_cons_self
      cases found : inventory.getItemByPos owner last.pos with
      | none => exact tidy.place_new { item with count := last.count } found lacks older lastRoom.1
      | some slot =>
          have grown := lastRoom.2 slot found
          exact tidy.place_stack { item with count := last.count } found (grown.1 ▸ grown.2)
  | case3 inventory _ first second rest occupied induction =>
      obtain ⟨slot, found⟩ := Option.isSome_iff_exists.mp occupied
      have grown := (room first List.mem_cons_self).2 slot found
      have placed := tidy.place_stack { item with count := first.count } found
        (grown.1 ▸ grown.2)
      exact induction placed positions.of_cons (HasRoom.rest room positions)
        (lacks.place_stack occupied) older
  | case4 inventory nextItemGuid first second rest empty induction =>
      have free := Option.not_isSome_iff_eq_none.mp empty
      have placed := tidy.younger.place_new
        { guid := nextItemGuid, entry := item.entry, count := first.count } free
        tidy.lacks_nextItemGuid (Nat.lt_succ_self nextItemGuid)
        (room first List.mem_cons_self).1
      exact induction placed positions.of_cons (HasRoom.rest room positions)
        (lacks.place_new older.ne') (Nat.lt_succ_of_lt older)

end Guids

/-! ## Taking a part -/

theorem holds_takePart {inventory : Inventory} (sound : inventory.Sound)
    {owner pos : Nat} {slot : InventorySlot}
    (found : inventory.getItemByPos owner pos = some slot) {count : Nat}
    (part : count ≤ slot.item.count) (kind : Nat) :
    (inventory.takePart owner pos count).holds (piecesOf kind) +
        piecesOf kind { slot.item with count } =
      inventory.holds (piecesOf kind) := by
  have sum := sum_modify sound (mem_of_find found)
    (fun slot => { slot with item := { slot.item with count := slot.item.count - count } })
    fun slot => piecesOf kind slot.item
  have whole : piecesOf kind slot.item =
      piecesOf kind { slot.item with count := slot.item.count - count } +
        piecesOf kind { slot.item with count } := by
    rw [← piecesOf_add, Nat.sub_add_cancel part]
  rw [key_of_find found] at sum
  have taken : (inventory.takePart owner pos count).holds (piecesOf kind) +
      piecesOf kind slot.item =
        inventory.holds (piecesOf kind) +
          piecesOf kind { slot.item with count := slot.item.count - count } := sum
  omega

end Inventory

end RealmServer.Players
