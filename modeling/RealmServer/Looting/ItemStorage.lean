import RealmServer.Lib.Transition

/-!
# The loot of opened items

`LootItemStorage` keeps in memory what is left in an opened item and writes every
change to two tables, which the next start loads.  A stack that is taken leaves
the memory once, but the statement for it deletes all rows which look like it.
-/

namespace RealmServer.Looting.ItemStorage

open Transition

structure StoredLootItem where
  itemId : UInt32
  count : UInt32
  followRules : Bool
  ffa : Bool
  blocked : Bool
  counted : Bool
  underThreshold : Bool
  needsQuest : Bool
  randomPropertyId : Int
  randomSuffix : UInt32
deriving DecidableEq, Repr

/-- It is made of a `LootItem`, whose `count` has eight bits. -/
def StoredLootItem.ofLootItem (item : StoredLootItem) : StoredLootItem :=
  { item with count := item.count % 256 }

/-- The items in the order of the multimap, which is not specified. -/
structure StoredLootContainer where
  lootItems : List StoredLootItem
  money : UInt32
deriving DecidableEq, Repr

/-- A generated item, with what `AddNewStoredLoot` asks about it. -/
structure GeneratedItem where
  item : StoredLootItem
  allowedForPlayer : Bool
  /-- Whether the template is one of a currency token, if there is a template. -/
  isCurrencyToken : Option Bool
deriving DecidableEq, Repr

structure Loot where
  containerId : UInt32
  gold : UInt32
  unlootedCount : UInt8
  items : List GeneratedItem
deriving DecidableEq, Repr

def Loot.isLooted (loot : Loot) : Bool := loot.gold = 0 && loot.unlootedCount = 0

/-- The items which are stored. -/
def Loot.storedItems (loot : Loot) : List StoredLootItem :=
  (loot.items.filter fun generated =>
    generated.allowedForPlayer && generated.isCurrencyToken = some false).map
      (·.item.ofLootItem)

/-- `item_loot_items` and `item_loot_money`, with the container in front. -/
structure LootTables where
  items : List (UInt32 × StoredLootItem)
  money : List (UInt32 × UInt32)
deriving DecidableEq, Repr

structure LootItemStorage where
  lootItemStore : UInt32 → Option StoredLootContainer
  tables : LootTables

/-! ## The operations -/

def StoredLootItem.isStack (itemId count : UInt32) (item : StoredLootItem) : Bool :=
  item.itemId = itemId && item.count = count

/-- The multimap may have any of the stacks with this count in front of the others. -/
def StoredLootContainer.removeItem (container : StoredLootContainer) (itemId count : UInt32)
    (first : Nat) : StoredLootContainer :=
  let found := container.lootItems.filter (·.isStack itemId count)
  match found[first % found.length]? with
  | none => container
  | some item => { container with lootItems := container.lootItems.erase item }

namespace LootItemStorage

/-- The container a row belongs to is made where it is missing. -/
def find (store : UInt32 → Option StoredLootContainer) (key : UInt32) : StoredLootContainer :=
  (store key).getD { lootItems := [], money := 0 }

def loadItem (store : UInt32 → Option StoredLootContainer) (row : UInt32 × StoredLootItem) :
    UInt32 → Option StoredLootContainer :=
  Function.update store row.1
    (some { find store row.1 with
      lootItems := (find store row.1).lootItems ++ [row.2.ofLootItem] })

def loadMoney (store : UInt32 → Option StoredLootContainer) (row : UInt32 × UInt32) :
    UInt32 → Option StoredLootContainer :=
  Function.update store row.1 (some { find store row.1 with money := row.2 })

def loadStorageFromDB (tables : LootTables) : LootItemStorage where
  lootItemStore := tables.money.foldl loadMoney (tables.items.foldl loadItem fun _ => none)
  tables

def removeStoredMoneyForContainer (storage : LootItemStorage) (containerId : UInt32) :
    LootItemStorage :=
  match storage.lootItemStore containerId with
  | none => storage
  | some container =>
      { lootItemStore :=
          Function.update storage.lootItemStore containerId (some { container with money := 0 })
        tables := { storage.tables with
          money := storage.tables.money.filter (·.1 ≠ containerId) } }

def removeStoredLootForContainer (storage : LootItemStorage) (containerId : UInt32) :
    LootItemStorage where
  lootItemStore := Function.update storage.lootItemStore containerId none
  tables :=
    { items := storage.tables.items.filter (·.1 ≠ containerId)
      money := storage.tables.money.filter (·.1 ≠ containerId) }

def removeStoredLootItemForContainer (storage : LootItemStorage)
    (containerId itemId count : UInt32) (first : Nat) : LootItemStorage :=
  match storage.lootItemStore containerId with
  | none => storage
  | some container =>
      { lootItemStore := Function.update storage.lootItemStore containerId
          (some (container.removeItem itemId count first))
        tables := { storage.tables with
          items := storage.tables.items.filter fun row =>
            !(row.1 = containerId && row.2.isStack itemId count) } }

def addNewStoredLoot (storage : LootItemStorage) (loot : Loot) : LootItemStorage :=
  if loot.isLooted || (storage.lootItemStore loot.containerId).isSome then storage
  else
    { lootItemStore := Function.update storage.lootItemStore loot.containerId
        (some { lootItems := loot.storedItems, money := loot.gold })
      tables :=
        { items := storage.tables.items.filter (·.1 ≠ loot.containerId) ++
            loot.storedItems.map fun item => (loot.containerId, item)
          money :=
            if loot.gold = 0 then storage.tables.money
            else storage.tables.money.filter (·.1 ≠ loot.containerId) ++
              [(loot.containerId, loot.gold)] } }

end LootItemStorage

inductive StorageEvent where
  | addNewStoredLoot (loot : Loot)
  | removeItem (containerId itemId count : UInt32) (first : Nat)
  | removeMoney (containerId : UInt32)
  | removeLoot (containerId : UInt32)
  /-- A restart. -/
  | load

def LootItemStorage.step (storage : LootItemStorage) : StorageEvent → LootItemStorage
  | .addNewStoredLoot loot => storage.addNewStoredLoot loot
  | .removeItem containerId itemId count first =>
      storage.removeStoredLootItemForContainer containerId itemId count first
  | .removeMoney containerId => storage.removeStoredMoneyForContainer containerId
  | .removeLoot containerId => storage.removeStoredLootForContainer containerId
  | .load => .loadStorageFromDB storage.tables

/-! ## Rows -/

section Rows

variable {Value : Type} {rows : List (UInt32 × Value)} {key containerId : UInt32}

def rowsOf (rows : List (UInt32 × Value)) (containerId : UInt32) : List Value :=
  (rows.filter (·.1 = containerId)).map Prod.snd

theorem rowsOf_cons (row : UInt32 × Value) :
    rowsOf (row :: rows) containerId =
      if row.1 = containerId then row.2 :: rowsOf rows containerId
      else rowsOf rows containerId := by
  unfold rowsOf
  rw [List.filter_cons]
  split_ifs <;> simp_all

theorem rowsOf_append (added : List (UInt32 × Value)) :
    rowsOf (rows ++ added) containerId = rowsOf rows containerId ++ rowsOf added containerId := by
  unfold rowsOf
  rw [List.filter_append, List.map_append]

theorem rowsOf_filter (deleted : Value → Bool) :
    rowsOf (rows.filter fun row => !(row.1 = key && deleted row.2)) containerId =
      if containerId = key then (rowsOf rows containerId).filter (!deleted ·)
      else rowsOf rows containerId := by
  unfold rowsOf
  rw [List.filter_filter]
  split_ifs with same
  · rw [List.filter_map, List.filter_filter, same]
    refine congrArg _ (List.filter_congr fun row _ => ?_)
    by_cases mine : row.1 = key <;> simp [mine]
  · refine congrArg _ (List.filter_congr fun row _ => ?_)
    by_cases mine : row.1 = containerId <;> simp [mine, same]

theorem rowsOf_filter_ne :
    rowsOf (rows.filter (·.1 ≠ key)) containerId =
      if containerId = key then [] else rowsOf rows containerId := by
  have all := @rowsOf_filter Value rows key containerId fun _ => true
  simpa using all

theorem rowsOf_map (values : List Value) :
    rowsOf (values.map (key, ·)) containerId = if containerId = key then values else [] := by
  unfold rowsOf
  rw [List.filter_map, List.map_map]
  by_cases same : containerId = key
  · simp [same, Function.comp_def]
  · simp [same, Ne.symm same, Function.comp_def]

end Rows

/-! ## Memory and tables -/

namespace LootItemStorage

/-- The count of every row fits a byte. -/
def Fits (storage : LootItemStorage) : Prop :=
  ∀ row ∈ storage.tables.items, row.2.count < 256

/-- What a restart loads for the container is what is in memory. -/
structure AgreesAt (storage : LootItemStorage) (containerId : UInt32) : Prop where
  items : (find storage.lootItemStore containerId).lootItems.Perm
    (rowsOf storage.tables.items containerId)
  money : (find storage.lootItemStore containerId).money =
    (rowsOf storage.tables.money containerId).getLastD 0

def Agrees (storage : LootItemStorage) : Prop := ∀ containerId, storage.AgreesAt containerId

/-- No stack looks like the one that is taken. -/
def Unambiguous (storage : LootItemStorage) : StorageEvent → Prop
  | .removeItem containerId itemId count _ =>
      (find storage.lootItemStore containerId).lootItems.countP (·.isStack itemId count) ≤ 1
  | _ => True

variable {storage : LootItemStorage} {store : UInt32 → Option StoredLootContainer}
  {tables : LootTables} {key containerId : UInt32}

theorem find_update (container : Option StoredLootContainer) :
    find (Function.update store key container) containerId =
      if containerId = key then container.getD { lootItems := [], money := 0 }
      else find store containerId := by
  unfold find
  split_ifs with same
  · rw [same, Function.update_self]
  · rw [Function.update_of_ne same]

theorem find_of_some {container : StoredLootContainer} (stored : store key = some container) :
    find store key = container := by
  rw [find, stored, Option.getD_some]

theorem find_loadItems (rows : List (UInt32 × StoredLootItem)) :
    find (rows.foldl loadItem store) containerId =
      { find store containerId with
        lootItems := (find store containerId).lootItems ++
          (rowsOf rows containerId).map StoredLootItem.ofLootItem } := by
  induction rows generalizing store with
  | nil => simp [rowsOf]
  | cons row rest induction =>
      rw [List.foldl_cons, induction, rowsOf_cons, loadItem, find_update]
      by_cases same : containerId = row.1
      · simp [same]
      · simp [same, Ne.symm same]

theorem find_loadMoney (rows : List (UInt32 × UInt32)) :
    find (rows.foldl loadMoney store) containerId =
      { find store containerId with
        money := (rowsOf rows containerId).getLastD (find store containerId).money } := by
  induction rows generalizing store with
  | nil => rfl
  | cons row rest induction =>
      rw [List.foldl_cons, induction, rowsOf_cons, loadMoney, find_update]
      by_cases same : containerId = row.1
      · rw [if_pos same, if_pos same.symm, List.getLastD_cons, same]
        rfl
      · rw [if_neg same, if_neg (Ne.symm same)]

theorem ofLootItem_count_lt (item : StoredLootItem) : item.ofLootItem.count < 256 :=
  UInt32.mod_lt item.count (by decide)

theorem ofLootItem_of_lt {item : StoredLootItem} (small : item.count < 256) :
    item.ofLootItem = item := by
  unfold StoredLootItem.ofLootItem
  rw [UInt32.mod_eq_of_lt small]

theorem load_agrees (fits : (loadStorageFromDB tables).Fits) :
    (loadStorageFromDB tables).Agrees := by
  intro containerId
  have same : (rowsOf tables.items containerId).map StoredLootItem.ofLootItem =
      rowsOf tables.items containerId := by
    refine (List.map_congr_left fun item member => ?_).trans (List.map_id _)
    obtain ⟨row, isRow, rfl⟩ := List.mem_map.mp member
    exact ofLootItem_of_lt (fits row (List.mem_of_mem_filter isRow))
  have loaded : find (loadStorageFromDB tables).lootItemStore containerId =
      { lootItems := rowsOf tables.items containerId
        money := (rowsOf tables.money containerId).getLastD 0 } := by
    unfold loadStorageFromDB
    rw [find_loadMoney, find_loadItems, same]
    rfl
  exact ⟨by rw [loaded]; exact List.Perm.refl _, by rw [loaded]; rfl⟩

/-- One of the stacks which look alike leaves the memory, all of them leave the table. -/
theorem removeItem_perm_iff (container : StoredLootContainer) (itemId count : UInt32)
    (first : Nat) :
    ((container.removeItem itemId count first).lootItems.Perm
        (container.lootItems.filter fun item => !item.isStack itemId count)) ↔
      container.lootItems.countP (·.isStack itemId count) ≤ 1 := by
  have split := List.filter_append_perm (·.isStack itemId count) container.lootItems
  rw [List.countP_eq_length_filter]
  unfold StoredLootContainer.removeItem
  dsimp only
  generalize isFound : container.lootItems.filter (·.isStack itemId count) = found at split
  cases taken : found[first % found.length]? with
  | none =>
      have nothing : found = [] := by
        by_contra some
        rw [List.getElem?_eq_none_iff] at taken
        exact absurd (Nat.mod_lt first (List.length_pos_of_ne_nil some)) (Nat.not_lt.2 taken)
      rw [nothing, List.nil_append] at split
      rw [nothing]
      exact iff_of_true split.symm (Nat.zero_le 1)
  | some item =>
      have member : item ∈ found := List.mem_of_getElem? taken
      have inMemory : item ∈ container.lootItems :=
        List.mem_of_mem_filter (isFound ▸ member)
      have erased := List.perm_cons_erase inMemory
      dsimp only
      rw [← List.perm_cons item]
      constructor
      · intro same
        have lengths := (split.trans (erased.trans same)).length_eq
        simp only [List.length_append, List.length_cons] at lengths
        omega
      · intro one
        have only : found = [item] := by
          obtain ⟨first, isFirst⟩ := List.length_eq_one_iff.1
            (Nat.le_antisymm one (List.length_pos_of_mem member))
          rw [isFirst, List.mem_singleton] at member
          rw [isFirst, member]
        rw [only] at split
        exact erased.symm.trans split.symm

/-! ## A run -/

/-- What happens to one container. -/
theorem Agrees.update (agrees : storage.Agrees) {container : Option StoredLootContainer}
    (others : ∀ containerId, containerId ≠ key →
      rowsOf tables.items containerId = rowsOf storage.tables.items containerId ∧
        rowsOf tables.money containerId = rowsOf storage.tables.money containerId)
    (items : (container.getD { lootItems := [], money := 0 }).lootItems.Perm
      (rowsOf tables.items key))
    (money : (container.getD { lootItems := [], money := 0 }).money =
      (rowsOf tables.money key).getLastD 0) :
    Agrees { lootItemStore := Function.update storage.lootItemStore key container, tables } := by
  intro containerId
  by_cases same : containerId = key
  · constructor
    · rwa [find_update, if_pos same, same]
    · rwa [find_update, if_pos same, same]
  · have before := agrees containerId
    obtain ⟨itemRows, moneyRows⟩ := others containerId same
    constructor
    · rw [find_update, if_neg same, itemRows]
      exact before.items
    · rw [find_update, if_neg same, moneyRows]
      exact before.money

theorem Agrees.addNewStoredLoot (agrees : storage.Agrees) (loot : Loot) :
    (storage.addNewStoredLoot loot).Agrees := by
  unfold LootItemStorage.addNewStoredLoot
  split
  case isTrue => exact agrees
  case isFalse refused =>
      rw [Bool.or_eq_true, not_or, Bool.not_eq_true _, Option.not_isSome_iff_eq_none] at refused
      have noMoney := (agrees loot.containerId).money
      rw [find, refused.2] at noMoney
      refine agrees.update (fun containerId other => ?_) ?_ ?_
      · constructor
        · rw [rowsOf_append, rowsOf_filter_ne, if_neg other, rowsOf_map, if_neg other,
            List.append_nil]
        · split_ifs
          · rfl
          · rw [rowsOf_append, rowsOf_filter_ne, if_neg other, rowsOf_cons, if_neg (Ne.symm other)]
            exact List.append_nil _
      · rw [rowsOf_append, rowsOf_filter_ne, if_pos rfl, rowsOf_map, if_pos rfl]
        exact List.Perm.refl _
      · split_ifs with free
        · exact free.trans noMoney
        · rw [rowsOf_append, rowsOf_filter_ne, if_pos rfl, rowsOf_cons, if_pos rfl]
          rfl

theorem Agrees.removeMoney (agrees : storage.Agrees) (key : UInt32) :
    (storage.removeStoredMoneyForContainer key).Agrees := by
  unfold removeStoredMoneyForContainer
  split
  case h_1 => exact agrees
  case h_2 container stored =>
      have items := (agrees key).items
      rw [find_of_some stored] at items
      refine agrees.update (fun containerId other => ⟨rfl, ?_⟩) items ?_
      · rw [rowsOf_filter_ne, if_neg other]
      · rw [rowsOf_filter_ne, if_pos rfl]
        rfl

theorem Agrees.removeLoot (agrees : storage.Agrees) (key : UInt32) :
    (storage.removeStoredLootForContainer key).Agrees := by
  refine agrees.update (fun containerId other => ?_) ?_ ?_
  · exact ⟨rowsOf_filter_ne.trans (if_neg other), rowsOf_filter_ne.trans (if_neg other)⟩
  · rw [rowsOf_filter_ne, if_pos rfl]
    exact List.Perm.refl _
  · rw [rowsOf_filter_ne, if_pos rfl]
    rfl

theorem Agrees.removeItem_iff (agrees : storage.Agrees) (key itemId count : UInt32) (first : Nat) :
    (storage.removeStoredLootItemForContainer key itemId count first).Agrees ↔
      (find storage.lootItemStore key).lootItems.countP (·.isStack itemId count) ≤ 1 := by
  unfold removeStoredLootItemForContainer
  split
  case h_1 missing =>
      refine iff_of_true agrees ?_
      rw [find, missing]
      exact Nat.zero_le 1
  case h_2 container stored =>
      obtain ⟨items, money⟩ := agrees key
      rw [find_of_some stored] at items money ⊢
      rw [← removeItem_perm_iff container itemId count first]
      have left := items.filter fun item => !item.isStack itemId count
      constructor
      · intro after
        have same := (after key).items
        dsimp only at same
        rw [find_update, if_pos rfl, rowsOf_filter, if_pos rfl] at same
        exact same.trans left.symm
      · intro removed
        refine agrees.update (fun containerId other => ⟨?_, rfl⟩) ?_ ?_
        · rw [rowsOf_filter, if_neg other]
        · rw [rowsOf_filter, if_pos rfl]
          exact removed.trans left
        · rw [← money]
          unfold StoredLootContainer.removeItem
          dsimp only
          split <;> rfl

theorem Fits.subset {next : LootItemStorage} (fits : storage.Fits)
    (rows : next.tables.items ⊆ storage.tables.items) : next.Fits :=
  fun row member => fits row (rows member)

theorem Fits.step (storage : LootItemStorage) (event : StorageEvent) (fits : storage.Fits) :
    (storage.step event).Fits := by
  cases event with
  | addNewStoredLoot loot =>
      unfold LootItemStorage.step LootItemStorage.addNewStoredLoot
      dsimp only
      split
      case isTrue => exact fits
      case isFalse =>
          intro row member
          rcases List.mem_append.mp member with old | new
          · exact fits row (List.mem_of_mem_filter old)
          · obtain ⟨item, isStored, rfl⟩ := List.mem_map.mp new
            obtain ⟨generated, -, rfl⟩ := List.mem_map.mp isStored
            exact ofLootItem_count_lt generated.item
  | removeItem containerId itemId count first =>
      unfold LootItemStorage.step removeStoredLootItemForContainer
      dsimp only
      split
      · exact fits
      · exact fits.subset (List.filter_subset_self _)
  | removeMoney containerId =>
      unfold LootItemStorage.step removeStoredMoneyForContainer
      dsimp only
      split
      · exact fits
      · exact fits.subset (List.Subset.refl _)
  | removeLoot containerId => exact fits.subset (List.filter_subset_self _)
  | load => exact fits

theorem Agrees.step_iff (agrees : storage.Agrees) (fits : storage.Fits) (event : StorageEvent) :
    (storage.step event).Agrees ↔ Unambiguous storage event := by
  cases event with
  | addNewStoredLoot loot => exact iff_of_true (agrees.addNewStoredLoot loot) trivial
  | removeItem containerId itemId count first =>
      exact agrees.removeItem_iff containerId itemId count first
  | removeMoney containerId => exact iff_of_true (agrees.removeMoney containerId) trivial
  | removeLoot containerId => exact iff_of_true (agrees.removeLoot containerId) trivial
  | load => exact iff_of_true (load_agrees fits) trivial

/--
From any start with rows whose counts fit a byte, the memory is what the next
start would load, exactly as long as no stack is taken of which there are two.
-/
theorem agrees_iff_unambiguous {tables : LootTables}
    (fits : ∀ row ∈ tables.items, row.2.count < 256) (events : List StorageEvent) :
    Throughout step Agrees (loadStorageFromDB tables) events ↔
      EveryStep step Unambiguous (loadStorageFromDB tables) events :=
  @throughout_iff_everyStep _ _ step Unambiguous Fits Agrees Fits.step
    (fun _ event fits agrees => agrees.step_iff fits event) _ events fits (load_agrees fits)

/-- A container with two stacks of five. -/
def twoStacks : LootTables where
  items := List.replicate 2
    (7, { itemId := 25, count := 5, followRules := true, ffa := false, blocked := false,
          counted := false, underThreshold := true, needsQuest := false, randomPropertyId := 0,
          randomSuffix := 0 })
  money := [(7, 100)]

/-- The money can be taken before a restart, but one of the stacks cannot. -/
theorem agrees_iff_unambiguous_twoStacks :
    Throughout step Agrees (loadStorageFromDB twoStacks) [.removeMoney 7, .load] ∧
      ¬Throughout step Agrees (loadStorageFromDB twoStacks) [.removeItem 7 25 5 0] := by
  have fits : ∀ row ∈ twoStacks.items, row.2.count < 256 := by decide
  constructor
  · exact (agrees_iff_unambiguous fits _).mpr ⟨trivial, trivial, trivial⟩
  · intro agrees
    have unambiguous := ((agrees_iff_unambiguous fits _).mp agrees).1
    revert unambiguous
    unfold Unambiguous
    decide

end LootItemStorage

end RealmServer.Looting.ItemStorage
