import RealmServer.Globals.ItemIdGenerator

/-!
# Rebasing items

`ItemRebase` gives items lower ids.  New ids are taken from the cache of the
`ItemIdGenerator` one by one while `CALL RebaseItem` statements are queued; the
transaction is executed at the end, and then the old ids are freed.
-/

namespace RealmServer.Rebase

open Globals

/-- A row of `item_instance`, and whether `auctionhouse` refers to it. -/
structure ItemInstance where
  guid : Nat
  ownerGuid : Nat
  isAuctioned : Bool
deriving DecidableEq, Repr

/-- `item_instance` with its primary key. -/
structure ItemTable where
  rows : List ItemInstance
  unique : (rows.map ItemInstance.guid).Nodup

def ItemTable.guids (table : ItemTable) : List Nat := table.rows.map ItemInstance.guid

/-- A queued `CALL RebaseItem(item, newGuid, owner)`. -/
structure RebaseCall where
  item : Nat
  newGuid : Nat
  owner : Nat
deriving DecidableEq, Repr

/-- The procedure `RebaseItem` of the database. -/
abbrev RebaseItem := ItemTable → RebaseCall → ItemTable

/-- The row of the item gets the new guid, if that is free. -/
structure Rebases (rebaseItem : RebaseItem) : Prop where
  guids : ∀ (table : ItemTable) (call : RebaseCall), call.newGuid ∉ table.guids →
    ∀ id, id ∈ (rebaseItem table call).guids ↔
      id = call.newGuid ∧ call.item ∈ table.guids ∨ id ∈ table.guids ∧ id ≠ call.item

/-- How the database answers a transaction; any failed statement rolls it back. -/
inductive TransactionOutcome where
  | commit
  | rollback (errorCode : Int)
deriving DecidableEq, Repr

/-- The generator and the database; the cache has ids which no item has. -/
structure ItemStore where
  table : ItemTable
  generator : ItemIdGenerator
  cacheUnique : generator.cache.Nodup
  cacheFree : ∀ id ∈ generator.cache, id ≠ 0 ∧ id ∉ table.guids

/-- What a rebase leaves behind, the ids it passed to `Free`, and what `ExecuteTransaction`
returned. -/
structure Rebased where
  table : ItemTable
  generator : ItemIdGenerator
  freed : List Nat
  /-- Nothing if no transaction was executed. -/
  result : Option Int

section Processing

variable (heap : HeapOperations) (rebaseItem : RebaseItem) (outcome : TransactionOutcome)

/-- The generator, the queued statements, and the items which have one. -/
structure RebaseQueue where
  generator : ItemIdGenerator
  trans : List RebaseCall
  freed : List Nat

/-- `ProcessItem`, and what its callers do with its result. -/
def RebaseQueue.processItem (queue : RebaseQueue) (item owner : Nat) : RebaseQueue :=
  let (newGuid, generator) := queue.generator.generateLower heap item true
  if newGuid = 0 then { queue with generator }
  else
    { generator
      trans := queue.trans ++ [⟨item, newGuid, owner⟩]
      freed := queue.freed ++ [item] }

def queueItems (items : List (Nat × Nat)) (queue : RebaseQueue) : RebaseQueue :=
  items.foldl (fun queue pair => RebaseQueue.processItem heap queue pair.1 pair.2) queue

/-- `MySQLConnection::ExecuteTransaction`. -/
def executeTransaction (table : ItemTable) (trans : List RebaseCall) : Int × ItemTable :=
  if trans = [] then (-1, table)
  else
    match outcome with
    | .commit => (0, trans.foldl rebaseItem table)
    | .rollback errorCode => (errorCode, table)

/-- `Free` of a vector. -/
def freeAll (generator : ItemIdGenerator) (ids : List Nat) : ItemIdGenerator :=
  ids.foldl (fun generator id => generator.free heap id) generator

/-- `ProcessItems`; the pairs are items with their owners. -/
def processItems (store : ItemStore) (items : List (Nat × Nat)) : Rebased :=
  let queue := queueItems heap items ⟨store.generator, [], []⟩
  let (result, table) := executeTransaction rebaseItem outcome store.table queue.trans
  { table
    generator := freeAll heap queue.generator queue.freed
    freed := queue.freed
    result := some result }

/-- `SELECT ii.guid ... WHERE a.id IS NULL AND ii.owner_guid = ... ORDER BY ii.guid DESC`. -/
def characterItems (table : ItemTable) (guid : Nat) : List Nat :=
  ((table.rows.filter fun row => !row.isAuctioned && row.ownerGuid = guid).map
    ItemInstance.guid).insertionSort (· ≥ ·)

/-- `ProcessCharacter`; nothing is done without items or for a connected player. -/
def processCharacter (store : ItemStore) (guid : Nat) (isConnected : Bool) : Rebased :=
  let items := characterItems store.table guid
  if isConnected || items.isEmpty then
    { table := store.table, generator := store.generator, freed := [], result := none }
  else
    processItems heap rebaseItem outcome store (items.map fun item => (item, guid))

end Processing

/-- The freed ids are those which have lost their row, each once, and every id of the cache
before is in the database or in the cache again. -/
structure FreesExactly (store : ItemStore) (rebased : Rebased) : Prop where
  once : rebased.freed.Nodup
  freed : ∀ id, id ∈ rebased.freed ↔ id ∈ store.table.guids ∧ id ∉ rebased.table.guids
  kept : ∀ id ∈ store.generator.cache,
    id ∈ rebased.table.guids ∨ id ∈ rebased.generator.cache

/-- No item is above the first id of the cache. -/
def NothingLower (store : ItemStore) (items : List Nat) : Prop :=
  ∀ item ∈ items, ∀ front ∈ store.generator.cache.head?, item ≤ front

/-! ## The queue -/

section Queue

variable (heap : HeapOperations) {queue : RebaseQueue}

/-- What `ProcessItem` can do. -/
inductive Processes (queue : RebaseQueue) (item owner : Nat) : RebaseQueue → Prop where
  | nothing : (∀ front ∈ queue.generator.cache.head?, item ≤ front) →
      Processes queue item owner queue
  | queued (front : Nat) (cache rest : List Nat) : queue.generator.cache = front :: rest →
      front < item → cache.Perm rest →
      Processes queue item owner
        { generator := { queue.generator with cache }
          trans := queue.trans ++ [⟨item, front, owner⟩]
          freed := queue.freed ++ [item] }

theorem generateLower_cacheOnly (generator : ItemIdGenerator) (item : Nat) :
    (∀ front ∈ generator.cache.head?, item ≤ front) ∧
        generator.generateLower heap item true = (0, generator) ∨
      ∃ front cache rest, generator.cache = front :: rest ∧ front < item ∧ cache.Perm rest ∧
        generator.generateLower heap item true = (front, { generator with cache }) := by
  obtain ⟨initialMaxId, nextConsecutiveId, intervalSize, cache, cacheMaxId, currentScanId,
    filler⟩ := generator
  unfold ItemIdGenerator.generateLower
  cases cache with
  | nil => exact .inl ⟨nofun, rfl⟩
  | cons front rest =>
      dsimp only
      by_cases isLower : front < item
      · rw [if_pos isLower]
        exact .inr ⟨front, _, rest, rfl, isLower,
          ItemIdGenerator.popHeap_dropLast heap front rest, rfl⟩
      · rw [if_neg isLower]
        refine .inl ⟨?_, rfl⟩
        rintro other ⟨⟩
        exact not_lt.mp isLower

theorem processItem_processes (positive : 0 ∉ queue.generator.cache) (item owner : Nat) :
    Processes queue item owner (queue.processItem heap item owner) := by
  unfold RebaseQueue.processItem
  rcases generateLower_cacheOnly heap queue.generator item with
    ⟨notLower, generates⟩ | ⟨front, cache, rest, isCache, isLower, same, generates⟩
  · rw [generates]
    exact .nothing notLower
  · have notZero : front ≠ 0 := by
      rintro rfl
      exact positive (isCache ▸ List.mem_cons_self)
    rw [generates]
    dsimp only
    rw [if_neg notZero]
    exact .queued front cache rest isCache isLower same

/-- The queue has taken the new ids from the cache, for some of the items. -/
structure Queued (cache : List Nat) (items : List Nat) (queue : RebaseQueue) : Prop where
  taken : cache.Perm (queue.trans.map RebaseCall.newGuid ++ queue.generator.cache)
  freed : queue.freed = queue.trans.map RebaseCall.item
  items : queue.freed.Sublist items

theorem Queued.processItem {cache items : List Nat} (queued : Queued cache items queue)
    (positive : 0 ∉ cache) (item owner : Nat) :
    Queued cache (items ++ [item]) (queue.processItem heap item owner) := by
  have notZero : 0 ∉ queue.generator.cache := fun member =>
    positive (queued.taken.mem_iff.mpr (List.mem_append_right _ member))
  have processes := processItem_processes heap notZero item owner
  generalize queue.processItem heap item owner = next at *
  cases processes with
  | nothing => exact ⟨queued.taken, queued.freed,
      queued.items.trans (List.sublist_append_left _ _)⟩
  | queued front rest others isCache isLower same =>
      constructor
      · have taken := queued.taken
        rw [isCache] at taken
        rw [List.map_append, List.append_assoc]
        exact taken.trans ((same.symm.cons front).append_left _)
      · rw [queued.freed, List.map_append]
        rfl
      · exact queued.items.append (.refl [item])

theorem queueItems_queued {cache done : List Nat} (queued : Queued cache done queue)
    (positive : 0 ∉ cache) (items : List (Nat × Nat)) :
    Queued cache (done ++ items.map Prod.fst) (queueItems heap items queue) := by
  induction items generalizing queue done with
  | nil =>
      rw [List.map_nil, List.append_nil]
      exact queued
  | cons pair rest induction =>
      have next := induction (queued.processItem heap positive pair.1 pair.2)
      rw [List.append_assoc] at next
      exact next

theorem ItemStore.positive (store : ItemStore) : 0 ∉ store.generator.cache :=
  fun member => (store.cacheFree 0 member).1 rfl

theorem ItemStore.queued (store : ItemStore) (items : List (Nat × Nat)) :
    Queued store.generator.cache (items.map Prod.fst)
      (queueItems heap items ⟨store.generator, [], []⟩) := by
  have started : Queued store.generator.cache [] ⟨store.generator, [], []⟩ :=
    ⟨.refl _, rfl, .slnil⟩
  exact queueItems_queued heap started store.positive items

/-- Nothing is queued if nothing in the cache is lower, and only then. -/
theorem queueItems_trans_nil (positive : 0 ∉ queue.generator.cache)
    (items : List (Nat × Nat)) :
    (queueItems heap items queue).trans = [] ↔ queue.trans = [] ∧
      ∀ item ∈ items.map Prod.fst, ∀ front ∈ queue.generator.cache.head?, item ≤ front := by
  induction items generalizing queue with
  | nil => exact ⟨fun nothing => ⟨nothing, nofun⟩, And.left⟩
  | cons pair rest induction =>
      show (queueItems heap rest (queue.processItem heap pair.1 pair.2)).trans = [] ↔ _
      have processes := processItem_processes heap positive pair.1 pair.2
      generalize queue.processItem heap pair.1 pair.2 = next at *
      rw [List.map_cons, List.forall_mem_cons]
      cases processes with
      | nothing notLower =>
          rw [induction positive]
          exact ⟨fun ⟨empty, later⟩ => ⟨empty, notLower, later⟩,
            fun ⟨empty, _, later⟩ => ⟨empty, later⟩⟩
      | queued front cache others isCache isLower same =>
          have stillPositive : 0 ∉ cache := by
            intro member
            apply positive
            rw [isCache]
            exact List.mem_cons_of_mem _ (same.mem_iff.mp member)
          rw [induction stillPositive]
          constructor
          · rintro ⟨isNil, _⟩
            exact absurd isNil (List.append_ne_nil_of_right_ne_nil _ (List.cons_ne_nil _ _))
          · rintro ⟨_, notLower, _⟩
            rw [isCache] at notLower
            exact absurd (notLower front rfl) (not_le.mpr isLower)

theorem queueItems_nothing (positive : 0 ∉ queue.generator.cache) (items : List (Nat × Nat))
    (notLower : ∀ item ∈ items.map Prod.fst, ∀ front ∈ queue.generator.cache.head?,
      item ≤ front) :
    queueItems heap items queue = queue := by
  induction items with
  | nil => rfl
  | cons pair rest induction =>
      rw [List.map_cons, List.forall_mem_cons] at notLower
      show queueItems heap rest (queue.processItem heap pair.1 pair.2) = queue
      have processes := processItem_processes heap positive pair.1 pair.2
      generalize queue.processItem heap pair.1 pair.2 = next at *
      cases processes with
      | nothing _ => exact induction notLower.2
      | queued front cache others isCache isLower same =>
          have wrong := notLower.1
          rw [isCache] at wrong
          exact absurd (wrong front rfl) (not_le.mpr isLower)

end Queue

/-! ## The transaction -/

theorem mem_freeAll {heap : HeapOperations} {generator : ItemIdGenerator} {id : Nat}
    (member : id ∈ generator.cache) (ids : List Nat) :
    id ∈ (freeAll heap generator ids).cache := by
  induction ids generalizing generator with
  | nil => exact member
  | cons freed rest induction =>
      apply induction
      unfold ItemIdGenerator.free
      dsimp only
      split_ifs
      · exact member
      · exact (heap.pushHeap_perm _).mem_iff.mpr (List.mem_append_left _ member)

/-- Where nothing fails, the old ids are gone and the new ones are there. -/
theorem mem_guids_foldl {rebaseItem : RebaseItem} (rebases : Rebases rebaseItem)
    {trans : List RebaseCall} {table : ItemTable}
    (distinct : (trans.map RebaseCall.newGuid).Nodup)
    (isNew : ∀ id ∈ trans.map RebaseCall.newGuid, id ∉ table.guids)
    (once : (trans.map RebaseCall.item).Nodup)
    (known : ∀ id ∈ trans.map RebaseCall.item, id ∈ table.guids) (id : Nat) :
    id ∈ (trans.foldl rebaseItem table).guids ↔
      id ∈ trans.map RebaseCall.newGuid ∨
        id ∈ table.guids ∧ id ∉ trans.map RebaseCall.item := by
  induction trans generalizing table with
  | nil => simp
  | cons call rest induction =>
      rw [List.map_cons, List.nodup_cons] at distinct once
      rw [List.map_cons, List.forall_mem_cons] at isNew known
      have renamed := rebases.guids table call isNew.1
      have stillNew : ∀ id ∈ rest.map RebaseCall.newGuid, id ∉ (rebaseItem table call).guids := by
        intro id member inTable
        rcases (renamed id).mp inTable with ⟨rfl, _⟩ | ⟨old, _⟩
        · exact distinct.1 member
        · exact isNew.2 id member old
      have stillKnown : ∀ id ∈ rest.map RebaseCall.item, id ∈ (rebaseItem table call).guids := by
        intro id member
        refine (renamed id).mpr (.inr ⟨known.2 id member, ?_⟩)
        rintro rfl
        exact once.1 member
      have notLater : call.newGuid ∉ rest.map RebaseCall.item := fun member =>
        isNew.1 (known.2 _ member)
      rw [List.foldl_cons, induction distinct.2 stillNew once.2 stillKnown, renamed,
        List.map_cons, List.map_cons, List.mem_cons, List.mem_cons]
      constructor
      · rintro (later | ⟨⟨rfl, _⟩ | ⟨old, different⟩, kept⟩)
        · exact .inl (.inr later)
        · exact .inl (.inl rfl)
        · exact .inr ⟨old, not_or.mpr ⟨different, kept⟩⟩
      · rintro ((rfl | later) | ⟨old, kept⟩)
        · exact .inr ⟨.inl ⟨rfl, known.1⟩, notLater⟩
        · exact .inl later
        · rw [not_or] at kept
          exact .inr ⟨.inr ⟨old, kept.1⟩, kept.2⟩

variable {heap : HeapOperations} {rebaseItem : RebaseItem}

/-- The items are rows, each listed once. -/
structure ItemsOf (table : ItemTable) (items : List Nat) : Prop where
  once : items.Nodup
  known : ∀ item ∈ items, item ∈ table.guids

theorem processItems_commit (rebases : Rebases rebaseItem) (store : ItemStore)
    {items : List (Nat × Nat)} (areItems : ItemsOf store.table (items.map Prod.fst)) :
    FreesExactly store (processItems heap rebaseItem .commit store items) := by
  have queued := store.queued heap items
  unfold processItems
  dsimp only
  generalize queueItems heap items ⟨store.generator, [], []⟩ = queue at *
  have once : (queue.trans.map RebaseCall.item).Nodup := by
    rw [← queued.freed]
    exact areItems.once.sublist queued.items
  have known : ∀ id ∈ queue.trans.map RebaseCall.item, id ∈ store.table.guids := by
    rw [← queued.freed]
    exact fun id member => areItems.known id (queued.items.subset member)
  have taken : ∀ id ∈ queue.trans.map RebaseCall.newGuid, id ∈ store.generator.cache :=
    fun id member => queued.taken.mem_iff.mpr (List.mem_append_left _ member)
  have isNew : ∀ id ∈ queue.trans.map RebaseCall.newGuid, id ∉ store.table.guids :=
    fun id member => (store.cacheFree id (taken id member)).2
  have distinct : (queue.trans.map RebaseCall.newGuid).Nodup :=
    (List.nodup_append.mp (queued.taken.nodup_iff.mp store.cacheUnique)).1
  have committed : (executeTransaction rebaseItem .commit store.table queue.trans).2 =
      queue.trans.foldl rebaseItem store.table := by
    unfold executeTransaction
    split_ifs with nothing
    · rw [nothing]
      rfl
    · rfl
  have guids := mem_guids_foldl rebases distinct isNew once known
  rw [← committed] at guids
  constructor
  · dsimp only
    rw [queued.freed]
    exact once
  · intro id
    dsimp only
    rw [guids, queued.freed]
    constructor
    · intro member
      refine ⟨known id member, ?_⟩
      rintro (new | ⟨_, kept⟩)
      · exact isNew id new (known id member)
      · exact kept member
    · rintro ⟨old, gone⟩
      by_contra kept
      exact gone (.inr ⟨old, kept⟩)
  · intro id member
    dsimp only
    rw [guids]
    rcases List.mem_append.mp (queued.taken.mem_iff.mp member) with new | left
    · exact .inl (.inl new)
    · exact .inr (mem_freeAll left _)

theorem processItems_nothing (store : ItemStore) (outcome : TransactionOutcome)
    {items : List (Nat × Nat)} (notLower : NothingLower store (items.map Prod.fst)) :
    processItems heap rebaseItem outcome store items =
      { table := store.table, generator := store.generator, freed := [], result := some (-1) } := by
  have nothing : queueItems heap items ⟨store.generator, [], []⟩ = ⟨store.generator, [], []⟩ :=
    queueItems_nothing heap store.positive items notLower
  unfold processItems
  rw [nothing]
  rfl

/-- Nothing to free, and nothing taken from the cache. -/
theorem freesExactly_same (store : ItemStore) (result : Option Int) :
    FreesExactly store
      { table := store.table, generator := store.generator, freed := [], result } where
  once := .nil
  freed id := by
    constructor
    · nofun
    · rintro ⟨old, gone⟩
      exact absurd old gone
  kept id member := .inr member

theorem processItems_rollback (store : ItemStore) (errorCode : Int) {items : List (Nat × Nat)}
    (areItems : ItemsOf store.table (items.map Prod.fst))
    (exact : FreesExactly store
      (processItems heap rebaseItem (.rollback errorCode) store items)) :
    NothingLower store (items.map Prod.fst) := by
  have queued := store.queued heap items
  have nothing : (queueItems heap items ⟨store.generator, [], []⟩).trans = [] ↔ [] = [] ∧
      NothingLower store (items.map Prod.fst) := queueItems_trans_nil heap store.positive items
  have freed := exact.freed
  unfold processItems at freed
  dsimp only at freed
  generalize queueItems heap items ⟨store.generator, [], []⟩ = queue at *
  by_cases isNil : queue.trans = []
  · exact (nothing.mp isNil).2
  · exfalso
    obtain ⟨call, isCall⟩ := List.exists_mem_of_ne_nil _ isNil
    have isFreed : call.item ∈ queue.freed := by
      rw [queued.freed]
      exact List.mem_map_of_mem isCall
    have gone := ((freed call.item).mp isFreed).2
    unfold executeTransaction at gone
    rw [if_neg isNil] at gone
    exact gone (areItems.known _ (queued.items.subset isFreed))

theorem processItems_freesExactly_iff (heap : HeapOperations)
    (rebases : Rebases rebaseItem) (store : ItemStore) (outcome : TransactionOutcome)
    {items : List (Nat × Nat)}
    (areItems : ItemsOf store.table (items.map Prod.fst)) :
    FreesExactly store (processItems heap rebaseItem outcome store items) ↔
      outcome = .commit ∨ NothingLower store (items.map Prod.fst) := by
  constructor
  · intro exact
    cases outcome with
    | commit => exact .inl rfl
    | rollback errorCode => exact .inr (processItems_rollback store errorCode areItems exact)
  · rintro (rfl | notLower)
    · exact processItems_commit rebases store areItems
    · rw [processItems_nothing store outcome notLower]
      exact freesExactly_same store _

theorem characterItems_itemsOf (table : ItemTable) (guid : Nat) :
    ItemsOf table (characterItems table guid) := by
  have same := List.perm_insertionSort (· ≥ ·)
    ((table.rows.filter fun row => !row.isAuctioned && row.ownerGuid = guid).map
      ItemInstance.guid)
  have rows : ((table.rows.filter fun row => !row.isAuctioned && row.ownerGuid = guid).map
      ItemInstance.guid).Sublist table.guids := List.filter_sublist.map _
  constructor
  · exact same.nodup_iff.mpr (table.unique.sublist rows)
  · exact fun item member => rows.subset (same.mem_iff.mp member)

/-- A rebase frees exactly the ids without a row unless its transaction is rolled back
with something in it. -/
theorem rebase_freesExactly_iff (heap : HeapOperations) (rebaseItem : RebaseItem)
    (rebases : Rebases rebaseItem) (store : ItemStore) (outcome : TransactionOutcome) :
    (∀ items : List (Nat × Nat), ItemsOf store.table (items.map Prod.fst) →
      (FreesExactly store (processItems heap rebaseItem outcome store items) ↔
        outcome = .commit ∨ NothingLower store (items.map Prod.fst))) ∧
    ∀ guid isConnected,
      FreesExactly store (processCharacter heap rebaseItem outcome store guid isConnected) ↔
        outcome = .commit ∨ isConnected = true ∨
          NothingLower store (characterItems store.table guid) := by
  refine ⟨fun items areItems =>
    processItems_freesExactly_iff heap rebases store outcome areItems, ?_⟩
  intro guid isConnected
  have areItems := characterItems_itemsOf store.table guid
  unfold processCharacter
  dsimp only
  generalize characterItems store.table guid = items at *
  cases isConnected with
  | true => exact iff_of_true (freesExactly_same store none) (.inr (.inl rfl))
  | false =>
      cases items with
      | nil => exact iff_of_true (freesExactly_same store none) (.inr (.inr nofun))
      | cons item rest =>
          have firsts : ((item :: rest).map fun item => (item, guid)).map Prod.fst =
              item :: rest := by
            rw [List.map_map]
            exact List.map_id _
          have processed := processItems_freesExactly_iff heap rebases store outcome
            (firsts.symm ▸ areItems)
          rw [firsts] at processed
          simpa using processed

section TwoItems

/-- A procedure which only changes the row of the item. -/
def renameItem : RebaseItem := fun table call =>
  if taken : call.newGuid ∈ table.guids then table
  else
    { rows := table.rows.map fun row =>
        if row.guid = call.item then { row with guid := call.newGuid } else row
      unique := by
        have guids : (table.rows.map fun row =>
            if row.guid = call.item then { row with guid := call.newGuid } else row).map
              ItemInstance.guid =
            table.guids.map fun guid => if guid = call.item then call.newGuid else guid := by
          unfold ItemTable.guids
          rw [List.map_map, List.map_map]
          apply List.map_congr_left
          intro row _
          show (if row.guid = call.item then _ else row).guid = ite _ _ _
          split_ifs
          · rfl
          · rfl
        rw [guids]
        apply List.Nodup.map_on _ table.unique
        intro first isFirst second isSecond same
        split_ifs at same with isItem isOther isOther
        · rw [isItem, isOther]
        · exact absurd (same ▸ isSecond) taken
        · exact absurd (same ▸ isFirst) taken
        · exact same }

theorem renameItem_rebases : Rebases renameItem where
  guids table call isNew id := by
    unfold renameItem
    rw [dif_neg isNew]
    unfold ItemTable.guids
    simp only [List.map_map, List.mem_map, Function.comp_apply]
    constructor
    · rintro ⟨row, isRow, rfl⟩
      split_ifs with isItem
      · exact .inl ⟨rfl, row, isRow, isItem⟩
      · exact .inr ⟨⟨row, isRow, rfl⟩, isItem⟩
    · rintro (⟨rfl, row, isRow, isItem⟩ | ⟨⟨row, isRow, rfl⟩, notItem⟩)
      · refine ⟨row, isRow, ?_⟩
        rw [if_pos isItem]
      · refine ⟨row, isRow, ?_⟩
        rw [if_neg notItem]

/-- Items 5 and 9 of character 7, and the free ids 2 and 3. -/
def twoItems : ItemStore where
  table := ⟨[⟨5, 7, false⟩, ⟨6, 8, false⟩, ⟨9, 7, false⟩], by decide⟩
  generator :=
    { initialMaxId := 9
      nextConsecutiveId := 10
      intervalSize := 100
      cache := [2, 3]
      cacheMaxId := 9
      currentScanId := 10
      filler := .stopped }
  cacheUnique := by decide
  cacheFree := by decide

theorem rebase_freesExactly_iff_twoItems :
    FreesExactly twoItems (processCharacter sortedHeap renameItem .commit twoItems 7 false) :=
  ((rebase_freesExactly_iff sortedHeap renameItem renameItem_rebases twoItems .commit).2 7
    false).mpr (.inl rfl)

/-- The transaction of items 9 and 5 is rolled back by a deadlock: their ids are freed all the
same, and the ids 2 and 3 are lost. -/
theorem processCharacter_deadlock :
    ¬FreesExactly twoItems
      (processCharacter sortedHeap renameItem (.rollback 1213) twoItems 7 false) := by
  intro exact
  have freed := (exact.freed 5).mp (by decide)
  exact absurd freed (by decide)

end TwoItems

end RealmServer.Rebase
