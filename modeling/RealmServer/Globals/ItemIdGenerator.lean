import RealmServer.Lib.Transition

/-!
# Ids of items

`ItemIdGenerator` hands out ids from a cache of free ones, or the next one after
all others.  A filler thread scans the database for gaps: it queries the used
ids of an interval and later, under the lock, appends the gaps to the cache.
Ids come back through `Free` after the deletion of their row was committed.
-/

namespace RealmServer.Globals

open Transition

/-- `std::push_heap` and `std::pop_heap`, of which only the contents matter here.  The empty range,
to which `append` may come, is outside the precondition of `std::push_heap`; it is taken to be
left empty. -/
structure HeapOperations where
  pushHeap : List Nat → List Nat
  popHeap : List Nat → List Nat
  pushHeap_perm : ∀ elements, (pushHeap elements).Perm elements
  /-- The front goes to the back. -/
  popHeap_perm : ∀ front rest, ∃ kept, popHeap (front :: rest) = kept ++ [front] ∧ kept.Perm rest

def maxId : Nat := 0xFFFFFFFE

/-- The `guid` column of `item_instance`, a primary key. -/
structure ItemInstances where
  guids : List Nat
  unique : guids.Nodup
  bounded : ∀ guid ∈ guids, guid ≤ maxId

/-- Where the filler thread stands. -/
inductive CacheFiller where
  | idle
  /-- The gaps of an interval are known but not in the cache. -/
  | loaded (free : List Nat)
  /-- Nothing was found in the last interval. -/
  | finished
  | stopped
deriving DecidableEq, Repr

structure ItemIdGenerator where
  initialMaxId : Nat
  nextConsecutiveId : Nat
  /-- The size of the scanned intervals, scaled with the fill factor. -/
  intervalSize : Nat
  cache : List Nat
  cacheMaxId : Nat
  currentScanId : Nat
  filler : CacheFiller
deriving DecidableEq, Repr

namespace ItemIdGenerator

variable (heap : HeapOperations)

/-- `Initialize`; without a cache any id may come back. -/
def initialized (database : ItemInstances) (configCapacity intervalSize : Nat) :
    ItemIdGenerator :=
  let initialMaxId := database.guids.foldr max 0
  let isCacheEnabled := 0 < min initialMaxId configCapacity
  { initialMaxId
    nextConsecutiveId := initialMaxId + 1
    intervalSize
    cache := []
    cacheMaxId := if isCacheEnabled then 0 else 2 ^ 32 - 1
    currentScanId := 1
    filler := if isCacheEnabled then .idle else .stopped }

/-- `Free`; ids above `cache_max_id_` are left to the scan. -/
def free (generator : ItemIdGenerator) (id : Nat) : ItemIdGenerator :=
  if generator.cacheMaxId < id then generator
  else { generator with cache := heap.pushHeap (generator.cache ++ [id]) }

/-- `GenerateLower` with its result, zero for none. -/
def generateLower (generator : ItemIdGenerator) (ref : Nat) (cacheOnly : Bool) :
    Nat × ItemIdGenerator :=
  match generator.cache with
  | [] =>
      if cacheOnly then (0, generator)
      else if generator.nextConsecutiveId < ref then
        (generator.nextConsecutiveId,
          { generator with nextConsecutiveId := generator.nextConsecutiveId + 1 })
      else (0, generator)
  | front :: rest =>
      if front < ref then
        (front, { generator with cache := (heap.popHeap (front :: rest)).dropLast })
      else (0, generator)

/-! ## The filler -/

/-- The gaps before used ids, and where the scan stands after them. -/
def gaps : Nat → List Nat → List Nat × Nat
  | currentScanId, [] => ([], currentScanId)
  | currentScanId, nextInUse :: rest =>
      let (later, scanId) := gaps (nextInUse + 1) rest
      (List.range' currentScanId (nextInUse - currentScanId) ++ later, scanId)

/-- The scan does not go beyond the ids which were there at the start. -/
def intervalEnd (generator : ItemIdGenerator) : Nat :=
  min generator.initialMaxId ((generator.currentScanId + generator.intervalSize) % 2 ^ 32)

/-- `SELECT guid ... WHERE guid BETWEEN ... ORDER BY guid ASC`. -/
def usedIn (rows : List Nat) (first last : Nat) : List Nat :=
  (rows.filter fun guid => first ≤ guid && guid ≤ last).insertionSort (· ≤ ·)

/-- `load_and_insert` up to the lock. -/
def query (generator : ItemIdGenerator) (rows : List Nat) : ItemIdGenerator :=
  match generator.filler with
  | .idle =>
      let last := generator.intervalEnd
      let (between, scanId) :=
        gaps generator.currentScanId (usedIn rows generator.currentScanId last)
      let free := between ++ List.range' scanId (last + 1 - scanId)
      { generator with
        currentScanId := max scanId (last + 1)
        filler :=
          if free ≠ [] then .loaded free
          else if last < generator.initialMaxId then .idle
          else .finished }
  | _ => generator

/-- The loop of `push_heap` over the new elements; it never includes the last one. -/
def pushPrefixes : List Nat → Nat → Nat → List Nat
  | cache, _, 0 => cache
  | cache, length, more + 1 =>
      pushPrefixes (heap.pushHeap (cache.take length) ++ cache.drop length) (length + 1) more

/-- `load_and_insert` under the lock. -/
def append (generator : ItemIdGenerator) : ItemIdGenerator :=
  match generator.filler with
  | .loaded free =>
      { generator with
        cache := pushPrefixes heap (generator.cache ++ free) generator.cache.length free.length
        cacheMaxId := generator.currentScanId - 1
        filler := .idle }
  | _ => generator

/-- "We cannot load more ids from the db, so allow any id in the cache." -/
def finish (generator : ItemIdGenerator) : ItemIdGenerator :=
  match generator.filler with
  | .finished => { generator with cacheMaxId := 2 ^ 32 - 1, filler := .stopped }
  | _ => generator

end ItemIdGenerator

/-- The generator, the database, and who holds which id. -/
structure ItemIds where
  generator : ItemIdGenerator
  /-- Issued ids without a row. -/
  unsaved : List Nat
  rows : List Nat
  /-- Ids whose rows were deleted and which were not yet freed. -/
  deleted : List Nat
deriving DecidableEq, Repr

inductive ItemIdEvent where
  | generateLower (ref : UInt32) (cacheOnly : Bool)
  | insertRow (id : Nat)
  | commitDelete (id : Nat)
  | free (id : Nat)
  | query
  | append
  | finish

namespace ItemIds

variable (heap : HeapOperations)

def start (database : ItemInstances) (configCapacity intervalSize : Nat) : ItemIds where
  generator := .initialized database configCapacity intervalSize
  unsaved := []
  rows := database.guids
  deleted := []

/-- An id which was issued and not yet freed. -/
def Live (ids : ItemIds) (id : Nat) : Prop :=
  id ∈ ids.unsaved ∨ id ∈ ids.rows ∨ id ∈ ids.deleted

def step (ids : ItemIds) : ItemIdEvent → ItemIds
  | .generateLower ref cacheOnly =>
      let (id, generator) := ids.generator.generateLower heap ref.toNat cacheOnly
      { ids with
        generator
        unsaved := if id = 0 then ids.unsaved else id :: ids.unsaved }
  | .insertRow id =>
      if id ∈ ids.unsaved then
        { ids with
          unsaved := ids.unsaved.erase id
          -- a second row with one guid violates the primary key
          rows := if id ∈ ids.rows then ids.rows else id :: ids.rows }
      else ids
  | .commitDelete id =>
      if id ∈ ids.rows then
        { ids with rows := ids.rows.erase id, deleted := id :: ids.deleted }
      else ids
  | .free id =>
      if id ∈ ids.deleted then
        { ids with
          generator := ids.generator.free heap id
          deleted := ids.deleted.erase id }
      else ids
  | .query => { ids with generator := ids.generator.query ids.rows }
  | .append => { ids with generator := ids.generator.append heap }
  | .finish => { ids with generator := ids.generator.finish }

end ItemIds

/-- The cache has no id twice and no live one, and no live id is issued again. -/
structure NoDuplicates (heap : HeapOperations) (ids : ItemIds) : Prop where
  cacheUnique : ids.generator.cache.Nodup
  cacheFree : ∀ id ∈ ids.generator.cache, ¬ids.Live id
  issuedOnce : (ids.unsaved ++ ids.rows ++ ids.deleted).Nodup
  issuesFree : ∀ ref cacheOnly, (ids.generator.generateLower heap ref cacheOnly).1 ≠ 0 →
    ¬ids.Live (ids.generator.generateLower heap ref cacheOnly).1

/-- The filler appends no id which was deleted and waits to be freed. -/
def AppendsFree (ids : ItemIds) : ItemIdEvent → Prop
  | .append => ∀ free, ids.generator.filler = .loaded free → ∀ id ∈ free, id ∉ ids.deleted
  | _ => True

/-! ## The scan -/

namespace ItemIdGenerator

theorem gaps_spec {used : List Nat} (sorted : used.Pairwise (· < ·)) {scanId : Nat}
    (above : ∀ id ∈ used, scanId ≤ id) :
    (gaps scanId used).1.Nodup ∧
      (∀ id ∈ (gaps scanId used).1, scanId ≤ id ∧ id < (gaps scanId used).2 ∧ id ∉ used) ∧
      scanId ≤ (gaps scanId used).2 ∧ ∀ id ∈ used, id < (gaps scanId used).2 := by
  induction used generalizing scanId with
  | nil => simp [gaps]
  | cons nextInUse rest induction =>
      rw [List.pairwise_cons] at sorted
      have first : scanId ≤ nextInUse := above nextInUse List.mem_cons_self
      have above : ∀ id ∈ rest, nextInUse + 1 ≤ id := sorted.1
      obtain ⟨unique, free, later, passed⟩ := induction sorted.2 above
      unfold gaps
      dsimp only
      refine ⟨?_, ?_, by omega, ?_⟩
      · rw [List.nodup_append]
        refine ⟨List.nodup_range', unique, ?_⟩
        rintro id before _ after rfl
        have isGap := List.mem_range'_1.mp before
        have isLater := (free id after).1
        omega
      · intro id member
        rcases List.mem_append.mp member with before | after
        · have isGap := List.mem_range'_1.mp before
          refine ⟨isGap.1, by omega, ?_⟩
          rw [List.mem_cons, not_or]
          refine ⟨by omega, ?_⟩
          intro inUse
          have above := sorted.1 id inUse
          omega
        · obtain ⟨isLater, below, notUsed⟩ := free id after
          refine ⟨by omega, below, ?_⟩
          rw [List.mem_cons, not_or]
          exact ⟨by omega, notUsed⟩
      · intro id member
        rcases List.mem_cons.mp member with rfl | inUse
        · omega
        · exact passed id inUse

theorem gaps_below {used : List Nat} {last : Nat} (within : ∀ id ∈ used, id ≤ last)
    (scanId : Nat) : ∀ id ∈ (gaps scanId used).1, id ≤ last := by
  induction used generalizing scanId with
  | nil => simp [gaps]
  | cons nextInUse rest induction =>
      intro id member
      unfold gaps at member
      dsimp only at member
      rcases List.mem_append.mp member with before | after
      · have isGap := List.mem_range'_1.mp before
        have inUse := within nextInUse List.mem_cons_self
        omega
      · exact induction (fun id later => within id (List.mem_cons_of_mem _ later)) _ id after

theorem mem_usedIn {rows : List Nat} {first last id : Nat} :
    id ∈ usedIn rows first last ↔ id ∈ rows ∧ first ≤ id ∧ id ≤ last := by
  simp [usedIn]

theorem usedIn_sorted {rows : List Nat} (unique : rows.Nodup) (first last : Nat) :
    (usedIn rows first last).Pairwise (· < ·) := by
  have ordered : (usedIn rows first last).Pairwise (· ≤ ·) :=
    List.pairwise_insertionSort (· ≤ ·) _
  have distinct : (usedIn rows first last).Nodup :=
    (List.perm_insertionSort (· ≤ ·) _).nodup_iff.mpr (unique.filter _)
  exact (ordered.and distinct).imp fun both => Nat.lt_of_le_of_ne both.1 both.2

/-- What the query finds: ids of the interval which have no row. -/
structure FoundFree (generator : ItemIdGenerator) (rows : List Nat) (free : List Nat)
    (scanId : Nat) : Prop where
  unique : free.Nodup
  scanned : ∀ id ∈ free, generator.currentScanId ≤ id ∧ id < scanId
  initial : ∀ id ∈ free, id ≤ generator.initialMaxId
  noRow : ∀ id ∈ free, id ∉ rows

/-- What a query can do. -/
inductive Queries (generator : ItemIdGenerator) (rows : List Nat) :
    ItemIdGenerator → Prop where
  | busy : generator.filler ≠ .idle → Queries generator rows generator
  | found (scanId : Nat) (free : List Nat) : generator.filler = .idle →
      generator.currentScanId ≤ scanId → FoundFree generator rows free scanId →
      Queries generator rows
        { generator with currentScanId := scanId, filler := .loaded free }
  | nothing (scanId : Nat) (filler : CacheFiller) : generator.filler = .idle →
      generator.currentScanId ≤ scanId → (∀ free, filler ≠ .loaded free) →
      Queries generator rows { generator with currentScanId := scanId, filler }

theorem query_queries (generator : ItemIdGenerator) {rows : List Nat}
    (unique : rows.Nodup) : Queries generator rows (generator.query rows) := by
  by_cases idle : generator.filler = .idle
  case neg =>
    have same : generator.query rows = generator := by
      unfold query
      split
      · contradiction
      · rfl
    rw [same]
    exact .busy idle
  unfold query
  rw [idle]
  dsimp only
  generalize lastIs : generator.intervalEnd = last
  have lastInitial : last ≤ generator.initialMaxId := by
    rw [← lastIs]
    exact Nat.min_le_left _ _
  have sorted := usedIn_sorted unique generator.currentScanId last
  have within : ∀ id ∈ usedIn rows generator.currentScanId last, id ≤ last :=
    fun id inUse => (mem_usedIn.mp inUse).2.2
  have below := gaps_below within generator.currentScanId
  obtain ⟨distinct, isFree, started, passed⟩ := gaps_spec sorted fun id inUse =>
    (mem_usedIn.mp inUse).2.1
  generalize gapsAre : gaps generator.currentScanId
    (usedIn rows generator.currentScanId last) = scan at *
  obtain ⟨between, scanId⟩ := scan
  dsimp only at distinct isFree started passed below ⊢
  have later : generator.currentScanId ≤ max scanId (last + 1) :=
    started.trans (Nat.le_max_left _ _)
  have lastGap : ∀ id, id ∈ List.range' scanId (last + 1 - scanId) ↔
      scanId ≤ id ∧ id ≤ last := by
    intro id
    rw [List.mem_range'_1]
    omega
  have foundFree : FoundFree generator rows
      (between ++ List.range' scanId (last + 1 - scanId)) (max scanId (last + 1)) := by
    constructor
    · rw [List.nodup_append]
      refine ⟨distinct, List.nodup_range', ?_⟩
      rintro id before _ after rfl
      have isBefore := (isFree id before).2.1
      have isAfter := (lastGap id).mp after
      omega
    · intro id member
      rcases List.mem_append.mp member with before | after
      · have isBefore := isFree id before
        exact ⟨isBefore.1, lt_max_of_lt_left isBefore.2.1⟩
      · have isAfter := (lastGap id).mp after
        exact ⟨started.trans isAfter.1, lt_max_of_lt_right (Nat.lt_succ_of_le isAfter.2)⟩
    · intro id member
      rcases List.mem_append.mp member with before | after
      · exact (below id before).trans lastInitial
      · exact ((lastGap id).mp after).2.trans lastInitial
    · intro id member inRow
      rcases List.mem_append.mp member with before | after
      · have isBefore := isFree id before
        exact isBefore.2.2 (mem_usedIn.mpr ⟨inRow, isBefore.1, below id before⟩)
      · have isAfter := (lastGap id).mp after
        have wasPassed := passed id
          (mem_usedIn.mpr ⟨inRow, started.trans isAfter.1, isAfter.2⟩)
        omega
  split_ifs
  · exact .found _ _ idle later foundFree
  · exact .nothing _ _ idle later nofun
  · exact .nothing _ _ idle later nofun

/-! ## The heap -/

variable (heap : HeapOperations)

theorem pushPrefixes_perm (cache : List Nat) (length more : Nat) :
    (pushPrefixes heap cache length more).Perm cache := by
  induction more generalizing cache length with
  | zero => exact .refl _
  | succ more induction =>
      refine (induction _ _).trans ?_
      conv_rhs => rw [← List.take_append_drop length cache]
      exact (heap.pushHeap_perm _).append_right _

theorem popHeap_dropLast (front : Nat) (rest : List Nat) :
    (heap.popHeap (front :: rest)).dropLast.Perm rest := by
  obtain ⟨kept, popped, same⟩ := heap.popHeap_perm front rest
  rw [popped, List.dropLast_concat]
  exact same

/-- What a call of `GenerateLower` can do. -/
inductive Generates (generator : ItemIdGenerator) : Nat × ItemIdGenerator → Prop where
  | nothing : Generates generator (0, generator)
  | next : generator.cache = [] →
      Generates generator (generator.nextConsecutiveId,
        { generator with nextConsecutiveId := generator.nextConsecutiveId + 1 })
  | cached (front : Nat) (cache rest : List Nat) : generator.cache = front :: rest →
      cache.Perm rest → Generates generator (front, { generator with cache })

theorem generateLower_generates (generator : ItemIdGenerator) (ref : Nat)
    (cacheOnly : Bool) : Generates generator (generator.generateLower heap ref cacheOnly) := by
  obtain ⟨initialMaxId, nextConsecutiveId, intervalSize, cache, cacheMaxId, currentScanId,
    filler⟩ := generator
  unfold generateLower
  cases cache with
  | nil =>
      dsimp only
      split_ifs
      · exact .nothing
      · exact .next rfl
      · exact .nothing
  | cons front rest =>
      dsimp only
      split_ifs
      · exact .cached front _ rest rfl (popHeap_dropLast heap front rest)
      · exact .nothing

end ItemIdGenerator

/-! ## How often an id is somewhere -/

namespace ItemIds

def times (ids : ItemIds) (id : Nat) : Nat :=
  ids.generator.cache.count id + ids.unsaved.count id + ids.rows.count id +
    ids.deleted.count id

theorem live_iff {ids : ItemIds} {id : Nat} :
    ids.Live id ↔ 0 < ids.unsaved.count id + ids.rows.count id + ids.deleted.count id := by
  unfold Live
  rw [← List.count_pos_iff, ← List.count_pos_iff, ← List.count_pos_iff]
  omega

/-- The scan stays ahead of the cache, and off everything which is in use. -/
structure Scanning (ids : ItemIds) : Prop where
  ahead : ids.generator.cacheMaxId < ids.generator.currentScanId
  cache : ∀ id ∈ ids.generator.cache, id ≤ ids.generator.cacheMaxId
  unsaved : ∀ id ∈ ids.unsaved,
    id ≤ ids.generator.cacheMaxId ∨ ids.generator.initialMaxId < id
  loadedUnique : ∀ free, ids.generator.filler = .loaded free → free.Nodup
  loaded : ∀ free, ids.generator.filler = .loaded free → ∀ id ∈ free,
    ids.generator.cacheMaxId < id ∧ id < ids.generator.currentScanId ∧
      id ≤ ids.generator.initialMaxId ∧ id ∉ ids.rows

/-- This holds even when an id is issued twice. -/
structure Tidy (ids : ItemIds) : Prop where
  rows : ids.rows.Nodup
  top : ids.generator.initialMaxId < ids.generator.nextConsecutiveId
  below : ∀ id, 0 < ids.times id → id < ids.generator.nextConsecutiveId
  scanning : ids.generator.filler ≠ .stopped → ids.Scanning

variable {heap : HeapOperations} {ids : ItemIds}

theorem noDuplicates_iff (tidy : ids.Tidy) :
    NoDuplicates heap ids ↔ ∀ id, ids.times id ≤ 1 := by
  constructor
  · intro holds id
    have cached := List.nodup_iff_count_le_one.mp holds.cacheUnique id
    have live := List.nodup_iff_count_le_one.mp holds.issuedOnce id
    rw [List.count_append, List.count_append] at live
    unfold times
    by_cases inCache : id ∈ ids.generator.cache
    · have notLive := holds.cacheFree id inCache
      rw [live_iff] at notLive
      omega
    · rw [List.count_eq_zero_of_not_mem inCache]
      omega
  · intro once
    have cacheFree : ∀ id ∈ ids.generator.cache, ¬ids.Live id := by
      intro id cached
      have count := List.count_pos_iff.mpr cached
      have atMost := once id
      rw [live_iff]
      unfold times at atMost
      omega
    constructor
    · rw [List.nodup_iff_count_le_one]
      intro id
      exact (by unfold times; omega : _ ≤ ids.times id).trans (once id)
    · exact cacheFree
    · rw [List.nodup_iff_count_le_one]
      intro id
      rw [List.count_append, List.count_append]
      exact (by unfold times; omega : _ ≤ ids.times id).trans (once id)
    · intro ref cacheOnly
      have generates := ids.generator.generateLower_generates heap ref cacheOnly
      generalize ids.generator.generateLower heap ref cacheOnly = generated at *
      intro issued
      cases generates with
      | nothing => exact absurd rfl issued
      | next =>
          intro live
          rw [live_iff] at live
          have known : 0 < ids.times ids.generator.nextConsecutiveId := by
            unfold times
            dsimp only at live
            omega
          exact absurd (tidy.below _ known) (Nat.lt_irrefl _)
      | cached front cache rest isCache =>
          apply cacheFree
          rw [isCache]
          exact List.mem_cons_self

/-! ## The steps -/

/-- Where no id is added, ids stay below the next one. -/
theorem Tidy.fewer (tidy : ids.Tidy) {next : ItemIds}
    (fewer : ∀ id, next.times id ≤ ids.times id) (rows : next.rows.Nodup)
    (initial : next.generator.initialMaxId = ids.generator.initialMaxId)
    (top : next.generator.nextConsecutiveId = ids.generator.nextConsecutiveId)
    (scanning : next.generator.filler ≠ .stopped → next.Scanning) : next.Tidy := by
  constructor
  · exact rows
  · rw [initial, top]
    exact tidy.top
  · intro id known
    rw [top]
    exact tidy.below id (known.trans_le (fewer id))
  · exact scanning

/-- An id which is moved from one list to another is there as often as before. -/
theorem count_moved {source : List Nat} {id : Nat} (member : id ∈ source)
    (target : List Nat) (other : Nat) :
    (source.erase id).count other + (id :: target).count other =
      source.count other + target.count other := by
  have same := (List.perm_cons_erase member).count_eq other
  rw [List.count_cons] at same ⊢
  omega

theorem times_insertRow (id other : Nat) :
    (step heap ids (.insertRow id)).times other ≤ ids.times other := by
  unfold step
  dsimp only
  split_ifs with unsaved inRows
  · have fewer : (ids.unsaved.erase id).count other ≤ ids.unsaved.count other :=
      List.erase_sublist.count_le other
    unfold times
    dsimp only
    omega
  · have moved := count_moved unsaved ids.rows other
    unfold times
    dsimp only
    omega
  · exact le_rfl

theorem Tidy.insertRow (tidy : ids.Tidy) (id : Nat) :
    (step heap ids (.insertRow id)).Tidy := by
  have fewer : ∀ other, (step heap ids (.insertRow id)).times other ≤ ids.times other :=
    times_insertRow id
  unfold step at fewer ⊢
  dsimp only at fewer ⊢
  split_ifs at fewer ⊢ with unsaved inRows
  · apply tidy.fewer fewer tidy.rows rfl rfl
    intro scans
    have scanning := tidy.scanning scans
    exact { scanning with
      unsaved := fun other member => scanning.unsaved other (List.mem_of_mem_erase member) }
  · apply tidy.fewer fewer (List.nodup_cons.mpr ⟨inRows, tidy.rows⟩) rfl rfl
    intro scans
    have scanning := tidy.scanning scans
    exact { scanning with
      unsaved := fun other member => scanning.unsaved other (List.mem_of_mem_erase member)
      loaded := by
        intro free isLoaded other found
        obtain ⟨above, below, initial, noRow⟩ :=
          scanning.loaded free isLoaded other found
        refine ⟨above, below, initial, ?_⟩
        rw [List.mem_cons, not_or]
        refine ⟨?_, noRow⟩
        -- an id of the cache's range, or a new one, is not scanned any more
        rintro rfl
        have issued := scanning.unsaved other unsaved
        omega }
  · exact tidy

theorem times_commitDelete (id other : Nat) :
    (step heap ids (.commitDelete id)).times other = ids.times other := by
  unfold step
  dsimp only
  split_ifs with inRows
  · have moved := count_moved inRows ids.deleted other
    unfold times
    dsimp only
    omega
  · rfl

theorem Tidy.commitDelete (tidy : ids.Tidy) (id : Nat) :
    (step heap ids (.commitDelete id)).Tidy := by
  have same : ∀ other, (step heap ids (.commitDelete id)).times other = ids.times other :=
    times_commitDelete id
  unfold step at same ⊢
  dsimp only at same ⊢
  split_ifs at same ⊢ with inRows
  · apply tidy.fewer (fun other => (same other).le) (tidy.rows.erase id) rfl rfl
    intro scans
    have scanning := tidy.scanning scans
    exact { scanning with
      loaded := by
        intro free isLoaded other found
        obtain ⟨above, below, initial, noRow⟩ :=
          scanning.loaded free isLoaded other found
        exact ⟨above, below, initial, fun later => noRow (List.mem_of_mem_erase later)⟩ }
  · exact tidy

theorem times_free (id other : Nat) :
    (step heap ids (.free id)).times other ≤ ids.times other := by
  unfold step
  dsimp only
  split_ifs with isDeleted
  · have moved := count_moved isDeleted ids.generator.cache other
    have fewer : (ids.deleted.erase id).count other ≤ ids.deleted.count other :=
      List.erase_sublist.count_le other
    unfold times ItemIdGenerator.free
    dsimp only
    split_ifs
    · omega
    · have pushed := (heap.pushHeap_perm (ids.generator.cache ++ [id])).count_eq other
      rw [List.count_append, List.count_singleton] at pushed
      rw [List.count_cons] at moved
      dsimp only
      omega
  · exact le_rfl

/-- An id which is dropped was above the cache; the scan will find it. -/
theorem Tidy.free (tidy : ids.Tidy) (id : Nat) : (step heap ids (.free id)).Tidy := by
  have fewer : ∀ other, (step heap ids (.free id)).times other ≤ ids.times other :=
    times_free id
  unfold step ItemIdGenerator.free at fewer ⊢
  dsimp only at fewer ⊢
  split_ifs at fewer ⊢ with isDeleted above
  · apply tidy.fewer fewer tidy.rows rfl rfl
    intro scans
    have scanning := tidy.scanning scans
    exact { scanning with }
  · apply tidy.fewer fewer tidy.rows rfl rfl
    intro scans
    have scanning := tidy.scanning scans
    exact { scanning with
      cache := by
        intro other cached
        rcases List.mem_append.mp ((heap.pushHeap_perm _).mem_iff.mp cached) with old | new
        · exact scanning.cache other old
        · rw [List.mem_singleton.mp new]
          exact Nat.le_of_not_lt above }
  · exact tidy

/-- What `GenerateLower` takes from the cache is only moved. -/
theorem times_cached {front : Nat} {cache rest : List Nat}
    (isCache : ids.generator.cache = front :: rest) (same : cache.Perm rest) (other : Nat) :
    times
        { ids with
          generator := { ids.generator with cache }
          unsaved := if front = 0 then ids.unsaved else front :: ids.unsaved } other ≤
      ids.times other := by
  have left := same.count_eq other
  have issued : (if front = 0 then ids.unsaved else front :: ids.unsaved).count other ≤
      (front :: ids.unsaved).count other := by
    split_ifs
    · exact List.count_le_count_cons
    · exact le_rfl
  rw [List.count_cons] at issued
  unfold times
  dsimp only
  rw [isCache, List.count_cons]
  omega

/-- The next consecutive id is only added where it was nowhere. -/
theorem times_next (tidy : ids.Tidy) (other : Nat) :
    times
        { ids with
          generator :=
            { ids.generator with nextConsecutiveId := ids.generator.nextConsecutiveId + 1 }
          unsaved := ids.generator.nextConsecutiveId :: ids.unsaved } other =
      if other = ids.generator.nextConsecutiveId then 1 else ids.times other := by
  split_ifs with isNext
  · subst isNext
    have unknown : ids.times ids.generator.nextConsecutiveId = 0 := by
      by_contra known
      exact absurd (tidy.below _ (Nat.pos_of_ne_zero known)) (Nat.lt_irrefl _)
    unfold times at unknown ⊢
    dsimp only
    rw [List.count_cons_self]
    omega
  · unfold times
    dsimp only
    rw [List.count_cons_of_ne (Ne.symm isNext)]

theorem Tidy.next (tidy : ids.Tidy) :
    Tidy
      { ids with
        generator :=
          { ids.generator with nextConsecutiveId := ids.generator.nextConsecutiveId + 1 }
        unsaved := ids.generator.nextConsecutiveId :: ids.unsaved } := by
  constructor
  · exact tidy.rows
  · exact Nat.lt_succ_of_lt tidy.top
  · intro other known
    rw [times_next tidy] at known
    show other < ids.generator.nextConsecutiveId + 1
    split_ifs at known with isNext
    · omega
    · exact Nat.lt_succ_of_lt (tidy.below other known)
  · intro scans
    have scanning := tidy.scanning scans
    exact { scanning with
      unsaved := by
        intro other member
        rcases List.mem_cons.mp member with rfl | member
        · exact .inr tidy.top
        · exact scanning.unsaved other member }

theorem Tidy.cached (tidy : ids.Tidy) {front : Nat} {cache rest : List Nat}
    (isCache : ids.generator.cache = front :: rest) (same : cache.Perm rest) :
    Tidy
      { ids with
        generator := { ids.generator with cache }
        unsaved := if front = 0 then ids.unsaved else front :: ids.unsaved } := by
  apply tidy.fewer (times_cached isCache same) tidy.rows rfl rfl
  intro scans
  have scanning := tidy.scanning scans
  exact { scanning with
    cache := by
      intro other member
      apply scanning.cache
      rw [isCache]
      exact List.mem_cons_of_mem _ (same.mem_iff.mp member)
    unsaved := by
      intro other member
      by_cases isFront : other = front
      · subst isFront
        apply Or.inl
        apply scanning.cache
        rw [isCache]
        exact List.mem_cons_self
      · dsimp only at member
        split_ifs at member
        · exact scanning.unsaved other member
        · exact scanning.unsaved other (List.mem_of_ne_of_mem isFront member) }

theorem Tidy.generateLower (tidy : ids.Tidy) (ref : UInt32) (cacheOnly : Bool) :
    (step heap ids (.generateLower ref cacheOnly)).Tidy := by
  have generates := ids.generator.generateLower_generates heap ref.toNat cacheOnly
  unfold step
  dsimp only
  generalize ids.generator.generateLower heap ref.toNat cacheOnly = generated at *
  cases generates with
  | nothing => exact tidy
  | next noCache =>
      dsimp only
      rw [if_neg (Nat.ne_of_gt (Nat.zero_lt_of_lt tidy.top))]
      exact tidy.next
  | cached front cache rest isCache same => exact tidy.cached isCache same

theorem times_generateLower (tidy : ids.Tidy) {id : Nat} (once : ids.times id ≤ 1)
    (ref : UInt32) (cacheOnly : Bool) :
    (step heap ids (.generateLower ref cacheOnly)).times id ≤ 1 := by
  have generates := ids.generator.generateLower_generates heap ref.toNat cacheOnly
  unfold step
  dsimp only
  generalize ids.generator.generateLower heap ref.toNat cacheOnly = generated at *
  cases generates with
  | nothing => exact once
  | next noCache =>
      dsimp only
      rw [if_neg (Nat.ne_of_gt (Nat.zero_lt_of_lt tidy.top)), times_next tidy]
      split_ifs
      · exact le_rfl
      · exact once
  | cached front cache rest isCache same => exact (times_cached isCache same id).trans once

theorem Tidy.query (tidy : ids.Tidy) : (step heap ids .query).Tidy := by
  have queries := ids.generator.query_queries tidy.rows
  unfold step
  dsimp only
  generalize ids.generator.query ids.rows = queried at *
  cases queries with
  | busy notIdle => exact tidy
  | found scanId free idle later found =>
      refine tidy.fewer (fun id => le_rfl) tidy.rows rfl rfl ?_
      intro _
      have scanning := tidy.scanning (by rw [idle]; nofun)
      exact { scanning with
        ahead := scanning.ahead.trans_le later
        loadedUnique := by
          intro free isLoaded
          cases isLoaded
          exact found.unique
        loaded := by
          intro free isLoaded id member
          cases isLoaded
          have scanned := found.scanned id member
          exact ⟨scanning.ahead.trans_le scanned.1, scanned.2, found.initial id member,
            found.noRow id member⟩ }
  | nothing scanId filler idle later notLoaded =>
      refine tidy.fewer (fun id => le_rfl) tidy.rows rfl rfl ?_
      intro _
      have scanning := tidy.scanning (by rw [idle]; nofun)
      exact { scanning with
        ahead := scanning.ahead.trans_le later
        loadedUnique := fun free isLoaded => absurd isLoaded (notLoaded free)
        loaded := fun free isLoaded => absurd isLoaded (notLoaded free) }

theorem times_query (id : Nat) (unique : ids.rows.Nodup) :
    (step heap ids .query).times id = ids.times id := by
  have queries := ids.generator.query_queries unique
  unfold step
  dsimp only
  generalize ids.generator.query ids.rows = queried at *
  cases queries with
  | busy notIdle => rfl
  | found scanId free idle later found => rfl
  | nothing scanId filler idle later notLoaded => rfl

theorem times_finish (id : Nat) : (step heap ids .finish).times id = ids.times id := by
  unfold step ItemIdGenerator.finish
  dsimp only
  split
  · rfl
  · rfl

theorem Tidy.finish (tidy : ids.Tidy) : (step heap ids .finish).Tidy := by
  unfold step ItemIdGenerator.finish
  dsimp only
  split
  · refine tidy.fewer (fun id => le_rfl) tidy.rows rfl rfl ?_
    intro scans
    exact absurd rfl scans
  · exact tidy

/-! ## The append -/

theorem step_append (heap : HeapOperations) {free : List Nat}
    (isLoaded : ids.generator.filler = .loaded free) :
    ∃ cache, cache.Perm (ids.generator.cache ++ free) ∧
      step heap ids .append =
        { ids with
          generator :=
            { ids.generator with
              cache
              cacheMaxId := ids.generator.currentScanId - 1
              filler := .idle } } := by
  refine ⟨_, ItemIdGenerator.pushPrefixes_perm heap _ ids.generator.cache.length
    free.length, ?_⟩
  unfold step ItemIdGenerator.append
  rw [isLoaded]

theorem step_append_other (notLoaded : ∀ free, ids.generator.filler ≠ .loaded free) :
    step heap ids .append = ids := by
  unfold step ItemIdGenerator.append
  dsimp only
  split
  · next free isLoaded => exact absurd isLoaded (notLoaded free)
  · rfl

theorem times_append (heap : HeapOperations) {free : List Nat}
    (isLoaded : ids.generator.filler = .loaded free) (id : Nat) :
    (step heap ids .append).times id = ids.times id + free.count id := by
  obtain ⟨cache, same, appended⟩ := step_append heap isLoaded
  have count := same.count_eq id
  rw [List.count_append] at count
  rw [appended]
  unfold times
  dsimp only
  omega

theorem Tidy.append (tidy : ids.Tidy) : (step heap ids .append).Tidy := by
  by_cases isLoaded : ∃ free, ids.generator.filler = .loaded free
  · obtain ⟨free, isLoaded⟩ := isLoaded
    have scanning := tidy.scanning (by rw [isLoaded]; nofun)
    have loaded := scanning.loaded free isLoaded
    have times := times_append heap isLoaded
    obtain ⟨cache, same, appended⟩ := step_append heap isLoaded
    rw [appended] at times ⊢
    have ahead := scanning.ahead
    constructor
    · exact tidy.rows
    · exact tidy.top
    · intro id known
      show id < ids.generator.nextConsecutiveId
      rw [times] at known
      by_cases found : id ∈ free
      · exact (loaded id found).2.2.1.trans_lt tidy.top
      · rw [List.count_eq_zero_of_not_mem found] at known
        exact tidy.below id known
    · intro _
      exact
        { ahead := Nat.sub_one_lt_of_lt ahead
          cache := by
            intro id member
            apply Nat.le_sub_one_of_lt
            rcases List.mem_append.mp (same.mem_iff.mp member) with old | new
            · exact (scanning.cache id old).trans_lt ahead
            · exact (loaded id new).2.1
          unsaved := by
            intro id member
            rcases scanning.unsaved id member with cached | above
            · exact .inl (Nat.le_sub_one_of_lt (cached.trans_lt ahead))
            · exact .inr above
          loadedUnique := nofun
          loaded := nofun }
  · rw [step_append_other (not_exists.mp isLoaded)]
    exact tidy

/-- The ids found by the query are new in the cache, except those deleted since. -/
theorem append_once_iff (tidy : ids.Tidy) (once : ∀ id, ids.times id ≤ 1) :
    (∀ id, (step heap ids .append).times id ≤ 1) ↔ AppendsFree ids .append := by
  unfold AppendsFree
  by_cases isLoaded : ∃ free, ids.generator.filler = .loaded free
  · obtain ⟨free, isLoaded⟩ := isLoaded
    have scanning := tidy.scanning (by rw [isLoaded]; nofun)
    have loaded := scanning.loaded free isLoaded
    have deletedOnly : ∀ id ∈ free, ids.times id = ids.deleted.count id := by
      intro id found
      obtain ⟨above, _, initial, noRow⟩ := loaded id found
      have notCached : id ∉ ids.generator.cache := by
        intro cached
        exact absurd (scanning.cache id cached) (Nat.not_le_of_lt above)
      have notUnsaved : id ∉ ids.unsaved := by
        intro issued
        have range := scanning.unsaved id issued
        omega
      unfold times
      rw [List.count_eq_zero_of_not_mem notCached, List.count_eq_zero_of_not_mem notUnsaved,
        List.count_eq_zero_of_not_mem noRow]
      omega
    constructor
    · intro after other isOther id found isDeleted
      rw [isLoaded] at isOther
      cases isOther
      have count := after id
      rw [times_append heap isLoaded, deletedOnly id found] at count
      have inFree := List.count_pos_iff.mpr found
      have inDeleted := List.count_pos_iff.mpr isDeleted
      omega
    · intro notDeleted id
      rw [times_append heap isLoaded]
      by_cases found : id ∈ free
      · rw [deletedOnly id found,
          List.count_eq_zero_of_not_mem (notDeleted free isLoaded id found)]
        have unique := List.nodup_iff_count_le_one.mp
          (scanning.loadedUnique free isLoaded) id
        omega
      · rw [List.count_eq_zero_of_not_mem found]
        exact once id
  · have notLoaded := not_exists.mp isLoaded
    rw [step_append_other notLoaded]
    constructor
    · intro _ free isLoaded
      exact absurd isLoaded (notLoaded free)
    · intro _
      exact once

/-! ## Whole runs -/

theorem Tidy.step (tidy : ids.Tidy) (event : ItemIdEvent) : (step heap ids event).Tidy := by
  cases event with
  | generateLower ref cacheOnly => exact tidy.generateLower ref cacheOnly
  | insertRow id => exact tidy.insertRow id
  | commitDelete id => exact tidy.commitDelete id
  | free id => exact tidy.free id
  | query => exact tidy.query
  | append => exact tidy.append
  | finish => exact tidy.finish

theorem step_once_iff (tidy : ids.Tidy) (once : ∀ id, ids.times id ≤ 1)
    (event : ItemIdEvent) :
    (∀ id, (ItemIds.step heap ids event).times id ≤ 1) ↔ AppendsFree ids event := by
  have kept (after : ∀ id, (ItemIds.step heap ids event).times id ≤ 1)
      (always : AppendsFree ids event) :
      (∀ id, (ItemIds.step heap ids event).times id ≤ 1) ↔ AppendsFree ids event :=
    ⟨fun _ => always, fun _ => after⟩
  cases event with
  | generateLower ref cacheOnly =>
      exact kept (fun id => times_generateLower tidy (once id) ref cacheOnly) trivial
  | insertRow id =>
      exact kept (fun other => (times_insertRow id other).trans (once other)) trivial
  | commitDelete id =>
      exact kept (fun other => (times_commitDelete id other).le.trans (once other)) trivial
  | free id => exact kept (fun other => (times_free id other).trans (once other)) trivial
  | query => exact kept (fun id => (times_query id tidy.rows).le.trans (once id)) trivial
  | append => exact append_once_iff tidy once
  | finish => exact kept (fun id => (times_finish id).le.trans (once id)) trivial

theorem start_tidy (database : ItemInstances) (configCapacity intervalSize : Nat) :
    (start database configCapacity intervalSize).Tidy := by
  have times : ∀ id, (start database configCapacity intervalSize).times id =
      database.guids.count id := by
    intro id
    show 0 + 0 + database.guids.count id + 0 = _
    omega
  constructor
  · exact database.unique
  · exact Nat.lt_succ_self _
  · intro id known
    rw [times] at known
    apply Nat.lt_succ_of_le
    exact List.le_max_of_le (List.count_pos_iff.mp known) le_rfl
  · intro scans
    have enabled : 0 < min (database.guids.foldr max 0) configCapacity := by
      by_contra disabled
      exact scans (if_neg disabled)
    have cacheMaxId : (start database configCapacity intervalSize).generator.cacheMaxId = 0 :=
      if_pos enabled
    have filler : (start database configCapacity intervalSize).generator.filler = .idle :=
      if_pos enabled
    constructor
    · rw [cacheMaxId]
      exact Nat.one_pos
    · intro id cached
      cases cached
    · intro id unsaved
      cases unsaved
    · intro free isLoaded
      rw [filler] at isLoaded
      cases isLoaded
    · intro free isLoaded
      rw [filler] at isLoaded
      cases isLoaded

theorem start_once (database : ItemInstances) (configCapacity intervalSize : Nat) (id : Nat) :
    (start database configCapacity intervalSize).times id ≤ 1 := by
  have unique := List.nodup_iff_count_le_one.mp database.unique id
  show 0 + 0 + database.guids.count id + 0 ≤ 1
  omega

end ItemIds

theorem noDuplicates_throughout_iff (heap : HeapOperations) (database : ItemInstances)
    (configCapacity intervalSize : Nat) (events : List ItemIdEvent) :
    Throughout (ItemIds.step heap) (NoDuplicates heap)
        (.start database configCapacity intervalSize) events ↔
      EveryStep (ItemIds.step heap) AppendsFree
        (.start database configCapacity intervalSize) events := by
  have tidy := ItemIds.start_tidy database configCapacity intervalSize
  apply throughout_iff_everyStep (fun ids event tidy => tidy.step event) _ tidy
  · rw [ItemIds.noDuplicates_iff tidy]
    exact ItemIds.start_once database configCapacity intervalSize
  · intro ids event tidy holds
    rw [ItemIds.noDuplicates_iff tidy] at holds
    rw [ItemIds.noDuplicates_iff (tidy.step event)]
    exact ItemIds.step_once_iff tidy holds event

section FreedTooLate

/-- A heap which keeps its elements sorted. -/
def sortedHeap : HeapOperations where
  pushHeap := List.insertionSort (· ≤ ·)
  popHeap
    | [] => []
    | front :: rest => rest ++ [front]
  pushHeap_perm := List.perm_insertionSort (· ≤ ·)
  popHeap_perm _ rest := ⟨rest, rfl, .refl rest⟩

/-- Two items, of which the first was rebased. -/
def twoItems : ItemInstances where
  guids := [1, 2]
  unique := by decide
  bounded := by decide

/-- The row of item 1 is deleted before the query; the append runs before `Free`. -/
def freedAfterAppend : List ItemIdEvent :=
  [.commitDelete 1, .query, .append, .free 1]

theorem freedAfterAppend_twice :
    ¬Throughout (ItemIds.step sortedHeap) (NoDuplicates sortedHeap)
      (.start twoItems 10 100) freedAfterAppend := by
  rintro ⟨_, _, _, _, last⟩
  have twice :
      (run (ItemIds.step sortedHeap) (.start twoItems 10 100) freedAfterAppend).generator.cache =
        [1, 1] := by
    decide
  have unique := last.cacheUnique
  have cache : List.Nodup [1, 1] := twice ▸ unique
  exact absurd cache (by decide)

end FreedTooLate

end RealmServer.Globals
