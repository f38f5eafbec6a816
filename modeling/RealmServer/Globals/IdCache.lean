import RealmServer.Globals.ItemIdGenerator
import RealmServer.Lib.MinHeap

/-!
# The heap of free ids

The cache is a heap with its least id in front, which `GenerateLower` relies on.
The filler appends many ids at once and pushes them one after the other, each
push a step too early, so that the last element of the cache is pushed again and
the last new one never.  It works out because the new ids increase and are above
all others: they are in order where they are appended.
-/

namespace RealmServer.Globals

open Transition MinHeap

/--
`std::push_heap` and `std::pop_heap` with `std::greater`, as they are documented.
Pushing asks for a heap before the last element, popping for a heap, which is one
again without the element that was put to its end.  An empty range, which the
filler pushes where the cache is empty, stays as it is.
-/
structure MinHeapOperations extends HeapOperations where
  pushHeap_isHeap : ∀ elements, IsHeap elements.dropLast → IsHeap (pushHeap elements)
  popHeap_isHeap : ∀ elements, IsHeap elements → IsHeap (popHeap elements).dropLast

/-- How the standard library does it. -/
def stdHeap : MinHeapOperations where
  pushHeap := pushHeap
  popHeap := popHeap
  pushHeap_perm := pushHeap_perm
  popHeap_perm := popHeap_perm
  pushHeap_isHeap _ := pushHeap_isHeap
  popHeap_isHeap _ := popHeap_isHeap

namespace ItemIdGenerator

/-- `Free` of a list. -/
def freeAll (heap : HeapOperations) (generator : ItemIdGenerator) (ids : List Nat) :
    ItemIdGenerator := ids.foldl (free heap) generator

/-- The end of `load_and_insert`, for the ids it has found and where its scan stands. -/
def insertFree (heap : HeapOperations) (generator : ItemIdGenerator) (free : List Nat)
    (scanId : Nat) : ItemIdGenerator :=
  if free = [] then generator
  else append heap { generator with filler := .loaded free, currentScanId := scanId }

end ItemIdGenerator

/-- What is done with the cache. -/
inductive CacheOperation where
  | free (id : Nat)
  | freeAll (ids : List Nat)
  | generateLower (ref : Nat) (cacheOnly : Bool)
  | insertFree (free : List Nat) (scanId : Nat)

namespace ItemIdGenerator

def step (heap : HeapOperations) (generator : ItemIdGenerator) : CacheOperation → ItemIdGenerator
  | .free id => generator.free heap id
  | .freeAll ids => generator.freeAll heap ids
  | .generateLower ref cacheOnly => (generator.generateLower heap ref cacheOnly).2
  | .insertFree free scanId => generator.insertFree heap free scanId

/-- New ids increase; they are above the old limit of the cache, and not above the new one. -/
def InsertsAbove (generator : ItemIdGenerator) : CacheOperation → Prop
  | .insertFree free scanId => free.Pairwise (· < ·) ∧
      ∀ id ∈ free, generator.cacheMaxId < id ∧ id ≤ scanId - 1
  | _ => True

/-- The cache is in heap order, so that the least id is handed out if it is below `ref`. -/
structure HeapOrdered (heap : HeapOperations) (generator : ItemIdGenerator) : Prop where
  isHeap : IsHeap generator.cache
  least : ∀ ref cacheOnly, ∀ id ∈ generator.cache, (∀ other ∈ generator.cache, id ≤ other) →
    (id < ref → (generator.generateLower heap ref cacheOnly).1 = id ∧
        (generator.generateLower heap ref cacheOnly).2.cache.Perm (generator.cache.erase id)) ∧
      (ref ≤ id → generator.generateLower heap ref cacheOnly = (0, generator))

/-- The heap order, and the limit of the cache. -/
structure CacheInvariant (generator : ItemIdGenerator) : Prop where
  isHeap : IsHeap generator.cache
  bounded : ∀ id ∈ generator.cache, id ≤ generator.cacheMaxId

/-! ## The operations -/

section Operations

variable (heap : MinHeapOperations) {generator : ItemIdGenerator}

theorem heapOrdered_of_isHeap (isHeap : IsHeap generator.cache) :
    generator.HeapOrdered heap.toHeapOperations := by
  refine ⟨isHeap, fun ref cacheOnly id member least => ?_⟩
  cases cacheIs : generator.cache with
  | nil =>
      rw [cacheIs] at member
      cases member
  | cons front rest =>
      rw [cacheIs] at isHeap member least
      have isFront : id = front :=
        Nat.le_antisymm (least front List.mem_cons_self) (isHeap.le_of_mem id member)
      rw [generateLower, cacheIs, isFront]
      constructor
      · intro below
        simp only [if_pos below, List.erase_cons_head, true_and]
        exact popHeap_dropLast heap.toHeapOperations front rest
      · intro above
        simp only [if_neg (Nat.not_lt.2 above)]

theorem free_isHeap (isHeap : IsHeap generator.cache) (id : Nat) :
    IsHeap (generator.free heap.toHeapOperations id).cache := by
  rw [free]
  split_ifs
  · exact isHeap
  · apply heap.pushHeap_isHeap
    rw [List.dropLast_concat]
    exact isHeap

theorem free_bounded (bounded : ∀ id ∈ generator.cache, id ≤ generator.cacheMaxId) (id : Nat) :
    ∀ cached ∈ (generator.free heap.toHeapOperations id).cache,
      cached ≤ (generator.free heap.toHeapOperations id).cacheMaxId := by
  rw [free]
  split_ifs with above
  · exact bounded
  · intro cached member
    have known := (heap.pushHeap_perm _).mem_iff.1 member
    rcases List.mem_append.1 known with old | new
    · exact bounded cached old
    · rw [List.mem_singleton.1 new]
      exact Nat.not_lt.1 above

theorem generateLower_isHeap (isHeap : IsHeap generator.cache) (ref : Nat) (cacheOnly : Bool) :
    IsHeap (generator.generateLower heap.toHeapOperations ref cacheOnly).2.cache := by
  rw [generateLower]
  split
  · rename_i empty
    split_ifs
    · exact isHeap
    · exact isHeap
    · exact isHeap
  · rename_i front rest cacheIs
    split_ifs
    · rw [cacheIs] at isHeap
      exact heap.popHeap_isHeap _ isHeap
    · exact isHeap

theorem generateLower_bounded (bounded : ∀ id ∈ generator.cache, id ≤ generator.cacheMaxId)
    (ref : Nat) (cacheOnly : Bool) :
    ∀ cached ∈ (generator.generateLower heap.toHeapOperations ref cacheOnly).2.cache,
      cached ≤ (generator.generateLower heap.toHeapOperations ref cacheOnly).2.cacheMaxId := by
  have generates := generator.generateLower_generates heap.toHeapOperations ref cacheOnly
  generalize generator.generateLower heap.toHeapOperations ref cacheOnly = generated at *
  cases generates with
  | nothing => exact bounded
  | next => exact bounded
  | cached front cache rest cacheIs same =>
      intro cached member
      apply bounded
      rw [cacheIs]
      exact List.mem_cons_of_mem front (same.mem_iff.1 member)

/-- Each push gets a heap with one of the new ids to come, and leaves one. -/
theorem pushPrefixes_isHeap (rest : List Nat) {done : List Nat} (isHeap : IsHeap done)
    (increasing : rest.Pairwise (· < ·)) (above : ∀ old ∈ done, ∀ new ∈ rest, old < new) :
    IsHeap (pushPrefixes heap.toHeapOperations (done ++ rest) done.length rest.length) := by
  induction rest generalizing done with
  | nil =>
      rw [List.append_nil]
      exact isHeap
  | cons new rest induction =>
      rw [List.pairwise_cons] at increasing
      have same := heap.pushHeap_perm done
      have pushed : IsHeap (heap.pushHeap done) := by
        apply heap.pushHeap_isHeap
        rw [List.dropLast_eq_take]
        exact isHeap.take _
      have greatest : ∀ old ∈ heap.pushHeap done, old ≤ new := fun old member =>
        (above old (same.mem_iff.1 member) new List.mem_cons_self).le
      have later : ∀ old ∈ heap.pushHeap done ++ [new], ∀ other ∈ rest, old < other := by
        intro old member other isNew
        rcases List.mem_append.1 member with before | last
        · exact above old (same.mem_iff.1 before) other (List.mem_cons_of_mem new isNew)
        · rw [List.mem_singleton.1 last]
          exact increasing.1 other isNew
      have whole := induction (pushed.concat greatest) increasing.2 later
      rw [List.length_append, List.length_singleton, same.length_eq, List.append_assoc,
        List.singleton_append] at whole
      rw [List.length_cons, pushPrefixes, List.take_left, List.drop_left]
      exact whole

theorem append_isHeap {free : List Nat} (isLoaded : generator.filler = .loaded free)
    (isHeap : IsHeap generator.cache) (increasing : free.Pairwise (· < ·))
    (above : ∀ old ∈ generator.cache, ∀ new ∈ free, old < new) :
    IsHeap (generator.append heap.toHeapOperations).cache := by
  rw [append, isLoaded]
  exact pushPrefixes_isHeap heap free isHeap increasing above

theorem CacheInvariant.step (invariant : generator.CacheInvariant) (operation : CacheOperation)
    (inserts : generator.InsertsAbove operation) :
    (step heap.toHeapOperations generator operation).CacheInvariant := by
  cases operation with
  | free id => exact ⟨free_isHeap heap invariant.isHeap id, free_bounded heap invariant.bounded id⟩
  | freeAll ids =>
      show (ids.foldl (free heap.toHeapOperations) generator).CacheInvariant
      clear inserts
      induction ids generalizing generator with
      | nil => exact invariant
      | cons id ids induction =>
          exact induction
            ⟨free_isHeap heap invariant.isHeap id, free_bounded heap invariant.bounded id⟩
  | generateLower ref cacheOnly =>
      exact ⟨generateLower_isHeap heap invariant.isHeap ref cacheOnly,
        generateLower_bounded heap invariant.bounded ref cacheOnly⟩
  | insertFree free scanId =>
      obtain ⟨increasing, above⟩ := inserts
      show (generator.insertFree heap.toHeapOperations free scanId).CacheInvariant
      rw [insertFree]
      split_ifs with nothing
      · exact invariant
      · refine ⟨append_isHeap heap rfl invariant.isHeap increasing fun old cached new isNew =>
          (invariant.bounded old cached).trans_lt (above new isNew).1, fun id member => ?_⟩
        have same := pushPrefixes_perm heap.toHeapOperations (generator.cache ++ free)
          generator.cache.length free.length
        rcases List.mem_append.1 (same.mem_iff.1 member) with old | new
        · obtain ⟨first, isFirst⟩ := List.exists_mem_of_ne_nil free nothing
          exact (invariant.bounded id old).trans
            ((above first isFirst).1.le.trans (above first isFirst).2)
        · exact (above id new).2

end Operations

/-! ## Whole runs -/

theorem initialized_cacheInvariant (database : ItemInstances)
    (configCapacity intervalSize : Nat) :
    (initialized database configCapacity intervalSize).CacheInvariant :=
  ⟨isHeap_nil, fun _ member => absurd member List.not_mem_nil⟩

/-- The cache stays a heap as long as the filler inserts above what there is. -/
theorem cache_heapOrdered (heap : MinHeapOperations) (database : ItemInstances)
    (configCapacity intervalSize : Nat) (operations : List CacheOperation)
    (inserts : EveryStep (step heap.toHeapOperations) InsertsAbove
      (initialized database configCapacity intervalSize) operations) :
    Throughout (step heap.toHeapOperations) (HeapOrdered heap.toHeapOperations)
      (initialized database configCapacity intervalSize) operations := by
  have invariant := throughout_of_invariant
    (fun _ operation invariant inserts => invariant.step heap operation inserts)
    (initialized_cacheInvariant database configCapacity intervalSize) inserts
  exact invariant.mono fun _ kept => heapOrdered_of_isHeap heap kept.isHeap

/-- Two scans; between them ids come back which the cache may hold. -/
def twoScans : List CacheOperation :=
  [.insertFree [3, 5, 8] 11, .generateLower 100 true, .freeAll [7, 2], .insertFree [12, 20] 21,
    .generateLower 2 false]

theorem cache_heapOrdered_twoScans :
    Throughout (step stdHeap.toHeapOperations) (HeapOrdered stdHeap.toHeapOperations)
      (initialized ⟨[10, 25], by decide, by decide⟩ 10 10) twoScans :=
  cache_heapOrdered stdHeap ⟨[10, 25], by decide, by decide⟩ 10 10 twoScans (by
    refine ⟨⟨by decide, ?_⟩, trivial, trivial, ⟨by decide, ?_⟩, trivial, trivial⟩
    · decide
    · decide +kernel)

end ItemIdGenerator

end RealmServer.Globals
