import RealmServer.Globals.ItemIdGenerator

/-!
# The scan for free item ids

`load_and_insert` of the filler thread, here with the arithmetic of its `uint32`
variables: the end of an interval may wrap, and so may the scan position behind
the greatest id, so that the loop over the last gap need not end.
-/

namespace RealmServer.Globals

/-- What a call of `load_and_insert` meets: the rows when it reads, and the cache
when it has the lock. -/
structure FillerRound where
  rows : List Nat
  unique : rows.Nodup
  cache : List Nat

/-- A call of `load_and_insert` with its interval and what it returns. -/
structure FillerCall where
  round : FillerRound
  first : Nat
  last : Nat
  free : List Nat
  hasMore : Bool
  generator : ItemIdGenerator

namespace ItemIdGenerator

variable (heap : HeapOperations)

/-- The part of `Initialize` the filler depends on; `SELECT MAX(guid)` is null without
rows. -/
def filling (guids : List UInt32) (intervalSize : UInt32) : ItemIdGenerator :=
  let initialMaxId := (guids.map UInt32.toNat).foldr max 0
  { initialMaxId
    nextConsecutiveId := (initialMaxId + 1) % 2 ^ 32
    intervalSize := intervalSize.toNat
    cache := []
    cacheMaxId := 0
    currentScanId := 1
    filler := .idle }

/-- The loop over the rows, of which each is followed by `next_in_use + 1`. -/
def wrappingGaps : Nat → List Nat → List Nat × Nat
  | currentScanId, [] => ([], currentScanId)
  | currentScanId, nextInUse :: rest =>
      let (later, scanId) := wrappingGaps ((nextInUse + 1) % 2 ^ 32) rest
      (List.range' currentScanId (nextInUse - currentScanId) ++ later, scanId)

/-- The gap between the last used id and the end of the interval, if the loop ends within
so many rounds. -/
def lastGap : Nat → Nat → Nat → Option (List Nat × Nat)
  | 0, _, _ => none
  | fuel + 1, currentScanId, intervalEnd =>
      if currentScanId ≤ intervalEnd then do
        let (later, scanId) ← lastGap fuel ((currentScanId + 1) % 2 ^ 32) intervalEnd
        some (currentScanId :: later, scanId)
      else some ([], currentScanId)

/-- `load_and_insert`. -/
def loadAndInsert (fuel : Nat) (generator : ItemIdGenerator) (round : FillerRound) :
    Option FillerCall := do
  let last := generator.intervalEnd
  let used := usedIn round.rows generator.currentScanId last
  let (between, scanId) := wrappingGaps generator.currentScanId used
  let (after, scanId) ← lastGap fuel scanId last
  let free := between ++ after
  some
    { round
      first := generator.currentScanId
      last
      free
      hasMore := if free = [] then last < generator.initialMaxId else true
      generator :=
        if free = [] then { generator with cache := round.cache, currentScanId := scanId }
        else
          { generator with
            cache := pushPrefixes heap (round.cache ++ free) round.cache.length free.length
            cacheMaxId := (scanId + (2 ^ 32 - 1)) % 2 ^ 32
            currentScanId := scanId } }

/-- The loop of `FillCache`, whose calls meet one round after the other. -/
def fillCache : Nat → ItemIdGenerator → (Nat → FillerRound) → Option (List FillerCall)
  | 0, _, _ => none
  | fuel + 1, generator, rounds => do
      let call ← loadAndInsert heap (fuel + 1) generator (rounds 0)
      if call.hasMore then do
        let later ← fillCache fuel call.generator fun n => rounds (n + 1)
        some (call :: later)
      else some [call]

end ItemIdGenerator

/-- The ids of the interval a call reads. -/
def FillerCall.interval (call : FillerCall) : List Nat :=
  List.range' call.first (call.last + 1 - call.first)

/-- The intervals together are all ids from the first to the last, and the free ids of
each are those without a row when it is read. -/
structure ExactScan (first last : Nat) (calls : List FillerCall) : Prop where
  intervals : calls.flatMap FillerCall.interval = List.range' first (last + 1 - first)
  free : ∀ call ∈ calls, call.free = call.interval.filter (· ∉ call.round.rows)
  appended : ∀ call ∈ calls, call.generator.cache.Perm (call.round.cache ++ call.free)
  advances : ∀ call ∈ calls, call.hasMore = true → call.first < call.generator.currentScanId

/-- The filler stops, and its calls are an exact scan from the first id to the last. -/
def FillsExactly (heap : HeapOperations) (generator : ItemIdGenerator)
    (rounds : Nat → FillerRound) (first last : Nat) : Prop :=
  ∃ enough calls, ExactScan first last calls ∧
    calls.map FillerCall.round = (List.range calls.length).map rounds ∧
    ∀ fuel, enough ≤ fuel → generator.fillCache heap fuel rounds = some calls

/-- The scan from a position stops: its position never wraps, or it would only do so in
the call after the last interval, and there is none since that interval has no gap. -/
def EndsFrom (generator : ItemIdGenerator) (rounds : Nat → FillerRound) : Prop :=
  let rest := generator.initialMaxId - generator.currentScanId
  let steps := rest / (generator.intervalSize + 1)
  let lastStart := generator.currentScanId + steps * (generator.intervalSize + 1)
  generator.initialMaxId + 1 + generator.intervalSize < 2 ^ 32 ∨
    generator.initialMaxId + 1 < 2 ^ 32 ∧ lastStart + generator.intervalSize < 2 ^ 32 ∧
      ∀ id, lastStart ≤ id → id ≤ generator.initialMaxId → id ∈ (rounds steps).rows

namespace ItemIdGenerator

/-! ## One call -/

theorem lastGap_eq {last : Nat} (noWrap : last + 1 < 2 ^ 32) (fuel scanId : Nat) :
    lastGap fuel scanId last =
      if last + 1 - scanId < fuel then
        some (List.range' scanId (last + 1 - scanId), max scanId (last + 1))
      else none := by
  induction fuel generalizing scanId with
  | zero => rfl
  | succ fuel induction =>
      unfold lastGap
      by_cases inside : scanId ≤ last
      · rw [if_pos inside, Nat.mod_eq_of_lt (by omega), induction]
        have length : last + 1 - scanId = last + 1 - (scanId + 1) + 1 := by omega
        rw [length, List.range'_succ]
        by_cases enough : last + 1 - (scanId + 1) < fuel
        · rw [if_pos enough, if_pos (by omega), max_eq_right (by omega),
            max_eq_right (by omega)]
          rfl
        · rw [if_neg enough, if_neg (by omega)]
          rfl
      · rw [if_neg inside]
        have length : last + 1 - scanId = 0 := by omega
        rw [length, if_pos (Nat.succ_pos _), max_eq_left (by omega)]
        rfl

/-- No id is behind the greatest one. -/
theorem lastGap_none (fuel : Nat) {scanId : Nat} (bounded : scanId < 2 ^ 32) :
    lastGap fuel scanId (2 ^ 32 - 1) = none := by
  induction fuel generalizing scanId with
  | zero => rfl
  | succ fuel induction =>
      unfold lastGap
      rw [if_pos (by omega), induction (Nat.mod_lt _ (by omega))]
      rfl

theorem wrappingGaps_bounded (used : List Nat) {scanId : Nat} (bounded : scanId < 2 ^ 32) :
    (wrappingGaps scanId used).2 < 2 ^ 32 := by
  induction used generalizing scanId with
  | nil => exact bounded
  | cons nextInUse rest induction => exact induction (Nat.mod_lt _ (by omega))

theorem range'_split {first middle last : Nat} (start : first ≤ middle) (stop : middle ≤ last) :
    List.range' first (last + 1 - first) =
      List.range' first (middle - first) ++ middle :: List.range' (middle + 1) (last - middle) := by
  have length : last + 1 - first = (middle - first) + (last - middle + 1) := by omega
  rw [length, ← List.range'_append_1, List.range'_succ]
  have position : first + (middle - first) = middle := by omega
  rw [position]

theorem wrappingGaps_free {used : List Nat} {last : Nat} (noWrap : last + 1 < 2 ^ 32)
    (sorted : used.Pairwise (· < ·)) {scanId : Nat}
    (within : ∀ id ∈ used, scanId ≤ id ∧ id ≤ last) :
    (wrappingGaps scanId used).1 ++ List.range' (wrappingGaps scanId used).2
        (last + 1 - (wrappingGaps scanId used).2) =
      (List.range' scanId (last + 1 - scanId)).filter (· ∉ used) ∧
    max (wrappingGaps scanId used).2 (last + 1) = max scanId (last + 1) := by
  induction used generalizing scanId with
  | nil => simp [wrappingGaps]
  | cons nextInUse rest induction =>
      rw [List.pairwise_cons] at sorted
      obtain ⟨start, stop⟩ := within nextInUse List.mem_cons_self
      have later : ∀ id ∈ rest, nextInUse + 1 ≤ id ∧ id ≤ last := fun id member =>
        ⟨sorted.1 id member, (within id (List.mem_cons_of_mem _ member)).2⟩
      obtain ⟨free, position⟩ := induction sorted.2 later
      unfold wrappingGaps
      rw [Nat.mod_eq_of_lt (by omega)]
      dsimp only
      constructor
      · rw [List.append_assoc, free, range'_split start stop, List.filter_append,
          List.filter_cons_of_neg (by simp)]
        have before : (List.range' scanId (nextInUse - scanId)).filter
            (· ∉ nextInUse :: rest) = List.range' scanId (nextInUse - scanId) := by
          rw [List.filter_eq_self]
          intro id member
          have isBefore := List.mem_range'_1.mp member
          have notUsed : id ∉ nextInUse :: rest := by
            rw [List.mem_cons, not_or]
            refine ⟨by omega, fun inUse => ?_⟩
            have isLater := sorted.1 id inUse
            omega
          exact decide_eq_true notUsed
        have after : (List.range' (nextInUse + 1) (last - nextInUse)).filter
            (· ∉ nextInUse :: rest) =
          (List.range' (nextInUse + 1) (last - nextInUse)).filter (· ∉ rest) := by
          apply List.filter_congr
          intro id member
          have isAfter := List.mem_range'_1.mp member
          have different : id ≠ nextInUse := by omega
          simp [different]
        have length : last + 1 - (nextInUse + 1) = last - nextInUse := by omega
        rw [before, after, length]
      · rw [position]
        omega

/-- What a call does which comes to an end. -/
structure Scans (heap : HeapOperations) (generator : ItemIdGenerator) (met : FillerRound)
    (call : FillerCall) : Prop where
  round : call.round = met
  first : call.first = generator.currentScanId
  last : call.last = generator.intervalEnd
  free : call.free = call.interval.filter (· ∉ met.rows)
  hasMore : call.hasMore = true ↔ (call.free = [] → call.last < generator.initialMaxId)
  initialMaxId : call.generator.initialMaxId = generator.initialMaxId
  intervalSize : call.generator.intervalSize = generator.intervalSize
  currentScanId : call.generator.currentScanId =
    max generator.currentScanId (generator.intervalEnd + 1)
  appended : call.generator.cache.Perm (met.cache ++ call.free)
  loads : ∀ fuel, generator.loadAndInsert heap fuel met = some call ∨
    generator.loadAndInsert heap fuel met = none ∧ fuel ≤ generator.intervalEnd + 1

variable (heap : HeapOperations)

theorem loadAndInsert_scans (generator : ItemIdGenerator) (met : FillerRound)
    (noWrap : generator.intervalEnd + 1 < 2 ^ 32) :
    ∃ call, Scans heap generator met call := by
  have within : ∀ id ∈ usedIn met.rows generator.currentScanId generator.intervalEnd,
      generator.currentScanId ≤ id ∧ id ≤ generator.intervalEnd :=
    fun id inUse => (mem_usedIn.mp inUse).2
  have sorted := usedIn_sorted met.unique generator.currentScanId generator.intervalEnd
  obtain ⟨gapsFree, position⟩ := wrappingGaps_free noWrap sorted within
  have noRow : ∀ id ∈ List.range' generator.currentScanId
      (generator.intervalEnd + 1 - generator.currentScanId),
      decide (id ∉ usedIn met.rows generator.currentScanId generator.intervalEnd) =
        decide (id ∉ met.rows) := by
    intro id member
    have inside := List.mem_range'_1.mp member
    rw [decide_eq_decide, mem_usedIn]
    constructor
    · intro notUsed isRow
      exact notUsed ⟨isRow, by omega, by omega⟩
    · intro notRow inUse
      exact notRow inUse.1
  rw [List.filter_congr noRow] at gapsFree
  let scanned := wrappingGaps generator.currentScanId
    (usedIn met.rows generator.currentScanId generator.intervalEnd)
  let free := scanned.1 ++ List.range' scanned.2 (generator.intervalEnd + 1 - scanned.2)
  refine ⟨
    { round := met
      first := generator.currentScanId
      last := generator.intervalEnd
      free
      hasMore := if free = [] then generator.intervalEnd < generator.initialMaxId else true
      generator :=
        if free = [] then
          { generator with
            cache := met.cache
            currentScanId := max scanned.2 (generator.intervalEnd + 1) }
        else
          { generator with
            cache := pushPrefixes heap (met.cache ++ free) met.cache.length free.length
            cacheMaxId :=
              (max scanned.2 (generator.intervalEnd + 1) + (2 ^ 32 - 1)) % 2 ^ 32
            currentScanId := max scanned.2 (generator.intervalEnd + 1) } }, ?_⟩
  constructor
  case round => rfl
  case first => rfl
  case last => rfl
  case free => exact gapsFree
  case hasMore =>
    dsimp only
    split_ifs with nothing
    · rw [decide_eq_true_iff]
      exact ⟨fun more _ => more, fun more => more nothing⟩
    · exact ⟨fun _ isNothing => absurd isNothing nothing, fun _ => rfl⟩
  case initialMaxId =>
    dsimp only
    split_ifs
    · rfl
    · rfl
  case intervalSize =>
    dsimp only
    split_ifs
    · rfl
    · rfl
  case currentScanId =>
    dsimp only
    rw [← position]
    split_ifs
    · rfl
    · rfl
  case appended =>
    dsimp only
    split_ifs with nothing
    · rw [nothing, List.append_nil]
    · exact pushPrefixes_perm heap _ _ _
  case loads =>
    intro fuel
    unfold loadAndInsert
    dsimp only
    rw [lastGap_eq noWrap]
    by_cases enough : generator.intervalEnd + 1 - scanned.2 < fuel
    · rw [if_pos enough]
      exact .inl rfl
    · rw [if_neg enough]
      exact .inr ⟨rfl, by omega⟩

theorem loadAndInsert_none (generator : ItemIdGenerator) (met : FillerRound) (fuel : Nat)
    (bounded : generator.currentScanId < 2 ^ 32) (top : generator.intervalEnd = 2 ^ 32 - 1) :
    generator.loadAndInsert heap fuel met = none := by
  unfold loadAndInsert
  dsimp only
  rw [top, lastGap_none fuel (wrappingGaps_bounded _ bounded)]
  rfl

/-! ## The loop -/

variable {heap} {generator : ItemIdGenerator} {rounds : Nat → FillerRound} {call : FillerCall}

theorem Scans.interval (scans : Scans heap generator (rounds 0) call) :
    call.interval = List.range' generator.currentScanId
      (generator.intervalEnd + 1 - generator.currentScanId) := by
  unfold FillerCall.interval
  rw [scans.first, scans.last]

/-- The call finds all ids of its interval in use. -/
theorem Scans.free_nil (scans : Scans heap generator (rounds 0) call) :
    call.free = [] ↔ ∀ id, generator.currentScanId ≤ id → id ≤ generator.intervalEnd →
      id ∈ (rounds 0).rows := by
  rw [scans.free, scans.interval, List.filter_eq_nil_iff]
  constructor
  · intro inUse id start stop
    have isUsed := inUse id (List.mem_range'_1.mpr (by omega))
    simpa using isUsed
  · intro inUse id member
    have inside := List.mem_range'_1.mp member
    simpa using inUse id inside.1 (by omega)

theorem fillCache_more (scans : Scans heap generator (rounds 0) call)
    (hasMore : call.hasMore = true)
    (never : ∀ fuel, call.generator.fillCache heap fuel (fun n => rounds (n + 1)) = none)
    (fuel : Nat) : generator.fillCache heap fuel rounds = none := by
  cases fuel with
  | zero => rfl
  | succ fuel =>
      unfold fillCache
      rcases scans.loads (fuel + 1) with loads | ⟨loads, _⟩
      · rw [loads]
        show (if call.hasMore = true then _ else _) = none
        rw [if_pos hasMore, never]
        rfl
      · rw [loads]
        rfl

/-- A call which advances, before others. -/
theorem fillsExactly_more (scans : Scans heap generator (rounds 0) call)
    (hasMore : call.hasMore = true)
    (start : generator.currentScanId ≤ generator.intervalEnd)
    (stop : generator.intervalEnd ≤ generator.initialMaxId)
    (later : FillsExactly heap call.generator (fun n => rounds (n + 1))
      call.generator.currentScanId generator.initialMaxId) :
    FillsExactly heap generator rounds generator.currentScanId generator.initialMaxId := by
  obtain ⟨enough, calls, exact, met, fills⟩ := later
  have position : call.generator.currentScanId = generator.intervalEnd + 1 := by
    rw [scans.currentScanId, max_eq_right (by omega)]
  refine ⟨max (enough + 1) (generator.intervalEnd + 2), call :: calls, ?_, ?_, ?_⟩
  · constructor
    case intervals =>
      have next : generator.intervalEnd + 1 = generator.currentScanId +
          (generator.intervalEnd + 1 - generator.currentScanId) := by
        omega
      rw [List.flatMap_cons, exact.intervals, scans.interval, position]
      nth_rewrite 2 [next]
      rw [List.range'_append_1]
      congr 1
      omega
    case free =>
      rw [List.forall_mem_cons, scans.round]
      exact ⟨scans.free, exact.free⟩
    case appended =>
      rw [List.forall_mem_cons, scans.round]
      exact ⟨scans.appended, exact.appended⟩
    case advances =>
      rw [List.forall_mem_cons, position, scans.first]
      exact ⟨fun _ => Nat.lt_succ_of_le start, exact.advances⟩
  · rw [List.map_cons, met, scans.round, List.length_cons, List.range_succ_eq_map,
      List.map_cons, List.map_map]
    rfl
  · intro fuel isEnough
    cases fuel with
    | zero => omega
    | succ fuel =>
        unfold fillCache
        rcases scans.loads (fuel + 1) with loads | ⟨_, tooLow⟩
        · rw [loads]
          show (if call.hasMore = true then _ else _) = _
          rw [if_pos hasMore, fills fuel (by omega)]
          rfl
        · omega

/-- A call without more ends the loop. -/
theorem fillsExactly_last (scans : Scans heap generator (rounds 0) call)
    (noMore : call.hasMore ≠ true)
    (stop : generator.intervalEnd = generator.initialMaxId) :
    FillsExactly heap generator rounds generator.currentScanId generator.initialMaxId := by
  refine ⟨generator.intervalEnd + 2, [call], ?_, ?_, ?_⟩
  · constructor
    case intervals =>
      rw [List.flatMap_singleton, scans.interval, stop]
    case free =>
      rw [List.forall_mem_singleton, scans.round]
      exact scans.free
    case appended =>
      rw [List.forall_mem_singleton, scans.round]
      exact scans.appended
    case advances =>
      rw [List.forall_mem_singleton]
      exact fun hasMore => absurd hasMore noMore
  · rw [List.map_singleton, scans.round]
    rfl
  · intro fuel isEnough
    cases fuel with
    | zero => omega
    | succ fuel =>
        unfold fillCache
        rcases scans.loads (fuel + 1) with loads | ⟨_, tooLow⟩
        · rw [loads]
          show (if call.hasMore = true then _ else _) = _
          rw [if_neg noMore]
        · omega

/-- The end of the interval wrapped: the same call is made again and again. -/
theorem fillCache_stuck {fuel : Nat} (behind : generator.intervalEnd < generator.currentScanId)
    (bounded : generator.currentScanId < 2 ^ 32)
    (more : generator.intervalEnd < generator.initialMaxId) :
    generator.fillCache heap fuel rounds = none := by
  induction fuel generalizing generator rounds with
  | zero => rfl
  | succ fuel induction =>
      obtain ⟨call, scans⟩ := generator.loadAndInsert_scans heap (rounds 0) (by omega)
      have hasMore : call.hasMore = true := by
        rw [scans.hasMore, scans.last]
        exact fun _ => more
      have position : call.generator.currentScanId = generator.currentScanId := by
        rw [scans.currentScanId, max_eq_left (by omega)]
      have sameEnd : call.generator.intervalEnd = generator.intervalEnd := by
        unfold intervalEnd
        rw [scans.initialMaxId, scans.intervalSize, position]
      unfold fillCache
      rcases scans.loads (fuel + 1) with loads | ⟨loads, _⟩
      · rw [loads]
        show (if call.hasMore = true then _ else _) = none
        rw [if_pos hasMore, induction]
        · rfl
        · omega
        · omega
        · rw [scans.initialMaxId]
          omega
      · rw [loads]
        rfl

/-- One interval further, and the same last one. -/
theorem endsFrom_next {next : ItemIdGenerator}
    (initial : next.initialMaxId = generator.initialMaxId)
    (size : next.intervalSize = generator.intervalSize)
    (position : next.currentScanId = generator.currentScanId + generator.intervalSize + 1)
    (inside : next.currentScanId ≤ generator.initialMaxId) :
    EndsFrom generator rounds ↔ EndsFrom next fun n => rounds (n + 1) := by
  have rest : generator.initialMaxId - generator.currentScanId =
      next.initialMaxId - next.currentScanId + (generator.intervalSize + 1) := by
    omega
  have steps : (generator.initialMaxId - generator.currentScanId) /
      (generator.intervalSize + 1) =
        (next.initialMaxId - next.currentScanId) / (next.intervalSize + 1) + 1 := by
    rw [rest, Nat.add_div_right _ (Nat.succ_pos _), size]
  have lastStart : generator.currentScanId +
      ((next.initialMaxId - next.currentScanId) / (next.intervalSize + 1) + 1) *
        (generator.intervalSize + 1) =
      next.currentScanId + (next.initialMaxId - next.currentScanId) /
        (next.intervalSize + 1) * (next.intervalSize + 1) := by
    rw [Nat.succ_mul, size]
    omega
  unfold EndsFrom
  dsimp only
  rw [steps, lastStart, initial, size]

/-- The position is behind the last id. -/
theorem fillCache_behind (behind : generator.currentScanId = generator.initialMaxId + 1)
    (bounded : generator.initialMaxId + 1 < 2 ^ 32)
    (stop : generator.intervalEnd = generator.initialMaxId) :
    FillsExactly heap generator rounds generator.currentScanId generator.initialMaxId := by
  obtain ⟨call, scans⟩ := generator.loadAndInsert_scans heap (rounds 0) (by omega)
  apply fillsExactly_last scans _ stop
  rw [ne_eq, scans.hasMore, scans.last, stop]
  intro more
  have nothing : call.free = [] := by
    rw [scans.free_nil]
    omega
  exact absurd (more nothing) (lt_irrefl _)

theorem fillCache_ends_or_not (positive : 1 ≤ generator.currentScanId)
    (inside : generator.currentScanId ≤ generator.initialMaxId)
    (bounded : generator.initialMaxId < 2 ^ 32) (size : generator.intervalSize < 2 ^ 32) :
    EndsFrom generator rounds ∧
        FillsExactly heap generator rounds generator.currentScanId generator.initialMaxId ∨
      ¬EndsFrom generator rounds ∧ ∀ fuel, generator.fillCache heap fuel rounds = none := by
  induction distance : generator.initialMaxId - generator.currentScanId using
    Nat.strong_induction_on generalizing generator rounds with
  | _ distance induction =>
      have endIs : generator.intervalEnd = min generator.initialMaxId
        ((generator.currentScanId + generator.intervalSize) % 2 ^ 32) := rfl
      by_cases wraps : 2 ^ 32 ≤ generator.currentScanId + generator.intervalSize
      · right
        have notEnds : ¬EndsFrom generator rounds := by
          unfold EndsFrom
          dsimp only
          generalize _ / (generator.intervalSize + 1) * (generator.intervalSize + 1) = passed
          omega
        exact ⟨notEnds, fun fuel => fillCache_stuck (by omega) (by omega) (by omega)⟩
      rw [Nat.mod_eq_of_lt (by omega)] at endIs
      by_cases more : generator.currentScanId + generator.intervalSize < generator.initialMaxId
      · rw [min_eq_right (by omega)] at endIs
        obtain ⟨call, scans⟩ := generator.loadAndInsert_scans heap (rounds 0) (by omega)
        have hasMore : call.hasMore = true := by
          rw [scans.hasMore, scans.last]
          omega
        have position : call.generator.currentScanId =
            generator.currentScanId + generator.intervalSize + 1 := by
          rw [scans.currentScanId, endIs, max_eq_right (by omega)]
        have initial := scans.initialMaxId
        have sameSize := scans.intervalSize
        rw [endsFrom_next initial sameSize position (by omega)]
        rcases @induction (call.generator.initialMaxId - call.generator.currentScanId)
          (by omega) call.generator (fun n => rounds (n + 1)) (by omega) (by omega) (by omega)
          (by omega) rfl with ⟨ends, fills⟩ | ⟨notEnds, never⟩
        · rw [initial] at fills
          exact .inl ⟨ends, fillsExactly_more scans hasMore (by omega) (by omega) fills⟩
        · exact .inr ⟨notEnds, fillCache_more scans hasMore never⟩
      rw [min_eq_left (by omega)] at endIs
      have steps : (generator.initialMaxId - generator.currentScanId) /
          (generator.intervalSize + 1) = 0 := Nat.div_eq_of_lt (by omega)
      have endsIff : EndsFrom generator rounds ↔
          generator.initialMaxId + 1 + generator.intervalSize < 2 ^ 32 ∨
            generator.initialMaxId + 1 < 2 ^ 32 ∧
              ∀ id, generator.currentScanId ≤ id → id ≤ generator.initialMaxId →
                id ∈ (rounds 0).rows := by
        unfold EndsFrom
        dsimp only
        rw [steps, Nat.zero_mul, Nat.add_zero]
        have fits := not_le.mp wraps
        tauto
      rw [endsIff]
      by_cases top : generator.initialMaxId + 1 = 2 ^ 32
      · refine .inr ⟨by omega, fun fuel => ?_⟩
        cases fuel with
        | zero => rfl
        | succ fuel =>
            unfold fillCache
            rw [loadAndInsert_none heap generator (rounds 0) (fuel + 1) (by omega) (by omega)]
            rfl
      obtain ⟨call, scans⟩ := generator.loadAndInsert_scans heap (rounds 0) (by omega)
      have nothing := scans.free_nil
      rw [endIs] at nothing
      rw [← nothing]
      by_cases noGap : call.free = []
      · left
        refine ⟨.inr ⟨by omega, noGap⟩, fillsExactly_last scans ?_ endIs⟩
        rw [ne_eq, scans.hasMore, scans.last]
        exact fun isMore => absurd (isMore noGap) (by omega)
      have hasMore : call.hasMore = true := by
        rw [scans.hasMore]
        exact fun isNothing => absurd isNothing noGap
      have position : call.generator.currentScanId = generator.initialMaxId + 1 := by
        rw [scans.currentScanId, endIs, max_eq_right (by omega)]
      have initial := scans.initialMaxId
      have nextEnd : call.generator.intervalEnd = min generator.initialMaxId
          ((generator.initialMaxId + 1 + generator.intervalSize) % 2 ^ 32) := by
        unfold intervalEnd
        rw [position, initial, scans.intervalSize]
      by_cases fits : generator.initialMaxId + 1 + generator.intervalSize < 2 ^ 32
      · have fills : FillsExactly heap call.generator (fun n => rounds (n + 1))
            call.generator.currentScanId call.generator.initialMaxId :=
          fillCache_behind (by omega) (by omega) (by omega)
        rw [initial] at fills
        exact .inl ⟨.inl fits, fillsExactly_more scans hasMore (by omega) (by omega) fills⟩
      · refine .inr ⟨by tauto, fillCache_more scans hasMore fun fuel => ?_⟩
        exact fillCache_stuck (by omega) (by omega) (by omega)

end ItemIdGenerator

theorem filling_bounded (guids : List UInt32) (intervalSize : UInt32) :
    (ItemIdGenerator.filling guids intervalSize).initialMaxId < 2 ^ 32 := by
  induction guids with
  | nil => exact Nat.two_pow_pos 32
  | cons guid rest induction => exact max_lt guid.toNat_lt induction

/-- The scan finds the free ids and stops if and only if there are no items or its position never
wraps. -/
theorem fillCache_exact_iff (heap : HeapOperations) (guids : List UInt32)
    (intervalSize : UInt32) (rounds : Nat → FillerRound) :
    FillsExactly heap (.filling guids intervalSize) rounds 1
        (ItemIdGenerator.filling guids intervalSize).initialMaxId ↔
      (ItemIdGenerator.filling guids intervalSize).initialMaxId = 0 ∨
        EndsFrom (.filling guids intervalSize) rounds := by
  have bounded := filling_bounded guids intervalSize
  have size : (ItemIdGenerator.filling guids intervalSize).intervalSize < 2 ^ 32 :=
    intervalSize.toNat_lt
  have position : (ItemIdGenerator.filling guids intervalSize).currentScanId = 1 := rfl
  generalize ItemIdGenerator.filling guids intervalSize = generator at *
  rw [← position]
  by_cases noIds : generator.initialMaxId = 0
  · have nothing : generator.intervalEnd = generator.initialMaxId := by
      unfold ItemIdGenerator.intervalEnd
      rw [noIds, Nat.zero_min]
    have fills := @ItemIdGenerator.fillCache_behind heap generator rounds (by omega) (by omega)
      nothing
    exact ⟨fun _ => .inl noIds, fun _ => fills⟩
  · rcases @ItemIdGenerator.fillCache_ends_or_not heap generator rounds (by omega) (by omega)
      bounded size with ⟨ends, fills⟩ | ⟨notEnds, never⟩
    · exact ⟨fun _ => .inr ends, fun _ => fills⟩
    · constructor
      · rintro ⟨enough, calls, _, _, fills⟩
        have ended := fills enough le_rfl
        rw [never] at ended
        cases ended
      · rintro (isZero | ends)
        · exact absurd isZero noIds
        · exact absurd ends notEnds

/-- The greatest id is in use and the one before is free. -/
def nearTheTop : FillerRound where
  rows := [4294967000]
  unique := by decide
  cache := []

/-- Behind the last id, the end of the next interval wraps. -/
theorem fillCache_nearTheTop :
    ¬∃ fuel calls, (ItemIdGenerator.filling [4294967000] 200000).fillCache sortedHeap fuel
      (fun _ => nearTheTop) = some calls := by
  have size : (ItemIdGenerator.filling [4294967000] 200000).intervalSize = 200000 := rfl
  have initial : (ItemIdGenerator.filling [4294967000] 200000).initialMaxId = 4294967000 := rfl
  have position : (ItemIdGenerator.filling [4294967000] 200000).currentScanId = 1 := rfl
  generalize ItemIdGenerator.filling [4294967000] 200000 = generator at *
  rintro ⟨fuel, calls, ends⟩
  rcases @ItemIdGenerator.fillCache_ends_or_not sortedHeap generator (fun _ => nearTheTop)
    (by omega) (by omega) (by omega) (by omega) with ⟨ends, _⟩ | ⟨_, never⟩
  · unfold EndsFrom at ends
    rw [size, initial, position] at ends
    rcases ends with noWrap | ⟨_, _, noGap⟩
    · omega
    · have inUse := noGap 4294966999 (by decide) (by decide)
      exact absurd inUse (by decide)
  · rw [never] at ends
    cases ends

end RealmServer.Globals
