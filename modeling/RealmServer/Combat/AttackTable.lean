import RealmServer.Combat.CombatFormulas

/-!
# Rolling on an attack table

The entries of an attack table lie one behind the other: each takes as many
percent as it has, and a roll gives the result of the entry in whose part it
falls.  What is left of the 100 goes to a default result, and what does not fit
is pushed off the table.
-/

namespace RealmServer.Combat

open MeasureTheory

variable {Result : Type}

/-! ## Building -/

/-- An entry with its `float` and its result. -/
structure AttackTableEntryData (Result : Type) where
  entry : AttackTableEntry
  percent : ℚ
  result : Result
deriving DecidableEq, Repr, Inhabited

abbrev AttackTable (Result : Type) := List (AttackTableEntryData Result)

/-- A format; the table's `Size` is a `uint8`. -/
structure TableFormat (Result : Type) where
  entries : List (AttackTableEntry × Result)
  size_le : entries.length ≤ 255

/-- `entryValue` of an entry. -/
def entryValue (table : BaseTable) (entry : AttackTableEntry) : ℚ :=
  if !table.checks entry then 0 else max (table.mods entry) 0

/-- `outTable` and the `index` behind what is built. -/
structure TableUnderConstruction (Result : Type) where
  outTable : AttackTable Result
  index : UInt8

def TableUnderConstruction.put (table : BaseTable) (built : TableUnderConstruction Result)
    (format : AttackTableEntry × Result) : TableUnderConstruction Result where
  outTable :=
    built.outTable.set built.index.toNat ⟨format.1, entryValue table format.1, format.2⟩
  index := built.index + 1

/-- `BuildAttackTable` -/
def buildAttackTable [Inhabited Result] (table : BaseTable) (format : TableFormat Result) :
    AttackTable Result :=
  (format.entries.foldl (TableUnderConstruction.put table)
    ⟨List.replicate format.entries.length default, 0⟩).outTable

/-! ## Rolling -/

/-- The two assertions. -/
inductive AssertionFailure where
  | negativePercent
  | noPercent
deriving DecidableEq, Repr

section

variable {Roll : Type} [RatCast Roll] [LE Roll] [DecidableLE Roll]

/-- The loop of `RollAttackTable`, from a `sum` on. -/
def rollFrom (defaultResult : Result) (roll : Roll) :
    AttackTable Result → ℚ → Except AssertionFailure Result
  | [], _ => .ok defaultResult
  | data :: rest, sum =>
      if ¬0 ≤ data.percent then .error .negativePercent
      else if roll ≤ ((sum + data.percent : ℚ) : Roll) then
        if data.percent = 0 then .error .noPercent else .ok data.result
      else rollFrom defaultResult roll rest (sum + data.percent)

/-- `RollAttackTable`, for a roll. -/
def rollAttackTable (attackTable : AttackTable Result) (defaultResult : Result) (roll : Roll) :
    Except AssertionFailure Result :=
  rollFrom defaultResult roll attackTable 0

end

/-! ## Parts of the 100 -/

/-- The sum of the entries in front of an index. -/
def before (table : AttackTable Result) (index : Nat) : ℚ :=
  ((table.take index).map AttackTableEntryData.percent).sum

/-- The part which an entry gets: its percents, as far as the entries before leave them. -/
def share (table : AttackTable Result) (index : Fin table.length) : ℚ :=
  min (table.get index).percent (max 0 (100 - before table index))

/-- What all entries leave. -/
def defaultShare (table : AttackTable Result) : ℚ := max 0 (100 - before table table.length)

/-- The roll falls in the part of an entry. -/
def Hits {Roll : Type} [RatCast Roll] [LT Roll] [LE Roll] (table : AttackTable Result)
    (index : Fin table.length) (roll : Roll) : Prop :=
  (before table index : Roll) < roll ∧ roll ≤ (before table (index + 1) : Roll)

/-! ## What is built -/

theorem entryValue_nonneg (table : BaseTable) (entry : AttackTableEntry) :
    0 ≤ entryValue table entry := by
  rw [entryValue]
  split_ifs with disabled
  · exact le_refl 0
  · exact le_max_right _ _

/-- Only what can happen and has percents gets a part. -/
theorem entryValue_pos_iff (table : BaseTable) (entry : AttackTableEntry) :
    0 < entryValue table entry ↔ table.checks entry = true ∧ 0 < table.mods entry := by
  rw [entryValue]
  cases table.checks entry with
  | false => simp
  | true => simp

/-- What the format becomes, entry by entry. -/
def tableOf (table : BaseTable) (entries : List (AttackTableEntry × Result)) :
    AttackTable Result :=
  entries.map fun format => ⟨format.1, entryValue table format.1, format.2⟩

/-- Each turn of the loop fills the next place. -/
theorem foldl_put [Inhabited Result] (table : BaseTable)
    (done rest : List (AttackTableEntry × Result)) (small : done.length + rest.length ≤ 255) :
    (rest.foldl (TableUnderConstruction.put table)
      ⟨tableOf table done ++ List.replicate rest.length default,
        UInt8.ofNat done.length⟩).outTable = tableOf table (done ++ rest) := by
  induction rest generalizing done with
  | nil => simp
  | cons format rest induction =>
      have place : (UInt8.ofNat done.length).toNat = (tableOf table done).length := by
        rw [UInt8.toNat_ofNat', tableOf, List.length_map]
        apply Nat.mod_eq_of_lt
        rw [List.length_cons] at small
        omega
      have next : UInt8.ofNat done.length + 1 = UInt8.ofNat (done ++ [format]).length := by
        rw [List.length_append, List.length_singleton, UInt8.ofNat_add]
        rfl
      have put : TableUnderConstruction.put table
          ⟨tableOf table done ++ List.replicate (format :: rest).length default,
            UInt8.ofNat done.length⟩ format =
          ⟨tableOf table (done ++ [format]) ++ List.replicate rest.length default,
            UInt8.ofNat (done ++ [format]).length⟩ := by
        rw [TableUnderConstruction.put, place, next, List.length_cons, List.replicate_succ,
          List.set_append_right _ _ (Nat.le_refl _), Nat.sub_self, List.set_cons_zero]
        simp [tableOf]
      rw [List.foldl_cons, put, induction]
      · rw [List.append_assoc, List.singleton_append]
      · rw [List.length_append, List.length_singleton]
        rw [List.length_cons] at small
        omega

theorem buildAttackTable_eq [Inhabited Result] (table : BaseTable) (format : TableFormat Result) :
    buildAttackTable table format = tableOf table format.entries :=
  foldl_put table [] format.entries (by simpa using format.size_le)

theorem tableOf_nonneg {table : BaseTable} {entries : List (AttackTableEntry × Result)} :
    ∀ data ∈ tableOf table entries, 0 ≤ data.percent := by
  intro data member
  obtain ⟨format, _, rfl⟩ := List.mem_map.mp member
  exact entryValue_nonneg table format.1

/-! ## Where a roll falls -/

section

@[simp]
theorem before_zero (table : AttackTable Result) : before table 0 = 0 := rfl

@[simp]
theorem before_cons_succ (data : AttackTableEntryData Result) (rest : AttackTable Result)
    (index : Nat) : before (data :: rest) (index + 1) = data.percent + before rest index := by
  rw [before, List.take_succ_cons, List.map_cons, List.sum_cons, before]

theorem before_nonneg {table : AttackTable Result} (nonneg : ∀ data ∈ table, 0 ≤ data.percent)
    (index : Nat) : 0 ≤ before table index := by
  apply List.sum_nonneg
  intro percent member
  obtain ⟨data, taken, rfl⟩ := List.mem_map.mp member
  exact nonneg data (List.mem_of_mem_take taken)

variable {Roll : Type} [Field Roll] [LinearOrder Roll]
  {defaultResult : Result} {roll : Roll} {data : AttackTableEntryData Result}
  {table rest : AttackTable Result} {sum : ℚ}

theorem rollFrom_miss (nonneg : 0 ≤ data.percent)
    (behind : ((sum + data.percent : ℚ) : Roll) < roll) :
    rollFrom defaultResult roll (data :: rest) sum =
      rollFrom defaultResult roll rest (sum + data.percent) := by
  rw [rollFrom, if_neg (not_not.mpr nonneg), if_neg (not_le.mpr behind)]

/-- A roll behind all parts gives the default. -/
theorem rollFrom_of_misses (nonneg : ∀ data ∈ table, 0 ≤ data.percent)
    (above : (sum : Roll) < roll)
    (misses : ∀ index : Fin table.length, ¬(((sum + before table index : ℚ) : Roll) < roll ∧
      roll ≤ ((sum + before table (index + 1) : ℚ) : Roll))) :
    rollFrom defaultResult roll table sum = .ok defaultResult := by
  induction table generalizing sum with
  | nil => rfl
  | cons data rest induction =>
      have first : 0 ≤ data.percent := nonneg data List.mem_cons_self
      have behind : ((sum + data.percent : ℚ) : Roll) < roll := by
        have here := misses ⟨0, Nat.zero_lt_succ _⟩
        simp only [before_cons_succ, before_zero, add_zero] at here
        exact not_le.mp fun within => here ⟨above, within⟩
      rw [rollFrom_miss first behind]
      apply induction (fun other member => nonneg other (List.mem_cons_of_mem _ member)) behind
      intro index
      have there := misses index.succ
      simp only [Fin.val_succ, before_cons_succ, ← add_assoc] at there
      exact there

theorem rollAttackTable_of_misses (nonneg : ∀ data ∈ table, 0 ≤ data.percent)
    (positive : 0 < roll) (misses : ∀ index : Fin table.length, ¬Hits table index roll) :
    rollAttackTable table defaultResult roll = .ok defaultResult := by
  apply rollFrom_of_misses nonneg
  · rw [Rat.cast_zero]
    exact positive
  · intro index
    rw [zero_add, zero_add]
    exact misses index

variable [IsStrictOrderedRing Roll]

/-- A roll in the next entry gives its result, which is not one of no percents. -/
theorem rollFrom_hit (nonneg : 0 ≤ data.percent) (above : (sum : Roll) < roll)
    (within : roll ≤ ((sum + data.percent : ℚ) : Roll)) :
    0 < data.percent ∧ rollFrom defaultResult roll (data :: rest) sum = .ok data.result := by
  have less : sum < sum + data.percent := Rat.cast_lt.mp (above.trans_le within)
  have positive : 0 < data.percent := lt_add_iff_pos_right sum |>.mp less
  refine ⟨positive, ?_⟩
  rw [rollFrom, if_neg (not_not.mpr nonneg), if_pos within, if_neg positive.ne']

/-- The loop gives the result of the entry in whose part the roll falls. -/
theorem rollFrom_of_hits (nonneg : ∀ data ∈ table, 0 ≤ data.percent)
    (index : Fin table.length) (above : ((sum + before table index : ℚ) : Roll) < roll)
    (within : roll ≤ ((sum + before table (index + 1) : ℚ) : Roll)) :
    0 < (table.get index).percent ∧
      rollFrom defaultResult roll table sum = .ok (table.get index).result := by
  induction table generalizing sum with
  | nil => exact index.elim0
  | cons data rest induction =>
      have first : 0 ≤ data.percent := nonneg data List.mem_cons_self
      have later : ∀ data ∈ rest, 0 ≤ data.percent :=
        fun other member => nonneg other (List.mem_cons_of_mem _ member)
      cases index using Fin.cases with
      | zero =>
          simp only [Fin.val_zero, before_cons_succ, before_zero, add_zero] at above within
          exact rollFrom_hit first above within
      | succ index =>
          simp only [Fin.val_succ, before_cons_succ, ← add_assoc] at above within
          have least : sum + data.percent ≤ sum + data.percent + before rest index :=
            le_add_of_nonneg_right (before_nonneg later index)
          have behind : ((sum + data.percent : ℚ) : Roll) < roll :=
            (Rat.cast_le.mpr least).trans_lt above
          rw [rollFrom_miss first behind]
          exact induction later index above within

theorem rollAttackTable_of_hits (nonneg : ∀ data ∈ table, 0 ≤ data.percent)
    (index : Fin table.length) (hits : Hits table index roll) :
    0 < (table.get index).percent ∧
      rollAttackTable table defaultResult roll = .ok (table.get index).result := by
  apply rollFrom_of_hits nonneg index
  · rw [zero_add]
    exact hits.1
  · rw [zero_add]
    exact hits.2

end

/-! ## How much each result gets -/

section

variable [DecidableEq Result]

/-- The part of a result, behind a `sum`. -/
def shareFrom (defaultResult result : Result) : AttackTable Result → ℚ → ℚ
  | [], sum => if defaultResult = result then max 0 (100 - sum) else 0
  | data :: rest, sum =>
      (if data.result = result then min data.percent (max 0 (100 - sum)) else 0) +
        shareFrom defaultResult result rest (sum + data.percent)

variable {defaultResult result : Result} {table : AttackTable Result}

theorem shareFrom_nonneg (nonneg : ∀ data ∈ table, 0 ≤ data.percent) (sum : ℚ) :
    0 ≤ shareFrom defaultResult result table sum := by
  induction table generalizing sum with
  | nil =>
      rw [shareFrom]
      split_ifs with same
      · exact le_max_left _ _
      · exact le_refl 0
  | cons data rest induction =>
      rw [shareFrom]
      apply add_nonneg
      · split_ifs with same
        · exact le_min (nonneg data List.mem_cons_self) (le_max_left _ _)
        · exact le_refl 0
      · exact induction (fun other member => nonneg other (List.mem_cons_of_mem _ member)) _

/-- The part of a result is that of its entries, and that of the default if it is this one. -/
theorem shareFrom_eq (table : AttackTable Result) (sum : ℚ) :
    shareFrom defaultResult result table sum =
      (∑ index : Fin table.length, if (table.get index).result = result then
        min (table.get index).percent (max 0 (100 - (sum + before table index))) else 0) +
      if defaultResult = result then max 0 (100 - (sum + before table table.length)) else 0 := by
  induction table generalizing sum with
  | nil => simp [shareFrom]
  | cons data rest induction =>
      have others (index : Fin rest.length) :
          ((data :: rest).get index.succ) = rest.get index := rfl
      rw [shareFrom, induction]
      refine Eq.trans ?_ (congrArg (· + _) (Fin.sum_univ_succ _).symm)
      simp only [Fin.val_zero, before_zero, add_zero, Fin.val_succ, before_cons_succ, others,
        add_assoc]
      rfl

/-- The rolls in `(first, last]` are as many as it is long. -/
theorem volume_between (first last : ℚ) :
    volume {roll : ℝ | (first : ℝ) < roll ∧ roll ≤ last} =
      ENNReal.ofReal ((max 0 (last - first) : ℚ) : ℝ) := by
  have interval : {roll : ℝ | (first : ℝ) < roll ∧ roll ≤ last} = Set.Ioc (first : ℝ) last := rfl
  rw [interval, Real.volume_Ioc, Rat.cast_max, Rat.cast_zero, Rat.cast_sub, ENNReal.ofReal_max]
  simp

theorem next_part {percent : ℚ} (nonneg : 0 ≤ percent) (sum : ℚ) :
    max 0 (min (sum + percent) 100 - sum) = min percent (max 0 (100 - sum)) := by
  rw [← min_sub_sub_right, add_sub_cancel_left, max_min_distrib_left, max_eq_right nonneg]

theorem volume_rollFrom (nonneg : ∀ data ∈ table, 0 ≤ data.percent) (sum : ℚ) :
    volume {roll : ℝ | (sum : ℝ) < roll ∧ roll ≤ 100 ∧
        rollFrom defaultResult roll table sum = .ok result} =
      ENNReal.ofReal (shareFrom defaultResult result table sum : ℝ) := by
  induction table generalizing sum with
  | nil =>
      by_cases same : defaultResult = result
      · have whole : {roll : ℝ | (sum : ℝ) < roll ∧ roll ≤ 100 ∧
            rollFrom defaultResult roll [] sum = .ok result} =
              {roll : ℝ | (sum : ℝ) < roll ∧ roll ≤ (100 : ℚ)} := by
          ext roll
          simp [rollFrom, same]
        rw [whole, volume_between, shareFrom, if_pos same]
      · have nothing : {roll : ℝ | (sum : ℝ) < roll ∧ roll ≤ 100 ∧
            rollFrom defaultResult roll [] sum = .ok result} = ∅ := by
          ext roll
          simp [rollFrom, same]
        rw [nothing, measure_empty, shareFrom, if_neg same, Rat.cast_zero, ENNReal.ofReal_zero]
  | cons data rest induction =>
      have first : 0 ≤ data.percent := nonneg data List.mem_cons_self
      have later : ∀ other ∈ rest, 0 ≤ other.percent :=
        fun other member => nonneg other (List.mem_cons_of_mem _ member)
      let here : Set ℝ := {roll | data.result = result ∧ (sum : ℝ) < roll ∧
        roll ≤ (min (sum + data.percent) 100 : ℚ)}
      let behind : Set ℝ := {roll | ((sum + data.percent : ℚ) : ℝ) < roll ∧ roll ≤ 100 ∧
        rollFrom defaultResult roll rest (sum + data.percent) = .ok result}
      have split : {roll : ℝ | (sum : ℝ) < roll ∧ roll ≤ 100 ∧
          rollFrom defaultResult roll (data :: rest) sum = .ok result} = here ∪ behind := by
        ext roll
        have least : (sum : ℝ) ≤ ((sum + data.percent : ℚ) : ℝ) :=
          Rat.cast_le.mpr (le_add_of_nonneg_right first)
        have cut : roll ≤ ((min (sum + data.percent) 100 : ℚ) : ℝ) ↔
            roll ≤ ((sum + data.percent : ℚ) : ℝ) ∧ roll ≤ 100 := by
          rw [Rat.cast_min, le_min_iff, Rat.cast_ofNat]
        rw [Set.mem_union, Set.mem_ofPred_eq, Set.mem_ofPred_eq, Set.mem_ofPred_eq, cut]
        constructor
        · rintro ⟨above, small, rolled⟩
          by_cases within : roll ≤ ((sum + data.percent : ℚ) : ℝ)
          · rw [(rollFrom_hit first above within).2] at rolled
            exact Or.inl ⟨Except.ok.inj rolled, above, within, small⟩
          · rw [rollFrom_miss first (not_le.mp within)] at rolled
            exact Or.inr ⟨not_le.mp within, small, rolled⟩
        · rintro (⟨same, above, within, small⟩ | ⟨above, small, rolled⟩)
          · refine ⟨above, small, ?_⟩
            rw [(rollFrom_hit first above within).2, same]
          · refine ⟨least.trans_lt above, small, ?_⟩
            rw [rollFrom_miss first above]
            exact rolled
      have apart : Disjoint here behind := by
        rw [Set.disjoint_left]
        rintro roll ⟨_, _, within⟩ ⟨above, _⟩
        have cut : ((min (sum + data.percent) 100 : ℚ) : ℝ) ≤ ((sum + data.percent : ℚ) : ℝ) :=
          Rat.cast_le.mpr (min_le_left _ _)
        exact absurd (within.trans cut) (not_le.mpr above)
      have measured : MeasurableSet here ∧ volume here = ENNReal.ofReal
          ((if data.result = result then min data.percent (max 0 (100 - sum)) else 0 : ℚ) : ℝ) := by
        by_cases same : data.result = result
        · have whole : here = {roll : ℝ | (sum : ℝ) < roll ∧
              roll ≤ (min (sum + data.percent) 100 : ℚ)} := by
            ext roll
            exact and_iff_right same
          rw [whole, volume_between, next_part first, if_pos same]
          exact ⟨measurableSet_Ioc, rfl⟩
        · have nothing : here = ∅ := by
            ext roll
            exact iff_of_false (fun member => same member.1) (Set.notMem_empty roll)
          rw [nothing, measure_empty, if_neg same, Rat.cast_zero, ENNReal.ofReal_zero]
          exact ⟨MeasurableSet.empty, rfl⟩
      have hereNonneg :
          0 ≤ if data.result = result then min data.percent (max 0 (100 - sum)) else 0 := by
        split_ifs with same
        · exact le_min first (le_max_left _ _)
        · exact le_refl 0
      rw [split, measure_union' apart measured.1, measured.2, induction later, shareFrom,
        Rat.cast_add, ENNReal.ofReal_add (Rat.cast_nonneg.mpr hereNonneg)
          (Rat.cast_nonneg.mpr (shareFrom_nonneg later _))]

/-- The rolls for a result are as many as the parts of its entries are long, and the default gets
the rest. -/
theorem volume_rollAttackTable (nonneg : ∀ data ∈ table, 0 ≤ data.percent) :
    volume {roll : ℝ | 0 < roll ∧ roll ≤ 100 ∧
        rollAttackTable table defaultResult roll = .ok result} =
      ENNReal.ofReal (((∑ index : Fin table.length,
          if (table.get index).result = result then share table index else 0) +
        if defaultResult = result then defaultShare table else 0 : ℚ) : ℝ) := by
  have rolls : volume {roll : ℝ | ((0 : ℚ) : ℝ) < roll ∧ roll ≤ 100 ∧
      rollAttackTable table defaultResult roll = .ok result} =
        ENNReal.ofReal (shareFrom defaultResult result table 0 : ℝ) := volume_rollFrom nonneg 0
  rw [Rat.cast_zero, shareFrom_eq] at rolls
  simp only [zero_add] at rolls
  exact rolls

end

/-! ## Attacks -/

/-- Every attack distributes its outcomes as its base table says. -/
theorem attackTable_distributes [Inhabited Result] [DecidableEq Result]
    (attacker : AttackerParams) (victim : VictimParams) (format : TableFormat Result)
    (defaultResult : Result) :
    let base := createBaseTable attacker victim
    let table := buildAttackTable base format
    table = format.entries.map (fun entry =>
        ⟨entry.1, if base.checks entry.1 then max (base.mods entry.1) 0 else 0, entry.2⟩) ∧
      (∀ roll : ℝ, 0 < roll → roll ≤ 100 →
        (∃ result, rollAttackTable table defaultResult roll = .ok result) ∧
        (∀ index : Fin table.length, Hits table index roll →
          rollAttackTable table defaultResult roll = .ok (table.get index).result ∧
          base.checks (table.get index).entry = true ∧ 0 < base.mods (table.get index).entry) ∧
        ((∀ index : Fin table.length, ¬Hits table index roll) →
          rollAttackTable table defaultResult roll = .ok defaultResult)) ∧
      ∀ result, volume {roll : ℝ | 0 < roll ∧ roll ≤ 100 ∧
          rollAttackTable table defaultResult roll = .ok result} =
        ENNReal.ofReal (((∑ index : Fin table.length,
            if (table.get index).result = result then share table index else 0) +
          if defaultResult = result then defaultShare table else 0 : ℚ) : ℝ) := by
  intro base table
  have built : table = tableOf base format.entries := buildAttackTable_eq base format
  have nonneg : ∀ data ∈ table, 0 ≤ data.percent := by
    rw [built]
    exact tableOf_nonneg
  have values : ∀ data ∈ table, data.percent = entryValue base data.entry := by
    rw [built]
    intro data member
    obtain ⟨entry, _, rfl⟩ := List.mem_map.mp member
    rfl
  refine ⟨?_, ?_, fun result => volume_rollAttackTable nonneg⟩
  · rw [built, tableOf]
    refine List.map_congr_left fun entry _ => ?_
    rw [entryValue]
    cases base.checks entry.1 with
    | false => rfl
    | true => rfl
  · intro roll positive _
    refine ⟨?_, ?_, rollAttackTable_of_misses nonneg positive⟩
    · by_cases some : ∃ index : Fin table.length, Hits table index roll
      · obtain ⟨index, hits⟩ := some
        exact ⟨_, (rollAttackTable_of_hits nonneg index hits).2⟩
      · exact ⟨_, rollAttackTable_of_misses nonneg positive (not_exists.mp some)⟩
    · intro index hits
      obtain ⟨percents, rolled⟩ : 0 < (table.get index).percent ∧
          rollAttackTable table defaultResult roll = .ok (table.get index).result :=
        rollAttackTable_of_hits nonneg index hits
      rw [values _ (List.get_mem table index)] at percents
      exact ⟨rolled, (entryValue_pos_iff base _).mp percents⟩

/-- Somebody whose checks are left as they are. -/
def ordinary : ICombatant where
  evaluateAttackerTable := fun checks _ => checks
  evaluateVictimTable := fun checks _ => checks

/-- Two equally skilled players, one of whom misses nothing. -/
def sureAttacker : AttackerParams where
  isPlayer := true
  isRanged := false
  hit := 5
  crit := 30
  expertise := 0
  weaponSkill := 400
  attacker := ordinary

def fairVictim : VictimParams where
  isPlayer := true
  isAttackedFromBehind := false
  cantDefend := false
  level := 80
  miss := 5
  dodge := 0
  parry := 0
  block := 0
  resist := 0
  deflect := 0
  defenseSkill := 400
  victim := ordinary

/-- A roll of one percent between them has an outcome. -/
theorem attackTable_distributes_fair :
    ∃ result, rollAttackTable (buildAttackTable (createBaseTable sureAttacker fairVictim)
      ⟨[(.miss, 0), (.crit, 1)], by decide⟩) 2 (1 : ℝ) = .ok result :=
  ((attackTable_distributes sureAttacker fairVictim ⟨[(.miss, 0), (.crit, 1)], by decide⟩
    (2 : Nat)).2.1 1 (by norm_num) (by norm_num)).1

end RealmServer.Combat
