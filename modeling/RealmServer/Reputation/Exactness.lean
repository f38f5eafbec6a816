import RealmServer.Reputation.Saving

/-!
# Exact standings

The sum of an incremental change is formed in an `int32` before it is limited.
The standings and counters of a run are exact if and only if none of these sums
leaves the type: a gain that is large enough ends at the bottom of the scale.
-/

namespace RealmServer.Reputation

open Table Transition

/-! ## One change -/

namespace Change

variable (change : Change)

/-- The sum of a change, or the standing which is set. -/
def sum : Int :=
  if change.incremental then change.before.toInt + change.amount.toInt else change.amount.toInt

/-- The sum was brought within the limits, and only that. -/
def Exact : Prop :=
  change.after.toInt = max reputationBottom.toInt (min change.sum reputationCap.toInt)

/-- The sum is a value of an `int32`. -/
def Fits : Prop := Int32.minValue.toInt ≤ change.sum ∧ change.sum ≤ Int32.maxValue.toInt

instance : Decidable change.Exact := by
  unfold Exact
  infer_instance

instance : Decidable change.Fits := by
  unfold Fits
  infer_instance

end Change

theorem toInt_clamp (standing : Int32) : (clamp standing).toInt =
    max reputationBottom.toInt (min standing.toInt reputationCap.toInt) := by
  have isBottom : reputationBottom.toInt = -42000 := by decide
  have isCap : reputationCap.toInt = 42999 := by decide
  unfold clamp
  split_ifs with high low
  · rw [Int32.lt_iff_toInt_lt] at high
    omega
  · rw [Int32.lt_iff_toInt_lt] at high low
    omega
  · rw [Int32.lt_iff_toInt_lt] at high low
    omega

/-- A sum that leaves the type ends at the wrong limit. -/
theorem exact_iff_fits {change : Change} (lower : reputationBottom.toInt ≤ change.before.toInt)
    (upper : change.before.toInt ≤ reputationCap.toInt)
    (isAfter : change.after =
      clamp (if change.incremental then change.amount + change.before else change.amount)) :
    change.Exact ↔ change.Fits := by
  have isBottom : reputationBottom.toInt = -42000 := by decide
  have isCap : reputationCap.toInt = 42999 := by decide
  have isMin : Int32.minValue.toInt = -2147483648 := by decide
  have isMax : Int32.maxValue.toInt = 2147483647 := by decide
  have least := change.amount.le_toInt
  have most := change.amount.toInt_lt
  unfold Change.Exact Change.Fits Change.sum
  rw [isAfter, toInt_clamp]
  split_ifs with incremental
  · rw [Int32.toInt_add]
    simp only [Int.bmod_def]
    omega
  · omega

/-! ## Several changes -/

section Spill

variable {store : FactionStore} {player : Player} {rates : Rates} {incremental : Bool}
  {property : Manager → Prop}

theorem spill_of_one (one : ∀ manager entry standing, entry ∈ store.entries → property manager →
      property (manager.setOneFactionReputation store player rates entry standing incremental))
    {manager : Manager} (holds : property manager) (entry : FactionEntry) (standing : Int32) :
    property (manager.spill store player rates entry standing incremental) := by
  have team : ∀ list reduced, property
      (Manager.spillToTeam store player rates entry standing incremental reduced manager list) := by
    intro list reduced
    unfold Manager.spillToTeam
    apply List.foldlRecOn list _ holds
    intro manager holds id _
    split
    · exact holds
    · rename_i target found
      dsimp only
      split_ifs
      · exact holds
      · exact one manager target _ (isEntry_of_lookup found) holds
      · exact holds
  have byTemplate : ∀ template, property
      (Manager.spillByTemplate store player rates standing incremental manager template) := by
    intro template
    unfold Manager.spillByTemplate
    apply List.foldlRecOn template _ holds
    intro manager holds spillover _
    split_ifs
    · split
      · exact holds
      · rename_i target found
        exact one manager target _ (isEntry_of_lookup found) holds
    · exact holds
  unfold Manager.spill
  split
  · exact byTemplate _
  · split
    · exact team _ _
    · split_ifs
      · split
        · exact holds
        · rename_i parent found
          dsimp only
          split_ifs
          · exact one manager parent _ (isEntry_of_lookup found) holds
          · split
            · exact holds
            · exact team _ _
      · exact holds

theorem setReputation_of_one (one : ∀ manager entry standing, entry ∈ store.entries →
      property manager →
        property (manager.setOneFactionReputation store player rates entry standing incremental))
    (sent : ∀ manager, property manager → property manager.sendState) {manager : Manager}
    (holds : property manager) {entry : FactionEntry} (isEntry : entry ∈ store.entries)
    (standing : Int32) :
    property (manager.setReputation store player rates entry standing incremental) := by
  have spilled := spill_of_one one holds entry standing
  unfold Manager.setReputation
  extract_lets after
  split
  · exact spilled
  · exact sent _ (one _ entry standing isEntry spilled)

end Spill

/-! ## Runs -/

/-- What every event keeps, since some changes were made. -/
structure Sound (store : FactionStore) (player : Player) (earlier : List Change)
    (rows : List Row) (manager : Manager) : Prop where
  tracked : Tracked store player manager rows
  changes : ∀ change ∈ manager.history, (change.Exact ↔ change.Fits)
  earlier : ∀ change ∈ earlier, change ∈ manager.history

section Run

variable {store : FactionStore} {player : Player} {manager : Manager} {rows : List Row}
  {earlier : List Change}

theorem getReputation_of_findState (player : Player) {entry : FactionEntry}
    (isListed : entry ∈ store.listed) {faction : FactionState}
    (found : manager.findState entry = some faction) :
    manager.getReputation player entry = getBaseReputation player entry + faction.standing := by
  unfold Manager.getReputation
  rw [getState_of_listed isListed, found]

theorem history_setOneFactionReputation (store : FactionStore) (player : Player) (rates : Rates)
    {entry : FactionEntry} {faction : FactionState} (found : manager.findState entry = some faction)
    (standing : Int32) (incremental : Bool) :
    (manager.setOneFactionReputation store player rates entry standing incremental).history =
      ⟨manager.getReputation player entry, incremental,
        if incremental then rates.gain standing else standing,
        (manager.setOneFactionReputation store player rates entry standing
          incremental).getReputation player entry⟩ :: manager.history := by
  unfold Manager.setOneFactionReputation
  rw [found]
  rfl

theorem Sound.setOneFactionReputation (sound : Sound store player earlier rows manager)
    (rates : Rates) {entry : FactionEntry} (isEntry : entry ∈ store.entries) (standing : Int32)
    (incremental : Bool) : Sound store player earlier rows
      (manager.setOneFactionReputation store player rates entry standing incremental) := by
  have tracked := sound.tracked.setOneFactionReputation rates isEntry standing incremental
  cases found : manager.findState entry with
  | none =>
      rw [setOneFactionReputation_of_none rates found]
      exact sound
  | some faction =>
      have isListed := listed_of_findState sound.tracked isEntry found
      obtain ⟨next, given⟩ : ∃ next, Given player entry faction next _ manager _ :=
        given_setOneFactionReputation manager rates isEntry found standing incremental
      have history := history_setOneFactionReputation store player rates found standing incremental
      have before := getReputation_of_findState player isListed found
      have afterFound : (manager.setOneFactionReputation store player rates entry standing
          incremental).findState entry = some next := by
        unfold Manager.findState
        rw [given.written.factions]
        exact findState_write found given.reputationListID
      have after := getReputation_of_findState player isListed afterFound
      obtain ⟨old, -, isOld, -, -, fits⟩ := sound.tracked.find isListed
      obtain rfl : faction = old := Option.some.inj (found.symm.trans isOld)
      have exactBefore : (getBaseReputation player entry + faction.standing).toInt =
          (getBaseReputation player entry).toInt + faction.standing.toInt := by
        have isBottom : reputationBottom.toInt = -42000 := by decide
        have isCap : reputationCap.toInt = 42999 := by decide
        have lower := fits.lower
        have upper := fits.upper
        rw [Int32.toInt_add]
        simp only [Int.bmod_def]
        omega
      refine ⟨tracked, ?_, ?_⟩
      · rw [history]
        intro change isChange
        rcases List.mem_cons.mp isChange with rfl | isOlder
        · apply exact_iff_fits
          · rw [before, exactBefore]
            exact fits.lower
          · rw [before, exactBefore]
            exact fits.upper
          · rw [after, given.isTotal, before]
            unfold wanted
            rw [Int32.add_comm faction.standing]
            cases incremental <;> rfl
        · exact sound.changes change isOlder
      · rw [history]
        intro change isEarlier
        exact List.mem_cons_of_mem _ (sound.earlier change isEarlier)

/-- An operation that is no change. -/
theorem Sound.unchanged {saved : List Row} {after : Manager}
    (sound : Sound store player earlier rows manager) (tracked : Tracked store player after saved)
    (same : after.history = manager.history) : Sound store player earlier saved after := by
  refine ⟨tracked, ?_, ?_⟩
  · rw [same]
    exact sound.changes
  · rw [same]
    exact sound.earlier

theorem Sound.sendState (sound : Sound store player earlier rows manager) :
    Sound store player earlier rows manager.sendState :=
  sound.unchanged sound.tracked.sendState rfl

theorem history_setVisible (entry : FactionEntry) :
    (manager.setVisible entry).history = manager.history := by
  unfold Manager.setVisible
  split <;> rfl

theorem history_setAtWar (key : UInt32) (on : Bool) :
    (manager.setAtWar store player key on).history = manager.history := by
  unfold Manager.setAtWar
  split
  · rfl
  · split_ifs <;> rfl

theorem history_setInactive (key : UInt32) (on : Bool) :
    (manager.setInactive key on).history = manager.history := by
  unfold Manager.setInactive
  split <;> rfl

theorem history_loadFromDB (manager : Manager) (rows : List Row) :
    (manager.loadFromDB store player rows).history = manager.history := by
  have initial : (manager.initializeFactions store player).history = manager.history := by
    unfold Manager.initializeFactions
    exact List.foldlRecOn store.listed
      (motive := fun next : Manager => next.history = manager.history) _ rfl
      fun next same entry _ => same
  unfold Manager.loadFromDB
  refine List.foldlRecOn rows (motive := fun next : Manager => next.history = manager.history)
    _ initial ?_
  intro next same row _
  rw [← same]
  unfold Manager.loadRow
  split
  · rfl
  · split <;> rfl

/-- What every event keeps of a manager and the rows. -/
structure Steady (store : FactionStore) (player : Player) (earlier : List Change)
    (state : State) : Prop where
  sound : Sound store player earlier state.rows state.manager
  rows : RowsFit store player state.rows

theorem Steady.step {state : State} (steady : Steady store player earlier state)
    (small : IdsFit store) (event : Event) :
    Steady store player earlier (step store player state event) := by
  obtain ⟨sound, rowsFit⟩ := steady
  have withEntry : ∀ id change,
      (∀ entry ∈ store.entries,
        Sound store player earlier state.rows (change state.manager entry)) →
        Steady store player earlier (state.withEntry store id change) := by
    intro id change changed
    unfold State.withEntry
    split
    · exact ⟨sound, rowsFit⟩
    · rename_i entry found
      exact ⟨changed entry (isEntry_of_lookup found), rowsFit⟩
  cases event with
  | loadFromDB =>
      exact ⟨sound.unchanged (Loading.all store player state.manager small rowsFit).tracked
        (history_loadFromDB _ _), rowsFit⟩
  | saveToDB =>
      exact ⟨sound.unchanged (sound.tracked.saveToDB small) rfl, rowsFit.saveToDB sound.tracked⟩
  | setReputation rates id standing incremental =>
      refine withEntry id (fun manager entry =>
        manager.setReputation store player rates entry standing incremental) ?_
      intro entry isEntry
      exact setReputation_of_one
        (fun _ _ standing isEntry sound =>
          sound.setOneFactionReputation rates isEntry standing incremental)
        (fun _ sound => sound.sendState) sound isEntry standing
  | setOneFactionReputation rates id standing incremental =>
      refine withEntry id (fun manager entry =>
        manager.setOneFactionReputation store player rates entry standing incremental) ?_
      intro entry isEntry
      exact sound.setOneFactionReputation rates isEntry standing incremental
  | setVisible id =>
      refine withEntry id _ ?_
      intro entry _
      exact sound.unchanged (sound.tracked.setVisible entry) (history_setVisible entry)
  | setAtWar key on =>
      exact ⟨sound.unchanged (sound.tracked.setAtWar key on) (history_setAtWar key on), rowsFit⟩
  | setInactive key on =>
      exact ⟨sound.unchanged (sound.tracked.setInactive key on) (history_setInactive key on),
        rowsFit⟩

theorem Steady.start (store : FactionStore) (player : Player) (small : IdsFit store) :
    Steady store player [] (State.start store player) := by
  have noRows : RowsFit store player [] :=
    ⟨List.nodup_nil, fun row isRow => absurd isRow List.not_mem_nil⟩
  have noChange : (State.start store player).manager.history = [] := history_loadFromDB _ _
  refine ⟨⟨(Loading.all store player Manager.init small noRows).tracked, ?_, ?_⟩, noRows⟩
  · rw [noChange]
    exact fun change isChange => absurd isChange List.not_mem_nil
  · exact fun change isChange => absurd isChange List.not_mem_nil

/-- The standings, the counters and what is saved of them are right. -/
structure ExactState (store : FactionStore) (player : Player) (state : State) : Prop where
  range : ∀ entry ∈ store.listed, ∃ faction, state.manager.findState entry = some faction ∧
    reputationBottom.toInt ≤ (getBaseReputation player entry).toInt + faction.standing.toInt ∧
      (getBaseReputation player entry).toInt + faction.standing.toInt ≤ reputationCap.toInt
  changes : ∀ change ∈ state.manager.history, change.Exact
  honored : state.manager.honoredFactionCount.toNat =
    rankCount store player state.manager repHonored
  revered : state.manager.reveredFactionCount.toNat =
    rankCount store player state.manager repRevered
  exalted : state.manager.exaltedFactionCount.toNat =
    rankCount store player state.manager repExalted
  visible : state.manager.visibleFactionCount.toNat = visibleCount store state.manager
  restored : Restored store state.manager
    (Manager.init.loadFromDB store player (state.manager.saveToDB state.rows).2)

theorem toNat_ofNat_count (chosen : FactionEntry → Bool) :
    (UInt8.ofNat (store.listed.countP chosen)).toNat = store.listed.countP chosen := by
  apply UInt8.toNat_ofNat_of_lt'
  have most : store.listed.countP chosen ≤ store.listed.length := List.countP_le_length
  have listed : store.listed.length ≤
      (store.entries.filter FactionEntry.canHaveReputation).length := List.length_filter_le _ _
  exact Nat.lt_succ_of_le (most.trans (listed.trans store.few))

theorem Steady.exact_iff {state : State} (steady : Steady store player earlier state)
    (small : IdsFit store) :
    ExactState store player state ↔ ∀ change ∈ state.manager.history, change.Fits := by
  obtain ⟨⟨tracked, changes, -⟩, rowsFit⟩ := steady
  constructor
  · intro exact change isChange
    exact (changes change isChange).mp (exact.changes change isChange)
  · intro fits
    refine ⟨?_, ?_, ?_, ?_, ?_, ?_, tracked.restored small rowsFit⟩
    · intro entry isListed
      obtain ⟨faction, -, found, -, -, fits⟩ := tracked.find isListed
      exact ⟨faction, found, fits.lower, fits.upper⟩
    · exact fun change isChange => (changes change isChange).mpr (fits change isChange)
    · rw [tracked.honored]
      exact toNat_ofNat_count _
    · rw [tracked.revered]
      exact toNat_ofNat_count _
    · rw [tracked.exalted]
      exact toNat_ofNat_count _
    · rw [tracked.visible]
      exact toNat_ofNat_count _

end Run

/--
Standings and counters are exact throughout a run if and only if no sum of a
change leaves its type.
-/
theorem exact_throughout_iff (store : FactionStore) (player : Player) (small : IdsFit store)
    (events : List Event) :
    Throughout (step store player) (ExactState store player) (State.start store player) events ↔
      ∀ change ∈ (run (step store player) (State.start store player) events).manager.history,
        change.Fits := by
  have preserved : ∀ state event, Steady store player [] state →
      Steady store player [] (step store player state event) :=
    fun _ event steady => steady.step small event
  have start := Steady.start store player small
  have agree : ∀ state, Steady store player [] state →
      (ExactState store player state ↔ ∀ change ∈ state.manager.history, change.Fits) :=
    fun _ steady => steady.exact_iff small
  rw [throughout_congr preserved agree start]
  refine (run_iff_throughout preserved ?_ events start).symm
  intro state event steady later change isChange
  have same : Steady store player state.manager.history state :=
    ⟨⟨steady.sound.tracked, steady.sound.changes, fun _ isChange => isChange⟩, steady.rows⟩
  exact later change ((same.step small event).sound.earlier change isChange)

/-! ### One faction -/

/-- A faction everyone is neutral with at first. -/
def someFaction : FactionEntry where
  id := 21
  reputationListID := 1
  baseRepRaceMask := fun _ => 0
  baseRepClassMask := fun _ => 0
  baseRepValue := fun _ => 0
  reputationFlags := fun _ => 0
  team := 0
  spillsOut := false
  spilloverMaxRankIn := 0

def someStore : FactionStore where
  entries := [someFaction]
  ids := by decide
  listIds := by decide
  baseValues := by
    intro entry isEntry index
    obtain rfl := List.mem_singleton.mp isEntry
    show reputationBottom ≤ 0 ∧ 0 ≤ reputationCap
    decide
  active := by
    intro entry isEntry index
    obtain rfl := List.mem_singleton.mp isEntry
    show hasFlag 0 factionFlagInactive = false
    decide
  few := by decide
  teamList := fun _ => none
  templates := fun _ => none

def somePlayer : Player := ⟨1, 1⟩

/-- Nothing is multiplied. -/
def plainRates : Rates := ⟨id, id, fun _ _ => id⟩

theorem someStore_idsFit : IdsFit someStore := by
  intro entry isListed
  obtain rfl := List.mem_singleton.mp (entry_of_listed isListed)
  decide

/-- A gain is stored and read again. -/
theorem someStore_exact_iff :
    IdsFit someStore ∧
    (Throughout (step someStore somePlayer) (ExactState someStore somePlayer)
      (State.start someStore somePlayer)
      [.setReputation plainRates 21 5000 true, .saveToDB, .loadFromDB] ↔
    ∀ change ∈ (run (step someStore somePlayer) (State.start someStore somePlayer)
      [.setReputation plainRates 21 5000 true, .saveToDB, .loadFromDB]).manager.history,
        change.Fits) :=
  ⟨someStore_idsFit, exact_throughout_iff someStore somePlayer someStore_idsFit _⟩

/-- The largest float below 2^31 as a gain makes a friend the worst enemy. -/
theorem not_exact_of_overflow :
    ¬ Throughout (step someStore somePlayer) (ExactState someStore somePlayer)
      (State.start someStore somePlayer)
      [.setReputation plainRates 21 5000 true, .setReputation plainRates 21 2147483520 true] := by
  intro exact
  have history : (run (step someStore somePlayer) (State.start someStore somePlayer)
      [.setReputation plainRates 21 5000 true,
        .setReputation plainRates 21 2147483520 true]).manager.history =
      [⟨5000, true, 2147483520, -42000⟩, ⟨0, true, 5000, 5000⟩] := by decide
  have changes := exact.last.changes
  rw [history] at changes
  exact absurd (changes _ List.mem_cons_self) (by decide)

end RealmServer.Reputation
