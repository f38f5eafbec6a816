import RealmServer.Reputation.Tracking

/-!
# Saving and loading

`LoadFromDB` takes the old rank of a faction from its base value.  That is right
because a row is the first thing which happens to its faction after
`Initialize`: `Loading` says what holds after some of the rows.
-/

namespace RealmServer.Reputation

open Table Counting

/-! ## Flags of a row -/

theorem saved_flag (flags flag : UInt8) :
    (flags.toUInt16.toUInt32 &&& flag.toUInt32 != 0) = hasFlag flags flag := by
  unfold hasFlag
  rw [UInt8.toUInt32_toUInt16, ← UInt8.toUInt32_and]
  have zero : (0 : UInt32) = (0 : UInt8).toUInt32 := rfl
  rw [zero, Bool.eq_iff_iff, bne_iff_ne, bne_iff_ne, Ne, UInt8.toUInt32_inj]

namespace FactionState

/-- A state in which at most `FACTION_FLAG_AT_WAR` has changed, and whether it is saved. -/
structure SameButWar (faction next : FactionState) : Prop where
  alike : faction.Alike next
  flags : ∀ read, factionFlagAtWar &&& read = 0 →
    hasFlag next.flags read = hasFlag faction.flags read

theorem sameButWar_refl (faction : FactionState) : SameButWar faction faction :=
  ⟨⟨rfl, rfl, rfl⟩, fun _ _ => rfl⟩

theorem sameButWar_setAtWar (faction : FactionState) (sworn atWar : Bool) :
    SameButWar faction (faction.setAtWar sworn atWar) :=
  ⟨faction.alike_setAtWar sworn atWar,
    fun _ other => faction.setAtWar_flags sworn atWar other⟩

theorem Alike.trans {first second third : FactionState} (left : first.Alike second)
    (right : second.Alike third) : first.Alike third :=
  ⟨right.id.trans left.id, right.reputationListID.trans left.reputationListID,
    right.standing.trans left.standing⟩

theorem SameButWar.fits {default : UInt8} {faction next : FactionState}
    (same : SameButWar faction next) (fits : FlagsFit default faction.flags) :
    FlagsFit default next.flags := by
  constructor
  · rw [same.flags _ (by decide)]
    exact fits.concealed
  · rw [same.flags _ (by decide)]
    exact fits.special
  · rw [same.flags _ (by decide)]
    exact fits.shown
  · rw [same.flags _ (by decide)]
    exact fits.showable
  · rw [same.flags _ (by decide), same.flags _ (by decide)]
    exact fits.inactive

theorem setVisible_flags (faction : FactionState) {read : UInt8}
    (other : factionFlagVisible &&& read = 0) :
    hasFlag faction.setVisible.flags read = hasFlag faction.flags read := by
  unfold setVisible
  split_ifs
  · exact hasFlag_put_other other
  · rfl

section Load

variable {default saved : UInt8} {faction : FactionState}

/-- A state that a row with some flags can be of. -/
structure AsSaved (default saved : UInt8) (faction next : FactionState) : Prop where
  alike : faction.Alike next
  fits : FlagsFit default next.flags
  flags : SameFlags saved next.flags

theorem AsSaved.sameButWar {next last : FactionState} (asSaved : AsSaved default saved faction next)
    (same : SameButWar next last) : AsSaved default saved faction last :=
  ⟨asSaved.alike.trans same.alike, same.fits asSaved.fits,
    asSaved.flags.visible.trans (same.flags _ (by decide)).symm,
    asSaved.flags.inactive.trans (same.flags _ (by decide)).symm⟩

/-- The first of the flags: a faction is shown when it was. -/
theorem visible_flag (isDefault : faction.flags = default) (fits : FlagsFit default saved) :
    (if hasFlag saved factionFlagVisible then faction.setVisible else faction).has
      factionFlagVisible = hasFlag saved factionFlagVisible := by
  split_ifs with visible
  · rw [setVisible_visible, becomesVisible_eq, has, isDefault, visible]
    rcases fits.showable visible with shown | showable
    · rw [shown]
      rfl
    · rw [showable]
      cases hasFlag default factionFlagVisible <;> rfl
  · rw [has, isDefault, Bool.eq_false_iff.mpr visible]
    exact Bool.eq_false_iff.mpr fun shown => visible (fits.shown shown)

/-- A faction is shown by its row if it was not before. -/
theorem visible_shows (isDefault : faction.flags = default) (fits : FlagsFit default saved) :
    hasFlag saved factionFlagVisible =
      (faction.has factionFlagVisible ||
        (faction.becomesVisible && hasFlag saved factionFlagVisible)) := by
  have visible := visible_flag isDefault fits
  cases isSaved : hasFlag saved factionFlagVisible with
  | false =>
      rw [isSaved, if_neg Bool.false_ne_true] at visible
      rw [visible, Bool.and_false, Bool.or_false]
  | true =>
      rw [isSaved, if_pos rfl, setVisible_visible] at visible
      rw [Bool.and_true, visible]

/-- The second one, for a faction which is shown already. -/
theorem inactive_flag {shown : FactionState} (alike : faction.Alike shown)
    (shownFits : FlagsFit default shown.flags)
    (visible : shown.has factionFlagVisible = hasFlag saved factionFlagVisible)
    (active : shown.has factionFlagInactive = false) (fits : FlagsFit default saved) :
    AsSaved default saved faction
      (if hasFlag saved factionFlagInactive then shown.setInactive true else shown) := by
  split_ifs with inactive
  · refine ⟨alike.trans (shown.alike_setInactive true), shown.fits_setInactive shownFits true,
      ?_, ?_⟩
    · exact visible.symm.trans (shown.setInactive_flags true (by decide)).symm
    · obtain ⟨isVisible, isOpen⟩ := fits.inactive inactive
      have allowed : shown.isConcealed = false := shownFits.concealed.trans isOpen
      rw [inactive]
      unfold setInactive
      rw [allowed, visible, isVisible, active]
      exact (hasFlag_put (by decide)).symm
  · exact ⟨alike, shownFits, visible.symm, (Bool.eq_false_iff.mpr inactive).trans active.symm⟩

/-- What `LoadFromDB` makes of a faction which is as it was at first. -/
theorem loadFlags_asSaved (isDefault : faction.flags = default)
    (active : hasFlag default factionFlagInactive = false) (fits : FlagsFit default saved)
    (sworn : FactionState → Bool) (rank : ReputationRank) :
    AsSaved default saved faction (faction.loadFlags sworn rank saved.toUInt16.toUInt32) := by
  have visible := visible_flag isDefault fits
  have shownFits : FlagsFit default
      (if hasFlag saved factionFlagVisible then faction.setVisible else faction).flags := by
    have before : FlagsFit default faction.flags := by
      rw [isDefault]
      exact FlagsFit.refl active
    split_ifs
    · exact faction.fits_setVisible before
    · exact before
  have shownActive : (if hasFlag saved factionFlagVisible then faction.setVisible
      else faction).has factionFlagInactive = false := by
    have before : faction.has factionFlagInactive = false := by
      rw [has, isDefault]
      exact active
    split_ifs
    · exact (faction.setVisible_flags (by decide)).trans before
    · exact before
  have shownAlike : faction.Alike
      (if hasFlag saved factionFlagVisible then faction.setVisible else faction) := by
    split_ifs
    · exact faction.alike_setVisible
    · exact ⟨rfl, rfl, rfl⟩
  unfold loadFlags
  extract_lets reads shown rested warred hostile
  have isFlag : reads = hasFlag saved := funext (saved_flag saved)
  have afterRest : AsSaved default saved faction rested := by
    dsimp only [rested, shown]
    rw [isFlag]
    exact inactive_flag shownAlike shownFits visible shownActive fits
  have afterWar : AsSaved default saved faction warred := by
    refine afterRest.sameButWar ?_
    dsimp only [warred]
    split_ifs
    · exact rested.sameButWar_setAtWar _ _
    · exact rested.sameButWar_setAtWar _ _
    · exact rested.sameButWar_refl
  have afterHostile : AsSaved default saved faction hostile := by
    refine afterWar.sameButWar ?_
    dsimp only [hostile]
    split_ifs
    · exact warred.sameButWar_setAtWar _ _
    · exact warred.sameButWar_refl
  split_ifs
  · have settled : hostile.Alike { hostile with needSend := false, needSave := false } :=
      ⟨rfl, rfl, rfl⟩
    exact ⟨afterHostile.alike.trans settled, afterHostile.fits, afterHostile.flags⟩
  · exact afterHostile

end Load

end FactionState

/-! ## Initialize -/

section Initialize

variable {store : FactionStore} {player : Player}

theorem countRank_hostile {rank : ReputationRank} (above : repHostile < rank)
    (new : ReputationRank) (count : UInt8) :
    Manager.countRank rank repHostile new count =
      count + UInt8.ofNat (if rank ≤ new then 1 else 0) := by
  unfold Manager.countRank
  rw [if_neg (Nat.not_le.mpr above)]
  split_ifs
  · rfl
  · exact (UInt8.add_zero count).symm

/-- How many factions have a base value of a rank or higher. -/
def baseCount (player : Player) (rank : ReputationRank) (entries : List FactionEntry) : Nat :=
  entries.countP fun entry => rank ≤ reputationToRank (getBaseReputation player entry)

theorem countRank_baseCount {rank : ReputationRank} (above : repHostile < rank)
    (entry : FactionEntry) (rest : List FactionEntry) (count : UInt8) :
    Manager.countRank rank repHostile (reputationToRank (getBaseReputation player entry)) count +
        UInt8.ofNat (baseCount player rank rest) =
      count + UInt8.ofNat (baseCount player rank (entry :: rest)) := by
  unfold baseCount
  rw [countRank_hostile above, List.countP_cons, UInt8.add_assoc, ← UInt8.ofNat_add,
    Nat.add_comm]
  simp only [decide_eq_true_eq]

/-- The managers that `Initialize` goes through. -/
structure Initialized (player : Player) (before : Manager) (entries : List FactionEntry)
    (manager : Manager) : Prop where
  factions : manager.factions = before.factions ++ entries.map (Manager.initialState player)
  honored : manager.honoredFactionCount =
    before.honoredFactionCount + UInt8.ofNat (baseCount player repHonored entries)
  revered : manager.reveredFactionCount =
    before.reveredFactionCount + UInt8.ofNat (baseCount player repRevered entries)
  exalted : manager.exaltedFactionCount =
    before.exaltedFactionCount + UInt8.ofNat (baseCount player repExalted entries)
  visible : manager.visibleFactionCount = before.visibleFactionCount +
    UInt8.ofNat (entries.countP fun entry =>
      hasFlag (getDefaultStateFlags player entry) factionFlagVisible)

theorem initialized_of_fold (entries : List FactionEntry) (manager : Manager)
    (keys : (manager.factions.map FactionState.reputationListID ++
      entries.map FactionEntry.key).Nodup) :
    Initialized player manager entries (entries.foldl (Manager.initializeOne player) manager) := by
  induction entries generalizing manager with
  | nil =>
      refine ⟨?_, ?_, ?_, ?_, ?_⟩
      · exact (List.append_nil _).symm
      all_goals exact (UInt8.add_zero _).symm
  | cons entry rest induction =>
      have isNew : entry.key ∉ manager.factions.map FactionState.reputationListID := by
        intro present
        exact (List.nodup_append.mp keys).2.2 _ present _ List.mem_cons_self rfl
      have first : (manager.initializeOne player entry).factions =
          manager.factions ++ [Manager.initialState player entry] := by
        show assign FactionState.reputationListID manager.factions _ = _
        unfold assign
        rw [erase_eq_self]
        intro faction isFaction same
        exact isNew (List.mem_map.mpr ⟨faction, isFaction, same⟩)
      have later := induction (manager.initializeOne player entry) (by
        rw [first, List.map_append, List.append_assoc]
        exact keys)
      refine ⟨?_, ?_, ?_, ?_, ?_⟩
      · rw [List.foldl_cons, later.factions, first, List.append_assoc]
        rfl
      · rw [List.foldl_cons, later.honored]
        exact countRank_baseCount (by decide) entry rest _
      · rw [List.foldl_cons, later.revered]
        exact countRank_baseCount (by decide) entry rest _
      · rw [List.foldl_cons, later.exalted]
        exact countRank_baseCount (by decide) entry rest _
      · have counted : (manager.initializeOne player entry).visibleFactionCount =
            manager.visibleFactionCount + UInt8.ofNat
              (if hasFlag (getDefaultStateFlags player entry) factionFlagVisible then 1
                else 0) := by
          show (if hasFlag (getDefaultStateFlags player entry) factionFlagVisible then
            manager.visibleFactionCount + 1 else manager.visibleFactionCount) = _
          split_ifs
          · rfl
          · exact (UInt8.add_zero _).symm
        rw [List.foldl_cons, later.visible, counted, List.countP_cons, UInt8.add_assoc,
          ← UInt8.ofNat_add, Nat.add_comm]

theorem initialized (store : FactionStore) (player : Player) (manager : Manager) :
    Initialized player { Manager.init with history := manager.history } store.listed
      (manager.initializeFactions store player) :=
  initialized_of_fold _ _ nodup_keys

theorem factions_initial (manager : Manager) :
    (manager.initializeFactions store player).factions =
      store.listed.map (Manager.initialState player) :=
  (initialized store player manager).factions

theorem findState_initial (manager : Manager) {entry : FactionEntry}
    (isListed : entry ∈ store.listed) :
    (manager.initializeFactions store player).findState entry =
      some (Manager.initialState player entry) := by
  have keys : ((store.listed.map (Manager.initialState player)).map
      FactionState.reputationListID).Nodup := by
    rw [List.map_map]
    exact nodup_keys
  have isState : Manager.initialState player entry ∈
      store.listed.map (Manager.initialState player) := List.mem_map_of_mem isListed
  unfold Manager.findState
  rw [factions_initial]
  exact find_of_mem keys isState

theorem rankCount_initial (manager : Manager) (rank : ReputationRank) :
    rankCount store player (manager.initializeFactions store player) rank =
      baseCount player rank store.listed := by
  unfold rankCount baseCount
  apply List.countP_congr
  intro entry isListed
  rw [getRank_of_findState isListed (findState_initial manager isListed)]
  show decide (rank ≤ reputationToRank (getBaseReputation player entry + 0)) = true ↔ _
  rw [Int32.add_zero]

theorem Tracked.initial (store : FactionStore) (player : Player) (manager : Manager)
    (rows : List Row) : Tracked store player (manager.initializeFactions store player) rows := by
  have start := initialized store player manager
  refine ⟨?_, ?_, ?_, ?_, ?_, ?_, ?_⟩
  · rw [factions_initial, List.map_map]
    rfl
  · rw [factions_initial]
    intro faction isFaction
    obtain ⟨entry, isListed, rfl⟩ := List.mem_map.mp isFaction
    obtain ⟨lower, upper⟩ := base_range player (entry_of_listed isListed)
    refine ⟨entry, isListed, rfl, rfl, ?_, ?_, ?_⟩
    · exact lower.trans (le_of_eq (add_zero _).symm)
    · exact (le_of_eq (add_zero _)).trans upper
    · exact FlagsFit.refl (active_by_default player (entry_of_listed isListed))
  · rw [factions_initial]
    intro faction isFaction unsaved
    obtain ⟨entry, -, rfl⟩ := List.mem_map.mp isFaction
    exact absurd unsaved (by simp [Manager.initialState])
  · rw [start.honored, rankCount_initial]
    exact UInt8.zero_add _
  · rw [start.revered, rankCount_initial]
    exact UInt8.zero_add _
  · rw [start.exalted, rankCount_initial]
    exact UInt8.zero_add _
  · rw [start.visible]
    have count : visibleCount store (manager.initializeFactions store player) =
        store.listed.countP fun entry =>
          hasFlag (getDefaultStateFlags player entry) factionFlagVisible := by
      unfold visibleCount
      apply List.countP_congr
      intro entry isListed
      unfold isVisible
      rw [findState_initial manager isListed]
      rfl
    rw [count]
    exact UInt8.zero_add _

end Initialize

/-! ## LoadFromDB -/

section Load

variable {store : FactionStore} {player : Player} {manager : Manager} {rows done : List Row}

/-- The ids of the list fit into the sixteen bits of a row. -/
def IdsFit (store : FactionStore) : Prop := ∀ entry ∈ store.listed, entry.id < 65536

theorem entry_of_rowId (small : IdsFit store) {first second : FactionEntry}
    (isFirst : first ∈ store.listed) (isSecond : second ∈ store.listed)
    (same : UInt16.ofNat first.id = UInt16.ofNat second.id) : first = second := by
  apply entry_of_id (entry_of_listed isFirst) (entry_of_listed isSecond)
  have firstId := UInt16.toNat_ofNat_of_lt' (small first isFirst)
  have secondId := UInt16.toNat_ofNat_of_lt' (small second isSecond)
  rw [← firstId, ← secondId, same]

/-- What a row says of a faction is what its state says. -/
def Loaded (row : Row) (faction : FactionState) : Prop :=
  faction.standing = row.standing ∧
    ∃ flags : UInt8, row.flags = flags.toUInt16 ∧ FactionState.SameFlags flags faction.flags

/-- The manager after some of the rows. -/
structure Loading (store : FactionStore) (player : Player) (rows done : List Row)
    (manager : Manager) : Prop where
  tracked : Tracked store player manager rows
  untouched : ∀ entry ∈ store.listed, (∀ row ∈ done, row.faction ≠ UInt16.ofNat entry.id) →
    manager.findState entry = some (Manager.initialState player entry)
  loaded : ∀ entry ∈ store.listed, ∀ row ∈ done, row.faction = UInt16.ofNat entry.id →
    ∃ faction, manager.findState entry = some faction ∧ Loaded row faction

theorem Loading.start (store : FactionStore) (player : Player) (manager : Manager)
    (rows : List Row) :
    Loading store player rows [] (manager.initializeFactions store player) := by
  refine ⟨Tracked.initial store player manager rows, ?_, ?_⟩
  · intro entry isListed _
    exact findState_initial manager isListed
  · intro entry _ row isRow
    exact absurd isRow List.not_mem_nil

theorem Loading.loadRow (loading : Loading store player rows done manager)
    (small : IdsFit store) (rowsFit : RowsFit store player rows) {row : Row} (isRow : row ∈ rows)
    (isNew : ∀ other ∈ done, other.faction ≠ row.faction) :
    Loading store player rows (done ++ [row]) (manager.loadRow store player row) := by
  obtain ⟨entry, isListed, rowId, flags, isFlags, fits⟩ := rowsFit.fits row isRow
  have found : store.lookupEntry row.faction.toNat = some entry := by
    rw [rowId, UInt16.toNat_ofNat_of_lt' (small entry isListed)]
    exact find_of_mem store.ids (entry_of_listed isListed)
  have isInitial : manager.findState entry = some (Manager.initialState player entry) := by
    apply loading.untouched entry isListed
    intro other isOther same
    exact isNew other isOther (same.trans rowId.symm)
  have isState : manager.getState entry = some (Manager.initialState player entry) :=
    (getState_of_listed isListed).trans isInitial
  unfold Manager.loadRow
  simp -zeta only [found, isState]
  extract_lets stood base ranked flagsOfRow becomesVisible next
  have isActive := active_by_default player (entry_of_listed isListed)
  have isDefault : (Manager.initialState player entry).flags =
      getDefaultStateFlags player entry := rfl
  have asSaved : FactionState.AsSaved (getDefaultStateFlags player entry) flags stood next := by
    have stoodDefault : stood.flags = getDefaultStateFlags player entry := rfl
    dsimp only [next, flagsOfRow]
    rw [isFlags]
    exact FactionState.loadFlags_asSaved stoodDefault isActive fits.flags _ _
  have isStanding : next.standing = row.standing := asSaved.alike.standing
  have sameKey : next.reputationListID =
      (Manager.initialState player entry).reputationListID := asSaved.alike.reputationListID
  have sameVisible : next.has factionFlagVisible = hasFlag flags factionFlagVisible :=
    asSaved.flags.visible.symm
  have isLoaded : Loaded row next := ⟨isStanding, flags, isFlags, asSaved.flags⟩
  have oldRank : reputationToRank (getBaseReputation player entry +
      (Manager.initialState player entry).standing) = reputationToRank base :=
    congrArg reputationToRank (Int32.add_zero _)
  refine ⟨loading.tracked.written isListed isInitial sameKey asSaved.alike.id ⟨?_, ?_, asSaved.fits⟩
    ?_ ?_ ⟨rfl, ?_, ?_, ?_, ?_⟩, ?_, ?_⟩
  · rw [isStanding]
    exact fits.lower
  · rw [isStanding]
    exact fits.upper
  · intro _
    exact ⟨row, isRow, rowId.trans (congrArg UInt16.ofNat asSaved.alike.id).symm,
      isStanding.symm, flags, isFlags, asSaved.flags⟩
  · rw [sameVisible]
    exact FactionState.visible_shows isDefault fits.flags
  · rw [oldRank, isStanding]
    rfl
  · rw [oldRank, isStanding]
    rfl
  · rw [oldRank, isStanding]
    rfl
  · rw [sameVisible, ← saved_flag, ← isFlags]
    rfl
  · intro other isOther absent
    have differs : other.key ≠ entry.key := by
      intro same
      obtain rfl := entry_of_key isOther isListed same
      exact absent row (List.mem_append_right _ List.mem_cons_self) rowId
    refine (findState_write_of_ne isInitial sameKey differs).trans ?_
    exact loading.untouched other isOther fun before isBefore =>
      absent before (List.mem_append_left _ isBefore)
  · intro other isOther before isBefore rowOther
    rcases List.mem_append.mp isBefore with isDone | isLast
    · have differs : other.key ≠ entry.key := by
        intro same
        obtain rfl := entry_of_key isOther isListed same
        exact isNew before isDone (rowOther.trans rowId.symm)
      obtain ⟨faction, isFaction, isBeforeLoaded⟩ :=
        loading.loaded other isOther before isDone rowOther
      exact ⟨faction, (findState_write_of_ne isInitial sameKey differs).trans isFaction,
        isBeforeLoaded⟩
    · obtain rfl := List.mem_singleton.mp isLast
      obtain rfl := entry_of_rowId small isOther isListed (rowOther.symm.trans rowId)
      exact ⟨next, findState_write isInitial sameKey, isLoaded⟩

/-- All rows, each for a faction of its own. -/
theorem Loading.loadRows (loading : Loading store player rows done manager) (small : IdsFit store)
    (rowsFit : RowsFit store player rows) (rest : List Row) (all : rows = done ++ rest) :
    Loading store player rows rows (rest.foldl (Manager.loadRow store player) manager) := by
  induction rest generalizing done manager with
  | nil =>
      rw [List.append_nil] at all
      rw [← all] at loading
      exact loading
  | cons row rest induction =>
      have keys := rowsFit.keys
      rw [all, List.map_append, List.map_cons] at keys
      refine induction (loading.loadRow small rowsFit ?_ ?_) ?_
      · rw [all]
        exact List.mem_append_right _ List.mem_cons_self
      · intro other isOther same
        exact (List.nodup_append.mp keys).2.2 _ (List.mem_map_of_mem isOther) _
          List.mem_cons_self same
      · rw [all, List.append_assoc]
        rfl

theorem Loading.all (store : FactionStore) (player : Player) (manager : Manager)
    {rows : List Row} (small : IdsFit store) (rowsFit : RowsFit store player rows) :
    Loading store player rows rows (manager.loadFromDB store player rows) :=
  (Loading.start store player manager rows).loadRows small rowsFit rows rfl

end Load

/-! ## SaveToDB -/

section Save

variable {store : FactionStore} {player : Player} {manager : Manager} {rows : List Row}

theorem recorded_saveOne {faction : FactionState} (unsaved : faction.needSave = true) :
    Recorded (Manager.saveOne rows faction) faction := by
  unfold Manager.saveOne
  rw [if_pos unsaved]
  exact ⟨_, mem_assign.mpr (.inr rfl), rfl, rfl, faction.flags, rfl, rfl, rfl⟩

theorem Recorded.saveOne {faction other : FactionState} (recorded : Recorded rows faction)
    (differs : UInt16.ofNat faction.id ≠ UInt16.ofNat other.id) :
    Recorded (Manager.saveOne rows other) faction := by
  obtain ⟨row, isRow, sameId, same⟩ := recorded
  unfold Manager.saveOne
  split_ifs
  · exact ⟨row, mem_assign.mpr (.inl ⟨isRow, fun isOther => differs (sameId.symm.trans isOther)⟩),
      sameId, same⟩
  · exact ⟨row, isRow, sameId, same⟩

/-- Each state is saved, unless its row is right already. -/
theorem recorded_of_fold (factions : List FactionState)
    (ids : (factions.map fun faction => UInt16.ofNat faction.id).Nodup)
    (saved : ∀ faction ∈ factions, faction.needSave = false → Recorded rows faction) :
    ∀ faction ∈ factions, Recorded (factions.foldl Manager.saveOne rows) faction := by
  have kept : ∀ (rest : List FactionState) (rows : List Row) (faction : FactionState),
      UInt16.ofNat faction.id ∉ rest.map (fun faction => UInt16.ofNat faction.id) →
        Recorded rows faction → Recorded (rest.foldl Manager.saveOne rows) faction := by
    intro rest
    induction rest with
    | nil => exact fun rows faction _ recorded => recorded
    | cons other rest induction =>
        intro rows faction absent recorded
        rw [List.map_cons, List.mem_cons, not_or] at absent
        exact induction _ faction absent.2 (recorded.saveOne absent.1)
  induction factions generalizing rows with
  | nil => exact fun faction isFaction => absurd isFaction List.not_mem_nil
  | cons first rest induction =>
      rw [List.map_cons, List.nodup_cons] at ids
      intro faction isFaction
      rcases List.mem_cons.mp isFaction with rfl | isLater
      · refine kept rest _ faction ids.1 ?_
        cases needSave : faction.needSave with
        | true => exact recorded_saveOne needSave
        | false =>
            have unchanged : Manager.saveOne rows faction = rows := by
              unfold Manager.saveOne
              rw [if_neg (by simp [needSave])]
            rw [unchanged]
            exact saved faction List.mem_cons_self needSave
      · refine induction ids.2 ?_ faction isLater
        intro later isLater unsaved
        refine (saved later (List.mem_cons_of_mem _ isLater) unsaved).saveOne ?_
        intro same
        exact ids.1 (same ▸ List.mem_map_of_mem isLater)

theorem Tracked.rowIds (tracked : Tracked store player manager rows) (small : IdsFit store) :
    (manager.factions.map fun faction => UInt16.ofNat faction.id).Nodup := by
  have keys := tracked.nodup
  refine List.Nodup.map_on ?_ (List.Nodup.of_map _ keys)
  intro first isFirst second isSecond same
  obtain ⟨entry, isListed, firstKey, firstId, -⟩ := tracked.fits first isFirst
  obtain ⟨other, isOther, secondKey, secondId, -⟩ := tracked.fits second isSecond
  rw [firstId, secondId] at same
  obtain rfl := entry_of_rowId small isListed isOther same
  exact List.inj_on_of_nodup_map keys isFirst isSecond (firstKey.trans secondKey.symm)

theorem RowsFit.saveOne (rowsFit : RowsFit store player rows) {faction : FactionState}
    (fits : ∃ entry ∈ store.listed, faction.reputationListID = entry.key ∧
      faction.id = entry.id ∧ Fits player entry faction.standing faction.flags) :
    RowsFit store player (Manager.saveOne rows faction) := by
  unfold Manager.saveOne
  split_ifs
  · refine ⟨assign_keys rowsFit.keys _, ?_⟩
    intro row isRow
    rcases mem_assign.mp isRow with ⟨isOld, -⟩ | rfl
    · exact rowsFit.fits row isOld
    · obtain ⟨entry, isListed, -, sameId, fits⟩ := fits
      exact ⟨entry, isListed, congrArg UInt16.ofNat sameId, faction.flags, rfl, fits⟩
  · exact rowsFit

theorem RowsFit.saveToDB (rowsFit : RowsFit store player rows)
    (tracked : Tracked store player manager rows) :
    RowsFit store player (manager.saveToDB rows).2 := by
  have fold : ∀ (factions : List FactionState) (rows : List Row), RowsFit store player rows →
      (∀ faction ∈ factions, ∃ entry ∈ store.listed, faction.reputationListID = entry.key ∧
        faction.id = entry.id ∧ Fits player entry faction.standing faction.flags) →
      RowsFit store player (factions.foldl Manager.saveOne rows) := by
    intro factions
    induction factions with
    | nil => exact fun rows rowsFit _ => rowsFit
    | cons first rest induction =>
        intro rows rowsFit fits
        exact induction _ (rowsFit.saveOne (fits first List.mem_cons_self))
          fun faction isLater => fits faction (List.mem_cons_of_mem _ isLater)
  exact fold manager.factions rows rowsFit tracked.fits

theorem Tracked.recorded (tracked : Tracked store player manager rows) (small : IdsFit store) :
    ∀ faction ∈ manager.factions, Recorded (manager.saveToDB rows).2 faction :=
  recorded_of_fold manager.factions (tracked.rowIds small) tracked.saved

theorem Tracked.saveToDB (tracked : Tracked store player manager rows) (small : IdsFit store) :
    Tracked store player (manager.saveToDB rows).1 (manager.saveToDB rows).2 := by
  have same : SameStates fun faction => { faction with needSave := false } :=
    ⟨fun _ => ⟨rfl, rfl, rfl⟩, fun _ => rfl⟩
  exact tracked.mapped same rfl
    (fun faction isFaction _ => tracked.recorded small faction isFaction)
    rfl rfl rfl rfl

end Save

/-! ## Saved and loaded -/

section Restore

variable {store : FactionStore} {player : Player} {manager : Manager} {rows : List Row}

/-- What another manager has to have in common with the one that was saved. -/
structure Restored (store : FactionStore) (manager loaded : Manager) : Prop where
  standing : ∀ entry ∈ store.listed,
    (loaded.findState entry).map FactionState.standing =
      (manager.findState entry).map FactionState.standing
  visible : ∀ entry ∈ store.listed, isVisible loaded entry = isVisible manager entry
  inactive : ∀ entry ∈ store.listed,
    (loaded.findState entry).map (·.has factionFlagInactive) =
      (manager.findState entry).map (·.has factionFlagInactive)
  honoredCount : loaded.honoredFactionCount = manager.honoredFactionCount
  reveredCount : loaded.reveredFactionCount = manager.reveredFactionCount
  exaltedCount : loaded.exaltedFactionCount = manager.exaltedFactionCount
  visibleCount : loaded.visibleFactionCount = manager.visibleFactionCount

/-- Both managers know the faction in the same way. -/
theorem Tracked.same (tracked : Tracked store player manager rows) (small : IdsFit store)
    (rowsFit : RowsFit store player rows) {entry : FactionEntry} (isListed : entry ∈ store.listed) :
    ∃ faction loaded, manager.findState entry = some faction ∧
      (Manager.init.loadFromDB store player (manager.saveToDB rows).2).findState entry =
        some loaded ∧ loaded.standing = faction.standing ∧
      FactionState.SameFlags loaded.flags faction.flags := by
  obtain ⟨faction, isFaction, found, -, sameId, -⟩ := tracked.find isListed
  obtain ⟨row, isRow, rowId, standing, flags, isFlags, same⟩ :=
    tracked.recorded small faction isFaction
  have loading := Loading.all store player Manager.init small (rowsFit.saveToDB tracked)
  obtain ⟨loaded, isLoaded, loadedStanding, others, isOthers, sameOthers⟩ :=
    loading.loaded entry isListed row isRow (rowId.trans (congrArg UInt16.ofNat sameId))
  obtain rfl : flags = others := UInt8.toUInt16_inj.mp (isFlags.symm.trans isOthers)
  exact ⟨faction, loaded, found, isLoaded, loadedStanding.trans standing,
    sameOthers.visible.symm.trans same.visible, sameOthers.inactive.symm.trans same.inactive⟩

theorem Tracked.restored (tracked : Tracked store player manager rows) (small : IdsFit store)
    (rowsFit : RowsFit store player rows) :
    Restored store manager (Manager.init.loadFromDB store player (manager.saveToDB rows).2) := by
  have loading := Loading.all store player Manager.init small (rowsFit.saveToDB tracked)
  have same : ∀ entry ∈ store.listed, _ := fun entry isListed =>
    tracked.same small rowsFit isListed
  generalize Manager.init.loadFromDB store player (manager.saveToDB rows).2 = loaded
    at loading same ⊢
  have visible : ∀ entry ∈ store.listed, isVisible loaded entry = isVisible manager entry := by
    intro entry isListed
    obtain ⟨faction, state, found, isLoaded, -, flags⟩ := same entry isListed
    unfold isVisible
    rw [found, isLoaded]
    exact flags.visible
  have ranks : ∀ rank,
      rankCount store player loaded rank = rankCount store player manager rank := by
    intro rank
    apply List.countP_congr
    intro entry isListed
    obtain ⟨faction, state, found, isLoaded, standing, -⟩ := same entry isListed
    rw [getRank_of_findState isListed found, getRank_of_findState isListed isLoaded, standing]
  have shown : visibleCount store loaded = visibleCount store manager := by
    apply List.countP_congr
    intro entry isListed
    rw [visible entry isListed]
  refine ⟨?_, visible, ?_, ?_, ?_, ?_, ?_⟩
  · intro entry isListed
    obtain ⟨faction, state, found, isLoaded, standing, -⟩ := same entry isListed
    rw [found, isLoaded]
    exact congrArg some standing
  · intro entry isListed
    obtain ⟨faction, state, found, isLoaded, -, flags⟩ := same entry isListed
    rw [found, isLoaded]
    exact congrArg some flags.inactive
  · rw [loading.tracked.honored, tracked.honored, ranks]
  · rw [loading.tracked.revered, tracked.revered, ranks]
  · rw [loading.tracked.exalted, tracked.exalted, ranks]
  · rw [loading.tracked.visible, tracked.visible, shown]

end Restore

end RealmServer.Reputation
