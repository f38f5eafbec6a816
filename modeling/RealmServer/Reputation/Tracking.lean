import RealmServer.Lib.Counting
import RealmServer.Reputation.Manager

/-!
# Standings and counters

`Tracked` relates a manager to the factions of the game and to the rows in the
database.  Whatever is done to a faction is one write of its state; what such
a write has to respect is stated once, and each function is a case of it.
-/

namespace RealmServer.Reputation

open Table Counting

/-! ## Flags -/

section Flags

variable {flags changed read : UInt8}

theorem or_and_right (first second third : UInt8) :
    (first ||| second) &&& third = first &&& third ||| second &&& third := by
  rw [← UInt8.toBitVec_inj]
  ext index
  simp only [UInt8.toBitVec_and, UInt8.toBitVec_or, BitVec.getElem_and, BitVec.getElem_or,
    Bool.and_or_distrib_right]

theorem hasFlag_put (nonzero : changed ≠ 0) : hasFlag (flags ||| changed) changed = true := by
  have absorbed : (flags ||| changed) &&& changed = changed := by
    rw [← UInt8.toBitVec_inj]
    ext index
    simp only [UInt8.toBitVec_and, UInt8.toBitVec_or, BitVec.getElem_and, BitVec.getElem_or]
    cases changed.toBitVec[index] <;> simp
  unfold hasFlag
  rw [absorbed]
  exact bne_iff_ne.mpr nonzero

theorem hasFlag_cleared : hasFlag (flags &&& ~~~changed) changed = false := by
  have cleared : (flags &&& ~~~changed) &&& changed = 0 := by
    rw [UInt8.and_assoc, UInt8.and_comm (~~~changed), UInt8.and_not_self, UInt8.and_zero]
  unfold hasFlag
  rw [cleared]
  rfl

theorem hasFlag_put_other (other : changed &&& read = 0) :
    hasFlag (flags ||| changed) read = hasFlag flags read := by
  unfold hasFlag
  rw [or_and_right, other, UInt8.or_zero]

theorem hasFlag_cleared_other (other : changed &&& read = 0) :
    hasFlag (flags &&& ~~~changed) read = hasFlag flags read := by
  have kept : ~~~changed &&& read = read := by
    calc ~~~changed &&& read = (changed ||| ~~~changed) &&& read := by
          rw [or_and_right, other, UInt8.zero_or]
      _ = read := by
          rw [UInt8.or_not_self]
          exact UInt8.neg_one_and
  unfold hasFlag
  rw [UInt8.and_assoc, kept]

end Flags

/-- A faction may be shown although it was not shown from the beginning. -/
def isShowable (flags : UInt8) : Bool :=
  !(hasFlag flags (factionFlagInvisibleForced ||| factionFlagHidden) &&
    !hasFlag flags factionFlagSpecial)

/-- What the flags of a faction can be, by the flags it has at first. -/
structure FlagsFit (default flags : UInt8) : Prop where
  concealed : hasFlag flags (factionFlagInvisibleForced ||| factionFlagHidden) =
    hasFlag default (factionFlagInvisibleForced ||| factionFlagHidden)
  special : hasFlag flags factionFlagSpecial = hasFlag default factionFlagSpecial
  shown : hasFlag default factionFlagVisible = true → hasFlag flags factionFlagVisible = true
  showable : hasFlag flags factionFlagVisible = true →
    hasFlag default factionFlagVisible = true ∨ isShowable default = true
  inactive : hasFlag flags factionFlagInactive = true → hasFlag flags factionFlagVisible = true ∧
    hasFlag default (factionFlagInvisibleForced ||| factionFlagHidden) = false

theorem FlagsFit.refl {default : UInt8} (active : hasFlag default factionFlagInactive = false) :
    FlagsFit default default :=
  ⟨rfl, rfl, id, .inl, fun inactive => absurd inactive (by simp [active])⟩

theorem FlagsFit.isShowable_eq {default flags : UInt8} (fits : FlagsFit default flags) :
    isShowable flags = isShowable default := by
  unfold isShowable
  rw [fits.concealed, fits.special]

namespace FactionState

variable (faction : FactionState)

/-- The flags that are saved and come back. -/
structure SameFlags (first second : UInt8) : Prop where
  visible : hasFlag first factionFlagVisible = hasFlag second factionFlagVisible
  inactive : hasFlag first factionFlagInactive = hasFlag second factionFlagInactive

/-- Another state of the same faction, with the same standing. -/
structure Alike (next : FactionState) : Prop where
  id : next.id = faction.id
  reputationListID : next.reputationListID = faction.reputationListID
  standing : next.standing = faction.standing

theorem alike_setVisible : Alike faction faction.setVisible := by
  unfold setVisible
  split_ifs <;> exact ⟨rfl, rfl, rfl⟩

theorem alike_setAtWar (sworn atWar : Bool) : Alike faction (faction.setAtWar sworn atWar) := by
  unfold setAtWar
  dsimp only
  split_ifs <;> exact ⟨rfl, rfl, rfl⟩

theorem setAtWar_flags (sworn atWar : Bool) {read : UInt8}
    (other : factionFlagAtWar &&& read = 0) :
    hasFlag (faction.setAtWar sworn atWar).flags read = hasFlag faction.flags read := by
  have put : ∀ flags, hasFlag (flags ||| factionFlagAtWar) read = hasFlag flags read :=
    fun flags => hasFlag_put_other other
  have cleared : ∀ flags, hasFlag (flags &&& ~~~factionFlagAtWar) read = hasFlag flags read :=
    fun flags => hasFlag_cleared_other other
  unfold setAtWar
  dsimp only
  split_ifs <;> simp only [put, cleared]

theorem alike_setInactive (inactive : Bool) : Alike faction (faction.setInactive inactive) := by
  unfold setInactive
  split_ifs <;> exact ⟨rfl, rfl, rfl⟩

theorem setVisible_visible :
    faction.setVisible.has factionFlagVisible =
      (faction.has factionFlagVisible || faction.becomesVisible) := by
  unfold setVisible
  split_ifs with becomes
  · rw [becomes, Bool.or_true]
    exact hasFlag_put (by decide)
  · simp [Bool.not_eq_true _ ▸ becomes]

theorem setVisible_needSave (needSave : faction.needSave = true) :
    faction.setVisible.needSave = true := by
  unfold setVisible
  split_ifs
  · rfl
  · exact needSave

theorem setAtWar_needSave (needSave : faction.needSave = true) (sworn atWar : Bool) :
    (faction.setAtWar sworn atWar).needSave = true := by
  unfold setAtWar
  dsimp only
  split_ifs
  all_goals first | exact needSave | rfl

theorem not_visible_of_becomesVisible (becomes : faction.becomesVisible = true) :
    faction.has factionFlagVisible = false := by
  unfold becomesVisible at becomes
  rw [Bool.and_eq_true] at becomes
  simpa using becomes.2

theorem becomesVisible_eq : faction.becomesVisible =
    (isShowable faction.flags && !faction.has factionFlagVisible) := rfl

theorem fits_setVisible {default : UInt8} (fits : FlagsFit default faction.flags) :
    FlagsFit default faction.setVisible.flags := by
  unfold setVisible
  split_ifs with becomes
  · have showable : isShowable faction.flags = true := by
      rw [becomesVisible_eq, Bool.and_eq_true] at becomes
      exact becomes.1
    have hidden := not_visible_of_becomesVisible faction becomes
    have other : ∀ {read}, factionFlagVisible &&& read = 0 →
        hasFlag (faction.flags ||| factionFlagVisible) read = hasFlag faction.flags read :=
      fun other => hasFlag_put_other other
    refine ⟨(other (by decide)).trans fits.concealed,
      (other (by decide)).trans fits.special, fun _ => hasFlag_put (by decide),
      fun _ => .inr (fits.isShowable_eq ▸ showable), fun inactive => ?_⟩
    have before := fits.inactive ((other (by decide)).symm.trans inactive)
    exact absurd before.1 (Bool.eq_false_iff.mp hidden)
  · exact fits

theorem fits_setAtWar {default : UInt8} (fits : FlagsFit default faction.flags)
    (sworn atWar : Bool) : FlagsFit default (faction.setAtWar sworn atWar).flags := by
  have other : ∀ {read}, factionFlagAtWar &&& read = 0 →
      hasFlag (faction.setAtWar sworn atWar).flags read = hasFlag faction.flags read :=
    fun other => faction.setAtWar_flags sworn atWar other
  constructor
  · rw [other (by decide)]
    exact fits.concealed
  · rw [other (by decide)]
    exact fits.special
  · rw [other (by decide)]
    exact fits.shown
  · rw [other (by decide)]
    exact fits.showable
  · rw [other (by decide), other (by decide)]
    exact fits.inactive

theorem setInactive_flags (inactive : Bool) {read : UInt8}
    (other : factionFlagInactive &&& read = 0) :
    hasFlag (faction.setInactive inactive).flags read = hasFlag faction.flags read := by
  have put : ∀ flags, hasFlag (flags ||| factionFlagInactive) read = hasFlag flags read :=
    fun flags => hasFlag_put_other other
  have cleared : ∀ flags,
      hasFlag (flags &&& ~~~factionFlagInactive) read = hasFlag flags read :=
    fun flags => hasFlag_cleared_other other
  unfold setInactive
  split_ifs <;> simp only [put, cleared]

theorem fits_setInactive {default : UInt8} (fits : FlagsFit default faction.flags)
    (inactive : Bool) : FlagsFit default (faction.setInactive inactive).flags := by
  have other : ∀ {read}, factionFlagInactive &&& read = 0 →
      hasFlag (faction.setInactive inactive).flags read = hasFlag faction.flags read :=
    fun other => faction.setInactive_flags inactive other
  constructor
  · rw [other (by decide)]
    exact fits.concealed
  · rw [other (by decide)]
    exact fits.special
  · rw [other (by decide)]
    exact fits.shown
  · rw [other (by decide)]
    exact fits.showable
  · have visible : hasFlag (faction.setInactive inactive).flags factionFlagVisible =
        hasFlag faction.flags factionFlagVisible := other (by decide)
    rw [visible]
    unfold setInactive
    intro isInactive
    split at isInactive
    · exact fits.inactive isInactive
    · rename_i refused
      split at isInactive
      · exact fits.inactive isInactive
      · cases inactive with
        | false =>
            have cleared : hasFlag (faction.flags &&& ~~~factionFlagInactive)
                factionFlagInactive = false := hasFlag_cleared
            exact absurd isInactive (by simp [cleared])
        | true =>
            have allowed : faction.isConcealed = false ∧ faction.has factionFlagVisible = true := by
              simpa using refused
            exact ⟨allowed.2, fits.concealed.symm.trans allowed.1⟩

end FactionState

/-! ## Managers that agree with the factions and the rows -/

/-- A standing and flags that a player can have with a faction. -/
structure Fits (player : Player) (entry : FactionEntry) (standing : Int32) (flags : UInt8) :
    Prop where
  lower : reputationBottom.toInt ≤ (getBaseReputation player entry).toInt + standing.toInt
  upper : (getBaseReputation player entry).toInt + standing.toInt ≤ reputationCap.toInt
  flags : FlagsFit (getDefaultStateFlags player entry) flags

/-- The row in the database is that of the state. -/
def Recorded (rows : List Row) (faction : FactionState) : Prop :=
  ∃ row ∈ rows, row.faction = UInt16.ofNat faction.id ∧ row.standing = faction.standing ∧
    ∃ flags : UInt8, row.flags = flags.toUInt16 ∧ FactionState.SameFlags flags faction.flags

/-- Rows that were saved by a manager. -/
structure RowsFit (store : FactionStore) (player : Player) (rows : List Row) : Prop where
  keys : (rows.map Row.faction).Nodup
  fits : ∀ row ∈ rows, ∃ entry ∈ store.listed, row.faction = UInt16.ofNat entry.id ∧
    ∃ flags : UInt8, row.flags = flags.toUInt16 ∧ Fits player entry row.standing flags

section Counters

variable (store : FactionStore) (player : Player) (manager : Manager)

/-- How many factions are of a rank or higher. -/
def rankCount (rank : ReputationRank) : Nat :=
  store.listed.countP fun entry => rank ≤ manager.getRank player entry

def isVisible (entry : FactionEntry) : Bool :=
  match manager.findState entry with
  | none => false
  | some faction => faction.has factionFlagVisible

/-- How many factions have `FACTION_FLAG_VISIBLE`. -/
def visibleCount : Nat := store.listed.countP (isVisible manager)

end Counters

structure Tracked (store : FactionStore) (player : Player) (manager : Manager)
    (rows : List Row) : Prop where
  keys : manager.factions.map FactionState.reputationListID = store.listed.map FactionEntry.key
  fits : ∀ faction ∈ manager.factions, ∃ entry ∈ store.listed,
    faction.reputationListID = entry.key ∧ faction.id = entry.id ∧
      Fits player entry faction.standing faction.flags
  saved : ∀ faction ∈ manager.factions, faction.needSave = false → Recorded rows faction
  honored : manager.honoredFactionCount = UInt8.ofNat (rankCount store player manager repHonored)
  revered : manager.reveredFactionCount = UInt8.ofNat (rankCount store player manager repRevered)
  exalted : manager.exaltedFactionCount = UInt8.ofNat (rankCount store player manager repExalted)
  visible : manager.visibleFactionCount = UInt8.ofNat (visibleCount store manager)

section Tracked

variable {store : FactionStore} {player : Player} {manager : Manager} {rows : List Row}

theorem canHaveReputation_of_listed {entry : FactionEntry} (isListed : entry ∈ store.listed) :
    entry.canHaveReputation = true :=
  (List.mem_filter.mp (List.mem_filter.mp isListed).1).2

theorem entry_of_listed {entry : FactionEntry} (isListed : entry ∈ store.listed) :
    entry ∈ store.entries :=
  (List.mem_filter.mp (List.mem_filter.mp isListed).1).1

theorem getState_of_listed {entry : FactionEntry} (isListed : entry ∈ store.listed) :
    manager.getState entry = manager.findState entry :=
  if_pos (canHaveReputation_of_listed isListed)

theorem entry_of_key {first second : FactionEntry} (isFirst : first ∈ store.listed)
    (isSecond : second ∈ store.listed) (same : first.key = second.key) : first = second :=
  List.inj_on_of_nodup_map store.listIds (List.mem_filter.mp isFirst).1
    (List.mem_filter.mp isSecond).1 same

theorem nodup_keys : (store.listed.map FactionEntry.key).Nodup :=
  store.listIds.sublist (List.filter_sublist.map _)

theorem entry_of_id {first second : FactionEntry} (isFirst : first ∈ store.entries)
    (isSecond : second ∈ store.entries) (same : first.id = second.id) : first = second :=
  List.inj_on_of_nodup_map store.ids isFirst isSecond same

theorem Tracked.nodup (tracked : Tracked store player manager rows) :
    (manager.factions.map FactionState.reputationListID).Nodup := by
  rw [tracked.keys]
  exact nodup_keys

/-- Every faction of the list has its state. -/
theorem Tracked.find (tracked : Tracked store player manager rows) {entry : FactionEntry}
    (isListed : entry ∈ store.listed) :
    ∃ faction ∈ manager.factions, manager.findState entry = some faction ∧
      faction.reputationListID = entry.key ∧ faction.id = entry.id ∧
        Fits player entry faction.standing faction.flags := by
  have present : entry.key ∈ manager.factions.map FactionState.reputationListID := by
    rw [tracked.keys]
    exact List.mem_map_of_mem isListed
  obtain ⟨faction, isFaction, sameKey⟩ := List.mem_map.mp present
  obtain ⟨other, isOther, otherKey, sameId, fits⟩ := tracked.fits faction isFaction
  obtain rfl := entry_of_key isOther isListed (otherKey.symm.trans sameKey)
  refine ⟨faction, isFaction, ?_, sameKey, sameId, fits⟩
  unfold Manager.findState
  rw [← sameKey]
  exact find_of_mem tracked.nodup isFaction

/-- A state that is found belongs to a faction of the list. -/
theorem Tracked.entry (tracked : Tracked store player manager rows) {key : UInt32}
    {faction : FactionState}
    (found : Table.find FactionState.reputationListID manager.factions key = some faction) :
    ∃ entry ∈ store.listed, entry.key = key ∧ manager.findState entry = some faction ∧
      faction.reputationListID = entry.key ∧ faction.id = entry.id ∧
        Fits player entry faction.standing faction.flags := by
  obtain ⟨entry, isListed, sameKey, sameId, fits⟩ := tracked.fits faction (mem_of_find found)
  have isKey := sameKey.symm.trans (key_of_find found)
  refine ⟨entry, isListed, isKey, ?_, sameKey, sameId, fits⟩
  unfold Manager.findState
  rw [isKey]
  exact found

/-! ### One write -/

section Write

variable {entry : FactionEntry} {faction next : FactionState}

theorem findState_write (found : manager.findState entry = some faction)
    (sameKey : next.reputationListID = faction.reputationListID) :
    (manager.write next).findState entry = some next := by
  have isKey : next.reputationListID = entry.key := sameKey.trans (key_of_find found)
  unfold Manager.findState at found ⊢
  rw [← isKey] at found ⊢
  exact find_replace_self found

theorem findState_write_of_ne (found : manager.findState entry = some faction)
    (sameKey : next.reputationListID = faction.reputationListID) {other : FactionEntry}
    (differs : other.key ≠ entry.key) :
    (manager.write next).findState other = manager.findState other := by
  have isKey : next.reputationListID = entry.key := sameKey.trans (key_of_find found)
  exact find_replace_of_ne (isKey ▸ differs)

theorem getRank_of_findState (isListed : entry ∈ store.listed)
    (found : manager.findState entry = some faction) :
    manager.getRank player entry =
      reputationToRank (getBaseReputation player entry + faction.standing) := by
  unfold Manager.getRank Manager.getReputation
  rw [getState_of_listed isListed, found]

theorem countP_change (before after : FactionEntry → Bool) (isListed : entry ∈ store.listed)
    (others : ∀ other ∈ store.listed, other.key ≠ entry.key → after other = before other) :
    store.listed.countP after + counted before entry =
      store.listed.countP before + counted after entry := by
  rw [countP_eq_sum, countP_eq_sum]
  apply sum_agree nodup_keys isListed
  intro other isOther differs
  unfold counted
  rw [others other isOther differs]

theorem rankCount_write (isListed : entry ∈ store.listed)
    (found : manager.findState entry = some faction)
    (sameKey : next.reputationListID = faction.reputationListID) (rank : ReputationRank) :
    rankCount store player (manager.write next) rank +
        (if rank ≤ reputationToRank (getBaseReputation player entry + faction.standing) then 1
          else 0) =
      rankCount store player manager rank +
        if rank ≤ reputationToRank (getBaseReputation player entry + next.standing) then 1
          else 0 := by
  have change := countP_change (fun entry => rank ≤ manager.getRank player entry)
    (fun entry => rank ≤ (manager.write next).getRank player entry) isListed (by
      intro other isOther differs
      unfold Manager.getRank Manager.getReputation
      rw [getState_of_listed isOther, getState_of_listed isOther,
        findState_write_of_ne found sameKey differs])
  simp only [counted, decide_eq_true_eq, getRank_of_findState isListed found,
    getRank_of_findState isListed (findState_write found sameKey)] at change
  exact change

theorem visibleCount_write (isListed : entry ∈ store.listed)
    (found : manager.findState entry = some faction)
    (sameKey : next.reputationListID = faction.reputationListID) :
    visibleCount store (manager.write next) +
        (if faction.has factionFlagVisible then 1 else 0) =
      visibleCount store manager + if next.has factionFlagVisible then 1 else 0 := by
  have change := countP_change (isVisible manager) (isVisible (manager.write next)) isListed (by
      intro other isOther differs
      unfold isVisible
      rw [findState_write_of_ne found sameKey differs])
  unfold counted isVisible at change
  rw [found, findState_write found sameKey] at change
  exact change

end Write

theorem countRank_eq {rank old new : ReputationRank} {count next : Nat}
    (change : next + (if rank ≤ old then 1 else 0) = count + if rank ≤ new then 1 else 0) :
    Manager.countRank rank old new (UInt8.ofNat count) = UInt8.ofNat next := by
  unfold Manager.countRank
  split_ifs at change ⊢
  · have same : next = count := by omega
    rw [same, UInt8.sub_add_cancel]
  · have more : count = next + 1 := by omega
    rw [more, UInt8.ofNat_add]
    exact UInt8.add_sub_cancel _ _
  · rw [← UInt8.ofNat_one, ← UInt8.ofNat_add, ← change, Nat.add_zero]
  · have same : next = count := by omega
    rw [same]

/-- The manager after one state was written, with its counters. -/
structure Written (player : Player) (entry : FactionEntry) (faction next : FactionState)
    (manager after : Manager) : Prop where
  factions : after.factions = (manager.write next).factions
  honored : after.honoredFactionCount = Manager.countRank repHonored
    (reputationToRank (getBaseReputation player entry + faction.standing))
    (reputationToRank (getBaseReputation player entry + next.standing))
    manager.honoredFactionCount
  revered : after.reveredFactionCount = Manager.countRank repRevered
    (reputationToRank (getBaseReputation player entry + faction.standing))
    (reputationToRank (getBaseReputation player entry + next.standing))
    manager.reveredFactionCount
  exalted : after.exaltedFactionCount = Manager.countRank repExalted
    (reputationToRank (getBaseReputation player entry + faction.standing))
    (reputationToRank (getBaseReputation player entry + next.standing))
    manager.exaltedFactionCount
  visible : after.visibleFactionCount =
    if faction.becomesVisible && next.has factionFlagVisible then manager.visibleFactionCount + 1
    else manager.visibleFactionCount

theorem rankCount_congr {after : Manager} (same : after.factions = manager.factions)
    (rank : ReputationRank) : rankCount store player after rank =
      rankCount store player manager rank := by
  unfold rankCount Manager.getRank Manager.getReputation Manager.getState Manager.findState
  rw [same]

theorem visibleCount_congr {after : Manager} (same : after.factions = manager.factions) :
    visibleCount store after = visibleCount store manager := by
  unfold visibleCount
  congr 1
  funext entry
  unfold isVisible Manager.findState
  rw [same]

/-- Whatever is written for a faction fits, is counted, and is saved later. -/
theorem Tracked.written (tracked : Tracked store player manager rows) {entry : FactionEntry}
    {faction next : FactionState} {after : Manager} (isListed : entry ∈ store.listed)
    (found : manager.findState entry = some faction)
    (sameKey : next.reputationListID = faction.reputationListID) (sameId : next.id = faction.id)
    (fits : Fits player entry next.standing next.flags)
    (saved : next.needSave = false → Recorded rows next)
    (shows : next.has factionFlagVisible =
      (faction.has factionFlagVisible || (faction.becomesVisible && next.has factionFlagVisible)))
    (written : Written player entry faction next manager after) :
    Tracked store player after rows := by
  obtain ⟨old, -, isOld, oldKey, oldId, -⟩ := tracked.find isListed
  obtain rfl := Option.some.inj (isOld.symm.trans found)
  have member : ∀ {state}, state ∈ after.factions →
      state = next ∨ state ∈ manager.factions := by
    intro state isState
    rw [written.factions] at isState
    exact (mem_replace isState).imp_right And.left
  refine ⟨?_, ?_, ?_, ?_, ?_, ?_, ?_⟩
  · rw [written.factions]
    exact (map_replace _ _).trans tracked.keys
  · intro state isState
    rcases member isState with rfl | isOther
    · exact ⟨entry, isListed, sameKey.trans oldKey, sameId.trans oldId, fits⟩
    · exact tracked.fits state isOther
  · intro state isState
    rcases member isState with rfl | isOther
    · exact saved
    · exact tracked.saved state isOther
  · rw [rankCount_congr written.factions, written.honored, tracked.honored]
    exact countRank_eq (rankCount_write isListed found sameKey repHonored)
  · rw [rankCount_congr written.factions, written.revered, tracked.revered]
    exact countRank_eq (rankCount_write isListed found sameKey repRevered)
  · rw [rankCount_congr written.factions, written.exalted, tracked.exalted]
    exact countRank_eq (rankCount_write isListed found sameKey repExalted)
  · have count := visibleCount_write isListed found sameKey
    rw [visibleCount_congr written.factions, written.visible, tracked.visible]
    split_ifs with becomes
    · rw [Bool.and_eq_true] at becomes
      rw [old.not_visible_of_becomesVisible becomes.1, becomes.2] at count
      simp only [Bool.false_eq_true, if_false, if_true, Nat.add_zero] at count
      rw [count, UInt8.ofNat_add, UInt8.ofNat_one]
    · rw [Bool.not_eq_true] at becomes
      rw [becomes, Bool.or_false] at shows
      rw [shows] at count
      rw [Nat.add_right_cancel count]

/-! ### Several writes of one state -/

theorem write_write {first second : FactionState}
    (sameKey : second.reputationListID = first.reputationListID) :
    ((manager.write first).write second).factions = (manager.write second).factions :=
  replace_replace sameKey

theorem listed_of_findState (tracked : Tracked store player manager rows) {entry : FactionEntry}
    (isEntry : entry ∈ store.entries) {faction : FactionState}
    (found : manager.findState entry = some faction) : entry ∈ store.listed := by
  obtain ⟨other, isListed, sameKey, -⟩ := tracked.entry found
  have sameList : other.reputationListID = entry.reputationListID := by
    have := congrArg UInt32.toInt32 sameKey
    simpa [FactionEntry.key] using this
  have allowed : entry.canHaveReputation = true := by
    have allowed := canHaveReputation_of_listed isListed
    unfold FactionEntry.canHaveReputation at allowed ⊢
    rw [← sameList]
    exact allowed
  have same : other = entry := List.inj_on_of_nodup_map store.listIds
    (List.mem_filter.mp isListed).1 (List.mem_filter.mpr ⟨isEntry, allowed⟩) sameKey
  rw [← same]
  exact isListed

theorem isEntry_of_lookup {id : Nat} {entry : FactionEntry}
    (found : store.lookupEntry id = some entry) : entry ∈ store.entries :=
  mem_of_find found

theorem base_range (player : Player) {entry : FactionEntry} (isEntry : entry ∈ store.entries) :
    reputationBottom.toInt ≤ (getBaseReputation player entry).toInt ∧
      (getBaseReputation player entry).toInt ≤ reputationCap.toInt := by
  unfold getBaseReputation
  split
  · decide
  · rename_i index _
    obtain ⟨lower, upper⟩ := store.baseValues entry isEntry index
    exact ⟨Int32.le_iff_toInt_le.mp lower, Int32.le_iff_toInt_le.mp upper⟩

theorem active_by_default (player : Player) {entry : FactionEntry}
    (isEntry : entry ∈ store.entries) :
    hasFlag (getDefaultStateFlags player entry) factionFlagInactive = false := by
  unfold getDefaultStateFlags
  split
  · decide
  · rename_i index _
    exact store.active entry isEntry index

theorem relative_standing {base standing : Int32}
    (baseLower : reputationBottom.toInt ≤ base.toInt) (baseUpper : base.toInt ≤ reputationCap.toInt)
    (lower : reputationBottom ≤ standing) (upper : standing ≤ reputationCap) :
    base.toInt + (standing - base).toInt = standing.toInt ∧
      base + (standing - base) = standing := by
  have isBottom : reputationBottom.toInt = -42000 := by decide
  have isCap : reputationCap.toInt = 42999 := by decide
  rw [Int32.le_iff_toInt_le] at lower upper
  have sum : base.toInt + (standing - base).toInt = standing.toInt := by
    rw [Int32.toInt_sub]
    simp only [Int.bmod_def]
    omega
  refine ⟨sum, Int32.toInt_inj.mp ?_⟩
  rw [Int32.toInt_add, sum]
  simp only [Int.bmod_def]
  omega

/-- The limits of a standing. -/
def clamp (standing : Int32) : Int32 :=
  if reputationCap < standing then reputationCap
  else if standing < reputationBottom then reputationBottom
  else standing

theorem clamp_range (standing : Int32) :
    reputationBottom ≤ clamp standing ∧ clamp standing ≤ reputationCap := by
  unfold clamp
  split_ifs with high low
  · decide
  · decide
  · exact ⟨Int32.not_lt.mp low, Int32.not_lt.mp high⟩

/-- The standing that is asked for, before it is limited. -/
def wanted (rates : Rates) (player : Player) (entry : FactionEntry) (faction : FactionState)
    (standing : Int32) (incremental : Bool) : Int32 :=
  if incremental then rates.gain standing + (faction.standing + getBaseReputation player entry)
  else standing

/-- What `SetOneFactionReputation` does with the state it finds. -/
structure Given (player : Player) (entry : FactionEntry) (faction next : FactionState)
    (total : Int32) (manager after : Manager) : Prop where
  reputationListID : next.reputationListID = faction.reputationListID
  id : next.id = faction.id
  isTotal : getBaseReputation player entry + next.standing = total
  exactly : (getBaseReputation player entry).toInt + next.standing.toInt = total.toInt
  needSave : next.needSave = true
  flags : FlagsFit (getDefaultStateFlags player entry) faction.flags →
    FlagsFit (getDefaultStateFlags player entry) next.flags
  visible : next.has factionFlagVisible =
    (faction.has factionFlagVisible || faction.becomesVisible)
  written : Written player entry faction next manager after

theorem given_setOneFactionReputation (manager : Manager) (rates : Rates) {entry : FactionEntry}
    (isEntry : entry ∈ store.entries) {faction : FactionState}
    (found : manager.findState entry = some faction) (standing : Int32) (incremental : Bool) :
    ∃ next, Given player entry faction next
      (clamp (wanted rates player entry faction standing incremental)) manager
      (manager.setOneFactionReputation store player rates entry standing incremental) := by
  obtain ⟨baseLower, baseUpper⟩ := base_range player isEntry
  have range := clamp_range (wanted rates player entry faction standing incremental)
  obtain ⟨exactSum, relative⟩ := relative_standing baseLower baseUpper range.1 range.2
  unfold Manager.setOneFactionReputation
  simp -zeta only [found]
  extract_lets baseRep amount sum total oldRank newRank before changed shown visible final
    written increased counted change
  have isTotal : total = clamp (wanted rates player entry faction standing incremental) := by
    dsimp only [total, sum, amount]
    unfold wanted clamp
    cases incremental <;> rfl
  rw [← isTotal] at exactSum relative ⊢
  have alikeVisible := changed.alike_setVisible
  have visibleSaves : visible.needSave = true := changed.setVisible_needSave rfl
  have visibleFits : FlagsFit (getDefaultStateFlags player entry) faction.flags →
      FlagsFit (getDefaultStateFlags player entry) visible.flags := changed.fits_setVisible
  have visibleFlag := changed.setVisible_visible
  have warAlike : visible.Alike final ∧ final.needSave = true ∧
      (FlagsFit (getDefaultStateFlags player entry) visible.flags →
        FlagsFit (getDefaultStateFlags player entry) final.flags) ∧
      final.has factionFlagVisible = visible.has factionFlagVisible := by
    dsimp only [final]
    split_ifs
    · exact ⟨visible.alike_setAtWar _ _, visible.setAtWar_needSave visibleSaves _ _,
        fun fits => visible.fits_setAtWar fits _ _, visible.setAtWar_flags _ _ (by decide)⟩
    · exact ⟨⟨rfl, rfl, rfl⟩, visibleSaves, fun fits => fits, rfl⟩
  obtain ⟨alike, saves, flagsFit, sameVisible⟩ := warAlike
  have isStanding : final.standing = total - getBaseReputation player entry :=
    alike.standing.trans alikeVisible.standing
  have isSum : getBaseReputation player entry + final.standing = total := by
    rw [isStanding]
    exact relative
  have isVisible : final.has factionFlagVisible =
      (faction.has factionFlagVisible || faction.becomesVisible) :=
    sameVisible.trans visibleFlag
  have oldTotal : oldRank =
      reputationToRank (getBaseReputation player entry + faction.standing) := by
    rw [Int32.add_comm]
  have newTotal : newRank = reputationToRank (getBaseReputation player entry + final.standing) := by
    rw [isSum]
  refine ⟨final, alike.reputationListID.trans alikeVisible.reputationListID,
    alike.id.trans alikeVisible.id, isSum, ?_, saves, fun fits => flagsFit (visibleFits fits),
    isVisible, write_write alike.reputationListID, ?_, ?_, ?_, ?_⟩
  · rw [isStanding]
    exact exactSum
  · rw [← oldTotal, ← newTotal]
    rfl
  · rw [← oldTotal, ← newTotal]
    rfl
  · rw [← oldTotal, ← newTotal]
    rfl
  · rw [isVisible]
    show (if faction.becomesVisible then manager.visibleFactionCount + 1
      else manager.visibleFactionCount) = _
    cases faction.becomesVisible <;> simp

theorem Tracked.state (tracked : Tracked store player manager rows) {key : UInt32}
    {faction : FactionState}
    (found : Table.find FactionState.reputationListID manager.factions key = some faction) :
    ∃ entry ∈ store.listed, faction ∈ manager.factions ∧
      manager.findState entry = some faction ∧
        Fits player entry faction.standing faction.flags := by
  obtain ⟨entry, isListed, -, entryFound, -, -, fits⟩ := tracked.entry found
  exact ⟨entry, isListed, mem_of_find found, entryFound, fits⟩

theorem setOneFactionReputation_of_none (rates : Rates) {entry : FactionEntry}
    (found : manager.findState entry = none) (standing : Int32) (incremental : Bool) :
    manager.setOneFactionReputation store player rates entry standing incremental = manager := by
  unfold Manager.setOneFactionReputation
  rw [found]

theorem Tracked.setOneFactionReputation (tracked : Tracked store player manager rows)
    (rates : Rates) {entry : FactionEntry} (isEntry : entry ∈ store.entries) (standing : Int32)
    (incremental : Bool) :
    Tracked store player
      (manager.setOneFactionReputation store player rates entry standing incremental) rows := by
  cases found : manager.findState entry with
  | none =>
      rw [setOneFactionReputation_of_none rates found]
      exact tracked
  | some faction =>
      have isListed := listed_of_findState tracked isEntry found
      obtain ⟨next, given⟩ :=
        given_setOneFactionReputation manager rates isEntry found standing incremental
      have range := clamp_range (wanted rates player entry faction standing incremental)
      have oldFits : Fits player entry faction.standing faction.flags := by
        obtain ⟨old, -, isOld, -, -, fits⟩ := tracked.find isListed
        rw [Option.some.inj (found.symm.trans isOld)]
        exact fits
      refine tracked.written isListed found given.reputationListID given.id
        ⟨?_, ?_, given.flags oldFits.flags⟩
        (fun unsaved => absurd given.needSave (by simp [unsaved])) ?_ given.written
      · rw [given.exactly]
        exact Int32.le_iff_toInt_le.mp range.1
      · rw [given.exactly]
        exact Int32.le_iff_toInt_le.mp range.2
      · rw [given.visible]
        cases faction.has factionFlagVisible <;> simp

/-! ### Changes of the flags -/

theorem countRank_self (rank old : ReputationRank) (count : UInt8) :
    Manager.countRank rank old old count = count := by
  unfold Manager.countRank
  split_ifs
  · exact UInt8.sub_add_cancel _ _
  · rfl

/-- A state whose flags changed, with the same standing. -/
theorem Tracked.flagged (tracked : Tracked store player manager rows) {entry : FactionEntry}
    {faction next : FactionState} {after : Manager} (isListed : entry ∈ store.listed)
    (found : manager.findState entry = some faction)
    (fits : Fits player entry faction.standing faction.flags) (alike : faction.Alike next)
    (flags : FlagsFit (getDefaultStateFlags player entry) next.flags)
    (saved : next.needSave = false → Recorded rows next)
    (shows : next.has factionFlagVisible =
      (faction.has factionFlagVisible || (faction.becomesVisible && next.has factionFlagVisible)))
    (isAfter : after = { manager.write next with
      visibleFactionCount :=
        if faction.becomesVisible && next.has factionFlagVisible then
          manager.visibleFactionCount + 1
        else manager.visibleFactionCount }) :
    Tracked store player after rows := by
  refine tracked.written isListed found alike.reputationListID alike.id ⟨?_, ?_, flags⟩ saved
    shows ⟨?_, ?_, ?_, ?_, ?_⟩
  · rw [alike.standing]
    exact fits.lower
  · rw [alike.standing]
    exact fits.upper
  · rw [isAfter]
  · rw [alike.standing, countRank_self, isAfter]
    rfl
  · rw [alike.standing, countRank_self, isAfter]
    rfl
  · rw [alike.standing, countRank_self, isAfter]
    rfl
  · rw [isAfter]

/-- A state that is shown as before. -/
theorem Tracked.reflagged (tracked : Tracked store player manager rows) {entry : FactionEntry}
    {faction next : FactionState} (isListed : entry ∈ store.listed)
    (found : manager.findState entry = some faction)
    (fits : Fits player entry faction.standing faction.flags) (alike : faction.Alike next)
    (flags : FlagsFit (getDefaultStateFlags player entry) next.flags)
    (saved : next.needSave = false → Recorded rows next)
    (sameVisible : next.has factionFlagVisible = faction.has factionFlagVisible) :
    Tracked store player (manager.write next) rows := by
  refine tracked.flagged isListed found fits alike flags saved ?_ ?_
  · rw [sameVisible]
    cases faction.has factionFlagVisible <;> simp
  · rw [sameVisible]
    cases becomes : faction.becomesVisible with
    | false => rfl
    | true =>
      rw [faction.not_visible_of_becomesVisible becomes]
      rfl

theorem Recorded.of_alike {faction next : FactionState} (recorded : Recorded rows faction)
    (alike : faction.Alike next) (same : FactionState.SameFlags faction.flags next.flags) :
    Recorded rows next := by
  obtain ⟨row, isRow, sameId, sameStanding, flags, isFlags, sameFlags⟩ := recorded
  refine ⟨row, isRow, ?_, ?_, flags, isFlags, sameFlags.visible.trans same.visible,
    sameFlags.inactive.trans same.inactive⟩
  · rw [alike.id]
    exact sameId
  · rw [alike.standing]
    exact sameStanding

theorem Tracked.setVisible (tracked : Tracked store player manager rows) (entry : FactionEntry) :
    Tracked store player (manager.setVisible entry) rows := by
  unfold Manager.setVisible Manager.getState
  split
  · exact tracked
  · rename_i faction found
    split_ifs at found
    obtain ⟨other, isListed, isFaction, otherFound, fits⟩ := tracked.state found
    refine tracked.flagged isListed otherFound fits faction.alike_setVisible
      (faction.fits_setVisible fits.flags) ?_ ?_ ?_
    · intro unsaved
      have same : faction.setVisible = faction := by
        unfold FactionState.setVisible at unsaved ⊢
        split_ifs at unsaved ⊢
        rfl
      rw [same] at unsaved ⊢
      exact tracked.saved faction isFaction unsaved
    · rw [faction.setVisible_visible]
      cases faction.has factionFlagVisible <;> simp
    · rw [faction.setVisible_visible]
      unfold Manager.showFaction
      cases faction.becomesVisible <;> simp

theorem Tracked.setAtWar (tracked : Tracked store player manager rows) (key : UInt32)
    (on : Bool) : Tracked store player (manager.setAtWar store player key on) rows := by
  unfold Manager.setAtWar
  split
  · exact tracked
  · rename_i faction found
    obtain ⟨entry, isListed, isFaction, entryFound, fits⟩ := tracked.state found
    split_ifs
    · exact tracked
    · generalize manager.isSworn store player faction = sworn
      have alike := faction.alike_setAtWar sworn on
      have visible : (faction.setAtWar sworn on).has factionFlagVisible =
          faction.has factionFlagVisible := faction.setAtWar_flags sworn on (by decide)
      have inactive : (faction.setAtWar sworn on).has factionFlagInactive =
          faction.has factionFlagInactive := faction.setAtWar_flags sworn on (by decide)
      refine tracked.reflagged isListed entryFound fits alike
        (faction.fits_setAtWar fits.flags sworn on) ?_ visible
      intro unsaved
      have before : faction.needSave = false := by
        cases needSave : faction.needSave with
        | false => rfl
        | true => exact absurd (faction.setAtWar_needSave needSave sworn on) (by simp [unsaved])
      exact (tracked.saved faction isFaction before).of_alike alike ⟨visible.symm, inactive.symm⟩

theorem Tracked.setInactive (tracked : Tracked store player manager rows) (key : UInt32)
    (on : Bool) : Tracked store player (manager.setInactive key on) rows := by
  unfold Manager.setInactive
  split
  · exact tracked
  · rename_i faction found
    obtain ⟨entry, isListed, isFaction, entryFound, fits⟩ := tracked.state found
    refine tracked.reflagged isListed entryFound fits (faction.alike_setInactive on)
      (faction.fits_setInactive fits.flags on) ?_ (faction.setInactive_flags on (by decide))
    intro unsaved
    have same : faction.setInactive on = faction := by
      unfold FactionState.setInactive at unsaved ⊢
      split_ifs at unsaved ⊢ <;> rfl
    rw [same] at unsaved ⊢
    exact tracked.saved faction isFaction unsaved

/-! ### All states at once -/

/-- The same states, but for what is sent and saved. -/
structure SameStates (change : FactionState → FactionState) : Prop where
  alike : ∀ faction : FactionState, faction.Alike (change faction)
  flags : ∀ faction, (change faction).flags = faction.flags

section Mapped

variable {change : FactionState → FactionState} {after : Manager}

theorem findState_map (same : SameStates change)
    (factions : after.factions = manager.factions.map change) (entry : FactionEntry) :
    after.findState entry = (manager.findState entry).map change := by
  have sameKey : (fun faction => decide (FactionState.reputationListID faction = entry.key)) ∘
      change = fun faction => decide (FactionState.reputationListID faction = entry.key) := by
    funext faction
    exact congrArg (decide <| · = entry.key) (same.alike faction).reputationListID
  unfold Manager.findState Table.find
  rw [factions, List.find?_map, sameKey]

theorem getReputation_map (same : SameStates change)
    (factions : after.factions = manager.factions.map change) (entry : FactionEntry) :
    after.getReputation player entry = manager.getReputation player entry := by
  unfold Manager.getReputation Manager.getState
  rw [findState_map same factions]
  split_ifs
  · cases manager.findState entry with
    | none => rfl
    | some faction =>
      exact congrArg (getBaseReputation player entry + ·) (same.alike faction).standing
  · rfl

theorem isVisible_map (same : SameStates change)
    (factions : after.factions = manager.factions.map change) (entry : FactionEntry) :
    isVisible after entry = isVisible manager entry := by
  unfold isVisible
  rw [findState_map same factions]
  cases manager.findState entry with
  | none => rfl
  | some faction => exact congrArg (hasFlag · factionFlagVisible) (same.flags faction)

theorem Tracked.mapped (tracked : Tracked store player manager rows) {saved : List Row}
    (same : SameStates change) (factions : after.factions = manager.factions.map change)
    (recorded : ∀ faction ∈ manager.factions, (change faction).needSave = false →
      Recorded saved faction)
    (honored : after.honoredFactionCount = manager.honoredFactionCount)
    (revered : after.reveredFactionCount = manager.reveredFactionCount)
    (exalted : after.exaltedFactionCount = manager.exaltedFactionCount)
    (visible : after.visibleFactionCount = manager.visibleFactionCount) :
    Tracked store player after saved := by
  have ranks : ∀ rank, rankCount store player after rank = rankCount store player manager rank := by
    intro rank
    unfold rankCount Manager.getRank
    simp only [getReputation_map same factions]
  have shown : visibleCount store after = visibleCount store manager := by
    unfold visibleCount
    congr 1
    exact funext (isVisible_map same factions)
  refine ⟨?_, ?_, ?_, ?_, ?_, ?_, ?_⟩
  · rw [factions, ← tracked.keys, List.map_map]
    exact List.map_congr_left fun faction _ => (same.alike faction).reputationListID
  · rw [factions]
    intro state isState
    obtain ⟨faction, isFaction, rfl⟩ := List.mem_map.mp isState
    obtain ⟨entry, isListed, sameKey, sameId, fits⟩ := tracked.fits faction isFaction
    have alike := same.alike faction
    refine ⟨entry, isListed, alike.reputationListID.trans sameKey, alike.id.trans sameId, ?_⟩
    rw [alike.standing, same.flags]
    exact fits
  · rw [factions]
    intro state isState unsaved
    obtain ⟨faction, isFaction, rfl⟩ := List.mem_map.mp isState
    refine (recorded faction isFaction unsaved).of_alike (same.alike faction) ?_
    rw [same.flags]
    exact ⟨rfl, rfl⟩
  · rw [ranks, honored, tracked.honored]
  · rw [ranks, revered, tracked.revered]
  · rw [ranks, exalted, tracked.exalted]
  · rw [shown, visible, tracked.visible]

end Mapped

/-- What is sent to the client does not matter. -/
theorem Tracked.sendState (tracked : Tracked store player manager rows) :
    Tracked store player manager.sendState rows := by
  have same : SameStates fun faction => { faction with needSend := false } :=
    ⟨fun _ => ⟨rfl, rfl, rfl⟩, fun _ => rfl⟩
  exact tracked.mapped same rfl tracked.saved rfl rfl rfl rfl

end Tracked

end RealmServer.Reputation
