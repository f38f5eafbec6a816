import RealmServer.Utilities.TimedEvents

/-!
# The event map keeps timed events

The multimap is the list of timed events in the order in which they are due,
each with the time of the clock at which it is due and with its word.  Every
call keeps it so, and `ExecuteEvent` returns the same event.
-/

namespace RealmServer.Utilities

open RealmServer.StableOrder RealmServer.Transition TimedEvent TimedEvents

/-- The entry of an event in the multimap. -/
def TimedEvent.entry (elapsed : Nat) (event : TimedEvent) : Nat × BitVec 32 :=
  ((elapsed + event.remaining).toNat, event.label.data)

structure Represents (eventMap : EventMap) (timed : TimedEvents) : Prop where
  events : eventMap.eventMap = (order timed.events).map (entry timed.elapsed)
  time : eventMap.time = timed.elapsed
  phase : ∀ phase, 1 ≤ phase → phase ≤ 8 →
    eventMap.phase.getLsbD (phase - 1) = decide (phase ∈ timed.activePhases)
  lastEvent : eventMap.lastEvent = timed.lastLabel.data

theorem represents_start : Represents EventMap.start TimedEvents.start where
  events := rfl
  time := rfl
  phase phase _ _ := by
    change (0#8).getLsbD (phase - 1) = decide (phase ∈ (∅ : Finset Nat))
    rw [BitVec.getLsbD_zero]
    rfl
  lastEvent := rfl

/-! ## Insertion -/

section Insertion

variable {elapsed : Nat}

theorem entry_lt_iff {first second : TimedEvent} (timely : 0 ≤ elapsed + first.remaining) :
    (entry elapsed first).1 < (entry elapsed second).1 ↔ Sooner first second := by
  unfold entry Sooner
  dsimp only
  omega

theorem map_insert {events : List TimedEvent} {event : TimedEvent}
    (timely : ∀ other ∈ events, 0 ≤ elapsed + other.remaining)
    (isTimely : 0 ≤ elapsed + event.remaining) :
    (events.orderedInsert Sooner event).map (entry elapsed) =
      EventMap.insert (entry elapsed event) (events.map (entry elapsed)) := by
  apply List.map_orderedInsert
  · intro other member
    exact (entry_lt_iff (timely other member)).symm
  · intro other _
    exact (entry_lt_iff isTimely).symm

theorem map_foldl_insert {inserted events : List TimedEvent}
    (timely : ∀ other ∈ events, 0 ≤ elapsed + other.remaining)
    (isTimely : ∀ event ∈ inserted, 0 ≤ elapsed + event.remaining) :
    (inserted.foldl (fun events event => events.orderedInsert Sooner event) events).map
        (entry elapsed) =
      (inserted.map (entry elapsed)).foldl (fun events event => EventMap.insert event events)
        (events.map (entry elapsed)) := by
  induction inserted generalizing events with
  | nil => rfl
  | cons event rest induction =>
      rw [List.forall_mem_cons] at isTimely
      have laterTimely : ∀ other ∈ events.orderedInsert Sooner event,
          0 ≤ elapsed + other.remaining := by
        intro other member
        rcases (List.mem_orderedInsert Sooner).mp member with rfl | old
        · exact isTimely.1
        · exact timely other old
      rw [List.foldl_cons, List.map_cons, List.foldl_cons, induction laterTimely isTimely.2,
        map_insert timely isTimely.1]

end Insertion

namespace Represents

variable {eventMap : EventMap} {timed : TimedEvents}

theorem insert (represents : Represents eventMap timed) (good : timed.Good)
    (label : EventLabel) {time : Nat} (fits : timed.elapsed + time < 2 ^ 32) :
    Represents
      { eventMap with
        eventMap :=
          EventMap.insert ((eventMap.time + time) % 2 ^ 32, label.data) eventMap.eventMap }
      (timed.insert label time) where
  __ := represents
  events := by
    have isEntry : ((eventMap.time + time) % 2 ^ 32, label.data) =
        entry timed.elapsed ⟨label, time, timed.next, timed.next⟩ := by
      rw [represents.time, Nat.mod_eq_of_lt fits]
      rfl
    have inserted : order (timed.insert label time).events =
        (order timed.events).orderedInsert Sooner ⟨label, time, timed.next, timed.next⟩ :=
      ranking_append good.turns good.earlier
    rw [inserted, isEntry, represents.events]
    refine (map_insert ?_ ?_).symm
    · exact fun other member => (good.timely other (mem_order.mp member)).1
    · dsimp only
      omega

/-- Events which are told apart by their words go from both. -/
theorem cancel (represents : Represents eventMap timed) (good : timed.Good)
    (isCancelled : TimedEvent → Bool) (drops : Nat × BitVec 32 → Bool)
    (same : ∀ event ∈ timed.events, drops (entry timed.elapsed event) = isCancelled event) :
    Represents
      { eventMap with eventMap := eventMap.eventMap.filter fun event => !drops event }
      (timed.cancel isCancelled) where
  __ := represents
  events := by
    have inOrder : order (timed.cancel isCancelled).events =
        (order timed.events).filter fun event => !isCancelled event :=
      ranking_filter good.turns _
    rw [inOrder]
    change eventMap.eventMap.filter _ = _
    rw [represents.events, List.filter_map]
    refine congrArg (List.map (entry timed.elapsed)) (List.filter_congr ?_)
    intro event member
    exact congrArg (fun dropped => !dropped) (same event (mem_order.mp member))

theorem shift (represents : Represents eventMap timed) {time : ℤ} {elapsed : Nat}
    (balance : elapsed + time = timed.elapsed) :
    Represents { eventMap with time := elapsed } (timed.shift time elapsed) where
  __ := represents
  events := by
    have inOrder : order (timed.shift time elapsed).events =
        (order timed.events).map fun event =>
          { event with remaining := event.remaining + time } := by
      apply ranking_map
      · intro first second
        exact add_lt_add_iff_right time
      · exact fun _ => rfl
    rw [inOrder, List.map_map]
    change eventMap.eventMap = _
    rw [represents.events]
    apply List.map_congr_left
    intro event _
    have sameTime : ((timed.shift time elapsed).elapsed : ℤ) + (event.remaining + time) =
        timed.elapsed + event.remaining := by
      change (elapsed : ℤ) + _ = _
      omega
    unfold entry
    dsimp only [Function.comp_apply]
    rw [sameTime]
  time := rfl

theorem delayed_entries (good : timed.Good) {delay group : Nat}
    (fits : ∀ event ∈ timed.events, event.label.group = group →
      timed.elapsed + event.remaining + delay < 2 ^ 32) :
    (((order timed.events).filter (isInGroup group)).map (entry timed.elapsed)).map
        (fun event => ((event.1 + delay) % 2 ^ 32, event.2)) =
      (timed.delayed delay group).map (entry timed.elapsed) := by
  calc
    _ = (((((order timed.events).filter (isInGroup group)).zipIdx timed.next).map Prod.fst).map
          (entry timed.elapsed)).map (fun event => ((event.1 + delay) % 2 ^ 32, event.2)) := by
      rw [List.zipIdx_map_fst]
    _ = (timed.delayed delay group).map (entry timed.elapsed) := by
      unfold delayed
      rw [List.map_map, List.map_map, List.map_map]
      apply List.map_congr_left
      intro pair inPairs
      obtain ⟨inOrder, inGroup⟩ := List.mem_filter.mp (List.fst_mem_of_mem_zipIdx inPairs)
      have member := mem_order.mp inOrder
      have timely := good.timely pair.1 member
      have below := fits pair.1 member (of_decide_eq_true inGroup)
      unfold entry
      dsimp only [Function.comp_apply]
      rw [Nat.mod_eq_of_lt (by omega)]
      congr 1
      omega

/-- The events which stay and the delayed ones, inserted one after the other. -/
theorem order_delayed (good : timed.Good) {delay group : Nat} :
    (timed.delayed delay group).foldl (fun events event => events.orderedInsert Sooner event)
        ((order timed.events).filter fun event => !isInGroup group event) =
      order ((timed.events.filter fun event => !isInGroup group event) ++
        timed.delayed delay group) := by
  have others : (timed.events.filter fun event => !isInGroup group event).Sublist timed.events :=
    List.filter_sublist
  have sorted : ((order timed.events).filter fun event =>
      !isInGroup group event).Pairwise Precedes := (pairwise_ranking timed.events).filter _
  have increasing : ((timed.delayed delay group).map turn).Pairwise (· < ·) := by
    rw [delayed_turns]
    exact List.pairwise_lt_range'
  have newer : ∀ other ∈ (order timed.events).filter fun event => !isInGroup group event,
      ∀ event ∈ timed.delayed delay group, other.turn ≤ event.turn := by
    intro other member event isDelayed
    have early := good.earlier other (mem_order.mp (List.mem_of_mem_filter member))
    exact early.le.trans (mem_delayed_turn isDelayed).1
  obtain ⟨ranked, perm⟩ := foldl_orderedInsert_spec sorted increasing newer
  refine eq_ranking ?_ ranked (perm.trans ?_)
  · rw [List.map_append, List.nodup_append]
    refine ⟨good.turns.sublist (others.map turn), increasing.imp Nat.ne_of_lt, ?_⟩
    intro first isFirst second isSecond
    obtain ⟨event, member, rfl⟩ := List.mem_map.mp isFirst
    obtain ⟨moved, isDelayed, rfl⟩ := List.mem_map.mp isSecond
    have early := good.earlier event (others.subset member)
    exact Nat.ne_of_lt (early.trans_le (mem_delayed_turn isDelayed).1)
  · exact ((perm_ranking Sooner turn timed.events).filter _).append_right _

theorem delayGroup (represents : Represents eventMap timed) (good : timed.Good)
    {delay group : Nat} (inside : group ≤ 8)
    (fits : ∀ event ∈ timed.events, event.label.group = group →
      timed.elapsed + event.remaining + delay < 2 ^ 32) :
    Represents (eventMap.delayGroup delay group) (timed.delayGroup delay group) := by
  unfold TimedEvents.delayGroup
  by_cases none : group = 0
  · unfold EventMap.delayGroup
    rw [if_pos (.inl none), if_pos none]
    exact represents
  have delayedTimely : ∀ event ∈ timed.delayed delay group,
      0 ≤ timed.elapsed + event.remaining := by
    intro event member
    obtain ⟨before, isOld, _, _, later⟩ := mem_delayed member
    have timely := good.timely before isOld
    omega
  have othersTimely : ∀ event ∈ (order timed.events).filter fun event => !isInGroup group event,
      0 ≤ timed.elapsed + event.remaining := fun event member =>
    (good.timely event (mem_order.mp (List.mem_of_mem_filter member))).1
  have sameGroup : ∀ event ∈ order timed.events,
      EventMap.inGroup group (entry timed.elapsed event) = isInGroup group event := by
    intro event member
    exact EventLabel.inGroup_data (good.packs event (List.mem_append_right _ (mem_order.mp member)))
      none inside
  have members : eventMap.eventMap.filter (EventMap.inGroup group) =
      ((order timed.events).filter (isInGroup group)).map (entry timed.elapsed) := by
    rw [represents.events, List.filter_map]
    exact congrArg (List.map (entry timed.elapsed)) (List.filter_congr sameGroup)
  have others : (eventMap.eventMap.filter fun event => !EventMap.inGroup group event) =
      ((order timed.events).filter fun event => !isInGroup group event).map
        (entry timed.elapsed) := by
    rw [represents.events, List.filter_map]
    refine congrArg (List.map (entry timed.elapsed)) (List.filter_congr ?_)
    exact fun event member => congrArg (fun inGroup => !inGroup) (sameGroup event member)
  have increasing : ((timed.delayed delay group).map turn).Pairwise (· < ·) := by
    rw [delayed_turns]
    exact List.pairwise_lt_range'
  have nothing : ∀ event ∈ ([] : List TimedEvent), 0 ≤ (timed.elapsed : ℤ) + event.remaining :=
    fun _ member => absurd member List.not_mem_nil
  have delayedMap : (eventMap.eventMap.filter (EventMap.inGroup group)).foldl
      (fun delayed event => EventMap.insert ((event.1 + delay) % 2 ^ 32, event.2) delayed) [] =
        (timed.delayed delay group).map (entry timed.elapsed) := by
    calc
      _ = ((timed.delayed delay group).map (entry timed.elapsed)).foldl
            (fun events event => EventMap.insert event events) [] := by
        rw [members, ← delayed_entries good fits, List.foldl_map, List.foldl_map, List.foldl_map]
      _ = ((timed.delayed delay group).foldl
            (fun events event => events.orderedInsert Sooner event) []).map
              (entry timed.elapsed) := (map_foldl_insert nothing delayedTimely).symm
      _ = (timed.delayed delay group).map (entry timed.elapsed) := by
        rw [foldl_orderedInsert_eq_ranking increasing,
          ← eq_ranking (increasing.imp Nat.ne_of_lt) delayed_sorted (.refl _)]
  rw [if_neg none, EventMap.delayGroup_eq none inside, delayedMap, others,
    ← map_foldl_insert othersTimely delayedTimely, order_delayed good]
  exact {
    events := rfl
    time := represents.time
    phase := represents.phase
    lastEvent := represents.lastEvent }

/-! ### Execution -/

/-- The mask has a bit exactly while some phase is active. -/
theorem phase_ne_zero_iff (represents : Represents eventMap timed) (good : timed.Good) :
    eventMap.phase ≠ 0 ↔ timed.activePhases ≠ ∅ := by
  rw [Finset.nonempty_iff_ne_empty.symm]
  constructor
  · intro someBit
    by_contra none
    rw [Finset.not_nonempty_iff_eq_empty] at none
    apply someBit
    apply BitVec.eq_of_getLsbD_eq
    intro bit inside
    have noPhase := represents.phase (bit + 1) (Nat.le_add_left 1 bit) inside
    rw [none, Nat.add_sub_cancel, decide_eq_false (Finset.notMem_empty _)] at noPhase
    rw [noPhase]
    exact BitVec.getLsbD_zero.symm
  · rintro ⟨phase, active⟩ isZero
    have inside := good.phases phase active
    have bit := represents.phase phase inside.1 inside.2
    rw [isZero, decide_eq_true active] at bit
    exact Bool.false_ne_true (BitVec.getLsbD_zero.symm.trans bit)

/-- The loop passes the events of other phases. -/
theorem passes_iff (represents : Represents eventMap timed) (good : timed.Good)
    {event : TimedEvent} (packs : event.label.Packs) :
    (eventMap.phase ≠ 0 ∧ event.label.data &&& 0xFF000000#32 ≠ 0 ∧
        (event.label.data >>> 24) &&& eventMap.phase.setWidth 32 = 0) ↔
      timed.isActive event = false := by
  have inactive : timed.isActive event = false ↔
      event.label.phase ≠ 0 ∧ timed.activePhases ≠ ∅ ∧
        event.label.phase ∉ timed.activePhases := by
    unfold isActive
    rw [decide_eq_false_iff_not, not_or, not_or]
  have hasPhase := EventLabel.data_phase_ne_zero packs
  have notActive := EventLabel.data_phase_active packs eventMap.phase
  rw [inactive, phase_ne_zero_iff represents good]
  constructor
  · rintro ⟨some, phased, cleared⟩
    have positive : event.label.phase ≠ 0 := hasPhase.mp phased
    have bit := represents.phase event.label.phase (Nat.one_le_iff_ne_zero.mpr positive)
      packs.phase
    refine ⟨positive, some, fun active => notActive.mp cleared ⟨positive, ?_⟩⟩
    rw [bit, decide_eq_true active]
  · rintro ⟨positive, some, notMember⟩
    have bit := represents.phase event.label.phase (Nat.one_le_iff_ne_zero.mpr positive)
      packs.phase
    refine ⟨some, hasPhase.mpr positive, notActive.mpr ?_⟩
    rintro ⟨_, active⟩
    rw [bit] at active
    exact notMember (of_decide_eq_true active)

/-- What the loop does with a part of the order. -/
theorem executeFirst_eq (represents : Represents eventMap timed) (good : timed.Good)
    {events : List TimedEvent} (inEvents : ∀ event ∈ events, event ∈ timed.events)
    (sorted : events.Pairwise Precedes) (distinct : (events.map turn).Nodup) :
    EventMap.executeFirst eventMap.time eventMap.phase (events.map (entry timed.elapsed)) =
      match events.find? fun event => isDue event && timed.isActive event with
      | none => (none, (events.filter fun event => !isDue event).map (entry timed.elapsed))
      | some event => (some event.label.data,
          (events.filter fun other => !decide (Precedes other event)).map
            (entry timed.elapsed)) := by
  induction events with
  | nil => rfl
  | cons event later induction =>
      rw [List.forall_mem_cons] at inEvents
      rw [List.pairwise_cons] at sorted
      rw [List.map_cons, List.nodup_cons] at distinct
      have next := induction inEvents.2 sorted.2 distinct.2
      have timely := good.timely event inEvents.1
      have packs := good.packs event (List.mem_append_right _ inEvents.1)
      have dueTime : eventMap.time < (entry timed.elapsed event).1 ↔ isDue event = false := by
        rw [represents.time]
        unfold entry isDue
        rw [decide_eq_false_iff_not]
        dsimp only
        omega
      have passes : (eventMap.phase ≠ 0 ∧
          (entry timed.elapsed event).2 &&& 0xFF000000#32 ≠ 0 ∧
          ((entry timed.elapsed event).2 >>> 24) &&& eventMap.phase.setWidth 32 = 0) ↔
            timed.isActive event = false := passes_iff represents good packs
      rw [List.map_cons, EventMap.executeFirst]
      by_cases waits : isDue event = false
      · have laterWait : ∀ other ∈ event :: later, isDue other = false := by
          rw [List.forall_mem_cons]
          refine ⟨waits, fun other member => ?_⟩
          have notSooner := (sorted.1 other member).not_before
          unfold Sooner at notSooner
          unfold isDue at waits ⊢
          rw [decide_eq_false_iff_not] at waits ⊢
          omega
        have nobody : (event :: later).find?
            (fun event => isDue event && timed.isActive event) = none := by
          apply List.find?_eq_none.mpr
          intro other member
          rw [laterWait other member, Bool.false_and]
          exact Bool.false_ne_true
        have all : ((event :: later).filter fun event => !isDue event) = event :: later :=
          List.filter_eq_self.mpr fun other member => by rw [laterWait other member, Bool.not_false]
        rw [if_pos (dueTime.mpr waits), nobody, all]
        rfl
      · have isDueEvent := Bool.eq_true_of_not_eq_false waits
        rw [if_neg fun late => waits (dueTime.mp late), List.find?_cons, isDueEvent,
          Bool.true_and]
        cases active : timed.isActive event with
        | false =>
            rw [if_pos (passes.mpr active), next]
            dsimp only
            cases found : later.find? fun event => isDue event && timed.isActive event with
            | none =>
                dsimp only
                rw [List.filter_cons_of_neg (by rw [isDueEvent]; exact Bool.false_ne_true)]
            | some chosen =>
                have precedes := sorted.1 chosen (List.mem_of_find?_eq_some found)
                dsimp only
                rw [List.filter_cons_of_neg (by
                  rw [decide_eq_true precedes]
                  exact Bool.false_ne_true)]
        | true =>
            have self : Precedes event event := .inr ⟨fun sooner => lt_irrefl _ sooner, le_rfl⟩
            have behind : ∀ other ∈ later, (!decide (Precedes other event)) = true := by
              intro other member
              rw [Bool.not_eq_true', decide_eq_false_iff_not]
              intro before
              apply distinct.1
              rw [ahead_antisymm (sorted.1 other member) before]
              exact List.mem_map_of_mem member
            rw [if_neg fun passed => by
              rw [passes.mp passed] at active
              cases active]
            dsimp only
            rw [List.filter_cons_of_neg (by rw [decide_eq_true self]; exact Bool.false_ne_true),
              List.filter_eq_self.mpr behind]
            rfl

theorem executeEvent (represents : Represents eventMap timed) (good : timed.Good) :
    eventMap.executeEvent.1 = timed.executeEvent.1 ∧
      Represents eventMap.executeEvent.2 timed.executeEvent.2 := by
  have sorted : (order timed.events).Pairwise Precedes := pairwise_ranking timed.events
  have distinct : ((order timed.events).map turn).Nodup :=
    ((perm_ranking Sooner turn timed.events).map turn).nodup_iff.mpr good.turns
  have inOrder : ∀ event ∈ order timed.events, event ∈ timed.events := fun _ => mem_order.mp
  have executed := executeFirst_eq represents good inOrder sorted distinct
  rw [← represents.events] at executed
  have left (keep : TimedEvent → Bool) : order (timed.events.filter keep) =
      (order timed.events).filter keep := ranking_filter good.turns keep
  unfold EventMap.executeEvent TimedEvents.executeEvent
  rw [executed]
  cases isFirst : timed.first with
  | none =>
      have nobody : (order timed.events).find?
          (fun event => isDue event && timed.isActive event) = none := isFirst
      rw [nobody]
      refine ⟨rfl, ?_⟩
      exact {
        events := (congrArg (List.map (entry timed.elapsed)) (left _)).symm
        time := represents.time
        phase := represents.phase
        lastEvent := represents.lastEvent }
  | some event =>
      have chosen : (order timed.events).find?
          (fun event => isDue event && timed.isActive event) = some event := isFirst
      have member := (first_spec isFirst).1
      rw [chosen]
      refine ⟨EventLabel.id_of_data (good.packs event (List.mem_append_right _ member)), ?_⟩
      exact {
        events := (congrArg (List.map (entry timed.elapsed)) (left _)).symm
        time := represents.time
        phase := represents.phase
        lastEvent := rfl }

/-! ### Every call -/

theorem phases (represents : Represents eventMap timed) {mask : BitVec 8} {active : Finset Nat}
    (same : ∀ phase, 1 ≤ phase → phase ≤ 8 →
      mask.getLsbD (phase - 1) = decide (phase ∈ active)) :
    Represents { eventMap with phase := mask } { timed with activePhases := active } where
  __ := represents
  phase := same

theorem cancelEvent (represents : Represents eventMap timed) (good : timed.Good) (eventId : Nat) :
    Represents (eventMap.cancelEvent eventId) (timed.cancel (·.label.id = eventId)) := by
  have dropped : (eventMap.cancelEvent eventId).eventMap = eventMap.eventMap.filter fun event =>
      !decide ((event.2 &&& 0x0000FFFF#32).toNat = eventId) := by
    apply List.filter_congr
    intro event _
    rw [← decide_not]
    exact decide_eq_decide.mpr ne_comm
  have same : ∀ event ∈ timed.events,
      decide (((entry timed.elapsed event).2 &&& 0x0000FFFF#32).toNat = eventId) =
        decide (event.label.id = eventId) := by
    intro event member
    have packs := good.packs event (List.mem_append_right _ member)
    have isId : ((entry timed.elapsed event).2 &&& 0x0000FFFF#32).toNat = event.label.id :=
      EventLabel.id_of_data packs
    rw [isId]
  have cancelled := represents.cancel good (·.label.id = eventId)
    (fun event => decide ((event.2 &&& 0x0000FFFF#32).toNat = eventId)) same
  rw [← dropped] at cancelled
  exact cancelled

theorem perform (represents : Represents eventMap timed) (good : timed.Good)
    {call : EventMapCall} (fits : timed.Fits call) :
    Represents (eventMap.perform call) (timed.perform call) := by
  have bitOf {phase other : Nat} (inside : phase ≤ 8) (positive : phase ≠ 0)
      (atLeast : 1 ≤ other) :
      (1#8 <<< (phase - 1)).getLsbD (other - 1) = decide (other = phase) := by
    rw [EventLabel.getLsbD_one_shiftLeft (by omega)]
    exact decide_eq_decide.mpr (by omega)
  cases call with
  | reset =>
      exact {
        events := rfl
        time := rfl
        phase := fun phase _ _ => by
          change (0#8).getLsbD (phase - 1) = decide (phase ∈ (∅ : Finset Nat))
          rw [BitVec.getLsbD_zero]
          rfl
        lastEvent := represents.lastEvent }
  | update time =>
      rw [update_eq_shift]
      have clock : (eventMap.time + time) % 2 ^ 32 = timed.elapsed + time := by
        rw [represents.time]
        exact Nat.mod_eq_of_lt fits
      change Represents { eventMap with time := (eventMap.time + time) % 2 ^ 32 } _
      rw [clock]
      exact represents.shift (by omega)
  | delayEvents delay =>
      rw [delayEvents_eq_shift]
      have clock : (if delay < eventMap.time then eventMap.time - delay else 0) =
          timed.elapsed - min delay timed.elapsed := by
        rw [represents.time]
        split_ifs
        · omega
        · omega
      change Represents
        { eventMap with time := if delay < eventMap.time then eventMap.time - delay else 0 } _
      rw [clock]
      exact represents.shift (by omega)
  | setPhase phase =>
      have inside : phase ≤ 8 := fits
      change Represents (eventMap.setPhase phase)
        { timed with activePhases := if phase = 0 then ∅ else {phase} }
      unfold EventMap.setPhase
      by_cases none : phase = 0
      · rw [if_pos none, if_pos none]
        apply represents.phases
        intro other _ _
        change (0#8).getLsbD (other - 1) = decide (other ∈ (∅ : Finset Nat))
        rw [BitVec.getLsbD_zero]
        rfl
      · rw [if_neg none, if_pos inside, if_neg none]
        apply represents.phases
        intro other atLeast _
        rw [bitOf inside none atLeast]
        exact decide_eq_decide.mpr Finset.mem_singleton.symm
  | addPhase phase =>
      have inside : phase ≤ 8 := fits
      change Represents (eventMap.addPhase phase)
        { timed with activePhases := if phase = 0 then timed.activePhases
          else Insert.insert phase timed.activePhases }
      unfold EventMap.addPhase
      by_cases none : phase = 0
      · rw [if_neg fun both => both.1 none, if_pos none]
        exact represents
      · rw [if_pos ⟨none, inside⟩, if_neg none]
        apply represents.phases
        intro other atLeast atMost
        rw [BitVec.getLsbD_or, represents.phase other atLeast atMost, bitOf inside none atLeast,
          ← Bool.decide_or]
        exact decide_eq_decide.mpr (or_comm.trans Finset.mem_insert.symm)
  | removePhase phase =>
      have inside : phase ≤ 8 := fits
      change Represents (eventMap.removePhase phase)
        { timed with activePhases := timed.activePhases.erase phase }
      unfold EventMap.removePhase
      by_cases none : phase = 0
      · rw [if_neg fun both => both.1 none]
        refine { represents with phase := ?_ }
        intro other atLeast atMost
        have differs : other ≠ phase := by omega
        rw [represents.phase other atLeast atMost]
        exact decide_eq_decide.mpr ⟨fun active => Finset.mem_erase.mpr ⟨differs, active⟩,
          Finset.mem_of_mem_erase⟩
      · rw [if_pos ⟨none, inside⟩]
        apply represents.phases
        intro other atLeast atMost
        have inWidth : other - 1 < 8 := by omega
        rw [BitVec.getLsbD_and, BitVec.getLsbD_not, decide_eq_true inWidth, Bool.true_and,
          represents.phase other atLeast atMost, bitOf inside none atLeast, ← decide_not,
          ← Bool.decide_and]
        exact decide_eq_decide.mpr (and_comm.trans Finset.mem_erase.symm)
  | scheduleEvent eventId time group phase =>
      exact represents.insert good ⟨eventId, group, phase⟩ fits.2.2
  | rescheduleEvent eventId time group phase =>
      exact (represents.cancelEvent good eventId).insert (good.cancel (·.label.id = eventId))
        ⟨eventId, group, phase⟩ fits.2.2
  | repeatEvent time =>
      change Represents
        { eventMap with
          eventMap := EventMap.insert ((eventMap.time + time) % 2 ^ 32, eventMap.lastEvent)
            eventMap.eventMap } (timed.insert timed.lastLabel time)
      have inserted := represents.insert good timed.lastLabel fits
      rw [← represents.lastEvent] at inserted
      exact inserted
  | executeEvent => exact (represents.executeEvent good).2
  | delayGroup delay group => exact represents.delayGroup good fits.1 fits.2
  | cancelEvent eventId => exact represents.cancelEvent good eventId
  | cancelEventGroup group =>
      have inside : group ≤ 8 := fits
      change Represents (eventMap.cancelEventGroup group)
        (if group = 0 then timed else timed.cancel (isInGroup group))
      by_cases none : group = 0
      · unfold EventMap.cancelEventGroup
        rw [if_pos (.inl none), if_pos none]
        exact represents
      · rw [EventMap.cancelEventGroup_eq none inside, if_neg none]
        apply represents.cancel good (isInGroup group) (EventMap.inGroup group)
        intro event member
        exact EventLabel.inGroup_data (good.packs event (List.mem_append_right _ member))
          none inside

end Represents

/-! ## Runs -/

theorem represents_run {eventMap : EventMap} {timed : TimedEvents}
    (represents : Represents eventMap timed) (good : timed.Good) {calls : List EventMapCall}
    (fits : EveryStep TimedEvents.perform Fits timed calls) :
    Represents (run EventMap.perform eventMap calls) (run TimedEvents.perform timed calls) ∧
      (run TimedEvents.perform timed calls).Good := by
  induction calls generalizing eventMap timed with
  | nil => exact ⟨represents, good⟩
  | cons call rest induction =>
      exact induction (represents.perform good fits.1) (good.perform fits.1) fits.2

theorem positive_run {timed : TimedEvents} (positive : timed.Positive)
    {calls : List EventMapCall} (fits : EveryStep TimedEvents.perform Fits timed calls)
    (hasReturned : EveryStep TimedEvents.perform HasReturned timed calls) :
    (run TimedEvents.perform timed calls).Positive := by
  induction calls generalizing timed with
  | nil => exact positive
  | cons call rest induction =>
      exact induction (positive.perform fits.1 hasReturned.1) fits.2 hasReturned.2

/--
After every run the event map is the list of timed events: `ExecuteEvent`
returns the id of the first due event of an active phase, no event twice, and
0 exactly if there is none while `Repeat` has had an event to repeat.
-/
theorem eventMap_refines (calls : List EventMapCall)
    (fits : EveryStep TimedEvents.perform Fits TimedEvents.start calls) :
    Represents (run EventMap.perform EventMap.start calls)
        (run TimedEvents.perform TimedEvents.start calls) ∧
      (run EventMap.perform EventMap.start calls).executeEvent.1 =
        (run TimedEvents.perform TimedEvents.start calls).executeEvent.1 ∧
      (run TimedEvents.perform TimedEvents.start calls).ExecutesFirst ∧
      ((run TimedEvents.perform TimedEvents.start calls).returned.map number).Nodup ∧
      (EveryStep TimedEvents.perform HasReturned TimedEvents.start calls →
        ((run EventMap.perform EventMap.start calls).executeEvent.1 = 0 ↔
          ∀ event ∈ (run TimedEvents.perform TimedEvents.start calls).events,
            isDue event = true →
              (run TimedEvents.perform TimedEvents.start calls).isActive event = false)) := by
  obtain ⟨represents, good⟩ := represents_run represents_start good_start fits
  have sameResult := (represents.executeEvent good).1
  refine ⟨represents, sameResult, good.executesFirst, ?_, ?_⟩
  · exact good.numbers.sublist ((List.sublist_append_left _ _).map number)
  · intro hasReturned
    have positive := positive_run (fun _ member => absurd member List.not_mem_nil) fits hasReturned
    rw [sameResult, executeEvent_eq_zero_iff positive]
    exact good.executesFirst.none_iff

/-- An event is scheduled, executed when it is due and repeated. -/
theorem eventMap_refines_repeat :
    (run EventMap.perform EventMap.start
        [.addPhase 3, .scheduleEvent 1 10 2 3, .update 20, .executeEvent,
          .repeatEvent 0]).executeEvent.1 =
      (run TimedEvents.perform TimedEvents.start
        [.addPhase 3, .scheduleEvent 1 10 2 3, .update 20, .executeEvent,
          .repeatEvent 0]).executeEvent.1 := by
  have packs : (⟨1, 2, 3⟩ : EventLabel).Packs := ⟨by decide, by decide, by decide⟩
  have fits : EveryStep TimedEvents.perform Fits TimedEvents.start
      [.addPhase 3, .scheduleEvent 1 10 2 3, .update 20, .executeEvent, .repeatEvent 0] :=
    ⟨show 3 ≤ 8 by decide, ⟨le_rfl, packs, by decide⟩, show 0 + 20 < 2 ^ 32 by decide, trivial,
      show 20 + 0 < 2 ^ 32 by decide, trivial⟩
  exact (eventMap_refines _ fits).2.1

/-- `Repeat` without an event to repeat inserts the event 0, which hides the event 5. -/
theorem repeat_hides_event :
    (run EventMap.perform EventMap.start [.repeatEvent 0, .scheduleEvent 5 0 0 0]).executeEvent.1 =
        0 ∧
      ∃ event ∈ (run TimedEvents.perform TimedEvents.start
          [.repeatEvent 0, .scheduleEvent 5 0 0 0]).events,
        event.label = ⟨5, 0, 0⟩ ∧ isDue event = true := by
  decide

end RealmServer.Utilities
