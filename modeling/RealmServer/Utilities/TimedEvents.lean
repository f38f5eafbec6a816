import RealmServer.Lib.StableOrder
import RealmServer.Lib.Transition
import RealmServer.Utilities.EventMap

/-!
# Timed events

What an event map is for: a list of events which each know the time they have
left.  Among events with the same time, those inserted or delayed first come
first.  The event map keeps them sorted and turns its clock back where here
every event gets more time.
-/

namespace RealmServer.Utilities

open RealmServer.StableOrder RealmServer.Transition

/-- `number` names the event; `turn` is when it was inserted or delayed last. -/
structure TimedEvent where
  label : EventLabel
  remaining : ℤ
  number : Nat
  turn : Nat
deriving DecidableEq, Repr

namespace TimedEvent

def Sooner (first second : TimedEvent) : Prop := first.remaining < second.remaining

instance : DecidableRel Sooner := fun first second =>
  inferInstanceAs (Decidable (first.remaining < second.remaining))

instance : Std.Asymm Sooner := ⟨fun _ _ sooner later => lt_asymm sooner later⟩

instance : IsOrderConnected TimedEvent Sooner :=
  ⟨fun first second third sooner => by
    unfold Sooner at sooner ⊢
    omega⟩

/-- The order in which events are executed. -/
abbrev Precedes : TimedEvent → TimedEvent → Prop := Ahead Sooner turn

end TimedEvent

open TimedEvent

structure TimedEvents where
  events : List TimedEvent
  elapsed : Nat
  activePhases : Finset Nat
  /-- The returned events, the last one first. -/
  returned : List TimedEvent
  next : Nat
deriving DecidableEq

namespace TimedEvents

def start : TimedEvents := ⟨[], 0, ∅, [], 0⟩

def isDue (event : TimedEvent) : Bool := event.remaining ≤ 0

def isActive (timed : TimedEvents) (event : TimedEvent) : Bool :=
  event.label.phase = 0 ∨ timed.activePhases = ∅ ∨ event.label.phase ∈ timed.activePhases

/-- The events in the order in which they are due. -/
def order (events : List TimedEvent) : List TimedEvent := ranking Sooner turn events

/-- The event which is executed. -/
def first (timed : TimedEvents) : Option TimedEvent :=
  (order timed.events).find? fun event => isDue event && timed.isActive event

/-- The label which `Repeat` inserts. -/
def lastLabel (timed : TimedEvents) : EventLabel :=
  match timed.returned with
  | [] => ⟨0, 0, 0⟩
  | event :: _ => event.label

def insert (timed : TimedEvents) (label : EventLabel) (time : Nat) : TimedEvents :=
  { timed with
    events := timed.events ++ [⟨label, time, timed.next, timed.next⟩]
    next := timed.next + 1 }

def cancel (timed : TimedEvents) (isCancelled : TimedEvent → Bool) : TimedEvents :=
  { timed with events := timed.events.filter fun event => !isCancelled event }

/-- More time for every event, and for the clock less. -/
def postpone (timed : TimedEvents) (delay : Nat) : TimedEvents :=
  { timed with
    events := timed.events.map fun event => { event with remaining := event.remaining + delay }
    elapsed := timed.elapsed - delay }

def isInGroup (group : Nat) (event : TimedEvent) : Bool := event.label.group = group

/-- The events of a group are delayed in their order, as if inserted again. -/
def delayed (timed : TimedEvents) (delay group : Nat) : List TimedEvent :=
  (((order timed.events).filter (isInGroup group)).zipIdx timed.next).map fun event =>
    { event.1 with remaining := event.1.remaining + delay, turn := event.2 }

def delayGroup (timed : TimedEvents) (delay group : Nat) : TimedEvents :=
  if group = 0 then timed
  else
    { timed with
      events :=
        (timed.events.filter fun event => !isInGroup group event) ++ timed.delayed delay group
      next := timed.next + (timed.delayed delay group).length }

/-- The event which is executed goes, with the due events of other phases before it. -/
def executeEvent (timed : TimedEvents) : Nat × TimedEvents :=
  match timed.first with
  | none => (0, timed.cancel isDue)
  | some event =>
      (event.label.id,
        { timed.cancel (Precedes · event) with returned := event :: timed.returned })

def perform (timed : TimedEvents) : EventMapCall → TimedEvents
  | .reset => { timed with events := [], elapsed := 0, activePhases := ∅ }
  | .update time =>
      { timed with
        events := timed.events.map fun event => { event with remaining := event.remaining - time }
        elapsed := timed.elapsed + time }
  | .setPhase phase =>
      { timed with activePhases := if phase = 0 then ∅ else {phase} }
  | .addPhase phase =>
      { timed with
        activePhases := if phase = 0 then timed.activePhases
          else Insert.insert phase timed.activePhases }
  | .removePhase phase => { timed with activePhases := timed.activePhases.erase phase }
  | .scheduleEvent eventId time group phase => timed.insert ⟨eventId, group, phase⟩ time
  | .rescheduleEvent eventId time group phase =>
      (timed.cancel (·.label.id = eventId)).insert ⟨eventId, group, phase⟩ time
  | .repeatEvent time => timed.insert timed.lastLabel time
  | .executeEvent => timed.executeEvent.2
  | .delayEvents delay => timed.postpone (min delay timed.elapsed)
  | .delayGroup delay group => timed.delayGroup delay group
  | .cancelEvent eventId => timed.cancel (·.label.id = eventId)
  | .cancelEventGroup group => if group = 0 then timed else timed.cancel (isInGroup group)

/-- The arguments are in range, and the clock and every due time stay below 2 ^ 32. -/
def Fits (timed : TimedEvents) : EventMapCall → Prop
  | .update time | .repeatEvent time => timed.elapsed + time < 2 ^ 32
  | .scheduleEvent eventId time group phase | .rescheduleEvent eventId time group phase =>
      1 ≤ eventId ∧ (⟨eventId, group, phase⟩ : EventLabel).Packs ∧ timed.elapsed + time < 2 ^ 32
  | .delayGroup delay group =>
      group ≤ 8 ∧ ∀ event ∈ timed.events, event.label.group = group →
        timed.elapsed + event.remaining + delay < 2 ^ 32
  | .setPhase phase | .addPhase phase | .removePhase phase => phase ≤ 8
  | .cancelEventGroup group => group ≤ 8
  | .reset | .executeEvent | .delayEvents _ | .cancelEvent _ => True

/-! ## What holds of the events -/

structure Good (timed : TimedEvents) : Prop where
  packs : ∀ event ∈ timed.returned ++ timed.events, event.label.Packs
  timely : ∀ event ∈ timed.events,
    0 ≤ timed.elapsed + event.remaining ∧ timed.elapsed + event.remaining < 2 ^ 32
  clock : timed.elapsed < 2 ^ 32
  phases : ∀ phase ∈ timed.activePhases, 1 ≤ phase ∧ phase ≤ 8
  turns : (timed.events.map turn).Nodup
  earlier : ∀ event ∈ timed.events, event.turn < timed.next
  numbers : ((timed.returned ++ timed.events).map number).Nodup
  older : ∀ event ∈ timed.returned ++ timed.events, event.number < timed.next

variable {timed : TimedEvents}

theorem Good.lastLabel_packs (good : timed.Good) : timed.lastLabel.Packs := by
  unfold lastLabel
  cases isReturned : timed.returned with
  | nil => exact ⟨by decide, by decide, by decide⟩
  | cons event rest =>
      apply good.packs event
      rw [isReturned]
      exact List.mem_append_left _ List.mem_cons_self

theorem Good.cancel (good : timed.Good) (isCancelled : TimedEvent → Bool) :
    (timed.cancel isCancelled).Good := by
  have kept : (timed.cancel isCancelled).events.Sublist timed.events := List.filter_sublist
  have all : (timed.returned ++ (timed.cancel isCancelled).events).Sublist
      (timed.returned ++ timed.events) := kept.append_left timed.returned
  exact {
    packs := fun event member => good.packs event (all.subset member)
    timely := fun event member => good.timely event (kept.subset member)
    clock := good.clock
    phases := good.phases
    turns := good.turns.sublist (kept.map turn)
    earlier := fun event member => good.earlier event (kept.subset member)
    numbers := good.numbers.sublist (all.map number)
    older := fun event member => good.older event (all.subset member) }

theorem Good.insert (good : timed.Good) {label : EventLabel} (packs : label.Packs) {time : Nat}
    (fits : timed.elapsed + time < 2 ^ 32) : (timed.insert label time).Good := by
  have old : ∀ event ∈ timed.returned ++ (timed.insert label time).events,
      event ∈ timed.returned ++ timed.events ∨ event = ⟨label, time, timed.next, timed.next⟩ := by
    intro event member
    change event ∈ timed.returned ++ (timed.events ++ [_]) at member
    rw [← List.append_assoc] at member
    exact (List.mem_append.mp member).imp_right List.mem_singleton.mp
  constructor
  · intro event member
    rcases old event member with before | rfl
    · exact good.packs event before
    · exact packs
  · intro event member
    rcases List.mem_append.mp member with before | isNew
    · exact good.timely event before
    · rw [List.mem_singleton.mp isNew]
      change 0 ≤ (timed.elapsed : ℤ) + time ∧ (timed.elapsed : ℤ) + time < 2 ^ 32
      omega
  · exact good.clock
  · exact good.phases
  · change ((timed.events ++ [_]).map turn).Nodup
    rw [List.map_append, List.nodup_append]
    refine ⟨good.turns, List.nodup_singleton _, ?_⟩
    intro first isFirst second isSecond
    obtain ⟨event, member, rfl⟩ := List.mem_map.mp isFirst
    rw [List.mem_singleton.mp isSecond]
    exact Nat.ne_of_lt (good.earlier event member)
  · intro event member
    rcases List.mem_append.mp member with before | isNew
    · exact Nat.lt_succ_of_lt (good.earlier event before)
    · rw [List.mem_singleton.mp isNew]
      exact Nat.lt_succ_self _
  · change ((timed.returned ++ (timed.events ++ [_])).map number).Nodup
    rw [← List.append_assoc, List.map_append, List.nodup_append]
    refine ⟨good.numbers, List.nodup_singleton _, ?_⟩
    intro first isFirst second isSecond
    obtain ⟨event, member, rfl⟩ := List.mem_map.mp isFirst
    rw [List.mem_singleton.mp isSecond]
    exact Nat.ne_of_lt (good.older event member)
  · intro event member
    rcases old event member with before | rfl
    · exact Nat.lt_succ_of_lt (good.older event before)
    · exact Nat.lt_succ_self _

/-- A shift of the clock which the events make up for. -/
def shift (timed : TimedEvents) (time : ℤ) (elapsed : Nat) : TimedEvents :=
  { timed with
    events := timed.events.map fun event => { event with remaining := event.remaining + time }
    elapsed }

theorem Good.shift (good : timed.Good) {time : ℤ} {elapsed : Nat} (clock : elapsed < 2 ^ 32)
    (balance : elapsed + time = timed.elapsed) : (timed.shift time elapsed).Good := by
  have old : ∀ event ∈ (timed.shift time elapsed).events, ∃ before ∈ timed.events,
      event.label = before.label ∧ event.number = before.number ∧ event.turn = before.turn ∧
        event.remaining = before.remaining + time := by
    intro event member
    obtain ⟨before, isOld, rfl⟩ := List.mem_map.mp member
    exact ⟨before, isOld, rfl, rfl, rfl, rfl⟩
  have sameTurns : (timed.shift time elapsed).events.map turn = timed.events.map turn := by
    unfold TimedEvents.shift
    rw [List.map_map]
    rfl
  have sameNumbers : (timed.returned ++ (timed.shift time elapsed).events).map number =
      (timed.returned ++ timed.events).map number := by
    unfold TimedEvents.shift
    rw [List.map_append, List.map_map, List.map_append]
    rfl
  constructor
  · intro event member
    rcases List.mem_append.mp member with isReturned | isThere
    · exact good.packs event (List.mem_append_left _ isReturned)
    · obtain ⟨before, isOld, sameLabel, _⟩ := old event isThere
      rw [sameLabel]
      exact good.packs before (List.mem_append_right _ isOld)
  · intro event member
    obtain ⟨before, isOld, _, _, _, moved⟩ := old event member
    have timely := good.timely before isOld
    change 0 ≤ (elapsed : ℤ) + event.remaining ∧ (elapsed : ℤ) + event.remaining < 2 ^ 32
    omega
  · exact clock
  · exact good.phases
  · rw [sameTurns]
    exact good.turns
  · intro event member
    obtain ⟨before, isOld, _, _, sameTurn, _⟩ := old event member
    rw [sameTurn]
    exact good.earlier before isOld
  · change ((timed.returned ++ (timed.shift time elapsed).events).map number).Nodup
    rw [sameNumbers]
    exact good.numbers
  · intro event member
    rcases List.mem_append.mp member with isReturned | isThere
    · exact good.older event (List.mem_append_left _ isReturned)
    · obtain ⟨before, isOld, _, sameNumber, _⟩ := old event isThere
      rw [sameNumber]
      exact good.older before (List.mem_append_right _ isOld)

theorem mem_order {events : List TimedEvent} {event : TimedEvent} :
    event ∈ order events ↔ event ∈ events := (perm_ranking Sooner turn events).mem_iff

section Delayed

variable {delay group : Nat}

theorem mem_delayed {event : TimedEvent} (member : event ∈ timed.delayed delay group) :
    ∃ before ∈ timed.events, before.label.group = group ∧ event.label = before.label ∧
      event.remaining = before.remaining + delay := by
  obtain ⟨pair, inPairs, rfl⟩ := List.mem_map.mp member
  have isOld := List.fst_mem_of_mem_zipIdx inPairs
  obtain ⟨inOrder, inGroup⟩ := List.mem_filter.mp isOld
  exact ⟨pair.1, mem_order.mp inOrder, of_decide_eq_true inGroup, rfl, rfl⟩

theorem delayed_turns : (timed.delayed delay group).map turn =
    List.range' timed.next (timed.delayed delay group).length := by
  unfold delayed
  rw [List.map_map, List.length_map, List.length_zipIdx]
  exact List.zipIdx_map_snd _ _

theorem delayed_numbers : (timed.delayed delay group).map number =
    ((order timed.events).filter (isInGroup group)).map number := by
  unfold delayed
  rw [List.map_map]
  change (List.zipIdx _ _).map (number ∘ Prod.fst) = _
  rw [← List.map_map, List.zipIdx_map_fst]

/-- The delayed events keep their order. -/
theorem delayed_sorted : (timed.delayed delay group).Pairwise Precedes := by
  have inOrder : ((order timed.events).filter (isInGroup group)).Pairwise Precedes :=
    (pairwise_ranking timed.events).filter _
  have times : (((order timed.events).filter (isInGroup group)).zipIdx timed.next).Pairwise
      fun first second => Precedes first.1 second.1 := by
    rw [← List.zipIdx_map_fst timed.next ((order timed.events).filter (isInGroup group)),
      List.pairwise_map] at inOrder
    exact inOrder
  have increasing : (((order timed.events).filter (isInGroup group)).zipIdx timed.next).Pairwise
      fun first second => first.2 < second.2 := by
    have range : (List.range' timed.next
        ((order timed.events).filter (isInGroup group)).length).Pairwise (· < ·) :=
      List.pairwise_lt_range'
    rw [← List.zipIdx_map_snd, List.pairwise_map] at range
    exact range
  unfold delayed
  rw [List.pairwise_map]
  refine (times.and increasing).imp ?_
  rintro first second ⟨precedes, turnsIncrease⟩
  refine .inr ⟨?_, turnsIncrease.le⟩
  have notSooner := precedes.not_before
  unfold Sooner at notSooner ⊢
  dsimp only
  omega

theorem mem_delayed_turn {event : TimedEvent} (member : event ∈ timed.delayed delay group) :
    timed.next ≤ event.turn ∧
      event.turn < timed.next + (timed.delayed delay group).length := by
  have inTurns := List.mem_map_of_mem (f := turn) member
  rw [delayed_turns] at inTurns
  obtain ⟨place, below, isPlace⟩ := List.mem_range'.mp inTurns
  omega

theorem Good.delayGroup (good : timed.Good)
    (fits : ∀ event ∈ timed.events, event.label.group = group →
      timed.elapsed + event.remaining + delay < 2 ^ 32) : (timed.delayGroup delay group).Good := by
  unfold TimedEvents.delayGroup
  split_ifs with none
  · exact good
  have others : (timed.events.filter fun event => !isInGroup group event).Sublist timed.events :=
    List.filter_sublist
  have perm : ((timed.returned ++ ((timed.events.filter fun event => !isInGroup group event) ++
      timed.delayed delay group)).map number).Perm
        ((timed.returned ++ timed.events).map number) := by
    rw [List.map_append, List.map_append, List.map_append, delayed_numbers, ← List.map_append]
    refine List.Perm.append_left _ (List.Perm.map number ?_)
    refine List.perm_append_comm.trans ?_
    refine (List.Perm.append_right _ ((perm_ranking Sooner turn timed.events).filter _)).trans ?_
    exact List.filter_append_perm (isInGroup group) timed.events
  have numbers : ((timed.returned ++ ((timed.events.filter fun event =>
      !isInGroup group event) ++ timed.delayed delay group)).map number).Nodup :=
    perm.nodup_iff.mpr good.numbers
  constructor
  · intro event member
    rcases List.mem_append.mp member with isReturned | isThere
    · exact good.packs event (List.mem_append_left _ isReturned)
    · rcases List.mem_append.mp isThere with other | isDelayed
      · exact good.packs event (List.mem_append_right _ (others.subset other))
      · obtain ⟨before, isOld, _, sameLabel, _⟩ := mem_delayed isDelayed
        rw [sameLabel]
        exact good.packs before (List.mem_append_right _ isOld)
  · intro event member
    rcases List.mem_append.mp member with other | isDelayed
    · exact good.timely event (others.subset other)
    · obtain ⟨before, isOld, inGroup, _, later⟩ := mem_delayed isDelayed
      have timely := good.timely before isOld
      have below := fits before isOld inGroup
      dsimp only
      omega
  · exact good.clock
  · exact good.phases
  · dsimp only
    rw [List.map_append, List.nodup_append]
    refine ⟨good.turns.sublist (others.map turn), ?_, ?_⟩
    · rw [delayed_turns]
      exact List.nodup_range'
    · intro first isFirst second isSecond
      obtain ⟨event, member, rfl⟩ := List.mem_map.mp isFirst
      obtain ⟨moved, isDelayed, rfl⟩ := List.mem_map.mp isSecond
      have early := good.earlier event (others.subset member)
      have late := (mem_delayed_turn isDelayed).1
      omega
  · intro event member
    dsimp only
    rcases List.mem_append.mp member with other | isDelayed
    · have early := good.earlier event (others.subset other)
      omega
    · exact (mem_delayed_turn isDelayed).2
  · exact numbers
  · intro event member
    have inNumbers := perm.mem_iff.mp (List.mem_map_of_mem (f := number) member)
    obtain ⟨before, isOld, sameNumber⟩ := List.mem_map.mp inNumbers
    have old := good.older before isOld
    dsimp only
    omega

end Delayed

/-- What is executed is one of the events, due and of an active phase. -/
theorem first_spec {event : TimedEvent} (isFirst : timed.first = some event) :
    event ∈ timed.events ∧ isDue event = true ∧ timed.isActive event = true := by
  have has := List.find?_some isFirst
  rw [Bool.and_eq_true] at has
  exact ⟨mem_order.mp (List.mem_of_find?_eq_some isFirst), has.1, has.2⟩

theorem Good.executeEvent (good : timed.Good) : timed.executeEvent.2.Good := by
  unfold TimedEvents.executeEvent
  cases isFirst : timed.first with
  | none => exact good.cancel isDue
  | some event =>
      have kept := good.cancel (Precedes · event)
      have member := (first_spec isFirst).1
      have gone : event ∉ (timed.cancel (Precedes · event)).events := by
        intro still
        have notPrecedes : (!decide (Precedes event event)) = true := (List.mem_filter.mp still).2
        have self : Precedes event event := .inr ⟨fun sooner => lt_irrefl _ sooner, le_rfl⟩
        rw [decide_eq_true self] at notPrecedes
        cases notPrecedes
      have sub : ∀ other ∈ (timed.cancel (Precedes · event)).events, other ∈ timed.events :=
        fun other => List.mem_of_mem_filter
      have inOld : ∀ other ∈ event :: timed.returned ++ (timed.cancel (Precedes · event)).events,
          other ∈ timed.returned ++ timed.events := by
        intro other isOther
        rcases List.mem_cons.mp isOther with rfl | rest
        · exact List.mem_append_right _ member
        · exact (List.mem_append.mp rest).elim (List.mem_append_left _)
            fun still => List.mem_append_right _ (sub other still)
      refine { kept with packs := ?_, numbers := ?_, older := ?_ }
      · exact fun other isOther => good.packs other (inOld other isOther)
      · change ((event :: (timed.returned ++
          (timed.cancel (Precedes · event)).events)).map number).Nodup
        rw [List.map_cons, List.nodup_cons]
        refine ⟨?_, kept.numbers⟩
        intro twice
        obtain ⟨other, isOther, sameNumber⟩ := List.mem_map.mp twice
        have same : other = event :=
          List.inj_on_of_nodup_map good.numbers
            (inOld other (List.mem_cons_of_mem event isOther))
            (List.mem_append_right _ member) sameNumber
        rw [same] at isOther
        rcases List.mem_append.mp isOther with isReturned | still
        · have distinct := good.numbers
          rw [List.map_append] at distinct
          exact (List.nodup_append.mp distinct).2.2 _ (List.mem_map_of_mem isReturned) _
            (List.mem_map_of_mem member) rfl
        · exact gone still
      · exact fun other isOther => good.older other (inOld other isOther)

theorem update_eq_shift (time : Nat) :
    timed.perform (.update time) = timed.shift (-time) (timed.elapsed + time) := rfl

theorem delayEvents_eq_shift (delay : Nat) :
    timed.perform (.delayEvents delay) =
      timed.shift (min delay timed.elapsed : Nat) (timed.elapsed - min delay timed.elapsed) := rfl

theorem Good.perform (good : timed.Good) {call : EventMapCall} (fits : timed.Fits call) :
    (timed.perform call).Good := by
  cases call with
  | reset =>
      have none := good.cancel fun _ => true
      have empty : (timed.cancel fun _ => true).events = [] := List.filter_false _
      have packs := none.packs
      have numbers := none.numbers
      have older := none.older
      rw [empty] at packs numbers older
      exact {
        packs
        timely := fun _ member => absurd member List.not_mem_nil
        clock := Nat.two_pow_pos 32
        phases := fun _ member => absurd member (Finset.notMem_empty _)
        turns := List.nodup_nil
        earlier := fun _ member => absurd member List.not_mem_nil
        numbers
        older }
  | update time =>
      rw [update_eq_shift]
      exact good.shift fits (by omega)
  | delayEvents delay =>
      rw [delayEvents_eq_shift]
      have clock := good.clock
      exact good.shift (by omega) (by omega)
  | setPhase phase =>
      refine { good with phases := ?_ }
      intro active member
      change active ∈ (if phase = 0 then (∅ : Finset Nat) else {phase}) at member
      have inside : phase ≤ 8 := fits
      split_ifs at member with none
      · exact absurd member (Finset.notMem_empty active)
      · rw [Finset.mem_singleton.mp member]
        omega
  | addPhase phase =>
      refine { good with phases := ?_ }
      intro active member
      change active ∈ (if phase = 0 then timed.activePhases
        else Insert.insert phase timed.activePhases) at member
      have inside : phase ≤ 8 := fits
      split_ifs at member with none
      · exact good.phases active member
      · rcases Finset.mem_insert.mp member with rfl | old
        · omega
        · exact good.phases active old
  | removePhase phase =>
      exact { good with
        phases := fun active member => good.phases active (Finset.mem_of_mem_erase member) }
  | scheduleEvent eventId time group phase => exact good.insert fits.2.1 fits.2.2
  | rescheduleEvent eventId time group phase =>
      exact (good.cancel (·.label.id = eventId)).insert fits.2.1 fits.2.2
  | repeatEvent time => exact good.insert good.lastLabel_packs fits
  | executeEvent => exact good.executeEvent
  | delayGroup delay group => exact good.delayGroup fits.2
  | cancelEvent eventId => exact good.cancel (·.label.id = eventId)
  | cancelEventGroup group =>
      change (if group = 0 then timed else timed.cancel (isInGroup group)).Good
      split_ifs with none
      · exact good
      · exact good.cancel (isInGroup group)

theorem good_start : start.Good where
  packs _ member := absurd member List.not_mem_nil
  timely _ member := absurd member List.not_mem_nil
  clock := by decide
  phases _ member := absurd member (Finset.notMem_empty _)
  turns := List.nodup_nil
  earlier _ member := absurd member List.not_mem_nil
  numbers := List.nodup_nil
  older _ member := absurd member List.not_mem_nil

/-! ## What is executed -/

/-- How an event is chosen, and which events go with it. -/
structure ExecutesFirst (timed : TimedEvents) : Prop where
  none_iff : timed.first = none ↔
    ∀ event ∈ timed.events, isDue event = true → timed.isActive event = false
  least : ∀ event, timed.first = some event →
    event ∈ timed.events ∧ isDue event = true ∧ timed.isActive event = true ∧
      ∀ other ∈ timed.events, isDue other = true → timed.isActive other = true →
        Precedes event other
  /-- Nothing is left of what was returned, and else only due events of other phases go. -/
  left : ∀ event, timed.first = some event → ∀ other ∈ timed.events,
    other ∉ timed.executeEvent.2.events ↔
      other = event ∨ (Precedes other event ∧ isDue other = true ∧ timed.isActive other = false)
  left_none : timed.first = none → ∀ event,
    event ∈ timed.executeEvent.2.events ↔ event ∈ timed.events ∧ isDue event = false

theorem isDue_of_precedes {first second : TimedEvent} (precedes : Precedes first second)
    (due : isDue second = true) : isDue first = true := by
  have notSooner := precedes.not_before
  unfold Sooner at notSooner
  unfold isDue at due ⊢
  rw [decide_eq_true_iff] at due ⊢
  omega

theorem Good.precedes_antisymm (good : timed.Good) {first second : TimedEvent}
    (isFirst : first ∈ timed.events) (isSecond : second ∈ timed.events)
    (ahead : Precedes first second) (behind : Precedes second first) : first = second :=
  List.inj_on_of_nodup_map good.turns isFirst isSecond (ahead_antisymm ahead behind)

theorem first_least {event : TimedEvent} (isFirst : timed.first = some event)
    {other : TimedEvent} (member : other ∈ timed.events) (due : isDue other = true)
    (active : timed.isActive other = true) : Precedes event other := by
  obtain ⟨_, before, after, split, without⟩ := List.find?_eq_some_iff_append.mp isFirst
  have sorted : (order timed.events).Pairwise Precedes := pairwise_ranking timed.events
  have inOrder : other ∈ order timed.events := mem_order.mpr member
  rw [split] at sorted inOrder
  rcases List.mem_append.mp inOrder with early | late
  · have lacks := without other early
    rw [due, active] at lacks
    cases lacks
  · rcases List.mem_cons.mp late with rfl | later
    · exact .inr ⟨fun sooner => lt_irrefl _ sooner, le_rfl⟩
    · exact (List.pairwise_cons.mp (List.pairwise_append.mp sorted).2.1).1 other later

theorem Good.executesFirst (good : timed.Good) : timed.ExecutesFirst where
  none_iff := by
    unfold first
    rw [List.find?_eq_none]
    constructor
    · intro nobody event member due
      have lacks := nobody event (mem_order.mpr member)
      rw [due, Bool.true_and] at lacks
      exact Bool.eq_false_of_not_eq_true lacks
    · intro inactive event member has
      rw [Bool.and_eq_true] at has
      have isInactive := inactive event (mem_order.mp member) has.1
      rw [has.2] at isInactive
      cases isInactive
  least event isFirst := by
    obtain ⟨member, due, active⟩ := first_spec isFirst
    exact ⟨member, due, active, fun other => first_least isFirst⟩
  left event isFirst other member := by
    obtain ⟨isEvent, due, active⟩ := first_spec isFirst
    have goes : other ∉ timed.executeEvent.2.events ↔ Precedes other event := by
      unfold TimedEvents.executeEvent
      rw [isFirst]
      change other ∉ timed.events.filter _ ↔ _
      rw [List.mem_filter, Bool.not_eq_true', decide_eq_false_iff_not, not_and_not_right]
      exact ⟨fun goes => goes member, fun precedes _ => precedes⟩
    rw [goes]
    constructor
    · intro precedes
      cases isActive : timed.isActive other with
      | true =>
          have behind := first_least isFirst member (isDue_of_precedes precedes due) isActive
          exact .inl (good.precedes_antisymm member isEvent precedes behind)
      | false => exact .inr ⟨precedes, isDue_of_precedes precedes due, rfl⟩
    · rintro (rfl | ⟨precedes, _⟩)
      · exact .inr ⟨fun sooner => lt_irrefl _ sooner, le_rfl⟩
      · exact precedes
  left_none isFirst event := by
    unfold TimedEvents.executeEvent
    rw [isFirst]
    change event ∈ timed.events.filter _ ↔ _
    rw [List.mem_filter, Bool.not_eq_true']

/-! ## Labels -/

/-- The label which a call inserts. -/
def inserted (timed : TimedEvents) : EventMapCall → Option EventLabel
  | .scheduleEvent eventId _ group phase | .rescheduleEvent eventId _ group phase =>
      some ⟨eventId, group, phase⟩
  | .repeatEvent _ => some timed.lastLabel
  | _ => none

theorem label_insert {label : EventLabel} {time : Nat} {event : TimedEvent}
    (member : event ∈ timed.returned ++ (timed.insert label time).events) :
    event ∈ timed.returned ++ timed.events ∨ event.label = label := by
  change event ∈ timed.returned ++ (timed.events ++ [_]) at member
  rw [← List.append_assoc] at member
  rcases List.mem_append.mp member with old | isNew
  · exact .inl old
  · rw [List.mem_singleton.mp isNew]
    exact .inr rfl

/-- No call changes the label of an event. -/
theorem label_perform {call : EventMapCall} {event : TimedEvent}
    (member : event ∈ (timed.perform call).returned ++ (timed.perform call).events) :
    (∃ before ∈ timed.returned ++ timed.events, event.label = before.label) ∨
      timed.inserted call = some event.label := by
  have same (isOld : event ∈ timed.returned ++ timed.events) :
      (∃ before ∈ timed.returned ++ timed.events, event.label = before.label) ∨
        timed.inserted call = some event.label := .inl ⟨event, isOld, rfl⟩
  have filtered {keep : TimedEvent → Bool}
      (kept : event ∈ timed.returned ++ timed.events.filter keep) :
      event ∈ timed.returned ++ timed.events :=
    (List.filter_sublist.append_left timed.returned).subset kept
  have shifted {time : ℤ} {elapsed : Nat}
      (moved : event ∈ timed.returned ++ (timed.shift time elapsed).events) :
      ∃ before ∈ timed.returned ++ timed.events, event.label = before.label := by
    rcases List.mem_append.mp moved with isReturned | isThere
    · exact ⟨event, List.mem_append_left _ isReturned, rfl⟩
    · obtain ⟨before, isOld, rfl⟩ := List.mem_map.mp isThere
      exact ⟨before, List.mem_append_right _ isOld, rfl⟩
  cases call with
  | reset =>
      change event ∈ timed.returned ++ [] at member
      rw [List.append_nil] at member
      exact same (List.mem_append_left _ member)
  | update time =>
      rw [update_eq_shift] at member
      exact .inl (shifted member)
  | delayEvents delay =>
      rw [delayEvents_eq_shift] at member
      exact .inl (shifted member)
  | setPhase phase => exact same member
  | addPhase phase => exact same member
  | removePhase phase => exact same member
  | scheduleEvent eventId time group phase =>
      have inserted : event ∈ timed.returned ++
        (timed.insert ⟨eventId, group, phase⟩ time).events := member
      rcases label_insert inserted with old | isNew
      · exact same old
      · rw [isNew]
        exact .inr rfl
  | rescheduleEvent eventId time group phase =>
      have inserted : event ∈ (timed.cancel (·.label.id = eventId)).returned ++
        ((timed.cancel (·.label.id = eventId)).insert ⟨eventId, group, phase⟩ time).events := member
      rcases label_insert inserted with old | isNew
      · exact same (filtered old)
      · rw [isNew]
        exact .inr rfl
  | repeatEvent time =>
      have inserted : event ∈ timed.returned ++ (timed.insert timed.lastLabel time).events := member
      rcases label_insert inserted with old | isNew
      · exact same old
      · rw [isNew]
        exact .inr rfl
  | executeEvent =>
      have executed : event ∈ timed.executeEvent.2.returned ++ timed.executeEvent.2.events := member
      unfold executeEvent at executed
      cases isFirst : timed.first with
      | none =>
          rw [isFirst] at executed
          exact same (filtered executed)
      | some chosen =>
          rw [isFirst] at executed
          rcases List.mem_cons.mp executed with rfl | rest
          · exact same (List.mem_append_right _ (first_spec isFirst).1)
          · exact same (filtered rest)
  | delayGroup delay group =>
      have moved : event ∈ (timed.delayGroup delay group).returned ++
        (timed.delayGroup delay group).events := member
      unfold delayGroup at moved
      split_ifs at moved
      · exact same moved
      · rcases List.mem_append.mp moved with isReturned | isThere
        · exact same (List.mem_append_left _ isReturned)
        · rcases List.mem_append.mp isThere with other | isDelayed
          · exact same (List.mem_append_right _ (List.mem_of_mem_filter other))
          · obtain ⟨before, isOld, _, sameLabel, _⟩ := mem_delayed isDelayed
            exact .inl ⟨before, List.mem_append_right _ isOld, sameLabel⟩
  | cancelEvent eventId => exact same (filtered member)
  | cancelEventGroup group =>
      have left : event ∈ (if group = 0 then timed else timed.cancel (isInGroup group)).returned ++
        (if group = 0 then timed else timed.cancel (isInGroup group)).events := member
      split_ifs at left
      · exact same left
      · exact same (filtered left)

/-- `Repeat` is not called before an event was returned. -/
def HasReturned (timed : TimedEvents) : EventMapCall → Prop
  | .repeatEvent _ => timed.returned ≠ []
  | _ => True

def Positive (timed : TimedEvents) : Prop :=
  ∀ event ∈ timed.returned ++ timed.events, 1 ≤ event.label.id

/-- Ids stay positive while `Repeat` has an event to repeat. -/
theorem Positive.perform (positive : timed.Positive) {call : EventMapCall}
    (fits : timed.Fits call) (hasReturned : timed.HasReturned call) :
    (timed.perform call).Positive := by
  intro event member
  rcases label_perform member with ⟨before, isOld, sameLabel⟩ | isInserted
  · rw [sameLabel]
    exact positive before isOld
  · cases call with
    | scheduleEvent eventId time group phase =>
        rw [← Option.some.inj isInserted]
        exact fits.1
    | rescheduleEvent eventId time group phase =>
        rw [← Option.some.inj isInserted]
        exact fits.1
    | repeatEvent time =>
        rw [← Option.some.inj isInserted]
        unfold lastLabel
        cases isReturned : timed.returned with
        | nil => exact absurd isReturned hasReturned
        | cons last rest =>
            apply positive last
            rw [isReturned]
            exact List.mem_append_left _ List.mem_cons_self
    | _ => cases isInserted

/-- While every id is positive, 0 says that no event is due. -/
theorem executeEvent_eq_zero_iff (positive : timed.Positive) :
    timed.executeEvent.1 = 0 ↔ timed.first = none := by
  unfold executeEvent
  cases isFirst : timed.first with
  | none => exact iff_of_true rfl rfl
  | some event =>
      have atLeast := positive event (List.mem_append_right _ (first_spec isFirst).1)
      refine iff_of_false ?_ (Option.some_ne_none event)
      change ¬ event.label.id = 0
      omega

end TimedEvents

end RealmServer.Utilities
