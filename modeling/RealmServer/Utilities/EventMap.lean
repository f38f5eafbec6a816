import Mathlib

/-!
# The event map

Boss scripts keep their timed events in an `EventMap`: a multimap from the time
at which an event is due to a word in which id, group and phase of the event
are packed (`0xPPGGEEEE`).
-/

namespace RealmServer.Utilities

structure EventMap where
  eventMap : List (Nat × BitVec 32)
  time : Nat
  phase : BitVec 8
  lastEvent : BitVec 32
deriving DecidableEq, Repr

namespace EventMap

def start : EventMap := ⟨[], 0, 0, 0⟩

/-- `insert` of the multimap: behind the events of the same time. -/
def insert (event : Nat × BitVec 32) (events : List (Nat × BitVec 32)) :
    List (Nat × BitVec 32) :=
  events.orderedInsert (fun first second => first.1 < second.1) event

def reset (events : EventMap) : EventMap := { events with eventMap := [], time := 0, phase := 0 }

def update (events : EventMap) (time : Nat) : EventMap :=
  { events with time := (events.time + time) % 2 ^ 32 }

def setPhase (events : EventMap) (phase : Nat) : EventMap :=
  if phase = 0 then { events with phase := 0 }
  else if phase ≤ 8 then { events with phase := 1#8 <<< (phase - 1) }
  else events

def addPhase (events : EventMap) (phase : Nat) : EventMap :=
  if phase ≠ 0 ∧ phase ≤ 8 then { events with phase := events.phase ||| 1#8 <<< (phase - 1) }
  else events

def removePhase (events : EventMap) (phase : Nat) : EventMap :=
  if phase ≠ 0 ∧ phase ≤ 8 then
    { events with phase := events.phase &&& ~~~(1#8 <<< (phase - 1)) }
  else events

/-- The word of an event. -/
def eventData (eventId group phase : Nat) : BitVec 32 :=
  let grouped :=
    if group ≠ 0 ∧ group ≤ 8 then BitVec.ofNat 32 eventId ||| 1#32 <<< (group + 15)
    else BitVec.ofNat 32 eventId
  if phase ≠ 0 ∧ phase ≤ 8 then grouped ||| 1#32 <<< (phase + 23) else grouped

def scheduleEvent (events : EventMap) (eventId time group phase : Nat) : EventMap :=
  { events with
    eventMap :=
      insert ((events.time + time) % 2 ^ 32, eventData eventId group phase) events.eventMap }

/-- The loop of `ExecuteEvent`: the event which it returns, and the events left. -/
def executeFirst (time : Nat) (phase : BitVec 8) :
    List (Nat × BitVec 32) → Option (BitVec 32) × List (Nat × BitVec 32)
  | [] => (none, [])
  | event :: later =>
      if time < event.1 then (none, event :: later)
      else if phase ≠ 0 ∧ event.2 &&& 0xFF000000#32 ≠ 0 ∧
          (event.2 >>> 24) &&& phase.setWidth 32 = 0 then
        executeFirst time phase later
      else (some event.2, later)

def executeEvent (events : EventMap) : Nat × EventMap :=
  match executeFirst events.time events.phase events.eventMap with
  | (none, left) => (0, { events with eventMap := left })
  | (some data, left) =>
      ((data &&& 0x0000FFFF#32).toNat, { events with eventMap := left, lastEvent := data })

/-- `DelayEvents` of all events. -/
def delayEvents (events : EventMap) (delay : Nat) : EventMap :=
  { events with time := if delay < events.time then events.time - delay else 0 }

def inGroup (group : Nat) (event : Nat × BitVec 32) : Bool :=
  event.2 &&& 1#32 <<< (group + 15) ≠ 0

/-- `DelayEvents` of a group. -/
def delayGroup (events : EventMap) (delay group : Nat) : EventMap :=
  if group = 0 ∨ 8 < group ∨ events.eventMap = [] then events
  else
    let delayed := (events.eventMap.filter (inGroup group)).foldl
      (fun delayed event => insert ((event.1 + delay) % 2 ^ 32, event.2) delayed) []
    let others := events.eventMap.filter fun event => !inGroup group event
    { events with eventMap := delayed.foldl (fun events event => insert event events) others }

/-- An empty map needs no exception. -/
theorem delayGroup_eq {events : EventMap} {delay group : Nat} (positive : group ≠ 0)
    (inside : group ≤ 8) :
    events.delayGroup delay group =
      { events with
        eventMap :=
          ((events.eventMap.filter (inGroup group)).foldl
            (fun delayed event => insert ((event.1 + delay) % 2 ^ 32, event.2) delayed) []).foldl
            (fun events event => insert event events)
            (events.eventMap.filter fun event => !inGroup group event) } := by
  unfold delayGroup
  by_cases empty : events.eventMap = []
  · rw [if_pos (.inr (.inr empty))]
    obtain ⟨_, time, phase, lastEvent⟩ := events
    cases empty
    rfl
  · rw [if_neg (by simp [positive, empty, inside])]

def cancelEvent (events : EventMap) (eventId : Nat) : EventMap :=
  { events with
    eventMap := events.eventMap.filter fun event => eventId ≠ (event.2 &&& 0x0000FFFF#32).toNat }

def cancelEventGroup (events : EventMap) (group : Nat) : EventMap :=
  if group = 0 ∨ 8 < group ∨ events.eventMap = [] then events
  else { events with eventMap := events.eventMap.filter fun event => !inGroup group event }

theorem cancelEventGroup_eq {events : EventMap} {group : Nat} (positive : group ≠ 0)
    (inside : group ≤ 8) :
    events.cancelEventGroup group =
      { events with eventMap := events.eventMap.filter fun event => !inGroup group event } := by
  unfold cancelEventGroup
  by_cases empty : events.eventMap = []
  · rw [if_pos (.inr (.inr empty))]
    obtain ⟨_, time, phase, lastEvent⟩ := events
    cases empty
    rfl
  · rw [if_neg (by simp [positive, empty, inside])]

def rescheduleEvent (events : EventMap) (eventId time group phase : Nat) : EventMap :=
  (events.cancelEvent eventId).scheduleEvent eventId time group phase

/-- `Repeat`. -/
def repeatEvent (events : EventMap) (time : Nat) : EventMap :=
  { events with
    eventMap := insert ((events.time + time) % 2 ^ 32, events.lastEvent) events.eventMap }

end EventMap

/-- The calls of a script. -/
inductive EventMapCall where
  | reset
  | update (time : Nat)
  | setPhase (phase : Nat)
  | addPhase (phase : Nat)
  | removePhase (phase : Nat)
  | scheduleEvent (eventId time group phase : Nat)
  | rescheduleEvent (eventId time group phase : Nat)
  | repeatEvent (time : Nat)
  | executeEvent
  | delayEvents (delay : Nat)
  | delayGroup (delay group : Nat)
  | cancelEvent (eventId : Nat)
  | cancelEventGroup (group : Nat)
deriving DecidableEq, Repr

def EventMap.perform (events : EventMap) : EventMapCall → EventMap
  | .reset => events.reset
  | .update time => events.update time
  | .setPhase phase => events.setPhase phase
  | .addPhase phase => events.addPhase phase
  | .removePhase phase => events.removePhase phase
  | .scheduleEvent eventId time group phase => events.scheduleEvent eventId time group phase
  | .rescheduleEvent eventId time group phase => events.rescheduleEvent eventId time group phase
  | .repeatEvent time => events.repeatEvent time
  | .executeEvent => events.executeEvent.2
  | .delayEvents delay => events.delayEvents delay
  | .delayGroup delay group => events.delayGroup delay group
  | .cancelEvent eventId => events.cancelEvent eventId
  | .cancelEventGroup group => events.cancelEventGroup group

/-! ## Words -/

/-- Id, group and phase of an event; group and phase may be 0, for none. -/
structure EventLabel where
  id : Nat
  group : Nat
  phase : Nat
deriving DecidableEq, Repr

namespace EventLabel

def data (label : EventLabel) : BitVec 32 :=
  EventMap.eventData label.id label.group label.phase

structure Packs (label : EventLabel) : Prop where
  id : label.id < 2 ^ 16
  group : label.group ≤ 8
  phase : label.phase ≤ 8

variable {label : EventLabel}

theorem and_ne_zero_iff {width : Nat} {first second : BitVec width} :
    first &&& second ≠ BitVec.ofNat width 0 ↔
      ∃ bit, first.getLsbD bit = true ∧ second.getLsbD bit = true := by
  constructor
  · intro meets
    by_contra none
    apply meets
    apply BitVec.eq_of_getLsbD_eq
    intro bit _
    rw [BitVec.getLsbD_and, BitVec.getLsbD_zero, Bool.and_eq_false_iff]
    by_contra both
    rw [not_or, Bool.not_eq_false, Bool.not_eq_false] at both
    exact none ⟨bit, both⟩
  · rintro ⟨bit, inFirst, inSecond⟩ isZero
    have cleared : (first &&& second).getLsbD bit = false := by
      rw [isZero, BitVec.getLsbD_zero]
    rw [BitVec.getLsbD_and, inFirst, inSecond] at cleared
    cases cleared

theorem getLsbD_one_shiftLeft {width place bit : Nat} (inside : place < width) :
    (BitVec.ofNat width 1 <<< place).getLsbD bit = decide (bit = place) := by
  rw [BitVec.getLsbD_shiftLeft, BitVec.getLsbD_one]
  rcases Nat.lt_trichotomy bit place with below | rfl | above
  · simp [below, Nat.ne_of_lt below]
  · simp [inside, Nat.zero_lt_of_lt inside]
  · have apart : bit - place ≠ 0 := Nat.sub_ne_zero_of_lt above
    simp [apart, Nat.ne_of_gt above]

/-- The bits of a word. -/
theorem getLsbD_data (packs : label.Packs) (bit : Nat) :
    label.data.getLsbD bit =
      (label.id.testBit bit || (label.group ≠ 0 && bit = label.group + 15) ||
        (label.phase ≠ 0 && bit = label.phase + 23)) := by
  have idBit : (BitVec.ofNat 32 label.id).getLsbD bit = label.id.testBit bit := by
    rw [BitVec.getLsbD_ofNat]
    by_cases low : bit < 32
    · rw [decide_eq_true low, Bool.true_and]
    · have clear : label.id.testBit bit = false :=
        Nat.testBit_lt_two_pow (packs.id.trans_le
          (Nat.pow_le_pow_right Nat.two_pos (by omega)))
      rw [clear, Bool.and_false]
  have groupBit : (1#32 <<< (label.group + 15)).getLsbD bit = decide (bit = label.group + 15) :=
    getLsbD_one_shiftLeft (Nat.lt_of_le_of_lt (Nat.add_le_add_right packs.group 15) (by decide))
  have phaseBit : (1#32 <<< (label.phase + 23)).getLsbD bit = decide (bit = label.phase + 23) :=
    getLsbD_one_shiftLeft (Nat.lt_of_le_of_lt (Nat.add_le_add_right packs.phase 23) (by decide))
  unfold data EventMap.eventData
  simp only [packs.group, packs.phase, and_true]
  by_cases hasGroup : label.group ≠ 0 <;> by_cases hasPhase : label.phase ≠ 0 <;>
    simp [hasGroup, hasPhase, idBit, groupBit, phaseBit]

theorem id_of_data (packs : label.Packs) :
    (label.data &&& 0x0000FFFF#32).toNat = label.id := by
  apply Nat.eq_of_testBit_eq
  intro bit
  have mask : (0x0000FFFF#32).getLsbD bit = decide (bit < 16) := by
    change (65535 : Nat).testBit bit = _
    exact Nat.testBit_two_pow_sub_one 16 bit
  rw [← BitVec.getLsbD, BitVec.getLsbD_and, mask, getLsbD_data packs]
  by_cases low : bit < 16
  · have notGroup : bit ≠ label.group + 15 ∨ label.group = 0 := by omega
    have notPhase : bit ≠ label.phase + 23 := by omega
    rcases notGroup with apart | none
    · simp [low, apart, notPhase]
    · simp [low, none, notPhase]
  · have clear : label.id.testBit bit = false :=
      Nat.testBit_lt_two_pow (packs.id.trans_le
        (Nat.pow_le_pow_right Nat.two_pos (Nat.not_lt.mp low)))
    rw [clear, decide_eq_false low, Bool.and_false]

theorem id_high (packs : label.Packs) {bit : Nat} (high : 16 ≤ bit) :
    label.id.testBit bit = false :=
  Nat.testBit_lt_two_pow (packs.id.trans_le (Nat.pow_le_pow_right Nat.two_pos high))

theorem inGroup_data (packs : label.Packs) {group due : Nat} (positive : group ≠ 0)
    (inside : group ≤ 8) :
    EventMap.inGroup group (due, label.data) = decide (label.group = group) := by
  apply Bool.eq_iff_iff.mpr
  unfold EventMap.inGroup
  rw [decide_eq_true_iff, decide_eq_true_iff]
  change label.data &&& 1#32 <<< (group + 15) ≠ 0#32 ↔ _
  have packed := packs.group
  have low : group + 15 < 32 := by omega
  rw [and_ne_zero_iff]
  simp only [getLsbD_one_shiftLeft low, decide_eq_true_iff, exists_eq_right]
  rw [getLsbD_data packs, id_high packs (by omega)]
  have notPhase : label.phase ≠ 0 → group + 15 ≠ label.phase + 23 := by omega
  simp only [Bool.false_or, Bool.or_eq_true, Bool.and_eq_true, decide_eq_true_iff]
  omega

/-- Whether an event has a phase. -/
theorem data_phase_ne_zero (packs : label.Packs) :
    label.data &&& 0xFF000000#32 ≠ 0#32 ↔ label.phase ≠ 0 := by
  have mask : ∀ bit, (0xFF000000#32).getLsbD bit = decide (24 ≤ bit ∧ bit < 32) := by
    intro bit
    by_cases inside : bit < 32
    · have each : ∀ place : Fin 32,
          (0xFF000000#32).getLsbD place = decide (24 ≤ place.val ∧ place.val < 32) := by decide
      exact each ⟨bit, inside⟩
    · rw [BitVec.getLsbD_of_ge _ _ (Nat.not_lt.mp inside)]
      exact (decide_eq_false fun both => inside both.2).symm
  have packed := packs.phase
  rw [and_ne_zero_iff]
  simp only [mask, decide_eq_true_iff]
  constructor
  · rintro ⟨bit, isSet, high, _⟩ none
    rw [getLsbD_data packs, id_high packs (by omega)] at isSet
    have group := packs.group
    simp only [Bool.false_or, Bool.or_eq_true, Bool.and_eq_true, decide_eq_true_iff] at isSet
    omega
  · intro some
    refine ⟨label.phase + 23, ?_, by omega⟩
    rw [getLsbD_data packs]
    simp [some]

theorem data_phase_active (packs : label.Packs) (mask : BitVec 8) :
    (label.data >>> 24) &&& mask.setWidth 32 = 0#32 ↔
      ¬ (label.phase ≠ 0 ∧ mask.getLsbD (label.phase - 1) = true) := by
  rw [← not_iff_not, not_not, ← ne_eq, and_ne_zero_iff]
  simp only [BitVec.getLsbD_ushiftRight, BitVec.getLsbD_setWidth, Bool.and_eq_true,
    decide_eq_true_iff]
  have packed := packs.phase
  constructor
  · rintro ⟨bit, isSet, _, active⟩
    rw [getLsbD_data packs, id_high packs (by omega)] at isSet
    have group := packs.group
    simp only [Bool.false_or, Bool.or_eq_true, Bool.and_eq_true, decide_eq_true_iff] at isSet
    have place : label.phase ≠ 0 ∧ bit = label.phase - 1 := by omega
    rw [← place.2]
    exact ⟨place.1, active⟩
  · rintro ⟨some, active⟩
    refine ⟨label.phase - 1, ?_, by omega, active⟩
    have place : 24 + (label.phase - 1) = label.phase + 23 := by omega
    rw [place, getLsbD_data packs]
    simp [some]

end EventLabel

end RealmServer.Utilities
