import RealmServer.Lib.Transition

/-!
# The event processor

`Update` executes the events which are due, `KillAllEvents` aborts all of them.
Both call the events, and these call the processor: an event which executes may
add events, itself included, or kill all of them; an event which is aborted may
add events.  A state therefore has the point at which the code is, and between
two steps of the code an event can make its calls.
-/

namespace RealmServer.Utilities

/-- The abort states of a `BasicEvent`. -/
inductive AbortState where
  | running
  | abortScheduled
  | aborted
deriving DecidableEq, Repr

/-- An entry of `m_events`. -/
structure EventEntry where
  time : Nat
  event : Nat
deriving DecidableEq, Repr

/-- What became of the events, for the statement only. -/
inductive Happening where
  | added (event : Nat)
  /-- `Execute` is called, planned for a time, at another one. -/
  | executed (event planned now : Nat)
  /-- `Execute` returns true. -/
  | finished (event : Nat)
  /-- `Abort` is called. -/
  | aborted (event : Nat)
  | isDeletable (event : Nat) (answer : Bool)
  /-- The event is not asked, since the kill is forced. -/
  | forced (event : Nat)
  | deleted (event : Nat)
  | assertionFailed (event : Nat)
deriving DecidableEq, Repr

/-- A call of `Execute`. -/
structure Execution where
  event : Nat
  readded : Bool
deriving DecidableEq, Repr

/-- A call of `KillAllEvents`, from outside or from an `Execute`. -/
structure Kill where
  force : Bool
  caller : Option Execution
deriving DecidableEq, Repr

/-- Where the code is. -/
inductive Point where
  | idle
  /-- At the condition of the loop of `Update`. -/
  | update
  | execute (execution : Execution)
  /-- In an `Abort` which `Update` called. -/
  | abort (event : Nat)
  | isDeletable (event : Nat)
  /-- At the condition of the loop of `KillAllEvents`. -/
  | kill (kill : Kill)
  /-- In an `Abort` which `KillAllEvents` called. -/
  | killAbort (kill : Kill)
  | killIsDeletable (kill : Kill)
deriving DecidableEq, Repr

/-- `m_events` is `passed ++ events`; a loop of `KillAllEvents` has its iterator at the first of
the `events`, and otherwise nothing is passed. -/
structure EventProcessor where
  time : Nat
  passed : List EventEntry
  events : List EventEntry
  point : Point
  abortState : Nat → AbortState
  /-- So many events were added, with the numbers below as names. -/
  allocated : Nat
  history : List Happening

/-- Calls of the processor, and the next step of its code. -/
inductive ProcessorCall where
  /-- `AddEvent` of a new event. -/
  | addEvent (e_time : Nat)
  /-- `AddEvent` of the event which executes. -/
  | readd (e_time : Nat)
  | scheduleAbort (event : Nat)
  | update (p_time : UInt32)
  | killAllEvents (force : Bool)
  /-- The code goes on, and if it asks `IsDeletable`, this is the answer. -/
  | proceed (deletable : Bool)
deriving DecidableEq, Repr

/-- `m_events.insert`: behind the entries of the same time. -/
def insertEntry (entry : EventEntry) : List EventEntry → List EventEntry
  | [] => [entry]
  | first :: rest =>
      if entry.time < first.time then entry :: first :: rest
      else first :: insertEntry entry rest

namespace EventProcessor

/-- `m_time + t_offset`, an `uint64`. -/
def calculateTime (processor : EventProcessor) (t_offset : Nat) : Nat :=
  (processor.time + t_offset) % 2 ^ 64

def start : EventProcessor where
  time := 0
  passed := []
  events := []
  point := .idle
  abortState _ := .running
  allocated := 0
  history := []

def log (processor : EventProcessor) (happening : Happening) : EventProcessor :=
  { processor with history := happening :: processor.history }

/-- `m_events.insert`.  What is earlier than the entry at the iterator comes before it. -/
def insert (processor : EventProcessor) (entry : EventEntry) : EventProcessor :=
  match processor.point, processor.events with
  | .killAbort _, current :: _ =>
      if entry.time < current.time then
        { processor with passed := insertEntry entry processor.passed }
      else { processor with events := insertEntry entry processor.events }
  | _, _ => { processor with events := insertEntry entry processor.events }

/-- `AddEvent` of a new event, which is running. -/
def addEvent (processor : EventProcessor) (e_time : Nat) : EventProcessor :=
  { processor.insert ⟨e_time, processor.allocated⟩ with
    abortState := Function.update processor.abortState processor.allocated .running
    allocated := processor.allocated + 1
    history := .added processor.allocated :: processor.history }

/-- `ScheduleAbort`. -/
def scheduleAbort (processor : EventProcessor) (event : Nat) : EventProcessor :=
  if processor.abortState event = .running then
    { processor with
      abortState := Function.update processor.abortState event .abortScheduled }
  else processor.log (.assertionFailed event)

/-- `SetAborted`. -/
def setAborted (processor : EventProcessor) (event : Nat) : EventProcessor :=
  if processor.abortState event ≠ .aborted then
    { processor with abortState := Function.update processor.abortState event .aborted }
  else processor.log (.assertionFailed event)

/-! ## The loop of `Update` -/

/-- From the condition of the loop to the first call of the event. -/
def nextEvent (processor : EventProcessor) : EventProcessor :=
  match processor.events with
  | [] => { processor with point := .idle }
  | entry :: rest =>
      if entry.time ≤ processor.time then
        let taken := { processor with events := rest }
        match processor.abortState entry.event with
        | .running =>
            { taken.log (.executed entry.event entry.time processor.time) with
              point := .execute ⟨entry.event, false⟩ }
        | .abortScheduled =>
            { taken.log (.aborted entry.event) with point := .abort entry.event }
        | .aborted => { taken with point := .isDeletable entry.event }
      else { processor with point := .idle }

/-- `Execute` returns, with false if the event was added again. -/
def executed (processor : EventProcessor) (execution : Execution) : EventProcessor :=
  if execution.readded then { processor with point := .update }
  else
    { (processor.log (.finished execution.event)).log (.deleted execution.event) with
      point := .update }

/-- `Abort` returns. -/
def aborted (processor : EventProcessor) (event : Nat) : EventProcessor :=
  { processor.setAborted event with point := .isDeletable event }

/-- An aborted event is deleted, or it is asked again at the next update. -/
def deleteOrReschedule (processor : EventProcessor) (event : Nat) (deletable : Bool) :
    EventProcessor :=
  let asked := processor.log (.isDeletable event deletable)
  if deletable then { asked.log (.deleted event) with point := .update }
  else { asked.insert ⟨asked.calculateTime 1, event⟩ with point := .update }

/-! ## The loop of `KillAllEvents` -/

/-- From the condition of the loop to the first call of the event, or to the caller. -/
def nextKill (processor : EventProcessor) (kill : Kill) : EventProcessor :=
  match processor.events with
  | [] =>
      { processor with
        passed := []
        -- `m_events.clear()` at the end of a forced kill.
        events := if kill.force then [] else processor.passed
        point := kill.caller.elim .idle .execute }
  | entry :: _ =>
      if processor.abortState entry.event ≠ .aborted then
        { (processor.setAborted entry.event).log (.aborted entry.event) with
          point := .killAbort kill }
      else { processor with point := .killIsDeletable kill }

/-- The entry of a deleted event is erased, if the kill is not forced. -/
def deleteOrSkip (processor : EventProcessor) (kill : Kill) (deletable : Bool) :
    EventProcessor :=
  match processor.events with
  | [] => processor
  | entry :: rest =>
      let later := { processor with point := .kill kill, events := rest }
      if kill.force then
        { (later.log (.forced entry.event)).log (.deleted entry.event) with
          passed := processor.passed ++ [entry] }
      else if deletable then
        (later.log (.isDeletable entry.event true)).log (.deleted entry.event)
      else
        { later.log (.isDeletable entry.event false) with passed := processor.passed ++ [entry] }

/-! ## Steps -/

/-- The code goes on by one call of an event or one return. -/
def proceed (processor : EventProcessor) (deletable : Bool) : EventProcessor :=
  match processor.point with
  | .idle => processor
  | .update => processor.nextEvent
  | .execute execution => processor.executed execution
  | .abort event => processor.aborted event
  | .isDeletable event => processor.deleteOrReschedule event deletable
  | .kill kill => processor.nextKill kill
  | .killAbort kill => { processor with point := .killIsDeletable kill }
  | .killIsDeletable kill => processor.deleteOrSkip kill deletable

/-- Whether code outside the processor is running. -/
def isOutside (processor : EventProcessor) : Bool :=
  match processor.point with
  | .idle | .execute _ | .abort _ | .killAbort _ => true
  | .update | .isDeletable _ | .kill _ | .killIsDeletable _ => false

/-- The entries of `m_events`. -/
def entries (processor : EventProcessor) : List EventEntry :=
  processor.passed ++ processor.events

/-- One step; a call which is not possible at this point changes nothing. -/
def step (processor : EventProcessor) : ProcessorCall → EventProcessor
  | .proceed deletable => processor.proceed deletable
  | .addEvent e_time => if processor.isOutside then processor.addEvent e_time else processor
  | .scheduleAbort event =>
      -- Only for pending events which are running.
      if processor.isOutside ∧ event ∈ processor.entries.map EventEntry.event ∧
          processor.abortState event = .running then processor.scheduleAbort event
      else processor
  | .update p_time =>
      match processor.point with
      | .idle =>
          { processor with time := processor.calculateTime p_time.toNat, point := .update }
      | _ => processor
  | .killAllEvents force =>
      match processor.point with
      | .idle => { processor with point := .kill ⟨force, none⟩ }
      | .execute execution => { processor with point := .kill ⟨force, some execution⟩ }
      | _ => processor
  | .readd e_time =>
      match processor.point with
      | .execute ⟨event, false⟩ =>
          -- It is added once, at a later time; then `Execute` returns false.
          if processor.time < e_time then
            { processor.insert ⟨e_time, event⟩ with point := .execute ⟨event, true⟩ }
          else processor
      | _ => processor

end EventProcessor

/-! ## What is required -/

/-- What may happen to an event after what happened earlier, the latest first. -/
def Happening.Allowed : Happening → List Happening → Prop
  | .added event, earlier => .added event ∉ earlier
  | .executed event planned now, earlier =>
      planned ≤ now ∧ .aborted event ∉ earlier ∧ .deleted event ∉ earlier
  | .finished event, earlier => .deleted event ∉ earlier
  | .aborted event, earlier => .aborted event ∉ earlier ∧ .deleted event ∉ earlier
  | .isDeletable event _, earlier => .deleted event ∉ earlier
  | .forced event, earlier => .deleted event ∉ earlier
  | .deleted event, earlier =>
      .deleted event ∉ earlier ∧
        (earlier.head? = some (.finished event) ∨
          .aborted event ∈ earlier ∧
            (earlier.head? = some (.isDeletable event true) ∨
              earlier.head? = some (.forced event)))
  | .assertionFailed _, _ => False

/-- Everything that happened was allowed. -/
def Orderly : List Happening → Prop
  | [] => True
  | happening :: earlier => happening.Allowed earlier ∧ Orderly earlier

namespace EventProcessor

/-- A forced kill deletes events whose entries it clears at its end only. -/
def isForced (processor : EventProcessor) : Bool :=
  match processor.point with
  | .kill kill | .killAbort kill | .killIsDeletable kill => kill.force
  | _ => false

/-- The event which executes, unless it was added again. -/
def inExecution (execution : Execution) : List Nat :=
  if execution.readded then [] else [execution.event]

/-- An event which `Update` took from `m_events`. -/
def inHand (processor : EventProcessor) : List Nat :=
  match processor.point with
  | .execute execution => inExecution execution
  | .abort event | .isDeletable event => [event]
  | .kill kill | .killAbort kill | .killIsDeletable kill => kill.caller.elim [] inExecution
  | .idle | .update => []

/-- Each event ends once: in its order, and it is not lost before. -/
structure EndsOnce (processor : EventProcessor) : Prop where
  orderly : Orderly processor.history
  /-- An event is not dropped. -/
  kept : ∀ event < processor.allocated, .deleted event ∈ processor.history ∨
    event ∈ processor.entries.map EventEntry.event ∨ event ∈ processor.inHand
  /-- No entry of `m_events` is of a deleted event, but in the loop of a forced kill. -/
  unreferenced : processor.isForced = false →
    ∀ entry ∈ processor.entries, .deleted entry.event ∉ processor.history
  /-- No loop comes to a deleted event, nor does that of a forced kill. -/
  untouched : ∀ entry ∈ processor.events, .deleted entry.event ∉ processor.history

/-- The state after some calls of an endless sequence. -/
def after (processor : EventProcessor) (calls : Nat → ProcessorCall) : Nat → EventProcessor
  | 0 => processor
  | count + 1 => (processor.after calls count).step (calls count)

/-- A call which gives the loops more to do: it adds an event which is due, or adds an event
while all are killed, or kills them. -/
def Prolongs (processor : EventProcessor) : ProcessorCall → Prop
  | .addEvent e_time => e_time ≤ processor.time ∨ ∃ kill, processor.point = .killAbort kill
  | .killAllEvents _ => True
  | _ => False

/-- A forced kill has no event added before the one it aborts, and the clock is not at its
end. -/
def Careful (processor : EventProcessor) : ProcessorCall → Prop
  | .addEvent e_time => ∀ kill, processor.point = .killAbort kill → kill.force = true →
      ∀ current ∈ processor.events.head?, current.time ≤ e_time
  | .update p_time => processor.time + p_time.toNat + 1 < 2 ^ 64
  | _ => True

/-- The loops end, if the events return and do not prolong them for ever. -/
def LoopsEnd (processor : EventProcessor) : Prop :=
  ∀ calls : Nat → ProcessorCall,
    (∀ count, Careful (processor.after calls count) (calls count)) →
    (∀ count, ∃ later ≥ count, ∃ deletable, calls later = .proceed deletable) →
    (∃ count, ∀ later ≥ count, ¬Prolongs (processor.after calls later) (calls later)) →
    ∃ count, (processor.after calls count).point = .idle

/-- Where its loop ends, an update leaves nothing which is due, and a forced kill nothing. -/
structure LeavesNothing (processor : EventProcessor) : Prop where
  due : processor.point = .update → processor.nextEvent.point = .idle →
    ∀ entry ∈ processor.nextEvent.entries, processor.time < entry.time
  killed : ∀ kill, processor.point = .kill kill → kill.force = true →
    (processor.nextKill kill).isForced = false → (processor.nextKill kill).entries = []

/-- Events end once, and the loops end with nothing left to do. -/
def EventsEnd (processor : EventProcessor) : Prop :=
  processor.EndsOnce ∧ processor.LoopsEnd ∧ processor.LeavesNothing

end EventProcessor

end RealmServer.Utilities
