import Mathlib

/-!
# Runs of a deterministic step function

A component is given by a step function: the environment's choices (a query
result, a random number, the time) are part of the event, so one event list is
one interleaving.  This module packages the two inductions every component
uses.  `EveryStep` speaks about the steps of a run, `Throughout` about the
states it visits; an invariant that one step preserves holds throughout, and
two step conditions that agree on the invariant agree on every run.
-/

namespace RealmServer.Transition

universe u v

variable {State : Type u} {Event : Type v}
variable (step : State → Event → State)

/-- The state after handling the events in order. -/
def run : State → List Event → State
  | state, [] => state
  | state, event :: rest => run (step state event) rest

/-- Every step of the run satisfies a condition on its source and its event. -/
def EveryStep (condition : State → Event → Prop) : State → List Event → Prop
  | _, [] => True
  | state, event :: rest =>
      condition state event ∧ EveryStep condition (step state event) rest

/-- Every state the run visits, first and last included, has the property. -/
def Throughout (property : State → Prop) : State → List Event → Prop
  | state, [] => property state
  | state, event :: rest =>
      property state ∧ Throughout property (step state event) rest

variable {step}

@[simp]
theorem run_nil (state : State) : run step state [] = state := rfl

@[simp]
theorem run_cons (state : State) (event : Event) (rest : List Event) :
    run step state (event :: rest) = run step (step state event) rest := rfl

@[simp]
theorem everyStep_nil (condition : State → Event → Prop) (state : State) :
    EveryStep step condition state [] ↔ True := Iff.rfl

@[simp]
theorem everyStep_cons
    (condition : State → Event → Prop)
    (state : State) (event : Event) (rest : List Event) :
    EveryStep step condition state (event :: rest) ↔
      condition state event ∧
        EveryStep step condition (step state event) rest := Iff.rfl

theorem run_append
    (state : State) (first second : List Event) :
    run step state (first ++ second) =
      run step (run step state first) second := by
  induction first generalizing state with
  | nil => rfl
  | cons event rest induction => exact induction (step state event)

theorem everyStep_append
    (condition : State → Event → Prop)
    (state : State) (first second : List Event) :
    EveryStep step condition state (first ++ second) ↔
      EveryStep step condition state first ∧
        EveryStep step condition (run step state first) second := by
  induction first generalizing state with
  | nil => simp
  | cons event rest induction =>
      simp only [List.cons_append, everyStep_cons, run_cons, induction, and_assoc]

/-- What every step preserves holds at the end of every run. -/
theorem run_of_preserved {invariant : State → Prop}
    (preserved : ∀ state event, invariant state → invariant (step state event))
    {state : State} (events : List Event) (initial : invariant state) :
    invariant (run step state events) := by
  induction events generalizing state with
  | nil => exact initial
  | cons event rest induction => exact induction (preserved state event initial)

/-- A property preserved by every admissible step holds throughout the run. -/
theorem throughout_of_invariant
    {condition : State → Event → Prop} {invariant : State → Prop}
    (preserved : ∀ state event, invariant state → condition state event →
      invariant (step state event))
    {state : State} {events : List Event}
    (initial : invariant state)
    (admissible : EveryStep step condition state events) :
    Throughout step invariant state events := by
  induction events generalizing state with
  | nil => exact initial
  | cons event rest induction =>
      exact ⟨initial,
        induction (preserved state event initial admissible.1) admissible.2⟩

/-- What the invariant gives at one step holds at every step of the run. -/
theorem everyStep_of_invariant
    {condition property : State → Event → Prop} {invariant : State → Prop}
    (preserved : ∀ state event, invariant state → condition state event →
      invariant (step state event))
    (given : ∀ state event, invariant state → condition state event →
      property state event)
    {state : State} {events : List Event}
    (initial : invariant state)
    (admissible : EveryStep step condition state events) :
    EveryStep step property state events := by
  induction events generalizing state with
  | nil => trivial
  | cons event rest induction =>
      exact ⟨given state event initial admissible.1,
        induction (preserved state event initial admissible.1) admissible.2⟩

/-- A condition on events alone holds at every step if all events meet it. -/
theorem everyStep_iff_forall
    {condition : Event → Prop} {state : State} {events : List Event} :
    EveryStep step (fun _ event => condition event) state events ↔
      ∀ event ∈ events, condition event := by
  induction events generalizing state with
  | nil => simp
  | cons event rest induction =>
      rw [everyStep_cons, induction, List.forall_mem_cons]

theorem Throughout.last {property : State → Prop} {state : State} {events : List Event}
    (holds : Throughout step property state events) : property (run step state events) := by
  induction events generalizing state with
  | nil => exact holds
  | cons event rest induction => exact induction holds.2

/-- The last state of an admissible run satisfies the invariant. -/
theorem run_invariant
    {condition : State → Event → Prop} {invariant : State → Prop}
    (preserved : ∀ state event, invariant state → condition state event →
      invariant (step state event))
    {state : State} {events : List Event}
    (initial : invariant state)
    (admissible : EveryStep step condition state events) :
    invariant (run step state events) :=
  (throughout_of_invariant preserved initial admissible).last

theorem Throughout.head {property : State → Prop} {state : State} {events : List Event}
    (holds : Throughout step property state events) : property state := by
  cases events with
  | nil => exact holds
  | cons event rest => exact holds.1

theorem Throughout.mono
    {first second : State → Prop}
    (weaker : ∀ state, first state → second state)
    {state : State} {events : List Event}
    (holds : Throughout step first state events) :
    Throughout step second state events := by
  induction events generalizing state with
  | nil => exact weaker state holds
  | cons event rest induction =>
      exact ⟨weaker state holds.1, induction holds.2⟩

/-- Two properties that agree on the invariant agree on every run. -/
theorem throughout_congr
    {first second invariant : State → Prop}
    (preserved : ∀ state event, invariant state → invariant (step state event))
    (agree : ∀ state, invariant state → (first state ↔ second state))
    {state : State} {events : List Event} (initial : invariant state) :
    Throughout step first state events ↔ Throughout step second state events := by
  induction events generalizing state with
  | nil => exact agree state initial
  | cons event rest induction =>
      exact and_congr (agree state initial) (induction (preserved state event initial))

/--
Two step conditions agree on a run if they agree wherever the invariant holds
and the steps which meet the second one preserve it.
-/
theorem everyStep_congr_of_admissible
    {first second : State → Event → Prop} {invariant : State → Prop}
    (preserved : ∀ state event, invariant state → second state event →
      invariant (step state event))
    (agree : ∀ state event, invariant state →
      (first state event ↔ second state event))
    {state : State} {events : List Event}
    (initial : invariant state) :
    EveryStep step first state events ↔
      EveryStep step second state events := by
  induction events generalizing state with
  | nil => exact Iff.rfl
  | cons event rest induction =>
      rw [everyStep_cons, everyStep_cons, agree state event initial]
      exact and_congr_right fun admissible => induction (preserved state event initial admissible)

/--
Two step conditions that agree wherever the invariant holds agree on every
run which starts inside the invariant.
-/
theorem everyStep_congr
    {first second : State → Event → Prop} {invariant : State → Prop}
    (preserved : ∀ state event, invariant state →
      invariant (step state event))
    (agree : ∀ state event, invariant state →
      (first state event ↔ second state event))
    {state : State} {events : List Event}
    (initial : invariant state) :
    EveryStep step first state events ↔
      EveryStep step second state events :=
  everyStep_congr_of_admissible (fun state event inside _ => preserved state event inside)
    agree initial

/--
Where one step keeps the property exactly under the condition, a run keeps it
throughout exactly when each of its steps meets the condition.
-/
theorem throughout_iff_everyStep
    {condition : State → Event → Prop} {invariant property : State → Prop}
    (preserved : ∀ state event, invariant state → invariant (step state event))
    (exactly : ∀ state event, invariant state → property state →
      (property (step state event) ↔ condition state event))
    {state : State} {events : List Event}
    (initial : invariant state) (holds : property state) :
    Throughout step property state events ↔
      EveryStep step condition state events := by
  induction events generalizing state with
  | nil => exact ⟨fun _ => trivial, fun _ => holds⟩
  | cons event rest induction =>
      have kept := exactly state event initial holds
      have later := preserved state event initial
      constructor
      · rintro ⟨_, rest⟩
        have next : property (step state event) := rest.head
        exact ⟨kept.mp next, (induction later next).mp rest⟩
      · rintro ⟨met, rest⟩
        exact ⟨holds, (induction later (kept.mpr met)).mpr rest⟩

/-- A property that no step regains holds throughout if it holds at the end. -/
theorem run_iff_throughout
    {invariant property : State → Prop}
    (preserved : ∀ state event, invariant state → invariant (step state event))
    (notRegained : ∀ state event, invariant state →
      property (step state event) → property state)
    {state : State} (events : List Event) (initial : invariant state) :
    property (run step state events) ↔ Throughout step property state events := by
  induction events generalizing state with
  | nil => exact Iff.rfl
  | cons event rest induction =>
      have later := induction (preserved state event initial)
      constructor
      · intro last
        have onwards := later.mp last
        exact ⟨notRegained state event initial onwards.head, onwards⟩
      · rintro ⟨_, onwards⟩
        exact later.mpr onwards

end RealmServer.Transition
