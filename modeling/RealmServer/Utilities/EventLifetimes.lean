import RealmServer.Utilities.EventProcessor

/-!
# The lifetimes of events

An event which was added is alive once, in `m_events` or in the hand of
`Update`, or it was deleted once.  `Good` has this as an equation between
counts, together with what the abort states and the history have in common.
-/

namespace RealmServer.Utilities

/-- The event something happened to. -/
def Happening.event : Happening → Nat
  | .added event | .executed event _ _ | .finished event | .aborted event
  | .isDeletable event _ | .forced event | .deleted event | .assertionFailed event => event

theorem insertEntry_perm (entry : EventEntry) (events : List EventEntry) :
    (insertEntry entry events).Perm (entry :: events) := by
  induction events with
  | nil => exact .refl _
  | cons first rest induction =>
      unfold insertEntry
      split_ifs
      · exact .refl _
      · exact (induction.cons first).trans (.swap entry first rest)

namespace EventProcessor

/-- The entries which the code can still come to. -/
def reachable (processor : EventProcessor) : List EventEntry :=
  if processor.isForced then processor.events else processor.entries

/-- The events which still have to end, those which a kill passed over included. -/
def alive (processor : EventProcessor) : List Nat :=
  processor.inHand ++ processor.reachable.map EventEntry.event

/-- What is so at each point. -/
def AtPoint (processor : EventProcessor) : Prop :=
  match processor.point with
  | .idle | .update | .execute _ => processor.passed = []
  | .abort event => processor.passed = [] ∧ processor.abortState event = .abortScheduled
  | .isDeletable event => processor.passed = [] ∧ processor.abortState event = .aborted
  | .kill _ => True
  | .killAbort _ | .killIsDeletable _ =>
      ∃ entry rest, processor.events = entry :: rest ∧
        processor.abortState entry.event = .aborted

structure Good (processor : EventProcessor) : Prop where
  orderly : Orderly processor.history
  once : ∀ event, processor.alive.count event + processor.history.count (.deleted event) =
    if event < processor.allocated then 1 else 0
  known : ∀ happening ∈ processor.history, happening.event < processor.allocated
  aborted : ∀ event, .aborted event ∈ processor.history ↔
    processor.abortState event = .aborted ∨ processor.point = .abort event
  atPoint : processor.AtPoint
  clock : processor.time + 1 < 2 ^ 64

theorem start_good : start.Good where
  orderly := trivial
  once _ := rfl
  known _ member := absurd member List.not_mem_nil
  aborted event := by simp [start]
  atPoint := rfl
  clock := by decide

section Insert

variable (processor : EventProcessor) (entry : EventEntry)

theorem insert_of_point (other : ∀ kill, processor.point ≠ .killAbort kill) :
    processor.insert entry =
      { processor with events := insertEntry entry processor.events } := by
  unfold insert
  split
  case h_1 kill _ _ atPoint _ => exact absurd atPoint (other kill)
  case h_2 => rfl

variable {processor entry}

theorem insert_of_le {current : EventEntry} {rest : List EventEntry}
    (first : processor.events = current :: rest) (late : current.time ≤ entry.time) :
    processor.insert entry = { processor with events := current :: insertEntry entry rest } := by
  have after : insertEntry entry processor.events = current :: insertEntry entry rest := by
    rw [first, insertEntry, if_neg (Nat.not_lt.mpr late)]
  unfold insert
  split
  case h_1 _ head _ _ same =>
      rw [first] at same
      cases same
      rw [if_neg (Nat.not_lt.mpr late), after]
  case h_2 => rw [after]

theorem insert_of_lt {kill : Kill} {current : EventEntry} {rest : List EventEntry}
    (atPoint : processor.point = .killAbort kill) (first : processor.events = current :: rest)
    (early : entry.time < current.time) :
    processor.insert entry =
      { processor with passed := insertEntry entry processor.passed } := by
  unfold insert
  rw [atPoint, first]
  dsimp only
  rw [if_pos early]

end Insert

namespace Good

variable {processor : EventProcessor}

theorem deleted_notMem (good : processor.Good) {event : Nat} (alive : event ∈ processor.alive) :
    .deleted event ∉ processor.history := by
  have once := good.once event
  have positive := List.count_pos_iff.mpr alive
  intro deleted
  have also := List.count_pos_iff.mpr deleted
  split_ifs at once <;> omega

theorem alive_lt (good : processor.Good) {event : Nat} (alive : event ∈ processor.alive) :
    event < processor.allocated := by
  have once := good.once event
  have positive := List.count_pos_iff.mpr alive
  by_contra unknown
  rw [if_neg unknown] at once
  omega

theorem aborted_notMem (good : processor.Good) {event : Nat}
    (running : processor.abortState event ≠ .aborted)
    (elsewhere : processor.point ≠ .abort event) : .aborted event ∉ processor.history := by
  rw [good.aborted, not_or]
  exact ⟨running, elsewhere⟩

/-! ## Calls from outside -/

/-- What an insertion makes of the entries. -/
structure Inserts (processor : EventProcessor) (entry : EventEntry)
    (passed events : List EventEntry) : Prop where
  same : processor.insert entry = { processor with passed := passed, events := events }
  reachable : ({ processor with passed := passed, events := events }.reachable).Perm
    (entry :: processor.reachable)
  atPoint : { processor with passed := passed, events := events }.AtPoint

theorem reachable_perm {entry : EventEntry} {passed events : List EventEntry}
    (forced : events.Perm (entry :: processor.events))
    (free : (passed ++ events).Perm (entry :: processor.entries)) :
    ({ processor with passed := passed, events := events }.reachable).Perm
      (entry :: processor.reachable) := by
  show (if processor.isForced then events else passed ++ events).Perm
    (entry :: if processor.isForced then processor.events else processor.entries)
  split_ifs
  · exact forced
  · exact free

theorem inserts_of_point (other : ∀ kill, processor.point ≠ .killAbort kill)
    (ask : ∀ kill, processor.point ≠ .killIsDeletable kill) (good : processor.Good)
    (entry : EventEntry) :
    Inserts processor entry processor.passed (insertEntry entry processor.events) where
  same := insert_of_point processor entry other
  reachable := by
    have perm := insertEntry_perm entry processor.events
    exact reachable_perm perm ((perm.append_left processor.passed).trans List.perm_middle)
  atPoint := by
    have atPoint := good.atPoint
    unfold AtPoint at atPoint ⊢
    dsimp only
    cases isPoint : processor.point with
    | killAbort kill => exact absurd isPoint (other kill)
    | killIsDeletable kill => exact absurd isPoint (ask kill)
    | _ =>
        rw [isPoint] at atPoint
        exact atPoint

theorem inserts_of_careful (good : processor.Good) {entry : EventEntry} {kill : Kill}
    (atKill : processor.point = .killAbort kill)
    (careful : kill.force = true → ∀ current ∈ processor.events.head?, current.time ≤ entry.time) :
    ∃ passed events, Inserts processor entry passed events := by
  have atPoint := good.atPoint
  unfold AtPoint at atPoint
  rw [atKill] at atPoint
  obtain ⟨current, rest, first, isAborted⟩ := atPoint
  have perm := insertEntry_perm entry rest
  by_cases late : current.time ≤ entry.time
  · refine ⟨processor.passed, current :: insertEntry entry rest, insert_of_le first late, ?_, ?_⟩
    · have events : (current :: insertEntry entry rest).Perm (entry :: processor.events) := by
        rw [first]
        exact (perm.cons current).trans (.swap entry current rest)
      exact reachable_perm events ((events.append_left processor.passed).trans List.perm_middle)
    · unfold AtPoint
      dsimp only
      rw [atKill]
      exact ⟨current, insertEntry entry rest, rfl, isAborted⟩
  · have free : processor.isForced = false := by
      unfold isForced
      rw [atKill]
      by_contra forced
      apply late
      apply careful (Bool.not_eq_false _ ▸ forced) current
      rw [first]
      rfl
    refine ⟨insertEntry entry processor.passed, processor.events,
      insert_of_lt atKill first (Nat.not_le.mp late), ?_, ?_⟩
    · have all : (insertEntry entry processor.passed ++ processor.events).Perm
          (entry :: processor.entries) :=
        (insertEntry_perm entry processor.passed).append_right processor.events
      show (if processor.isForced then processor.events
          else insertEntry entry processor.passed ++ processor.events).Perm
        (entry :: if processor.isForced then processor.events else processor.entries)
      rw [free]
      exact all
    · unfold AtPoint
      dsimp only
      rw [atKill]
      exact ⟨current, rest, first, isAborted⟩

theorem events_alive {entry : EventEntry} (member : entry ∈ processor.events) :
    entry.event ∈ processor.alive := by
  apply List.mem_append_right
  apply List.mem_map_of_mem
  unfold reachable
  split_ifs
  · exact member
  · exact List.mem_append_right _ member

theorem atPoint_of_abortState (atPoint : processor.AtPoint) {states : Nat → AbortState}
    (aborted : ∀ event, processor.abortState event = .aborted → states event = .aborted)
    (inHand : ∀ event, processor.point = .abort event →
      states event = processor.abortState event) :
    { processor with abortState := states }.AtPoint := by
  unfold AtPoint at atPoint ⊢
  dsimp only
  cases isPoint : processor.point with
  | abort event =>
      rw [isPoint] at atPoint
      exact ⟨atPoint.1, (inHand event isPoint).trans atPoint.2⟩
  | isDeletable event =>
      rw [isPoint] at atPoint
      exact ⟨atPoint.1, aborted event atPoint.2⟩
  | killAbort kill | killIsDeletable kill =>
      rw [isPoint] at atPoint
      obtain ⟨entry, rest, first, isAborted⟩ := atPoint
      exact ⟨entry, rest, first, aborted entry.event isAborted⟩
  | _ =>
      rw [isPoint] at atPoint
      exact atPoint

theorem addEvent_of_inserts (good : processor.Good) {e_time : Nat}
    {passed events : List EventEntry}
    (inserts : Inserts processor ⟨e_time, processor.allocated⟩ passed events) :
    (processor.addEvent e_time).Good := by
  have new : ∀ happening ∈ processor.history, happening.event ≠ processor.allocated :=
    fun happening member => (good.known happening member).ne
  have notAborted : processor.abortState processor.allocated ≠ .aborted := fun isAborted =>
    new _ ((good.aborted _).mpr (.inl isAborted)) rfl
  have notHeld : processor.point ≠ .abort processor.allocated := fun atPoint =>
    new _ ((good.aborted _).mpr (.inr atPoint)) rfl
  unfold EventProcessor.addEvent
  rw [inserts.same]
  refine ⟨⟨fun member => new _ member rfl, good.orderly⟩, fun event => ?_, ?_, fun event => ?_, ?_,
    good.clock⟩
  · have once := good.once event
    have alive : (processor.inHand ++ ({ processor with
        passed := passed, events := events }.reachable).map EventEntry.event).Perm
          (processor.allocated :: processor.alive) :=
      ((inserts.reachable.map EventEntry.event).append_left processor.inHand).trans
        List.perm_middle
    show (processor.inHand ++ ({ processor with
      passed := passed, events := events }.reachable).map EventEntry.event).count event +
        (Happening.added processor.allocated :: processor.history).count (.deleted event) =
          if event < processor.allocated + 1 then 1 else 0
    have deleted : (Happening.added processor.allocated :: processor.history).count
        (.deleted event) = processor.history.count (.deleted event) :=
      List.count_cons_of_ne (by nofun)
    rw [alive.count_eq, deleted]
    by_cases isNew : event = processor.allocated
    · subst isNew
      rw [if_neg (Nat.lt_irrefl _)] at once
      rw [if_pos (Nat.lt_succ_self _), List.count_cons_self]
      omega
    · rw [List.count_cons_of_ne (Ne.symm isNew), once]
      have same : event < processor.allocated + 1 ↔ event < processor.allocated := by omega
      simp only [same]
  · intro happening member
    rcases List.mem_cons.mp member with rfl | old
    · exact Nat.lt_succ_self _
    · exact (good.known happening old).trans (Nat.lt_succ_self _)
  · show .aborted event ∈ Happening.added processor.allocated :: processor.history ↔
      Function.update processor.abortState processor.allocated .running event = .aborted ∨
        processor.point = .abort event
    rw [List.mem_cons, or_iff_right nofun, good.aborted]
    by_cases isNew : event = processor.allocated
    · subst isNew
      rw [Function.update_self, or_iff_right notAborted, or_iff_right nofun]
    · rw [Function.update_of_ne isNew]
  · apply atPoint_of_abortState inserts.atPoint
    · intro event isAborted
      rw [Function.update_of_ne]
      · exact isAborted
      · exact fun isNew => notAborted (isNew ▸ isAborted)
    · intro event atPoint
      rw [Function.update_of_ne]
      exact fun isNew => notHeld (isNew ▸ atPoint)

theorem addEvent (good : processor.Good) (outside : processor.isOutside = true) {e_time : Nat}
    (careful : processor.Careful (.addEvent e_time)) : (processor.addEvent e_time).Good := by
  by_cases atKill : ∃ kill, processor.point = .killAbort kill
  · obtain ⟨kill, atKill⟩ := atKill
    obtain ⟨passed, events, inserts⟩ :=
      @inserts_of_careful processor good ⟨e_time, processor.allocated⟩ kill atKill
        (careful kill atKill)
    exact good.addEvent_of_inserts inserts
  · rw [not_exists] at atKill
    apply good.addEvent_of_inserts (inserts_of_point atKill ?_ good _)
    intro kill atPoint
    unfold isOutside at outside
    rw [atPoint] at outside
    cases outside

theorem scheduleAbort (good : processor.Good) {event : Nat}
    (running : processor.abortState event = .running) :
    (processor.scheduleAbort event).Good := by
  unfold EventProcessor.scheduleAbort
  rw [if_pos running]
  refine ⟨good.orderly, good.once, good.known, fun other => ?_, ?_, good.clock⟩
  · show .aborted other ∈ processor.history ↔
      Function.update processor.abortState event .abortScheduled other = .aborted ∨
        processor.point = .abort other
    rw [good.aborted]
    by_cases same : other = event
    · subst same
      rw [Function.update_self, running, or_iff_right nofun, or_iff_right nofun]
    · rw [Function.update_of_ne same]
  · apply atPoint_of_abortState good.atPoint
    · intro other isAborted
      rw [Function.update_of_ne]
      · exact isAborted
      · rintro rfl
        rw [running] at isAborted
        cases isAborted
    · intro other atAbort
      have atPoint := good.atPoint
      unfold AtPoint at atPoint
      rw [atAbort] at atPoint
      rw [Function.update_of_ne]
      rintro rfl
      have scheduled := atPoint.2
      rw [running] at scheduled
      cases scheduled

/-! ## Steps of the loops -/

section Steps

variable {next : EventProcessor}

theorem once_of_perm (good : processor.Good) (alive : next.alive.Perm processor.alive)
    (deleted : ∀ event, next.history.count (.deleted event) =
      processor.history.count (.deleted event))
    (allocated : next.allocated = processor.allocated) (event : Nat) :
    next.alive.count event + next.history.count (.deleted event) =
      if event < next.allocated then 1 else 0 := by
  rw [alive.count_eq, deleted, allocated]
  exact good.once event

theorem once_of_deleted (good : processor.Good) {ended : Nat}
    (alive : processor.alive.Perm (ended :: next.alive))
    (deleted : ∀ event, next.history.count (.deleted event) =
      (.deleted ended :: processor.history).count (.deleted event))
    (allocated : next.allocated = processor.allocated) (event : Nat) :
    next.alive.count event + next.history.count (.deleted event) =
      if event < next.allocated then 1 else 0 := by
  rw [deleted, allocated, ← good.once event, alive.count_eq]
  by_cases same : ended = event
  · subst same
    rw [List.count_cons_self, List.count_cons_self]
    omega
  · rw [List.count_cons_of_ne same, List.count_cons_of_ne]
    exact fun equal => same (Happening.deleted.inj equal)

theorem known_log (good : processor.Good) {happening : Happening}
    (alive : happening.event ∈ processor.alive) :
    ∀ other ∈ happening :: processor.history, other.event < processor.allocated := by
  intro other member
  rcases List.mem_cons.mp member with rfl | old
  · exact good.alive_lt alive
  · exact good.known other old

/-- An event the code lets go of is deleted. -/
theorem deletes (good : processor.Good) {ended : Nat} {reason : Happening} {point : Point}
    {passed events : List EventEntry}
    (alive : processor.alive.Perm (ended ::
      { processor with passed := passed, events := events, point := point }.alive))
    (isReason : reason = .finished ended ∨ .aborted ended ∈ processor.history ∧
      (reason = .isDeletable ended true ∨ reason = .forced ended))
    (before : ∀ event, processor.point ≠ .abort event) (after : ∀ event, point ≠ .abort event)
    (atPoint : { processor with passed := passed, events := events, point := point }.AtPoint) :
    { (processor.log reason).log (.deleted ended) with
      passed := passed, events := events, point := point }.Good := by
  have isAlive : ended ∈ processor.alive := alive.mem_iff.mpr List.mem_cons_self
  have notDeleted := good.deleted_notMem isAlive
  have isAbout : reason.event = ended ∧ reason.Allowed processor.history ∧
      ∀ event, reason ≠ .deleted event ∧ reason ≠ .aborted event := by
    rcases isReason with rfl | ⟨-, rfl | rfl⟩
    all_goals exact ⟨rfl, notDeleted, fun _ => ⟨nofun, nofun⟩⟩
  obtain ⟨isEvent, allowed, different⟩ := isAbout
  refine ⟨⟨⟨?_, ?_⟩, allowed, good.orderly⟩, @once_of_deleted _ _ good ended alive ?_ rfl, ?_, ?_,
    atPoint, good.clock⟩
  · exact fun member =>
      notDeleted ((List.mem_cons.mp member).resolve_left (different ended).1.symm)
  · rcases isReason with rfl | ⟨wasAborted, rfl | rfl⟩
    · exact .inl rfl
    · exact .inr ⟨List.mem_cons_of_mem _ wasAborted, .inl rfl⟩
    · exact .inr ⟨List.mem_cons_of_mem _ wasAborted, .inr rfl⟩
  · intro event
    show (Happening.deleted ended :: reason :: processor.history).count _ = _
    rw [List.count_cons, List.count_cons_of_ne (different event).1, List.count_cons]
  · intro happening member
    rcases List.mem_cons.mp member with rfl | member
    · exact good.alive_lt isAlive
    · exact good.known_log (isEvent ▸ isAlive) happening member
  · intro event
    show .aborted event ∈ Happening.deleted ended :: reason :: processor.history ↔
      processor.abortState event = .aborted ∨ point = .abort event
    rw [List.mem_cons, or_iff_right (by nofun), List.mem_cons,
      or_iff_right (different event).2.symm, good.aborted, or_iff_left (before event),
      or_iff_left (after event)]

theorem idle (good : processor.Good) (atPoint : processor.point = .update) :
    { processor with point := .idle }.Good := by
  have empty := good.atPoint
  unfold AtPoint at empty
  rw [atPoint] at empty
  refine ⟨good.orderly, good.once_of_perm ?_ (fun _ => rfl) rfl, good.known, ?_, empty, good.clock⟩
  · simp [alive, inHand, reachable, isForced, entries, atPoint]
  · intro event
    rw [good.aborted, atPoint, or_iff_left (by nofun), or_iff_left (by nofun)]

theorem nextEvent (good : processor.Good) (atPoint : processor.point = .update) :
    processor.nextEvent.Good := by
  have empty := good.atPoint
  unfold AtPoint at empty
  rw [atPoint] at empty
  unfold EventProcessor.nextEvent
  split
  case h_1 => exact good.idle atPoint
  case h_2 entry rest first =>
      have isAlive : entry.event ∈ processor.alive := events_alive (by simp [first])
      have alive : processor.alive = entry.event :: rest.map EventEntry.event := by
        simp [alive, inHand, reachable, isForced, entries, atPoint, first, empty]
      have notAbort : ∀ event, processor.point ≠ .abort event := by
        rw [atPoint]
        exact fun _ => nofun
      split_ifs with due
      · dsimp only
        split
        case h_1 state =>
            refine ⟨⟨⟨due, good.aborted_notMem ?_ (notAbort _), good.deleted_notMem isAlive⟩,
              good.orderly⟩, good.once_of_perm ?_ ?_ rfl, good.known_log isAlive, ?_, empty,
              good.clock⟩
            · rw [state]
              exact nofun
            · rw [alive]
              simp [EventProcessor.alive, inHand, inExecution, reachable, isForced, entries, log,
                empty]
            · exact fun event => List.count_cons_of_ne (by nofun)
            · intro event
              show .aborted event ∈ Happening.executed _ _ _ :: processor.history ↔
                processor.abortState event = .aborted ∨ Point.execute _ = .abort event
              rw [List.mem_cons, or_iff_right (by nofun), good.aborted,
                or_iff_left (notAbort event), or_iff_left (by nofun)]
        case h_2 state =>
            refine ⟨⟨⟨good.aborted_notMem ?_ (notAbort _), good.deleted_notMem isAlive⟩,
              good.orderly⟩, good.once_of_perm ?_ ?_ rfl, good.known_log isAlive, ?_,
              ⟨empty, state⟩, good.clock⟩
            · rw [state]
              exact nofun
            · rw [alive]
              simp [EventProcessor.alive, inHand, reachable, isForced, entries, log, empty]
            · exact fun event => List.count_cons_of_ne (by nofun)
            · intro event
              show .aborted event ∈ Happening.aborted entry.event :: processor.history ↔
                processor.abortState event = .aborted ∨
                  Point.abort entry.event = .abort event
              rw [List.mem_cons, good.aborted, or_iff_left (notAbort event), or_comm]
              simp [eq_comm]
        case h_3 state =>
            refine ⟨good.orderly, good.once_of_perm ?_ (fun _ => rfl) rfl, good.known, ?_,
              ⟨empty, state⟩, good.clock⟩
            · rw [alive]
              simp [EventProcessor.alive, inHand, reachable, isForced, entries, empty]
            · intro event
              rw [good.aborted, or_iff_left (notAbort event), or_iff_left (by nofun)]
      · exact good.idle atPoint

theorem executed (good : processor.Good) {execution : Execution}
    (atPoint : processor.point = .execute execution) : (processor.executed execution).Good := by
  have empty := good.atPoint
  unfold AtPoint at empty
  rw [atPoint] at empty
  unfold EventProcessor.executed
  split_ifs with readded
  · refine ⟨good.orderly, good.once_of_perm ?_ (fun _ => rfl) rfl, good.known, ?_, empty,
      good.clock⟩
    · simp [alive, inHand, inExecution, reachable, isForced, entries, atPoint, readded]
    · intro event
      rw [good.aborted, atPoint, or_iff_left (by nofun), or_iff_left (by nofun)]
  · refine good.deletes (.of_eq ?_) (.inl rfl) (by simp [atPoint]) (fun _ => nofun) empty
    simp [alive, inHand, inExecution, reachable, isForced, entries, log, atPoint, empty, readded]

theorem abortReturns (good : processor.Good) {event : Nat}
    (atPoint : processor.point = .abort event) : (processor.aborted event).Good := by
  have atAbort := good.atPoint
  unfold AtPoint at atAbort
  rw [atPoint] at atAbort
  obtain ⟨empty, scheduled⟩ := atAbort
  have running : processor.abortState event ≠ .aborted := by
    rw [scheduled]
    exact nofun
  unfold EventProcessor.aborted setAborted
  rw [if_pos running]
  refine ⟨good.orderly, good.once_of_perm ?_ (fun _ => rfl) rfl, good.known, ?_,
    ⟨empty, Function.update_self _ _ _⟩, good.clock⟩
  · simp [alive, inHand, reachable, isForced, entries, atPoint]
  · intro other
    show .aborted other ∈ processor.history ↔
      Function.update processor.abortState event .aborted other = .aborted ∨
        Point.isDeletable event = .abort other
    rw [or_iff_left (b := Point.isDeletable event = .abort other) nofun, good.aborted, atPoint]
    by_cases same : other = event
    · subst same
      simp
    · rw [Function.update_of_ne same, or_iff_left]
      exact fun equal => same (Point.abort.inj equal).symm

theorem deleteOrReschedule (good : processor.Good) {event : Nat}
    (atPoint : processor.point = .isDeletable event) (deletable : Bool) :
    (processor.deleteOrReschedule event deletable).Good := by
  have atAsk := good.atPoint
  unfold AtPoint at atAsk
  rw [atPoint] at atAsk
  obtain ⟨empty, isAborted⟩ := atAsk
  have alive : processor.alive = event :: processor.events.map EventEntry.event := by
    simp [EventProcessor.alive, inHand, reachable, isForced, entries, atPoint, empty]
  have isAlive : event ∈ processor.alive := by
    rw [alive]
    exact List.mem_cons_self
  have notDeleted := good.deleted_notMem isAlive
  have known := @known_log _ good (.isDeletable event deletable) isAlive
  have wasAborted := (good.aborted event).mpr (.inl isAborted)
  have aborted : ∀ other, .aborted other ∈ processor.history ↔
      processor.abortState other = .aborted ∨ Point.update = .abort other := by
    intro other
    rw [good.aborted, atPoint, or_iff_left (by nofun), or_iff_left (by nofun)]
  unfold EventProcessor.deleteOrReschedule
  dsimp only
  split_ifs with answer
  · subst answer
    refine good.deletes (.of_eq ?_) (.inr ⟨wasAborted, .inl rfl⟩) (by simp [atPoint])
      (fun _ => nofun) empty
    rw [alive]
    simp [EventProcessor.alive, inHand, reachable, isForced, entries, log, empty]
  · have inserted := insert_of_point (processor.log (.isDeletable event deletable))
      ⟨(processor.log (.isDeletable event deletable)).calculateTime 1, event⟩ (by
        show ∀ kill, processor.point ≠ .killAbort kill
        rw [atPoint]
        exact fun _ => nofun)
    rw [inserted]
    refine ⟨⟨notDeleted, good.orderly⟩, good.once_of_perm ?_ ?_ rfl, known, ?_, empty, good.clock⟩
    · rw [alive]
      have perm := (insertEntry_perm
        ⟨(processor.log (.isDeletable event deletable)).calculateTime 1, event⟩
        processor.events).map EventEntry.event
      simpa [EventProcessor.alive, inHand, reachable, isForced, entries, log, empty] using perm
    · exact fun other => List.count_cons_of_ne (by nofun)
    · intro other
      show .aborted other ∈ Happening.isDeletable _ _ :: processor.history ↔ _
      rw [List.mem_cons, or_iff_right (by nofun)]
      exact aborted other

theorem alive_of_kill {kill : Kill} (atPoint : processor.point = .kill kill ∨
    processor.point = .killAbort kill ∨ processor.point = .killIsDeletable kill) :
    processor.alive = kill.caller.elim [] inExecution ++
      (if kill.force then processor.events else processor.entries).map EventEntry.event := by
  unfold alive inHand reachable isForced
  rcases atPoint with atPoint | atPoint | atPoint
  · rw [atPoint]
  · rw [atPoint]
  · rw [atPoint]

theorem killReturns (good : processor.Good) {kill : Kill} (atPoint : processor.point = .kill kill)
    (none : processor.events = []) :
    { processor with
      passed := []
      events := if kill.force then [] else processor.passed
      point := kill.caller.elim .idle .execute }.Good := by
  have outside : ∀ event, kill.caller.elim .idle .execute ≠ Point.abort event := by
    intro event
    cases kill.caller with
    | none => exact nofun
    | some execution => exact nofun
  refine ⟨good.orderly, good.once_of_perm ?_ (fun _ => rfl) rfl, good.known, ?_, ?_, good.clock⟩
  · cases isCaller : kill.caller with
    | none =>
        simp [alive, inHand, reachable, isForced, entries, atPoint, isCaller, none]
    | some execution =>
        simp [alive, inHand, reachable, isForced, entries, atPoint, isCaller, none]
  · intro event
    rw [good.aborted, atPoint, or_iff_left (by nofun), or_iff_left (outside event)]
  · cases isCaller : kill.caller with
    | none => exact rfl
    | some execution => exact rfl

theorem nextKill (good : processor.Good) {kill : Kill} (atPoint : processor.point = .kill kill) :
    (processor.nextKill kill).Good := by
  unfold EventProcessor.nextKill
  split
  case h_1 none => exact good.killReturns atPoint none
  case h_2 entry rest first =>
      have isAlive : entry.event ∈ processor.alive := events_alive (by simp [first])
      have notAbort : ∀ event, processor.point ≠ .abort event := by
        rw [atPoint]
        exact fun _ => nofun
      split_ifs with running
      · unfold setAborted
        rw [if_pos running]
        refine ⟨⟨⟨good.aborted_notMem running (notAbort _), good.deleted_notMem isAlive⟩,
          good.orderly⟩, good.once_of_perm ?_ ?_ rfl, good.known_log isAlive, ?_,
          ⟨entry, rest, first, Function.update_self _ _ _⟩, good.clock⟩
        · simp [alive, inHand, reachable, isForced, entries, atPoint, log]
        · exact fun event => List.count_cons_of_ne (by nofun)
        · intro event
          show .aborted event ∈ Happening.aborted entry.event :: processor.history ↔
            Function.update processor.abortState entry.event .aborted event = .aborted ∨
              Point.killAbort kill = .abort event
          rw [List.mem_cons, good.aborted, or_iff_left (notAbort event),
            or_iff_left (b := Point.killAbort kill = .abort event) nofun]
          by_cases same : event = entry.event
          · subst same
            simp
          · rw [Function.update_of_ne same, or_iff_right]
            exact fun equal => same (Happening.aborted.inj equal)
      · refine ⟨good.orderly, good.once_of_perm ?_ (fun _ => rfl) rfl, good.known, ?_,
          ⟨entry, rest, first, not_not.mp running⟩, good.clock⟩
        · exact .of_eq ((alive_of_kill (.inr (.inr rfl))).trans (alive_of_kill (.inl atPoint)).symm)
        · intro event
          rw [good.aborted, or_iff_left (notAbort event), or_iff_left (by nofun)]

theorem killAbortReturns (good : processor.Good) {kill : Kill}
    (atPoint : processor.point = .killAbort kill) :
    { processor with point := .killIsDeletable kill }.Good := by
  have atAbort := good.atPoint
  unfold AtPoint at atAbort
  rw [atPoint] at atAbort
  refine ⟨good.orderly, good.once_of_perm ?_ (fun _ => rfl) rfl, good.known, ?_, atAbort,
    good.clock⟩
  · exact .of_eq ((alive_of_kill (.inr (.inr rfl))).trans
      (alive_of_kill (.inr (.inl atPoint))).symm)
  · intro event
    rw [good.aborted, atPoint, or_iff_left (by nofun), or_iff_left (by nofun)]

theorem deleteOrSkip (good : processor.Good) {kill : Kill}
    (atPoint : processor.point = .killIsDeletable kill) (deletable : Bool) :
    (processor.deleteOrSkip kill deletable).Good := by
  have atAsk := good.atPoint
  unfold AtPoint at atAsk
  rw [atPoint] at atAsk
  obtain ⟨entry, rest, first, isAborted⟩ := atAsk
  have isAlive : entry.event ∈ processor.alive := events_alive (by simp [first])
  have notDeleted := good.deleted_notMem isAlive
  have wasAborted := (good.aborted entry.event).mpr (.inl isAborted)
  have aborted : ∀ other, .aborted other ∈ processor.history ↔
      processor.abortState other = .aborted ∨ Point.kill kill = .abort other := by
    intro other
    rw [good.aborted, atPoint, or_iff_left (by nofun), or_iff_left (by nofun)]
  unfold EventProcessor.deleteOrSkip
  rw [first]
  dsimp only
  split_ifs with force answer
  · refine good.deletes (List.Perm.trans (.of_eq ?_) List.perm_middle)
      (.inr ⟨wasAborted, .inr rfl⟩) (by simp [atPoint]) (fun _ => nofun) trivial
    simp [EventProcessor.alive, inHand, reachable, isForced, log, atPoint, first, force]
  · have alive : processor.alive = kill.caller.elim [] inExecution ++
        (processor.passed.map EventEntry.event ++ entry.event :: rest.map EventEntry.event) := by
      simp [EventProcessor.alive, inHand, reachable, isForced, entries, atPoint, first, force]
    refine good.deletes ?_ (.inr ⟨wasAborted, .inl rfl⟩) (by simp [atPoint]) (fun _ => nofun)
      trivial
    rw [alive]
    refine (List.perm_middle.append_left _).trans (List.perm_middle.trans (.of_eq ?_))
    simp [EventProcessor.alive, inHand, reachable, isForced, entries, log, force]
  · refine ⟨⟨notDeleted, good.orderly⟩, good.once_of_perm (.of_eq ?_) ?_ rfl,
      @known_log _ good (.isDeletable entry.event false) isAlive, ?_, trivial, good.clock⟩
    · simp [alive, inHand, reachable, isForced, entries, log, atPoint, first, force]
    · exact fun other => List.count_cons_of_ne (by nofun)
    · intro other
      show .aborted other ∈ Happening.isDeletable _ _ :: processor.history ↔ _
      rw [List.mem_cons, or_iff_right (by nofun)]
      exact aborted other

theorem proceed (good : processor.Good) (deletable : Bool) :
    (processor.proceed deletable).Good := by
  unfold EventProcessor.proceed
  split
  case h_1 => exact good
  case h_2 atPoint => exact good.nextEvent atPoint
  case h_3 atPoint => exact good.executed atPoint
  case h_4 atPoint => exact good.abortReturns atPoint
  case h_5 atPoint => exact good.deleteOrReschedule atPoint deletable
  case h_6 atPoint => exact good.nextKill atPoint
  case h_7 atPoint => exact good.killAbortReturns atPoint
  case h_8 atPoint => exact good.deleteOrSkip atPoint deletable

theorem readd (good : processor.Good) {event e_time : Nat}
    (atPoint : processor.point = .execute ⟨event, false⟩) :
    { processor.insert ⟨e_time, event⟩ with point := .execute ⟨event, true⟩ }.Good := by
  have empty := good.atPoint
  unfold AtPoint at empty
  rw [atPoint] at empty
  have inserted := insert_of_point processor ⟨e_time, event⟩ (by
    rw [atPoint]
    exact fun _ => nofun)
  rw [inserted]
  refine ⟨good.orderly, good.once_of_perm ?_ (fun _ => rfl) rfl, good.known, ?_, empty,
    good.clock⟩
  · have perm := (insertEntry_perm ⟨e_time, event⟩ processor.events).map EventEntry.event
    simpa [alive, inHand, inExecution, reachable, isForced, entries, atPoint, empty] using perm
  · intro other
    rw [good.aborted, atPoint, or_iff_left (by nofun), or_iff_left (by nofun)]

theorem killAllEvents (good : processor.Good) {force : Bool} {caller : Option Execution}
    (atPoint : processor.point = caller.elim .idle .execute) :
    { processor with point := .kill ⟨force, caller⟩ }.Good := by
  have atCall := good.atPoint
  unfold AtPoint at atCall
  cases caller with
  | none =>
      have isIdle : processor.point = .idle := atPoint
      rw [isIdle] at atCall
      have empty : processor.passed = [] := atCall
      refine ⟨good.orderly, good.once_of_perm ?_ (fun _ => rfl) rfl, good.known, ?_, trivial,
        good.clock⟩
      · simp [alive, inHand, reachable, isForced, entries, isIdle, empty]
      · intro event
        rw [good.aborted, isIdle, or_iff_left (by nofun), or_iff_left (by nofun)]
  | some execution =>
      have executes : processor.point = .execute execution := atPoint
      rw [executes] at atCall
      have empty : processor.passed = [] := atCall
      refine ⟨good.orderly, good.once_of_perm ?_ (fun _ => rfl) rfl, good.known, ?_, trivial,
        good.clock⟩
      · simp [alive, inHand, reachable, isForced, entries, executes, empty]
      · intro event
        rw [good.aborted, executes, or_iff_left (by nofun), or_iff_left (by nofun)]

theorem update (good : processor.Good) (isIdle : processor.point = .idle) {p_time : UInt32}
    (careful : processor.Careful (.update p_time)) :
    { processor with
      time := processor.calculateTime p_time.toNat, point := .update }.Good := by
  have empty := good.atPoint
  unfold AtPoint at empty
  rw [isIdle] at empty
  refine ⟨good.orderly, good.once_of_perm ?_ (fun _ => rfl) rfl, good.known, ?_, empty, ?_⟩
  · simp [alive, inHand, reachable, isForced, entries, isIdle]
  · intro event
    rw [good.aborted, isIdle, or_iff_left (by nofun), or_iff_left (by nofun)]
  · have inside : processor.time + p_time.toNat + 1 < 2 ^ 64 := careful
    have same : processor.calculateTime p_time.toNat = processor.time + p_time.toNat :=
      Nat.mod_eq_of_lt (Nat.lt_of_succ_lt inside)
    show processor.calculateTime p_time.toNat + 1 < 2 ^ 64
    rw [same]
    exact inside

/-- One step of the code, or of an event. -/
theorem step (good : processor.Good) {call : ProcessorCall} (careful : processor.Careful call) :
    (processor.step call).Good := by
  unfold EventProcessor.step
  cases call with
  | proceed deletable => exact good.proceed deletable
  | addEvent e_time =>
      dsimp only
      split_ifs with outside
      · exact good.addEvent outside careful
      · exact good
  | scheduleAbort event =>
      dsimp only
      split_ifs with pending
      · exact good.scheduleAbort pending.2.2
      · exact good
  | update p_time =>
      dsimp only
      split
      case h_1 isIdle => exact good.update isIdle careful
      case h_2 => exact good
  | killAllEvents force =>
      dsimp only
      split
      case h_1 isIdle => exact @killAllEvents _ good force none isIdle
      case h_2 execution atPoint => exact @killAllEvents _ good force (some execution) atPoint
      case h_3 => exact good
  | readd e_time =>
      dsimp only
      split
      case h_1 event atPoint =>
          split_ifs
          · exact good.readd atPoint
          · exact good
      case h_2 => exact good

end Steps

theorem endsOnce (good : processor.Good) : processor.EndsOnce where
  orderly := good.orderly
  kept event known := by
    by_contra lost
    rw [not_or, not_or] at lost
    obtain ⟨notDeleted, notEntry, notInHand⟩ := lost
    have once := good.once event
    have notAlive : event ∉ processor.alive := by
      intro alive
      rcases List.mem_append.mp alive with inHand | isEntry
      · exact notInHand inHand
      · obtain ⟨entry, member, rfl⟩ := List.mem_map.mp isEntry
        apply notEntry
        apply List.mem_map_of_mem
        unfold reachable at member
        split_ifs at member
        · exact List.mem_append_right _ member
        · exact member
    rw [List.count_eq_zero_of_not_mem notAlive, List.count_eq_zero_of_not_mem notDeleted,
      if_pos known] at once
    cases once
  unreferenced free entry member := by
    have isReachable : entry ∈ processor.reachable := by
      unfold reachable
      rw [free]
      exact member
    exact good.deleted_notMem (List.mem_append_right _ (List.mem_map_of_mem isReachable))
  untouched _ member := good.deleted_notMem (events_alive member)

end Good

/-! ## The loops end -/

/-- How many entries are due. -/
def dueCount (processor : EventProcessor) : Nat :=
  processor.entries.countP fun entry => entry.time ≤ processor.time

/-- What a kill still has to do, and its caller after it. -/
def killLeft (processor : EventProcessor) (kill : Kill) : Nat :=
  3 * processor.events.length + kill.caller.elim 0 fun _ => 2

/-- What there is to do until the processor is idle, if nothing prolongs its loops. -/
def workLeft (processor : EventProcessor) : Nat :=
  4 * processor.dueCount +
    match processor.point with
    | .idle => 0
    | .update => 1
    | .execute _ => 2
    | .abort _ => 3
    | .isDeletable _ => 2
    | .kill kill => processor.killLeft kill + 1
    | .killAbort kill => processor.killLeft kill
    | .killIsDeletable kill => processor.killLeft kill - 1

namespace Good

variable {processor : EventProcessor}

theorem workLeft_nextEvent (good : processor.Good) (atPoint : processor.point = .update) :
    processor.nextEvent.workLeft < processor.workLeft := by
  have empty := good.atPoint
  unfold AtPoint at empty
  rw [atPoint] at empty
  unfold EventProcessor.nextEvent
  split
  case h_1 => simp [workLeft, dueCount, entries, atPoint]
  case h_2 entry rest first =>
      split_ifs with due
      · dsimp only
        split
        · simp [workLeft, dueCount, entries, log, atPoint, first, empty, due]
          omega
        · simp [workLeft, dueCount, entries, log, atPoint, first, empty, due]
          omega
        · simp [workLeft, dueCount, entries, atPoint, first, empty, due]
          omega
      · simp [workLeft, dueCount, entries, atPoint]

theorem workLeft_deleteOrReschedule (good : processor.Good) {event : Nat}
    (atPoint : processor.point = .isDeletable event) (deletable : Bool) :
    (processor.deleteOrReschedule event deletable).workLeft < processor.workLeft := by
  unfold EventProcessor.deleteOrReschedule
  dsimp only
  split_ifs
  · simp [workLeft, dueCount, entries, log, atPoint]
  · have later : (processor.log (.isDeletable event deletable)).calculateTime 1 =
        processor.time + 1 := Nat.mod_eq_of_lt good.clock
    have inserted := insert_of_point (processor.log (.isDeletable event deletable))
      ⟨(processor.log (.isDeletable event deletable)).calculateTime 1, event⟩ (by
        show ∀ kill, processor.point ≠ .killAbort kill
        rw [atPoint]
        exact fun _ => nofun)
    rw [inserted, later]
    have perm := (insertEntry_perm ⟨processor.time + 1, event⟩ processor.events).countP_eq
      fun entry => decide (entry.time ≤ processor.time)
    rw [List.countP_cons_of_neg (by simp)] at perm
    simp [workLeft, dueCount, entries, log, atPoint, perm]

theorem workLeft_deleteOrSkip (good : processor.Good) {kill : Kill}
    (atPoint : processor.point = .killIsDeletable kill) (deletable : Bool) :
    (processor.deleteOrSkip kill deletable).workLeft < processor.workLeft := by
  have atAsk := good.atPoint
  unfold AtPoint at atAsk
  rw [atPoint] at atAsk
  obtain ⟨entry, rest, first, _⟩ := atAsk
  have before : processor.workLeft = 4 * processor.dueCount + (processor.killLeft kill - 1) := by
    unfold workLeft
    rw [atPoint]
  have after : ∀ next : EventProcessor, next.point = .kill kill → next.events = rest →
      next.dueCount ≤ processor.dueCount → next.workLeft < processor.workLeft := by
    intro next nextPoint nextEvents due
    rw [before]
    unfold workLeft killLeft
    rw [nextPoint, nextEvents, first, List.length_cons]
    dsimp only
    omega
  unfold EventProcessor.deleteOrSkip
  rw [first]
  dsimp only
  split_ifs
  · apply after _ rfl rfl
    unfold dueCount entries
    rw [first]
    exact le_of_eq (congrArg _ (List.append_assoc _ _ _))
  · apply after _ rfl rfl
    unfold dueCount entries
    rw [first]
    exact (List.sublist_cons_self _ _).append_left _ |>.countP_le
  · apply after _ rfl rfl
    unfold dueCount entries
    rw [first]
    exact le_of_eq (congrArg _ (List.append_assoc _ _ _))

theorem workLeft_nextKill (processor : EventProcessor) {kill : Kill}
    (atPoint : processor.point = .kill kill) :
    (processor.nextKill kill).workLeft < processor.workLeft := by
  have before : processor.workLeft = 4 * processor.dueCount + (processor.killLeft kill + 1) := by
    unfold workLeft
    rw [atPoint]
  rw [before]
  unfold EventProcessor.nextKill
  split
  case h_1 none =>
      have due : ∀ point, { processor with
          passed := []
          events := if kill.force then [] else processor.passed
          point := point }.dueCount ≤ processor.dueCount := by
        intro point
        unfold dueCount entries
        rw [none, List.append_nil, List.nil_append]
        dsimp only
        split_ifs
        · exact Nat.zero_le _
        · exact le_rfl
      unfold killLeft
      rw [none]
      cases kill.caller with
      | none => exact Nat.lt_of_le_of_lt (Nat.mul_le_mul_left 4 (due .idle)) (by simp)
      | some execution =>
          have left := due (.execute execution)
          show 4 * _ + 2 < _
          dsimp only [Option.elim, List.length_nil]
          omega
  case h_2 entry rest first =>
      split_ifs
      · unfold setAborted
        split_ifs
        exact Nat.lt_succ_self _
      · show 4 * processor.dueCount + (processor.killLeft kill - 1) < _
        omega

theorem workLeft_proceed (good : processor.Good) (busy : processor.point ≠ .idle)
    (deletable : Bool) : (processor.proceed deletable).workLeft < processor.workLeft := by
  unfold EventProcessor.proceed
  split
  case h_1 atPoint => exact absurd atPoint busy
  case h_2 atPoint => exact good.workLeft_nextEvent atPoint
  case h_3 execution atPoint =>
      unfold EventProcessor.executed
      split_ifs
      · simp [workLeft, dueCount, entries, atPoint]
      · simp [workLeft, dueCount, entries, log, atPoint]
  case h_4 event atPoint =>
      unfold EventProcessor.aborted setAborted
      split_ifs
      · simp [workLeft, dueCount, entries, atPoint]
      · simp [workLeft, dueCount, entries, log, atPoint]
  case h_5 atPoint => exact good.workLeft_deleteOrReschedule atPoint deletable
  case h_6 atPoint => exact workLeft_nextKill processor atPoint
  case h_7 kill atPoint =>
      have atAbort := good.atPoint
      unfold AtPoint at atAbort
      rw [atPoint] at atAbort
      obtain ⟨entry, rest, first, _⟩ := atAbort
      have positive : 0 < processor.killLeft kill := by
        unfold killLeft
        rw [first, List.length_cons]
        omega
      have before : processor.workLeft = 4 * processor.dueCount + processor.killLeft kill := by
        unfold workLeft
        rw [atPoint]
      show 4 * processor.dueCount + (processor.killLeft kill - 1) < _
      omega
  case h_8 atPoint => exact good.workLeft_deleteOrSkip atPoint deletable

/-- An entry which is not due is no work outside the loops of kills. -/
theorem workLeft_insert {entry : EventEntry} (later : processor.time < entry.time)
    (outside : processor.isOutside = true) (noKill : ∀ kill, processor.point ≠ .killAbort kill) :
    (processor.insert entry).workLeft = processor.workLeft := by
  rw [insert_of_point processor entry noKill]
  have perm := (insertEntry_perm entry processor.events).countP_eq
    fun entry => decide (entry.time ≤ processor.time)
  rw [List.countP_cons_of_neg (by simpa using later)] at perm
  have due : { processor with
      events := insertEntry entry processor.events }.dueCount = processor.dueCount := by
    unfold dueCount entries
    rw [List.countP_append, List.countP_append]
    exact congrArg _ perm
  unfold workLeft
  rw [due]
  unfold isOutside at outside
  cases atPoint : processor.point with
  | killAbort kill => exact absurd atPoint (noKill kill)
  | update | isDeletable event | kill kill | killIsDeletable kill => simp [atPoint] at outside
  | _ => rfl

/-- Calls which prolong nothing are no work. -/
theorem workLeft_step (busy : processor.point ≠ .idle) {call : ProcessorCall}
    (calls : ∀ deletable, call ≠ .proceed deletable) (short : ¬processor.Prolongs call) :
    (processor.step call).workLeft ≤ processor.workLeft := by
  unfold EventProcessor.step
  cases call with
  | proceed deletable => exact absurd rfl (calls deletable)
  | addEvent e_time =>
      dsimp only
      split_ifs with outside
      · unfold Prolongs at short
        rw [not_or, not_exists, Nat.not_le] at short
        exact le_of_eq (@workLeft_insert processor ⟨e_time, _⟩ short.1 outside short.2)
      · exact le_rfl
  | scheduleAbort event =>
      dsimp only
      split_ifs
      · unfold EventProcessor.scheduleAbort
        split_ifs
        · exact le_rfl
        · exact le_rfl
      · exact le_rfl
  | update p_time =>
      dsimp only
      split
      case h_1 isIdle => exact absurd isIdle busy
      case h_2 => exact le_rfl
  | killAllEvents force => exact absurd trivial short
  | readd e_time =>
      dsimp only
      split
      case h_1 event atPoint =>
          split_ifs with later
          · have noKill : ∀ kill, processor.point ≠ .killAbort kill := by
              rw [atPoint]
              exact fun _ => nofun
            have outside : processor.isOutside = true := by
              unfold isOutside
              rw [atPoint]
            have same := @workLeft_insert processor ⟨e_time, event⟩ later outside noKill
            rw [insert_of_point processor _ noKill] at same ⊢
            unfold workLeft at same ⊢
            rw [atPoint] at same ⊢
            exact le_of_eq same
          · exact le_rfl
      case h_2 => exact le_rfl

theorem after_good (good : processor.Good) {calls : Nat → ProcessorCall}
    (careful : ∀ count, Careful (processor.after calls count) (calls count)) (count : Nat) :
    (processor.after calls count).Good := by
  induction count with
  | zero => exact good
  | succ count induction => exact induction.step (careful count)

/-- Otherwise the work left would fall for ever. -/
theorem loopsEnd (good : processor.Good) : processor.LoopsEnd := by
  rintro calls careful returns ⟨start, short⟩
  by_contra endless
  rw [not_exists] at endless
  have falls : ∀ count ≥ start,
      (processor.after calls (count + 1)).workLeft ≤ (processor.after calls count).workLeft := by
    intro count late
    have next := good.after_good careful count
    show ((processor.after calls count).step (calls count)).workLeft ≤ _
    by_cases proceeds : ∃ deletable, calls count = .proceed deletable
    · obtain ⟨deletable, proceeds⟩ := proceeds
      rw [proceeds]
      exact (next.workLeft_proceed (endless count) deletable).le
    · rw [not_exists] at proceeds
      exact workLeft_step (endless count) proceeds (short count late)
  have antitone : Antitone fun count => (processor.after calls (start + count)).workLeft :=
    antitone_nat_of_succ_le fun count => falls (start + count) (Nat.le_add_right _ _)
  obtain ⟨settled, constant⟩ := WellFoundedLT.antitone_chain_condition antitone
  obtain ⟨later, isLater, deletable, proceeds⟩ := returns (start + settled)
  have less : (processor.after calls (later + 1)).workLeft <
      (processor.after calls later).workLeft := by
    show ((processor.after calls later).step (calls later)).workLeft < _
    rw [proceeds]
    exact (good.after_good careful later).workLeft_proceed (endless later) deletable
  obtain ⟨more, rfl⟩ := Nat.exists_eq_add_of_le isLater
  have here := constant (settled + more) (Nat.le_add_right _ _)
  have next := constant (settled + (more + 1)) (Nat.le_add_right _ _)
  rw [← Nat.add_assoc] at here next
  rw [Nat.add_assoc (start + settled) more 1] at less
  omega

end Good

/-! ## What is left when a loop has ended -/

/-- `m_events` is sorted by time. -/
def Sorted (processor : EventProcessor) : Prop :=
  processor.entries.Pairwise (·.time ≤ ·.time)

theorem mem_insertEntry {entry other : EventEntry} {events : List EventEntry} :
    other ∈ insertEntry entry events ↔ other = entry ∨ other ∈ events :=
  (insertEntry_perm entry events).mem_iff.trans List.mem_cons

theorem insertEntry_sorted (entry : EventEntry) {events : List EventEntry}
    (sorted : events.Pairwise (·.time ≤ ·.time)) :
    (insertEntry entry events).Pairwise (·.time ≤ ·.time) := by
  induction events with
  | nil => exact List.pairwise_singleton _ _
  | cons first rest induction =>
      obtain ⟨least, ofRest⟩ := List.pairwise_cons.mp sorted
      unfold insertEntry
      split_ifs
      · grind [List.pairwise_cons]
      · grind [List.pairwise_cons, mem_insertEntry]

namespace Sorted

variable {processor : EventProcessor}

/-- Before or behind the iterator, an entry comes where the multimap has its place. -/
theorem insert (sorted : processor.Sorted) (entry : EventEntry)
    (place : processor.passed = [] ∨ ∃ kill current rest,
      processor.point = .killAbort kill ∧ processor.events = current :: rest) :
    (processor.insert entry).Sorted := by
  unfold Sorted entries at *
  have atFront := insertEntry_sorted entry (List.pairwise_append.mp sorted).1
  have behind := insertEntry_sorted entry (List.pairwise_append.mp sorted).2.1
  unfold EventProcessor.insert
  grind [List.pairwise_cons, mem_insertEntry]

/-- The loops take entries away, and put one back for an event which is not deletable. -/
theorem proceed (sorted : processor.Sorted) (good : processor.Good) (deletable : Bool) :
    (processor.proceed deletable).Sorted := by
  have atPoint := good.atPoint
  unfold AtPoint at atPoint
  unfold EventProcessor.proceed
  split
  case h_1 | h_7 => exact sorted
  case h_2 =>
      unfold Sorted entries nextEvent at *
      grind [log, List.pairwise_cons]
  case h_3 =>
      unfold executed
      split_ifs <;> exact sorted
  case h_4 =>
      unfold aborted setAborted
      split_ifs <;> exact sorted
  case h_5 event isPoint =>
      rw [isPoint] at atPoint
      unfold deleteOrReschedule
      dsimp only
      split_ifs
      · exact sorted
      · exact @insert (processor.log _) sorted _ (.inl atPoint.1)
  case h_6 =>
      unfold Sorted entries nextKill setAborted at *
      grind [log]
  case h_8 =>
      unfold Sorted entries deleteOrSkip at *
      grind [log, List.pairwise_cons]

theorem step (sorted : processor.Sorted) (good : processor.Good) (call : ProcessorCall) :
    (processor.step call).Sorted := by
  have atPoint := good.atPoint
  unfold AtPoint at atPoint
  unfold EventProcessor.step
  cases call with
  | proceed deletable => exact sorted.proceed good deletable
  | addEvent e_time =>
      dsimp only
      split_ifs with outside
      · exact @insert _ sorted _ (by grind [isOutside])
      · exact sorted
  | scheduleAbort event =>
      dsimp only
      unfold EventProcessor.scheduleAbort
      split_ifs <;> exact sorted
  | update | killAllEvents =>
      dsimp only
      split <;> exact sorted
  | readd e_time =>
      dsimp only
      split
      case h_1 isPoint =>
          rw [isPoint] at atPoint
          split_ifs
          · exact @insert _ sorted _ (.inl atPoint)
          · exact sorted
      case h_2 => exact sorted

theorem leavesNothing (sorted : processor.Sorted) (good : processor.Good) :
    processor.LeavesNothing where
  due isPoint := by
    have nothing := good.atPoint
    unfold AtPoint at nothing
    rw [isPoint] at nothing
    unfold Sorted entries nextEvent at *
    grind [List.pairwise_cons]
  killed kill _ force := by
    unfold nextKill
    split
    · simp [entries, force]
    · split_ifs <;> simp [isForced, force]

end Sorted

end EventProcessor

/-- Events end once if forced kills have no events added before those which they abort; the loops
end unless events prolong them for ever, updates when nothing is due and forced kills when nothing
is there. -/
theorem events_endOnce (calls : List ProcessorCall)
    (careful : Transition.EveryStep EventProcessor.step EventProcessor.Careful
      EventProcessor.start calls) :
    Transition.Throughout EventProcessor.step EventProcessor.EventsEnd EventProcessor.start
      calls := by
  have invariant : Transition.Throughout EventProcessor.step
      (fun processor => processor.Good ∧ processor.Sorted) EventProcessor.start calls :=
    Transition.throughout_of_invariant
      (fun _ call ⟨good, sorted⟩ careful => ⟨good.step careful, sorted.step good call⟩)
      ⟨EventProcessor.start_good, .nil⟩ careful
  exact invariant.mono fun _ ⟨good, sorted⟩ =>
    ⟨good.endsOnce, good.loopsEnd, sorted.leavesNothing good⟩

/-- An event is executed and adds itself again, another one is killed by it. -/
theorem events_endOnce_killing :
    Transition.Throughout EventProcessor.step EventProcessor.EventsEnd EventProcessor.start
      [.addEvent 0, .addEvent 5, .update 1, .proceed false, .readd 2, .killAllEvents true,
        .proceed false, .addEvent 4, .proceed false] :=
  events_endOnce _ ⟨nofun, nofun, by
      show 0 + (1 : UInt32).toNat + 1 < 2 ^ 64
      decide, trivial, trivial, trivial, trivial,
    fun _ _ _ current first => by
      have isFirst : current = ⟨2, 0⟩ := (Option.some.inj first).symm
      rw [isFirst]
      decide,
    trivial, trivial⟩

/-- `Abort` of an event at 5 adds one at 3, and a forced kill loses it. -/
theorem forcedKill_drops :
    ¬Transition.Throughout EventProcessor.step EventProcessor.EventsEnd EventProcessor.start
      [.addEvent 5, .killAllEvents true, .proceed false, .addEvent 3, .proceed false,
        .proceed false, .proceed false] := by
  intro holds
  have kept := holds.last.1.kept 1 (by decide)
  revert kept
  decide

end RealmServer.Utilities
