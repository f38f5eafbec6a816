import RealmServer.Utilities.TaskQueue

/-!
# Dispatching

An `Update` invokes the asyncs and then the tasks which are due.  It ends, and
does all this in order, unless the callables prevent it: an async that cancels
all asyncs while it is still in the queue itself makes `Dispatch` remove from an
empty queue, and asyncs that keep on adding asyncs never let it come to an end.
-/

namespace RealmServer.Utilities

/-! ## Callables -/

/-- An async may not take itself out of the queue, and may not dispatch it again. -/
def SchedulerCall.IsTame : SchedulerCall → Prop
  | .manipulate .cancelAll => False
  | .context _ (.manipulate .cancelAll) => False
  | .update _ => False
  | _ => True

/-- A task only moves tasks to the future. -/
def Manipulation.IsTame : Manipulation → Prop
  | .delayAll duration => 0 ≤ duration
  | .delayGroup _ duration => 0 ≤ duration
  | .rescheduleAll duration => 0 < duration
  | .rescheduleGroup _ duration => 0 < duration
  | _ => True

/-- A task uses its own context to repeat and to schedule. -/
def ContextCall.IsTame (handle : Option ContextId) : ContextCall → Prop
  | .repeat duration => handle = none ∧ 0 < duration
  | .schedule time _ => handle = none ∧ 0 < time
  | .manipulate manipulation => manipulation.IsTame
  | _ => True

/-- How many asyncs a call adds. -/
def SchedulerCall.asyncs : SchedulerCall → Nat
  | .manipulate .async => 1
  | .context _ (.manipulate .async) => 1
  | _ => 0

namespace Code

variable (code : Code)

/-- How many asyncs are added by some invocations of asyncs, from one of them on. -/
def addedAsyncs (first count : Nat) : Nat :=
  ((List.range count).map fun index =>
    ((code.async (first + index)).map SchedulerCall.asyncs).sum).sum

structure IsTame : Prop where
  async : ∀ count, ∀ call ∈ code.async count, call.IsTame
  task : ∀ count, ∀ call ∈ code.task count, call.2.IsTame call.1
  /-- However many wait, the asyncs which are added fall behind those which are invoked. -/
  ends : ∀ first waiting, ∃ count, waiting + code.addedAsyncs first count ≤ count

theorem addedAsyncs_succ (first count : Nat) : code.addedAsyncs first (count + 1) =
    ((code.async first).map SchedulerCall.asyncs).sum + code.addedAsyncs (first + 1) count := by
  unfold addedAsyncs
  rw [List.range_succ_eq_map, List.map_cons, List.sum_cons, List.map_map]
  congr 2
  apply List.map_congr_left
  intro index _
  show ((code.async (first + (index + 1))).map SchedulerCall.asyncs).sum = _
  rw [Nat.add_right_comm, Nat.add_assoc]

end Code

namespace TaskScheduler

variable {scheduler : TaskScheduler}

/-! ## Calls of asyncs -/

/-- A call that is no `Update`. -/
def apply (scheduler : TaskScheduler) : SchedulerCall → TaskScheduler
  | .schedule time group => scheduler.scheduleAt scheduler.now time group
  | .manipulate manipulation => scheduler.manipulate manipulation
  | .context handle call => scheduler.contextCall handle call
  | .update _ => scheduler

/-- Asyncs were added, and nothing else happened to them. -/
structure Added (count : Nat) (scheduler next : TaskScheduler) : Prop where
  asyncHolder : next.asyncHolder =
    scheduler.asyncHolder ++ List.range' scheduler.asyncs count
  asyncs : next.asyncs = scheduler.asyncs + count
  cancelled : next.cancelled = scheduler.cancelled

theorem Added.of_asyncs {next : TaskScheduler} (asyncs : Asyncs scheduler next) :
    Added 0 scheduler next :=
  ⟨asyncs.asyncHolder.trans (List.append_nil _).symm, asyncs.asyncs, asyncs.cancelled⟩

theorem Added.trans {first second third : TaskScheduler} {left right : Nat}
    (before : Added left first second) (after : Added right second third) :
    Added (left + right) first third := by
  refine ⟨?_, ?_, after.cancelled.trans before.cancelled⟩
  · rw [after.asyncHolder, before.asyncHolder, before.asyncs, List.append_assoc,
      List.range'_append_1]
  · rw [after.asyncs, before.asyncs, Nat.add_assoc]

theorem added_manipulate (good : Good scheduler) {manipulation : Manipulation}
    (notCancelAll : manipulation ≠ .cancelAll) :
    Added (SchedulerCall.manipulate manipulation).asyncs scheduler
      (scheduler.manipulate manipulation) := by
  by_cases isAsync : manipulation = .async
  · subst isAsync
    exact ⟨rfl, rfl, rfl⟩
  · have none : (SchedulerCall.manipulate manipulation).asyncs = 0 := by
      cases manipulation <;> first | rfl | exact absurd rfl isAsync
    rw [none]
    exact .of_asyncs (asyncs_manipulate good isAsync notCancelAll)

theorem added_contextCall (good : Good scheduler) (handle : ContextId) {call : ContextCall}
    (tame : (SchedulerCall.context handle call).IsTame) :
    ∃ count ≤ (SchedulerCall.context handle call).asyncs,
      Added count scheduler (scheduler.contextCall handle call) := by
  unfold contextCall
  split_ifs
  · cases call with
    | «repeat» duration =>
        exact ⟨0, le_refl _, .of_asyncs (asyncs_repeatTask handle duration)⟩
    | schedule time group => exact ⟨0, le_refl _, .of_asyncs ⟨rfl, rfl, rfl⟩⟩
    | setGroup group => exact ⟨0, le_refl _, .of_asyncs ⟨rfl, rfl, rfl⟩⟩
    | clearGroup => exact ⟨0, le_refl _, .of_asyncs ⟨rfl, rfl, rfl⟩⟩
    | manipulate manipulation =>
        have notCancelAll : manipulation ≠ .cancelAll := by
          rintro rfl
          exact tame
        have added := added_manipulate good notCancelAll
        refine ⟨_, ?_, added⟩
        cases manipulation <;> exact le_refl _
  · exact ⟨0, Nat.zero_le _, .of_asyncs (.refl _)⟩

/-- What a tame call of an async does. -/
theorem apply_spec (good : Good scheduler) {call : SchedulerCall} (tame : call.IsTame) :
    Good (scheduler.apply call) ∧ Outer scheduler (scheduler.apply call) ∧
      ∃ count ≤ call.asyncs, Added count scheduler (scheduler.apply call) := by
  cases call with
  | schedule time group =>
      exact ⟨good_scheduleAt good _ time group, ⟨rfl, rfl, rfl, rfl, rfl, rfl, rfl, rfl, rfl⟩,
        0, le_refl _, .of_asyncs ⟨rfl, rfl, rfl⟩⟩
  | manipulate manipulation =>
      have notCancelAll : manipulation ≠ .cancelAll := by
        rintro rfl
        exact tame
      exact ⟨good_manipulate good manipulation, outer_manipulate good manipulation, _, le_refl _,
        added_manipulate good notCancelAll⟩
  | context handle call =>
      exact ⟨good_contextCall good handle call, outer_contextCall good handle call,
        added_contextCall good handle tame⟩
  | update difftime => exact absurd tame id

theorem applyAll_spec (calls : List SchedulerCall) (good : Good scheduler)
    (tame : ∀ call ∈ calls, call.IsTame) :
    Good (calls.foldl apply scheduler) ∧ Outer scheduler (calls.foldl apply scheduler) ∧
      ∃ count ≤ (calls.map SchedulerCall.asyncs).sum,
        Added count scheduler (calls.foldl apply scheduler) := by
  induction calls generalizing scheduler with
  | nil => exact ⟨good, .refl _, 0, le_refl _, .of_asyncs (.refl _)⟩
  | cons first rest induction =>
      obtain ⟨firstGood, firstOuter, added, few, isAdded⟩ :=
        apply_spec good (tame first List.mem_cons_self)
      obtain ⟨lastGood, lastOuter, more, fewMore, isMore⟩ :=
        induction firstGood fun call isCall => tame call (List.mem_cons_of_mem _ isCall)
      refine ⟨lastGood, firstOuter.trans lastOuter, added + more, ?_, isAdded.trans isMore⟩
      rw [List.map_cons, List.sum_cons]
      exact Nat.add_le_add few fewMore

/-- Tame calls do not depend on what an `Update` does. -/
theorem foldlM_perform (nested : TaskScheduler → Nat → Option TaskScheduler)
    (calls : List SchedulerCall) (tame : ∀ call ∈ calls, call.IsTame) :
    calls.foldlM (fun scheduler call => scheduler.perform nested call) scheduler =
      some (calls.foldl apply scheduler) := by
  induction calls generalizing scheduler with
  | nil => rfl
  | cons first rest induction =>
      have performed : scheduler.perform nested first = some (scheduler.apply first) := by
        have isTame := tame first List.mem_cons_self
        cases first with
        | update difftime => exact absurd isTame id
        | _ => rfl
      rw [List.foldlM_cons, performed, List.foldl_cons]
      exact induction fun call isCall => tame call (List.mem_cons_of_mem _ isCall)

/-! ## Calls of tasks -/

/-- While a task is invoked, everything in the queue comes after it. -/
structure Running (endTime : Int) (inserted : Nat) (own : ContextId) (limit : Nat)
    (scheduler : TaskScheduler) : Prop where
  good : Good scheduler
  isContext : own < scheduler.contexts
  reached : endTime ≤ (scheduler.task (scheduler.context own).task).endTime
  due : endTime ≤ scheduler.now
  past : inserted < scheduler.insertions
  above : ∀ id ∈ scheduler.container,
    Earlier endTime inserted (scheduler.task id).endTime (scheduler.task id).inserted
  few : scheduler.container.countP (fun id => (scheduler.task id).endTime = endTime) ≤ limit

section Running

variable {endTime : Int} {inserted limit : Nat} {own : ContextId}

theorem Running.same {next : TaskScheduler}
    (running : Running endTime inserted own limit scheduler) (good : Good next)
    (outer : Outer scheduler next) (task : ∀ id, ∃ group,
      next.task id = { scheduler.task id with group := group })
    (insertions : next.insertions = scheduler.insertions)
    (context : next.context = scheduler.context)
    (sublist : next.container.Sublist scheduler.container) :
    Running endTime inserted own limit next := by
  have sameEnd : ∀ id, (next.task id).endTime = (scheduler.task id).endTime := by
    intro id
    obtain ⟨group, isTask⟩ := task id
    rw [isTask]
  refine ⟨good, ?_, ?_, ?_, ?_, ?_, ?_⟩
  · rw [outer.contexts]
    exact running.isContext
  · rw [context, sameEnd]
    exact running.reached
  · rw [outer.now]
    exact running.due
  · rw [insertions]
    exact running.past
  · intro id isIn
    obtain ⟨group, isTask⟩ := task id
    rw [isTask]
    exact running.above id (sublist.subset isIn)
  · simp only [sameEnd]
    exact (sublist.countP_le).trans running.few

theorem Running.removed {next : TaskScheduler}
    (running : Running endTime inserted own limit scheduler) (removed : Removed scheduler next) :
    Running endTime inserted own limit next :=
  running.same removed.good removed.outer
    (fun id => ⟨(scheduler.task id).group, by rw [removed.task]⟩) removed.insertions
    removed.context removed.sublist

/-- Tasks are moved, but not before the one which is invoked. -/
theorem Running.modified {next : TaskScheduler} {filter : Task → Bool} {change : Task → Task}
    (running : Running endTime inserted own limit scheduler)
    (modified : Modified filter change scheduler next)
    (notBefore : ∀ task : Task, endTime ≤ task.endTime → endTime ≤ (change task).endTime)
    (notBack : ∀ task : Task, endTime ≤ task.endTime → (change task).endTime = endTime →
      task.endTime = endTime) :
    Running endTime inserted own limit next := by
  refine ⟨modified.good, ?_, ?_, ?_, running.past.trans_le modified.insertions, ?_, ?_⟩
  · rw [modified.outer.contexts]
    exact running.isContext
  · rw [modified.context]
    by_cases isIn : (scheduler.context own).task ∈ scheduler.cache filter
    · obtain ⟨stamp, -, isTask⟩ := modified.changed _ isIn
      rw [isTask]
      exact notBefore _ running.reached
    · rw [modified.other _ isIn]
      exact running.reached
  · rw [modified.outer.now]
    exact running.due
  · intro id isIn
    have wasIn : id ∈ scheduler.container := modified.perm.mem_iff.mp isIn
    by_cases isChanged : id ∈ scheduler.cache filter
    · obtain ⟨stamp, recent, isTask⟩ := modified.changed id isChanged
      rw [isTask]
      have lower := notBefore _ (running.above id wasIn).le
      have newer : inserted < stamp := running.past.trans_le recent
      rcases lower.lt_or_eq with later | same
      · exact .inl later
      · exact .inr ⟨same, newer⟩
    · rw [modified.other id isChanged]
      exact running.above id wasIn
  · rw [modified.perm.countP_eq]
    refine (List.countP_mono_left ?_).trans running.few
    intro id wasIn isEnd
    rw [decide_eq_true_eq] at isEnd ⊢
    by_cases isChanged : id ∈ scheduler.cache filter
    · obtain ⟨stamp, -, isTask⟩ := modified.changed id isChanged
      rw [isTask] at isEnd
      exact notBack _ (running.above id wasIn).le isEnd
    · rw [modified.other id isChanged] at isEnd
      exact isEnd

theorem Running.manipulate (running : Running endTime inserted own limit scheduler)
    {manipulation : Manipulation} (tame : manipulation.IsTame) :
    Running endTime inserted own limit (scheduler.manipulate manipulation) := by
  have good := good_manipulate running.good manipulation
  have outer := outer_manipulate running.good manipulation
  have due := running.due
  have delays : ∀ {duration : Int}, 0 ≤ duration → ∀ {next filter},
      Modified filter (fun task =>
        { task with endTime := task.endTime + duration, regular := false }) scheduler next →
        Running endTime inserted own limit next := by
    intro duration forward next filter modified
    exact running.modified modified (fun _ lower => le_add_of_le_of_nonneg lower forward)
      fun task lower same => le_antisymm (by
        have isSum : task.endTime + duration = endTime := same
        omega) lower
  have reschedules : ∀ {duration : Int}, 0 < duration → ∀ {next filter},
      Modified filter (fun task =>
        { task with endTime := scheduler.now + duration, regular := false }) scheduler next →
        Running endTime inserted own limit next := by
    intro duration forward next filter modified
    refine running.modified modified (fun _ _ => ?_) fun task _ same => ?_
    · show endTime ≤ scheduler.now + duration
      omega
    · have isSum : scheduler.now + duration = endTime := same
      omega
  cases manipulation with
  | async =>
      exact running.same good outer (fun id => ⟨_, rfl⟩) rfl rfl (.refl _)
  | cancelAll =>
      exact running.same good outer (fun id => ⟨_, rfl⟩) rfl rfl (List.nil_sublist _)
  | cancelGroup group => exact running.removed (removed_cancelGroup running.good group)
  | cancelGroupsOf groups => exact running.removed (removed_cancelGroupsOf running.good groups)
  | delayAll duration => exact delays tame (running.good.modified (retimes_delay duration))
  | delayGroup group duration =>
      exact delays tame (running.good.modified (retimes_delay duration))
  | rescheduleAll duration =>
      exact reschedules tame (running.good.modified (retimes_reschedule _))
  | rescheduleGroup group duration =>
      exact reschedules tame (running.good.modified (retimes_reschedule _))

/-- A task is pushed that comes later than the one which is invoked. -/
theorem Running.push {id : TaskId} (running : Running endTime inserted own limit scheduler)
    (good : Good (scheduler.push id)) (later : endTime < (scheduler.task id).endTime) :
    Running endTime inserted own limit (scheduler.push id) := by
  refine ⟨good, running.isContext, ?_, running.due, running.past.trans (Nat.lt_succ_self _), ?_, ?_⟩
  · rw [push_endTime]
    exact running.reached
  · intro other isIn
    by_cases isId : other = id
    · rw [isId, push_endTime]
      exact .inl later
    · rw [push_task_of_ne isId]
      exact running.above other ((mem_push.mp isIn).resolve_left isId)
  · simp only [push_endTime]
    rw [perm_push.countP_eq, List.countP_cons_of_neg]
    · exact running.few
    · simpa using later.ne'

/-- The queue stays as it is. -/
theorem Running.still {next : TaskScheduler}
    (running : Running endTime inserted own limit scheduler) (good : Good next)
    (outer : Outer scheduler next) (container : next.container = scheduler.container)
    (insertions : next.insertions = scheduler.insertions)
    (task : ∀ id ∈ scheduler.container, next.task id = scheduler.task id)
    (reached : endTime ≤ (next.task (next.context own).task).endTime) :
    Running endTime inserted own limit next := by
  refine ⟨good, ?_, reached, ?_, ?_, ?_, ?_⟩
  · rw [outer.contexts]
    exact running.isContext
  · rw [outer.now]
    exact running.due
  · rw [insertions]
    exact running.past
  · rw [container]
    intro id isIn
    rw [task id isIn]
    exact running.above id isIn
  · rw [container]
    refine (List.countP_mono_left ?_).trans running.few
    intro id isIn isEnd
    rw [task id isIn] at isEnd
    exact isEnd

theorem Running.create (running : Running endTime inserted own limit scheduler) {task : Task}
    (once : task.runs ≤ task.repeats + 1) :
    Running endTime inserted own limit { scheduler with
      task := Function.update scheduler.task scheduler.tasks task
      tasks := scheduler.tasks + 1 } := by
  refine running.still (running.good.create once)
    ⟨rfl, rfl, rfl, rfl, rfl, rfl, rfl, rfl, rfl⟩ rfl rfl ?_ ?_
  · exact fun id isIn => Function.update_of_ne (running.good.fresh id isIn).ne _ _
  · dsimp only
    rw [Function.update_of_ne (running.good.owned own running.isContext).ne]
    exact running.reached

theorem Running.scheduleAt (running : Running endTime inserted own limit scheduler)
    {timePoint time : Int} (group : Option Group) (later : endTime < timePoint + time) :
    Running endTime inserted own limit (scheduler.scheduleAt timePoint time group) := by
  have good := good_scheduleAt running.good timePoint time group
  refine (running.create (Nat.zero_le _)).push good ?_
  dsimp only
  rw [Function.update_self]
  exact later

theorem Running.repeatTask (running : Running endTime inserted own limit scheduler)
    {duration : Int} (forward : 0 < duration) :
    Running endTime inserted own limit (scheduler.repeatTask own duration) := by
  have good := good_repeatTask running.good running.isContext duration
  cases unconsumed : (scheduler.context own).consumed with
  | true =>
      rw [repeatTask_of_consumed unconsumed]
      exact running
  | false =>
      have isOut := running.good.out own running.isContext unconsumed
      have held := running.good.held own running.isContext unconsumed
      have later : endTime < (scheduler.task (scheduler.context own).task).endTime + duration :=
        lt_add_of_le_of_pos running.reached forward
      rw [repeatTask_of_unconsumed unconsumed] at good ⊢
      refine Running.push (running.still (good_consume running.good running.isContext unconsumed
        (held.runs.le.trans (Nat.le_succ _))) ⟨rfl, rfl, rfl, rfl, rfl, rfl, rfl, rfl, rfl⟩
        rfl rfl ?_ ?_) good ?_
      · intro id isIn
        refine Function.update_of_ne ?_ _ _
        rintro rfl
        exact isOut isIn
      · dsimp only
        rw [Function.update_self]
        dsimp only
        rw [Function.update_self]
        exact later.le
      · dsimp only
        rw [Function.update_self]
        exact later

theorem Running.assignGroup (running : Running endTime inserted own limit scheduler)
    (id : TaskId) (group : Option Group) :
    Running endTime inserted own limit (scheduler.assignGroup id group) := by
  refine running.same (good_assignGroup running.good id group)
    ⟨rfl, rfl, rfl, rfl, rfl, rfl, rfl, rfl, rfl⟩ ?_ rfl rfl (.refl _)
  intro other
  by_cases isId : other = id
  · refine ⟨group, ?_⟩
    rw [isId]
    exact Function.update_self _ _ _
  · exact ⟨(scheduler.task other).group, Function.update_of_ne isId _ _⟩

theorem Running.contextCall (running : Running endTime inserted own limit scheduler)
    {handle : Option ContextId} {call : ContextCall} (tame : call.IsTame handle) :
    Running endTime inserted own limit (scheduler.contextCall (handle.getD own) call) := by
  unfold TaskScheduler.contextCall
  split_ifs
  · cases call with
    | «repeat» duration =>
        obtain ⟨rfl, forward⟩ := tame
        exact running.repeatTask forward
    | schedule time group =>
        obtain ⟨rfl, forward⟩ := tame
        exact running.scheduleAt group (lt_add_of_le_of_pos running.reached forward)
    | setGroup group => exact running.assignGroup _ _
    | clearGroup => exact running.assignGroup _ _
    | manipulate manipulation => exact running.manipulate tame
  · exact running

theorem Running.invoke (running : Running endTime inserted own limit scheduler)
    (calls : List (Option ContextId × ContextCall))
    (tame : ∀ call ∈ calls, call.2.IsTame call.1) :
    Running endTime inserted own limit (scheduler.invoke own calls) := by
  unfold TaskScheduler.invoke
  induction calls generalizing scheduler with
  | nil => exact running
  | cons first rest induction =>
      exact induction (running.contextCall (tame first List.mem_cons_self))
        fun call isCall => tame call (List.mem_cons_of_mem _ isCall)

end Running

/-! ## The loop over the tasks -/

theorem Good.popTask (good : Good scheduler) {first : TaskId} {rest : List TaskId}
    (isContainer : scheduler.container = first :: rest)
    (due : (scheduler.task first).endTime ≤ scheduler.now) :
    Good (scheduler.popTask first) := by
  have isFirst : first ∈ scheduler.container := isContainer ▸ List.mem_cons_self
  have isIn : ∀ {id}, id ∈ scheduler.container.tail → id ∈ scheduler.container ∧ id ≠ first := by
    intro id isRest
    have nodup := good.nodup
    rw [isContainer, List.tail_cons] at isRest
    rw [isContainer] at nodup ⊢
    refine ⟨List.mem_cons_of_mem _ isRest, ?_⟩
    rintro rfl
    exact (List.nodup_cons.mp nodup).1 isRest
  have queued := good.queued first isFirst
  have notOld : ∀ handle < scheduler.contexts, (scheduler.context handle).consumed = false →
      (scheduler.context handle).task ≠ first := by
    rintro handle isHandle unconsumed rfl
    exact good.out handle isHandle unconsumed isFirst
  have sameContext : ∀ handle < scheduler.contexts,
      Function.update scheduler.context scheduler.contexts ⟨first, false⟩ handle =
        scheduler.context handle :=
    fun handle isHandle => Function.update_of_ne isHandle.ne _ _
  have split : ∀ {handle}, handle < scheduler.contexts + 1 →
      handle < scheduler.contexts ∨ handle = scheduler.contexts :=
    fun isHandle => Nat.lt_succ_iff_lt_or_eq.mp isHandle
  constructor
  · exact fun id isRest => good.fresh id (isIn isRest).1
  · exact good.nodup.sublist (List.tail_sublist _)
  · intro id isRest
    show (Function.update scheduler.task first _ id).inserted < _
    rw [Function.update_of_ne (isIn isRest).2]
    exact good.stamped id (isIn isRest).1
  · refine (good.sorted.sublist (List.tail_sublist _)).imp_of_mem ?_
    intro left right isLeft isRight before
    show (Function.update scheduler.task first _ left).Before
      (Function.update scheduler.task first _ right)
    rw [Function.update_of_ne (isIn isLeft).2, Function.update_of_ne (isIn isRight).2]
    exact before
  · intro id isRest
    show (Function.update scheduler.task first _ id).Queued _
    rw [Function.update_of_ne (isIn isRest).2]
    exact good.queued id (isIn isRest).1
  · intro id isTask
    show (Function.update scheduler.task first _ id).runs ≤
      (Function.update scheduler.task first _ id).repeats + 1
    by_cases isFirst : id = first
    · rw [isFirst, Function.update_self]
      exact Nat.succ_le_succ queued.runs.le
    · rw [Function.update_of_ne isFirst]
      exact good.once id isTask
  · intro handle isHandle
    show (Function.update scheduler.context scheduler.contexts ⟨first, false⟩ handle).task < _
    rcases split isHandle with isOld | rfl
    · rw [sameContext handle isOld]
      exact good.owned handle isOld
    · rw [Function.update_self]
      exact good.fresh first isFirst
  · intro handle isHandle unconsumed isRest
    change (Function.update scheduler.context scheduler.contexts ⟨first, false⟩ handle).consumed =
      false at unconsumed
    change (Function.update scheduler.context scheduler.contexts ⟨first, false⟩ handle).task ∈
      scheduler.container.tail at isRest
    rcases split isHandle with isOld | rfl
    · rw [sameContext handle isOld] at unconsumed isRest
      exact good.out handle isOld unconsumed (isIn isRest).1
    · rw [Function.update_self] at isRest
      exact (isIn isRest).2 rfl
  · intro handle isHandle unconsumed
    change (Function.update scheduler.context scheduler.contexts ⟨first, false⟩ handle).consumed =
      false at unconsumed
    show (Function.update scheduler.task first _
      (Function.update scheduler.context scheduler.contexts ⟨first, false⟩ handle).task).Held
        scheduler.now
    rcases split isHandle with isOld | rfl
    · rw [sameContext handle isOld] at unconsumed ⊢
      rw [Function.update_of_ne (notOld handle isOld unconsumed)]
      exact good.held handle isOld unconsumed
    · rw [Function.update_self]
      dsimp only
      rw [Function.update_self]
      refine ⟨congrArg Nat.succ queued.runs, due, fun regular => ?_⟩
      have isEnd := queued.endTime regular
      push_cast
      exact isEnd
  · intro left isLeft right isRight leftOpen rightOpen same
    change (Function.update scheduler.context scheduler.contexts ⟨first, false⟩ left).consumed =
      false at leftOpen
    change (Function.update scheduler.context scheduler.contexts ⟨first, false⟩ right).consumed =
      false at rightOpen
    change (Function.update scheduler.context scheduler.contexts ⟨first, false⟩ left).task =
      (Function.update scheduler.context scheduler.contexts ⟨first, false⟩ right).task at same
    rcases split isLeft with leftOld | rfl <;> rcases split isRight with rightOld | rfl
    · rw [sameContext left leftOld] at leftOpen same
      rw [sameContext right rightOld] at rightOpen same
      exact good.single left leftOld right rightOld leftOpen rightOpen same
    · rw [sameContext left leftOld, Function.update_self] at same
      rw [sameContext left leftOld] at leftOpen
      exact absurd same (notOld left leftOld leftOpen)
    · rw [sameContext right rightOld, Function.update_self] at same
      rw [sameContext right rightOld] at rightOpen
      exact absurd same.symm (notOld right rightOld rightOpen)
    · rfl

/-- A task is invoked that is the first one of the queue. -/
theorem Good.running (good : Good scheduler) {first : TaskId} {rest : List TaskId}
    (isContainer : scheduler.container = first :: rest)
    (due : (scheduler.task first).endTime ≤ scheduler.now) :
    Running (scheduler.task first).endTime (scheduler.task first).inserted scheduler.contexts
      (rest.countP fun id => (scheduler.task id).endTime = (scheduler.task first).endTime)
      (scheduler.popTask first) := by
  have isFirst : first ∈ scheduler.container := isContainer ▸ List.mem_cons_self
  have nodup := good.nodup
  have sorted := good.sorted
  rw [isContainer] at nodup sorted
  have differs : ∀ {id}, id ∈ rest → id ≠ first := by
    rintro id isRest rfl
    exact (List.nodup_cons.mp nodup).1 isRest
  have isRest : (scheduler.popTask first).container = rest := by
    show scheduler.container.tail = rest
    rw [isContainer, List.tail_cons]
  have same : ∀ {id}, id ∈ rest → (scheduler.popTask first).task id = scheduler.task id :=
    fun isIn => Function.update_of_ne (differs isIn) _ _
  refine ⟨good.popTask isContainer due, Nat.lt_succ_self _, ?_, due,
    good.stamped first isFirst, ?_, ?_⟩
  · show _ ≤ (Function.update scheduler.task first _
      (Function.update scheduler.context scheduler.contexts ⟨first, false⟩
        scheduler.contexts).task).endTime
    rw [Function.update_self]
    dsimp only
    rw [Function.update_self]
  · rw [isRest]
    intro id isIn
    rw [same isIn]
    exact (List.pairwise_cons.mp sorted).1 id isIn
  · rw [isRest]
    refine List.countP_mono_left ?_
    intro id isIn isEnd
    rw [same isIn] at isEnd
    exact isEnd

/-- The asyncs that were given before the `Update` do not wait any more. -/
structure Recent (scheduler : TaskScheduler) : Prop where
  before : scheduler.asyncsBefore ≤ scheduler.asyncs
  waiting : ∀ id ∈ scheduler.asyncHolder, scheduler.asyncsBefore ≤ id

theorem Recent.of_asyncs {next : TaskScheduler} (recent : Recent scheduler)
    (outer : Outer scheduler next) (asyncs : Asyncs scheduler next) : Recent next := by
  refine ⟨?_, ?_⟩
  · rw [outer.asyncsBefore, asyncs.asyncs]
    exact recent.before
  · rw [outer.asyncsBefore, asyncs.asyncHolder]
    exact recent.waiting

theorem Recent.contextCall (recent : Recent scheduler) (good : Good scheduler)
    (handle : ContextId) (call : ContextCall) : Recent (scheduler.contextCall handle call) := by
  unfold TaskScheduler.contextCall
  split_ifs
  · cases call with
    | «repeat» duration =>
        exact recent.of_asyncs (outer_repeatTask handle duration)
          (asyncs_repeatTask handle duration)
    | schedule time group => exact ⟨recent.before, recent.waiting⟩
    | setGroup group => exact ⟨recent.before, recent.waiting⟩
    | clearGroup => exact ⟨recent.before, recent.waiting⟩
    | manipulate manipulation =>
        by_cases isAsync : manipulation = .async
        · subst isAsync
          refine ⟨recent.before.trans (Nat.le_succ _), ?_⟩
          intro id isIn
          rcases List.mem_append.mp isIn with isOld | isNew
          · exact recent.waiting id isOld
          · rw [List.mem_singleton.mp isNew]
            exact recent.before
        · by_cases isCancel : manipulation = .cancelAll
          · subst isCancel
            exact ⟨recent.before, fun id isIn => absurd isIn List.not_mem_nil⟩
          · exact recent.of_asyncs (outer_manipulate good _)
              (asyncs_manipulate good isAsync isCancel)
  · exact recent

/-- The invocations of an `Update` were in order and not too early. -/
structure Logged (scheduler : TaskScheduler) : Prop where
  ordered : scheduler.runs.Pairwise fun later earlier =>
    Earlier earlier.endTime earlier.inserted later.endTime later.inserted
  due : ∀ run ∈ scheduler.runs, run.endTime ≤ run.now

/-- What holds between two calls. -/
structure Idle (scheduler : TaskScheduler) : Prop where
  good : Good scheduler
  accounted : Accounted scheduler scheduler.asyncHolder
  logged : Logged scheduler
  safe : scheduler.removedFromEmpty = false

/-- What holds between two tasks. -/
structure BetweenTasks (scheduler : TaskScheduler) : Prop where
  idle : Idle scheduler
  recent : Recent scheduler
  before : ∀ run ∈ scheduler.runs, ∀ id ∈ scheduler.container,
    Earlier run.endTime run.inserted (scheduler.task id).endTime (scheduler.task id).inserted
  unfinished : scheduler.finished = false

theorem invoke_spec (own : ContextId) (calls : List (Option ContextId × ContextCall))
    (good : Good scheduler) :
    Outer scheduler (scheduler.invoke own calls) ∧
      (Recent scheduler → Recent (scheduler.invoke own calls)) ∧
      (Accounted scheduler scheduler.asyncHolder →
        Accounted (scheduler.invoke own calls) (scheduler.invoke own calls).asyncHolder) := by
  unfold invoke
  induction calls generalizing scheduler with
  | nil => exact ⟨.refl _, id, id⟩
  | cons first rest induction =>
      obtain ⟨outer, recent, accounted⟩ :=
        induction (good_contextCall good (first.1.getD own) first.2)
      exact ⟨(outer_contextCall good _ _).trans outer,
        fun before => recent (before.contextCall good _ _),
        fun before => accounted (accounted_contextCall good _ _ before)⟩

theorem BetweenTasks.invoke (between : BetweenTasks scheduler) {first : TaskId}
    {rest : List TaskId} (isContainer : scheduler.container = first :: rest)
    (due : (scheduler.task first).endTime ≤ scheduler.now)
    {calls : List (Option ContextId × ContextCall)}
    (tame : ∀ call ∈ calls, call.2.IsTame call.1) :
    BetweenTasks ((scheduler.popTask first).invoke scheduler.contexts calls) ∧
      Running (scheduler.task first).endTime (scheduler.task first).inserted scheduler.contexts
        (rest.countP fun id => (scheduler.task id).endTime = (scheduler.task first).endTime)
        ((scheduler.popTask first).invoke scheduler.contexts calls) := by
  have isFirst : first ∈ scheduler.container := isContainer ▸ List.mem_cons_self
  have good := between.idle.good
  have popped := good.popTask isContainer due
  have running := (good.running isContainer due).invoke calls tame
  obtain ⟨outer, recent, accounted⟩ := invoke_spec scheduler.contexts calls popped
  have isRuns : (scheduler.popTask first).runs =
      ⟨(scheduler.task first).endTime, (scheduler.task first).inserted, scheduler.now⟩ ::
        scheduler.runs := rfl
  have logged := between.idle.logged
  refine ⟨⟨⟨running.good, accounted between.idle.accounted, ⟨?_, ?_⟩, ?_⟩,
    recent ⟨between.recent.before, between.recent.waiting⟩, ?_, ?_⟩, running⟩
  · rw [outer.runs, isRuns]
    exact List.pairwise_cons.mpr
      ⟨fun run isRun => between.before run isRun first isFirst, logged.ordered⟩
  · rw [outer.runs, isRuns]
    intro run isRun
    rcases List.mem_cons.mp isRun with rfl | isOld
    · exact due
    · exact logged.due run isOld
  · rw [outer.removedFromEmpty]
    exact between.idle.safe
  · rw [outer.runs, isRuns]
    intro run isRun id isIn
    rcases List.mem_cons.mp isRun with rfl | isOld
    · exact running.above id isIn
    · exact (between.before run isOld first isFirst).trans (running.above id isIn)
  · rw [outer.finished]
    exact between.unfinished

/-- Nothing is due after an `Update` that came to its end. -/
def Settled (scheduler : TaskScheduler) : Prop :=
  scheduler.finished = true →
    (∀ id ∈ scheduler.container, scheduler.now < (scheduler.task id).endTime) ∧
      ∀ id ∈ scheduler.asyncHolder, scheduler.asyncsBefore ≤ id

/-- The `Update` came to its end, or the validator has refused since. -/
def Stopped (code : Code) (questions : Nat) (last : TaskScheduler) : Prop :=
  last.finished = true ∨
    ∃ question ≥ questions, question < last.questions ∧ code.predicate question = false

theorem stopped_of_refused {code : Code} {questions : Nat} (same : scheduler.questions = questions)
    (refused : ¬code.predicate scheduler.questions = true) :
    Stopped code questions scheduler.ask :=
  .inr ⟨scheduler.questions, same.ge, Nat.lt_succ_self _, Bool.not_eq_true _ ▸ refused⟩

theorem Stopped.of_ask {code : Code} {questions : Nat} {last : TaskScheduler}
    (stopped : Stopped code scheduler.ask.questions last)
    (same : scheduler.questions = questions) : Stopped code questions last :=
  stopped.imp_right fun ⟨question, later, before⟩ =>
    ⟨question, same ▸ (Nat.le_succ _).trans later, before⟩

theorem settled_of_unfinished (unfinished : scheduler.finished = false) : Settled scheduler :=
  fun finished => absurd finished (Bool.eq_false_iff.mp unfinished)

theorem Good.ask (good : Good scheduler) : Good scheduler.ask := { good with }

theorem Idle.ask (idle : Idle scheduler) : Idle scheduler.ask :=
  ⟨idle.good.ask, idle.accounted, ⟨idle.logged.ordered, idle.logged.due⟩, idle.safe⟩

theorem BetweenTasks.ask (between : BetweenTasks scheduler) : BetweenTasks scheduler.ask :=
  ⟨between.idle.ask, ⟨between.recent.before, between.recent.waiting⟩, between.before,
    between.unfinished⟩

/-- The loop stops because nothing is due. -/
theorem BetweenTasks.finish (between : BetweenTasks scheduler)
    (later : ∀ id ∈ scheduler.container, scheduler.now < (scheduler.task id).endTime) :
    Idle scheduler.finish ∧ Settled scheduler.finish :=
  ⟨⟨{ between.idle.good with }, between.idle.accounted,
    ⟨between.idle.logged.ordered, between.idle.logged.due⟩, between.idle.safe⟩,
    fun _ => ⟨later, between.recent.waiting⟩⟩

theorem Good.later_of_first (good : Good scheduler) {first : TaskId} {rest : List TaskId}
    (isContainer : scheduler.container = first :: rest)
    (later : scheduler.now < (scheduler.task first).endTime) :
    ∀ id ∈ scheduler.container, scheduler.now < (scheduler.task id).endTime := by
  have sorted := good.sorted
  rw [isContainer] at sorted ⊢
  intro id isIn
  rcases List.mem_cons.mp isIn with rfl | isRest
  · exact later
  · exact later.trans_le ((List.pairwise_cons.mp sorted).1 id isRest).le

section Loops

variable {code : Code}

/-- What the loop over the tasks leaves behind. -/
theorem dispatch_tasks_sound (tame : code.IsTame) {fuel : Nat} {last : TaskScheduler}
    (between : BetweenTasks scheduler)
    (ends : dispatch code fuel .tasks scheduler = some last) :
    Idle last ∧ Settled last ∧ Stopped code scheduler.questions last := by
  induction fuel generalizing scheduler with
  | zero => exact absurd ends (by simp [dispatch])
  | succ fuel induction =>
      unfold dispatch at ends
      split at ends
      · rename_i isEmpty
        obtain rfl := Option.some.inj ends
        obtain ⟨idle, settled⟩ := between.finish (by
          rw [isEmpty]
          exact fun id isIn => absurd isIn List.not_mem_nil)
        exact ⟨idle, settled, .inl rfl⟩
      · rename_i first rest isContainer
        split_ifs at ends with later
        · obtain rfl := Option.some.inj ends
          obtain ⟨idle, settled⟩ :=
            between.finish (between.idle.good.later_of_first isContainer later)
          exact ⟨idle, settled, .inl rfl⟩
        · obtain ⟨next, -⟩ :=
            between.invoke isContainer (not_lt.mp later) (tame.task scheduler.taskRuns)
          have same := (invoke_spec scheduler.contexts (code.task scheduler.taskRuns)
            (between.idle.good.popTask isContainer (not_lt.mp later))).1.questions
          dsimp only at ends
          split_ifs at ends with valid
          · obtain ⟨idle, settled, stopped⟩ := induction next.ask ends
            exact ⟨idle, settled, stopped.of_ask same⟩
          · obtain rfl := Option.some.inj ends
            exact ⟨next.ask.idle, settled_of_unfinished next.ask.unfinished,
              stopped_of_refused same valid⟩

theorem dispatch_tasks_of_stopped
    (stopped : ∀ first rest, scheduler.container = first :: rest →
      scheduler.now < (scheduler.task first).endTime) :
    dispatch code 1 .tasks scheduler = some scheduler.finish := by
  unfold dispatch
  split
  · rfl
  · rename_i first rest isContainer
    rw [if_pos (stopped first rest isContainer)]

theorem dispatch_tasks_of_due {fuel : Nat} {first : TaskId} {rest : List TaskId}
    (isContainer : scheduler.container = first :: rest)
    (due : (scheduler.task first).endTime ≤ scheduler.now) :
    dispatch code (fuel + 1) .tasks scheduler =
      if code.predicate ((scheduler.popTask first).invoke scheduler.contexts
          (code.task scheduler.taskRuns)).questions then
        dispatch code fuel .tasks ((scheduler.popTask first).invoke scheduler.contexts
          (code.task scheduler.taskRuns)).ask
      else some ((scheduler.popTask first).invoke scheduler.contexts
          (code.task scheduler.taskRuns)).ask := by
  rw [dispatch, isContainer]
  exact if_neg (not_lt.mpr due)

/--
The loop over the tasks ends: the ends of the tasks in the queue only become
larger, and after each invocation one task fewer has the least end.
-/
theorem dispatch_tasks_ends (tame : code.IsTame) (gap : Nat) :
    ∀ (count : Nat) {scheduler : TaskScheduler}, BetweenTasks scheduler →
      (∀ id ∈ scheduler.container, scheduler.now - gap ≤ (scheduler.task id).endTime) →
      scheduler.container.countP (fun id => (scheduler.task id).endTime = scheduler.now - gap) ≤
        count →
      ∃ fuel last, dispatch code fuel .tasks scheduler = some last := by
  induction gap using Nat.strong_induction_on with
  | _ gap narrower =>
      -- either the loop ends without a task at the least end, or such a task is the first one
      have cases : ∀ {scheduler : TaskScheduler}, BetweenTasks scheduler →
          (∀ id ∈ scheduler.container, scheduler.now - gap ≤ (scheduler.task id).endTime) →
          (∃ fuel last, dispatch code fuel .tasks scheduler = some last) ∨
            ∃ first rest, scheduler.container = first :: rest ∧
              (scheduler.task first).endTime = scheduler.now - gap := by
        intro scheduler between least
        have sorted := between.idle.good.sorted
        cases isContainer : scheduler.container with
        | nil =>
            refine .inl ⟨1, _, dispatch_tasks_of_stopped ?_⟩
            intro first rest isCons
            exact absurd (isContainer.symm.trans isCons) (List.cons_ne_nil _ _).symm
        | cons first rest =>
            rw [isContainer] at sorted
            have lower := least first (isContainer ▸ List.mem_cons_self)
            by_cases later : scheduler.now < (scheduler.task first).endTime
            · refine .inl ⟨1, _, dispatch_tasks_of_stopped ?_⟩
              intro other others isCons
              obtain ⟨rfl, -⟩ := List.cons.inj (isContainer.symm.trans isCons)
              exact later
            · by_cases isLeast : (scheduler.task first).endTime = scheduler.now - gap
              · exact .inr ⟨first, rest, rfl, isLeast⟩
              · refine .inl (narrower (gap - 1) (by omega) _ between ?_ (le_refl _))
                rw [isContainer]
                intro id isIn
                have fromFirst : (scheduler.task first).endTime ≤ (scheduler.task id).endTime := by
                  rcases List.mem_cons.mp isIn with rfl | isRest
                  · exact le_refl _
                  · exact ((List.pairwise_cons.mp sorted).1 id isRest).le
                omega
      intro count
      induction count with
      | zero =>
          intro scheduler between least few
          rcases cases between least with ends | ⟨first, rest, isContainer, isLeast⟩
          · exact ends
          · rw [isContainer, List.countP_cons_of_pos (by simpa using isLeast)] at few
            exact absurd few (Nat.not_succ_le_zero _)
      | succ count fewer =>
          intro scheduler between least few
          rcases cases between least with ends | ⟨first, rest, isContainer, isLeast⟩
          · exact ends
          · have due : (scheduler.task first).endTime ≤ scheduler.now := by omega
            rw [isContainer, List.countP_cons_of_pos (by simpa using isLeast)] at few
            obtain ⟨next, running⟩ :=
              between.invoke isContainer due (tame.task scheduler.taskRuns)
            rw [isLeast] at running
            obtain ⟨outer, -⟩ := invoke_spec scheduler.contexts (code.task scheduler.taskRuns)
              (between.idle.good.popTask isContainer due)
            obtain ⟨fuel, last, ends⟩ := fewer next.ask (by
              intro id isIn
              rw [ask, outer.now]
              exact (running.above id isIn).le) (by
              rw [ask, outer.now]
              exact running.few.trans (Nat.le_of_succ_le_succ few))
            by_cases valid : code.predicate ((scheduler.popTask first).invoke scheduler.contexts
                (code.task scheduler.taskRuns)).questions = true
            · refine ⟨fuel + 1, last, ?_⟩
              rw [dispatch_tasks_of_due isContainer due, if_pos valid]
              exact ends
            · exact ⟨1, _, (dispatch_tasks_of_due isContainer due).trans (if_neg valid)⟩

/-- The first bound is the distance of the first task. -/
theorem BetweenTasks.ends (tame : code.IsTame) (between : BetweenTasks scheduler) :
    ∃ fuel last, dispatch code fuel .tasks scheduler = some last := by
  have sorted := between.idle.good.sorted
  cases isContainer : scheduler.container with
  | nil =>
      refine ⟨1, _, dispatch_tasks_of_stopped ?_⟩
      intro first rest isCons
      exact absurd (isContainer.symm.trans isCons) (List.cons_ne_nil _ _).symm
  | cons first rest =>
      rw [isContainer] at sorted
      refine dispatch_tasks_ends tame (scheduler.now - (scheduler.task first).endTime).toNat _
        between ?_ (le_refl _)
      rw [isContainer]
      intro id isIn
      have fromFirst : (scheduler.task first).endTime ≤ (scheduler.task id).endTime := by
        rcases List.mem_cons.mp isIn with rfl | isRest
        · exact le_refl _
        · exact ((List.pairwise_cons.mp sorted).1 id isRest).le
      omega

/-! ## The loop over the asyncs -/

/-- What holds between two asyncs; no task was invoked yet. -/
structure BetweenAsyncs (scheduler : TaskScheduler) : Prop where
  idle : Idle scheduler
  before : scheduler.asyncsBefore ≤ scheduler.asyncs
  noRuns : scheduler.runs = []
  unfinished : scheduler.finished = false

theorem BetweenAsyncs.ask (between : BetweenAsyncs scheduler) : BetweenAsyncs scheduler.ask :=
  ⟨between.idle.ask, between.before, between.noRuns, between.unfinished⟩

theorem BetweenAsyncs.toTasks (between : BetweenAsyncs scheduler)
    (isEmpty : scheduler.asyncHolder = []) : BetweenTasks scheduler := by
  refine ⟨between.idle, ⟨between.before, ?_⟩, ?_, between.unfinished⟩
  · rw [isEmpty]
    exact fun id isIn => absurd isIn List.not_mem_nil
  · rw [between.noRuns]
    exact fun run isRun => absurd isRun List.not_mem_nil

/-- The state after one async, which is popped when it has returned. -/
def afterAsync (scheduler : TaskScheduler) (front : AsyncId) (calls : List SchedulerCall) :
    TaskScheduler :=
  (calls.foldl apply (scheduler.beginAsync front)).popAsync

theorem BetweenAsyncs.afterAsync (between : BetweenAsyncs scheduler) {front : AsyncId}
    {rest : List AsyncId} (isHolder : scheduler.asyncHolder = front :: rest)
    {calls : List SchedulerCall} (tame : ∀ call ∈ calls, call.IsTame) :
    BetweenAsyncs (scheduler.afterAsync front calls) ∧
      (scheduler.afterAsync front calls).asyncRuns = front :: scheduler.asyncRuns ∧
      (scheduler.afterAsync front calls).questions = scheduler.questions ∧
      (scheduler.afterAsync front calls).asyncHolder.length ≤
        rest.length + (calls.map SchedulerCall.asyncs).sum := by
  have begun : Good (scheduler.beginAsync front) := { between.idle.good with }
  obtain ⟨good, outer, count, few, added⟩ := applyAll_spec calls begun tame
  have isHolderAfter : (calls.foldl apply (scheduler.beginAsync front)).asyncHolder =
      front :: (rest ++ List.range' scheduler.asyncs count) := by
    rw [added.asyncHolder]
    show scheduler.asyncHolder ++ _ = _
    rw [isHolder, List.cons_append]
    rfl
  have isRuns : (scheduler.afterAsync front calls).asyncRuns = front :: scheduler.asyncRuns :=
    outer.asyncRuns
  have isTail : (scheduler.afterAsync front calls).asyncHolder =
      rest ++ List.range' scheduler.asyncs count := by
    show (calls.foldl apply (scheduler.beginAsync front)).asyncHolder.tail = _
    rw [isHolderAfter, List.tail_cons]
  have noRuns : (scheduler.afterAsync front calls).runs = [] := outer.runs.trans between.noRuns
  refine ⟨⟨⟨{ good with }, ?_, ⟨?_, ?_⟩, ?_⟩, ?_, noRuns, ?_⟩, isRuns, outer.questions, ?_⟩
  · unfold Accounted
    rw [isRuns, isTail]
    show (front :: scheduler.asyncRuns ++
      (calls.foldl apply (scheduler.beginAsync front)).cancelled ++
        (rest ++ List.range' scheduler.asyncs count)).Perm
          (List.range (calls.foldl apply (scheduler.beginAsync front)).asyncs)
    have accounted := between.idle.accounted
    unfold Accounted at accounted
    rw [isHolder] at accounted
    have moved : (front :: scheduler.asyncRuns ++ scheduler.cancelled ++ rest).Perm
        (List.range scheduler.asyncs) := List.perm_middle.symm.trans accounted
    have isRange : List.range (scheduler.asyncs + count) =
        List.range scheduler.asyncs ++ List.range' scheduler.asyncs count := by
      have split : List.range' 0 scheduler.asyncs ++ List.range' (0 + scheduler.asyncs) count =
          List.range' 0 (scheduler.asyncs + count) := List.range'_append_1
      rw [Nat.zero_add] at split
      rw [List.range_eq_range', List.range_eq_range', split]
    have isAll : (scheduler.beginAsync front).asyncs = scheduler.asyncs := rfl
    rw [added.cancelled, added.asyncs, ← List.append_assoc, isAll, isRange]
    exact moved.append_right _
  · rw [noRuns]
    exact List.Pairwise.nil
  · rw [noRuns]
    exact fun run isRun => absurd isRun List.not_mem_nil
  · show ((calls.foldl apply (scheduler.beginAsync front)).removedFromEmpty ||
      (calls.foldl apply (scheduler.beginAsync front)).asyncHolder.isEmpty) = false
    rw [isHolderAfter, outer.removedFromEmpty]
    exact Bool.or_eq_false_iff.mpr ⟨between.idle.safe, rfl⟩
  · show (calls.foldl apply (scheduler.beginAsync front)).asyncsBefore ≤
      (calls.foldl apply (scheduler.beginAsync front)).asyncs
    rw [outer.asyncsBefore, added.asyncs]
    exact between.before.trans (Nat.le_add_right _ _)
  · show (calls.foldl apply (scheduler.beginAsync front)).finished = false
    rw [outer.finished]
    exact between.unfinished
  · rw [isTail, List.length_append, List.length_range']
    exact Nat.add_le_add_left few _

/-- What the loop over the asyncs leaves behind. -/
theorem dispatch_asyncs_sound (tame : code.IsTame) {fuel : Nat} {last : TaskScheduler}
    (between : BetweenAsyncs scheduler)
    (ends : dispatch code fuel .asyncs scheduler = some last) :
    Idle last ∧ Settled last ∧ Stopped code scheduler.questions last := by
  induction fuel generalizing scheduler with
  | zero => exact absurd ends (by simp [dispatch])
  | succ fuel induction =>
      unfold dispatch at ends
      split at ends
      · rename_i isEmpty
        exact dispatch_tasks_sound tame (between.toTasks isEmpty) ends
      · rename_i front rest isHolder
        have calls := tame.async scheduler.asyncRuns.length
        obtain ⟨next, -, same, -⟩ := between.afterAsync isHolder calls
        dsimp only at ends
        rw [foldlM_perform _ _ calls] at ends
        dsimp only at ends
        split_ifs at ends with valid
        · obtain ⟨idle, settled, stopped⟩ := induction next.ask ends
          exact ⟨idle, settled, stopped.of_ask same⟩
        · obtain rfl := Option.some.inj ends
          exact ⟨next.ask.idle, settled_of_unfinished next.ask.unfinished,
            stopped_of_refused same valid⟩

/-- The loop over the asyncs ends when those that are added have fallen behind. -/
theorem dispatch_asyncs_ends (tame : code.IsTame) (count : Nat) :
    ∀ {scheduler : TaskScheduler}, BetweenAsyncs scheduler →
      scheduler.asyncHolder.length + code.addedAsyncs scheduler.asyncRuns.length count ≤ count →
      ∃ fuel last, dispatch code fuel .asyncs scheduler = some last := by
  induction count with
  | zero =>
      intro scheduler between few
      have isEmpty : scheduler.asyncHolder = [] :=
        List.eq_nil_of_length_eq_zero (Nat.le_zero.mp ((Nat.le_add_right _ _).trans few))
      obtain ⟨fuel, last, ends⟩ := (between.toTasks isEmpty).ends tame
      refine ⟨fuel + 1, last, ?_⟩
      rw [dispatch, isEmpty]
      exact ends
  | succ count fewer =>
      intro scheduler between few
      cases isHolder : scheduler.asyncHolder with
      | nil =>
          obtain ⟨fuel, last, ends⟩ := (between.toTasks isHolder).ends tame
          refine ⟨fuel + 1, last, ?_⟩
          rw [dispatch, isHolder]
          exact ends
      | cons front rest =>
          have calls := tame.async scheduler.asyncRuns.length
          obtain ⟨next, isRuns, -, length⟩ := between.afterAsync isHolder calls
          rw [isHolder, List.length_cons, Code.addedAsyncs_succ] at few
          obtain ⟨fuel, last, ends⟩ := fewer next.ask (by
            show (scheduler.afterAsync front _).asyncHolder.length +
              code.addedAsyncs (scheduler.afterAsync front _).asyncRuns.length count ≤ count
            rw [isRuns, List.length_cons]
            omega)
          refine ⟨fuel + 1, ?_⟩
          rw [dispatch, isHolder]
          dsimp only
          rw [foldlM_perform _ _ calls]
          dsimp only
          split_ifs with valid
          · exact ⟨last, ends⟩
          · exact ⟨_, rfl⟩

/-! ## Calls from outside -/

theorem Idle.elapse (idle : Idle scheduler) (difftime : Nat) :
    BetweenAsyncs (scheduler.elapse difftime) := by
  have later : scheduler.now ≤ scheduler.now + difftime := by omega
  have good : Good (scheduler.elapse difftime) := { idle.good with
    queued := fun id isIn =>
      have queued := idle.good.queued id isIn
      ⟨queued.runs, queued.endTime, fun regular ran => (queued.last regular ran).trans later⟩
    held := fun handle isHandle unconsumed =>
      have held := idle.good.held handle isHandle unconsumed
      ⟨held.runs, held.due.trans later, held.endTime⟩ }
  exact ⟨⟨good, idle.accounted, ⟨List.Pairwise.nil, fun run isRun => absurd isRun
    List.not_mem_nil⟩, idle.safe⟩, le_refl _, rfl, rfl⟩

theorem Idle.unfinish (idle : Idle scheduler) : Idle { scheduler with finished := false } :=
  ⟨{ idle.good with }, idle.accounted, ⟨idle.logged.ordered, idle.logged.due⟩, idle.safe⟩

/-- A call that is no `Update`. -/
theorem Idle.apply (idle : Idle scheduler) (call : SchedulerCall) :
    Idle (scheduler.apply call) ∧ (scheduler.apply call).finished = scheduler.finished := by
  have spec : Good (scheduler.apply call) ∧ Outer scheduler (scheduler.apply call) ∧
      Accounted (scheduler.apply call) (scheduler.apply call).asyncHolder := by
    cases call with
    | schedule time group =>
        exact ⟨good_scheduleAt idle.good _ time group,
          ⟨rfl, rfl, rfl, rfl, rfl, rfl, rfl, rfl, rfl⟩, idle.accounted⟩
    | manipulate manipulation =>
        exact ⟨good_manipulate idle.good manipulation, outer_manipulate idle.good manipulation,
          accounted_manipulate idle.good manipulation idle.accounted⟩
    | context handle call =>
        exact ⟨good_contextCall idle.good handle call, outer_contextCall idle.good handle call,
          accounted_contextCall idle.good handle call idle.accounted⟩
    | update difftime => exact ⟨idle.good, .refl _, idle.accounted⟩
  obtain ⟨good, outer, accounted⟩ := spec
  refine ⟨⟨good, accounted, ⟨?_, ?_⟩, ?_⟩, outer.finished⟩
  · rw [outer.runs]
    exact idle.logged.ordered
  · rw [outer.runs]
    exact idle.logged.due
  · rw [outer.removedFromEmpty]
    exact idle.safe

theorem Idle.update (tame : code.IsTame) (idle : Idle scheduler) (difftime : Nat) :
    (∃ fuel last, scheduler.update code fuel difftime = some last) ∧
      ∀ fuel last, scheduler.update code fuel difftime = some last →
        Idle last ∧ Settled last ∧ Stopped code scheduler.questions last := by
  have start := (idle.elapse difftime).ask
  unfold TaskScheduler.update
  dsimp only
  split_ifs with valid
  · refine ⟨?_, fun fuel last ends => ?_⟩
    rotate_left
    · obtain ⟨idle, settled, stopped⟩ := dispatch_asyncs_sound tame start ends
      exact ⟨idle, settled, stopped.of_ask rfl⟩
    obtain ⟨count, few⟩ := tame.ends (scheduler.elapse difftime).ask.asyncRuns.length
      (scheduler.elapse difftime).ask.asyncHolder.length
    exact dispatch_asyncs_ends tame count start few
  · refine ⟨⟨0, _, rfl⟩, ?_⟩
    intro fuel last ends
    obtain rfl := Option.some.inj ends
    exact ⟨start.idle, settled_of_unfinished start.unfinished, stopped_of_refused rfl valid⟩

theorem Idle.call (tame : code.IsTame) (idle : Idle scheduler) (schedulerCall : SchedulerCall) :
    (∃ fuel last, scheduler.call code fuel schedulerCall = some last) ∧
      ∀ fuel last, scheduler.call code fuel schedulerCall = some last →
        Idle last ∧ Settled last := by
  have plain : ∀ schedulerCall, Idle ({ scheduler with finished := false }.apply schedulerCall) ∧
      Settled ({ scheduler with finished := false }.apply schedulerCall) := by
    intro schedulerCall
    obtain ⟨applied, unfinished⟩ := idle.unfinish.apply schedulerCall
    exact ⟨applied, settled_of_unfinished unfinished⟩
  unfold TaskScheduler.call
  cases schedulerCall with
  | update difftime =>
      obtain ⟨ends, sound⟩ := idle.unfinish.update tame difftime
      exact ⟨ends, fun fuel last ended => ⟨(sound fuel last ended).1, (sound fuel last ended).2.1⟩⟩
  | schedule time group =>
      refine ⟨⟨0, _, rfl⟩, fun fuel last ends => ?_⟩
      obtain rfl := Option.some.inj ends
      exact plain (.schedule time group)
  | manipulate manipulation =>
      refine ⟨⟨0, _, rfl⟩, fun fuel last ends => ?_⟩
      obtain rfl := Option.some.inj ends
      exact plain (.manipulate manipulation)
  | context handle call =>
      refine ⟨⟨0, _, rfl⟩, fun fuel last ends => ?_⟩
      obtain rfl := Option.some.inj ends
      exact plain (.context handle call)

end Loops

/-! ## Runs of calls -/

/-- The ends of the tasks of a group have changed, and no others. -/
structure MovesGroup (group : Group) (move : Int → Int) (scheduler next : TaskScheduler) :
    Prop where
  endTime : ∀ id, (next.task id).endTime =
    if id ∈ scheduler.container ∧ (scheduler.task id).group = some group then
      move (scheduler.task id).endTime
    else (scheduler.task id).endTime
  perm : next.container.Perm scheduler.container
  sorted : next.container.Pairwise fun first second => (next.task first).Before (next.task second)

/-- Every task and every async is run as it should be. -/
structure Sound (scheduler : TaskScheduler) : Prop where
  safe : scheduler.removedFromEmpty = false
  sorted : scheduler.container.Pairwise fun first second =>
    (scheduler.task first).Before (scheduler.task second)
  ordered : scheduler.runs.Pairwise fun later earlier =>
    Earlier earlier.endTime earlier.inserted later.endTime later.inserted
  due : ∀ run ∈ scheduler.runs, run.endTime ≤ run.now
  once : ∀ id < scheduler.tasks, (scheduler.task id).runs ≤ (scheduler.task id).repeats + 1
  nothingDue : scheduler.finished = true →
    ∀ id ∈ scheduler.container, scheduler.now < (scheduler.task id).endTime
  periodic : scheduler.finished = true → ∀ id ∈ scheduler.container,
    (scheduler.task id).regular = true → 0 < (scheduler.task id).duration →
      (scheduler.task id).scheduledAt ≤ scheduler.now →
        ((scheduler.task id).runs : Int) =
          (scheduler.now - (scheduler.task id).scheduledAt) / (scheduler.task id).duration
  asyncsOnce : Accounted scheduler scheduler.asyncHolder
  asyncsRun : scheduler.finished = true → ∀ id ∈ scheduler.asyncHolder, scheduler.asyncsBefore ≤ id
  delayGroup : ∀ group duration,
    MovesGroup group (· + duration) scheduler (scheduler.manipulate (.delayGroup group duration))
  rescheduleGroup : ∀ group duration,
    MovesGroup group (fun _ => scheduler.now + duration) scheduler
      (scheduler.manipulate (.rescheduleGroup group duration))

theorem Good.movesGroup (good : Good scheduler) {change : Task → Task} (retimes : Retimes change)
    (group : Group) {move : Int → Int} (moves : ∀ task, (change task).endTime = move task.endTime) :
    MovesGroup group move scheduler (scheduler.modifyIf (·.isInGroup group) change) := by
  have modified : Modified (·.isInGroup group) change scheduler _ := good.modified retimes
  have chosen : ∀ id, id ∈ scheduler.cache (·.isInGroup group) ↔
      id ∈ scheduler.container ∧ (scheduler.task id).group = some group := by
    intro id
    rw [mem_cache]
    exact and_congr_right fun _ => decide_eq_true_iff
  refine ⟨?_, modified.perm, modified.good.sorted⟩
  intro id
  split_ifs with isChosen
  · obtain ⟨stamp, -, isTask⟩ := modified.changed id ((chosen id).mpr isChosen)
    rw [isTask]
    exact moves _
  · rw [modified.other id fun isIn => isChosen ((chosen id).mp isIn)]

/-- A task that was always repeated with its duration ran once in each. -/
theorem queued_periodic {task : Task} {now : Int} (queued : task.Queued now)
    (regular : task.regular = true) (forward : 0 < task.duration) (later : now < task.endTime)
    (past : task.scheduledAt ≤ now) :
    (task.runs : Int) = (now - task.scheduledAt) / task.duration := by
  have upper : now < task.scheduledAt + (task.runs + 1) * task.duration :=
    queued.endTime regular ▸ later
  have lower : task.scheduledAt + task.runs * task.duration ≤ now := by
    by_cases ran : task.runs = 0
    · rw [ran]
      simpa using past
    · exact queued.last regular ran
  symm
  rw [Int.ediv_eq_iff_of_pos forward]
  constructor <;> linarith

theorem Idle.sound (idle : Idle scheduler) (settled : Settled scheduler) : Sound scheduler where
  safe := idle.safe
  sorted := idle.good.sorted
  ordered := idle.logged.ordered
  due := idle.logged.due
  once := idle.good.once
  nothingDue := fun finished => (settled finished).1
  periodic := fun finished id isIn regular forward past =>
    queued_periodic (idle.good.queued id isIn) regular forward ((settled finished).1 id isIn) past
  asyncsOnce := idle.accounted
  asyncsRun := fun finished => (settled finished).2
  delayGroup := fun group duration =>
    idle.good.movesGroup (retimes_delay duration) group fun _ => rfl
  rescheduleGroup := fun group _ =>
    idle.good.movesGroup (retimes_reschedule _) group fun _ => rfl

end TaskScheduler

open TaskScheduler

theorem Calls.idle {code : Code} (tame : code.IsTame) {first last : TaskScheduler}
    {calls : List SchedulerCall} (run : Calls code first calls last)
    (start : Idle first ∧ Settled first) : Idle last ∧ Settled last := by
  induction run with
  | nil => exact start
  | cons _ ends _ induction => exact induction ((start.1.call tame _).2 _ _ ends)

end RealmServer.Utilities
