import Mathlib
import RealmServer.Utilities.TaskScheduler

/-!
# The queue and its tasks

A task is in the queue once at most, and not while a context can still repeat
it; so its end changes only when it is out of the container.  `Good` says this,
that the container is sorted, and how the ends of the tasks depend on how often
they ran.
-/

namespace RealmServer.Utilities

/-! ## Tasks -/

/-- The order of the queue: by the ends, and by the insertions where these are equal. -/
def Earlier (firstEnd : Int) (firstInserted : Nat) (secondEnd : Int) (secondInserted : Nat) :
    Prop :=
  firstEnd < secondEnd ∨ (firstEnd = secondEnd ∧ firstInserted < secondInserted)

theorem Earlier.trans {firstEnd secondEnd thirdEnd : Int}
    {firstInserted secondInserted thirdInserted : Nat}
    (left : Earlier firstEnd firstInserted secondEnd secondInserted)
    (right : Earlier secondEnd secondInserted thirdEnd thirdInserted) :
    Earlier firstEnd firstInserted thirdEnd thirdInserted := by
  unfold Earlier at *
  omega

theorem Earlier.le {firstEnd secondEnd : Int} {firstInserted secondInserted : Nat}
    (earlier : Earlier firstEnd firstInserted secondEnd secondInserted) :
    firstEnd ≤ secondEnd := by
  unfold Earlier at earlier
  omega

namespace Task

def Before (first second : Task) : Prop :=
  Earlier first.endTime first.inserted second.endTime second.inserted

/-- A task in the queue. -/
structure Queued (task : Task) (now : Int) : Prop where
  runs : task.runs = task.repeats
  endTime : task.regular = true → task.endTime = task.scheduledAt + (task.runs + 1) * task.duration
  last : task.regular = true → task.runs ≠ 0 →
    task.scheduledAt + task.runs * task.duration ≤ now

/-- A task out of the queue which its context can repeat. -/
structure Held (task : Task) (now : Int) : Prop where
  runs : task.runs = task.repeats + 1
  due : task.endTime ≤ now
  endTime : task.regular = true → task.endTime = task.scheduledAt + task.runs * task.duration

end Task

namespace TaskScheduler

/-! ## The invariant -/

structure Good (scheduler : TaskScheduler) : Prop where
  fresh : ∀ id ∈ scheduler.container, id < scheduler.tasks
  nodup : scheduler.container.Nodup
  stamped : ∀ id ∈ scheduler.container, (scheduler.task id).inserted < scheduler.insertions
  sorted : scheduler.container.Pairwise fun first second =>
    (scheduler.task first).Before (scheduler.task second)
  queued : ∀ id ∈ scheduler.container, (scheduler.task id).Queued scheduler.now
  once : ∀ id < scheduler.tasks, (scheduler.task id).runs ≤ (scheduler.task id).repeats + 1
  owned : ∀ handle < scheduler.contexts, (scheduler.context handle).task < scheduler.tasks
  out : ∀ handle < scheduler.contexts, (scheduler.context handle).consumed = false →
    (scheduler.context handle).task ∉ scheduler.container
  held : ∀ handle < scheduler.contexts, (scheduler.context handle).consumed = false →
    (scheduler.task (scheduler.context handle).task).Held scheduler.now
  single : ∀ first < scheduler.contexts, ∀ second < scheduler.contexts,
    (scheduler.context first).consumed = false → (scheduler.context second).consumed = false →
      (scheduler.context first).task = (scheduler.context second).task → first = second

/-- A task which may be pushed. -/
structure Pushable (scheduler : TaskScheduler) (id : TaskId) : Prop where
  fresh : id < scheduler.tasks
  absent : id ∉ scheduler.container
  free : ∀ handle < scheduler.contexts, (scheduler.context handle).consumed = false →
    (scheduler.context handle).task ≠ id
  queued : (scheduler.task id).Queued scheduler.now

/-- What no call of a callable changes. -/
structure Outer (scheduler next : TaskScheduler) : Prop where
  now : next.now = scheduler.now
  contexts : next.contexts = scheduler.contexts
  asyncsBefore : next.asyncsBefore = scheduler.asyncsBefore
  asyncRuns : next.asyncRuns = scheduler.asyncRuns
  taskRuns : next.taskRuns = scheduler.taskRuns
  runs : next.runs = scheduler.runs
  questions : next.questions = scheduler.questions
  finished : next.finished = scheduler.finished
  removedFromEmpty : next.removedFromEmpty = scheduler.removedFromEmpty

/-- What only calls for asyncs change. -/
structure Asyncs (scheduler next : TaskScheduler) : Prop where
  asyncHolder : next.asyncHolder = scheduler.asyncHolder
  asyncs : next.asyncs = scheduler.asyncs
  cancelled : next.cancelled = scheduler.cancelled

theorem Outer.refl (scheduler : TaskScheduler) : Outer scheduler scheduler :=
  ⟨rfl, rfl, rfl, rfl, rfl, rfl, rfl, rfl, rfl⟩

theorem Outer.trans {first second third : TaskScheduler} (left : Outer first second)
    (right : Outer second third) : Outer first third :=
  ⟨right.now.trans left.now, right.contexts.trans left.contexts,
    right.asyncsBefore.trans left.asyncsBefore, right.asyncRuns.trans left.asyncRuns,
    right.taskRuns.trans left.taskRuns,
    right.runs.trans left.runs, right.questions.trans left.questions,
    right.finished.trans left.finished, right.removedFromEmpty.trans left.removedFromEmpty⟩

theorem Asyncs.refl (scheduler : TaskScheduler) : Asyncs scheduler scheduler := ⟨rfl, rfl, rfl⟩

theorem Asyncs.trans {first second third : TaskScheduler} (left : Asyncs first second)
    (right : Asyncs second third) : Asyncs first third :=
  ⟨right.asyncHolder.trans left.asyncHolder, right.asyncs.trans left.asyncs,
    right.cancelled.trans left.cancelled⟩

variable {scheduler : TaskScheduler}

/-! ## Push -/

/-- A new task goes behind those with the same end. -/
theorem pairwise_orderedInsert {task : TaskId → Task} {id : TaskId} {container : List TaskId}
    (sorted : container.Pairwise fun first second => (task first).Before (task second))
    (newest : ∀ other ∈ container, (task other).inserted < (task id).inserted) :
    (container.orderedInsert (fun left right => (task left).endTime < (task right).endTime)
      id).Pairwise fun first second => (task first).Before (task second) := by
  induction container with
  | nil => exact List.pairwise_singleton _ id
  | cons head rest induction =>
      obtain ⟨first, others⟩ := List.pairwise_cons.mp sorted
      rw [List.orderedInsert_cons]
      split_ifs with earlier
      · refine List.pairwise_cons.mpr ⟨?_, sorted⟩
        intro other isOther
        rcases List.mem_cons.mp isOther with rfl | isLater
        · exact .inl earlier
        · rcases first other isLater with later | ⟨same, _⟩
          · exact .inl (earlier.trans later)
          · exact .inl (same ▸ earlier)
      · refine List.pairwise_cons.mpr ⟨?_, induction others fun other isOther =>
          newest other (List.mem_cons_of_mem _ isOther)⟩
        intro other isOther
        rcases (List.mem_orderedInsert _).mp isOther with rfl | isLater
        · rcases lt_or_eq_of_le (not_lt.mp earlier) with lower | same
          · exact .inl lower
          · exact .inr ⟨same, newest head List.mem_cons_self⟩
        · exact first other isLater

section Push

variable {id : TaskId}

theorem push_task_self : (scheduler.push id).task id =
    { scheduler.task id with inserted := scheduler.insertions } :=
  Function.update_self _ _ _

theorem push_task_of_ne {other : TaskId} (differs : other ≠ id) :
    (scheduler.push id).task other = scheduler.task other :=
  Function.update_of_ne differs _ _

theorem mem_push {other : TaskId} :
    other ∈ (scheduler.push id).container ↔ other = id ∨ other ∈ scheduler.container :=
  List.mem_orderedInsert _

theorem perm_push : (scheduler.push id).container.Perm (id :: scheduler.container) :=
  List.perm_orderedInsert _ _ _

theorem outer_push : Outer scheduler (scheduler.push id) :=
  ⟨rfl, rfl, rfl, rfl, rfl, rfl, rfl, rfl, rfl⟩

theorem asyncs_push : Asyncs scheduler (scheduler.push id) := ⟨rfl, rfl, rfl⟩

theorem orderedInsert_congr {first second : TaskId → Task} {container : List TaskId}
    (same : ∀ id, (first id).endTime = (second id).endTime) :
    container.orderedInsert (fun left right => (first left).endTime < (first right).endTime) id =
      container.orderedInsert (fun left right => (second left).endTime < (second right).endTime)
        id := by
  congr 1
  funext left right
  rw [same, same]

theorem push_endTime (other : TaskId) :
    ((scheduler.push id).task other).endTime = (scheduler.task other).endTime := by
  by_cases isId : other = id
  · rw [isId, push_task_self]
  · rw [push_task_of_ne isId]

theorem Good.push (good : Good scheduler) (pushable : Pushable scheduler id) :
    Good (scheduler.push id) := by
  have differs : ∀ {other}, other ∈ scheduler.container → other ≠ id :=
    fun isOther same => pushable.absent (same ▸ isOther)
  have newest : ∀ other ∈ scheduler.container,
      ((scheduler.push id).task other).inserted < ((scheduler.push id).task id).inserted := by
    intro other isOther
    rw [push_task_of_ne (differs isOther), push_task_self]
    exact good.stamped other isOther
  have free : ∀ handle < scheduler.contexts, (scheduler.context handle).consumed = false →
      (scheduler.push id).task (scheduler.context handle).task =
        scheduler.task (scheduler.context handle).task :=
    fun handle isHandle unconsumed => push_task_of_ne (pushable.free handle isHandle unconsumed)
  constructor
  · intro other isOther
    rcases mem_push.mp isOther with rfl | isOld
    · exact pushable.fresh
    · exact good.fresh other isOld
  · rw [perm_push.nodup_iff]
    exact List.nodup_cons.mpr ⟨pushable.absent, good.nodup⟩
  · intro other isOther
    rcases mem_push.mp isOther with rfl | isOld
    · rw [push_task_self]
      exact Nat.lt_succ_self _
    · rw [push_task_of_ne (differs isOld)]
      exact (good.stamped other isOld).trans (Nat.lt_succ_self _)
  · have sorted : scheduler.container.Pairwise fun first second =>
        ((scheduler.push id).task first).Before ((scheduler.push id).task second) := by
      refine good.sorted.imp_of_mem ?_
      intro first second isFirst isSecond before
      rw [push_task_of_ne (differs isFirst), push_task_of_ne (differs isSecond)]
      exact before
    have inserted := pairwise_orderedInsert sorted newest
    rw [orderedInsert_congr push_endTime] at inserted
    exact inserted
  · intro other isOther
    rcases mem_push.mp isOther with rfl | isOld
    · rw [push_task_self]
      exact ⟨pushable.queued.runs, pushable.queued.endTime, pushable.queued.last⟩
    · rw [push_task_of_ne (differs isOld)]
      exact good.queued other isOld
  · intro other isOther
    by_cases isId : other = id
    · rw [isId, push_task_self]
      exact good.once id pushable.fresh
    · rw [push_task_of_ne isId]
      exact good.once other isOther
  · exact good.owned
  · intro handle isHandle unconsumed isIn
    rcases mem_push.mp isIn with same | isOld
    · exact pushable.free handle isHandle unconsumed same
    · exact good.out handle isHandle unconsumed isOld
  · intro handle isHandle unconsumed
    show ((scheduler.push id).task (scheduler.context handle).task).Held scheduler.now
    rw [free handle isHandle unconsumed]
    exact good.held handle isHandle unconsumed
  · exact good.single

end Push

/-! ## ModifyIf -/

section Modify

variable {filter : Task → Bool} {change : Task → Task}

theorem Pushable.push {id other : TaskId} (pushable : Pushable scheduler other)
    (differs : other ≠ id) : Pushable (scheduler.push id) other := by
  refine ⟨pushable.fresh, ?_, pushable.free, ?_⟩
  · rw [mem_push, not_or]
    exact ⟨differs, pushable.absent⟩
  · rw [push_task_of_ne differs]
    exact pushable.queued

/-- What happens to tasks that are pushed one after another. -/
structure Pushed (ids : List TaskId) (scheduler next : TaskScheduler) : Prop where
  good : Good next
  perm : next.container.Perm (ids ++ scheduler.container)
  other : ∀ id ∉ ids, next.task id = scheduler.task id
  inserted : ∀ id ∈ ids, ∃ stamp, scheduler.insertions ≤ stamp ∧
    next.task id = { scheduler.task id with inserted := stamp }
  tasks : next.tasks = scheduler.tasks
  insertions : scheduler.insertions ≤ next.insertions
  context : next.context = scheduler.context
  outer : Outer scheduler next
  asyncs : Asyncs scheduler next

theorem pushed_of_fold (ids : List TaskId) (good : Good scheduler) (nodup : ids.Nodup)
    (pushable : ∀ id ∈ ids, Pushable scheduler id) :
    Pushed ids scheduler (ids.foldl push scheduler) := by
  induction ids generalizing scheduler with
  | nil =>
      exact ⟨good, .refl _, fun _ _ => rfl, fun id isId => absurd isId List.not_mem_nil, rfl,
        le_refl _, rfl, .refl _, .refl _⟩
  | cons first rest induction =>
      obtain ⟨absent, others⟩ := List.nodup_cons.mp nodup
      have differs : ∀ id ∈ rest, id ≠ first := fun id isId same => absent (same ▸ isId)
      have later := induction (good.push (pushable first List.mem_cons_self)) others
        fun id isId => (pushable id (List.mem_cons_of_mem _ isId)).push (differs id isId)
      refine ⟨later.good, ?_, ?_, ?_, later.tasks, ?_, later.context, outer_push.trans later.outer,
        asyncs_push.trans later.asyncs⟩
      · refine later.perm.trans ?_
        exact (List.Perm.append_left rest perm_push).trans List.perm_middle
      · intro id isOther
        rw [List.mem_cons, not_or] at isOther
        exact (later.other id isOther.2).trans (push_task_of_ne isOther.1)
      · intro id isId
        rcases List.mem_cons.mp isId with rfl | isLater
        · exact ⟨scheduler.insertions, le_refl _, (later.other id absent).trans push_task_self⟩
        · obtain ⟨stamp, recent, same⟩ := later.inserted id isLater
          refine ⟨stamp, (Nat.le_succ _).trans recent, same.trans ?_⟩
          rw [push_task_of_ne (differs id isLater)]
      · exact (Nat.le_succ _).trans later.insertions

/-- A change of the end. -/
structure Retimes (change : Task → Task) : Prop where
  runs : ∀ task, (change task).runs = task.runs
  repeats : ∀ task, (change task).repeats = task.repeats
  regular : ∀ task, (change task).regular = false

theorem mem_cache {id : TaskId} : id ∈ scheduler.cache filter ↔
    id ∈ scheduler.container ∧ filter (scheduler.task id) = true :=
  List.mem_filter

/-- What `ModifyIf` does. -/
structure Modified (filter : Task → Bool) (change : Task → Task)
    (scheduler next : TaskScheduler) : Prop where
  good : Good next
  perm : next.container.Perm scheduler.container
  other : ∀ id ∉ scheduler.cache filter, next.task id = scheduler.task id
  changed : ∀ id ∈ scheduler.cache filter, ∃ stamp, scheduler.insertions ≤ stamp ∧
    next.task id = { change (scheduler.task id) with inserted := stamp }
  tasks : next.tasks = scheduler.tasks
  insertions : scheduler.insertions ≤ next.insertions
  context : next.context = scheduler.context
  outer : Outer scheduler next
  asyncs : Asyncs scheduler next

theorem Good.modified (good : Good scheduler) (retimes : Retimes change) :
    Modified filter change scheduler (scheduler.modifyIf filter change) := by
  unfold modifyIf
  extract_lets ids taken
  have member : ∀ {id}, id ∈ taken.container ↔
      id ∈ scheduler.container ∧ id ∉ scheduler.cache filter := by
    intro id
    rw [mem_cache]
    simp only [taken, List.mem_filter, Bool.not_eq_true', not_and, Bool.not_eq_true]
    constructor
    · exact fun ⟨isIn, kept⟩ => ⟨isIn, fun _ => kept⟩
    · exact fun ⟨isIn, kept⟩ => ⟨isIn, kept isIn⟩
  have same : ∀ {id}, id ∉ scheduler.cache filter → taken.task id = scheduler.task id :=
    fun absent => if_neg absent
  have changed : ∀ {id}, id ∈ scheduler.cache filter →
      taken.task id = change (scheduler.task id) := fun isIn => if_pos isIn
  have goodTaken : Good taken := by
    have outOfCache : ∀ handle < scheduler.contexts,
        (scheduler.context handle).consumed = false →
          (scheduler.context handle).task ∉ scheduler.cache filter :=
      fun handle isHandle unconsumed isIn =>
        good.out handle isHandle unconsumed (mem_cache.mp isIn).1
    constructor
    · exact fun id isIn => good.fresh id (member.mp isIn).1
    · exact good.nodup.filter _
    · intro id isIn
      rw [same (member.mp isIn).2]
      exact good.stamped id (member.mp isIn).1
    · refine (good.sorted.filter _).imp_of_mem ?_
      intro first second isFirst isSecond before
      rw [same (member.mp isFirst).2, same (member.mp isSecond).2]
      exact before
    · intro id isIn
      rw [same (member.mp isIn).2]
      exact good.queued id (member.mp isIn).1
    · intro id isTask
      by_cases isIn : id ∈ scheduler.cache filter
      · rw [changed isIn, retimes.runs, retimes.repeats]
        exact good.once id isTask
      · rw [same isIn]
        exact good.once id isTask
    · exact good.owned
    · exact fun handle isHandle unconsumed isIn =>
        good.out handle isHandle unconsumed (member.mp isIn).1
    · intro handle isHandle unconsumed
      show (taken.task (scheduler.context handle).task).Held scheduler.now
      rw [same (outOfCache handle isHandle unconsumed)]
      exact good.held handle isHandle unconsumed
    · exact good.single
  have pushable : ∀ id ∈ ids, Pushable taken id := by
    intro id isIn
    have isQueued := mem_cache.mp isIn
    refine ⟨good.fresh id isQueued.1, fun isTaken => (member.mp isTaken).2 isIn, ?_, ?_⟩
    · intro handle isHandle unconsumed isTask
      exact good.out handle isHandle unconsumed (isTask ▸ isQueued.1)
    · rw [changed isIn]
      refine ⟨?_, ?_, ?_⟩
      · rw [retimes.runs, retimes.repeats]
        exact (good.queued id isQueued.1).runs
      · exact fun regular => absurd regular (by simp [retimes.regular])
      · exact fun regular => absurd regular (by simp [retimes.regular])
  have pushed := pushed_of_fold ids goodTaken (good.nodup.filter _) pushable
  refine ⟨pushed.good, ?_, ?_, ?_, pushed.tasks, pushed.insertions, pushed.context, ?_, ?_⟩
  · refine pushed.perm.trans ?_
    exact List.filter_append_perm (fun id => filter (scheduler.task id)) scheduler.container
  · exact fun id absent => (pushed.other id absent).trans (same absent)
  · intro id isIn
    obtain ⟨stamp, recent, isTask⟩ := pushed.inserted id isIn
    refine ⟨stamp, recent, ?_⟩
    rw [isTask, changed isIn]
  · exact { pushed.outer with }
  · exact { pushed.asyncs with }

end Modify

/-! ## Calls -/

section Calls

/-- Tasks whose groups were assigned, and tasks that are not in the queue. -/
theorem Good.retask (good : Good scheduler) {task : TaskId → Task} {tasks : Nat}
    (more : scheduler.tasks ≤ tasks)
    (same : ∀ id < scheduler.tasks, ∃ group,
      task id = { scheduler.task id with group := group })
    (new : ∀ id < tasks, scheduler.tasks ≤ id → (task id).runs ≤ (task id).repeats + 1) :
    Good { scheduler with task := task, tasks := tasks } := by
  constructor
  · exact fun id isIn => (good.fresh id isIn).trans_le more
  · exact good.nodup
  · intro id isIn
    obtain ⟨group, isTask⟩ := same id (good.fresh id isIn)
    show (task id).inserted < _
    rw [isTask]
    exact good.stamped id isIn
  · refine good.sorted.imp_of_mem ?_
    intro first second isFirst isSecond before
    obtain ⟨group, isTask⟩ := same first (good.fresh first isFirst)
    obtain ⟨other, isOther⟩ := same second (good.fresh second isSecond)
    show (task first).Before (task second)
    rw [isTask, isOther]
    exact before
  · intro id isIn
    obtain ⟨group, isTask⟩ := same id (good.fresh id isIn)
    show (task id).Queued _
    rw [isTask]
    have queued := good.queued id isIn
    exact { queued with }
  · intro id isTask
    by_cases isOld : id < scheduler.tasks
    · obtain ⟨group, isTask⟩ := same id isOld
      show (task id).runs ≤ (task id).repeats + 1
      rw [isTask]
      exact good.once id isOld
    · exact new id isTask (not_lt.mp isOld)
  · exact fun handle isHandle => (good.owned handle isHandle).trans_le more
  · exact good.out
  · intro handle isHandle unconsumed
    obtain ⟨group, isTask⟩ := same _ (good.owned handle isHandle)
    show (task (scheduler.context handle).task).Held _
    rw [isTask]
    have held := good.held handle isHandle unconsumed
    exact { held with }
  · exact good.single

theorem good_assignGroup (good : Good scheduler) (id : TaskId) (group : Option Group) :
    Good (scheduler.assignGroup id group) := by
  refine good.retask (le_refl _) ?_ fun other isTask isNew => absurd isTask (not_lt.mpr isNew)
  intro other _
  by_cases isId : other = id
  · exact ⟨group, by rw [isId, Function.update_self]⟩
  · exact ⟨(scheduler.task other).group, by rw [Function.update_of_ne isId]⟩

/-- A new task, which is not in the queue yet. -/
theorem Good.create (good : Good scheduler) {task : Task} (once : task.runs ≤ task.repeats + 1) :
    Good { scheduler with
      task := Function.update scheduler.task scheduler.tasks task
      tasks := scheduler.tasks + 1 } := by
  refine good.retask (Nat.le_succ _) ?_ ?_
  · intro id isTask
    exact ⟨(scheduler.task id).group, by rw [Function.update_of_ne isTask.ne]⟩
  · intro id isTask isNew
    obtain rfl : id = scheduler.tasks := le_antisymm (Nat.le_of_lt_succ isTask) isNew
    rw [Function.update_self]
    exact once

theorem good_scheduleAt (good : Good scheduler) (timePoint time : Int) (group : Option Group) :
    Good (scheduler.scheduleAt timePoint time group) := by
  unfold scheduleAt
  extract_lets task
  refine (good.create (Nat.zero_le _)).push ⟨Nat.lt_succ_self _, ?_, ?_, ?_⟩
  · exact fun isIn => (good.fresh _ isIn).ne rfl
  · exact fun handle isHandle _ => (good.owned handle isHandle).ne
  · show (Function.update scheduler.task scheduler.tasks task scheduler.tasks).Queued _
    rw [Function.update_self]
    refine ⟨rfl, fun _ => ?_, fun _ ran => absurd rfl ran⟩
    show timePoint + time = timePoint + ((0 : Nat) + 1) * time
    simp

/-- A context is consumed; its task changes while it is in nobody's hands. -/
theorem good_consume (good : Good scheduler) {handle : ContextId}
    (isHandle : handle < scheduler.contexts)
    (unconsumed : (scheduler.context handle).consumed = false) {task : Task}
    (once : task.runs ≤ task.repeats + 1) :
    Good { scheduler with
      task := Function.update scheduler.task (scheduler.context handle).task task
      context := Function.update scheduler.context handle
        { scheduler.context handle with consumed := true } } := by
  have isOut := good.out handle isHandle unconsumed
  have queuedTask : ∀ {id}, id ∈ scheduler.container →
      Function.update scheduler.task (scheduler.context handle).task task id =
        scheduler.task id := by
    intro id isIn
    refine Function.update_of_ne ?_ _ _
    rintro rfl
    exact isOut isIn
  have isOther : ∀ {other}, (Function.update scheduler.context handle
      { scheduler.context handle with consumed := true } other).consumed = false →
        other ≠ handle := by
    rintro other open' rfl
    rw [Function.update_self] at open'
    exact Bool.noConfusion open'
  have sameContext : ∀ {other}, other ≠ handle → Function.update scheduler.context handle
      { scheduler.context handle with consumed := true } other = scheduler.context other :=
    fun differs => Function.update_of_ne differs _ _
  constructor
  · exact good.fresh
  · exact good.nodup
  · intro id isIn
    dsimp only
    rw [queuedTask isIn]
    exact good.stamped id isIn
  · refine good.sorted.imp_of_mem ?_
    intro first second isFirst isSecond before
    dsimp only
    rw [queuedTask isFirst, queuedTask isSecond]
    exact before
  · intro id isIn
    dsimp only
    rw [queuedTask isIn]
    exact good.queued id isIn
  · intro id isTask
    dsimp only
    by_cases isOwn : id = (scheduler.context handle).task
    · rw [isOwn, Function.update_self]
      exact once
    · rw [Function.update_of_ne isOwn]
      exact good.once id isTask
  · intro other isContext
    dsimp only
    by_cases same : other = handle
    · rw [same, Function.update_self]
      exact good.owned handle isHandle
    · rw [sameContext same]
      exact good.owned other isContext
  · intro other isContext open'
    have differs := isOther open'
    dsimp only at open' ⊢
    rw [sameContext differs] at open' ⊢
    exact good.out other isContext open'
  · intro other isContext open'
    have differs := isOther open'
    dsimp only at open' ⊢
    rw [sameContext differs] at open' ⊢
    have otherTask : (scheduler.context other).task ≠ (scheduler.context handle).task :=
      fun same => differs (good.single other isContext handle isHandle open' unconsumed same)
    rw [Function.update_of_ne otherTask]
    exact good.held other isContext open'
  · intro first isFirst second isSecond firstOpen secondOpen
    have firstDiffers := isOther firstOpen
    have secondDiffers := isOther secondOpen
    dsimp only at firstOpen secondOpen ⊢
    rw [sameContext firstDiffers] at firstOpen ⊢
    rw [sameContext secondDiffers] at secondOpen ⊢
    exact good.single first isFirst second isSecond firstOpen secondOpen

theorem repeatTask_of_consumed {handle : ContextId}
    (consumed : (scheduler.context handle).consumed = true) (duration : Int) :
    scheduler.repeatTask handle duration = scheduler :=
  if_pos consumed

/-- A task after `Repeat`. -/
def repeated (task : Task) (duration : Int) : Task :=
  { task with
    duration := duration
    endTime := task.endTime + duration
    repeated := task.repeated + 1
    repeats := task.repeats + 1
    regular := task.regular && duration = task.duration }

theorem repeatTask_of_unconsumed {handle : ContextId}
    (unconsumed : (scheduler.context handle).consumed = false) (duration : Int) :
    scheduler.repeatTask handle duration =
      push { scheduler with
        task := Function.update scheduler.task (scheduler.context handle).task
          (repeated (scheduler.task (scheduler.context handle).task) duration)
        context := Function.update scheduler.context handle
          { scheduler.context handle with consumed := true } }
        (scheduler.context handle).task :=
  if_neg (Bool.eq_false_iff.mp unconsumed)

theorem queued_repeated {task : Task} {now : Int} (held : task.Held now) (duration : Int) :
    (repeated task duration).Queued now := by
  have isDuration : (repeated task duration).regular = true →
      task.regular = true ∧ duration = task.duration := by
    intro regular
    obtain ⟨wasRegular, same⟩ := Bool.and_eq_true_iff.mp regular
    exact ⟨wasRegular, of_decide_eq_true same⟩
  refine ⟨held.runs, ?_, ?_⟩
  · intro regular
    obtain ⟨wasRegular, same⟩ := isDuration regular
    show task.endTime + duration = task.scheduledAt + (task.runs + 1) * duration
    rw [held.endTime wasRegular, same]
    ring
  · intro regular _
    obtain ⟨wasRegular, same⟩ := isDuration regular
    show task.scheduledAt + task.runs * duration ≤ now
    rw [same, ← held.endTime wasRegular]
    exact held.due

theorem good_repeatTask (good : Good scheduler) {handle : ContextId}
    (isHandle : handle < scheduler.contexts) (duration : Int) :
    Good (scheduler.repeatTask handle duration) := by
  cases unconsumed : (scheduler.context handle).consumed with
  | true =>
      rw [repeatTask_of_consumed unconsumed]
      exact good
  | false =>
      have held := good.held handle isHandle unconsumed
      have notTwice : (repeated (scheduler.task (scheduler.context handle).task) duration).runs ≤
          (repeated (scheduler.task (scheduler.context handle).task) duration).repeats + 1 :=
        held.runs.le.trans (Nat.le_succ _)
      rw [repeatTask_of_unconsumed unconsumed]
      refine (good_consume good isHandle unconsumed notTwice).push
        ⟨good.owned handle isHandle, good.out handle isHandle unconsumed, ?_, ?_⟩
      · intro other isContext isOpen same
        dsimp only at isOpen same
        by_cases isHandle' : other = handle
        · rw [isHandle', Function.update_self] at isOpen
          exact Bool.noConfusion isOpen
        · rw [Function.update_of_ne isHandle'] at isOpen same
          exact isHandle' (good.single other isContext handle isHandle isOpen unconsumed same)
      · dsimp only
        rw [Function.update_self]
        exact queued_repeated held duration

theorem good_removeIf (good : Good scheduler) (filter : Task → Bool) :
    Good (scheduler.removeIf filter) where
  __ := good
  fresh := fun id isIn => good.fresh id (List.mem_filter.mp isIn).1
  nodup := good.nodup.filter _
  stamped := fun id isIn => good.stamped id (List.mem_filter.mp isIn).1
  sorted := good.sorted.filter _
  queued := fun id isIn => good.queued id (List.mem_filter.mp isIn).1
  out := fun handle isHandle unconsumed isIn =>
    good.out handle isHandle unconsumed (List.mem_filter.mp isIn).1

theorem retimes_delay (duration : Int) :
    Retimes fun task => { task with endTime := task.endTime + duration, regular := false } :=
  ⟨fun _ => rfl, fun _ => rfl, fun _ => rfl⟩

theorem retimes_reschedule (endTime : Int) :
    Retimes fun task => { task with endTime := endTime, regular := false } :=
  ⟨fun _ => rfl, fun _ => rfl, fun _ => rfl⟩

/-- The calls that only remove tasks. -/
structure Removed (scheduler next : TaskScheduler) : Prop where
  good : Good next
  sublist : next.container.Sublist scheduler.container
  task : next.task = scheduler.task
  tasks : next.tasks = scheduler.tasks
  insertions : next.insertions = scheduler.insertions
  context : next.context = scheduler.context
  outer : Outer scheduler next
  asyncs : Asyncs scheduler next

theorem Good.removed (good : Good scheduler) (filter : Task → Bool) :
    Removed scheduler (scheduler.removeIf filter) where
  good := good_removeIf good filter
  sublist := List.filter_sublist
  task := rfl
  tasks := rfl
  insertions := rfl
  context := rfl
  outer := ⟨rfl, rfl, rfl, rfl, rfl, rfl, rfl, rfl, rfl⟩
  asyncs := ⟨rfl, rfl, rfl⟩

theorem removed_cancelGroup (good : Good scheduler) (group : Group) :
    Removed scheduler (scheduler.manipulate (.cancelGroup group)) :=
  good.removed (·.isInGroup group)

theorem removed_cancelGroupsOf (good : Good scheduler) (groups : List Group) :
    Removed scheduler (scheduler.manipulate (.cancelGroupsOf groups)) := by
  show Removed scheduler (groups.foldl cancelGroup scheduler)
  induction groups generalizing scheduler with
  | nil => exact ⟨good, .refl _, rfl, rfl, rfl, rfl, .refl _, .refl _⟩
  | cons group rest induction =>
      have first : Removed scheduler (scheduler.cancelGroup group) :=
        removed_cancelGroup good group
      have later := induction first.good
      exact ⟨later.good, later.sublist.trans first.sublist, later.task.trans first.task,
        later.tasks.trans first.tasks, later.insertions.trans first.insertions,
        later.context.trans first.context, first.outer.trans later.outer,
        first.asyncs.trans later.asyncs⟩

theorem good_manipulate (good : Good scheduler) (manipulation : Manipulation) :
    Good (scheduler.manipulate manipulation) := by
  cases manipulation with
  | async => exact { good with }
  | cancelAll =>
      exact { good with
        fresh := fun id isIn => absurd isIn List.not_mem_nil
        nodup := List.nodup_nil
        stamped := fun id isIn => absurd isIn List.not_mem_nil
        sorted := List.Pairwise.nil
        queued := fun id isIn => absurd isIn List.not_mem_nil
        out := fun _ _ _ => List.not_mem_nil }
  | cancelGroup group => exact (removed_cancelGroup good group).good
  | cancelGroupsOf groups => exact (removed_cancelGroupsOf good groups).good
  | delayAll duration => exact (good.modified (retimes_delay duration)).good
  | delayGroup group duration => exact (good.modified (retimes_delay duration)).good
  | rescheduleAll duration => exact (good.modified (retimes_reschedule _)).good
  | rescheduleGroup group duration => exact (good.modified (retimes_reschedule _)).good

theorem outer_manipulate (good : Good scheduler) (manipulation : Manipulation) :
    Outer scheduler (scheduler.manipulate manipulation) := by
  cases manipulation with
  | async => exact ⟨rfl, rfl, rfl, rfl, rfl, rfl, rfl, rfl, rfl⟩
  | cancelAll => exact ⟨rfl, rfl, rfl, rfl, rfl, rfl, rfl, rfl, rfl⟩
  | cancelGroup group => exact (removed_cancelGroup good group).outer
  | cancelGroupsOf groups => exact (removed_cancelGroupsOf good groups).outer
  | delayAll duration => exact (good.modified (retimes_delay duration)).outer
  | delayGroup group duration => exact (good.modified (retimes_delay duration)).outer
  | rescheduleAll duration => exact (good.modified (retimes_reschedule _)).outer
  | rescheduleGroup group duration => exact (good.modified (retimes_reschedule _)).outer

/-- All calls but two leave the asyncs alone. -/
theorem asyncs_manipulate (good : Good scheduler) {manipulation : Manipulation}
    (notAsync : manipulation ≠ .async) (notCancelAll : manipulation ≠ .cancelAll) :
    Asyncs scheduler (scheduler.manipulate manipulation) := by
  cases manipulation with
  | async => exact absurd rfl notAsync
  | cancelAll => exact absurd rfl notCancelAll
  | cancelGroup group => exact (removed_cancelGroup good group).asyncs
  | cancelGroupsOf groups => exact (removed_cancelGroupsOf good groups).asyncs
  | delayAll duration => exact (good.modified (retimes_delay duration)).asyncs
  | delayGroup group duration => exact (good.modified (retimes_delay duration)).asyncs
  | rescheduleAll duration => exact (good.modified (retimes_reschedule _)).asyncs
  | rescheduleGroup group duration => exact (good.modified (retimes_reschedule _)).asyncs

theorem outer_repeatTask (handle : ContextId) (duration : Int) :
    Outer scheduler (scheduler.repeatTask handle duration) := by
  unfold repeatTask
  dsimp only
  split_ifs
  · exact .refl _
  · exact ⟨rfl, rfl, rfl, rfl, rfl, rfl, rfl, rfl, rfl⟩

theorem asyncs_repeatTask (handle : ContextId) (duration : Int) :
    Asyncs scheduler (scheduler.repeatTask handle duration) := by
  unfold repeatTask
  dsimp only
  split_ifs
  · exact .refl _
  · exact ⟨rfl, rfl, rfl⟩

theorem good_contextCall (good : Good scheduler) (handle : ContextId) (call : ContextCall) :
    Good (scheduler.contextCall handle call) := by
  unfold contextCall
  split_ifs with isHandle
  · cases call with
    | «repeat» duration => exact good_repeatTask good isHandle duration
    | schedule time group => exact good_scheduleAt good _ time group
    | setGroup group => exact good_assignGroup good _ _
    | clearGroup => exact good_assignGroup good _ _
    | manipulate manipulation => exact good_manipulate good manipulation
  · exact good

theorem outer_contextCall (good : Good scheduler) (handle : ContextId) (call : ContextCall) :
    Outer scheduler (scheduler.contextCall handle call) := by
  unfold contextCall
  split_ifs
  · cases call with
    | «repeat» duration => exact outer_repeatTask handle duration
    | schedule time group => exact ⟨rfl, rfl, rfl, rfl, rfl, rfl, rfl, rfl, rfl⟩
    | setGroup group => exact ⟨rfl, rfl, rfl, rfl, rfl, rfl, rfl, rfl, rfl⟩
    | clearGroup => exact ⟨rfl, rfl, rfl, rfl, rfl, rfl, rfl, rfl, rfl⟩
    | manipulate manipulation => exact outer_manipulate good manipulation
  · exact .refl _

/-! ### Asyncs -/

/-- Every async was invoked or cancelled, or waits, and once each. -/
def Accounted (scheduler : TaskScheduler) (waiting : List AsyncId) : Prop :=
  (scheduler.asyncRuns ++ scheduler.cancelled ++ waiting).Perm (List.range scheduler.asyncs)

theorem Accounted.of_asyncs {next : TaskScheduler} (outer : Outer scheduler next)
    (asyncs : Asyncs scheduler next) (accounted : Accounted scheduler scheduler.asyncHolder) :
    Accounted next next.asyncHolder := by
  unfold Accounted
  rw [outer.asyncRuns, asyncs.cancelled, asyncs.asyncHolder, asyncs.asyncs]
  exact accounted

theorem accounted_manipulate (good : Good scheduler) (manipulation : Manipulation)
    (accounted : Accounted scheduler scheduler.asyncHolder) :
    Accounted (scheduler.manipulate manipulation)
      (scheduler.manipulate manipulation).asyncHolder := by
  by_cases isAsync : manipulation = .async
  · subst isAsync
    show (scheduler.asyncRuns ++ scheduler.cancelled ++
      (scheduler.asyncHolder ++ [scheduler.asyncs])).Perm (List.range (scheduler.asyncs + 1))
    rw [← List.append_assoc, List.range_succ]
    exact List.Perm.append_right _ accounted
  · by_cases isCancel : manipulation = .cancelAll
    · subst isCancel
      show (scheduler.asyncRuns ++ (scheduler.asyncHolder ++ scheduler.cancelled) ++ []).Perm
        (List.range scheduler.asyncs)
      refine List.Perm.trans ?_ accounted
      rw [List.append_nil, List.append_assoc]
      exact List.Perm.append_left _ List.perm_append_comm
    · exact accounted.of_asyncs (outer_manipulate good _)
        (asyncs_manipulate good isAsync isCancel)

theorem accounted_contextCall (good : Good scheduler) (handle : ContextId) (call : ContextCall)
    (accounted : Accounted scheduler scheduler.asyncHolder) :
    Accounted (scheduler.contextCall handle call)
      (scheduler.contextCall handle call).asyncHolder := by
  unfold contextCall
  split_ifs
  · cases call with
    | «repeat» duration =>
        exact accounted.of_asyncs (outer_repeatTask handle duration)
          (asyncs_repeatTask handle duration)
    | schedule time group => exact accounted
    | setGroup group => exact accounted
    | clearGroup => exact accounted
    | manipulate manipulation => exact accounted_manipulate good manipulation accounted
  · exact accounted

end Calls

end TaskScheduler

end RealmServer.Utilities
