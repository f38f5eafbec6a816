import Mathlib.Data.List.Sort
import Mathlib.Logic.Function.Basic

/-!
# The task scheduler

Tasks are shared between the queue and the contexts which were handed out for
them; a context can be kept and used later.  What the callables do is not known:
each time one is invoked it performs some list of calls, which `Code` gives, and
`Code` answers for the validator as well.

Time is an integer.  The functions with two durations choose one in between and
call the function with one duration, and `Repeat` without a duration is called
with that of the task.
-/

namespace RealmServer.Utilities

abbrev TaskId := Nat

abbrev ContextId := Nat

abbrev AsyncId := Nat

/-- `group_t`. -/
abbrev Group := UInt32

structure Task where
  /-- `_end`. -/
  endTime : Int
  duration : Int
  group : Option Group
  repeated : UInt32
  /-- Which insertion into the container put it there. -/
  inserted : Nat
  /-- How often it was invoked. -/
  runs : Nat
  /-- How often it was repeated, without overflow. -/
  repeats : Nat
  /-- The time point it was scheduled at. -/
  scheduledAt : Int
  /-- Nothing but a repetition with the same duration has changed its end. -/
  regular : Bool
deriving DecidableEq, Inhabited

namespace Task

def isInGroup (task : Task) (group : Group) : Bool := task.group = some group

end Task

structure TaskContext where
  task : TaskId
  consumed : Bool
deriving DecidableEq, Inhabited

/-- An invocation of a task. -/
structure Run where
  endTime : Int
  inserted : Nat
  /-- `_now` at the invocation. -/
  now : Int
deriving DecidableEq

structure TaskScheduler where
  now : Int
  /-- The tasks by their pointers, of which `tasks` are given out. -/
  task : TaskId → Task
  tasks : Nat
  insertions : Nat
  /-- `_task_holder`, by `Compare`. -/
  container : List TaskId
  asyncHolder : List AsyncId
  /-- How many callables were given to `Async`. -/
  asyncs : Nat
  /-- The contexts with their copies. -/
  context : ContextId → TaskContext
  contexts : Nat
  /-- The invocations of asyncs, the last one first. -/
  asyncRuns : List AsyncId
  /-- The asyncs that `CancelAll` removed. -/
  cancelled : List AsyncId
  /-- How many asyncs there were when the last `Update` began. -/
  asyncsBefore : Nat
  /-- How often a task was invoked. -/
  taskRuns : Nat
  /-- The invocations of tasks in the last `Update`, the last one first. -/
  runs : List Run
  /-- How often the validator was asked. -/
  questions : Nat
  /-- The last call was an `Update` that came to its end. -/
  finished : Bool
  /-- `pop` was called for an empty container. -/
  removedFromEmpty : Bool

/-! ## Calls -/

/-- What a scheduler and a context offer alike. -/
inductive Manipulation where
  | async
  | cancelAll
  | cancelGroup (group : Group)
  | cancelGroupsOf (groups : List Group)
  | delayAll (duration : Int)
  | delayGroup (group : Group) (duration : Int)
  | rescheduleAll (duration : Int)
  | rescheduleGroup (group : Group) (duration : Int)

inductive ContextCall where
  | repeat (duration : Int)
  | schedule (time : Int) (group : Option Group)
  | setGroup (group : Group)
  | clearGroup
  | manipulate (manipulation : Manipulation)

inductive SchedulerCall where
  | schedule (time : Int) (group : Option Group)
  | manipulate (manipulation : Manipulation)
  /-- A call for a context which was kept. -/
  | context (handle : ContextId) (call : ContextCall)
  | update (difftime : Nat)

/-- What the callables do when they are invoked. -/
structure Code where
  /-- The calls of an async, by the number of invocations before. -/
  async : Nat → List SchedulerCall
  /-- The calls of a task; `none` is its own context. -/
  task : Nat → List (Option ContextId × ContextCall)
  /-- `_predicate`, by the number of times it was asked before. -/
  predicate : Nat → Bool

namespace TaskScheduler

/-- A new scheduler. -/
def start (now : Int) : TaskScheduler where
  now := now
  task := fun _ => default
  tasks := 0
  insertions := 0
  container := []
  asyncHolder := []
  asyncs := 0
  context := fun _ => default
  contexts := 0
  asyncRuns := []
  cancelled := []
  asyncsBefore := 0
  taskRuns := 0
  runs := []
  questions := 0
  finished := false
  removedFromEmpty := false

variable (scheduler : TaskScheduler)

/-! ### The task queue -/

/-- `TaskQueue::Push`: behind the tasks with the same end. -/
def push (id : TaskId) : TaskScheduler :=
  { scheduler with
    task := Function.update scheduler.task id
      { scheduler.task id with inserted := scheduler.insertions }
    insertions := scheduler.insertions + 1
    container := scheduler.container.orderedInsert
      (fun left right => (scheduler.task left).endTime < (scheduler.task right).endTime) id }

/-- `TaskQueue::RemoveIf`. -/
def removeIf (filter : Task → Bool) : TaskScheduler :=
  { scheduler with
    container := scheduler.container.filter fun id => !filter (scheduler.task id) }

/-- The tasks that a filter of `TaskQueue::ModifyIf` accepts. -/
def cache (filter : Task → Bool) : List TaskId :=
  scheduler.container.filter fun id => filter (scheduler.task id)

/-- `TaskQueue::ModifyIf`, where the filter changes what it accepts. -/
def modifyIf (filter : Task → Bool) (change : Task → Task) : TaskScheduler :=
  let cache := scheduler.cache filter
  let scheduler :=
    { scheduler with
      task := fun id => if id ∈ cache then change (scheduler.task id) else scheduler.task id
      container := scheduler.container.filter fun id => !filter (scheduler.task id) }
  cache.foldl push scheduler

/-! ### Operations -/

def scheduleAt (timePoint time : Int) (group : Option Group) : TaskScheduler :=
  let task : Task :=
    { endTime := timePoint + time
      duration := time
      group := group
      repeated := 0
      inserted := 0
      runs := 0
      repeats := 0
      scheduledAt := timePoint
      regular := true }
  push
    { scheduler with
      task := Function.update scheduler.task scheduler.tasks task
      tasks := scheduler.tasks + 1 }
    scheduler.tasks

def delay (filter : Task → Bool) (duration : Int) : TaskScheduler :=
  scheduler.modifyIf filter fun task =>
    { task with endTime := task.endTime + duration, regular := false }

def reschedule (filter : Task → Bool) (duration : Int) : TaskScheduler :=
  let endTime := scheduler.now + duration
  scheduler.modifyIf filter fun task => { task with endTime := endTime, regular := false }

def cancelGroup (group : Group) : TaskScheduler :=
  scheduler.removeIf (·.isInGroup group)

def manipulate : Manipulation → TaskScheduler
  | .async =>
      { scheduler with
        asyncHolder := scheduler.asyncHolder ++ [scheduler.asyncs]
        asyncs := scheduler.asyncs + 1 }
  | .cancelAll =>
      { scheduler with
        container := []
        asyncHolder := []
        cancelled := scheduler.asyncHolder ++ scheduler.cancelled }
  | .cancelGroup group => scheduler.cancelGroup group
  | .cancelGroupsOf groups => groups.foldl cancelGroup scheduler
  | .delayAll duration => scheduler.delay (fun _ => true) duration
  | .delayGroup group duration => scheduler.delay (·.isInGroup group) duration
  | .rescheduleAll duration => scheduler.reschedule (fun _ => true) duration
  | .rescheduleGroup group duration => scheduler.reschedule (·.isInGroup group) duration

/-- `TaskContext::Repeat`. -/
def repeatTask (handle : ContextId) (duration : Int) : TaskScheduler :=
  let context := scheduler.context handle
  -- `AssertOnConsumed`
  if context.consumed then scheduler
  else
    let task := scheduler.task context.task
    push
      { scheduler with
        task := Function.update scheduler.task context.task
          { task with
            duration := duration
            endTime := task.endTime + duration
            repeated := task.repeated + 1
            repeats := task.repeats + 1
            regular := task.regular && duration = task.duration }
        context := Function.update scheduler.context handle { context with consumed := true } }
      context.task

/-- `SetGroup` and `ClearGroup`. -/
def assignGroup (id : TaskId) (group : Option Group) : TaskScheduler :=
  { scheduler with
    task := Function.update scheduler.task id { scheduler.task id with group := group } }

def contextCall (handle : ContextId) (call : ContextCall) : TaskScheduler :=
  if handle < scheduler.contexts then
    match call with
    | .repeat duration => scheduler.repeatTask handle duration
    | .schedule time group =>
        scheduler.scheduleAt (scheduler.task (scheduler.context handle).task).endTime time group
    | .setGroup group => scheduler.assignGroup (scheduler.context handle).task (some group)
    | .clearGroup => scheduler.assignGroup (scheduler.context handle).task none
    | .manipulate manipulation => scheduler.manipulate manipulation
  else scheduler

/-! ### Update -/

/-- A call, for which `nested` is an `Update`. -/
def perform (nested : TaskScheduler → Nat → Option TaskScheduler) :
    SchedulerCall → Option TaskScheduler
  | .schedule time group => some (scheduler.scheduleAt scheduler.now time group)
  | .manipulate manipulation => some (scheduler.manipulate manipulation)
  | .context handle call => some (scheduler.contextCall handle call)
  | .update difftime => nested scheduler difftime

/-- The first async is invoked while it is still in the queue. -/
def beginAsync (front : AsyncId) : TaskScheduler :=
  { scheduler with asyncRuns := front :: scheduler.asyncRuns }

def popAsync : TaskScheduler :=
  { scheduler with
    asyncHolder := scheduler.asyncHolder.tail
    removedFromEmpty := scheduler.removedFromEmpty || scheduler.asyncHolder.isEmpty }

/-- The first task is popped, and a context is made for it. -/
def popTask (first : TaskId) : TaskScheduler :=
  let task := scheduler.task first
  { scheduler with
    task := Function.update scheduler.task first { task with runs := task.runs + 1 }
    container := scheduler.container.tail
    context := Function.update scheduler.context scheduler.contexts ⟨first, false⟩
    contexts := scheduler.contexts + 1
    taskRuns := scheduler.taskRuns + 1
    runs := ⟨task.endTime, task.inserted, scheduler.now⟩ :: scheduler.runs }

/-- The calls of a task that was invoked, whose context is `own`. -/
def invoke (own : ContextId) (calls : List (Option ContextId × ContextCall)) : TaskScheduler :=
  calls.foldl (fun scheduler call => scheduler.contextCall (call.1.getD own) call.2) scheduler

def ask : TaskScheduler := { scheduler with questions := scheduler.questions + 1 }

def finish : TaskScheduler := { scheduler with finished := true }

/-- The loops of `Dispatch`. -/
inductive Loop where
  | asyncs
  | tasks

/-- The time has passed, and `Dispatch` begins. -/
def elapse (difftime : Nat) : TaskScheduler :=
  { scheduler with
    now := scheduler.now + difftime
    asyncsBefore := scheduler.asyncs
    runs := []
    finished := false }

/-- `Dispatch` from one of its loops on; `none` if there is not enough fuel. -/
def dispatch (code : Code) : Nat → Loop → TaskScheduler → Option TaskScheduler
  | 0, _, _ => none
  | fuel + 1, .asyncs, scheduler =>
      match scheduler.asyncHolder with
      | [] => dispatch code fuel .tasks scheduler
      | front :: _ =>
          let nested (scheduler : TaskScheduler) (difftime : Nat) :=
            let scheduler := scheduler.elapse difftime
            if code.predicate scheduler.questions then
              dispatch code fuel .asyncs scheduler.ask
            else some scheduler.ask
          let calls := code.async scheduler.asyncRuns.length
          match calls.foldlM (fun scheduler call => scheduler.perform nested call)
              (scheduler.beginAsync front) with
          | none => none
          | some scheduler =>
              let scheduler := scheduler.popAsync
              -- If the validation failed abort the dispatching here.
              if code.predicate scheduler.questions then
                dispatch code fuel .asyncs scheduler.ask
              else some scheduler.ask
  | fuel + 1, .tasks, scheduler =>
      match scheduler.container with
      | [] => some scheduler.finish
      | first :: _ =>
          if scheduler.now < (scheduler.task first).endTime then some scheduler.finish
          else
            let scheduler' := (scheduler.popTask first).invoke scheduler.contexts
              (code.task scheduler.taskRuns)
            -- If the validation failed abort the dispatching here.
            if code.predicate scheduler'.questions then
              dispatch code fuel .tasks scheduler'.ask
            else some scheduler'.ask

/-- `Update` with a difftime. -/
def update (code : Code) (fuel : Nat) (difftime : Nat) : Option TaskScheduler :=
  let scheduler := scheduler.elapse difftime
  if code.predicate scheduler.questions then dispatch code fuel .asyncs scheduler.ask
  else some scheduler.ask

/-- A call from outside. -/
def call (code : Code) (fuel : Nat) (schedulerCall : SchedulerCall) : Option TaskScheduler :=
  { scheduler with finished := false }.perform
    (fun scheduler difftime => scheduler.update code fuel difftime) schedulerCall

end TaskScheduler

/-- A run of calls, each of which ends. -/
inductive Calls (code : Code) : TaskScheduler → List SchedulerCall → TaskScheduler → Prop where
  | nil (scheduler) : Calls code scheduler [] scheduler
  | cons {scheduler next last : TaskScheduler} {first : SchedulerCall}
      {rest : List SchedulerCall} (fuel : Nat) (ends : scheduler.call code fuel first = some next)
      (others : Calls code next rest last) : Calls code scheduler (first :: rest) last

end RealmServer.Utilities
