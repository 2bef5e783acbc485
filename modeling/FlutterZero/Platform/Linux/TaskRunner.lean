import Mathlib.Data.List.Basic
import FlutterZero.Lib.Machine

/-! # The task runner on Linux

`FlTaskRunner` (`fl_task_runner.cc`): tasks are posted from any thread, and executed on the
platform thread, when a timeout source of GLib expires or in `fl_task_runner_wait`.

A step is what is done with the mutex held, the execution of one task, or an expiry in the main
loop.  Tasks are executed with the mutex released, and a task that is running may wait for
others or run the main loop itself: the calls of the platform thread are a stack.  The engine is
alive.
-/

namespace FlutterZero.Platform.Linux

open FlutterZero.Lib

def kMicrosecondsPerNanosecond : Nat := 1000
def kMillisecondsPerMicrosecond : Nat := 1000
def gMaxInt64 : Nat := 2 ^ 63 - 1
/-- The number of values of a `guint`. -/
def gUintRange : Nat := 2 ^ 32

/-- `order` tells the tasks apart: it is the number of those that were posted earlier.  The target time is
    the one that was given with the task. -/
structure FlTaskRunnerTask (α : Type) where
  task : α
  taskTimeMicros : Nat
  order : Nat
  targetTimeNanos : UInt64
deriving DecidableEq, Repr

/-- A timeout source of the main loop, with the time in microseconds at which it expires. -/
structure TimeoutSource where
  id : Nat
  due : Nat
deriving DecidableEq, Repr

inductive Frame (α : Type) where
  /-- `fl_task_runner_wait` at the condition variable. -/
  | waiting
  /-- `fl_task_runner_on_expired_timeout` before it has locked the mutex. -/
  | expired
  /-- Either of them with the expired tasks that it still has to execute; one that it has taken may be
      running. -/
  | processing (expiredTasks : List (FlTaskRunnerTask α)) (running : Bool)
deriving DecidableEq, Repr

/-- A task that `fl_engine_execute_task` was called with, and when. -/
structure Execution (α : Type) where
  task : FlTaskRunnerTask α
  nanos : Nat
deriving DecidableEq, Repr

structure TaskRunner (α : Type) where
  now : Nat
  timeoutSourceId : Nat
  pendingTasks : List (FlTaskRunnerTask α)
  /-- The timeout sources that are armed in the main loop, and the id of the next one. -/
  sources : List TimeoutSource
  nextSourceId : Nat
  /-- The calls on the platform thread, the innermost first. -/
  stack : List (Frame α)
  /-- All tasks that were posted, in their order. -/
  posted : List (FlTaskRunnerTask α)
  executed : List (Execution α)
deriving DecidableEq, Repr

/-- Not a failure: a step that is not possible now. -/
inductive RunnerFault where
  | notEnabled
deriving DecidableEq, Repr

namespace TaskRunner

variable {α : Type}

def create : TaskRunner α where
  now := 0
  timeoutSourceId := 0
  pendingTasks := []
  sources := []
  nextSourceId := 1
  stack := []
  posted := []
  executed := []

/-- `g_get_monotonic_time`, in microseconds. -/
def monotonicTime (s : TaskRunner α) : Nat := s.now / 1000

/-- `fl_task_runner_next_task_expiration_time_locked` -/
def nextTaskExpirationTime (s : TaskRunner α) : Nat :=
  s.pendingTasks.foldl (fun minTime task => min minTime task.taskTimeMicros) gMaxInt64

/-- `g_timeout_add`: the interval is a `guint`. -/
def gTimeoutAdd (s : TaskRunner α) (intervalMillis : Nat) : TaskRunner α :=
  { s with
    timeoutSourceId := s.nextSourceId
    sources := s.sources ++ [⟨s.nextSourceId, s.monotonicTime + intervalMillis % gUintRange * 1000⟩]
    nextSourceId := s.nextSourceId + 1 }

/-- `g_source_remove`, which does nothing about a source that is being dispatched. -/
def gSourceRemove (s : TaskRunner α) (id : Nat) : TaskRunner α :=
  { s with sources := s.sources.filter fun source => source.id ≠ id }

/-- `fl_task_runner_tasks_did_change_locked` -/
def tasksDidChange (s : TaskRunner α) : TaskRunner α :=
  let s := if s.timeoutSourceId ≠ 0 then { s.gSourceRemove s.timeoutSourceId with timeoutSourceId := 0 } else s
  let minTime := s.nextTaskExpirationTime
  if minTime ≠ gMaxInt64 then s.gTimeoutAdd ((minTime - s.monotonicTime) / kMillisecondsPerMicrosecond + 1) else s

/-- `fl_task_runner_post_flutter_task` -/
def postFlutterTask (s : TaskRunner α) (task : α) (targetTimeNanos : UInt64) : TaskRunner α :=
  let runnerTask : FlTaskRunnerTask α :=
    ⟨task, targetTimeNanos.toNat / kMicrosecondsPerNanosecond, s.posted.length, targetTimeNanos⟩
  { s with
    posted := s.posted ++ [runnerTask]
    pendingTasks := s.pendingTasks ++ [runnerTask] }.tasksDidChange

/-- Whether the platform thread is in its main loop, or in a task that can run it or wait. -/
def isIdle (s : TaskRunner α) : Bool :=
  match s.stack with
  | [] => true
  | .processing _ true :: _ => true
  | _ => false

/-- The main loop dispatches the expired source at a position; its callback waits for the mutex first. -/
def dispatchSource (s : TaskRunner α) (i : Nat) : Except RunnerFault (TaskRunner α) :=
  match s.sources[i]? with
  | none => .error .notEnabled
  | some source =>
    if s.isIdle && source.due ≤ s.monotonicTime then
      .ok { s with sources := s.sources.eraseIdx i, stack := .expired :: s.stack }
    else .error .notEnabled

/-- `fl_task_runner_wait` up to the condition variable. -/
def beginWait (s : TaskRunner α) : Except RunnerFault (TaskRunner α) :=
  if s.isIdle then .ok { s with stack := .waiting :: s.stack } else .error .notEnabled

def isExpired (s : TaskRunner α) (task : FlTaskRunnerTask α) : Bool := task.taskTimeMicros ≤ s.monotonicTime

/-- The loop of `fl_task_runner_process_expired_tasks_locked`: a call that holds the mutex now moves the expired
    tasks to a list of its own. -/
def collect (s : TaskRunner α) (rest : List (Frame α)) : TaskRunner α :=
  { s with
    pendingTasks := s.pendingTasks.filter fun task => !s.isExpired task
    stack := .processing (s.pendingTasks.filter s.isExpired) false :: rest }

def proceed (s : TaskRunner α) : Except RunnerFault (TaskRunner α) :=
  match s.stack with
  | [] => .error .notEnabled
  -- The condition variable may wake up at any time.
  | .waiting :: rest => .ok (s.collect rest)
  | .expired :: rest => .ok ({ s with timeoutSourceId := 0 }.collect rest)
  | .processing (task :: expiredTasks) false :: rest =>
    .ok { s with
      stack := .processing expiredTasks true :: rest
      executed := s.executed ++ [⟨task, s.now⟩] }
  -- The task that is running returns.
  | .processing expiredTasks true :: rest => .ok { s with stack := .processing expiredTasks false :: rest }
  | .processing [] false :: rest => .ok { s with stack := rest }.tasksDidChange

/-! ## Operations -/

inductive Op (α : Type) where
  | tick (nanos : Nat)
  | postFlutterTask (task : α) (targetTimeNanos : UInt64)
  | dispatchSource (i : Nat)
  | beginWait
  | proceed

def step (s : TaskRunner α) : Op α → Except RunnerFault (Unit × TaskRunner α)
  | .tick nanos => .ok ((), { s with now := s.now + nanos })
  | .postFlutterTask task targetTimeNanos => .ok ((), s.postFlutterTask task targetTimeNanos)
  | .dispatchSource i => do return ((), ← s.dispatchSource i)
  | .beginWait => do return ((), ← s.beginWait)
  | .proceed => do return ((), ← s.proceed)

end TaskRunner

end FlutterZero.Platform.Linux
