import FlutterZero.Lib.Machine
import FlutterZero.Lib.PriorityQueue

/-! # The task runners on Windows

`TaskRunner` (`task_runner.cc`) and the window behind all of them, `TaskRunnerWindow`
(`task_runner_window.cc`): a post pushes its task and sees to it that a `WM_NULL` message is
queued; the main thread processes the tasks of all runners when it handles the message, and arms
the timer thread for those that are left; the timer thread sends a message in turn.

A step is one atomic operation or critical section of one thread.  A task that is running may
post, create and destroy task runners and run a nested message loop: what the main thread is doing
is a stack.  A post of the main thread is one of the calls in progress like any other.
`PostMessage` succeeds, and the window outlives the runs.  The counters `schedule_counter_` and
`sGlobalTaskOrder` are `uint64_t` in the source; that they wrap around after 2^64 increments is left out.
-/

namespace FlutterZero.Platform.Windows

open FlutterZero.Lib

/-- `std::chrono::nanoseconds::max()`, and the last time of the clock. -/
def kMaxNanoseconds : Int := 0x7FFFFFFFFFFFFFFF

structure Task (α : Type) where
  order : Nat
  fireTime : Int
  variant : α
deriving DecidableEq, Repr

namespace Task

variable {α : Type}

/-- `Comparer`. -/
def comparer (a b : Task α) : Bool :=
  if a.fireTime = b.fireTime then a.order > b.order else a.fireTime > b.fireTime

/-- `a` need not come after `b`. -/
def NotAfter (a b : Task α) : Prop := a.comparer b = false

instance : DecidableRel (NotAfter (α := α)) := fun a b => inferInstanceAs (Decidable (a.comparer b = false))

theorem notAfter_iff {a b : Task α} :
    NotAfter a b ↔ a.fireTime < b.fireTime ∨ a.fireTime = b.fireTime ∧ a.order ≤ b.order := by
  unfold NotAfter comparer
  split <;> rename_i same
  · simp [same]
  · simp only [gt_iff_lt, decide_eq_false_iff_not]
    omega

instance : Std.Refl (NotAfter (α := α)) := ⟨fun a => by simp [notAfter_iff]⟩

instance : Std.Total (NotAfter (α := α)) := ⟨fun a b => by simp only [notAfter_iff]; omega⟩

instance : IsTrans (Task α) NotAfter := ⟨fun a b c => by simp only [notAfter_iff]; omega⟩

end Task

/-- `std::priority_queue<Task, std::deque<Task>, Task::Comparer>`. -/
abbrev TaskQueue (α : Type) := PriorityQueue (Task.NotAfter (α := α))

structure TaskRunner (α : Type) where
  id : Nat
  taskQueue : TaskQueue α

/-- Where a call of `EnqueueTask` is. -/
inductive Call (α : Type) where
  | enqueueTask (runner : Nat) (task : Task α)
  /-- Before the `compare_exchange_strong` of `WakeUp`. -/
  | wakeUp
  | postMessage
deriving DecidableEq, Repr

inductive TimerThread where
  /-- In `wait_until`. -/
  | waiting
  /-- Before the `compare_exchange_strong` of its callback. -/
  | calling (scheduledCount : Nat)
  | posting (scheduledCount : Nat)
  /-- Back from its callback, before it has locked the mutex. -/
  | called (scheduledCount : Nat)
deriving DecidableEq, Repr

inductive Frame (α : Type) where
  /-- A `WM_NULL` has been retrieved; `wake_up_posted_` is not reset yet. -/
  | handleMessage
  /-- In the loop of `TaskRunnerWindow::ProcessTasks`, with what is left of the copy of the delegates. -/
  | processTasks (next : Int) (delegates : List Nat)
  /-- In `TaskRunner::ProcessTasks`, which has read the clock and not yet locked the mutex. -/
  | collect (next : Int) (delegates : List Nat) (runner : Nat) (now : Nat)
  /-- In `TaskRunner::ProcessTasks`, with the expired tasks that are left; the one before them may be running. -/
  | fire (next : Int) (delegates : List Nat) (runner : Nat) (now : Nat) (expiredTasks : List (Task α)) (running : Bool)
  /-- In the `SetTimer` at the end of `ProcessTasks`, before `ScheduleAt` has locked the mutex. -/
  | scheduleAt (timePoint : Int)
  /-- In the `SetTimer` of `AddDelegate`. -/
  | addDelegate (timePoint : Int)
deriving DecidableEq, Repr

structure TaskRunnerWindow (α : Type) where
  now : Nat
  delegates : List (TaskRunner α)
  wakeUpPosted : Bool
  /-- How many `WM_NULL` messages are queued. -/
  messages : Nat
  scheduleCounter : Nat
  nextFireTime : Int
  timerThread : TimerThread
  /-- What the main thread is doing, the innermost first. -/
  mainThread : List (Frame α)
  calls : List (Call α)
  /-- `sGlobalTaskOrder` -/
  globalTaskOrder : Nat

inductive WindowFault where
  | overflow
  /-- The task runner does not exist any more. -/
  | destroyed
  /-- Not a failure: a step that is not possible now. -/
  | notEnabled
deriving DecidableEq, Repr

namespace TaskRunnerWindow

variable {α : Type}

def create : TaskRunnerWindow α where
  now := 0
  delegates := []
  wakeUpPosted := false
  messages := 0
  scheduleCounter := 0
  nextFireTime := kMaxNanoseconds
  timerThread := .waiting
  mainThread := []
  calls := []
  globalTaskOrder := 0

def find (s : TaskRunnerWindow α) (runner : Nat) : Option (TaskRunner α) :=
  s.delegates.find? fun delegate => delegate.id = runner

def setTaskQueue (s : TaskRunnerWindow α) (runner : Nat) (taskQueue : TaskQueue α) : TaskRunnerWindow α :=
  { s with delegates := s.delegates.map fun delegate =>
      if delegate.id = runner then { delegate with taskQueue := taskQueue } else delegate }

/-- Whether the main thread is in its message loop, or in a task that can run one. -/
def isIdle (s : TaskRunnerWindow α) : Bool :=
  match s.mainThread with
  | [] => true
  | .fire _ _ _ _ _ true :: _ => true
  | _ => false

/-! ## Posting -/

/-- `TimePointFromFlutterTime`, with the value of `get_current_time_`. -/
def timePointFromFlutterTime (s : TaskRunnerWindow α) (flutterTargetTimeNanos currentTime : UInt64) :
    Except WindowFault Int :=
  -- The difference wraps around, and is signed from here.
  let flutterDuration : Int := (flutterTargetTimeNanos - currentTime).toInt64.toInt
  if s.now + flutterDuration ≤ kMaxNanoseconds then .ok (s.now + flutterDuration) else .error .overflow

/-- `EnqueueTask` up to the mutex. -/
def enqueueTask (s : TaskRunnerWindow α) (runner : Nat) (variant : α) (fireTime : Int) :
    Except WindowFault (TaskRunnerWindow α) :=
  if (s.find runner).isSome then
    .ok { s with
      globalTaskOrder := s.globalTaskOrder + 1
      calls := s.calls ++ [.enqueueTask runner ⟨s.globalTaskOrder + 1, fireTime, variant⟩] }
  else .error .destroyed

def postFlutterTask (s : TaskRunnerWindow α) (runner : Nat) (flutterTask : α)
    (flutterTargetTimeNanos currentTime : UInt64) : Except WindowFault (TaskRunnerWindow α) := do
  s.enqueueTask runner flutterTask (← s.timePointFromFlutterTime flutterTargetTimeNanos currentTime)

def postTask (s : TaskRunnerWindow α) (runner : Nat) (closure : α) : Except WindowFault (TaskRunnerWindow α) :=
  s.enqueueTask runner closure s.now

def advanceCall (s : TaskRunnerWindow α) (i : Nat) : Except WindowFault (TaskRunnerWindow α) :=
  match s.calls[i]? with
  | none => .error .notEnabled
  | some (.enqueueTask runner task) =>
    match s.find runner with
    | none => .error .destroyed
    | some delegate =>
      .ok { s.setTaskQueue runner (delegate.taskQueue.push task) with calls := s.calls.set i .wakeUp }
  | some .wakeUp =>
    if s.wakeUpPosted then .ok { s with calls := s.calls.eraseIdx i }
    else .ok { s with wakeUpPosted := true, calls := s.calls.set i .postMessage }
  | some .postMessage => .ok { s with messages := s.messages + 1, calls := s.calls.eraseIdx i }

/-! ## The timer thread -/

/-- The critical section of `ScheduleAt`. -/
def scheduleAt (s : TaskRunnerWindow α) (timePoint : Int) : TaskRunnerWindow α :=
  { s with
    nextFireTime := if timePoint < s.nextFireTime then timePoint else s.nextFireTime
    scheduleCounter := s.scheduleCounter + 1 }

/-- `TimerThreadMain` and the `WakeUp` of its callback. -/
def advanceTimerThread (s : TaskRunnerWindow α) : Except WindowFault (TaskRunnerWindow α) :=
  match s.timerThread with
  | .waiting =>
    if s.nextFireTime ≤ s.now then .ok { s with timerThread := .calling s.scheduleCounter } else .error .notEnabled
  | .calling scheduledCount =>
    if s.wakeUpPosted then .ok { s with timerThread := .called scheduledCount }
    else .ok { s with wakeUpPosted := true, timerThread := .posting scheduledCount }
  | .posting scheduledCount => .ok { s with messages := s.messages + 1, timerThread := .called scheduledCount }
  | .called scheduledCount =>
    if scheduledCount = s.scheduleCounter ∧ s.nextFireTime ≤ s.now then
      .ok { s with nextFireTime := kMaxNanoseconds, timerThread := .waiting }
    else .ok { s with timerThread := .waiting }

/-! ## The main thread -/

/-- `SetTimer` up to `ScheduleAt`: the time point that it computes. -/
def setTimer (s : TaskRunnerWindow α) (when_ : Int) : Int := s.now + min when_ (kMaxNanoseconds - s.now)

def createTaskRunner (s : TaskRunnerWindow α) (id : Nat) : Except WindowFault (TaskRunnerWindow α) :=
  if s.isIdle && (s.find id).isNone then
    .ok { s with
      delegates := s.delegates ++ [⟨id, .empty⟩]
      mainThread := .addDelegate (s.setTimer 0) :: s.mainThread }
  else .error .notEnabled

def destroyTaskRunner (s : TaskRunnerWindow α) (id : Nat) : Except WindowFault (TaskRunnerWindow α) :=
  if s.isIdle then .ok { s with delegates := s.delegates.filter fun delegate => delegate.id ≠ id }
  else .error .notEnabled

/-- `GetMessage`, in the message loop or in `PollOnce`. -/
def getMessage (s : TaskRunnerWindow α) : Except WindowFault (TaskRunnerWindow α) :=
  if s.isIdle && 0 < s.messages then
    .ok { s with messages := s.messages - 1, mainThread := .handleMessage :: s.mainThread }
  else .error .notEnabled

/-- The tasks that the loop of `TaskRunner::ProcessTasks` takes from the queue. -/
def expiredTasks (taskQueue : TaskQueue α) (now : Nat) : List (Task α) :=
  taskQueue.items.takeWhile fun task => task.fireTime ≤ now

def popExpiredTasks (taskQueue : TaskQueue α) (now : Nat) : TaskQueue α where
  items := taskQueue.items.dropWhile fun task => task.fireTime ≤ now
  ordered := taskQueue.ordered.sublist (List.dropWhile_sublist _)

/-- The duration that `TaskRunner::ProcessTasks` returns. -/
def durationToNext (taskQueue : TaskQueue α) (now : Nat) : Except WindowFault Int :=
  match taskQueue.top? with
  | none => .ok kMaxNanoseconds
  | some top =>
    if -0x8000000000000000 ≤ top.fireTime - now then .ok (top.fireTime - now) else .error .overflow

def advanceMainThread (s : TaskRunnerWindow α) : Except WindowFault (TaskRunnerWindow α) :=
  match s.mainThread with
  | [] => .error .notEnabled
  | .handleMessage :: rest =>
    .ok { s with
      wakeUpPosted := false
      mainThread := .processTasks kMaxNanoseconds (s.delegates.map TaskRunner.id) :: rest }
  | .processTasks next (runner :: delegates) :: rest =>
    -- It may have been removed in the meanwhile.
    if (s.find runner).isSome then .ok { s with mainThread := .collect next delegates runner s.now :: rest }
    else .ok { s with mainThread := .processTasks next delegates :: rest }
  | .processTasks next [] :: rest => .ok { s with mainThread := .scheduleAt (s.setTimer next) :: rest }
  | .collect next delegates runner now :: rest =>
    match s.find runner with
    | none => .error .destroyed
    | some delegate =>
      .ok { s.setTaskQueue runner (popExpiredTasks delegate.taskQueue now) with
        mainThread := .fire next delegates runner now (expiredTasks delegate.taskQueue now) false :: rest }
  | .fire next delegates runner now (_ :: expiredTasks) false :: rest =>
    .ok { s with mainThread := .fire next delegates runner now expiredTasks true :: rest }
  -- The task that is running returns.
  | .fire next delegates runner now expiredTasks true :: rest =>
    .ok { s with mainThread := .fire next delegates runner now expiredTasks false :: rest }
  | .fire next delegates runner now [] false :: rest =>
    match s.find runner with
    | none => .error .destroyed
    | some delegate => do
      let duration ← durationToNext delegate.taskQueue now
      return { s with mainThread := .processTasks (min next duration) delegates :: rest }
  | .scheduleAt timePoint :: rest => .ok { s.scheduleAt timePoint with mainThread := rest }
  | .addDelegate timePoint :: rest => .ok { s.scheduleAt timePoint with mainThread := rest }

/-! ## Operations -/

inductive Op (α : Type) where
  | tick (nanos : Nat)
  | postFlutterTask (runner : Nat) (flutterTask : α) (flutterTargetTimeNanos currentTime : UInt64)
  | postTask (runner : Nat) (closure : α)
  | createTaskRunner (id : Nat)
  | destroyTaskRunner (id : Nat)
  | getMessage
  | advanceCall (i : Nat)
  | advanceTimerThread
  | advanceMainThread

def tick (s : TaskRunnerWindow α) (nanos : Nat) : Except WindowFault (TaskRunnerWindow α) :=
  if (s.now + nanos : Nat) ≤ kMaxNanoseconds then .ok { s with now := s.now + nanos } else .error .notEnabled

def step (s : TaskRunnerWindow α) : Op α → Except WindowFault (Unit × TaskRunnerWindow α)
  | .tick nanos => do return ((), ← s.tick nanos)
  | .postFlutterTask runner flutterTask flutterTargetTimeNanos currentTime => do
    return ((), ← s.postFlutterTask runner flutterTask flutterTargetTimeNanos currentTime)
  | .postTask runner closure => do return ((), ← s.postTask runner closure)
  | .createTaskRunner id => do return ((), ← s.createTaskRunner id)
  | .destroyTaskRunner id => do return ((), ← s.destroyTaskRunner id)
  | .getMessage => do return ((), ← s.getMessage)
  | .advanceCall i => do return ((), ← s.advanceCall i)
  | .advanceTimerThread => do return ((), ← s.advanceTimerThread)
  | .advanceMainThread => do return ((), ← s.advanceMainThread)

end TaskRunnerWindow

end FlutterZero.Platform.Windows
