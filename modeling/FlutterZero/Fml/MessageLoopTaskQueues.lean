import FlutterZero.Fml.TaskSource

/-! # The task queues of all message loops

`MessageLoopTaskQueues` (`message_loop_task_queues.cc`): the singleton that holds
the tasks of every message loop, merges queues into one another and wakes the
loop that has something to do.  Every method takes the same mutex for its whole
body, so a method is one step on the state; `step` collects them.

A method that can throw or meet a check returns in `Except Fault`.
-/

namespace FlutterZero.Fml

open FlutterZero.Lib

/-- A `Wakeable` as seen from here: the times of the `WakeUp` calls it has received, the
    latest first. -/
structure Wakeable where
  wakeUps : List TimePoint
deriving DecidableEq, Repr

structure TaskQueueEntry (α : Type) where
  wakeable : Option Wakeable
  taskObservers : Std.TreeMap Int α
  taskSource : TaskSource α
  ownerOf : Std.TreeSet TaskQueueId
  /-- The queue that subsumes this one, `none` for `kUnmerged`. -/
  subsumedBy : Option TaskQueueId
  createdFor : TaskQueueId

def TaskQueueEntry.create {α : Type} (createdFor : TaskQueueId) : TaskQueueEntry α where
  wakeable := none
  taskObservers := ∅
  taskSource := .create createdFor
  ownerOf := ∅
  subsumedBy := none
  createdFor := createdFor

structure MessageLoopTaskQueues (α : Type) where
  queueEntries : Std.TreeMap TaskQueueId (TaskQueueEntry α)
  taskQueueIdCounter : Nat
  /-- `order_`, an `atomic_int`. -/
  order : BitVec 32
  /-- `tls_task_source_grade` of the calling thread. -/
  taskSourceGrade : TaskSourceGrade

namespace MessageLoopTaskQueues

variable {α : Type}

/-- The state `GetInstance` makes. -/
def initial : MessageLoopTaskQueues α where
  queueEntries := ∅
  taskQueueIdCounter := 0
  order := 0
  taskSourceGrade := .unspecified

def find (s : MessageLoopTaskQueues α) (queueId : TaskQueueId) : Option (TaskQueueEntry α) :=
  s.queueEntries[queueId]?

/-- `queue_entries_.at(queue_id)`. -/
def entryAt (s : MessageLoopTaskQueues α) (queueId : TaskQueueId) :
    Except Fault (TaskQueueEntry α) :=
  match s.find queueId with
  | some entry => .ok entry
  | none => .error .outOfRange

def setEntry (s : MessageLoopTaskQueues α) (queueId : TaskQueueId) (entry : TaskQueueEntry α) :
    MessageLoopTaskQueues α :=
  { s with queueEntries := s.queueEntries.insert queueId entry }

def eraseEntry (s : MessageLoopTaskQueues α) (queueId : TaskQueueId) : MessageLoopTaskQueues α :=
  { s with queueEntries := s.queueEntries.erase queueId }

/-! ## The unlocked helpers -/

def hasPendingTasksUnlocked (s : MessageLoopTaskQueues α) (queueId : TaskQueueId) :
    Except Fault Bool := do
  let entry ← s.entryAt queueId
  if entry.subsumedBy.isSome then
    return false
  if !entry.taskSource.isEmpty then
    return true
  entry.ownerOf.toList.anyM fun subsumed => do
    let subsumedEntry ← s.entryAt subsumed
    return !subsumedEntry.taskSource.isEmpty

/-- The `top_task_updater` closure of `PeekNextTaskUnlocked`. -/
def topTaskUpdater (topTask : Option (TopTask α)) (source : TaskSource α) :
    Except Fault (Option (TopTask α)) :=
  if source.isEmpty then
    .ok topTask
  else do
    let otherTask ← source.top
    match topTask with
    | none => return some otherTask
    | some best => return if best.task.gt otherTask.task then some otherTask else some best

def peekNextTaskUnlocked (s : MessageLoopTaskQueues α) (owner : TaskQueueId) :
    Except Fault (TopTask α) := do
  fmlDcheck (← s.hasPendingTasksUnlocked owner)
  let entry ← s.entryAt owner
  if entry.ownerOf.isEmpty then
    fmlCheck (!entry.taskSource.isEmpty)
    entry.taskSource.top
  else
    let topTask ← topTaskUpdater none entry.taskSource
    let topTask ← entry.ownerOf.toList.foldlM (fun topTask subsumed => do
      let subsumedEntry ← s.entryAt subsumed
      topTaskUpdater topTask subsumedEntry.taskSource) topTask
    match topTask with
    | some top => return top
    | none => .error .check

def getNextWakeTimeUnlocked (s : MessageLoopTaskQueues α) (queueId : TaskQueueId) :
    Except Fault TimePoint := do
  return (← s.peekNextTaskUnlocked queueId).task.targetTime

def wakeUpUnlocked (s : MessageLoopTaskQueues α) (queueId : TaskQueueId) (time : TimePoint) :
    Except Fault (MessageLoopTaskQueues α) := do
  let entry ← s.entryAt queueId
  match entry.wakeable with
  | some wakeable => return s.setEntry queueId { entry with wakeable := some ⟨time :: wakeable.wakeUps⟩ }
  | none => return s

/-- `if (HasPendingTasksUnlocked(q)) WakeUpUnlocked(q, GetNextWakeTimeUnlocked(q))`, which five
    places share. -/
def wakeIfPendingUnlocked (s : MessageLoopTaskQueues α) (queueId : TaskQueueId) :
    Except Fault (MessageLoopTaskQueues α) := do
  if ← s.hasPendingTasksUnlocked queueId then
    s.wakeUpUnlocked queueId (← s.getNextWakeTimeUnlocked queueId)
  else
    return s

/-! ## Queues -/

def createTaskQueue (s : MessageLoopTaskQueues α) : TaskQueueId × MessageLoopTaskQueues α :=
  let loopId := s.taskQueueIdCounter
  (loopId, { s with
    taskQueueIdCounter := loopId + 1
    queueEntries := s.queueEntries.insert loopId (.create loopId) })

def setWakeable (s : MessageLoopTaskQueues α) (queueId : TaskQueueId) :
    Except Fault (MessageLoopTaskQueues α) := do
  let entry ← s.entryAt queueId
  fmlCheck entry.wakeable.isNone
  return s.setEntry queueId { entry with wakeable := some ⟨[]⟩ }

/-- The constructor of `MessageLoopImpl`: a new queue, with the loop as its wakeable. -/
def createMessageLoop (s : MessageLoopTaskQueues α) :
    Except Fault (TaskQueueId × MessageLoopTaskQueues α) := do
  let (queueId, s) := s.createTaskQueue
  return (queueId, ← s.setWakeable queueId)

def dispose (s : MessageLoopTaskQueues α) (queueId : TaskQueueId) :
    Except Fault (MessageLoopTaskQueues α) := do
  let entry ← s.entryAt queueId
  fmlDcheck entry.subsumedBy.isNone
  return (entry.ownerOf.toList.foldl eraseEntry s).eraseEntry queueId

/-- `queue_entries_.at(q)->task_source->ShutDown()`. -/
def shutDownSource (s : MessageLoopTaskQueues α) (queueId : TaskQueueId) :
    Except Fault (MessageLoopTaskQueues α) := do
  let entry ← s.entryAt queueId
  return s.setEntry queueId { entry with taskSource := entry.taskSource.shutDown }

def disposeTasks (s : MessageLoopTaskQueues α) (queueId : TaskQueueId) :
    Except Fault (MessageLoopTaskQueues α) := do
  let entry ← s.entryAt queueId
  fmlDcheck entry.subsumedBy.isNone
  let s ← s.shutDownSource queueId
  entry.ownerOf.toList.foldlM shutDownSource s

/-! ## Tasks -/

def registerTask (s : MessageLoopTaskQueues α) (queueId : TaskQueueId) (task : α)
    (targetTime : TimePoint) (taskSourceGrade : TaskSourceGrade) :
    Except Fault (MessageLoopTaskQueues α) := do
  -- the 32-bit `order_++` is sign-extended into a `size_t`
  let order := (s.order.signExtend 64).toNat
  let s := { s with order := s.order + 1 }
  let entry ← s.entryAt queueId
  let s := s.setEntry queueId { entry with
    taskSource := entry.taskSource.registerTask ⟨order, task, targetTime, taskSourceGrade⟩ }
  s.wakeIfPendingUnlocked (entry.subsumedBy.getD queueId)

def hasPendingTasks (s : MessageLoopTaskQueues α) (queueId : TaskQueueId) : Except Fault Bool :=
  s.hasPendingTasksUnlocked queueId

def getNextTaskToRun (s : MessageLoopTaskQueues α) (queueId : TaskQueueId) (fromTime : TimePoint) :
    Except Fault (Option α × MessageLoopTaskQueues α) := do
  if !(← s.hasPendingTasksUnlocked queueId) then
    return (none, s)
  let top ← s.peekNextTaskUnlocked queueId
  let s ← if !(← s.hasPendingTasksUnlocked queueId) then
      s.wakeUpUnlocked queueId TimePoint.max
    else do
      s.wakeUpUnlocked queueId (← s.getNextWakeTimeUnlocked queueId)
  if top.task.targetTime > fromTime then
    return (none, s)
  let entry ← s.entryAt top.taskQueueId
  let taskSource ← entry.taskSource.popTask top.task.taskSourceGrade
  let s := s.setEntry top.taskQueueId { entry with taskSource := taskSource }
  return (some top.task.task, { s with taskSourceGrade := top.task.taskSourceGrade })

def getNumPendingTasks (s : MessageLoopTaskQueues α) (queueId : TaskQueueId) :
    Except Fault Nat := do
  let entry ← s.entryAt queueId
  if entry.subsumedBy.isSome then
    return 0
  entry.ownerOf.toList.foldlM (fun totalTasks subsumed => do
    let subsumedEntry ← s.entryAt subsumed
    return totalTasks + subsumedEntry.taskSource.getNumPendingTasks)
    entry.taskSource.getNumPendingTasks

/-! ## Observers -/

def addTaskObserver (s : MessageLoopTaskQueues α) (queueId : TaskQueueId) (key : Int)
    (callback : α) : Except Fault (MessageLoopTaskQueues α) := do
  let entry ← s.entryAt queueId
  return s.setEntry queueId { entry with taskObservers := entry.taskObservers.insert key callback }

def removeTaskObserver (s : MessageLoopTaskQueues α) (queueId : TaskQueueId) (key : Int) :
    Except Fault (MessageLoopTaskQueues α) := do
  let entry ← s.entryAt queueId
  return s.setEntry queueId { entry with taskObservers := entry.taskObservers.erase key }

def getObserversToNotify (s : MessageLoopTaskQueues α) (queueId : TaskQueueId) :
    Except Fault (List α) := do
  let entry ← s.entryAt queueId
  if entry.subsumedBy.isSome then
    return []
  entry.ownerOf.toList.foldlM (fun observers subsumed => do
    let subsumedEntry ← s.entryAt subsumed
    return observers ++ subsumedEntry.taskObservers.values) entry.taskObservers.values

/-! ## Merging -/

def merge (s : MessageLoopTaskQueues α) (owner subsumed : TaskQueueId) :
    Except Fault (Bool × MessageLoopTaskQueues α) := do
  if owner = subsumed then
    return (true, s)
  let ownerEntry ← s.entryAt owner
  let subsumedEntry ← s.entryAt subsumed
  if ownerEntry.ownerOf.contains subsumed then
    return (true, s)
  if ownerEntry.subsumedBy.isSome then
    return (false, s)
  if !subsumedEntry.ownerOf.isEmpty then
    return (false, s)
  if subsumedEntry.subsumedBy.isSome then
    return (false, s)
  let s := s.setEntry owner { ownerEntry with ownerOf := ownerEntry.ownerOf.insert subsumed }
  let s := s.setEntry subsumed { subsumedEntry with subsumedBy := some owner }
  return (true, ← s.wakeIfPendingUnlocked owner)

def unmerge (s : MessageLoopTaskQueues α) (owner subsumed : TaskQueueId) :
    Except Fault (Bool × MessageLoopTaskQueues α) := do
  let ownerEntry ← s.entryAt owner
  if ownerEntry.ownerOf.isEmpty then
    return (false, s)
  if ownerEntry.subsumedBy.isSome then
    return (false, s)
  let subsumedEntry ← s.entryAt subsumed
  if subsumedEntry.subsumedBy.isNone then
    return (false, s)
  if !ownerEntry.ownerOf.contains subsumed then
    return (false, s)
  let s := s.setEntry subsumed { subsumedEntry with subsumedBy := none }
  let s := s.setEntry owner { ownerEntry with ownerOf := ownerEntry.ownerOf.erase subsumed }
  let s ← s.wakeIfPendingUnlocked owner
  return (true, ← s.wakeIfPendingUnlocked subsumed)

/-- Either id may be `kUnmerged`. -/
def owns (s : MessageLoopTaskQueues α) : Option TaskQueueId → Option TaskQueueId → Except Fault Bool
  | some owner, some subsumed => do
    let entry ← s.entryAt owner
    return entry.ownerOf.contains subsumed
  | _, _ => return false

def getSubsumedTaskQueueId (s : MessageLoopTaskQueues α) (owner : TaskQueueId) :
    Except Fault (Std.TreeSet TaskQueueId) := do
  return (← s.entryAt owner).ownerOf

def pauseSecondarySource (s : MessageLoopTaskQueues α) (queueId : TaskQueueId) :
    Except Fault (MessageLoopTaskQueues α) := do
  let entry ← s.entryAt queueId
  return s.setEntry queueId { entry with taskSource := ← entry.taskSource.pauseSecondary }

def resumeSecondarySource (s : MessageLoopTaskQueues α) (queueId : TaskQueueId) :
    Except Fault (MessageLoopTaskQueues α) := do
  let entry ← s.entryAt queueId
  let s := s.setEntry queueId { entry with taskSource := ← entry.taskSource.resumeSecondary }
  s.wakeIfPendingUnlocked queueId

/-! ## Operations -/

inductive Op (α : Type) where
  | createTaskQueue
  | createMessageLoop
  | setWakeable (queueId : TaskQueueId)
  | registerTask (queueId : TaskQueueId) (task : α) (targetTime : TimePoint)
      (taskSourceGrade : TaskSourceGrade)
  | getNextTaskToRun (queueId : TaskQueueId) (fromTime : TimePoint)
  | merge (owner subsumed : TaskQueueId)
  | unmerge (owner subsumed : TaskQueueId)
  | pauseSecondarySource (queueId : TaskQueueId)
  | resumeSecondarySource (queueId : TaskQueueId)
  | addTaskObserver (queueId : TaskQueueId) (key : Int) (callback : α)
  | removeTaskObserver (queueId : TaskQueueId) (key : Int)
  | dispose (queueId : TaskQueueId)
  | disposeTasks (queueId : TaskQueueId)

inductive Answer (α : Type) where
  | none
  | queueId (queueId : TaskQueueId)
  | merged (success : Bool)
  | invocation (task : Option α)

def step (s : MessageLoopTaskQueues α) :
    Op α → Except Fault (Answer α × MessageLoopTaskQueues α)
  | .createTaskQueue => let (queueId, s) := s.createTaskQueue; return (.queueId queueId, s)
  | .createMessageLoop => do let (queueId, s) ← s.createMessageLoop; return (.queueId queueId, s)
  | .setWakeable queueId => do return (.none, ← s.setWakeable queueId)
  | .registerTask queueId task targetTime grade => do
    return (.none, ← s.registerTask queueId task targetTime grade)
  | .getNextTaskToRun queueId fromTime => do
    let (task, s) ← s.getNextTaskToRun queueId fromTime; return (.invocation task, s)
  | .merge owner subsumed => do
    let (success, s) ← s.merge owner subsumed; return (.merged success, s)
  | .unmerge owner subsumed => do
    let (success, s) ← s.unmerge owner subsumed; return (.merged success, s)
  | .pauseSecondarySource queueId => do return (.none, ← s.pauseSecondarySource queueId)
  | .resumeSecondarySource queueId => do return (.none, ← s.resumeSecondarySource queueId)
  | .addTaskObserver queueId key callback => do
    return (.none, ← s.addTaskObserver queueId key callback)
  | .removeTaskObserver queueId key => do return (.none, ← s.removeTaskObserver queueId key)
  | .dispose queueId => do return (.none, ← s.dispose queueId)
  | .disposeTasks queueId => do return (.none, ← s.disposeTasks queueId)

end MessageLoopTaskQueues

end FlutterZero.Fml
