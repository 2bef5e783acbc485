import FlutterZero.Lib.PriorityQueue
import FlutterZero.Fml.Logging

/-! # Delayed tasks and task sources

`DelayedTask` (`delayed_task.cc`) and `TaskSource` (`task_source.cc`): a primary
and a secondary heap of tasks, the secondary one of which can be paused.  The
grade of a task decides which heap it is in, and a `TaskSource` carries the
proof of that, because `popTask` relies on it: it pops by grade and not by task.
-/

namespace FlutterZero.Fml

open FlutterZero.Lib

/-- Nanoseconds since an arbitrary point in the past. -/
abbrev TimePoint := Int

/-- `TimePoint::Max()`. -/
def TimePoint.max : TimePoint := 2 ^ 63 - 1

/-- Ids come from a counter.  `kUnmerged` is not among them: a field that may hold
    it is an `Option`. -/
abbrev TaskQueueId := Nat

inductive TaskSourceGrade where
  | userInteraction
  | dartEventLoop
  | unspecified
deriving DecidableEq, Repr

/-- A task with the time it is due and the place of its registration among all.  `α`
    is the type of closures. -/
structure DelayedTask (α : Type) where
  order : Nat
  task : α
  targetTime : TimePoint
  taskSourceGrade : TaskSourceGrade
deriving DecidableEq, Repr

variable {α : Type}

namespace DelayedTask

/-- `operator>`. -/
def gt (a b : DelayedTask α) : Bool :=
  if a.targetTime = b.targetTime then decide (a.order > b.order)
  else decide (a.targetTime > b.targetTime)

/-- `a` may be placed before `b`: it is not greater. -/
def NotAfter (a b : DelayedTask α) : Prop := a.gt b = false

instance : DecidableRel (NotAfter (α := α)) := fun a b => inferInstanceAs (Decidable (a.gt b = false))

theorem notAfter_iff {a b : DelayedTask α} :
    NotAfter a b ↔ a.targetTime < b.targetTime ∨ a.targetTime = b.targetTime ∧ a.order ≤ b.order := by
  unfold NotAfter gt
  split
  · rename_i same
    simp [same]
  · rename_i differ
    simp only [gt_iff_lt, decide_eq_false_iff_not, not_lt, differ, false_and, or_false]
    exact ⟨fun le => lt_of_le_of_ne le differ, le_of_lt⟩

theorem gt_iff {a b : DelayedTask α} : a.gt b = true ↔ ¬ NotAfter a b := by
  simp [NotAfter]

instance : Std.Refl (NotAfter (α := α)) := ⟨fun a => by simp [notAfter_iff]⟩

instance : Std.Total (NotAfter (α := α)) := ⟨fun a b => by simp only [notAfter_iff]; grind⟩

instance : IsTrans (DelayedTask α) NotAfter := ⟨fun a b c => by simp only [notAfter_iff]; grind⟩

def isSecondary (t : DelayedTask α) : Bool := t.taskSourceGrade == .dartEventLoop

end DelayedTask

/-- `std::priority_queue<DelayedTask, std::deque<DelayedTask>, std::greater<DelayedTask>>`. -/
abbrev DelayedTaskQueue (α : Type) := PriorityQueue (DelayedTask.NotAfter (α := α))

structure TopTask (α : Type) where
  taskQueueId : TaskQueueId
  task : DelayedTask α

structure TaskSource (α : Type) where
  taskQueueId : TaskQueueId
  primaryTaskQueue : DelayedTaskQueue α
  secondaryTaskQueue : DelayedTaskQueue α
  secondaryPauseRequests : Int
  primaryGrade : ∀ t ∈ primaryTaskQueue.items, t.isSecondary = false
  secondaryGrade : ∀ t ∈ secondaryTaskQueue.items, t.isSecondary = true
  pauseRequestsNonneg : 0 ≤ secondaryPauseRequests

namespace TaskSource

def create (taskQueueId : TaskQueueId) : TaskSource α where
  taskQueueId := taskQueueId
  primaryTaskQueue := .empty
  secondaryTaskQueue := .empty
  secondaryPauseRequests := 0
  primaryGrade := by simp
  secondaryGrade := by simp
  pauseRequestsNonneg := le_refl 0

def shutDown (s : TaskSource α) : TaskSource α :=
  { s with
    primaryTaskQueue := .empty
    secondaryTaskQueue := .empty
    primaryGrade := by simp
    secondaryGrade := by simp }

def pushPrimary (s : TaskSource α) (task : DelayedTask α) (grade : task.isSecondary = false) :
    TaskSource α :=
  { s with
    primaryTaskQueue := s.primaryTaskQueue.push task
    primaryGrade := by
      intro t member
      rcases PriorityQueue.mem_push.mp member with rfl | member
      · exact grade
      · exact s.primaryGrade t member }

def pushSecondary (s : TaskSource α) (task : DelayedTask α) (grade : task.isSecondary = true) :
    TaskSource α :=
  { s with
    secondaryTaskQueue := s.secondaryTaskQueue.push task
    secondaryGrade := by
      intro t member
      rcases PriorityQueue.mem_push.mp member with rfl | member
      · exact grade
      · exact s.secondaryGrade t member }

def registerTask (s : TaskSource α) (task : DelayedTask α) : TaskSource α :=
  match grade : task.taskSourceGrade with
  | .userInteraction => s.pushPrimary task (by simp [DelayedTask.isSecondary, grade])
  | .unspecified => s.pushPrimary task (by simp [DelayedTask.isSecondary, grade])
  | .dartEventLoop => s.pushSecondary task (by simp [DelayedTask.isSecondary, grade])

/-- `primary_task_queue_.pop()`. -/
def popPrimary (s : TaskSource α) : Except Fault (TaskSource α) :=
  match s.primaryTaskQueue.items with
  | [] => .error .undefined
  | _ :: _ =>
    .ok { s with
      primaryTaskQueue := s.primaryTaskQueue.pop
      primaryGrade := fun t member => s.primaryGrade t (List.mem_of_mem_tail member) }

/-- `secondary_task_queue_.pop()`. -/
def popSecondary (s : TaskSource α) : Except Fault (TaskSource α) :=
  match s.secondaryTaskQueue.items with
  | [] => .error .undefined
  | _ :: _ =>
    .ok { s with
      secondaryTaskQueue := s.secondaryTaskQueue.pop
      secondaryGrade := fun t member => s.secondaryGrade t (List.mem_of_mem_tail member) }

def popTask (s : TaskSource α) : TaskSourceGrade → Except Fault (TaskSource α)
  | .userInteraction => s.popPrimary
  | .unspecified => s.popPrimary
  | .dartEventLoop => s.popSecondary

def getNumPendingTasks (s : TaskSource α) : Nat :=
  let size := s.primaryTaskQueue.size
  if s.secondaryPauseRequests = 0 then size + s.secondaryTaskQueue.size else size

def isEmpty (s : TaskSource α) : Bool := s.getNumPendingTasks == 0

/-- `top()` of a heap, undefined on an empty one. -/
def heapTop (heap : DelayedTaskQueue α) : Except Fault (DelayedTask α) :=
  match heap.top? with
  | some task => .ok task
  | none => .error .undefined

def top (s : TaskSource α) : Except Fault (TopTask α) := do
  fmlCheck (!s.isEmpty)
  if s.secondaryPauseRequests > 0 ∨ s.secondaryTaskQueue.items = [] then
    return ⟨s.taskQueueId, ← heapTop s.primaryTaskQueue⟩
  else if s.primaryTaskQueue.items = [] then
    return ⟨s.taskQueueId, ← heapTop s.secondaryTaskQueue⟩
  else
    let primaryTop ← heapTop s.primaryTaskQueue
    let secondaryTop ← heapTop s.secondaryTaskQueue
    if primaryTop.gt secondaryTop then
      return ⟨s.taskQueueId, secondaryTop⟩
    else
      return ⟨s.taskQueueId, primaryTop⟩

def pauseSecondary (s : TaskSource α) : Except Fault (TaskSource α) :=
  -- an `int` that would pass its maximum is undefined behaviour
  if s.secondaryPauseRequests + 1 < 2 ^ 31 then
    .ok { s with
      secondaryPauseRequests := s.secondaryPauseRequests + 1
      pauseRequestsNonneg := by have := s.pauseRequestsNonneg; omega }
  else .error .undefined

def resumeSecondary (s : TaskSource α) : Except Fault (TaskSource α) :=
  -- FML_DCHECK(secondary_pause_requests_ >= 0)
  if met : 0 ≤ s.secondaryPauseRequests - 1 then
    .ok { s with
      secondaryPauseRequests := s.secondaryPauseRequests - 1
      pauseRequestsNonneg := met }
  else .error .dcheck

/-! ## What the operations do to the tasks held -/

def tasks (s : TaskSource α) : List (DelayedTask α) :=
  s.primaryTaskQueue.items ++ s.secondaryTaskQueue.items

/-- The tasks the source offers: the primary heap, and the secondary one unless it is
    paused. -/
def pendingTasks (s : TaskSource α) : List (DelayedTask α) :=
  s.primaryTaskQueue.items ++
    if s.secondaryPauseRequests = 0 then s.secondaryTaskQueue.items else []

theorem pendingTasks_sublist (s : TaskSource α) : s.pendingTasks.Sublist s.tasks := by
  unfold pendingTasks tasks
  split <;> simp

variable {s : TaskSource α}

theorem mem_pendingTasks {t : DelayedTask α} : t ∈ s.pendingTasks ↔ t ∈ s.primaryTaskQueue.items ∨
      s.secondaryPauseRequests = 0 ∧ t ∈ s.secondaryTaskQueue.items := by
  unfold pendingTasks
  split <;> simp_all

theorem isEmpty_iff : s.isEmpty = true ↔ s.pendingTasks = [] := by
  simp only [isEmpty, getNumPendingTasks, pendingTasks, PriorityQueue.size]
  split <;> simp

theorem isEmpty_eq_false_iff : s.isEmpty = false ↔ s.pendingTasks ≠ [] := by
  rw [ne_eq, ← isEmpty_iff, Bool.not_eq_true]

@[simp] theorem tasks_create (q : TaskQueueId) : (create q : TaskSource α).tasks = [] := rfl

theorem registerTask_spec (s : TaskSource α) (task : DelayedTask α) :
    (s.registerTask task).tasks.Perm (task :: s.tasks) ∧
    (s.registerTask task).taskQueueId = s.taskQueueId ∧
    (s.registerTask task).secondaryPauseRequests = s.secondaryPauseRequests := by
  unfold registerTask
  split
  · exact ⟨(s.primaryTaskQueue.perm_push task).append_right _, rfl, rfl⟩
  · exact ⟨(s.primaryTaskQueue.perm_push task).append_right _, rfl, rfl⟩
  · refine ⟨?_, rfl, rfl⟩
    exact ((s.secondaryTaskQueue.perm_push task).append_left _).trans List.perm_middle

/-- `s'` is `s` without one occurrence of `task`. -/
structure Removes (s s' : TaskSource α) (task : DelayedTask α) : Prop where
  tasks : s.tasks.Perm (task :: s'.tasks)
  pending : s.pendingTasks.Perm (task :: s'.pendingTasks)
  taskQueueId : s'.taskQueueId = s.taskQueueId
  pauseRequests : s'.secondaryPauseRequests = s.secondaryPauseRequests

variable {task : DelayedTask α}

theorem popPrimary_removes (first : s.primaryTaskQueue.top? = some task) :
    ∃ s', s.popPrimary = .ok s' ∧ s.Removes s' task := by
  have shape := PriorityQueue.items_eq_of_top? first
  unfold popPrimary
  split
  · rename_i none
    simp [none] at shape
  · refine ⟨_, rfl, ?_, ?_, rfl, rfl⟩
    · simp [tasks, shape]
    · simp [pendingTasks, shape]

theorem popSecondary_removes
    (resumed : s.secondaryPauseRequests = 0) (first : s.secondaryTaskQueue.top? = some task) :
    ∃ s', s.popSecondary = .ok s' ∧ s.Removes s' task := by
  have shape := PriorityQueue.items_eq_of_top? first
  unfold popSecondary
  split
  · rename_i none
    simp [none] at shape
  · refine ⟨_, rfl, ?_, ?_, rfl, rfl⟩
    · simp only [tasks, shape]
      exact List.perm_middle
    · simp only [pendingTasks, shape, resumed, if_true]
      exact List.perm_middle

theorem popTask_of_primary
    (member : task ∈ s.primaryTaskQueue.items) : s.popTask task.taskSourceGrade = s.popPrimary := by
  have grade := s.primaryGrade task member
  cases shape : task.taskSourceGrade <;> simp_all [DelayedTask.isSecondary, popTask]

theorem popTask_of_secondary (member : task ∈ s.secondaryTaskQueue.items) :
    s.popTask task.taskSourceGrade = s.popSecondary := by
  have grade := s.secondaryGrade task member
  cases shape : task.taskSourceGrade <;> simp_all [DelayedTask.isSecondary, popTask]

/-- What `top` promises of the task it returns: it is pending, nothing pending precedes
    it, and popping its grade removes exactly it. -/
structure IsTop (s : TaskSource α) (task : DelayedTask α) : Prop where
  pending : task ∈ s.pendingTasks
  least : ∀ t ∈ s.pendingTasks, task.NotAfter t
  pops : ∃ s', s.popTask task.taskSourceGrade = .ok s' ∧ s.Removes s' task

theorem isTop_primary (first : s.primaryTaskQueue.top? = some task)
    (least : ∀ t ∈ s.pendingTasks, t ∈ s.secondaryTaskQueue.items → task.NotAfter t) : s.IsTop task where
  pending := List.mem_append_left _ (PriorityQueue.mem_of_top? first)
  least := by
    intro t member
    rcases List.mem_append.mp (s.pendingTasks_sublist.mem member) with primary | secondary
    · exact PriorityQueue.top?_least first primary
    · exact least t member secondary
  pops := by
    rw [popTask_of_primary (PriorityQueue.mem_of_top? first)]
    exact popPrimary_removes first

theorem isTop_secondary (resumed : s.secondaryPauseRequests = 0) (first : s.secondaryTaskQueue.top? = some task)
    (least : ∀ t ∈ s.primaryTaskQueue.items, task.NotAfter t) : s.IsTop task where
  pending := by
    simp only [pendingTasks, resumed, if_true]
    exact List.mem_append_right _ (PriorityQueue.mem_of_top? first)
  least := by
    intro t member
    rcases List.mem_append.mp (s.pendingTasks_sublist.mem member) with primary | secondary
    · exact least t primary
    · exact PriorityQueue.top?_least first secondary
  pops := by
    rw [popTask_of_secondary (PriorityQueue.mem_of_top? first)]
    exact popSecondary_removes resumed first

theorem heapTop_of_ne_nil {heap : DelayedTaskQueue α} (held : heap.items ≠ []) :
    ∃ task, heapTop heap = .ok task ∧ heap.top? = some task := by
  cases first : heap.top? with
  | none => exact absurd (PriorityQueue.top?_eq_none.mp first) held
  | some task => exact ⟨task, by simp [heapTop, first], rfl⟩

/-- `top` of a source that offers anything meets neither its `FML_CHECK` nor an empty
    heap. -/
theorem top_spec (nonempty : s.isEmpty = false) : ∃ task, s.top = .ok ⟨s.taskQueueId, task⟩ ∧ s.IsTop task := by
  have offered := isEmpty_eq_false_iff.mp nonempty
  have nonneg := s.pauseRequestsNonneg
  unfold top
  simp only [nonempty, Bool.not_false, fmlCheck_true, ok_bind]
  split
  · rename_i onlyPrimary
    have pendingEq : s.pendingTasks = s.primaryTaskQueue.items := by
      unfold pendingTasks
      rcases onlyPrimary with paused | none
      · simp [show s.secondaryPauseRequests ≠ 0 by omega]
      · simp [none]
    obtain ⟨task, returned, first⟩ := heapTop_of_ne_nil (pendingEq ▸ offered)
    refine ⟨task, by simp [returned], isTop_primary first ?_⟩
    intro t member _
    exact PriorityQueue.top?_least first (pendingEq ▸ member)
  · rename_i secondaryOffered
    simp only [gt_iff_lt, not_or, not_lt] at secondaryOffered
    have resumed : s.secondaryPauseRequests = 0 := by omega
    obtain ⟨secondaryTop, secondaryReturned, secondaryFirst⟩ :=
      heapTop_of_ne_nil secondaryOffered.2
    split
    · rename_i noPrimary
      exact ⟨secondaryTop, by simp [secondaryReturned],
        isTop_secondary resumed secondaryFirst (by simp [noPrimary])⟩
    · rename_i primaryOffered
      obtain ⟨primaryTop, primaryReturned, primaryFirst⟩ := heapTop_of_ne_nil primaryOffered
      simp only [primaryReturned, secondaryReturned, ok_bind]
      -- each heap is headed by its least task, so comparing the heads is enough
      split
      · rename_i greater
        refine ⟨secondaryTop, rfl, isTop_secondary resumed secondaryFirst ?_⟩
        intro t member
        have before := (Std.Total.total secondaryTop primaryTop).resolve_right
          (DelayedTask.gt_iff.mp greater)
        exact IsTrans.trans _ _ _ before (PriorityQueue.top?_least primaryFirst member)
      · rename_i notGreater
        refine ⟨primaryTop, rfl, isTop_primary primaryFirst ?_⟩
        intro t _ member
        have before : primaryTop.NotAfter secondaryTop := by simpa [DelayedTask.NotAfter] using notGreater
        exact IsTrans.trans _ _ _ before (PriorityQueue.top?_least secondaryFirst member)

end TaskSource

end FlutterZero.Fml
