import FlutterZero.Platform.Linux.TaskRunner

/-! # What the task runner on Linux keeps

No task is lost or executed twice, and a timeout source is armed whenever a task is pending
and no call is processing tasks.

The tasks that a call has collected are its own: while one of them runs, a nested call collects
those that were posted in the meantime, and executes them before the outer call goes on.  And a
task is collected in the microsecond of its target time, which may be before that time.  Where no
call collects such a task, the tasks keep the order in which they were posted and none is early.
-/

namespace FlutterZero.Platform.Linux

open FlutterZero.Lib

/-- A task was posted before another one, with a target time that is not later. -/
def FlTaskRunnerTask.Precedes {α : Type} (a b : FlTaskRunnerTask α) : Prop :=
  a.order < b.order ∧ a.targetTimeNanos ≤ b.targetTimeNanos

instance {α : Type} (a b : FlTaskRunnerTask α) : Decidable (a.Precedes b) :=
  inferInstanceAs (Decidable (_ ∧ _))

namespace Frame

variable {α : Type}

def held : Frame α → List (FlTaskRunnerTask α)
  | .processing expiredTasks _ => expiredTasks
  | _ => []

/-- Whether the call is processing tasks, or about to. -/
def isProcessing : Frame α → Bool
  | .waiting => false
  | _ => true

end Frame

namespace TaskRunner

variable {α : Type}

def held (s : TaskRunner α) : List (FlTaskRunnerTask α) := s.stack.flatMap Frame.held

def executedTasks (s : TaskRunner α) : List (FlTaskRunnerTask α) := s.executed.map Execution.task

def isCollecting (s : TaskRunner α) : Bool :=
  match s.stack with
  | .waiting :: _ => true
  | .expired :: _ => true
  | _ => false

/-- A call that collects the expired tasks collects none before its target time, and none that has to come
    after a task which another call has collected and still has to execute. -/
def Timely (s : TaskRunner α) : Op α → Prop
  | .proceed => s.isCollecting = true → ∀ task ∈ s.pendingTasks, s.isExpired task = true →
      task.targetTimeNanos.toNat ≤ s.now ∧ ∀ earlier ∈ s.held, ¬ earlier.Precedes task
  | _ => True

instance (s : TaskRunner α) (op : Op α) : Decidable (s.Timely op) :=
  match op with
  | .proceed => inferInstanceAs (Decidable (s.isCollecting = true → ∀ task ∈ s.pendingTasks,
      s.isExpired task = true → task.targetTimeNanos.toNat ≤ s.now ∧ ∀ earlier ∈ s.held, ¬ earlier.Precedes task))
  | .tick _ => isTrue trivial
  | .postFlutterTask _ _ => isTrue trivial
  | .dispatchSource _ => isTrue trivial
  | .beginWait => isTrue trivial

/-- No task that was posted is lost or executed twice, and none waits without a timeout source. -/
structure Kept (s : TaskRunner α) : Prop where
  somewhere : ∀ task, task ∈ s.posted ↔ task ∈ s.pendingTasks ∨ task ∈ s.held ∨ task ∈ s.executedTasks
  once : s.executedTasks.Nodup
  armed : s.pendingTasks ≠ [] → (∀ frame ∈ s.stack, frame.isProcessing = false) →
    ∃ source ∈ s.sources, source.id = s.timeoutSourceId

structure Sound (s : TaskRunner α) : Prop extends Kept s where
  onTime : ∀ execution ∈ s.executed, execution.task.targetTimeNanos.toNat ≤ execution.nanos
  inOrder : ∀ a ∈ s.posted, ∀ b before after, a.Precedes b → s.executedTasks = before ++ b :: after → a ∈ before

/-! ## Steps -/

inductive Steps (s : TaskRunner α) : Op α → TaskRunner α → Prop where
  | tick (nanos : Nat) : Steps s (.tick nanos) { s with now := s.now + nanos }
  | post (task : α) (targetTimeNanos : UInt64) :
    Steps s (.postFlutterTask task targetTimeNanos) (s.postFlutterTask task targetTimeNanos)
  | dispatch (i : Nat) :
    Steps s (.dispatchSource i) { s with sources := s.sources.eraseIdx i, stack := .expired :: s.stack }
  | beginWait : Steps s .beginWait { s with stack := .waiting :: s.stack }
  | wake {rest : List (Frame α)} (top : s.stack = .waiting :: rest) : Steps s .proceed (s.collect rest)
  | expire {rest : List (Frame α)} (top : s.stack = .expired :: rest) :
    Steps s .proceed ({ s with timeoutSourceId := 0 }.collect rest)
  | execute {task : FlTaskRunnerTask α} {expiredTasks : List (FlTaskRunnerTask α)} {rest : List (Frame α)}
    (top : s.stack = .processing (task :: expiredTasks) false :: rest) :
    Steps s .proceed { s with
      stack := .processing expiredTasks true :: rest, executed := s.executed ++ [⟨task, s.now⟩] }
  | back {expiredTasks : List (FlTaskRunnerTask α)} {rest : List (Frame α)}
    (top : s.stack = .processing expiredTasks true :: rest) :
    Steps s .proceed { s with stack := .processing expiredTasks false :: rest }
  | finish {rest : List (Frame α)} (top : s.stack = .processing [] false :: rest) :
    Steps s .proceed { s with stack := rest }.tasksDidChange

variable {s : TaskRunner α}

theorem steps_of_step {s' : TaskRunner α} {op : Op α} {out : Unit} (stepped : s.step op = .ok (out, s')) :
    s.Steps op s' := by
  cases op with
  | tick nanos =>
    cases stepped
    exact .tick nanos
  | postFlutterTask task targetTimeNanos =>
    cases stepped
    exact .post task targetTimeNanos
  | dispatchSource i =>
    obtain ⟨s₁, dispatched, returned⟩ := bind_eq_ok.mp stepped
    cases returned
    unfold dispatchSource at dispatched
    split at dispatched
    · cases dispatched
    · split at dispatched <;> cases dispatched
      exact .dispatch i
  | beginWait =>
    obtain ⟨s₁, began, returned⟩ := bind_eq_ok.mp stepped
    cases returned
    unfold TaskRunner.beginWait at began
    split at began <;> cases began
    exact .beginWait
  | proceed =>
    obtain ⟨s₁, proceeded, returned⟩ := bind_eq_ok.mp stepped
    cases returned
    unfold TaskRunner.proceed at proceeded
    split at proceeded <;> rename_i top
    · cases proceeded
    · cases proceeded
      exact .wake top
    · cases proceeded
      exact .expire top
    · cases proceeded
      exact .execute top
    · cases proceeded
      exact .back top
    · cases proceeded
      exact .finish top

/-! ## The timeout source -/

section TasksDidChange

variable (s : TaskRunner α)

theorem tasksDidChange_eq : ∃ timeoutSourceId sources nextSourceId, s.tasksDidChange =
    { s with timeoutSourceId := timeoutSourceId, sources := sources, nextSourceId := nextSourceId } := by
  simp only [tasksDidChange, gTimeoutAdd, gSourceRemove]
  split <;> split <;> exact ⟨_, _, _, rfl⟩

@[simp] theorem tasksDidChange_now : s.tasksDidChange.now = s.now := by
  obtain ⟨_, _, _, changed⟩ := tasksDidChange_eq s
  rw [changed]

@[simp] theorem tasksDidChange_pendingTasks : s.tasksDidChange.pendingTasks = s.pendingTasks := by
  obtain ⟨_, _, _, changed⟩ := tasksDidChange_eq s
  rw [changed]

@[simp] theorem tasksDidChange_stack : s.tasksDidChange.stack = s.stack := by
  obtain ⟨_, _, _, changed⟩ := tasksDidChange_eq s
  rw [changed]

@[simp] theorem tasksDidChange_posted : s.tasksDidChange.posted = s.posted := by
  obtain ⟨_, _, _, changed⟩ := tasksDidChange_eq s
  rw [changed]

@[simp] theorem tasksDidChange_executed : s.tasksDidChange.executed = s.executed := by
  obtain ⟨_, _, _, changed⟩ := tasksDidChange_eq s
  rw [changed]

end TasksDidChange

def Timed (task : FlTaskRunnerTask α) : Prop :=
  task.taskTimeMicros = task.targetTimeNanos.toNat / kMicrosecondsPerNanosecond

theorem Timed.lt {task : FlTaskRunnerTask α} (timed : Timed task) : task.taskTimeMicros < gMaxInt64 := by
  have bound : task.targetTimeNanos.toNat < 2 ^ 64 := task.targetTimeNanos.toNat_lt
  rw [timed]
  simp only [kMicrosecondsPerNanosecond, gMaxInt64]
  omega

theorem foldl_min_le (tasks : List (FlTaskRunnerTask α)) (minTime : Nat) :
    tasks.foldl (fun minTime task => min minTime task.taskTimeMicros) minTime ≤ minTime := by
  induction tasks generalizing minTime with
  | nil => exact Nat.le_refl minTime
  | cons task tasks ih => exact Nat.le_trans (ih _) (Nat.min_le_left _ _)

theorem nextTaskExpirationTime_lt (timed : ∀ task ∈ s.pendingTasks, Timed task)
    (pending : s.pendingTasks ≠ []) : s.nextTaskExpirationTime < gMaxInt64 := by
  unfold nextTaskExpirationTime
  cases tasks : s.pendingTasks with
  | nil => exact absurd tasks pending
  | cons task rest =>
    have early : task.taskTimeMicros < gMaxInt64 := (timed task (by simp [tasks])).lt
    rw [List.foldl_cons]
    exact Nat.lt_of_le_of_lt (foldl_min_le rest _) (Nat.lt_of_le_of_lt (Nat.min_le_right _ _) early)

theorem armed_tasksDidChange (timed : ∀ task ∈ s.pendingTasks, Timed task) (pending : s.pendingTasks ≠ []) :
    ∃ source ∈ s.tasksDidChange.sources, source.id = s.tasksDidChange.timeoutSourceId := by
  -- Neither the id nor the sources have a part in the next expiration time.
  have finite : ∀ s' : TaskRunner α, s'.pendingTasks = s.pendingTasks → s'.nextTaskExpirationTime ≠ gMaxInt64 := by
    intro s' same
    refine Nat.ne_of_lt (nextTaskExpirationTime_lt ?_ ?_)
    · rwa [same]
    · rwa [same]
  simp only [tasksDidChange]
  split
  · rw [if_pos (finite { s.gSourceRemove s.timeoutSourceId with timeoutSourceId := 0 } rfl)]
    simp [gTimeoutAdd]
  · rw [if_pos (finite s rfl)]
    simp [gTimeoutAdd]

/-! ## Every task is somewhere -/

structure Accounted (s : TaskRunner α) : Prop where
  numbered : s.posted.map FlTaskRunnerTask.order = List.range s.posted.length
  timed : ∀ task ∈ s.posted, Timed task
  accounted : (s.pendingTasks ++ (s.held ++ s.executedTasks)).Perm s.posted

/-- A timeout source is armed for the tasks that are pending, unless a call will see to it. -/
def Armed (s : TaskRunner α) : Prop :=
  s.pendingTasks ≠ [] → (∀ frame ∈ s.stack, frame.isProcessing = false) →
    ∃ source ∈ s.sources, source.id = s.timeoutSourceId

namespace Accounted

variable {s : TaskRunner α} {task : FlTaskRunnerTask α}

theorem order_lt (inv : Accounted s) (posted : task ∈ s.posted) : task.order < s.posted.length := by
  have member : task.order ∈ s.posted.map FlTaskRunnerTask.order := List.mem_map_of_mem posted
  rw [inv.numbered] at member
  exact List.mem_range.mp member

theorem mem_posted (inv : Accounted s) :
    task ∈ s.posted ↔ task ∈ s.pendingTasks ∨ task ∈ s.held ∨ task ∈ s.executedTasks := by
  rw [← inv.accounted.mem_iff, List.mem_append, List.mem_append]

theorem nodup_executedTasks (inv : Accounted s) : s.executedTasks.Nodup := by
  have distinct : (s.posted.map FlTaskRunnerTask.order).Nodup := by
    rw [inv.numbered]
    exact List.nodup_range
  have all : (s.pendingTasks ++ (s.held ++ s.executedTasks)).Nodup :=
    inv.accounted.nodup_iff.mpr (List.Nodup.of_map _ distinct)
  exact (List.nodup_append.mp (List.nodup_append.mp all).2.1).2.1

theorem isExpired_of_precedes (inv : Accounted s) {a b : FlTaskRunnerTask α} (postedA : a ∈ s.posted)
    (postedB : b ∈ s.posted) (precedes : a.Precedes b) (expired : s.isExpired b = true) : s.isExpired a = true := by
  have target : a.targetTimeNanos.toNat ≤ b.targetTimeNanos.toNat := precedes.2
  have times : a.taskTimeMicros ≤ b.taskTimeMicros := by
    rw [inv.timed a postedA, inv.timed b postedB]
    exact Nat.div_le_div_right target
  simp only [isExpired, decide_eq_true_eq] at expired ⊢
  exact Nat.le_trans times expired

theorem create : Accounted (TaskRunner.create : TaskRunner α) where
  numbered := rfl
  timed := by simp [TaskRunner.create]
  accounted := List.Perm.refl _

theorem tasksDidChange (inv : Accounted s) : Accounted s.tasksDidChange where
  numbered := by simpa using inv.numbered
  timed := by simpa using inv.timed
  accounted := by simpa [TaskRunner.held, executedTasks] using inv.accounted

theorem post (inv : Accounted s) (task : α) (targetTimeNanos : UInt64) :
    Accounted (s.postFlutterTask task targetTimeNanos) := by
  unfold postFlutterTask
  apply Accounted.tasksDidChange
  exact {
    numbered := by simp [inv.numbered, List.range_succ]
    timed := by
      intro a posted
      rcases List.mem_append.mp posted with posted | new
      · exact inv.timed a posted
      · rw [List.mem_singleton.mp new]
        rfl
    accounted := by
      have added := inv.accounted.append_right [(⟨task, targetTimeNanos.toNat / kMicrosecondsPerNanosecond,
        s.posted.length, targetTimeNanos⟩ : FlTaskRunnerTask α)]
      refine List.Perm.trans ?_ added
      rw [List.append_assoc, List.append_assoc]
      exact List.Perm.append_left _ List.perm_append_comm }

theorem collect (inv : Accounted s) {rest : List (Frame α)} {frame : Frame α} (top : s.stack = frame :: rest)
    (none : frame.held = []) : Accounted (s.collect rest) where
  numbered := inv.numbered
  timed := inv.timed
  accounted := by
    have held : s.held = rest.flatMap Frame.held := by simp [TaskRunner.held, top, none]
    have held' : (s.collect rest).held = s.pendingTasks.filter s.isExpired ++ rest.flatMap Frame.held := rfl
    refine List.Perm.trans ?_ inv.accounted
    rw [held', held, List.append_assoc, ← List.append_assoc]
    refine List.Perm.append_right _ (List.Perm.trans List.perm_append_comm ?_)
    exact List.filter_append_perm s.isExpired s.pendingTasks

theorem execute (inv : Accounted s) {expiredTasks : List (FlTaskRunnerTask α)}
    {rest : List (Frame α)} (top : s.stack = .processing (task :: expiredTasks) false :: rest) : Accounted { s with
      stack := .processing expiredTasks true :: rest, executed := s.executed ++ [⟨task, s.now⟩] } where
  numbered := inv.numbered
  timed := inv.timed
  accounted := by
    have held : s.held = [task] ++ (expiredTasks ++ rest.flatMap Frame.held) := by
      simp [TaskRunner.held, top, Frame.held]
    have grown : ({ s with
        stack := .processing expiredTasks true :: rest
        executed := s.executed ++ [⟨task, s.now⟩] } : TaskRunner α).executedTasks = s.executedTasks ++ [task] := by
      simp [executedTasks]
    refine List.Perm.trans (List.Perm.append_left _ ?_) inv.accounted
    rw [grown, held, ← List.append_assoc, List.append_assoc [task]]
    exact List.perm_append_comm

theorem restack (inv : Accounted s) {stack : List (Frame α)} (same : stack.flatMap Frame.held = s.held) :
    Accounted { s with stack := stack } where
  numbered := inv.numbered
  timed := inv.timed
  accounted := by
    have accounted := inv.accounted
    rwa [← same] at accounted

theorem setSources (inv : Accounted s) (timeoutSourceId : Nat) (sources : List TimeoutSource) :
    Accounted { s with timeoutSourceId := timeoutSourceId, sources := sources } :=
  { inv with }

theorem step {s' : TaskRunner α} {op : Op α} (inv : Accounted s) (steps : s.Steps op s') : Accounted s' := by
  cases steps with
  | tick nanos => exact { inv with }
  | post task targetTimeNanos => exact inv.post task targetTimeNanos
  | dispatch i =>
    exact (inv.setSources s.timeoutSourceId (s.sources.eraseIdx i)).restack (by simp [TaskRunner.held, Frame.held])
  | beginWait => exact inv.restack (by simp [TaskRunner.held, Frame.held])
  | wake top => exact inv.collect top rfl
  | expire top => exact (inv.setSources 0 s.sources).collect top rfl
  | execute top => exact inv.execute top
  | back top => exact inv.restack (by simp [TaskRunner.held, Frame.held, top])
  | finish top => exact (inv.restack (by simp [TaskRunner.held, Frame.held, top])).tasksDidChange

end Accounted

theorem Armed.tasksDidChange (inv : Accounted s) : Armed s.tasksDidChange := by
  intro pending _
  rw [tasksDidChange_pendingTasks] at pending
  exact armed_tasksDidChange (fun task member => inv.timed task (inv.mem_posted.mpr (.inl member))) pending

theorem Armed.of_processing {frame : Frame α} {rest : List (Frame α)} (top : s.stack = frame :: rest)
    (processing : frame.isProcessing = true) : Armed s := by
  intro _ idle
  have no := idle frame (by simp [top])
  rw [processing] at no
  cases no

theorem Armed.step {s' : TaskRunner α} {op : Op α} (inv : Accounted s) (armed : Armed s) (steps : s.Steps op s') :
    Armed s' := by
  have inv' : Accounted s' := inv.step steps
  cases steps with
  | tick nanos => exact armed
  | post task targetTimeNanos =>
    intro pending _
    unfold postFlutterTask at inv' pending ⊢
    refine armed_tasksDidChange ?_ (by simp)
    intro task' member
    exact inv'.timed task' (inv'.mem_posted.mpr (.inl (by simpa using member)))
  | dispatch i => exact .of_processing rfl rfl
  | beginWait =>
    intro pending idle
    exact armed pending fun frame member => idle frame (List.mem_cons_of_mem _ member)
  | wake top => exact .of_processing rfl rfl
  | expire top => exact .of_processing rfl rfl
  | execute top => exact .of_processing rfl rfl
  | back top => exact .of_processing rfl rfl
  | finish top => exact Armed.tasksDidChange (inv.restack (by simp [held, Frame.held, top]))

/-! ## The order -/

/-- The tasks of a call are due, in the order of their posting, and what has to precede one of them was executed
    or is the call's own. -/
structure Ordered (s : TaskRunner α) : Prop where
  sortedPending : s.pendingTasks.Pairwise fun a b => a.order < b.order
  sorted : ∀ frame ∈ s.stack, frame.held.Pairwise fun a b => a.order < b.order
  due : ∀ task ∈ s.held, task.targetTimeNanos.toNat ≤ s.now
  own : ∀ frame ∈ s.stack, ∀ b ∈ frame.held, ∀ a ∈ s.posted, a.Precedes b → a ∈ frame.held ∨ a ∈ s.executedTasks
  onTime : ∀ execution ∈ s.executed, execution.task.targetTimeNanos.toNat ≤ execution.nanos
  inOrder : ∀ a ∈ s.posted, ∀ b before after, a.Precedes b → s.executedTasks = before ++ b :: after → a ∈ before

namespace Ordered

variable {s : TaskRunner α}

theorem create : Ordered (TaskRunner.create : TaskRunner α) := by
  constructor <;> simp [TaskRunner.create, TaskRunner.held, executedTasks]

theorem tasksDidChange (inv : Ordered s) : Ordered s.tasksDidChange where
  sortedPending := by simpa using inv.sortedPending
  sorted := by simpa using inv.sorted
  due := by simpa [TaskRunner.held] using inv.due
  own := by simpa [executedTasks] using inv.own
  onTime := by simpa using inv.onTime
  inOrder := by simpa [executedTasks] using inv.inOrder

theorem post (inv : Ordered s) (accounted : Accounted s) (task : α) (targetTimeNanos : UInt64) :
    Ordered (s.postFlutterTask task targetTimeNanos) := by
  have last : ∀ a ∈ s.posted, a.order < s.posted.length := fun a posted => accounted.order_lt posted
  unfold postFlutterTask
  apply Ordered.tasksDidChange
  -- What the new task has to precede would have been posted later.
  have old : ∀ a ∈ s.posted ++ [(⟨task, targetTimeNanos.toNat / kMicrosecondsPerNanosecond, s.posted.length,
      targetTimeNanos⟩ : FlTaskRunnerTask α)], ∀ b ∈ s.posted, a.Precedes b → a ∈ s.posted := by
    intro a posted b before precedes
    rcases List.mem_append.mp posted with posted | new
    · exact posted
    · rw [List.mem_singleton.mp new] at precedes
      have later : s.posted.length < b.order := precedes.1
      exact absurd (last b before) (by omega)
  exact {
    sortedPending := by
      rw [List.pairwise_append]
      refine ⟨inv.sortedPending, List.pairwise_singleton _ _, ?_⟩
      intro a pending b new
      rw [List.mem_singleton.mp new]
      exact last a (accounted.mem_posted.mpr (.inl pending))
    sorted := inv.sorted
    due := inv.due
    own := by
      intro frame member b held a posted precedes
      have posted' : b ∈ s.posted :=
        accounted.mem_posted.mpr (.inr (.inl (List.mem_flatMap.mpr ⟨frame, member, held⟩)))
      exact inv.own frame member b held a (old a posted b posted' precedes) precedes
    onTime := inv.onTime
    inOrder := by
      intro a posted b before after precedes split
      have executed : b ∈ s.executedTasks := by
        rw [show s.executedTasks = before ++ b :: after from split]
        simp
      have posted' : b ∈ s.posted := accounted.mem_posted.mpr (.inr (.inr executed))
      exact inv.inOrder a (old a posted b posted' precedes) b before after precedes split }

variable {rest : List (Frame α)} {frame : Frame α}

theorem collect (inv : Ordered s) (accounted : Accounted s) (top : s.stack = frame :: rest)
    (timely : ∀ task ∈ s.pendingTasks, s.isExpired task = true →
      task.targetTimeNanos.toNat ≤ s.now ∧ ∀ earlier ∈ s.held, ¬ earlier.Precedes task) :
    Ordered (s.collect rest) where
  sortedPending := inv.sortedPending.filter _
  sorted := by
    intro frame' member
    rcases List.mem_cons.mp member with rfl | member
    · exact inv.sortedPending.filter _
    · exact inv.sorted frame' (by simp [top, member])
  due := by
    intro task member
    obtain ⟨frame', member, heldTask⟩ := List.mem_flatMap.mp member
    rcases List.mem_cons.mp member with rfl | member
    · obtain ⟨pending, expired⟩ := List.mem_filter.mp heldTask
      exact (timely task pending expired).1
    · exact inv.due task (List.mem_flatMap.mpr ⟨frame', by simp [top, member], heldTask⟩)
  own := by
    intro frame' member b heldB a posted precedes
    rcases List.mem_cons.mp member with rfl | member
    · obtain ⟨pending, expired⟩ := List.mem_filter.mp heldB
      rcases accounted.mem_posted.mp posted with pendingA | heldA | executed
      · have expiredA : s.isExpired a = true :=
          accounted.isExpired_of_precedes posted (accounted.mem_posted.mpr (.inl pending)) precedes expired
        exact .inl (List.mem_filter.mpr ⟨pendingA, expiredA⟩)
      · exact absurd precedes ((timely b pending expired).2 a heldA)
      · exact .inr executed
    · exact inv.own frame' (by simp [top, member]) b heldB a posted precedes
  onTime := inv.onTime
  inOrder := inv.inOrder

theorem execute (inv : Ordered s) {task : FlTaskRunnerTask α} {expiredTasks : List (FlTaskRunnerTask α)}
    (top : s.stack = .processing (task :: expiredTasks) false :: rest) : Ordered { s with
      stack := .processing expiredTasks true :: rest, executed := s.executed ++ [⟨task, s.now⟩] } := by
  have sorted : (task :: expiredTasks).Pairwise fun a b => a.order < b.order :=
    inv.sorted (.processing (task :: expiredTasks) false) (by simp [top])
  have held : s.held = task :: (expiredTasks ++ rest.flatMap Frame.held) := by
    simp [TaskRunner.held, top, Frame.held]
  have own : ∀ b ∈ task :: expiredTasks, ∀ a ∈ s.posted, a.Precedes b →
      a ∈ task :: expiredTasks ∨ a ∈ s.executedTasks :=
    inv.own (.processing (task :: expiredTasks) false) (by simp [top])
  have grown : ({ s with
      stack := .processing expiredTasks true :: rest
      executed := s.executed ++ [⟨task, s.now⟩] } : TaskRunner α).executedTasks = s.executedTasks ++ [task] := by
    simp [executedTasks]
  exact {
    sortedPending := inv.sortedPending
    sorted := by
      intro frame member
      rcases List.mem_cons.mp member with rfl | member
      · exact (List.pairwise_cons.mp sorted).2
      · exact inv.sorted frame (by simp [top, member])
    due := by
      intro b member
      apply inv.due b
      rw [held]
      exact List.mem_cons_of_mem _ member
    own := by
      intro frame member b heldB a posted precedes
      rw [grown, List.mem_append, List.mem_singleton]
      rcases List.mem_cons.mp member with rfl | member
      · rcases own b (List.mem_cons_of_mem _ heldB) a posted precedes with same | executed
        · rcases List.mem_cons.mp same with now | same
          · exact .inr (.inr now)
          · exact .inl same
        · exact .inr (.inl executed)
      · rcases inv.own frame (by simp [top, member]) b heldB a posted precedes with same | executed
        · exact .inl same
        · exact .inr (.inl executed)
    onTime := by
      intro execution member
      rcases List.mem_append.mp member with before | now
      · exact inv.onTime execution before
      · rw [List.mem_singleton.mp now]
        exact inv.due task (by simp [held])
    inOrder := by
      intro a posted b before after precedes split
      rw [grown] at split
      rcases List.eq_nil_or_concat after with rfl | ⟨after, last, rfl⟩
      · obtain ⟨rfl, rfl⟩ : s.executedTasks = before ∧ task = b := by simpa using List.append_inj' split rfl
        -- The task is the first that its call still held.
        rcases own task List.mem_cons_self a posted precedes with same | executed
        · rcases List.mem_cons.mp same with rfl | later
          · exact absurd precedes.1 (Nat.lt_irrefl _)
          · exact absurd precedes.1 (Nat.lt_asymm ((List.pairwise_cons.mp sorted).1 a later))
        · exact executed
      · rw [List.concat_eq_append, ← List.cons_append, ← List.append_assoc] at split
        exact inv.inOrder a posted b before after precedes (List.append_inj' split rfl).1 }

theorem restack (inv : Ordered s) {stack : List (Frame α)} (same : stack.flatMap Frame.held = s.held)
    (known : ∀ frame ∈ stack, frame.held = [] ∨ ∃ frame' ∈ s.stack, frame'.held = frame.held) :
    Ordered { s with stack := stack } where
  sortedPending := inv.sortedPending
  sorted := by
    intro frame member
    rcases known frame member with empty | ⟨frame', member', same'⟩
    · simp [empty]
    · rw [← same']
      exact inv.sorted frame' member'
  due := by
    intro task held
    exact inv.due task (same ▸ held)
  own := by
    intro frame member b held a posted precedes
    rcases known frame member with empty | ⟨frame', member', same'⟩
    · simp [empty] at held
    · rw [← same'] at held ⊢
      exact inv.own frame' member' b held a posted precedes
  onTime := inv.onTime
  inOrder := inv.inOrder

theorem push (inv : Ordered s) (none : frame.held = []) : Ordered { s with stack := frame :: s.stack } := by
  apply inv.restack (by simp [TaskRunner.held, none])
  intro frame' member
  rcases List.mem_cons.mp member with rfl | member
  · exact .inl none
  · exact .inr ⟨frame', member, rfl⟩

theorem pop (inv : Ordered s) (top : s.stack = frame :: rest)
    (none : frame.held = []) : Ordered { s with stack := rest } := by
  apply inv.restack (by simp [TaskRunner.held, top, none])
  intro frame' member
  exact .inr ⟨frame', by simp [top, member], rfl⟩

theorem turn (inv : Ordered s) {expiredTasks : List (FlTaskRunnerTask α)} {running running' : Bool}
    (top : s.stack = .processing expiredTasks running :: rest) :
    Ordered { s with stack := .processing expiredTasks running' :: rest } := by
  apply inv.restack (by simp [TaskRunner.held, top, Frame.held])
  intro frame' member
  rcases List.mem_cons.mp member with rfl | member
  · exact .inr ⟨.processing expiredTasks running, by simp [top], rfl⟩
  · exact .inr ⟨frame', by simp [top, member], rfl⟩

theorem setSources (inv : Ordered s) (timeoutSourceId : Nat) (sources : List TimeoutSource) :
    Ordered { s with timeoutSourceId := timeoutSourceId, sources := sources } :=
  { inv with }

theorem step {s' : TaskRunner α} {op : Op α} (inv : Ordered s) (accounted : Accounted s) (timely : s.Timely op)
    (steps : s.Steps op s') : Ordered s' := by
  cases steps with
  | tick nanos =>
    exact { inv with due := fun task held => Nat.le_trans (inv.due task held) (Nat.le_add_right _ _) }
  | post task targetTimeNanos => exact inv.post accounted task targetTimeNanos
  | dispatch i => exact (inv.setSources s.timeoutSourceId (s.sources.eraseIdx i)).push rfl
  | beginWait => exact inv.push rfl
  | wake top => exact inv.collect accounted top (timely (by simp [isCollecting, top]))
  | expire top =>
    exact (inv.setSources 0 s.sources).collect (accounted.setSources 0 s.sources) top
      (timely (by simp [isCollecting, top]))
  | execute top => exact inv.execute top
  | back top => exact inv.turn top
  | finish top => exact (inv.pop top rfl).tasksDidChange

end Ordered

/-! ## Runs -/

theorem accounted_of_runs {guard : TaskRunner α → Op α → Prop} {log : List (Op α × Unit)}
    (runs : Runs step guard create log s) : Accounted s ∧ Armed s := by
  refine runs.preserves (P := fun s => Accounted s ∧ Armed s) ⟨Accounted.create, by simp [Armed, create]⟩ ?_
  intro s op out s' inv _ stepped
  have steps := steps_of_step stepped
  exact ⟨inv.1.step steps, inv.2.step inv.1 steps⟩

theorem kept_of_runs {guard : TaskRunner α → Op α → Prop} {log : List (Op α × Unit)}
    (runs : Runs step guard create log s) : Kept s := by
  obtain ⟨accounted, armed⟩ := accounted_of_runs runs
  exact {
    somewhere := fun task => accounted.mem_posted
    once := accounted.nodup_executedTasks
    armed := armed }

/-- The tasks keep the order in which they were posted and are not early, in every run in which the calls collect
    expired tasks only at or after their target times, and none that has to come after a task which another call
    has collected and still has to execute. -/
theorem sound_of_runs {log : List (Op α × Unit)} {s : TaskRunner α} (runs : Runs step Timely create log s) :
    Sound s := by
  have inv : Accounted s ∧ Ordered s := by
    refine runs.preserves (P := fun s => Accounted s ∧ Ordered s) ⟨Accounted.create, Ordered.create⟩ ?_
    intro s op out s' inv timely stepped
    have steps := steps_of_step stepped
    exact ⟨inv.1.step steps, inv.2.step inv.1 timely steps⟩
  exact { kept_of_runs runs with onTime := inv.2.onTime, inOrder := inv.2.inOrder }

/-- A task expires, and while it runs another one is posted and waited for. -/
theorem sound_of_runs_nested : ∃ log s, Sound (s : TaskRunner Nat) ∧ Runs step Timely create log s ∧
    s.executedTasks.map FlTaskRunnerTask.task = [0, 1] := by
  have ran : ∃ log s, run (guarded step .notEnabled fun s op => decide (s.Timely op)) (create : TaskRunner Nat)
      [.postFlutterTask 0 5000, .tick 1000000, .dispatchSource 0, .proceed, .proceed, .postFlutterTask 1 0,
        .beginWait, .proceed, .proceed] = .ok (log, s) ∧ s.executedTasks.map FlTaskRunnerTask.task = [0, 1] :=
    ⟨_, _, rfl, rfl⟩
  obtain ⟨log, s, ran, executed⟩ := ran
  have runs : Runs step Timely create log s :=
    runs_of_run_guarded (fun _ _ met => of_decide_eq_true met) ran
  exact ⟨log, s, sound_of_runs runs, runs, executed⟩

/-- Two tasks are collected by one wait.  While the first runs, a third is posted and waited for: it is executed
    before the second. -/
theorem not_sound_of_nested_wait : ¬ ∀ log (s : TaskRunner Nat), Runs step (fun _ _ => True) create log s → Sound s := by
  intro always
  have ran : ∃ log s, run step (create : TaskRunner Nat)
      [.postFlutterTask 0 0, .postFlutterTask 1 0, .beginWait, .proceed, .proceed, .postFlutterTask 2 0,
        .beginWait, .proceed, .proceed, .proceed, .proceed, .proceed, .proceed] = .ok (log, s) ∧
      s.executedTasks = [⟨0, 0, 0, 0⟩, ⟨2, 0, 2, 0⟩, ⟨1, 0, 1, 0⟩] ∧
      s.posted = [⟨0, 0, 0, 0⟩, ⟨1, 0, 1, 0⟩, ⟨2, 0, 2, 0⟩] :=
    ⟨_, _, rfl, rfl, rfl⟩
  obtain ⟨log, s, ran, executed, posted⟩ := ran
  have sound := always log s (runs_of_run (fun _ _ _ => trivial) ran)
  have before := sound.inOrder ⟨1, 0, 1, 0⟩ (by simp [posted]) ⟨2, 0, 2, 0⟩ [⟨0, 0, 0, 0⟩] [⟨1, 0, 1, 0⟩]
    (by decide) executed
  simp at before

end TaskRunner

end FlutterZero.Platform.Linux
