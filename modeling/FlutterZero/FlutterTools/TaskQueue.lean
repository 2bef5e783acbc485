import FlutterZero.Lib.Machine

/-! # The task queue of the tools

`TaskQueue` (`task_queue.dart`) runs closures that return futures, not more than `maxJobs` at a
time.

A closure runs synchronously up to its first `await`, and what it calls meanwhile runs inside
of `add`: the closures that are in this part stand on a stack, and only the one on top can do
anything.  Everything else happens when the stack is empty.

* `processTask`, `add`, `run` — the queue and its items;
* `Inv` — what holds after every step;
* `FairRun.completes` — every task is run if none takes forever;
* `runs_every_task` — all of it.
-/

namespace FlutterZero.FlutterTools

open FlutterZero.Lib

variable {T E : Type}

/-- The items are numbered in the order in which they are added, and so are the futures of `tasksComplete`. -/
structure TaskQueue (T E : Type) where
  maxJobs : Nat
  pendingTasks : List Nat
  activeTasks : List Nat
  completeListeners : List Nat
  /-- The items whose closures have been called and have not returned, the last one first. -/
  stack : List Nat
  added : Nat
  started : List Nat
  /-- The futures of `add` that have completed, with a value or an error. -/
  completed : List (Nat × Except E T)
  /-- The number of futures of `tasksComplete`. -/
  requested : Nat
  signalled : List Nat

namespace TaskQueue

def create (maxJobs : Nat) : TaskQueue T E := ⟨maxJobs, [], [], [], [], 0, [], [], 0, []⟩

def checkForCompletion (s : TaskQueue T E) : TaskQueue T E :=
  if s.activeTasks.isEmpty && s.pendingTasks.isEmpty then
    { s with completeListeners := [], signalled := s.signalled ++ s.completeListeners }
  else s

def processTask (s : TaskQueue T E) : TaskQueue T E :=
  match s.pendingTasks with
  | item :: pendingTasks =>
    if s.activeTasks.length ≤ s.maxJobs then
      { s with
        pendingTasks := pendingTasks
        activeTasks := s.activeTasks ++ [item]
        stack := item :: s.stack
        started := s.started ++ [item] }
    else s.checkForCompletion
  | [] => s.checkForCompletion

def add (s : TaskQueue T E) : TaskQueue T E :=
  let s := { s with pendingTasks := s.pendingTasks ++ [s.added], added := s.added + 1 }
  if s.activeTasks.length < s.maxJobs then s.processTask else s

def tasksComplete (s : TaskQueue T E) : TaskQueue T E :=
  if s.activeTasks.isEmpty && s.pendingTasks.isEmpty then
    { s with requested := s.requested + 1, signalled := s.signalled ++ [s.requested] }
  else { s with requested := s.requested + 1, completeListeners := s.completeListeners ++ [s.requested] }

def onComplete (s : TaskQueue T E) (item : Nat) : TaskQueue T E :=
  { s with activeTasks := s.activeTasks.erase item }.processTask

/-- The end of `run`. -/
def finish (s : TaskQueue T E) (item : Nat) (outcome : Except E T) : TaskQueue T E :=
  { s with completed := s.completed ++ [(item, outcome)] }.onComplete item

inductive Event (T E : Type) where
  /-- A call of `add`, from the closure on top of the stack or, with an empty stack, from anywhere. -/
  | add
  | tasksComplete
  | returns
  /-- The closure on top throws. -/
  | throws (item : Nat) (error : E)
  | settles (item : Nat) (outcome : Except E T)

/-- How the task of an item ends with an event, if it does. -/
def Event.outcome : Event T E → Option (Nat × Except E T)
  | .throws item error => some (item, .error error)
  | .settles item outcome => some (item, outcome)
  | _ => none

def step (s : TaskQueue T E) : Event T E → Except Unit (Unit × TaskQueue T E)
  | .add => .ok ((), s.add)
  | .tasksComplete => .ok ((), s.tasksComplete)
  | .returns =>
    match s.stack with
    | [] => .error ()
    | _ :: stack => .ok ((), { s with stack := stack })
  | .throws item error =>
    match s.stack with
    | [] => .error ()
    | top :: stack => if top = item then .ok ((), { s with stack := stack }.finish item (.error error)) else .error ()
  | .settles item outcome =>
    if s.stack.isEmpty && s.activeTasks.contains item then .ok ((), s.finish item outcome) else .error ()

/-! ## The invariant -/

variable {s s' : TaskQueue T E} {item : Nat} {outcome : Except E T} {event : Event T E} {out : Unit} {maxJobs : Nat}

def Idle (s : TaskQueue T E) : Prop := s.activeTasks = [] ∧ s.pendingTasks = []

structure Inv (maxJobs : Nat) (s : TaskQueue T E) : Prop where
  maxJobs_eq : s.maxJobs = maxJobs
  jobs : s.activeTasks.length ≤ maxJobs
  full : s.pendingTasks ≠ [] → s.activeTasks.length = maxJobs
  order : s.started ++ s.pendingTasks = List.range s.added
  accounted : s.started.Perm (s.activeTasks ++ s.completed.map Prod.fst)
  stacked : s.stack.Nodup ∧ ∀ item ∈ s.stack, item ∈ s.activeTasks
  listeners : (s.signalled ++ s.completeListeners).Perm (List.range s.requested)
  idle : s.Idle → s.completeListeners = []

theorem Inv.create (maxJobs : Nat) : Inv maxJobs (create maxJobs : TaskQueue T E) where
  maxJobs_eq := rfl
  jobs := Nat.zero_le _
  full more := absurd rfl more
  order := rfl
  accounted := .refl _
  stacked := ⟨List.nodup_nil, fun _ inside => by cases inside⟩
  listeners := .refl _
  idle _ := rfl

theorem Inv.started_nodup (inv : Inv maxJobs s) : s.started.Nodup := by
  have all : (s.started ++ s.pendingTasks).Nodup := by
    rw [inv.order]
    exact List.nodup_range
  exact all.of_append_left

theorem Inv.active_nodup (inv : Inv maxJobs s) : (s.activeTasks ++ s.completed.map Prod.fst).Nodup :=
  inv.accounted.nodup_iff.mp inv.started_nodup

/-! ## The capacity tests -/

theorem checkForCompletion_idle (idle : s.Idle) :
    s.checkForCompletion = { s with completeListeners := [], signalled := s.signalled ++ s.completeListeners } := by
  simp [checkForCompletion, idle.1, idle.2]

theorem checkForCompletion_busy (busy : ¬ s.Idle) : s.checkForCompletion = s := by
  rw [checkForCompletion, if_neg]
  simpa [Idle] using busy

/-- What holds before an item is started: one more may run, and the listeners have not been told yet. -/
structure Ready (maxJobs : Nat) (s : TaskQueue T E) : Prop where
  maxJobs_eq : s.maxJobs = maxJobs
  jobs : s.activeTasks.length < maxJobs
  /-- There is only one to start unless the others take all places. -/
  full : s.pendingTasks.tail ≠ [] → s.activeTasks.length + 1 = maxJobs
  order : s.started ++ s.pendingTasks = List.range s.added
  accounted : s.started.Perm (s.activeTasks ++ s.completed.map Prod.fst)
  stacked : s.stack.Nodup ∧ ∀ item ∈ s.stack, item ∈ s.activeTasks
  listeners : (s.signalled ++ s.completeListeners).Perm (List.range s.requested)

theorem Ready.processTask (ready : Ready maxJobs s) : Inv maxJobs s.processTask ∧
    s.processTask.completed = s.completed ∧
    (s.processTask.signalled ≠ s.signalled → s.processTask.Idle) := by
  cases pending : s.pendingTasks with
  | nil =>
    have same : s.processTask = s.checkForCompletion := by simp [TaskQueue.processTask, pending]
    rw [same]
    by_cases idle : s.Idle
    · rw [checkForCompletion_idle idle]
      refine ⟨⟨ready.maxJobs_eq, ready.jobs.le, fun more => absurd pending more, ready.order, ready.accounted,
        ready.stacked, ?_, fun _ => rfl⟩, rfl, fun _ => idle⟩
      simpa using ready.listeners
    · rw [checkForCompletion_busy idle]
      exact ⟨⟨ready.maxJobs_eq, ready.jobs.le, fun more => absurd pending more, ready.order, ready.accounted,
        ready.stacked, ready.listeners, fun now => absurd now idle⟩, rfl, fun other => absurd rfl other⟩
  | cons item pendingTasks =>
    have room : s.activeTasks.length ≤ s.maxJobs := by
      rw [ready.maxJobs_eq]
      exact ready.jobs.le
    have full := ready.full
    rw [pending, List.tail_cons] at full
    have order := ready.order
    rw [pending] at order
    -- The item has not been started before.
    have fresh : item ∉ s.started := by
      have all : (s.started ++ item :: pendingTasks).Nodup := by
        rw [order]
        exact List.nodup_range
      exact fun inside => (List.nodup_append.mp all).2.2 item inside item (by simp) rfl
    have others : item ∉ s.stack := by
      intro inside
      apply fresh
      rw [ready.accounted.mem_iff]
      exact List.mem_append_left _ (ready.stacked.2 item inside)
    simp only [TaskQueue.processTask, pending, room, if_true]
    refine ⟨⟨ready.maxJobs_eq, ?_, fun more => ?_, by simpa using order, ?_, ⟨?_, ?_⟩,
      ready.listeners, fun idle => by simp [Idle] at idle⟩, trivial, fun other => absurd rfl other⟩
    · rw [List.length_append, List.length_singleton]
      exact ready.jobs
    · rw [List.length_append, List.length_singleton]
      exact full more
    · have added := ready.accounted.append_right [item]
      refine added.trans ?_
      rw [List.append_assoc, List.append_assoc]
      exact List.perm_append_comm.append_left _
    · exact List.nodup_cons.mpr ⟨others, ready.stacked.1⟩
    · simp only [List.mem_cons, forall_eq_or_imp]
      exact ⟨by simp, fun other inside => List.mem_append_left _ (ready.stacked.2 other inside)⟩

/-! ## The steps -/

theorem Inv.add (inv : Inv maxJobs s) : Inv maxJobs s.add ∧ s.add.completed = s.completed ∧
    (s.add.signalled ≠ s.signalled → s.add.Idle) := by
  have order : s.started ++ (s.pendingTasks ++ [s.added]) = List.range (s.added + 1) := by
    rw [← List.append_assoc, inv.order, List.range_succ]
  unfold TaskQueue.add
  by_cases room : s.activeTasks.length < s.maxJobs
  · rw [if_pos room]
    rw [inv.maxJobs_eq] at room
    have none : s.pendingTasks = [] := by
      by_contra more
      exact absurd (inv.full more) room.ne
    apply Ready.processTask
    exact ⟨inv.maxJobs_eq, room, fun more => by simp [none] at more, order, inv.accounted, inv.stacked, inv.listeners⟩
  · rw [if_neg room]
    rw [inv.maxJobs_eq] at room
    have full : s.activeTasks.length = maxJobs := Nat.le_antisymm inv.jobs (Nat.le_of_not_lt room)
    refine ⟨⟨inv.maxJobs_eq, inv.jobs, fun _ => full, order, inv.accounted, inv.stacked, inv.listeners, fun idle => ?_⟩,
      rfl, fun other => absurd rfl other⟩
    simp [Idle] at idle

theorem Inv.tasksComplete (inv : Inv maxJobs s) : Inv maxJobs s.tasksComplete := by
  unfold TaskQueue.tasksComplete
  split
  · rename_i empty
    have idle : s.Idle := by simpa [Idle] using empty
    refine ⟨inv.maxJobs_eq, inv.jobs, inv.full, inv.order, inv.accounted, inv.stacked, ?_, inv.idle⟩
    have told := inv.listeners
    rw [inv.idle idle, List.append_nil] at told
    simpa [inv.idle idle, List.range_succ] using told.append_right [s.requested]
  · rename_i busy
    refine ⟨inv.maxJobs_eq, inv.jobs, inv.full, inv.order, inv.accounted, inv.stacked, ?_, fun idle => ?_⟩
    · simpa [List.range_succ] using inv.listeners.append_right [s.requested]
    · exact absurd idle (by simpa [Idle] using busy)

theorem Inv.returns {stack : List Nat} {top : Nat} (inv : Inv maxJobs s) (split : s.stack = top :: stack) :
    Inv maxJobs { s with stack := stack } := by
  have stacked := inv.stacked
  rw [split] at stacked
  exact ⟨inv.maxJobs_eq, inv.jobs, inv.full, inv.order, inv.accounted,
    ⟨(List.nodup_cons.mp stacked.1).2, fun item inside => stacked.2 item (List.mem_cons_of_mem top inside)⟩,
    inv.listeners, inv.idle⟩

theorem Inv.finish (inv : Inv maxJobs s) (active : item ∈ s.activeTasks) (off : item ∉ s.stack) (outcome : Except E T) :
    Inv maxJobs (s.finish item outcome) ∧ (s.finish item outcome).completed = s.completed ++ [(item, outcome)] ∧
      ((s.finish item outcome).signalled ≠ s.signalled → (s.finish item outcome).Idle) := by
  have shorter := List.length_erase_of_mem active
  have some := List.length_pos_of_mem active
  have jobs := inv.jobs
  apply Ready.processTask
  constructor
  · exact inv.maxJobs_eq
  · show (s.activeTasks.erase item).length < maxJobs
    omega
  · intro more
    change s.pendingTasks.tail ≠ [] at more
    have full := inv.full fun none => more (by rw [none, List.tail_nil])
    show (s.activeTasks.erase item).length + 1 = maxJobs
    omega
  · exact inv.order
  · show s.started.Perm (s.activeTasks.erase item ++ (s.completed ++ [(item, outcome)]).map Prod.fst)
    have front := (List.perm_cons_erase active).append_right (s.completed.map Prod.fst)
    refine (inv.accounted.trans front).trans ?_
    rw [List.map_append, ← List.append_assoc]
    exact (List.perm_append_singleton item _).symm
  · refine ⟨inv.stacked.1, fun other inside => ?_⟩
    have different : other ≠ item := by
      rintro rfl
      exact off inside
    exact (List.mem_erase_of_ne different).mpr (inv.stacked.2 other inside)
  · exact inv.listeners

theorem Inv.step (inv : Inv maxJobs s) (stepped : step s event = .ok (out, s')) :
    Inv maxJobs s' ∧ s'.completed = s.completed ++ event.outcome.toList ∧ (s'.signalled ≠ s.signalled → s'.Idle) := by
  cases event with
  | add =>
    cases stepped
    simpa [Event.outcome] using inv.add
  | tasksComplete =>
    cases stepped
    refine ⟨inv.tasksComplete, ?_, ?_⟩ <;> unfold TaskQueue.tasksComplete <;> split
    · simp [Event.outcome]
    · simp [Event.outcome]
    · rename_i empty
      exact fun _ => by simpa [Idle] using empty
    · exact fun other => absurd rfl other
  | returns =>
    cases split : s.stack with
    | nil => simp [TaskQueue.step, split] at stepped
    | cons top stack =>
      simp only [TaskQueue.step, split, Except.ok.injEq, Prod.mk.injEq, true_and] at stepped
      subst stepped
      exact ⟨inv.returns split, by simp [Event.outcome], fun other => absurd rfl other⟩
  | throws item error =>
    cases split : s.stack with
    | nil => simp [TaskQueue.step, split] at stepped
    | cons top stack =>
      by_cases same : top = item
      · simp only [TaskQueue.step, split, same, if_true, Except.ok.injEq, Prod.mk.injEq, true_and] at stepped
        subst stepped same
        have stacked := inv.stacked
        rw [split] at stacked
        exact (inv.returns split).finish (stacked.2 top List.mem_cons_self) (List.nodup_cons.mp stacked.1).1 _
      · simp [TaskQueue.step, split, same] at stepped
  | settles item outcome =>
    by_cases able : s.stack = [] ∧ item ∈ s.activeTasks
    · simp [TaskQueue.step, able] at stepped
      subst stepped
      exact inv.finish able.2 (by simp [able.1]) outcome
    · simp [TaskQueue.step, able] at stepped

theorem inv_of_runs {log : List (Event T E × Unit)} (runs : Runs step (fun _ _ => True) (create maxJobs) log s) :
    Inv maxJobs s ∧ s.completed = log.filterMap fun entry => entry.1.outcome := by
  induction runs with
  | start => exact ⟨.create maxJobs, rfl⟩
  | @next log s s' event out _ _ stepped ih =>
    obtain ⟨inv, completed, -⟩ := ih.1.step stepped
    refine ⟨inv, ?_⟩
    rw [completed, ih.2, List.filterMap_append]
    cases ends : event.outcome <;> simp [ends]

@[simp] theorem added_checkForCompletion (s : TaskQueue T E) : s.checkForCompletion.added = s.added := by
  unfold checkForCompletion
  split <;> rfl

@[simp] theorem added_processTask (s : TaskQueue T E) : s.processTask.added = s.added := by
  unfold processTask
  split
  · split <;> simp
  · simp

theorem added_le (stepped : step s event = .ok (out, s')) : s.added ≤ s'.added := by
  cases event with
  | add =>
    cases stepped
    simp only [TaskQueue.add]
    split <;> simp
  | tasksComplete =>
    cases stepped
    unfold TaskQueue.tasksComplete
    split <;> exact Nat.le_refl _
  | returns =>
    cases split : s.stack with
    | nil => simp [step, split] at stepped
    | cons top stack =>
      simp only [step, split, Except.ok.injEq, Prod.mk.injEq, true_and] at stepped
      simp [← stepped]
  | throws item error =>
    cases split : s.stack with
    | nil => simp [step, split] at stepped
    | cons top stack =>
      by_cases same : top = item
      · simp only [step, split, same, if_true, Except.ok.injEq, Prod.mk.injEq, true_and] at stepped
        simp [← stepped, finish, onComplete]
      · simp [step, split, same] at stepped
  | settles item outcome =>
    simp only [step] at stepped
    split at stepped
    · cases stepped
      simp [finish, onComplete]
    · cases stepped

/-! ## Fair runs -/

/-- A run without an end in which no task takes forever. -/
structure FairRun (T E : Type) (maxJobs : Nat) where
  state : Nat → TaskQueue T E
  event : Nat → Event T E
  init : state 0 = create maxJobs
  stepped : ∀ n, step (state n) (event n) = .ok ((), state (n + 1))
  ends : ∀ n item, item ∈ (state n).activeTasks → ∃ m, n ≤ m ∧ ∃ outcome, (event m).outcome = some (item, outcome)

theorem Inv.started_eq (inv : Inv maxJobs s) : s.started = List.range s.started.length := by
  have whole := congrArg (List.take s.started.length) inv.order
  have length := congrArg List.length inv.order
  rw [List.length_append, List.length_range] at length
  rw [List.take_left, List.take_range, Nat.min_eq_left (by omega)] at whole
  exact whole

theorem Inv.started_of_completed (inv : Inv maxJobs s) (positive : 0 < maxJobs) {k : Nat} (added : k < s.added)
    (before : ∀ j < k, j ∈ s.completed.map Prod.fst) : k ∈ s.started := by
  by_contra waiting
  have inside : k ∈ s.started ++ s.pendingTasks := by
    rw [inv.order]
    exact List.mem_range.mpr added
  have pending : k ∈ s.pendingTasks := (List.mem_append.mp inside).resolve_left waiting
  have full := inv.full (List.ne_nil_of_mem pending)
  obtain ⟨item, active⟩ := List.exists_mem_of_length_pos (by omega : 0 < s.activeTasks.length)
  have begun : item ∈ s.started := inv.accounted.mem_iff.mpr (List.mem_append_left _ active)
  rw [inv.started_eq, List.mem_range] at waiting begun
  exact (List.nodup_append.mp inv.active_nodup).2.2 item active item (before item (by omega)) rfl

namespace FairRun

variable (run : FairRun T E maxJobs) {n m : Nat}

theorem inv (n : Nat) : Inv maxJobs (run.state n) := by
  induction n with
  | zero =>
    rw [run.init]
    exact .create maxJobs
  | succ n ih => exact (ih.step (run.stepped n)).1

theorem completed_succ (n : Nat) :
    (run.state (n + 1)).completed = (run.state n).completed ++ (run.event n).outcome.toList :=
  ((run.inv n).step (run.stepped n)).2.1

theorem completed_mono (later : n ≤ m) {k : Nat} (done : k ∈ (run.state n).completed.map Prod.fst) :
    k ∈ (run.state m).completed.map Prod.fst := by
  induction later with
  | refl => exact done
  | step _ ih =>
    rw [run.completed_succ, List.map_append]
    exact List.mem_append_left _ ih

theorem added_mono (later : n ≤ m) : (run.state n).added ≤ (run.state m).added := by
  induction later with
  | refl => exact Nat.le_refl _
  | step _ ih => exact ih.trans (added_le (run.stepped _))

theorem completes (positive : 0 < maxJobs) (k : Nat) (added : k ≤ (run.state n).added) :
    ∃ m, n ≤ m ∧ ∀ j < k, j ∈ (run.state m).completed.map Prod.fst := by
  induction k with
  | zero => exact ⟨n, Nat.le_refl n, fun j less => absurd less (Nat.not_lt_zero j)⟩
  | succ k ih =>
    obtain ⟨m, later, before⟩ := ih (Nat.le_of_succ_le added)
    have known : k < (run.state m).added := lt_of_lt_of_le added (run.added_mono later)
    have started := (run.inv m).started_of_completed positive known before
    rw [(run.inv m).accounted.mem_iff, List.mem_append] at started
    rcases started with active | done
    · obtain ⟨l, after, outcome, ends⟩ := run.ends m k active
      refine ⟨l + 1, by omega, fun j less => ?_⟩
      rcases Nat.lt_or_eq_of_le (Nat.le_of_lt_succ less) with less | rfl
      · exact run.completed_mono (by omega) (before j less)
      · rw [run.completed_succ, ends]
        simp
    · refine ⟨m, later, fun j less => ?_⟩
      rcases Nat.lt_or_eq_of_le (Nat.le_of_lt_succ less) with less | rfl
      · exact before j less
      · exact done

end FairRun

/-! ## The queue -/

structure Throttled (maxJobs : Nat) (log : List (Event T E × Unit)) (s : TaskQueue T E) : Prop where
  jobs : s.activeTasks.length ≤ maxJobs
  order : s.started ++ s.pendingTasks = List.range s.added
  full : s.pendingTasks ≠ [] → s.activeTasks.length = maxJobs
  accounted : s.started.Perm (s.activeTasks ++ s.completed.map Prod.fst)
  outcomes : s.completed = log.filterMap fun entry => entry.1.outcome
  /-- Every future of `tasksComplete` has completed, which happens once, or is waiting. -/
  listeners : (s.signalled ++ s.completeListeners).Perm (List.range s.requested)
  idle : s.Idle → s.completeListeners = []
  /-- A step with which such a future completes ends with no task pending or active. -/
  signals : ∀ event out s', step s event = .ok (out, s') → s'.signalled ≠ s.signalled → s'.Idle

theorem runs_every_task (maxJobs : Nat) (positive : 0 < maxJobs) :
    (∀ log (s : TaskQueue T E), Runs step (fun _ _ => True) (create maxJobs) log s → Throttled maxJobs log s) ∧
      ∀ (run : FairRun T E maxJobs) (n k : Nat), k < (run.state n).added →
        ∃ m, k ∈ (run.state m).completed.map Prod.fst := by
  constructor
  · intro log s runs
    obtain ⟨inv, outcomes⟩ := inv_of_runs runs
    exact ⟨inv.jobs, inv.order, inv.full, inv.accounted, outcomes, inv.listeners, inv.idle,
      fun event out s' stepped => (inv.step stepped).2.2⟩
  · intro run n k added
    obtain ⟨m, -, all⟩ := run.completes positive (k + 1) added
    exact ⟨m, all k (Nat.lt_succ_self k)⟩

/-- A task that adds another one while its closure runs; the closure of the other one throws. -/
def nested : Nat → Event Nat String
  | 0 => .add
  | 1 => .add
  | 2 => .tasksComplete
  | 3 => .returns
  | 4 => .settles 0 (.ok 5)
  | 5 => .throws 1 "error"
  | _ => .tasksComplete

def nestedState : Nat → TaskQueue Nat String
  | 0 => create 1
  | n + 1 =>
    match step (nestedState n) (nested n) with
    | .ok (_, s) => s
    | .error _ => nestedState n

theorem activeTasks_tasksComplete (s : TaskQueue T E) : s.tasksComplete.activeTasks = s.activeTasks := by
  unfold tasksComplete
  split <;> rfl

theorem nestedState_end (n : Nat) : (nestedState (n + 6)).activeTasks = [] := by
  induction n with
  | zero => rfl
  | succ n ih => exact (activeTasks_tasksComplete (nestedState (n + 6))).trans ih

def nestedRun : FairRun Nat String 1 where
  state := nestedState
  event := nested
  init := rfl
  stepped n := by
    match n with
    | 0 | 1 | 2 | 3 | 4 | 5 => rfl
    | n + 6 => rfl
  ends n item active := by
    match n with
    | 0 => cases active
    | 1 | 2 | 3 | 4 =>
      obtain rfl : item = 0 := List.mem_singleton.mp active
      exact ⟨4, by omega, _, rfl⟩
    | 5 =>
      obtain rfl : item = 1 := List.mem_singleton.mp active
      exact ⟨5, by omega, _, rfl⟩
    | n + 6 =>
      rw [nestedState_end] at active
      cases active

theorem runs_every_task_nested :
    (∃ log s, Runs step (fun _ _ => True) (create 1) log s ∧ s.signalled = [0] ∧
        s.completed.map Prod.fst = [0, 1] ∧ Throttled (T := Nat) (E := String) 1 log s) ∧
      ∃ m, 1 ∈ (nestedRun.state m).completed.map Prod.fst := by
  obtain ⟨safe, lively⟩ := runs_every_task (T := Nat) (E := String) 1 Nat.one_pos
  constructor
  · obtain ⟨⟨log, s⟩, ran⟩ : ∃ result, Lib.run step (create 1) ((List.range 6).map nested) = .ok result := ⟨_, rfl⟩
    have runs : Runs step (fun _ _ => True) (create 1) log s := runs_of_run (fun _ _ _ => trivial) ran
    have last : s.signalled = [0] ∧ s.completed.map Prod.fst = [0, 1] := by
      cases ran
      exact ⟨rfl, rfl⟩
    exact ⟨log, s, runs, last.1, last.2, safe log s runs⟩
  · exact lively nestedRun 2 1 Nat.one_lt_two

end TaskQueue

end FlutterZero.FlutterTools
