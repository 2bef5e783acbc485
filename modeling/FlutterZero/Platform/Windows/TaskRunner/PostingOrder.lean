import FlutterZero.Platform.Windows.TaskRunner

/-! # Posting order on Windows

A target time is a time of the engine's clock.  `TimePointFromFlutterTime` reads the clock of the task runner and then
the engine's, and what passes between the two readings is taken off the fire time.  Two posts whose delays differ come
out in the wrong order where the second delay is longer by more than their targets are apart.
-/

namespace FlutterZero.Platform.Windows

open FlutterZero.Lib

/-! ## Target times -/

/-- The time of the engine's clock that a target stands for: the difference to what the clock shows is taken for a
    signed number. -/
def meantTime (target current : UInt64) : Int := current.toNat + (target - current).toInt64.toInt

namespace TaskRunnerWindow

variable {α : Type}

/-! ## Posts -/

/-- A call of `PostFlutterTask` up to the mutex. -/
structure FlutterPost (α : Type) (runner offset : Nat) where
  before : TaskRunnerWindow α
  after : TaskRunnerWindow α
  flutterTask : α
  flutterTargetTimeNanos : UInt64
  currentTime : UInt64
  delay : Nat
  task : Task α
  posted : before.postFlutterTask runner flutterTask flutterTargetTimeNanos currentTime = .ok after
  pushes : after.calls = before.calls ++ [.enqueueTask runner task]
  /-- The engine's clock is ahead of the other by a fixed time. -/
  read : currentTime.toNat = offset + before.now + delay

/-- Two posts to one task runner, the second after the first, in a run that leads to the `ProcessTasks` of the runner
    with both tasks still in the queue. -/
structure TwoPosts (α : Type) where
  runner : Nat
  offset : Nat
  first : FlutterPost α runner offset
  second : FlutterPost α runner offset
  past : List (Op α × Unit)
  reached : Runs step (fun _ _ => True) create past first.before
  meanwhile : List (Op α × Unit)
  between : Runs step (fun _ _ => True) first.after meanwhile second.before
  /-- The first call was over when the second began. -/
  returned : first.before.now + first.delay ≤ second.before.now
  log : List (Op α × Unit)
  state : TaskRunnerWindow α
  since : Runs step (fun _ _ => True) second.after log state
  pushed : second.before.now + second.delay ≤ state.now
  next : Int
  delegates : List Nat
  now : Nat
  rest : List (Frame α)
  at_ : state.mainThread = .collect next delegates runner now :: rest
  delegate : TaskRunner α
  found : state.find runner = some delegate
  first_queued : first.task ∈ delegate.taskQueue.items
  second_queued : second.task ∈ delegate.taskQueue.items

/-- What `ProcessTasks` runs, in this order. -/
def TwoPosts.expiredTasks (posts : TwoPosts α) : List (Task α) :=
  TaskRunnerWindow.expiredTasks posts.delegate.taskQueue posts.now

namespace FlutterPost

variable {runner offset : Nat} (post : FlutterPost α runner offset)

theorem after_eq : ∃ fireTime, post.before.timePointFromFlutterTime post.flutterTargetTimeNanos post.currentTime =
      .ok fireTime ∧ post.after.globalTaskOrder = post.before.globalTaskOrder + 1 ∧
      post.task = ⟨post.before.globalTaskOrder + 1, fireTime, post.flutterTask⟩ := by
  obtain ⟨fireTime, converted, enqueued⟩ := bind_eq_ok.mp post.posted
  have pushes := post.pushes
  unfold enqueueTask at enqueued
  split at enqueued
  · have after := Except.ok.inj enqueued
    rw [← after] at pushes
    simp only [List.append_cancel_left_eq, List.cons.injEq, Call.enqueueTask.injEq, and_true, true_and] at pushes
    exact ⟨fireTime, converted, by rw [← after], pushes.symm⟩
  · cases enqueued

theorem fireTime_eq : post.task.fireTime =
    meantTime post.flutterTargetTimeNanos post.currentTime - offset - post.delay := by
  obtain ⟨fireTime, converted, _, task⟩ := post.after_eq
  have read := post.read
  unfold timePointFromFlutterTime at converted
  simp only at converted
  split at converted <;> cases converted
  simp only [task, meantTime]
  omega

end FlutterPost

theorem globalTaskOrder_step {s s' : TaskRunnerWindow α} {op : Op α} {out : Unit}
    (stepped : s.step op = .ok (out, s')) : s.globalTaskOrder ≤ s'.globalTaskOrder := by
  have enqueue : ∀ {runner variant fireTime}, s.enqueueTask runner variant fireTime = .ok s' →
      s.globalTaskOrder ≤ s'.globalTaskOrder := by
    intro runner variant fireTime enqueued
    unfold enqueueTask at enqueued
    split at enqueued <;> cases enqueued
    exact Nat.le_succ _
  cases op with
  | postFlutterTask runner flutterTask flutterTargetTimeNanos currentTime =>
    obtain ⟨s₁, posted, returned⟩ := bind_eq_ok.mp stepped
    cases returned
    obtain ⟨fireTime, _, enqueued⟩ := bind_eq_ok.mp posted
    exact enqueue enqueued
  | postTask runner closure =>
    obtain ⟨s₁, enqueued, returned⟩ := bind_eq_ok.mp stepped
    cases returned
    exact enqueue enqueued
  | advanceMainThread =>
    obtain ⟨s₁, advanced, returned⟩ := bind_eq_ok.mp stepped
    cases returned
    unfold TaskRunnerWindow.advanceMainThread at advanced
    split at advanced
    case h_8 =>
      split at advanced
      · cases advanced
      · obtain ⟨duration, _, returned⟩ := bind_eq_ok.mp advanced
        cases returned
        exact Nat.le_refl _
    all_goals first
      | cases advanced <;> exact Nat.le_refl _
      | split at advanced <;> cases advanced <;> exact Nat.le_refl _
  | advanceCall i =>
    obtain ⟨s₁, advanced, returned⟩ := bind_eq_ok.mp stepped
    cases returned
    unfold TaskRunnerWindow.advanceCall at advanced
    split at advanced
    all_goals first
      | cases advanced <;> exact Nat.le_refl _
      | split at advanced <;> cases advanced <;> exact Nat.le_refl _
  | advanceTimerThread =>
    obtain ⟨s₁, advanced, returned⟩ := bind_eq_ok.mp stepped
    cases returned
    unfold TaskRunnerWindow.advanceTimerThread at advanced
    split at advanced
    all_goals first
      | cases advanced <;> exact Nat.le_refl _
      | split at advanced <;> cases advanced <;> exact Nat.le_refl _
  | tick nanos | createTaskRunner id | destroyTaskRunner id | getMessage =>
    obtain ⟨s₁, went, returned⟩ := bind_eq_ok.mp stepped
    cases returned
    simp only [TaskRunnerWindow.tick, createTaskRunner, destroyTaskRunner, TaskRunnerWindow.getMessage] at went
    split at went <;> cases went
    exact Nat.le_refl _

theorem globalTaskOrder_of_runs {s₀ s : TaskRunnerWindow α} {log : List (Op α × Unit)}
    (runs : Runs step (fun _ _ => True) s₀ log s) : s₀.globalTaskOrder ≤ s.globalTaskOrder :=
  runs.preserves (P := fun s => s₀.globalTaskOrder ≤ s.globalTaskOrder) (Nat.le_refl _)
    fun _ _ _ _ grown _ stepped => Nat.le_trans grown (globalTaskOrder_step stepped)

theorem mem_expiredTasks {taskQueue : TaskQueue α} {now : Nat} {task : Task α} :
    task ∈ expiredTasks taskQueue now ↔ task ∈ taskQueue.items ∧ task.fireTime ≤ now := by
  constructor
  · intro taken
    have expired := List.mem_takeWhile_imp (p := fun task : Task α => task.fireTime ≤ now) taken
    exact ⟨(List.takeWhile_sublist _).mem taken, of_decide_eq_true expired⟩
  · rintro ⟨queued, expired⟩
    refine PriorityQueue.mem_takeWhile_of_pairwise ?_ queued (decide_eq_true expired)
    refine taskQueue.ordered.imp ?_
    intro a b notAfter
    rw [Task.notAfter_iff] at notAfter
    simp only [decide_eq_true_eq]
    omega

namespace TwoPosts

variable (posts : TwoPosts α)

theorem order_lt : posts.first.task.order < posts.second.task.order := by
  obtain ⟨_, _, counted, first⟩ := posts.first.after_eq
  obtain ⟨_, _, _, second⟩ := posts.second.after_eq
  have grown := globalTaskOrder_of_runs posts.between
  simp only [first, second]
  omega

theorem pair_sublist_iff (runs_second : posts.second.task ∈ posts.expiredTasks) :
    [posts.first.task, posts.second.task].Sublist posts.expiredTasks ↔
      posts.first.task.fireTime ≤ posts.second.task.fireTime := by
  have counted := posts.order_lt
  have within : posts.expiredTasks.Sublist posts.delegate.taskQueue.items := List.takeWhile_sublist _
  constructor
  · intro inOrder
    have ordered := List.pairwise_pair.mp ((posts.delegate.taskQueue.ordered.sublist within).sublist inOrder)
    rw [Task.notAfter_iff] at ordered
    omega
  · intro notLater
    have due := (mem_expiredTasks.mp runs_second).2
    have runs_first : posts.first.task ∈ posts.expiredTasks :=
      mem_expiredTasks.mpr ⟨posts.first_queued, Int.le_trans notLater due⟩
    refine PriorityQueue.pair_sublist within runs_first runs_second ?_ ?_
    · intro same
      rw [same] at counted
      exact Nat.lt_irrefl _ counted
    · rw [Task.notAfter_iff]
      omega

end TwoPosts

/-- In every run in which `ProcessTasks` runs the task of the second of two posts, it runs that of the first before it
    exactly where the delay between the readings of the clocks has not grown by more than the target times are apart. -/
theorem inOrder_iff (posts : TwoPosts α) (runs_second : posts.second.task ∈ posts.expiredTasks) :
    [posts.first.task, posts.second.task].Sublist posts.expiredTasks ↔
      (posts.second.delay : Int) - posts.first.delay ≤
        meantTime posts.second.flutterTargetTimeNanos posts.second.currentTime -
          meantTime posts.first.flutterTargetTimeNanos posts.first.currentTime := by
  rw [posts.pair_sublist_iff runs_second, posts.first.fireTime_eq, posts.second.fireTime_eq]
  omega

theorem exists_overtaking : ∃ posts : TwoPosts Unit,
    posts.first.flutterTargetTimeNanos = 1000 ∧ posts.second.flutterTargetTimeNanos = 1000 ∧
    posts.second.task ∈ posts.expiredTasks ∧ posts.first.task.fireTime = 1000 ∧ posts.second.task.fireTime = 999 := by
  have ran : ∃ past beforeA afterA meanwhile beforeB afterB log state delegate,
      run step (create : TaskRunnerWindow Unit) [.createTaskRunner 1, .advanceMainThread] = .ok (past, beforeA) ∧
      beforeA.postFlutterTask 1 () 1000 0 = .ok afterA ∧
      afterA.calls = beforeA.calls ++ [.enqueueTask 1 ⟨1, 1000, ()⟩] ∧ beforeA.now = 0 ∧
      run step afterA [.advanceCall 0, .advanceCall 0, .advanceCall 0] = .ok (meanwhile, beforeB) ∧
      beforeB.postFlutterTask 1 () 1000 1 = .ok afterB ∧
      afterB.calls = beforeB.calls ++ [.enqueueTask 1 ⟨2, 999, ()⟩] ∧ beforeB.now = 0 ∧
      run step afterB [.advanceCall 0, .advanceCall 0, .tick 1000, .getMessage, .advanceMainThread,
        .advanceMainThread] = .ok (log, state) ∧
      state.mainThread = [.collect kMaxNanoseconds [] 1 1000] ∧ state.now = 1000 ∧ state.find 1 = some delegate ∧
      delegate.taskQueue.items = [⟨2, 999, ()⟩, ⟨1, 1000, ()⟩] :=
    ⟨_, _, _, _, _, _, _, _, _, rfl, rfl, rfl, rfl, rfl, rfl, rfl, rfl, rfl, rfl, rfl, rfl, rfl⟩
  obtain ⟨past, beforeA, afterA, meanwhile, beforeB, afterB, log, state, delegate, reached, postedA, pushesA, nowA,
    between, postedB, pushesB, nowB, since, at_, now, found, items⟩ := ran
  let posts : TwoPosts Unit := {
    runner := 1
    offset := 0
    first := ⟨beforeA, afterA, (), 1000, 0, 0, ⟨1, 1000, ()⟩, postedA, pushesA, by simp [nowA]⟩
    second := ⟨beforeB, afterB, (), 1000, 1, 1, ⟨2, 999, ()⟩, postedB, pushesB, by simp [nowB]⟩
    past := past
    reached := runs_of_run (fun _ _ _ => trivial) reached
    meanwhile := meanwhile
    between := runs_of_run (fun _ _ _ => trivial) between
    returned := by simp [nowA, nowB]
    log := log
    state := state
    since := runs_of_run (fun _ _ _ => trivial) since
    pushed := by simp [nowB, now]
    next := kMaxNanoseconds
    delegates := []
    now := 1000
    rest := []
    at_ := at_
    delegate := delegate
    found := found
    first_queued := by simp [items]
    second_queued := by simp [items] }
  have due : (999 : Int) ≤ (1000 : Nat) := by decide
  exact ⟨posts, rfl, rfl, mem_expiredTasks.mpr ⟨posts.second_queued, due⟩, rfl, rfl⟩

theorem inOrder_iff_overtaking : ∃ posts : TwoPosts Unit, posts.second.task ∈ posts.expiredTasks ∧
    ([posts.first.task, posts.second.task].Sublist posts.expiredTasks ↔
      (posts.second.delay : Int) - posts.first.delay ≤
        meantTime posts.second.flutterTargetTimeNanos posts.second.currentTime -
          meantTime posts.first.flutterTargetTimeNanos posts.first.currentTime) := by
  obtain ⟨posts, _, _, runs_second, _⟩ := exists_overtaking
  exact ⟨posts, runs_second, inOrder_iff posts runs_second⟩

/-- The second of two posts with the same target time overtakes the first. -/
theorem not_inOrder : ¬ ∀ posts : TwoPosts Unit,
    posts.first.flutterTargetTimeNanos ≤ posts.second.flutterTargetTimeNanos →
    posts.second.task ∈ posts.expiredTasks → [posts.first.task, posts.second.task].Sublist posts.expiredTasks := by
  intro always
  obtain ⟨posts, targetA, targetB, runs_second, fireA, fireB⟩ := exists_overtaking
  have inOrder := always posts (by simp [targetA, targetB]) runs_second
  rw [posts.pair_sublist_iff runs_second, fireA, fireB] at inOrder
  omega

end TaskRunnerWindow

end FlutterZero.Platform.Windows
