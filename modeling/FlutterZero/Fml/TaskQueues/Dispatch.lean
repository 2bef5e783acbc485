import FlutterZero.Fml.TaskQueues.Effects

/-! # Tasks are handed out once, earliest first

The account of a run of the task queues: every registration of the run is either
among the tasks handed out or still held by the queue it was made on (`Ledger`).
`order_` wraps at 32 bits and is sign-extended, so the order numbers follow the
registrations for the first 2^32 of them (`orderOf_lt_orderOf`).
-/

namespace FlutterZero.Fml.MessageLoopTaskQueues

open FlutterZero.Lib

variable {α : Type} {s s' : MessageLoopTaskQueues α} {q : TaskQueueId}

/-! ## Order numbers -/

/-- The order number of the registration that `i` others precede. -/
def orderOf (i : Nat) : Nat := ((BitVec.ofNat 32 i).signExtend 64).toNat

theorem orderOf_eq {i : Nat} (small : i < 2 ^ 32) :
    orderOf i = if i < 2 ^ 31 then i else i + (2 ^ 64 - 2 ^ 32) := by
  have toNat : (BitVec.ofNat 32 i).toNat = i := by
    rw [BitVec.toNat_ofNat, Nat.mod_eq_of_lt small]
  have msb : (BitVec.ofNat 32 i).msb = decide (2 ^ 31 ≤ i) := by
    rw [BitVec.msb_eq_decide, toNat]
  rw [orderOf, BitVec.toNat_signExtend, msb, BitVec.toNat_setWidth, toNat]
  by_cases low : i < 2 ^ 31
  · have notHigh : ¬ 2 ^ 31 ≤ i := by omega
    simp only [low, notHigh, decide_false, Bool.false_eq_true, if_false, if_true]
    omega
  · have high : 2 ^ 31 ≤ i := by omega
    simp only [low, high, decide_true, if_true, if_false]
    omega

theorem orderOf_lt_orderOf {i j : Nat} (lt : i < j) (small : j < 2 ^ 32) : orderOf i < orderOf j := by
  rw [orderOf_eq (lt.trans small), orderOf_eq small]
  split <;> split <;> omega

/-! ## The account of a run -/

/-- The tasks registered in `log`, in that order, with the queues they were registered on. -/
def registrations (log : List (Op α × Answer α)) : List (TopTask α) :=
  ((log.filterMap fun entry =>
    match entry.1 with
    | .registerTask q task targetTime grade => some (q, task, targetTime, grade)
    | _ => none).zipIdx).map fun ((q, task, targetTime, grade), i) =>
      ⟨q, orderOf i, task, targetTime, grade⟩

/-- The closures that the calls of `log` returned, in that order. -/
def invocations (log : List (Op α × Answer α)) : List α :=
  log.filterMap fun entry =>
    match entry.2 with
    | .invocation task => task
    | _ => none

/-- The tasks of a list that belong to the queue `q`. -/
def onQueue (q : TaskQueueId) (tasks : List (TopTask α)) : List (DelayedTask α) :=
  (tasks.filter (·.taskQueueId == q)).map (·.task)

/-- Every task the source of `q` holds. -/
def tasksOf (s : MessageLoopTaskQueues α) (q : TaskQueueId) : List (DelayedTask α) :=
  match s.find q with
  | some e => e.taskSource.tasks
  | none => []

def Op.KeepsTasks : Op α → Prop
  | .dispose _ => False
  | .disposeTasks _ => False
  | _ => True

variable {log : List (Op α × Answer α)} {grade : TaskSourceGrade} {out : Answer α}

theorem registrations_append_of_registers {task : α} {targetTime : TimePoint} :
    registrations (log ++ [(.registerTask q task targetTime grade, out)]) =
      registrations log ++ [⟨q, orderOf (registrations log).length, task, targetTime, grade⟩] := by
  simp [registrations, List.zipIdx_append]

variable {op : Op α}

theorem registrations_append_of_not (other : ∀ q task targetTime grade, op ≠ .registerTask q task targetTime grade) :
    registrations (log ++ [(op, out)]) = registrations log := by
  cases op with
  | registerTask q task targetTime grade => exact absurd rfl (other q task targetTime grade)
  | _ => simp [registrations]

variable {p : TopTask α}

theorem registrations_order {i : Nat} (at_i : (registrations log)[i]? = some p) : p.task.order = orderOf i := by
  simp only [registrations, List.getElem?_map, List.getElem?_zipIdx, Option.map_eq_some_iff] at at_i
  obtain ⟨⟨⟨q, task, targetTime, grade⟩, j⟩, ⟨_, _, eq⟩, rfl⟩ := at_i
  simp only [Nat.zero_add, Prod.mk.injEq] at eq
  rw [eq.2]

theorem registrations_pairwise (few : (registrations log).length < 2 ^ 32) :
    (registrations log).Pairwise fun a b => a.task.order < b.task.order := by
  rw [List.pairwise_iff_getElem]
  intro i j hi hj lt
  rw [registrations_order (List.getElem?_eq_getElem hi), registrations_order (List.getElem?_eq_getElem hj)]
  exact orderOf_lt_orderOf lt (hj.trans few)

theorem registrations_injective
    (few : (registrations log).length < 2 ^ 32) {a b : TopTask α} (ha : a ∈ registrations log)
    (hb : b ∈ registrations log) (same : a.task.order = b.task.order) : a = b := by
  obtain ⟨i, hi, rfl⟩ := List.getElem_of_mem ha
  obtain ⟨j, hj, rfl⟩ := List.getElem_of_mem hb
  have ordered := List.pairwise_iff_getElem.mp (registrations_pairwise few)
  rcases Nat.lt_trichotomy i j with lt | eq | gt
  · exact absurd same (Nat.ne_of_lt (ordered i j hi hj lt))
  · simp [eq]
  · exact absurd same (Nat.ne_of_gt (ordered j i hj hi gt))

variable {t : DelayedTask α}

theorem mem_onQueue {tasks : List (TopTask α)} : t ∈ onQueue q tasks ↔ ⟨q, t⟩ ∈ tasks := by
  simp only [onQueue, List.mem_map, List.mem_filter, beq_iff_eq]
  constructor
  · rintro ⟨p, ⟨member, rfl⟩, rfl⟩
    exact member
  · intro member
    exact ⟨⟨q, t⟩, ⟨member, rfl⟩, rfl⟩

theorem onQueue_append (q : TaskQueueId) (a b : List (TopTask α)) :
    onQueue q (a ++ b) = onQueue q a ++ onQueue q b := by
  simp [onQueue]

theorem onQueue_singleton_self (q : TaskQueueId) (t : DelayedTask α) : onQueue q [⟨q, t⟩] = [t] := by
  simp [onQueue]

theorem onQueue_singleton_of_ne (ne : p.taskQueueId ≠ q) : onQueue q [p] = [] := by
  simp [onQueue, ne]

theorem nodup_of_onQueue {tasks : List (TopTask α)} (nodup : ∀ q, (onQueue q tasks).Nodup) :
    tasks.Nodup := by
  induction tasks with
  | nil => exact List.nodup_nil
  | cons p tasks ih =>
    have tail : ∀ q, (onQueue q tasks).Nodup := by
      intro q
      have whole := nodup q
      rw [← List.singleton_append, onQueue_append] at whole
      exact (List.nodup_append.mp whole).2.1
    refine List.nodup_cons.mpr ⟨fun again => ?_, ih tail⟩
    obtain ⟨q, t⟩ := p
    have whole := nodup q
    rw [← List.singleton_append, onQueue_append, onQueue_singleton_self, List.singleton_append] at whole
    exact (List.nodup_cons.mp whole).1 (mem_onQueue.mpr again)

/-! ## What a step does to the tasks held -/

variable {e : TaskQueueEntry α}

theorem tasksOf_of_find (found : s.find q = some e) : s.tasksOf q = e.taskSource.tasks := by
  simp [tasksOf, found]

theorem SameCore.tasksOf (same : SameCore s s') (q : TaskQueueId) : s'.tasksOf q = s.tasksOf q := by
  have entries := same.entries q
  unfold MessageLoopTaskQueues.tasksOf
  cases old : s.find q <;> cases new : s'.find q <;> simp_all

theorem tasksOf_setEntry (s : MessageLoopTaskQueues α) (q q' : TaskQueueId) (e : TaskQueueEntry α) :
    (s.setEntry q e).tasksOf q' = if q = q' then e.taskSource.tasks else s.tasksOf q' := by
  by_cases eq : q = q' <;> simp [tasksOf, eq]

variable {e' : TaskQueueEntry α}

theorem tasksOf_setEntry_of_same (found : s.find q = some e)
    (same : e'.taskSource.tasks = e.taskSource.tasks) (q' : TaskQueueId) :
    (s.setEntry q e').tasksOf q' = s.tasksOf q' := by
  rw [tasksOf_setEntry]
  by_cases eq : q = q'
  · subst eq
    rw [if_pos rfl, same, tasksOf_of_find found]
  · rw [if_neg eq]

theorem tasksOf_createTaskQueue (wf : WellFormed s) (q : TaskQueueId) :
    s.createTaskQueue.2.tasksOf q = s.tasksOf q := by
  by_cases eq : s.taskQueueIdCounter = q
  · have absent : s.find q = none := by
      cases found : s.find q with
      | none => rfl
      | some e => exact absurd eq (Nat.ne_of_gt (wf.fresh found))
    simp [tasksOf, find_createTaskQueue, eq, absent, TaskQueueEntry.create]
  · simp [tasksOf, find_createTaskQueue, eq]

theorem Mergeable.tasksOf {owner subsumed : TaskQueueId}
    (mergeable : Mergeable s owner subsumed e e') (q : TaskQueueId) :
    (mergedState s owner subsumed e e').tasksOf q = s.tasksOf q := by
  simp only [MessageLoopTaskQueues.tasksOf, find_mergedState]
  by_cases isSubsumed : q = subsumed
  · simp [isSubsumed, mergeable.subsumedFound]
  · by_cases isOwner : q = owner
    · simp [isOwner, mergeable.distinct, mergeable.ownerFound]
    · simp [isSubsumed, isOwner]

theorem Unmergeable.tasksOf {owner subsumed : TaskQueueId}
    (unmergeable : Unmergeable s owner subsumed e e') (q : TaskQueueId) :
    (unmergedState s owner subsumed e e').tasksOf q = s.tasksOf q := by
  simp only [MessageLoopTaskQueues.tasksOf, find_unmergedState]
  by_cases isOwner : q = owner
  · simp [isOwner, unmergeable.ownerFound]
  · by_cases isSubsumed : q = subsumed
    · rw [if_neg isOwner, if_pos isSubsumed, isSubsumed, unmergeable.subsumedFound]
    · simp [isSubsumed, isOwner]

/-- `s'` is `s` with exactly the task `p` taken out of the heap it was in; what every other heap
    holds and offers is unchanged. -/
structure RemovesExactly (s s' : MessageLoopTaskQueues α) (p : TopTask α) : Prop where
  sameShape : SameShape s s'
  held : (s.tasksOf p.taskQueueId).Perm (p.task :: s'.tasksOf p.taskQueueId)
  offered : (s.offers p.taskQueueId).Perm (p :: s'.offers p.taskQueueId)
  others : ∀ q, q ≠ p.taskQueueId → s'.tasksOf q = s.tasksOf q ∧ s'.offers q = s.offers q

inductive TaskEffect (s : MessageLoopTaskQueues α) : Op α → Answer α → MessageLoopTaskQueues α → Prop where
  | kept {op : Op α} {out : Answer α} {s' : MessageLoopTaskQueues α} :
      (∀ q task targetTime grade, op ≠ .registerTask q task targetTime grade) →
      (∀ task, out ≠ .invocation (some task)) → s'.order = s.order →
      (∀ q, s'.tasksOf q = s.tasksOf q) → TaskEffect s op out s'
  | registered {q : TaskQueueId} {task : α} {targetTime : TimePoint} {grade : TaskSourceGrade}
      {s' : MessageLoopTaskQueues α} : s'.order = s.order + 1 →
      (s'.tasksOf q).Perm (⟨s.nextOrder, task, targetTime, grade⟩ :: s.tasksOf q) →
      (∀ q', q' ≠ q → s'.tasksOf q' = s.tasksOf q') →
      TaskEffect s (.registerTask q task targetTime grade) .none s'
  | handedOut {q : TaskQueueId} {fromTime : TimePoint} {p : TopTask α}
      {s' : MessageLoopTaskQueues α} : IsNext s (s.pending q) p → s'.order = s.order →
      RemovesExactly s s' p →
      TaskEffect s (.getNextTaskToRun q fromTime) (.invocation (some p.task.task)) s'

theorem removesExactly_of_due {s₁ : MessageLoopTaskQueues α} {time : TimePoint} {source : TaskSource α}
    (wakes : Wakes s s₁ q time) (found : s₁.find p.taskQueueId = some e)
    (removes : e.taskSource.Removes source p.task) :
    RemovesExactly s { s₁.setEntry p.taskQueueId { e with taskSource := source } with
      taskSourceGrade := grade } p := by
  have core := wakes.sameCore
  have popped := sameShape_setSource found removes.taskQueueId
  have newFind : ∀ q', ({ s₁.setEntry p.taskQueueId { e with taskSource := source } with
      taskSourceGrade := grade } : MessageLoopTaskQueues α).find q' =
      if p.taskQueueId = q' then some { e with taskSource := source } else s₁.find q' :=
    fun q' => find_setEntry s₁ _ q' _
  refine ⟨core.sameShape.trans ⟨popped.counter, popped.entries⟩, ?_, ?_, ?_⟩
  · rw [← core.tasksOf, tasksOf_of_find found, tasksOf_of_find ((newFind _).trans (if_pos rfl))]
    exact removes.tasks
  · rw [← core.offers]
    simp only [offers, found, newFind, if_true]
    exact (removes.pending.map (TopTask.mk p.taskQueueId))
  · intro q' ne
    rw [← core.tasksOf, ← core.offers]
    simp only [tasksOf, offers, newFind, if_neg (Ne.symm ne), and_self]

theorem step_taskEffect (wf : WellFormed s) (keeps : op.KeepsTasks)
    (h : s.step op = .ok (out, s')) : TaskEffect s op out s' := by
  cases op with
  | createTaskQueue =>
    simp only [step, pure_eq_ok, Except.ok.injEq, Prod.mk.injEq] at h
    obtain ⟨rfl, rfl⟩ := h
    exact .kept (by simp) (by simp) rfl (tasksOf_createTaskQueue wf)
  | createMessageLoop =>
    obtain ⟨⟨id, s₁⟩, created, h⟩ := bind_eq_ok.mp h
    cases h
    obtain ⟨rfl, rfl⟩ := createMessageLoop_inv created
    have found := (find_createTaskQueue s s.taskQueueIdCounter).trans (if_pos rfl)
    exact .kept (by simp) (by simp) rfl fun q =>
      (tasksOf_setEntry_of_same found (by rfl) q).trans (tasksOf_createTaskQueue wf q)
  | setWakeable q =>
    obtain ⟨s₁, set, h⟩ := bind_eq_ok.mp h
    cases h
    obtain ⟨e, found, -, rfl⟩ := setWakeable_inv set
    exact .kept (by simp) (by simp) rfl (tasksOf_setEntry_of_same found rfl)
  | registerTask q task targetTime grade =>
    obtain ⟨s₁, registered, h⟩ := bind_eq_ok.mp h
    cases h
    obtain ⟨e, found, woken⟩ := registerTask_inv wf registered
    -- the wake-up that follows the registration moves no task
    have core := woken.sameCore
    refine .registered core.order ?_ fun q' ne => ?_
    · rw [core.tasksOf, tasksOf_of_find found,
        tasksOf_of_find ((find_registeredState _ _ _ _ _).trans (if_pos rfl))]
      exact (e.taskSource.registerTask_spec _).1
    · rw [core.tasksOf]
      simp only [tasksOf, find_registeredState, if_neg (Ne.symm ne)]
  | getNextTaskToRun q fromTime =>
    obtain ⟨⟨task, s₁⟩, returned, h⟩ := bind_eq_ok.mp h
    cases h
    cases (getNextTaskToRun_inv wf returned).2 with
    | idle => exact .kept (by simp) (by simp) rfl fun _ => rfl
    | early _ _ wakes => exact .kept (by simp) (by simp) wakes.order wakes.sameCore.tasksOf
    | due next _ wakes found removes =>
      exact .handedOut next wakes.order (removesExactly_of_due wakes found removes)
  | merge owner subsumed =>
    obtain ⟨⟨success, s₁⟩, returned, h⟩ := bind_eq_ok.mp h
    cases h
    cases merge_inv wf returned with
    | same => exact .kept (by simp) (by simp) rfl fun _ => rfl
    | already => exact .kept (by simp) (by simp) rfl fun _ => rfl
    | refused => exact .kept (by simp) (by simp) rfl fun _ => rfl
    | merged mergeable woken =>
      have core := woken.sameCore
      exact .kept (by simp) (by simp) core.order fun q => (core.tasksOf q).trans (mergeable.tasksOf q)
  | unmerge owner subsumed =>
    obtain ⟨⟨success, s₁⟩, returned, h⟩ := bind_eq_ok.mp h
    cases h
    cases unmerge_inv wf returned with
    | refused => exact .kept (by simp) (by simp) rfl fun _ => rfl
    | unmerged unmergeable woken woken' =>
      have core := woken.sameCore.trans woken'.sameCore
      exact .kept (by simp) (by simp) core.order fun q => (core.tasksOf q).trans (unmergeable.tasksOf q)
  | pauseSecondarySource q =>
    obtain ⟨s₁, paused, h⟩ := bind_eq_ok.mp h
    cases h
    obtain ⟨e, source, found, pausedSource, rfl⟩ := pauseSecondarySource_inv paused
    -- a paused source still holds its tasks
    have same : source.tasks = e.taskSource.tasks := by
      simp only [TaskSource.tasks, pauseSecondary_inv pausedSource]
    exact .kept (by simp) (by simp) rfl (tasksOf_setEntry_of_same found same)
  | resumeSecondarySource q =>
    obtain ⟨s₁, resumed, h⟩ := bind_eq_ok.mp h
    cases h
    obtain ⟨e, source, found, resumedSource, woken⟩ := resumeSecondarySource_inv wf resumed
    have same : source.tasks = e.taskSource.tasks := by
      simp only [TaskSource.tasks, resumeSecondary_inv resumedSource]
    have core := woken.sameCore
    exact .kept (by simp) (by simp) core.order fun q' =>
      (core.tasksOf q').trans (tasksOf_setEntry_of_same found same q')
  | addTaskObserver q key callback =>
    obtain ⟨s₁, added, h⟩ := bind_eq_ok.mp h
    cases h
    obtain ⟨e, found, rfl⟩ := addTaskObserver_inv added
    exact .kept (by simp) (by simp) rfl (tasksOf_setEntry_of_same found rfl)
  | removeTaskObserver q key =>
    obtain ⟨s₁, removed, h⟩ := bind_eq_ok.mp h
    cases h
    obtain ⟨e, found, rfl⟩ := removeTaskObserver_inv removed
    exact .kept (by simp) (by simp) rfl (tasksOf_setEntry_of_same found rfl)
  -- what drops tasks on purpose is not among the calls considered
  | dispose q => exact keeps.elim
  | disposeTasks q => exact keeps.elim

/-! ## The ledger -/

/-- `a` and `b` wait in the same heap and are due at the same time. -/
def SameSlot (a b : TopTask α) : Prop :=
  a.taskQueueId = b.taskQueueId ∧ a.task.isSecondary = b.task.isSecondary ∧
    a.task.targetTime = b.task.targetTime

/-- The run `log` to `s` has handed out `handed`, in that order: what was registered on a queue is
    what was handed out of it and what it still holds, and among tasks that wait in one heap for
    one time the earlier registered ones go first. -/
structure Ledger (log : List (Op α × Answer α)) (s : MessageLoopTaskQueues α)
    (handed : List (TopTask α)) : Prop where
  order : s.order = BitVec.ofNat 32 (registrations log).length
  invoked : handed.map (·.task.task) = invocations log
  account : ∀ q, (onQueue q (registrations log)).Perm (onQueue q handed ++ s.tasksOf q)
  sorted : handed.Pairwise fun a b => SameSlot a b → a.task.order < b.task.order
  ahead : ∀ a ∈ handed, ∀ q, ∀ t ∈ s.tasksOf q, SameSlot a ⟨q, t⟩ → a.task.order < t.order

variable {log : List (Op α × Answer α)} {handed : List (TopTask α)}

theorem ledger_initial : Ledger ([] : List (Op α × Answer α)) initial [] where
  order := rfl
  invoked := rfl
  account := by simp [registrations, onQueue, tasksOf]
  sorted := .nil
  ahead := by simp

theorem Ledger.mem_registrations_of_handed (ledger : Ledger log s handed) {a : TopTask α}
    (member : a ∈ handed) : a ∈ registrations log := by
  have handedOut : a.task ∈ onQueue a.taskQueueId handed := mem_onQueue.mpr member
  exact mem_onQueue.mp ((ledger.account a.taskQueueId).mem_iff.mpr (List.mem_append_left _ handedOut))

theorem Ledger.mem_registrations_of_held (ledger : Ledger log s handed)
    (held : t ∈ s.tasksOf q) : ⟨q, t⟩ ∈ registrations log :=
  mem_onQueue.mp ((ledger.account q).mem_iff.mpr (List.mem_append_right _ held))

theorem Ledger.orders_nodup (ledger : Ledger log s handed) (few : (registrations log).length < 2 ^ 32)
    (q : TaskQueueId) : ((onQueue q handed ++ s.tasksOf q).map (·.order)).Nodup := by
  rw [← ((ledger.account q).map _).nodup_iff]
  have increasing : (onQueue q (registrations log)).Pairwise fun a b => a.order < b.order :=
    List.pairwise_map.mpr ((registrations_pairwise few).filter _)
  exact (List.pairwise_map.mpr increasing).imp Nat.ne_of_lt

theorem registrations_order_lt (few : (registrations log).length < 2 ^ 32)
    (member : p ∈ registrations log) : p.task.order < orderOf (registrations log).length := by
  obtain ⟨i, hi, rfl⟩ := List.getElem_of_mem member
  rw [registrations_order (List.getElem?_eq_getElem hi)]
  exact orderOf_lt_orderOf hi few

theorem Ledger.nextOrder (ledger : Ledger log s handed) :
    s.nextOrder = orderOf (registrations log).length := by
  rw [MessageLoopTaskQueues.nextOrder, ledger.order, orderOf]

theorem Ledger.kept (ledger : Ledger log s handed)
    (other : ∀ q task targetTime grade, op ≠ .registerTask q task targetTime grade)
    (nothing : ∀ task, out ≠ .invocation (some task)) (order : s'.order = s.order)
    (tasks : ∀ q, s'.tasksOf q = s.tasksOf q) : Ledger (log ++ [(op, out)]) s' handed := by
  have same : registrations (log ++ [(op, out)]) = registrations log :=
    registrations_append_of_not other
  refine ⟨?_, ?_, ?_, ledger.sorted, ?_⟩
  · rw [same, order, ledger.order]
  · rw [ledger.invoked]
    cases out with
    | invocation task =>
      cases task with
      | none => simp [invocations]
      | some task => exact absurd rfl (nothing task)
    | _ => simp [invocations]
  · intro q
    rw [same, tasks]
    exact ledger.account q
  · intro a member q t held
    rw [tasks] at held
    exact ledger.ahead a member q t held

theorem Ledger.registered {task : α} {targetTime : TimePoint}
    (ledger : Ledger log s handed) (few : (registrations log).length < 2 ^ 32) (order : s'.order = s.order + 1)
    (added : (s'.tasksOf q).Perm (⟨s.nextOrder, task, targetTime, grade⟩ :: s.tasksOf q))
    (others : ∀ q', q' ≠ q → s'.tasksOf q' = s.tasksOf q') :
    Ledger (log ++ [(.registerTask q task targetTime grade, .none)]) s' handed := by
  have next := ledger.nextOrder
  refine ⟨?_, ?_, ?_, ledger.sorted, ?_⟩
  · rw [registrations_append_of_registers, order, ledger.order, List.length_append,
      List.length_singleton, BitVec.ofNat_add]
    rfl
  · simpa [invocations] using ledger.invoked
  · intro q'
    rw [registrations_append_of_registers, onQueue_append, ← next]
    by_cases eq : q' = q
    · subst eq
      rw [onQueue_singleton_self]
      -- the new task moves over what the queue held before
      refine ((ledger.account q').append_right _).trans ?_
      rw [List.append_assoc]
      exact ((List.perm_append_singleton _ _).trans added.symm).append_left _
    · rw [onQueue_singleton_of_ne (Ne.symm eq), List.append_nil, others q' eq]
      exact ledger.account q'
  · intro a member q' t held same
    by_cases eq : q' = q
    · subst eq
      rcases List.mem_cons.mp (added.mem_iff.mp held) with rfl | old
      · rw [next]
        exact registrations_order_lt few (ledger.mem_registrations_of_handed member)
      · exact ledger.ahead a member q' t old same
    · rw [others q' eq] at held
      exact ledger.ahead a member q' t held same

theorem mem_pending_of_sameHeap (member : p ∈ s.pending q)
    (held : t ∈ s.tasksOf p.taskQueueId) (same : p.task.isSecondary = t.isSecondary) :
    ⟨p.taskQueueId, t⟩ ∈ s.pending q := by
  obtain ⟨e, found, unsubsumed, among, e', found', offered⟩ := mem_pending.mp member
  refine mem_pending.mpr ⟨e, found, unsubsumed, among, e', found', ?_⟩
  rw [tasksOf_of_find found', TaskSource.tasks, List.mem_append] at held
  rw [TaskSource.mem_pendingTasks] at offered ⊢
  rcases held with primary | secondary
  · exact .inl primary
  · rcases offered with primary | ⟨resumed, -⟩
    · have one := e'.taskSource.primaryGrade _ primary
      have other := e'.taskSource.secondaryGrade _ secondary
      rw [one, other] at same
      cases same
    · exact .inr ⟨resumed, secondary⟩

theorem Ledger.handedOut {fromTime : TimePoint} (ledger : Ledger log s handed)
    (few : (registrations log).length < 2 ^ 32) (next : IsNext s (s.pending q) p)
    (order : s'.order = s.order) (removes : RemovesExactly s s' p) :
    Ledger (log ++ [(.getNextTaskToRun q fromTime, .invocation (some p.task.task))]) s'
      (handed ++ [p]) := by
  have same : registrations (log ++ [(.getNextTaskToRun q fromTime, .invocation (some p.task.task))]) =
      registrations log := registrations_append_of_not nofun
  have held : p.task ∈ s.tasksOf p.taskQueueId := removes.held.mem_iff.mpr List.mem_cons_self
  have stays : ∀ {q' t}, t ∈ s'.tasksOf q' → t ∈ s.tasksOf q' := by
    intro q' t member
    by_cases eq : q' = p.taskQueueId
    · subst eq
      exact removes.held.mem_iff.mpr (List.mem_cons_of_mem _ member)
    · rw [(removes.others q' eq).1] at member
      exact member
  refine ⟨?_, ?_, ?_, ?_, ?_⟩
  · rw [same, order, ledger.order]
  · rw [List.map_append, ledger.invoked]
    simp [invocations]
  · intro q'
    rw [same, onQueue_append]
    by_cases eq : q' = p.taskQueueId
    · subst eq
      have single : onQueue p.taskQueueId [p] = [p.task] := onQueue_singleton_self _ _
      rw [single, List.append_assoc, List.singleton_append]
      exact (ledger.account _).trans (removes.held.append_left _)
    · rw [onQueue_singleton_of_ne (Ne.symm eq), List.append_nil, (removes.others q' eq).1]
      exact ledger.account q'
  · rw [List.pairwise_append]
    refine ⟨ledger.sorted, List.pairwise_singleton _ _, ?_⟩
    intro a member b isP slot
    rw [List.mem_singleton] at isP
    subst isP
    exact ledger.ahead a member _ _ held slot
  · intro a member q' t still slot
    rcases List.mem_append.mp member with old | isP
    · exact ledger.ahead a old q' t (stays still) slot
    · rw [List.mem_singleton] at isP
      subst isP
      obtain ⟨rfl, heap, time⟩ := slot
      -- `t` was pending beside `a`, so it is not before it; and its number is another
      have notAfter := next.least _ (mem_pending_of_sameHeap next.mem (stays still) heap)
      have le : a.task.order ≤ t.order := by
        rcases DelayedTask.notAfter_iff.mp notAfter with earlier | ⟨-, le⟩
        · exact absurd time (ne_of_lt earlier)
        · exact le
      have nodup := ledger.orders_nodup few a.taskQueueId
      rw [((removes.held.append_left _).map _).nodup_iff, List.map_append, List.map_cons] at nodup
      have distinct := (List.nodup_cons.mp (List.nodup_append.mp nodup).2.1).1
      refine lt_of_le_of_ne le fun eq => distinct ?_
      exact eq ▸ List.mem_map_of_mem still

theorem length_registrations_append (log : List (Op α × Answer α)) (entry : Op α × Answer α) :
    (registrations log).length ≤ (registrations (log ++ [entry])).length := by
  simp [registrations]

theorem runs_ledger (runs : Runs step (fun _ op => op.KeepsTasks) initial log s)
    (few : (registrations log).length < 2 ^ 32) : ∃ handed, Ledger log s handed := by
  induction runs with
  | start => exact ⟨[], ledger_initial⟩
  | @next log s s' op out before met stepped ih =>
    have few' := (length_registrations_append log (op, out)).trans_lt few
    obtain ⟨handed, ledger⟩ := ih few'
    cases step_taskEffect (runs_wellFormed before) met stepped with
    | kept other nothing order tasks => exact ⟨handed, ledger.kept other nothing order tasks⟩
    | registered order added others => exact ⟨handed, ledger.registered few' order added others⟩
    | @handedOut q fromTime p _ next order removes =>
      exact ⟨handed ++ [p], ledger.handedOut few' next order removes⟩

/-! ## What is handed out -/

/-- `a` is due before `b`, or at the same time and registered earlier. -/
def Before (a b : TopTask α) : Prop :=
  a.task.targetTime < b.task.targetTime ∨
    a.task.targetTime = b.task.targetTime ∧ a.task.order < b.task.order

theorem mem_tasksOf_of_mem_pending (member : p ∈ s.pending q) : p.task ∈ s.tasksOf p.taskQueueId := by
  obtain ⟨-, -, -, -, e', found', offered⟩ := mem_pending.mp member
  rw [tasksOf_of_find found']
  exact e'.taskSource.pendingTasks_sublist.mem offered

theorem Ledger.before_of_isNext (ledger : Ledger log s handed)
    (few : (registrations log).length < 2 ^ 32) {other : TopTask α}
    (next : IsNext s (s.pending q) p) (member : other ∈ s.pending q) (ne : other ≠ p) : Before p other := by
  have registered := ledger.mem_registrations_of_held (mem_tasksOf_of_mem_pending next.mem)
  have registered' := ledger.mem_registrations_of_held (mem_tasksOf_of_mem_pending member)
  rcases DelayedTask.notAfter_iff.mp (next.least other member) with earlier | ⟨time, le⟩
  · exact .inl earlier
  · refine .inr ⟨time, lt_of_le_of_ne le fun eq => ne ?_⟩
    exact (registrations_injective few registered registered' eq).symm

/-- What a call of `getNextTaskToRun` on an existing queue that is not subsumed returns and
    removes. -/
structure HandsOutNext (s : MessageLoopTaskQueues α) (q : TaskQueueId) (fromTime : TimePoint)
    (task : Option α) (s' : MessageLoopTaskQueues α) : Prop where
  some_iff : task.isSome = true ↔ ∃ p ∈ s.pending q, p.task.targetTime ≤ fromTime
  none_keeps : task = none → SameCore s s'
  some_removes : ∀ c, task = some c → ∃ p ∈ s.pending q, p.task.task = c ∧
    p.task.targetTime ≤ fromTime ∧ (∀ other ∈ s.pending q, other ≠ p → Before p other) ∧
    RemovesExactly s s' p

theorem Ledger.handsOutNext (ledger : Ledger log s handed)
    (few : (registrations log).length < 2 ^ 32) {fromTime : TimePoint} {task : Option α}
    (effect : NextTaskEffect s q fromTime task s') : HandsOutNext s q fromTime task s' := by
  cases effect with
  | idle none =>
    exact ⟨by simp [none], fun _ => SameCore.refl s, nofun⟩
  | @early _ top next early wakes =>
    refine ⟨⟨nofun, ?_⟩, fun _ => wakes.sameCore, nofun⟩
    rintro ⟨p, member, due⟩
    rcases DelayedTask.notAfter_iff.mp (next.least p member) with earlier | ⟨time, -⟩
    · exact absurd (early.trans earlier) (not_lt.mpr due)
    · exact absurd (time ▸ early) (not_lt.mpr due)
  | @due _ top e source next due wakes found removes =>
    refine ⟨⟨fun _ => ⟨top, next.mem, due⟩, fun _ => rfl⟩, nofun, ?_⟩
    rintro c ⟨⟩
    exact ⟨top, next.mem, rfl, due, fun other member ne => ledger.before_of_isNext few next member ne,
      removesExactly_of_due wakes found removes⟩

/-- After any run with fewer than 2^32 registrations: a subsumed queue is handed nothing; any
    other queue is handed the least due task among those pending in its own heaps and in those of
    the queues it owns, if there is one, and exactly that task is removed.  Over the run itself,
    every registered task was handed out once or is still held by its queue, and tasks that wait in
    one heap for one time were handed out in the order of their registration. -/
theorem tasks_handed_out_once_in_order (runs : Runs step (fun _ op => op.KeepsTasks) initial log s)
    (few : (registrations log).length < 2 ^ 32) :
    (∀ q e owner, s.find q = some e → e.subsumedBy = some owner →
      ∀ fromTime, s.getNextTaskToRun q fromTime = .ok (none, s)) ∧
    (∀ q e, s.find q = some e → e.subsumedBy = none →
      ∀ fromTime, ∃ task s', s.getNextTaskToRun q fromTime = .ok (task, s') ∧
        HandsOutNext s q fromTime task s') ∧
    (registrations log).Pairwise (fun a b => a.task.order < b.task.order) ∧
    ∃ handed : List (TopTask α), handed.map (·.task.task) = invocations log ∧ handed.Nodup ∧
      (∀ q, (onQueue q (registrations log)).Perm (onQueue q handed ++ s.tasksOf q)) ∧
      handed.Pairwise (fun a b => SameSlot a b → a.task.order < b.task.order) := by
  have wf := runs_wellFormed runs
  obtain ⟨handed, ledger⟩ := runs_ledger runs few
  refine ⟨?_, ?_, registrations_pairwise few, handed, ledger.invoked, ?_, ledger.account, ledger.sorted⟩
  · intro q e owner found subsumed fromTime
    obtain ⟨task, s', returned, effect⟩ := getNextTaskToRun_spec wf found fromTime
    have none := pending_of_subsumed found subsumed
    cases effect with
    | idle => exact returned
    | early next => exact absurd (none ▸ next.mem) List.not_mem_nil
    | due next => exact absurd (none ▸ next.mem) List.not_mem_nil
  · intro q e found _ fromTime
    obtain ⟨task, s', returned, effect⟩ := getNextTaskToRun_spec wf found fromTime
    exact ⟨task, s', returned, ledger.handsOutNext few effect⟩
  · apply nodup_of_onQueue
    intro q
    have nodup := ledger.orders_nodup few q
    rw [List.map_append] at nodup
    exact List.Nodup.of_map _ (List.nodup_append.mp nodup).1

def mergedHandOut : List (Op Nat) :=
  [.createTaskQueue, .createTaskQueue, .registerTask 1 10 5 .dartEventLoop,
    .registerTask 0 20 5 .unspecified, .merge 0 1, .getNextTaskToRun 0 6]

theorem tasks_handed_out_once_in_order_mergedHandOut :
    ∃ log s, run step initial mergedHandOut = .ok (log, s) ∧ invocations log = [10] ∧
      s.getNextTaskToRun 1 6 = .ok (none, s) ∧
      ∃ s', s.getNextTaskToRun 0 6 = .ok (some 20, s') ∧ HandsOutNext s 0 6 (some 20) s' := by
  have returned : (run step initial mergedHandOut).isOk = true := by decide
  obtain ⟨⟨log, s⟩, ran⟩ := exists_ok_of_isOk returned
  have outputs : (run step initial mergedHandOut).map (fun r =>
      ((registrations r.1).length, invocations r.1)) = .ok (2, [10]) := by decide
  have owners : (run step initial mergedHandOut).map (fun r =>
      ((r.2.find 0).map (·.subsumedBy), (r.2.find 1).map (·.subsumedBy))) =
      .ok (some none, some (some 0)) := by decide
  have answer : (run step initial mergedHandOut).map (fun r =>
      (r.2.getNextTaskToRun 0 6).map (·.1)) = .ok (.ok (some 20)) := by decide
  rw [ran] at outputs owners answer
  simp only [Except.map, Except.ok.injEq, Prod.mk.injEq, Option.map_eq_some_iff] at outputs owners answer
  obtain ⟨count, invoked⟩ := outputs
  obtain ⟨⟨e, found, unsubsumed⟩, ⟨e', found', subsumed⟩⟩ := owners
  have keeps : ∀ op ∈ mergedHandOut, op.KeepsTasks := by
    simp [mergedHandOut, Op.KeepsTasks]
  have runs : Runs step (fun _ op => op.KeepsTasks) initial log s :=
    runs_of_run (fun _ => keeps) ran
  have few : (registrations log).length < 2 ^ 32 := by omega
  obtain ⟨asleep, handsOut, -⟩ := tasks_handed_out_once_in_order runs few
  obtain ⟨task, s', returned, next⟩ := handsOut 0 e found unsubsumed 6
  rw [returned] at answer
  cases answer
  exact ⟨log, s, ran, invoked, asleep 1 e' 0 found' subsumed 6, s', returned, next⟩

end FlutterZero.Fml.MessageLoopTaskQueues
