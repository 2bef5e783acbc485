import FlutterZero.Fml.TaskQueues.Peek

/-! # What each call on the task queues does

One statement per method: the entries after it in terms of the entries before
it, and that it returns at all.  All later results about runs start from these
and do not look at the methods again.  Every effect keeps `WellFormed`, which
`step_wellFormed` collects.
-/

namespace FlutterZero.Fml.MessageLoopTaskQueues

open FlutterZero.Lib

variable {α : Type} {s s' : MessageLoopTaskQueues α} {q owner subsumed : TaskQueueId}

/-! ## Creating queues -/

theorem find_createTaskQueue (s : MessageLoopTaskQueues α) (q : TaskQueueId) :
    s.createTaskQueue.2.find q =
      if s.taskQueueIdCounter = q then some (.create q) else s.find q := by
  by_cases eq : s.taskQueueIdCounter = q
  · subst eq
    simp [createTaskQueue, find]
  · simp [createTaskQueue, find, Std.TreeMap.getElem?_insert, eq]

theorem createTaskQueue_wellFormed (wf : WellFormed s) : WellFormed s.createTaskQueue.2 := by
  have unused : ∀ {q e}, s.find q = some e → s.taskQueueIdCounter ≠ q := by
    intro q e found
    exact Nat.ne_of_gt (wf.fresh found)
  constructor
  · intro owner subsumed e found owned
    rw [find_createTaskQueue] at found
    split at found
    · cases found
      simp [TaskQueueEntry.create] at owned
    · obtain ⟨e', found', by_owner⟩ := wf.subsumed_of_owned found owned
      exact ⟨e', by simp [find_createTaskQueue, unused found', found'], by_owner⟩
  · intro owner subsumed e found by_owner
    rw [find_createTaskQueue] at found
    split at found
    · cases found
      simp [TaskQueueEntry.create] at by_owner
    · obtain ⟨e', found', owned⟩ := wf.owned_of_subsumed found by_owner
      exact ⟨e', by simp [find_createTaskQueue, unused found', found'], owned⟩
  · intro q q' e found owned
    rw [find_createTaskQueue] at found
    split at found
    · cases found
      rfl
    · exact wf.owner_unsubsumed found owned
  · intro q e found
    rw [find_createTaskQueue] at found
    split at found
    · cases found
      rfl
    · exact wf.source_id found
  · intro q e found
    rw [find_createTaskQueue] at found
    change q < s.taskQueueIdCounter + 1
    split at found
    · rename_i eq
      exact eq ▸ Nat.lt_succ_self _
    · exact Nat.lt_succ_of_lt (wf.fresh found)

theorem setWakeable_inv (h : s.setWakeable q = .ok s') :
    ∃ e, s.find q = some e ∧ e.wakeable = none ∧
      s' = s.setEntry q { e with wakeable := some ⟨[]⟩ } := by
  unfold setWakeable at h
  obtain ⟨e, found, h⟩ := bind_eq_ok.mp h
  obtain ⟨_, unset, h⟩ := bind_eq_ok.mp h
  simp only [pure_eq_ok, Except.ok.injEq] at h
  exact ⟨e, entryAt_eq_ok.mp found, by simpa using fmlCheck_eq_ok.mp unset, h.symm⟩

theorem createMessageLoop_inv {id : TaskQueueId} (h : s.createMessageLoop = .ok (id, s')) :
    id = s.taskQueueIdCounter ∧
      s' = s.createTaskQueue.2.setEntry id { TaskQueueEntry.create id with wakeable := some ⟨[]⟩ } := by
  unfold createMessageLoop at h
  obtain ⟨s₁, set, h⟩ := bind_eq_ok.mp h
  simp only [pure_eq_ok, Except.ok.injEq, Prod.mk.injEq] at h
  obtain ⟨rfl, rfl⟩ := h
  obtain ⟨e, found, -, rfl⟩ := setWakeable_inv set
  have found : s.createTaskQueue.2.find s.taskQueueIdCounter = some e := found
  rw [find_createTaskQueue, if_pos rfl] at found
  cases found
  exact ⟨rfl, rfl⟩

/-! ## Sources -/

variable {e : TaskQueueEntry α} {source : TaskSource α}

theorem sameShape_setSource (found : s.find q = some e) (id : source.taskQueueId = e.taskSource.taskQueueId) :
    SameShape s (s.setEntry q { e with taskSource := source }) :=
  sameShape_setEntry found (by simp [shape, id])

theorem pauseSecondary_inv {source' : TaskSource α} (h : source.pauseSecondary = .ok source') :
    source'.primaryTaskQueue = source.primaryTaskQueue ∧ source'.secondaryTaskQueue = source.secondaryTaskQueue ∧
    source'.secondaryPauseRequests = source.secondaryPauseRequests + 1 ∧
    source'.taskQueueId = source.taskQueueId := by
  unfold TaskSource.pauseSecondary at h
  split at h
  · cases h
    exact ⟨rfl, rfl, rfl, rfl⟩
  · cases h

theorem resumeSecondary_inv {source' : TaskSource α} (h : source.resumeSecondary = .ok source') :
    source'.primaryTaskQueue = source.primaryTaskQueue ∧ source'.secondaryTaskQueue = source.secondaryTaskQueue ∧
    source'.secondaryPauseRequests = source.secondaryPauseRequests - 1 ∧
    source'.taskQueueId = source.taskQueueId := by
  unfold TaskSource.resumeSecondary at h
  split at h
  · cases h
    exact ⟨rfl, rfl, rfl, rfl⟩
  · cases h

theorem pauseSecondarySource_inv (h : s.pauseSecondarySource q = .ok s') :
    ∃ e source, s.find q = some e ∧ e.taskSource.pauseSecondary = .ok source ∧
      s' = s.setEntry q { e with taskSource := source } := by
  unfold pauseSecondarySource at h
  obtain ⟨e, found, h⟩ := bind_eq_ok.mp h
  obtain ⟨source, paused, h⟩ := bind_eq_ok.mp h
  simp only [pure_eq_ok, Except.ok.injEq] at h
  exact ⟨e, source, entryAt_eq_ok.mp found, paused, h.symm⟩

theorem resumeSecondarySource_inv (wf : WellFormed s) (h : s.resumeSecondarySource q = .ok s') :
    ∃ e source, s.find q = some e ∧ e.taskSource.resumeSecondary = .ok source ∧
      WakesForNext (s.setEntry q { e with taskSource := source }) q s' := by
  unfold resumeSecondarySource at h
  obtain ⟨e, found, h⟩ := bind_eq_ok.mp h
  obtain ⟨source, resumed, h⟩ := bind_eq_ok.mp h
  have found := entryAt_eq_ok.mp found
  have wf₁ := wf.of_sameShape (sameShape_setSource found (resumeSecondary_inv resumed).2.2.2)
  obtain ⟨s'', returned, woken⟩ := wakeIfPendingUnlocked_spec wf₁ (find_setEntry_self s q _)
  rw [returned] at h
  cases h
  exact ⟨e, source, found, resumed, woken⟩

def nextOrder (s : MessageLoopTaskQueues α) : Nat := (s.order.signExtend 64).toNat

/-- The entries after `registerTask` has pushed `task`. -/
def registeredState (s : MessageLoopTaskQueues α) (q : TaskQueueId) (e : TaskQueueEntry α)
    (task : DelayedTask α) : MessageLoopTaskQueues α :=
  { s with order := s.order + 1 }.setEntry q
    { e with taskSource := e.taskSource.registerTask task }

theorem find_registeredState (s : MessageLoopTaskQueues α) (q : TaskQueueId) (e : TaskQueueEntry α)
    (task : DelayedTask α) (q' : TaskQueueId) :
    (registeredState s q e task).find q' =
      if q = q' then some { e with taskSource := e.taskSource.registerTask task } else s.find q' :=
  find_setEntry _ _ _ _

theorem registeredState_sameShape (found : s.find q = some e)
    (task : DelayedTask α) : SameShape s (registeredState s q e task) :=
  have same := sameShape_setSource found (e.taskSource.registerTask_spec task).2.1
  ⟨same.counter, same.entries⟩

theorem registerTask_inv (wf : WellFormed s) {task : α} {targetTime : TimePoint}
    {grade : TaskSourceGrade} (h : s.registerTask q task targetTime grade = .ok s') :
    ∃ e, s.find q = some e ∧
      WakesForNext (registeredState s q e ⟨s.nextOrder, task, targetTime, grade⟩)
        (e.subsumedBy.getD q) s' := by
  unfold registerTask at h
  obtain ⟨e, found, h⟩ := bind_eq_ok.mp h
  have found : s.find q = some e := entryAt_eq_ok.mp found
  have wf₁ := wf.of_sameShape
    (registeredState_sameShape found ⟨s.nextOrder, task, targetTime, grade⟩)
  have self := (find_registeredState s q e ⟨s.nextOrder, task, targetTime, grade⟩ q).trans
    (if_pos rfl)
  -- the loop to wake exists, since `subsumed_by` names an entry
  have exists_loop : ∃ e', (registeredState s q e ⟨s.nextOrder, task, targetTime, grade⟩).find
      (e.subsumedBy.getD q) = some e' := by
    rcases Option.eq_none_or_eq_some e.subsumedBy with unsubsumed | ⟨owner, by_owner⟩
    · have loop : e.subsumedBy.getD q = q := by rw [unsubsumed]; rfl
      rw [loop]
      exact ⟨_, self⟩
    · have loop : e.subsumedBy.getD q = owner := by rw [by_owner]; rfl
      rw [loop]
      obtain ⟨e', found', _⟩ := wf₁.owned_of_subsumed self by_owner
      exact ⟨e', found'⟩
  obtain ⟨e', found'⟩ := exists_loop
  obtain ⟨s'', returned, woken⟩ := wakeIfPendingUnlocked_spec wf₁ found'
  have same_result : s'' = s' := Except.ok.inj (returned.symm.trans h)
  exact ⟨e, found, same_result ▸ woken⟩

/-! ## Handing out a task -/

/-- What `getNextTaskToRun` does: nothing where nothing is pending; a wake-up for the next task,
    which is left where it is when it is not due yet, and else popped and handed out. -/
inductive NextTaskEffect (s : MessageLoopTaskQueues α) (q : TaskQueueId) (fromTime : TimePoint) :
    Option α → MessageLoopTaskQueues α → Prop where
  | idle : s.pending q = [] → NextTaskEffect s q fromTime none s
  | early {s₁ : MessageLoopTaskQueues α} {top : TopTask α} : IsNext s (s.pending q) top →
      fromTime < top.task.targetTime → Wakes s s₁ q top.task.targetTime →
      NextTaskEffect s q fromTime none s₁
  | due {s₁ : MessageLoopTaskQueues α} {top : TopTask α} {e : TaskQueueEntry α}
      {source : TaskSource α} : IsNext s (s.pending q) top →
      top.task.targetTime ≤ fromTime → Wakes s s₁ q top.task.targetTime →
      s₁.find top.taskQueueId = some e → e.taskSource.Removes source top.task →
      NextTaskEffect s q fromTime (some top.task.task)
        { s₁.setEntry top.taskQueueId { e with taskSource := source } with
          taskSourceGrade := top.task.taskSourceGrade }

theorem getNextTaskToRun_spec (wf : WellFormed s) (found : s.find q = some e) (fromTime : TimePoint) :
    ∃ task s', s.getNextTaskToRun q fromTime = .ok (task, s') ∧
      NextTaskEffect s q fromTime task s' := by
  unfold getNextTaskToRun
  simp only [hasPendingTasksUnlocked_spec wf found, ok_bind, pure_eq_ok, Bool.not_not]
  by_cases none : s.pending q = []
  · exact ⟨_, _, by simp [none], .idle none⟩
  · obtain ⟨top, peeked, next⟩ := peekNextTaskUnlocked_spec wf none
    obtain ⟨s₁, woken, wakes⟩ := wakeUpUnlocked_spec found top.task.targetTime
    have has : (s.pending q).isEmpty = false := by simpa using none
    simp only [has, Bool.false_eq_true, if_false, peeked, ok_bind,
      getNextWakeTimeUnlocked_of_peek peeked, woken]
    by_cases early : top.task.targetTime > fromTime
    · exact ⟨_, _, by simp [early], .early next early wakes⟩
    · obtain ⟨holder, holderFound, isTop⟩ := next.heads
      obtain ⟨holder', holderFound', -, -, sameSource⟩ := wakes.sameCore.symm.find holderFound
      obtain ⟨source, popped, removes⟩ := isTop.pops
      rw [sameSource] at popped removes
      refine ⟨some top.task.task, _, ?_, .due next (not_lt.mp early) wakes holderFound' removes⟩
      simp [early, entryAt_of_find holderFound', popped]

theorem getNextTaskToRun_inv (wf : WellFormed s) {fromTime : TimePoint} {task : Option α}
    (h : s.getNextTaskToRun q fromTime = .ok (task, s')) :
    (∃ e, s.find q = some e) ∧ NextTaskEffect s q fromTime task s' := by
  cases found : s.find q with
  | none => simp [getNextTaskToRun, hasPendingTasksUnlocked, entryAt, found] at h
  | some e =>
    obtain ⟨task', s'', returned, effect⟩ := getNextTaskToRun_spec wf found fromTime
    rw [h] at returned
    cases returned
    exact ⟨⟨e, rfl⟩, effect⟩

theorem NextTaskEffect.sameShape {fromTime : TimePoint} {task : Option α}
    (effect : NextTaskEffect s q fromTime task s') : SameShape s s' := by
  cases effect with
  | idle => exact SameShape.refl s
  | early _ _ wakes => exact wakes.sameCore.sameShape
  | due _ _ wakes found removes =>
    have popped := sameShape_setSource found removes.taskQueueId
    exact wakes.sameCore.sameShape.trans ⟨popped.counter, popped.entries⟩

/-! ## Merging -/

/-- The entries after `merge` has passed all its guards. -/
def mergedState (s : MessageLoopTaskQueues α) (owner subsumed : TaskQueueId)
    (ownerEntry subsumedEntry : TaskQueueEntry α) : MessageLoopTaskQueues α :=
  (s.setEntry owner { ownerEntry with ownerOf := ownerEntry.ownerOf.insert subsumed }).setEntry
    subsumed { subsumedEntry with subsumedBy := some owner }

/-- The entries after `unmerge` has passed all its guards. -/
def unmergedState (s : MessageLoopTaskQueues α) (owner subsumed : TaskQueueId)
    (ownerEntry subsumedEntry : TaskQueueEntry α) : MessageLoopTaskQueues α :=
  (s.setEntry subsumed { subsumedEntry with subsumedBy := none }).setEntry
    owner { ownerEntry with ownerOf := ownerEntry.ownerOf.erase subsumed }

/-- The guards of `merge` that let it go on. -/
structure Mergeable (s : MessageLoopTaskQueues α) (owner subsumed : TaskQueueId)
    (ownerEntry subsumedEntry : TaskQueueEntry α) : Prop where
  distinct : owner ≠ subsumed
  ownerFound : s.find owner = some ownerEntry
  subsumedFound : s.find subsumed = some subsumedEntry
  notOwned : subsumed ∉ ownerEntry.ownerOf
  ownerUnsubsumed : ownerEntry.subsumedBy = none
  ownsNone : ∀ q, q ∉ subsumedEntry.ownerOf
  unsubsumed : subsumedEntry.subsumedBy = none

/-- The guards of `unmerge` that let it go on. -/
structure Unmergeable (s : MessageLoopTaskQueues α) (owner subsumed : TaskQueueId)
    (ownerEntry subsumedEntry : TaskQueueEntry α) : Prop where
  ownerFound : s.find owner = some ownerEntry
  subsumedFound : s.find subsumed = some subsumedEntry
  ownerUnsubsumed : ownerEntry.subsumedBy = none
  owned : subsumed ∈ ownerEntry.ownerOf

theorem find_mergedState (s : MessageLoopTaskQueues α) (owner subsumed : TaskQueueId)
    (ownerEntry subsumedEntry : TaskQueueEntry α) (q : TaskQueueId) :
    (mergedState s owner subsumed ownerEntry subsumedEntry).find q =
      if q = subsumed then some { subsumedEntry with subsumedBy := some owner }
      else if q = owner then
        some { ownerEntry with ownerOf := ownerEntry.ownerOf.insert subsumed }
      else s.find q := by
  simp [mergedState, eq_comm]

theorem find_unmergedState (s : MessageLoopTaskQueues α) (owner subsumed : TaskQueueId)
    (ownerEntry subsumedEntry : TaskQueueEntry α) (q : TaskQueueId) :
    (unmergedState s owner subsumed ownerEntry subsumedEntry).find q =
      if q = owner then some { ownerEntry with ownerOf := ownerEntry.ownerOf.erase subsumed }
      else if q = subsumed then some { subsumedEntry with subsumedBy := none }
      else s.find q := by
  simp [unmergedState, eq_comm]

variable {ownerEntry subsumedEntry : TaskQueueEntry α}

theorem source_of_find_mergedState
    (ownerFound : s.find owner = some ownerEntry) (subsumedFound : s.find subsumed = some subsumedEntry)
    (found : (mergedState s owner subsumed ownerEntry subsumedEntry).find q = some e) :
    ∃ e', s.find q = some e' ∧ e.taskSource = e'.taskSource := by
  rw [find_mergedState] at found
  split at found
  · rename_i isSubsumed
    cases found
    exact ⟨subsumedEntry, by rw [isSubsumed, subsumedFound], rfl⟩
  split at found
  · rename_i isOwner
    cases found
    exact ⟨ownerEntry, by rw [isOwner, ownerFound], rfl⟩
  · exact ⟨e, found, rfl⟩

theorem source_of_find_unmergedState
    (ownerFound : s.find owner = some ownerEntry) (subsumedFound : s.find subsumed = some subsumedEntry)
    (found : (unmergedState s owner subsumed ownerEntry subsumedEntry).find q = some e) :
    ∃ e', s.find q = some e' ∧ e.taskSource = e'.taskSource := by
  rw [find_unmergedState] at found
  split at found
  · rename_i isOwner
    cases found
    exact ⟨ownerEntry, by rw [isOwner, ownerFound], rfl⟩
  split at found
  · rename_i isSubsumed
    cases found
    exact ⟨subsumedEntry, by rw [isSubsumed, subsumedFound], rfl⟩
  · exact ⟨e, found, rfl⟩

variable {o x : TaskQueueId}

theorem Mergeable.find_owned (wf : WellFormed s) (mergeable : Mergeable s owner subsumed ownerEntry subsumedEntry)
    (found : s.find o = some e) (owned : x ∈ e.ownerOf) :
    (mergedState s owner subsumed ownerEntry subsumedEntry).find x = s.find x := by
  have ne₁ : x ≠ subsumed := fun eq =>
    wf.not_owned mergeable.subsumedFound mergeable.unsubsumed found (eq ▸ owned)
  have ne₂ : x ≠ owner := fun eq =>
    wf.not_owned mergeable.ownerFound mergeable.ownerUnsubsumed found (eq ▸ owned)
  rw [find_mergedState, if_neg ne₁, if_neg ne₂]

theorem Mergeable.subsumed_of_owned (wf : WellFormed s)
    (mergeable : Mergeable s owner subsumed ownerEntry subsumedEntry)
    (found : (mergedState s owner subsumed ownerEntry subsumedEntry).find o = some e) (owned : x ∈ e.ownerOf) :
    ∃ e', (mergedState s owner subsumed ownerEntry subsumedEntry).find x = some e' ∧
      e'.subsumedBy = some o := by
  rw [find_mergedState] at found
  split at found
  · cases found
    exact absurd owned (mergeable.ownsNone x)
  split at found
  · rename_i notSubsumed isOwner
    subst isOwner
    cases found
    -- the owner owns what it owned before, and `subsumed`
    rcases Std.TreeSet.mem_insert.mp owned with same | old
    · have same : x = subsumed := (Std.LawfulEqOrd.eq_of_compare same).symm
      exact ⟨_, by rw [find_mergedState, if_pos same], rfl⟩
    · rw [mergeable.find_owned wf mergeable.ownerFound old]
      exact wf.subsumed_of_owned mergeable.ownerFound old
  · rw [mergeable.find_owned wf found owned]
    exact wf.subsumed_of_owned found owned

theorem Mergeable.owned_of_subsumed (wf : WellFormed s)
    (mergeable : Mergeable s owner subsumed ownerEntry subsumedEntry)
    (found : (mergedState s owner subsumed ownerEntry subsumedEntry).find x = some e)
    (by_owner : e.subsumedBy = some o) :
    ∃ e', (mergedState s owner subsumed ownerEntry subsumedEntry).find o = some e' ∧ x ∈ e'.ownerOf := by
  rw [find_mergedState] at found
  simp only [find_mergedState]
  split at found
  · rename_i isSubsumed
    cases found
    cases by_owner
    refine ⟨_, by rw [if_neg mergeable.distinct, if_pos rfl], ?_⟩
    rw [isSubsumed]
    exact Std.TreeSet.mem_insert_self
  split at found
  · cases found
    simp [mergeable.ownerUnsubsumed] at by_owner
  · obtain ⟨e', found', owned⟩ := wf.owned_of_subsumed found by_owner
    -- `subsumed` owned nothing, so it is not the owner of `x`
    have ne : o ≠ subsumed := fun eq =>
      mergeable.ownsNone x (wf.mem_ownerOf found (eq ▸ by_owner) mergeable.subsumedFound)
    by_cases isOwner : o = owner
    · subst isOwner
      rw [mergeable.ownerFound] at found'
      cases found'
      exact ⟨_, by rw [if_neg ne, if_pos rfl], Std.TreeSet.mem_insert.mpr (Or.inr owned)⟩
    · exact ⟨e', by rw [if_neg ne, if_neg isOwner, found'], owned⟩

theorem Mergeable.wellFormed (wf : WellFormed s) (mergeable : Mergeable s owner subsumed ownerEntry subsumedEntry) :
    WellFormed (mergedState s owner subsumed ownerEntry subsumedEntry) where
  subsumed_of_owned := mergeable.subsumed_of_owned wf
  owned_of_subsumed := mergeable.owned_of_subsumed wf
  owner_unsubsumed := by
    intro q q' e found owned
    rw [find_mergedState] at found
    split at found
    · cases found
      exact absurd owned (mergeable.ownsNone q')
    split at found
    · cases found
      exact mergeable.ownerUnsubsumed
    · exact wf.owner_unsubsumed found owned
  source_id := by
    intro q e found
    obtain ⟨e', found', source⟩ :=
      source_of_find_mergedState mergeable.ownerFound mergeable.subsumedFound found
    rw [source]
    exact wf.source_id found'
  fresh := by
    intro q e found
    obtain ⟨e', found', -⟩ :=
      source_of_find_mergedState mergeable.ownerFound mergeable.subsumedFound found
    exact wf.fresh found'

theorem Unmergeable.distinct (wf : WellFormed s)
    (unmergeable : Unmergeable s owner subsumed ownerEntry subsumedEntry) : owner ≠ subsumed := by
  intro eq
  exact wf.not_self_owned unmergeable.ownerFound (eq ▸ unmergeable.owned)

theorem Unmergeable.subsumedBy (wf : WellFormed s)
    (unmergeable : Unmergeable s owner subsumed ownerEntry subsumedEntry) : subsumedEntry.subsumedBy = some owner :=
  wf.subsumedBy_eq unmergeable.ownerFound unmergeable.owned unmergeable.subsumedFound

theorem Unmergeable.ownsNone (wf : WellFormed s)
    (unmergeable : Unmergeable s owner subsumed ownerEntry subsumedEntry) : ∀ q, q ∉ subsumedEntry.ownerOf := by
  intro q owned
  have unsubsumed := wf.owner_unsubsumed unmergeable.subsumedFound owned
  simp [unmergeable.subsumedBy wf] at unsubsumed

theorem Unmergeable.subsumed_of_owned (wf : WellFormed s)
    (unmergeable : Unmergeable s owner subsumed ownerEntry subsumedEntry)
    (found : (unmergedState s owner subsumed ownerEntry subsumedEntry).find o = some e) (owned : x ∈ e.ownerOf) :
    ∃ e', (unmergedState s owner subsumed ownerEntry subsumedEntry).find x = some e' ∧
      e'.subsumedBy = some o := by
  have ownerNotOwned := fun {q : TaskQueueId} {e : TaskQueueEntry α} (found : s.find q = some e) =>
    wf.not_owned unmergeable.ownerFound unmergeable.ownerUnsubsumed found
  rw [find_unmergedState] at found
  simp only [find_unmergedState]
  split at found
  · rename_i isOwner
    subst isOwner
    cases found
    obtain ⟨ne, old⟩ := Std.TreeSet.mem_erase.mp owned
    obtain ⟨e', found', by_owner⟩ := wf.subsumed_of_owned unmergeable.ownerFound old
    have ne₁ : x ≠ o := fun eq => ownerNotOwned unmergeable.ownerFound (eq ▸ old)
    have ne₂ : x ≠ subsumed := fun eq => ne (by simp [eq])
    exact ⟨e', by rw [if_neg ne₁, if_neg ne₂, found'], by_owner⟩
  split at found
  · cases found
    exact absurd owned (unmergeable.ownsNone wf x)
  · rename_i notOwner notSubsumed
    obtain ⟨e', found', by_owner⟩ := wf.subsumed_of_owned found owned
    have ne₁ : x ≠ owner := fun eq => ownerNotOwned found (eq ▸ owned)
    -- `subsumed` has one owner, and `o` is not it
    have ne₂ : x ≠ subsumed := by
      intro eq
      subst eq
      have by_o := wf.subsumedBy_eq found owned unmergeable.subsumedFound
      rw [unmergeable.subsumedBy wf] at by_o
      exact notOwner (Option.some.inj by_o).symm
    exact ⟨e', by rw [if_neg ne₁, if_neg ne₂, found'], by_owner⟩

theorem Unmergeable.owned_of_subsumed (wf : WellFormed s)
    (unmergeable : Unmergeable s owner subsumed ownerEntry subsumedEntry)
    (found : (unmergedState s owner subsumed ownerEntry subsumedEntry).find x = some e)
    (by_owner : e.subsumedBy = some o) :
    ∃ e', (unmergedState s owner subsumed ownerEntry subsumedEntry).find o = some e' ∧ x ∈ e'.ownerOf := by
  rw [find_unmergedState] at found
  simp only [find_unmergedState]
  split at found
  · cases found
    simp [unmergeable.ownerUnsubsumed] at by_owner
  split at found
  · cases found
    simp at by_owner
  · rename_i notOwner notSubsumed
    obtain ⟨e', found', owned⟩ := wf.owned_of_subsumed found by_owner
    by_cases isOwner : o = owner
    · subst isOwner
      rw [unmergeable.ownerFound] at found'
      cases found'
      refine ⟨_, if_pos rfl, Std.TreeSet.mem_erase.mpr ⟨?_, owned⟩⟩
      simpa using Ne.symm notSubsumed
    · have ne : o ≠ subsumed := fun eq =>
        unmergeable.ownsNone wf x (wf.mem_ownerOf found (eq ▸ by_owner) unmergeable.subsumedFound)
      exact ⟨e', by rw [if_neg isOwner, if_neg ne, found'], owned⟩

theorem Unmergeable.wellFormed (wf : WellFormed s)
    (unmergeable : Unmergeable s owner subsumed ownerEntry subsumedEntry) :
    WellFormed (unmergedState s owner subsumed ownerEntry subsumedEntry) where
  subsumed_of_owned := unmergeable.subsumed_of_owned wf
  owned_of_subsumed := unmergeable.owned_of_subsumed wf
  owner_unsubsumed := by
    intro q q' e found owned
    rw [find_unmergedState] at found
    split at found
    · cases found
      exact unmergeable.ownerUnsubsumed
    split at found
    · cases found
      rfl
    · exact wf.owner_unsubsumed found owned
  source_id := by
    intro q e found
    obtain ⟨e', found', source⟩ :=
      source_of_find_unmergedState unmergeable.ownerFound unmergeable.subsumedFound found
    rw [source]
    exact wf.source_id found'
  fresh := by
    intro q e found
    obtain ⟨e', found', -⟩ :=
      source_of_find_unmergedState unmergeable.ownerFound unmergeable.subsumedFound found
    exact wf.fresh found'

/-- What `merge` does. -/
inductive MergeEffect (s : MessageLoopTaskQueues α) (owner subsumed : TaskQueueId) :
    Bool → MessageLoopTaskQueues α → Prop where
  | same : owner = subsumed → MergeEffect s owner subsumed true s
  | already {e : TaskQueueEntry α} : s.find owner = some e → subsumed ∈ e.ownerOf →
      MergeEffect s owner subsumed true s
  | refused {e e' : TaskQueueEntry α} : owner ≠ subsumed → s.find owner = some e →
      s.find subsumed = some e' → subsumed ∉ e.ownerOf →
      (e.subsumedBy ≠ none ∨ (∃ q, q ∈ e'.ownerOf) ∨ e'.subsumedBy ≠ none) →
      MergeEffect s owner subsumed false s
  | merged {e e' : TaskQueueEntry α} {s' : MessageLoopTaskQueues α} :
      Mergeable s owner subsumed e e' →
      WakesForNext (mergedState s owner subsumed e e') owner s' →
      MergeEffect s owner subsumed true s'

/-- What `unmerge` does. -/
inductive UnmergeEffect (s : MessageLoopTaskQueues α) (owner subsumed : TaskQueueId) :
    Bool → MessageLoopTaskQueues α → Prop where
  | refused {e : TaskQueueEntry α} : s.find owner = some e → subsumed ∉ e.ownerOf →
      UnmergeEffect s owner subsumed false s
  | unmerged {e e' : TaskQueueEntry α} {s₁ s' : MessageLoopTaskQueues α} :
      Unmergeable s owner subsumed e e' →
      WakesForNext (unmergedState s owner subsumed e e') owner s₁ →
      WakesForNext s₁ subsumed s' → UnmergeEffect s owner subsumed true s'

theorem isEmpty_eq_false_iff {owned : Std.TreeSet TaskQueueId} :
    owned.isEmpty = false ↔ ∃ q, q ∈ owned := by
  rw [← Bool.not_eq_true, Std.TreeSet.isEmpty_iff_forall_not_mem]
  push Not
  rfl

theorem merge_spec (wf : WellFormed s) {e' : TaskQueueEntry α} (found : s.find owner = some e)
    (found' : s.find subsumed = some e') : ∃ success s', s.merge owner subsumed = .ok (success, s') ∧
      MergeEffect s owner subsumed success s' := by
  unfold merge
  simp only [entryAt_of_find found, entryAt_of_find found', ok_bind, pure_eq_ok]
  by_cases same : owner = subsumed
  · exact ⟨true, s, by simp [same], .same same⟩
  by_cases owned : subsumed ∈ e.ownerOf
  · exact ⟨true, s, by simp [same, owned], .already found owned⟩
  by_cases ownerSubsumed : e.subsumedBy = none
  swap
  · refine ⟨false, s, ?_, .refused same found found' owned (Or.inl ownerSubsumed)⟩
    simp [same, owned, Option.isSome_iff_ne_none.mpr ownerSubsumed]
  cases owns : e'.ownerOf.isEmpty with
  | false =>
    refine ⟨false, s, ?_, .refused same found found' owned (Or.inr (Or.inl ?_))⟩
    · simp [same, owned, ownerSubsumed]
    · exact isEmpty_eq_false_iff.mp owns
  | true =>
  by_cases unsubsumed : e'.subsumedBy = none
  swap
  · refine ⟨false, s, ?_, .refused same found found' owned (Or.inr (Or.inr unsubsumed))⟩
    simp [same, owned, ownerSubsumed, Option.isSome_iff_ne_none.mpr unsubsumed]
  have mergeable : Mergeable s owner subsumed e e' :=
    ⟨same, found, found', owned, ownerSubsumed, Std.TreeSet.isEmpty_iff_forall_not_mem.mp owns,
      unsubsumed⟩
  have ownerFound : (mergedState s owner subsumed e e').find owner =
      some { e with ownerOf := e.ownerOf.insert subsumed } := by
    rw [find_mergedState, if_neg same, if_pos rfl]
  obtain ⟨s', returned, woken⟩ := wakeIfPendingUnlocked_spec (mergeable.wellFormed wf) ownerFound
  refine ⟨true, s', ?_, .merged mergeable woken⟩
  have ownerFree : e.subsumedBy.isSome = false := by simp [ownerSubsumed]
  have free : e'.subsumedBy.isSome = false := by simp [unsubsumed]
  unfold mergedState at returned
  simp [same, owned, ownerFree, free, returned]

theorem merge_inv (wf : WellFormed s) {success : Bool}
    (h : s.merge owner subsumed = .ok (success, s')) : MergeEffect s owner subsumed success s' := by
  by_cases same : owner = subsumed
  · simp only [merge, same, if_true, pure_eq_ok, Except.ok.injEq, Prod.mk.injEq] at h
    obtain ⟨rfl, rfl⟩ := h
    exact .same same
  · cases found : s.find owner with
    | none => simp [merge, same, entryAt, found] at h
    | some e =>
      cases found' : s.find subsumed with
      | none => simp [merge, same, entryAt, found, found'] at h
      | some e' =>
        obtain ⟨success', s'', returned, effect⟩ := merge_spec wf found found'
        rw [h] at returned
        cases returned
        exact effect

theorem unmerge_spec (wf : WellFormed s) {e' : TaskQueueEntry α} (found : s.find owner = some e)
    (found' : s.find subsumed = some e') : ∃ success s', s.unmerge owner subsumed = .ok (success, s') ∧
      UnmergeEffect s owner subsumed success s' := by
  unfold unmerge
  simp only [entryAt_of_find found, entryAt_of_find found', ok_bind, pure_eq_ok]
  by_cases owned : subsumed ∈ e.ownerOf
  · -- the pair is merged, and the three guards before the last hold
    have owns : e.ownerOf.isEmpty = false := isEmpty_eq_false_iff.mpr ⟨subsumed, owned⟩
    have unmergeable : Unmergeable s owner subsumed e e' :=
      ⟨found, found', wf.owner_unsubsumed found owned, owned⟩
    have wf₁ := unmergeable.wellFormed wf
    have ownerFound : (unmergedState s owner subsumed e e').find owner =
        some { e with ownerOf := e.ownerOf.erase subsumed } := by
      rw [find_unmergedState, if_pos rfl]
    have subsumedFound : (unmergedState s owner subsumed e e').find subsumed =
        some { e' with subsumedBy := none } := by
      rw [find_unmergedState, if_neg (unmergeable.distinct wf).symm, if_pos rfl]
    obtain ⟨s₁, returned, woken⟩ := wakeIfPendingUnlocked_spec wf₁ ownerFound
    obtain ⟨_, subsumedFound₁, -⟩ := woken.sameCore.symm.find subsumedFound
    obtain ⟨s', returned', woken'⟩ :=
      wakeIfPendingUnlocked_spec (wf₁.of_sameShape woken.sameCore.sameShape) subsumedFound₁
    refine ⟨true, s', ?_, .unmerged unmergeable woken woken'⟩
    have ownerFree : e.subsumedBy.isSome = false := by simp [unmergeable.ownerUnsubsumed]
    have taken : e'.subsumedBy.isNone = false := by simp [unmergeable.subsumedBy wf]
    unfold unmergedState at returned
    simp [owns, owned, ownerFree, taken, returned, returned']
  · refine ⟨false, s, ?_, .refused found owned⟩
    simp only [Std.TreeSet.contains_iff_mem.not.mpr owned]
    split
    · rfl
    split
    · rfl
    split <;> simp

theorem unmerge_inv (wf : WellFormed s) {success : Bool}
    (h : s.unmerge owner subsumed = .ok (success, s')) :
    UnmergeEffect s owner subsumed success s' := by
  cases found : s.find owner with
  | none => simp [unmerge, entryAt, found] at h
  | some e =>
    cases found' : s.find subsumed with
    | some e' =>
      obtain ⟨success', s'', returned, effect⟩ := unmerge_spec wf found found'
      rw [h] at returned
      cases returned
      exact effect
    | none =>
      -- an id without an entry is owned by nobody, and a guard before `at` refuses it
      have notOwned : subsumed ∉ e.ownerOf := by
        intro owned
        obtain ⟨e', found'', _⟩ := wf.subsumed_of_owned found owned
        simp [found'] at found''
      simp only [unmerge, entryAt_of_find found, ok_bind, pure_eq_ok] at h
      have missing : s.entryAt subsumed = .error .outOfRange := by simp [entryAt, found']
      simp only [missing, error_bind] at h
      split at h
      · cases h
        exact .refused found notOwned
      split at h
      · cases h
        exact .refused found notOwned
      · cases h

/-! ## Disposing -/

theorem find_foldl_eraseEntry (queues : List TaskQueueId) (s : MessageLoopTaskQueues α)
    (q : TaskQueueId) :
    (queues.foldl eraseEntry s).find q = if q ∈ queues then none else s.find q := by
  induction queues generalizing s with
  | nil => simp
  | cons q' queues ih =>
    rw [List.foldl_cons, ih, find_eraseEntry]
    by_cases here : q' = q
    · simp [here]
    · simp [here, Ne.symm here]

theorem counter_foldl_eraseEntry (queues : List TaskQueueId) (s : MessageLoopTaskQueues α) :
    (queues.foldl eraseEntry s).taskQueueIdCounter = s.taskQueueIdCounter := by
  induction queues generalizing s with
  | nil => rfl
  | cons q' queues ih => exact ih (s.eraseEntry q')

theorem dispose_inv (h : s.dispose q = .ok s') :
    ∃ e, s.find q = some e ∧ e.subsumedBy = none ∧
      s'.taskQueueIdCounter = s.taskQueueIdCounter ∧
      ∀ q', s'.find q' = if q' = q ∨ q' ∈ e.ownerOf then none else s.find q' := by
  unfold dispose at h
  obtain ⟨e, found, h⟩ := bind_eq_ok.mp h
  obtain ⟨_, unsubsumed, h⟩ := bind_eq_ok.mp h
  simp only [pure_eq_ok, Except.ok.injEq] at h
  subst h
  refine ⟨e, entryAt_eq_ok.mp found, by simpa using fmlDcheck_eq_ok.mp unsubsumed,
    counter_foldl_eraseEntry _ _, fun q' => ?_⟩
  rw [find_eraseEntry, find_foldl_eraseEntry]
  by_cases eq : q = q'
  · simp [eq]
  · simp [eq, Ne.symm eq, Std.TreeSet.mem_toList]

theorem dispose_wellFormed (wf : WellFormed s) (h : s.dispose q = .ok s') : WellFormed s' := by
  obtain ⟨e, found, unsubsumed, counter, erased⟩ := dispose_inv h
  have kept : ∀ {q' e'}, s'.find q' = some e' → s.find q' = some e' ∧ q' ≠ q ∧ q' ∉ e.ownerOf := by
    intro q' e' found'
    rw [erased] at found'
    split at found'
    · cases found'
    · rename_i outside
      exact ⟨found', fun eq => outside (Or.inl eq), fun owned => outside (Or.inr owned)⟩
  constructor
  · intro o x e' found' owned
    obtain ⟨old, notQ, notOwned⟩ := kept found'
    obtain ⟨e'', old', by_o⟩ := wf.subsumed_of_owned old owned
    refine ⟨e'', ?_, by_o⟩
    -- `x` is owned by `o`, so it is neither `q`, which nobody owns, nor owned by `q`
    rw [erased, if_neg, old']
    rintro (isQ | ownedByQ)
    · subst isQ
      exact wf.not_owned found unsubsumed old owned
    · have by_q := wf.subsumedBy_eq found ownedByQ old'
      rw [by_o] at by_q
      exact notQ (Option.some.inj by_q)
  · intro o x e' found' by_o
    obtain ⟨old, notQ, notOwned⟩ := kept found'
    obtain ⟨e'', old', owned⟩ := wf.owned_of_subsumed old by_o
    refine ⟨e'', ?_, owned⟩
    rw [erased, if_neg, old']
    rintro (isQ | ownedByQ)
    · subst isQ
      rw [found] at old'
      cases old'
      exact notOwned owned
    · exact wf.not_owned old' (wf.owner_unsubsumed old' owned) found ownedByQ
  · intro p p' e' found' owned
    exact wf.owner_unsubsumed (kept found').1 owned
  · intro p e' found'
    exact wf.source_id (kept found').1
  · intro p e' found'
    rw [counter]
    exact wf.fresh (kept found').1

theorem shutDownSource_sameShape (h : s.shutDownSource q = .ok s') : SameShape s s' := by
  unfold shutDownSource at h
  obtain ⟨e, found, h⟩ := bind_eq_ok.mp h
  simp only [pure_eq_ok, Except.ok.injEq] at h
  subst h
  exact sameShape_setSource (entryAt_eq_ok.mp found) rfl

theorem foldlM_shutDownSource_sameShape (queues : List TaskQueueId)
    (h : queues.foldlM shutDownSource s = .ok s') : SameShape s s' := by
  induction queues generalizing s with
  | nil =>
    simp only [List.foldlM_nil, pure_eq_ok, Except.ok.injEq] at h
    subst h
    exact SameShape.refl s
  | cons q queues ih =>
    rw [List.foldlM_cons] at h
    obtain ⟨s₁, first, rest⟩ := bind_eq_ok.mp h
    exact (shutDownSource_sameShape first).trans (ih rest)

theorem disposeTasks_sameShape (h : s.disposeTasks q = .ok s') : SameShape s s' := by
  unfold disposeTasks at h
  obtain ⟨e, found, h⟩ := bind_eq_ok.mp h
  obtain ⟨_, _, h⟩ := bind_eq_ok.mp h
  obtain ⟨s₁, first, rest⟩ := bind_eq_ok.mp h
  exact (shutDownSource_sameShape first).trans (foldlM_shutDownSource_sameShape _ rest)

/-! ## Observers -/

theorem addTaskObserver_inv {key : Int} {callback : α}
    (h : s.addTaskObserver q key callback = .ok s') :
    ∃ e, s.find q = some e ∧
      s' = s.setEntry q { e with taskObservers := e.taskObservers.insert key callback } := by
  unfold addTaskObserver at h
  obtain ⟨e, found, h⟩ := bind_eq_ok.mp h
  simp only [pure_eq_ok, Except.ok.injEq] at h
  exact ⟨e, entryAt_eq_ok.mp found, h.symm⟩

theorem removeTaskObserver_inv {key : Int} (h : s.removeTaskObserver q key = .ok s') :
    ∃ e, s.find q = some e ∧
      s' = s.setEntry q { e with taskObservers := e.taskObservers.erase key } := by
  unfold removeTaskObserver at h
  obtain ⟨e, found, h⟩ := bind_eq_ok.mp h
  simp only [pure_eq_ok, Except.ok.injEq] at h
  exact ⟨e, entryAt_eq_ok.mp found, h.symm⟩

/-! ## Every step -/

inductive ShapeEffect (s : MessageLoopTaskQueues α) : Op α → MessageLoopTaskQueues α → Prop where
  | kept {op : Op α} {s' : MessageLoopTaskQueues α} : SameShape s s' → ShapeEffect s op s'
  | created {op : Op α} {s' : MessageLoopTaskQueues α} : SameShape s.createTaskQueue.2 s' →
      ShapeEffect s op s'
  | merged {owner subsumed : TaskQueueId} {e e' : TaskQueueEntry α} {s' : MessageLoopTaskQueues α} :
      Mergeable s owner subsumed e e' → SameShape (mergedState s owner subsumed e e') s' →
      ShapeEffect s (.merge owner subsumed) s'
  | unmerged {owner subsumed : TaskQueueId} {e e' : TaskQueueEntry α}
      {s' : MessageLoopTaskQueues α} : Unmergeable s owner subsumed e e' →
      SameShape (unmergedState s owner subsumed e e') s' → ShapeEffect s (.unmerge owner subsumed) s'
  | disposed {q : TaskQueueId} {s' : MessageLoopTaskQueues α} : s.dispose q = .ok s' →
      ShapeEffect s (.dispose q) s'

theorem createMessageLoop_sameShape {id : TaskQueueId} (h : s.createMessageLoop = .ok (id, s')) :
    SameShape s.createTaskQueue.2 s' := by
  obtain ⟨rfl, rfl⟩ := createMessageLoop_inv h
  have found : s.createTaskQueue.2.find s.taskQueueIdCounter = some (.create s.taskQueueIdCounter) := by
    rw [find_createTaskQueue, if_pos rfl]
  exact sameShape_setEntry found rfl

theorem step_shapeEffect {op : Op α} {out : Answer α} (wf : WellFormed s)
    (h : s.step op = .ok (out, s')) : ShapeEffect s op s' := by
  cases op with
  | createTaskQueue =>
    simp only [step, pure_eq_ok, Except.ok.injEq, Prod.mk.injEq] at h
    exact .created (h.2 ▸ SameShape.refl _)
  | createMessageLoop =>
    obtain ⟨⟨id, s₁⟩, created, h⟩ := bind_eq_ok.mp h
    cases h
    exact .created (createMessageLoop_sameShape created)
  | setWakeable q =>
    obtain ⟨s₁, set, h⟩ := bind_eq_ok.mp h
    cases h
    obtain ⟨e, found, -, rfl⟩ := setWakeable_inv set
    exact .kept (sameShape_setEntry found rfl)
  | registerTask q task targetTime grade =>
    obtain ⟨s₁, registered, h⟩ := bind_eq_ok.mp h
    cases h
    obtain ⟨e, found, woken⟩ := registerTask_inv wf registered
    exact .kept ((registeredState_sameShape found _).trans woken.sameCore.sameShape)
  | getNextTaskToRun q fromTime =>
    obtain ⟨⟨task, s₁⟩, returned, h⟩ := bind_eq_ok.mp h
    cases h
    exact .kept (getNextTaskToRun_inv wf returned).2.sameShape
  | merge owner subsumed =>
    obtain ⟨⟨success, s₁⟩, returned, h⟩ := bind_eq_ok.mp h
    cases h
    cases merge_inv wf returned with
    | same => exact .kept (SameShape.refl s)
    | already => exact .kept (SameShape.refl s)
    | refused => exact .kept (SameShape.refl s)
    | merged mergeable woken => exact .merged mergeable woken.sameCore.sameShape
  | unmerge owner subsumed =>
    obtain ⟨⟨success, s₁⟩, returned, h⟩ := bind_eq_ok.mp h
    cases h
    cases unmerge_inv wf returned with
    | refused => exact .kept (SameShape.refl s)
    | unmerged unmergeable woken woken' =>
      exact .unmerged unmergeable (woken.sameCore.sameShape.trans woken'.sameCore.sameShape)
  | pauseSecondarySource q =>
    obtain ⟨s₁, paused, h⟩ := bind_eq_ok.mp h
    cases h
    obtain ⟨e, source, found, pausedSource, rfl⟩ := pauseSecondarySource_inv paused
    exact .kept (sameShape_setSource found (pauseSecondary_inv pausedSource).2.2.2)
  | resumeSecondarySource q =>
    obtain ⟨s₁, resumed, h⟩ := bind_eq_ok.mp h
    cases h
    obtain ⟨e, source, found, resumedSource, woken⟩ := resumeSecondarySource_inv wf resumed
    have resumedShape := sameShape_setSource found (resumeSecondary_inv resumedSource).2.2.2
    exact .kept (resumedShape.trans woken.sameCore.sameShape)
  | addTaskObserver q key callback =>
    obtain ⟨s₁, added, h⟩ := bind_eq_ok.mp h
    cases h
    obtain ⟨e, found, rfl⟩ := addTaskObserver_inv added
    exact .kept (sameShape_setEntry found rfl)
  | removeTaskObserver q key =>
    obtain ⟨s₁, removed, h⟩ := bind_eq_ok.mp h
    cases h
    obtain ⟨e, found, rfl⟩ := removeTaskObserver_inv removed
    exact .kept (sameShape_setEntry found rfl)
  | dispose q =>
    obtain ⟨s₁, disposed, h⟩ := bind_eq_ok.mp h
    cases h
    exact .disposed disposed
  | disposeTasks q =>
    obtain ⟨s₁, disposed, h⟩ := bind_eq_ok.mp h
    cases h
    exact .kept (disposeTasks_sameShape disposed)

theorem step_wellFormed {op : Op α} {out : Answer α} (wf : WellFormed s)
    (h : s.step op = .ok (out, s')) : WellFormed s' := by
  cases step_shapeEffect wf h with
  | kept same => exact wf.of_sameShape same
  | created same => exact (createTaskQueue_wellFormed wf).of_sameShape same
  | merged mergeable same => exact (mergeable.wellFormed wf).of_sameShape same
  | unmerged unmergeable same => exact (unmergeable.wellFormed wf).of_sameShape same
  | disposed returned => exact dispose_wellFormed wf returned

theorem runs_wellFormed {guard : MessageLoopTaskQueues α → Op α → Prop}
    {log : List (Op α × Answer α)} (runs : Runs step guard initial log s) : WellFormed s :=
  runs.preserves wellFormed_initial fun _ _ _ _ wf _ stepped => step_wellFormed wf stepped

end FlutterZero.Fml.MessageLoopTaskQueues
