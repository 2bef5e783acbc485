import FlutterZero.Fml.TaskQueues.Effects

/-! # Wake-ups

Whether the loop of every queue with something to do has been told to wake up in
time (`NoLostWakeUp`).  Each call that makes a task pending wakes the loop that
will run it, with one exception: `ResumeSecondarySource` asks the queue it is
called on and not the one that has subsumed it (`MissesOwner`).  The invariant
holds in every run in which that gap is not met, and a call that meets it breaks
the invariant (`noLostWakeUp_iff_not_missesOwner`).
-/

namespace FlutterZero.Fml.MessageLoopTaskQueues

open FlutterZero.Lib

variable {α : Type} {s s' : MessageLoopTaskQueues α} {q q' owner subsumed : TaskQueueId}

/-! ## Wake-ups received -/

/-- The time of the most recent `WakeUp` that the loop of `q` has received. -/
def lastWakeUp (s : MessageLoopTaskQueues α) (q : TaskQueueId) : Option TimePoint :=
  (s.find q).bind fun e => e.wakeable.bind fun wakeable => wakeable.wakeUps.head?

/-- Every queue that is not subsumed and has pending tasks has last been woken for a time not
    later than that of any of these tasks. -/
def NoLostWakeUp (s : MessageLoopTaskQueues α) : Prop :=
  ∀ q e, s.find q = some e → e.subsumedBy = none → s.hasPendingTasks q = .ok true →
    ∃ time, s.lastWakeUp q = some time ∧ ∀ p ∈ s.pending q, time ≤ p.task.targetTime

def HasLoops (s : MessageLoopTaskQueues α) : Prop :=
  ∀ q e, s.find q = some e → e.wakeable ≠ none

/-- The loop of `q` has been woken for what is pending there. -/
def Covered (s : MessageLoopTaskQueues α) (q : TaskQueueId) : Prop :=
  ∀ p ∈ s.pending q, ∃ time, s.lastWakeUp q = some time ∧ time ≤ p.task.targetTime

theorem noLostWakeUp_iff_covered (wf : WellFormed s) : NoLostWakeUp s ↔ ∀ q, Covered s q := by
  constructor
  · intro served q p member
    obtain ⟨e, found, unsubsumed, -, -⟩ := mem_pending.mp member
    have has : s.hasPendingTasks q = .ok true := by
      rw [hasPendingTasks, hasPendingTasksUnlocked_spec wf found]
      simp [List.ne_nil_of_mem member]
    obtain ⟨time, woken, least⟩ := served q e found unsubsumed has
    exact ⟨time, woken, least p member⟩
  · intro covered q e found _ has
    rw [hasPendingTasks, hasPendingTasksUnlocked_spec wf found] at has
    have some_pending : s.pending q ≠ [] := by simpa using has
    obtain ⟨p, member⟩ := List.exists_mem_of_ne_nil _ some_pending
    obtain ⟨time, woken, -⟩ := covered q p member
    refine ⟨time, woken, fun p' member' => ?_⟩
    obtain ⟨time', woken', le⟩ := covered q p' member'
    rw [woken] at woken'
    cases woken'
    exact le

theorem Covered.of_subset (covered : Covered s q) (subset : ∀ p ∈ s'.pending q, p ∈ s.pending q)
    (same : s'.lastWakeUp q = s.lastWakeUp q) : Covered s' q := by
  intro p member
  rw [same]
  exact covered p (subset p member)

variable {e : TaskQueueEntry α}

theorem covered_of_find (found : s.find q = some e) (subsumed : e.subsumedBy = some owner) : Covered s q := by
  intro p member
  rw [pending_of_subsumed found subsumed] at member
  cases member

variable {time : TimePoint}

theorem Wakes.lastWakeUp_self (wakes : Wakes s s' q time)
    (found : s.find q = some e) (hasLoop : e.wakeable ≠ none) : s'.lastWakeUp q = some time := by
  obtain ⟨wakeable, set⟩ := Option.ne_none_iff_exists'.mp hasLoop
  simp [lastWakeUp, wakes.find, found, wokenAt, set]

theorem Wakes.lastWakeUp_of_ne (wakes : Wakes s s' q time) (ne : q' ≠ q) : s'.lastWakeUp q' = s.lastWakeUp q' := by
  simp [lastWakeUp, wakes.find, ne]

theorem Wakes.hasLoops (wakes : Wakes s s' q time) (loops : HasLoops s) : HasLoops s' := by
  intro q' e' found
  rw [wakes.find] at found
  split at found
  · obtain ⟨e, old, rfl⟩ := Option.map_eq_some_iff.mp found
    simpa [wokenAt] using loops q' e old
  · exact loops q' e' found

theorem Wakes.covered {top : TopTask α} (wakes : Wakes s s' q top.task.targetTime)
    (loops : HasLoops s) (next : IsNext s (s.pending q) top) : Covered s' q := by
  intro p member
  rw [wakes.sameCore.pending] at member
  obtain ⟨e, found, -, -, -⟩ := mem_pending.mp member
  refine ⟨_, wakes.lastWakeUp_self found (loops q e found), ?_⟩
  rcases DelayedTask.notAfter_iff.mp (next.least p member) with earlier | ⟨same, -⟩
  · exact le_of_lt earlier
  · exact le_of_eq same

theorem Wakes.covered_of_ne (wakes : Wakes s s' q time) (ne : q' ≠ q) (covered : Covered s q') : Covered s' q' :=
  covered.of_subset (fun _ member => wakes.sameCore.pending q' ▸ member) (wakes.lastWakeUp_of_ne ne)

theorem WakesForNext.hasLoops (woken : WakesForNext s q s') (loops : HasLoops s) : HasLoops s' := by
  cases woken with
  | idle => exact loops
  | wake _ wakes => exact wakes.hasLoops loops

theorem WakesForNext.covered (woken : WakesForNext s q s') (loops : HasLoops s)
    (other : q' ≠ q → Covered s q') : Covered s' q' := by
  cases woken with
  | idle none =>
    by_cases eq : q' = q
    · intro p member
      rw [eq, none] at member
      cases member
    · exact other eq
  | wake next wakes =>
    by_cases eq : q' = q
    · exact eq ▸ wakes.covered loops next
    · exact wakes.covered_of_ne eq (other eq)

/-! ## Sources that change -/

theorem hasLoops_setEntry (loops : HasLoops s) (hasLoop : e.wakeable ≠ none) : HasLoops (s.setEntry q e) := by
  intro q' e' found
  rw [find_setEntry] at found
  split at found
  · cases found
    exact hasLoop
  · exact loops q' e' found

theorem lastWakeUp_setSource (found : s.find q = some e) (source : TaskSource α) (q' : TaskQueueId) :
    (s.setEntry q { e with taskSource := source }).lastWakeUp q' = s.lastWakeUp q' := by
  by_cases eq : q = q'
  · subst eq
    simp [lastWakeUp, found]
  · simp [lastWakeUp, eq]

variable {source : TaskSource α} {p : TopTask α}

theorem mem_pending_setSource (found : s.find q = some e) :
    p ∈ (s.setEntry q { e with taskSource := source }).pending q' ↔
      ∃ f, s.find q' = some f ∧ f.subsumedBy = none ∧
        (p.taskQueueId = q' ∨ p.taskQueueId ∈ f.ownerOf) ∧
        if p.taskQueueId = q then p.task ∈ source.pendingTasks
        else ∃ f', s.find p.taskQueueId = some f' ∧ p.task ∈ f'.taskSource.pendingTasks := by
  rw [mem_pending]
  simp only [find_setEntry]
  constructor
  · rintro ⟨f, foundF, unsubsumed, among, e', found', offered⟩
    have held : if p.taskQueueId = q then p.task ∈ source.pendingTasks
        else ∃ f', s.find p.taskQueueId = some f' ∧ p.task ∈ f'.taskSource.pendingTasks := by
      by_cases eq : p.taskQueueId = q
      · rw [if_pos eq.symm] at found'
        cases found'
        rwa [if_pos eq]
      · rw [if_neg (Ne.symm eq)] at found'
        rw [if_neg eq]
        exact ⟨e', found', offered⟩
    by_cases eq : q = q'
    · subst eq
      rw [if_pos rfl] at foundF
      cases foundF
      exact ⟨e, found, unsubsumed, among, held⟩
    · rw [if_neg eq] at foundF
      exact ⟨f, foundF, unsubsumed, among, held⟩
  · rintro ⟨f, foundF, unsubsumed, among, held⟩
    have offered : ∃ e', (if q = p.taskQueueId then some { e with taskSource := source }
        else s.find p.taskQueueId) = some e' ∧ p.task ∈ e'.taskSource.pendingTasks := by
      by_cases eq : p.taskQueueId = q
      · rw [if_pos eq] at held
        exact ⟨_, if_pos eq.symm, held⟩
      · rw [if_neg eq] at held
        obtain ⟨f', found', member⟩ := held
        exact ⟨f', (if_neg (Ne.symm eq)).trans found', member⟩
    by_cases eq : q = q'
    · subst eq
      rw [found] at foundF
      cases foundF
      exact ⟨_, if_pos rfl, unsubsumed, among, offered⟩
    · exact ⟨f, (if_neg eq).trans foundF, unsubsumed, among, offered⟩

theorem pending_setSource_of_ne_loop (wf : WellFormed s) (found : s.find q = some e) (ne : q' ≠ e.subsumedBy.getD q)
    (member : p ∈ (s.setEntry q { e with taskSource := source }).pending q') : p ∈ s.pending q' := by
  obtain ⟨f, foundF, unsubsumed, among, held⟩ := (mem_pending_setSource found).mp member
  by_cases eq : p.taskQueueId = q
  · rw [eq] at among
    rcases among with rfl | owned
    · rw [found] at foundF
      cases foundF
      rw [unsubsumed] at ne
      exact absurd rfl ne
    · rw [wf.subsumedBy_eq foundF owned found] at ne
      exact absurd rfl ne
  · rw [if_neg eq] at held
    exact mem_pending.mpr ⟨f, foundF, unsubsumed, among, held⟩

theorem pending_setSource_of_subset (found : s.find q = some e)
    (subset : ∀ t ∈ source.pendingTasks, t ∈ e.taskSource.pendingTasks)
    (member : p ∈ (s.setEntry q { e with taskSource := source }).pending q') : p ∈ s.pending q' := by
  obtain ⟨f, foundF, unsubsumed, among, held⟩ := (mem_pending_setSource found).mp member
  refine mem_pending.mpr ⟨f, foundF, unsubsumed, among, ?_⟩
  by_cases eq : p.taskQueueId = q
  · rw [if_pos eq] at held
    exact ⟨e, eq ▸ found, subset _ held⟩
  · rw [if_neg eq] at held
    exact held

/-! ## Queues that are linked anew -/

def SameSources (s s' : MessageLoopTaskQueues α) : Prop :=
  ∀ q, (s'.find q).map (·.taskSource) = (s.find q).map (·.taskSource)

theorem SameSources.offers (same : SameSources s s') (q : TaskQueueId) :
    s'.offers q = s.offers q := by
  have source := same q
  unfold MessageLoopTaskQueues.offers
  cases old : s.find q <;> cases new : s'.find q <;> simp_all

theorem Covered.of_sameSources (covered : Covered s q) (same : SameSources s s')
    (entry : s'.find q = s.find q) : Covered s' q := by
  have offers : s'.offers = s.offers := funext same.offers
  refine covered.of_subset (fun p member => ?_) (by rw [lastWakeUp, lastWakeUp, entry])
  rw [pending, entry, offers] at member
  exact member

theorem Mergeable.sameSources {e' : TaskQueueEntry α} (mergeable : Mergeable s owner subsumed e e') :
    SameSources s (mergedState s owner subsumed e e') := by
  intro q
  rw [find_mergedState]
  split
  · rename_i isSubsumed
    simp [isSubsumed, mergeable.subsumedFound]
  · split
    · rename_i isOwner
      simp [isOwner, mergeable.ownerFound]
    · rfl

theorem Unmergeable.sameSources {e' : TaskQueueEntry α} (unmergeable : Unmergeable s owner subsumed e e') :
    SameSources s (unmergedState s owner subsumed e e') := by
  intro q
  rw [find_unmergedState]
  split
  · rename_i isOwner
    simp [isOwner, unmergeable.ownerFound]
  · split
    · rename_i isSubsumed
      simp [isSubsumed, unmergeable.subsumedFound]
    · rfl

/-! ## The calls -/

/-- The calls of a program in which every queue is created by a message loop and stays. -/
def Op.OfLoops : Op α → Prop
  | .createTaskQueue => False
  | .setWakeable _ => False
  | .dispose _ => False
  | .disposeTasks _ => False
  | _ => True

/-- The call ends the pause of a subsumed queue whose secondary heap has a task that the owner's
    loop has not been woken for. -/
def MissesOwner (s : MessageLoopTaskQueues α) : Op α → Prop
  | .resumeSecondarySource q => ∃ e owner, s.find q = some e ∧ e.subsumedBy = some owner ∧
      e.taskSource.secondaryPauseRequests = 1 ∧
      ∃ t ∈ e.taskSource.secondaryTaskQueue.items,
        ∀ time, s.lastWakeUp owner = some time → t.targetTime < time
  | _ => False

/-- Every queue has a loop, which has been woken for what is pending there. -/
structure Served (s : MessageLoopTaskQueues α) : Prop where
  loops : HasLoops s
  covered : ∀ q, Covered s q

theorem served_initial : Served (initial : MessageLoopTaskQueues α) where
  loops := by simp [HasLoops]
  covered := by simp [Covered, pending]

theorem WakesForNext.served (woken : WakesForNext s q s') (loops : HasLoops s)
    (others : ∀ q', q' ≠ q → Covered s q') : Served s' :=
  ⟨woken.hasLoops loops, fun q' => woken.covered loops (others q')⟩

theorem Served.createMessageLoop (served : Served s) {id : TaskQueueId}
    (h : s.createMessageLoop = .ok (id, s')) : Served s' := by
  obtain ⟨rfl, rfl⟩ := createMessageLoop_inv h
  have find : ∀ q, (s.createTaskQueue.2.setEntry s.taskQueueIdCounter
      { TaskQueueEntry.create s.taskQueueIdCounter with wakeable := some ⟨[]⟩ }).find q =
      if s.taskQueueIdCounter = q then
        some { TaskQueueEntry.create s.taskQueueIdCounter with wakeable := some ⟨[]⟩ }
      else s.find q := by
    intro q
    rw [find_setEntry, find_createTaskQueue]
    split <;> rfl
  constructor
  · intro q e found
    rw [find] at found
    split at found
    · cases found
      simp
    · exact served.loops q e found
  · intro q p member
    obtain ⟨e, found, unsubsumed, among, e', found', offered⟩ := mem_pending.mp member
    rw [find] at found found'
    split at found'
    · -- the new source is empty
      cases found'
      cases offered
    · split at found
      · cases found
        rename_i old eq
        rcases among with same | owned
        · exact absurd (eq.trans same.symm) old
        · simp [TaskQueueEntry.create] at owned
      · rename_i ne
        have lastWakeUp : (s.createTaskQueue.2.setEntry s.taskQueueIdCounter
            { TaskQueueEntry.create s.taskQueueIdCounter with wakeable := some ⟨[]⟩ }).lastWakeUp q =
            s.lastWakeUp q := by
          simp [MessageLoopTaskQueues.lastWakeUp, find, ne]
        rw [lastWakeUp]
        exact served.covered q p (mem_pending.mpr ⟨e, found, unsubsumed, among, e', found', offered⟩)

theorem Served.registerTask (served : Served s) (wf : WellFormed s) {task : α}
    {targetTime : TimePoint} {grade : TaskSourceGrade}
    (h : s.registerTask q task targetTime grade = .ok s') : Served s' := by
  obtain ⟨e, found, woken⟩ := registerTask_inv wf h
  refine woken.served ?_ fun q' ne => ?_
  · exact hasLoops_setEntry served.loops (served.loops q e found)
  · refine (served.covered q').of_subset (fun p member => ?_) (lastWakeUp_setSource found _ q')
    exact pending_setSource_of_ne_loop wf found ne member

theorem Served.getNextTaskToRun (served : Served s) (wf : WellFormed s) {fromTime : TimePoint}
    {task : Option α} (h : s.getNextTaskToRun q fromTime = .ok (task, s')) : Served s' := by
  cases (getNextTaskToRun_inv wf h).2 with
  | idle => exact served
  | early next _ wakes =>
    exact (WakesForNext.wake next wakes).served served.loops fun q' _ => served.covered q'
  | @due s₁ top e source next _ wakes found removes =>
    -- the wake-up covers everything, and the pop only takes away
    have woken : Served s₁ :=
      (WakesForNext.wake next wakes).served served.loops fun q' _ => served.covered q'
    refine ⟨hasLoops_setEntry woken.loops (woken.loops _ e found), fun q' => ?_⟩
    refine (woken.covered q').of_subset (fun p member => ?_) (lastWakeUp_setSource found _ q')
    refine pending_setSource_of_subset found (fun t offered => ?_) member
    exact removes.pending.mem_iff.mpr (List.mem_cons_of_mem _ offered)

theorem Served.merge (served : Served s) (wf : WellFormed s) {success : Bool}
    (h : s.merge owner subsumed = .ok (success, s')) : Served s' := by
  cases merge_inv wf h with
  | same => exact served
  | already => exact served
  | refused => exact served
  | @merged e e' _ mergeable woken =>
    refine woken.served ?_ fun q ne => ?_
    · exact hasLoops_setEntry
        (hasLoops_setEntry served.loops (served.loops owner e mergeable.ownerFound))
        (served.loops subsumed e' mergeable.subsumedFound)
    · have find := find_mergedState s owner subsumed e e' q
      by_cases isSubsumed : q = subsumed
      · rw [if_pos isSubsumed] at find
        exact covered_of_find find rfl
      · rw [if_neg isSubsumed, if_neg ne] at find
        exact (served.covered q).of_sameSources mergeable.sameSources find

theorem Served.unmerge (served : Served s) (wf : WellFormed s) {success : Bool}
    (h : s.unmerge owner subsumed = .ok (success, s')) : Served s' := by
  cases unmerge_inv wf h with
  | refused => exact served
  | @unmerged e e' s₁ _ unmergeable wokenOwner wokenSubsumed =>
    have loops : HasLoops (unmergedState s owner subsumed e e') :=
      hasLoops_setEntry
        (hasLoops_setEntry served.loops (served.loops subsumed e' unmergeable.subsumedFound))
        (served.loops owner e unmergeable.ownerFound)
    -- the first wake-up covers the owner; every queue but the two is as it was
    refine wokenSubsumed.served (wokenOwner.hasLoops loops) fun q notSubsumed => ?_
    refine wokenOwner.covered loops fun notOwner => ?_
    have find := find_unmergedState s owner subsumed e e' q
    rw [if_neg notOwner, if_neg notSubsumed] at find
    exact (served.covered q).of_sameSources unmergeable.sameSources find

theorem Served.pauseSecondarySource (served : Served s) (h : s.pauseSecondarySource q = .ok s') :
    Served s' := by
  obtain ⟨e, source, found, paused, rfl⟩ := pauseSecondarySource_inv h
  obtain ⟨primary, -, requests, -⟩ := pauseSecondary_inv paused
  refine ⟨hasLoops_setEntry served.loops (served.loops q e found), fun q' => ?_⟩
  refine (served.covered q').of_subset (fun p member => ?_) (lastWakeUp_setSource found _ q')
  refine pending_setSource_of_subset found (fun t offered => ?_) member
  have nonneg := e.taskSource.pauseRequestsNonneg
  rw [TaskSource.mem_pendingTasks, primary, requests] at offered
  rw [TaskSource.mem_pendingTasks]
  rcases offered with offered | ⟨zero, -⟩
  · exact .inl offered
  · omega

theorem Served.resume_unsubsumed (served : Served s) (wf : WellFormed s)
    (found : s.find q = some e) (unsubsumed : e.subsumedBy = none)
    (h : s.resumeSecondarySource q = .ok s') : Served s' := by
  obtain ⟨e', source, found', -, woken⟩ := resumeSecondarySource_inv wf h
  rw [found] at found'
  cases found'
  refine woken.served (hasLoops_setEntry served.loops (served.loops q e found)) fun q' ne => ?_
  refine (served.covered q').of_subset (fun p member => ?_) (lastWakeUp_setSource found _ q')
  refine pending_setSource_of_ne_loop wf found ?_ member
  rw [unsubsumed]
  exact ne

theorem resume_subsumed (wf : WellFormed s) (found : s.find q = some e)
    (subsumed : e.subsumedBy = some owner) (h : s.resumeSecondarySource q = .ok s') :
    ∃ source, e.taskSource.resumeSecondary = .ok source ∧
      s' = s.setEntry q { e with taskSource := source } := by
  obtain ⟨e', source, found', resumed, woken⟩ := resumeSecondarySource_inv wf h
  rw [found] at found'
  cases found'
  refine ⟨source, resumed, ?_⟩
  cases woken with
  | idle => rfl
  | wake next _ =>
    have none := pending_of_subsumed (find_setEntry_self s q { e with taskSource := source }) subsumed
    exact absurd (none ▸ next.mem) List.not_mem_nil

/-- What is pending at the owner after the resumption of a queue it has subsumed: nothing new,
    unless it is a secondary task whose pause has ended. -/
theorem mem_pending_resume (found : s.find q = some e) (resumed : e.taskSource.resumeSecondary = .ok source)
    (member : p ∈ (s.setEntry q { e with taskSource := source }).pending q') :
    p ∈ s.pending q' ∨ p.taskQueueId = q ∧ e.taskSource.secondaryPauseRequests = 1 ∧
      p.task ∈ e.taskSource.secondaryTaskQueue.items := by
  obtain ⟨primary, secondary, requests, -⟩ := resumeSecondary_inv resumed
  obtain ⟨f, foundF, unsubsumed, among, held⟩ := (mem_pending_setSource found).mp member
  by_cases eq : p.taskQueueId = q
  · rw [if_pos eq, TaskSource.mem_pendingTasks, primary, secondary, requests] at held
    rcases held with held | ⟨zero, held⟩
    · refine .inl (mem_pending.mpr ⟨f, foundF, unsubsumed, among, e, eq ▸ found, ?_⟩)
      exact TaskSource.mem_pendingTasks.mpr (.inl held)
    · exact .inr ⟨eq, by omega, held⟩
  · rw [if_neg eq] at held
    exact .inl (mem_pending.mpr ⟨f, foundF, unsubsumed, among, held⟩)

/-- Resuming a subsumed queue is harmless exactly when the owner's loop has already been woken
    for what becomes pending. -/
theorem Served.resume_subsumed_iff (served : Served s) (wf : WellFormed s)
    (found : s.find q = some e) (subsumed : e.subsumedBy = some owner) (h : s.resumeSecondarySource q = .ok s') :
    (∀ q', Covered s' q') ↔ ¬ MissesOwner s (.resumeSecondarySource q) := by
  obtain ⟨source, resumed, rfl⟩ := resume_subsumed wf found subsumed h
  obtain ⟨primary, secondary, requests, -⟩ := resumeSecondary_inv resumed
  obtain ⟨ownerEntry, ownerFound, owned⟩ := wf.owned_of_subsumed found subsumed
  constructor
  · rintro covered ⟨f, owner', foundF, subsumedF, one, t, held, missed⟩
    rw [found] at foundF
    cases foundF
    rw [subsumed] at subsumedF
    cases subsumedF
    have member : ⟨q, t⟩ ∈ (s.setEntry q { e with taskSource := source }).pending owner := by
      refine (mem_pending_setSource found).mpr
        ⟨ownerEntry, ownerFound, wf.owner_unsubsumed ownerFound owned, .inr owned, ?_⟩
      rw [if_pos rfl, TaskSource.mem_pendingTasks, secondary, requests, one]
      exact .inr ⟨rfl, held⟩
    obtain ⟨time, woken, le⟩ := covered owner _ member
    rw [lastWakeUp_setSource found] at woken
    exact absurd (missed time woken) (not_lt.mpr le)
  · intro notMissed q' p member
    rw [lastWakeUp_setSource found]
    by_cases isOwner : q' = owner
    · subst isOwner
      rcases mem_pending_resume found resumed member with old | ⟨-, one, held⟩
      · exact served.covered q' p old
      · by_contra uncovered
        refine notMissed ⟨e, q', found, subsumed, one, p.task, held, fun time woken => ?_⟩
        exact lt_of_not_ge fun le => uncovered ⟨time, woken, le⟩
    · -- only the owner's loop sees the tasks of `q`
      refine served.covered q' p (pending_setSource_of_ne_loop wf found ?_ member)
      rw [subsumed]
      exact isOwner

theorem Served.setObservers (served : Served s) (found : s.find q = some e)
    (observers : Std.TreeMap Int α) : Served (s.setEntry q { e with taskObservers := observers }) := by
  refine ⟨hasLoops_setEntry served.loops (served.loops q e found), fun q' => ?_⟩
  have same : SameCore s (s.setEntry q { e with taskObservers := observers }) := by
    refine ⟨rfl, rfl, fun q' => ?_⟩
    by_cases eq : q = q'
    · subst eq
      simp [found]
    · simp [eq]
  refine (served.covered q').of_subset (fun p member => same.pending q' ▸ member) ?_
  by_cases eq : q = q'
  · subst eq
    simp [lastWakeUp, found]
  · simp [lastWakeUp, eq]

theorem Served.covered_iff {op : Op α} (served : Served s') (notMissed : ¬ MissesOwner s op) :
    HasLoops s' ∧ ((∀ q, Covered s' q) ↔ ¬ MissesOwner s op) :=
  ⟨served.loops, iff_of_true served.covered notMissed⟩

theorem step_covered_iff {op : Op α} {out : Answer α} (served : Served s) (wf : WellFormed s)
    (ofLoops : op.OfLoops) (h : s.step op = .ok (out, s')) :
    HasLoops s' ∧ ((∀ q, Covered s' q) ↔ ¬ MissesOwner s op) := by
  cases op with
  -- loops create their queues together with their wakeables, and dispose of none
  | createTaskQueue => exact ofLoops.elim
  | setWakeable q => exact ofLoops.elim
  | dispose q => exact ofLoops.elim
  | disposeTasks q => exact ofLoops.elim
  | createMessageLoop =>
    obtain ⟨⟨id, s₁⟩, created, h⟩ := bind_eq_ok.mp h
    cases h
    exact (served.createMessageLoop created).covered_iff nofun
  | registerTask q task targetTime grade =>
    obtain ⟨s₁, registered, h⟩ := bind_eq_ok.mp h
    cases h
    exact (served.registerTask wf registered).covered_iff nofun
  | getNextTaskToRun q fromTime =>
    obtain ⟨⟨task, s₁⟩, returned, h⟩ := bind_eq_ok.mp h
    cases h
    exact (served.getNextTaskToRun wf returned).covered_iff nofun
  | merge owner subsumed =>
    obtain ⟨⟨success, s₁⟩, returned, h⟩ := bind_eq_ok.mp h
    cases h
    exact (served.merge wf returned).covered_iff nofun
  | unmerge owner subsumed =>
    obtain ⟨⟨success, s₁⟩, returned, h⟩ := bind_eq_ok.mp h
    cases h
    exact (served.unmerge wf returned).covered_iff nofun
  | pauseSecondarySource q =>
    obtain ⟨s₁, paused, h⟩ := bind_eq_ok.mp h
    cases h
    exact (served.pauseSecondarySource paused).covered_iff nofun
  | addTaskObserver q key callback =>
    obtain ⟨s₁, added, h⟩ := bind_eq_ok.mp h
    cases h
    obtain ⟨e, found, rfl⟩ := addTaskObserver_inv added
    exact (served.setObservers found _).covered_iff nofun
  | removeTaskObserver q key =>
    obtain ⟨s₁, removed, h⟩ := bind_eq_ok.mp h
    cases h
    obtain ⟨e, found, rfl⟩ := removeTaskObserver_inv removed
    exact (served.setObservers found _).covered_iff nofun
  | resumeSecondarySource q =>
    obtain ⟨s₁, resumed, h⟩ := bind_eq_ok.mp h
    cases h
    obtain ⟨e, source, found, -, woken⟩ := resumeSecondarySource_inv wf resumed
    have loops := woken.hasLoops (hasLoops_setEntry served.loops (served.loops q e found))
    -- only a subsumed queue asks the wrong loop whether there is something to do
    cases subsumed : e.subsumedBy with
    | none =>
      refine (served.resume_unsubsumed wf found subsumed resumed).covered_iff ?_
      rintro ⟨f, owner, foundF, subsumedF, -⟩
      rw [found] at foundF
      cases foundF
      rw [subsumed] at subsumedF
      cases subsumedF
    | some owner =>
      exact ⟨loops, served.resume_subsumed_iff wf found subsumed resumed⟩

def WakesOwner (s : MessageLoopTaskQueues α) (op : Op α) : Prop := op.OfLoops ∧ ¬ MissesOwner s op

theorem runs_served {log : List (Op α × Answer α)} (runs : Runs step WakesOwner initial log s) :
    Served s := by
  induction runs with
  | start => exact served_initial
  | next before met stepped ih =>
    obtain ⟨loops, covered⟩ := step_covered_iff ih (runs_wellFormed before) met.1 stepped
    exact ⟨loops, covered.mpr met.2⟩

/-- In every run of calls that forget no owner, no wake-up is lost; and the next call loses one
    exactly when it does forget an owner. -/
theorem noLostWakeUp_iff_not_missesOwner {log : List (Op α × Answer α)}
    (runs : Runs step WakesOwner initial log s) :
    NoLostWakeUp s ∧ ∀ op out s', op.OfLoops → s.step op = .ok (out, s') →
      (NoLostWakeUp s' ↔ ¬ MissesOwner s op) := by
  have wf := runs_wellFormed runs
  have served := runs_served runs
  refine ⟨(noLostWakeUp_iff_covered wf).mpr served.covered, fun op out s' ofLoops stepped => ?_⟩
  rw [noLostWakeUp_iff_covered (step_wellFormed wf stepped)]
  exact (step_covered_iff served wf ofLoops stepped).2

/-- A task registered on the secondary heap of a subsumed queue while that heap is paused. -/
def pausedSubsumed : List (Op Nat) :=
  [.createMessageLoop, .createMessageLoop, .merge 0 1, .pauseSecondarySource 1,
    .registerTask 1 10 5 .dartEventLoop]

theorem noLostWakeUp_iff_not_missesOwner_pausedSubsumed :
    ∃ log s s', run step initial pausedSubsumed = .ok (log, s) ∧ NoLostWakeUp s ∧
      s.step (.resumeSecondarySource 1) = .ok (.none, s') ∧ ¬ NoLostWakeUp s' := by
  have returned : (run step initial pausedSubsumed).isOk = true := by decide
  obtain ⟨⟨log, s⟩, ran⟩ := exists_ok_of_isOk returned
  have guarded : ∀ s, ∀ op ∈ pausedSubsumed, WakesOwner s op := by
    intro s op member
    simp only [pausedSubsumed, List.mem_cons, List.not_mem_nil, or_false] at member
    rcases member with rfl | rfl | rfl | rfl | rfl <;> exact ⟨trivial, nofun⟩
  have resumes : (run step initial pausedSubsumed).map (fun r => (r.2.resumeSecondarySource 1).isOk) =
      .ok true := by decide
  have unwoken : (run step initial pausedSubsumed).map (fun r => r.2.lastWakeUp 0) =
      .ok none := by decide
  have entry : (run step initial pausedSubsumed).map (fun r => (r.2.find 1).map (fun e =>
      (e.subsumedBy, e.taskSource.secondaryPauseRequests,
        e.taskSource.secondaryTaskQueue.items.isEmpty))) = .ok (some (some 0, 1, false)) := by decide
  rw [ran] at resumes unwoken entry
  simp only [Except.map, Except.ok.injEq, Option.map_eq_some_iff, Prod.mk.injEq] at resumes unwoken entry
  obtain ⟨e, found, subsumed, one, held⟩ := entry
  obtain ⟨s', resumed⟩ := exists_ok_of_isOk resumes
  obtain ⟨t, member⟩ := List.exists_mem_of_ne_nil _ (List.isEmpty_eq_false_iff.mp held)
  have stepped : s.step (.resumeSecondarySource 1) = .ok (.none, s') := by
    simp [step, resumed]
  obtain ⟨kept, lost⟩ := noLostWakeUp_iff_not_missesOwner (runs_of_run guarded ran)
  refine ⟨log, s, s', ran, kept, stepped, fun served => ?_⟩
  refine (lost (.resumeSecondarySource 1) _ _ trivial stepped).mp served ⟨e, 0, found, subsumed, one, t, member, ?_⟩
  simp [unwoken]

/-- Resuming the secondary source of a subsumed queue leaves its owner asleep. -/
theorem resumeSecondarySource_loses_wakeUp :
    ∃ (log : List (Op Nat × Answer Nat)) (s : MessageLoopTaskQueues Nat),
      Runs step (fun _ op => op.OfLoops) initial log s ∧ ¬ NoLostWakeUp s := by
  have returned :
      (run step initial (pausedSubsumed ++ [.resumeSecondarySource 1])).isOk = true := by decide
  obtain ⟨⟨log, s⟩, ran⟩ := exists_ok_of_isOk returned
  have ofLoops : ∀ op ∈ pausedSubsumed ++ [.resumeSecondarySource 1], op.OfLoops := by
    simp [pausedSubsumed, Op.OfLoops]
  refine ⟨log, s, runs_of_run (fun _ => ofLoops) ran, fun served => ?_⟩
  have facts : (run step initial (pausedSubsumed ++ [.resumeSecondarySource 1])).map (fun r =>
      ((r.2.find 0).map (·.subsumedBy), r.2.lastWakeUp 0, r.2.hasPendingTasks 0)) =
      .ok (some none, none, .ok true) := by decide
  rw [ran] at facts
  simp only [Except.map, Except.ok.injEq, Option.map_eq_some_iff, Prod.mk.injEq] at facts
  obtain ⟨⟨e, found, unsubsumed⟩, unwoken, has⟩ := facts
  obtain ⟨time, woken, -⟩ := served 0 e found unsubsumed has
  rw [unwoken] at woken
  cases woken

end FlutterZero.Fml.MessageLoopTaskQueues
