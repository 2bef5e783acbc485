import FlutterZero.Fml.RasterThreadMerger
import FlutterZero.Fml.TaskQueues.Ownership

/-! # Leases and the state of the task queues

The shared merger computes whether the threads are merged from the leases, and
the task queues record the same fact as an ownership.  `Agrees` is the invariant
that the two are the same; every call of a merger keeps it, and the only
`FML_CHECK` a call can fail is the one on a lease that has already run out
(`LeaseRunOut`).
-/

namespace FlutterZero.Fml

open FlutterZero.Lib

namespace SharedThreadMerger

variable {m : SharedThreadMerger} {caller : RasterThreadMergerId}

/-! ## Leases -/

theorem isMergedUnSafe_iff :
    m.isMergedUnSafe = true ↔ ∃ (caller : RasterThreadMergerId) (leaseTerm : Nat),
      m.leaseTermByCaller[caller]? = some leaseTerm ∧ 0 < leaseTerm := by
  simp only [isMergedUnSafe, isAllLeaseTermsZeroUnSafe, Bool.not_eq_true', List.all_eq_false,
    Prod.exists, Std.TreeMap.mem_toList_iff_getElem?_eq_some, beq_iff_eq, Nat.pos_iff_ne_zero]

theorem isAllLeaseTermsZeroUnSafe_eq (m : SharedThreadMerger) :
    m.isAllLeaseTermsZeroUnSafe = !m.isMergedUnSafe := by
  simp [isMergedUnSafe]

theorem isMergedUnSafe_setLease (m : SharedThreadMerger) (caller : RasterThreadMergerId)
    {leaseTerm : Nat} (positive : 0 < leaseTerm) : (m.setLease caller leaseTerm).isMergedUnSafe = true :=
  isMergedUnSafe_iff.mpr ⟨caller, leaseTerm, Std.TreeMap.getElem?_insert_self, positive⟩

theorem isMergedUnSafe_of_isEmpty (none : m.leaseTermByCaller.isEmpty = true) :
    m.isMergedUnSafe = false := by
  rw [← Bool.not_eq_true, isMergedUnSafe_iff]
  rintro ⟨caller, leaseTerm, recorded, -⟩
  rw [Std.TreeMap.getElem?_of_isEmpty none] at recorded
  cases recorded

end SharedThreadMerger

namespace MessageLoopTaskQueues

variable {α : Type} {s s' : MessageLoopTaskQueues α} {owner subsumed q : TaskQueueId}

/-! ## A pair of queues that is merged or not -/

/-- `owner` is not subsumed, and `subsumed` owns nothing and is subsumed by `owner` or by nobody. -/
structure IsPair (s : MessageLoopTaskQueues α) (owner subsumed : TaskQueueId) (merged : Bool) : Prop where
  distinct : owner ≠ subsumed
  ownerEntry : ∃ e, s.find owner = some e ∧ e.subsumedBy = none
  subsumedEntry : ∃ e, s.find subsumed = some e ∧ (∀ q, q ∉ e.ownerOf) ∧
    e.subsumedBy = if merged then some owner else none

variable {merged : Bool}

theorem IsPair.owned_iff (wf : WellFormed s) (pair : IsPair s owner subsumed merged)
    {e : TaskQueueEntry α} (found : s.find owner = some e) : subsumed ∈ e.ownerOf ↔ merged = true := by
  obtain ⟨f, foundF, -, by_owner⟩ := pair.subsumedEntry
  constructor
  · intro owned
    rw [wf.subsumedBy_eq found owned foundF] at by_owner
    cases merged with
    | true => rfl
    | false => cases by_owner
  · intro isMerged
    rw [isMerged, if_pos rfl] at by_owner
    obtain ⟨e', found', owned⟩ := wf.owned_of_subsumed foundF by_owner
    rw [found] at found'
    cases found'
    exact owned

theorem IsPair.owns (wf : WellFormed s) (pair : IsPair s owner subsumed merged) :
    s.owns (some owner) (some subsumed) = .ok merged := by
  obtain ⟨e, found, -⟩ := pair.ownerEntry
  exact owns_eq_ok.mpr ⟨e, found, (pair.owned_iff wf found).symm⟩

theorem IsPair.of_sameShape (pair : IsPair s owner subsumed merged)
    (same : SameShape s s') : IsPair s' owner subsumed merged := by
  obtain ⟨distinct, ⟨e, found, unsubsumed⟩, f, foundF, ownsNone, by_owner⟩ := pair
  obtain ⟨e', found', shaped⟩ := same.symm.find found
  obtain ⟨f', foundF', shapedF⟩ := same.symm.find foundF
  simp only [shape, Prod.mk.injEq] at shaped shapedF
  refine ⟨distinct, ⟨e', found', shaped.2.1 ▸ unsubsumed⟩, f', foundF', ?_, shapedF.2.1 ▸ by_owner⟩
  rw [← shapedF.1]
  exact ownsNone

theorem IsPair.merge (wf : WellFormed s) (pair : IsPair s owner subsumed false) :
    ∃ s', s.merge owner subsumed = .ok (true, s') ∧ WellFormed s' ∧ IsPair s' owner subsumed true := by
  obtain ⟨e, found, unsubsumed⟩ := pair.ownerEntry
  obtain ⟨f, foundF, ownsNone, by_owner⟩ := pair.subsumedEntry
  have notOwned : subsumed ∉ e.ownerOf := fun owned => by simpa using (pair.owned_iff wf found).mp owned
  obtain ⟨success, s', returned, effect⟩ := merge_spec wf found foundF
  have stepped : s.step (.merge owner subsumed) = .ok (.merged success, s') := by
    simp [step, returned]
  have wf' := step_wellFormed wf stepped
  cases effect with
  | same eq => exact absurd eq pair.distinct
  | already found' owned =>
    rw [found] at found'
    cases found'
    exact absurd owned notOwned
  | refused _ found' foundF' _ why =>
    rw [found] at found'
    rw [foundF] at foundF'
    cases found'
    cases foundF'
    rcases why with subsumedOwner | ⟨q, owned⟩ | subsumedAlready
    · exact absurd unsubsumed subsumedOwner
    · exact absurd owned (ownsNone q)
    · exact absurd by_owner subsumedAlready
  | merged mergeable woken =>
    refine ⟨s', returned, wf', IsPair.of_sameShape ⟨pair.distinct, ?_, ?_⟩ woken.sameCore.sameShape⟩
    · exact ⟨_, (find_mergedState _ _ _ _ _ _).trans ((if_neg pair.distinct).trans (if_pos rfl)),
        mergeable.ownerUnsubsumed⟩
    · refine ⟨_, (find_mergedState _ _ _ _ _ _).trans (if_pos rfl), ?_, rfl⟩
      have foundF' := mergeable.subsumedFound
      rw [foundF] at foundF'
      cases foundF'
      exact ownsNone

theorem IsPair.unmerge (wf : WellFormed s) (pair : IsPair s owner subsumed true) :
    ∃ s', s.unmerge owner subsumed = .ok (true, s') ∧ WellFormed s' ∧ IsPair s' owner subsumed false := by
  obtain ⟨e, found, unsubsumed⟩ := pair.ownerEntry
  obtain ⟨f, foundF, ownsNone, -⟩ := pair.subsumedEntry
  have owned : subsumed ∈ e.ownerOf := (pair.owned_iff wf found).mpr rfl
  obtain ⟨success, s', returned, effect⟩ := unmerge_spec wf found foundF
  have stepped : s.step (.unmerge owner subsumed) = .ok (.merged success, s') := by
    simp [step, returned]
  have wf' := step_wellFormed wf stepped
  cases effect with
  | refused found' notOwned =>
    rw [found] at found'
    cases found'
    exact absurd owned notOwned
  | unmerged unmergeable woken woken' =>
    have same := woken.sameCore.sameShape.trans woken'.sameCore.sameShape
    refine ⟨s', returned, wf', IsPair.of_sameShape ⟨pair.distinct, ?_, ?_⟩ same⟩
    · exact ⟨_, (find_unmergedState _ _ _ _ _ _).trans (if_pos rfl), unmergeable.ownerUnsubsumed⟩
    · refine ⟨_, (find_unmergedState _ _ _ _ _ _).trans
        ((if_neg (Ne.symm pair.distinct)).trans (if_pos rfl)), ?_, rfl⟩
      have foundF' := unmergeable.subsumedFound
      rw [foundF] at foundF'
      cases foundF'
      exact ownsNone

/-- The call neither merges, un-merges nor disposes of `q`. -/
def Op.Leaves (q : TaskQueueId) : Op α → Prop
  | .merge owner subsumed => owner ≠ q ∧ subsumed ≠ q
  | .unmerge owner subsumed => owner ≠ q ∧ subsumed ≠ q
  | .dispose queueId => queueId ≠ q
  | _ => True

instance (q : TaskQueueId) : DecidablePred (Op.Leaves (α := α) q)
  | .merge owner subsumed => inferInstanceAs (Decidable (owner ≠ q ∧ subsumed ≠ q))
  | .unmerge owner subsumed => inferInstanceAs (Decidable (owner ≠ q ∧ subsumed ≠ q))
  | .dispose queueId => inferInstanceAs (Decidable (queueId ≠ q))
  | .createTaskQueue => inferInstanceAs (Decidable True)
  | .createMessageLoop => inferInstanceAs (Decidable True)
  | .setWakeable _ => inferInstanceAs (Decidable True)
  | .registerTask _ _ _ _ => inferInstanceAs (Decidable True)
  | .getNextTaskToRun _ _ => inferInstanceAs (Decidable True)
  | .pauseSecondarySource _ => inferInstanceAs (Decidable True)
  | .resumeSecondarySource _ => inferInstanceAs (Decidable True)
  | .addTaskObserver _ _ _ => inferInstanceAs (Decidable True)
  | .removeTaskObserver _ _ => inferInstanceAs (Decidable True)
  | .disposeTasks _ => inferInstanceAs (Decidable True)

theorem step_links {op : Op α} {out : Answer α} (wf : WellFormed s) (h : s.step op = .ok (out, s'))
    {e : TaskQueueEntry α} (found : s.find q = some e) (leaves : op.Leaves q)
    (leavesOwner : ∀ owner, e.subsumedBy = some owner → op.Leaves owner) :
    ∃ e', s'.find q = some e' ∧ e'.ownerOf = e.ownerOf ∧ e'.subsumedBy = e.subsumedBy := by
  have linked : ∀ {s₁ : MessageLoopTaskQueues α}, s₁.find q = some e → SameShape s₁ s' →
      ∃ e', s'.find q = some e' ∧ e'.ownerOf = e.ownerOf ∧ e'.subsumedBy = e.subsumedBy := by
    intro s₁ found₁ same
    obtain ⟨e', found', shaped⟩ := same.symm.find found₁
    simp only [shape, Prod.mk.injEq] at shaped
    exact ⟨e', found', shaped.1.symm, shaped.2.1.symm⟩
  cases step_shapeEffect wf h with
  | kept same => exact linked found same
  | created same =>
    refine linked ?_ same
    rw [find_createTaskQueue, if_neg (Nat.ne_of_gt (wf.fresh found))]
    exact found
  | merged mergeable same =>
    refine linked ?_ same
    rw [find_mergedState, if_neg (Ne.symm leaves.2), if_neg (Ne.symm leaves.1)]
    exact found
  | unmerged unmergeable same =>
    refine linked ?_ same
    rw [find_unmergedState, if_neg (Ne.symm leaves.1), if_neg (Ne.symm leaves.2)]
    exact found
  | @disposed q' _ returned =>
    obtain ⟨f, foundF, -, -, erased⟩ := dispose_inv returned
    have notOwned : q ∉ f.ownerOf := by
      intro owned
      exact leavesOwner q' (wf.subsumedBy_eq foundF owned found) rfl
    refine ⟨e, ?_, rfl, rfl⟩
    rw [erased, if_neg]
    · exact found
    · rintro (eq | owned)
      · exact leaves eq.symm
      · exact notOwned owned

theorem IsPair.step {op : Op α} {out : Answer α} (wf : WellFormed s)
    (pair : IsPair s owner subsumed merged) (leavesOwner : op.Leaves owner)
    (leavesSubsumed : op.Leaves subsumed) (h : s.step op = .ok (out, s')) : IsPair s' owner subsumed merged := by
  obtain ⟨distinct, ⟨e, found, unsubsumed⟩, f, foundF, ownsNone, by_owner⟩ := pair
  have ownerOnly : ∀ q, f.subsumedBy = some q → op.Leaves q := by
    intro q by_q
    rw [by_q] at by_owner
    cases merged with
    | true =>
      cases by_owner
      exact leavesOwner
    | false => cases by_owner
  obtain ⟨e', found', -, subsumedBy⟩ := step_links wf h found leavesOwner (by simp [unsubsumed])
  obtain ⟨f', foundF', ownerOf, subsumedByF⟩ := step_links wf h foundF leavesSubsumed ownerOnly
  exact ⟨distinct, ⟨e', found', subsumedBy ▸ unsubsumed⟩, f', foundF', ownerOf ▸ ownsNone,
    subsumedByF ▸ by_owner⟩

end MessageLoopTaskQueues

namespace SharedThreadMerger

variable {α : Type} {m : SharedThreadMerger} {owner subsumed : TaskQueueId}
  {caller : RasterThreadMergerId} {taskQueues : MessageLoopTaskQueues α}

/-! ## The shared merger -/

/-- The leases of the merger for `owner` and `subsumed` and the task queues say the same about the
    two threads. -/
structure InStep (owner subsumed : TaskQueueId) (m : SharedThreadMerger)
    (taskQueues : MessageLoopTaskQueues α) : Prop where
  owner_eq : m.owner = owner
  subsumed_eq : m.subsumed = subsumed
  wf : MessageLoopTaskQueues.WellFormed taskQueues
  pair : MessageLoopTaskQueues.IsPair taskQueues owner subsumed m.isMergedUnSafe

theorem mergeWithLease_spec (caller : RasterThreadMergerId) {leaseTerm : Nat}
    (positive : 0 < leaseTerm) (inStep : InStep owner subsumed m taskQueues)
    (apart : m.isMergedUnSafe = false) :
    ∃ m' taskQueues', m.mergeWithLease taskQueues caller leaseTerm = .ok (true, m', taskQueues') ∧
      InStep owner subsumed m' taskQueues' := by
  have pair := inStep.pair
  rw [apart] at pair
  obtain ⟨taskQueues', merged, wf', pair'⟩ := pair.merge inStep.wf
  have isMerged := m.isMergedUnSafe_setLease caller positive
  refine ⟨m.setLease caller leaseTerm, taskQueues', ?_, inStep.owner_eq, inStep.subsumed_eq, wf', ?_⟩
  · simp [mergeWithLease, positive, apart, inStep.owner_eq, inStep.subsumed_eq, merged]
  · rw [isMerged]
    exact pair'

theorem unMergeNowUnSafe_spec (owner_eq : m.owner = owner) (subsumed_eq : m.subsumed = subsumed)
    (wf : MessageLoopTaskQueues.WellFormed taskQueues)
    (pair : MessageLoopTaskQueues.IsPair taskQueues owner subsumed true)
    (runOut : m.isMergedUnSafe = false) :
    ∃ taskQueues', m.unMergeNowUnSafe taskQueues = .ok (true, taskQueues') ∧
      InStep owner subsumed m taskQueues' := by
  obtain ⟨taskQueues', unmerged, wf', pair'⟩ := pair.unmerge wf
  refine ⟨taskQueues', ?_, owner_eq, subsumed_eq, wf', runOut ▸ pair'⟩
  simp [unMergeNowUnSafe, isAllLeaseTermsZeroUnSafe_eq, runOut, owner_eq, subsumed_eq, unmerged]

theorem unMergeNowIfLastOne_spec (caller : RasterThreadMergerId)
    (inStep : InStep owner subsumed m taskQueues) (merged : m.isMergedUnSafe = true) :
    ∃ m' taskQueues', m.unMergeNowIfLastOne taskQueues caller = .ok (true, m', taskQueues') ∧
      InStep owner subsumed m' taskQueues' := by
  have pair := inStep.pair
  rw [merged] at pair
  have owner_eq : (m.eraseLease caller).owner = owner := inStep.owner_eq
  have subsumed_eq : (m.eraseLease caller).subsumed = subsumed := inStep.subsumed_eq
  unfold unMergeNowIfLastOne
  simp only [isAllLeaseTermsZeroUnSafe_eq]
  -- an empty map has no lease left either, so the first half of the test decides nothing
  cases left : (m.eraseLease caller).isMergedUnSafe with
  | false =>
    obtain ⟨taskQueues', unmerged, inStep'⟩ :=
      unMergeNowUnSafe_spec owner_eq subsumed_eq inStep.wf pair left
    exact ⟨m.eraseLease caller, taskQueues', by simp [unmerged], inStep'⟩
  | true =>
    have nonempty : (m.eraseLease caller).leaseTermByCaller.isEmpty = false := by
      cases empty : (m.eraseLease caller).leaseTermByCaller.isEmpty with
      | false => rfl
      | true =>
        rw [isMergedUnSafe_of_isEmpty empty] at left
        cases left
    exact ⟨m.eraseLease caller, taskQueues, by simp [nonempty],
      owner_eq, subsumed_eq, inStep.wf, left ▸ pair⟩

theorem decrementRecord_spec (positive : m.leaseTermByCaller[caller]? ≠ some 0) :
    ∃ m', m.decrementRecord caller = .ok m' ∧ m'.owner = m.owner ∧ m'.subsumed = m.subsumed := by
  unfold decrementRecord
  cases lease : m.leaseTermByCaller[caller]? with
  | none => exact ⟨m, rfl, rfl, rfl⟩
  | some leaseTerm =>
    have isPositive : 0 < leaseTerm := by
      rw [lease] at positive
      exact Nat.pos_of_ne_zero fun zero => positive (congrArg some zero)
    exact ⟨m.setLease caller (leaseTerm - 1), by simp [isPositive], rfl, rfl⟩

theorem decrementLease_spec (inStep : InStep owner subsumed m taskQueues)
    (merged : m.isMergedUnSafe = true) (positive : m.leaseTermByCaller[caller]? ≠ some 0) :
    ∃ m' taskQueues', m.decrementLease taskQueues caller = .ok (!m'.isMergedUnSafe, m', taskQueues') ∧
      InStep owner subsumed m' taskQueues' := by
  have pair := inStep.pair
  rw [merged] at pair
  obtain ⟨m', decremented, sameOwner, sameSubsumed⟩ := decrementRecord_spec positive
  have owner_eq := sameOwner.trans inStep.owner_eq
  have subsumed_eq := sameSubsumed.trans inStep.subsumed_eq
  unfold decrementLease
  simp only [decremented, ok_bind, isAllLeaseTermsZeroUnSafe_eq]
  cases left : m'.isMergedUnSafe with
  | false =>
    obtain ⟨taskQueues', unmerged, inStep'⟩ :=
      unMergeNowUnSafe_spec owner_eq subsumed_eq inStep.wf pair left
    exact ⟨m', taskQueues', by simp [unmerged, left], inStep'⟩
  | true =>
    exact ⟨m', taskQueues, by simp [left], owner_eq, subsumed_eq, inStep.wf, left ▸ pair⟩

theorem decrementLease_runOut (runOut : m.leaseTermByCaller[caller]? = some 0) :
    m.decrementLease taskQueues caller = .error .check := by
  simp [decrementLease, decrementRecord, runOut]

theorem extendLeaseTo_spec (caller : RasterThreadMergerId) {leaseTerm : Nat}
    (positive : 0 < leaseTerm) (inStep : InStep owner subsumed m taskQueues) (merged : m.isMergedUnSafe = true) :
    ∃ m', m.extendLeaseTo caller leaseTerm = .ok m' ∧ InStep owner subsumed m' taskQueues := by
  have isMerged := m.isMergedUnSafe_setLease caller positive
  refine ⟨m.setLease caller leaseTerm, by simp [extendLeaseTo, positive, merged],
    inStep.owner_eq, inStep.subsumed_eq, inStep.wf, ?_⟩
  rw [isMerged, ← merged]
  exact inStep.pair

theorem InStep.setEnabled (inStep : InStep owner subsumed m taskQueues) {enabled : Bool} :
    InStep owner subsumed (m.setEnabledUnSafe enabled) taskQueues :=
  ⟨inStep.owner_eq, inStep.subsumed_eq, inStep.wf, inStep.pair⟩

end SharedThreadMerger

namespace Sharers

variable {α : Type} {s s' : Sharers α} {caller : RasterThreadMergerId}
  {platformQueueId gpuQueueId : TaskQueueId}

/-! ## The sharers -/

structure Agrees (platformQueueId gpuQueueId : TaskQueueId) (s : Sharers α) : Prop where
  platform_eq : s.platformQueueId = platformQueueId
  gpu_eq : s.gpuQueueId = gpuQueueId
  inStep : s.sharedMerger.InStep platformQueueId gpuQueueId s.taskQueues

/-- What the callers of the mergers keep to, and the others who call the task queues. -/
def Allowed (s : Sharers α) : Op α → Prop
  | .call _ (.mergeWithLease leaseTerm) => 0 < leaseTerm
  | .call _ (.extendLeaseTo leaseTerm) => 0 < leaseTerm ∧ s.isMerged = true
  | .call _ .unMergeNowIfLastOne => s.isMerged = true
  | .queues op => op.Leaves s.platformQueueId ∧ op.Leaves s.gpuQueueId
  | _ => True

instance (s : Sharers α) : DecidablePred s.Allowed
  | .call _ (.mergeWithLease leaseTerm) => inferInstanceAs (Decidable (0 < leaseTerm))
  | .call _ (.extendLeaseTo leaseTerm) =>
    inferInstanceAs (Decidable (0 < leaseTerm ∧ s.isMerged = true))
  | .call _ .unMergeNowIfLastOne => inferInstanceAs (Decidable (s.isMerged = true))
  | .call _ (.setMergeUnmergeCallback _) => inferInstanceAs (Decidable True)
  | .call _ .decrementLease => inferInstanceAs (Decidable True)
  | .call _ .enable => inferInstanceAs (Decidable True)
  | .call _ .disable => inferInstanceAs (Decidable True)
  | .queues op =>
    inferInstanceAs (Decidable (op.Leaves s.platformQueueId ∧ op.Leaves s.gpuQueueId))

def LeaseRunOut (s : Sharers α) : Op α → Prop
  | .call caller .decrementLease => s.isMerged = true ∧ s.isEnabled = true ∧
      s.sharedMerger.leaseTermByCaller[caller]? = some 0
  | _ => False

instance (s : Sharers α) : DecidablePred s.LeaseRunOut
  | .call caller .decrementLease =>
    inferInstanceAs (Decidable (s.isMerged = true ∧ s.isEnabled = true ∧
      s.sharedMerger.leaseTermByCaller[caller]? = some 0))
  | .call _ (.setMergeUnmergeCallback _) => inferInstanceAs (Decidable False)
  | .call _ (.mergeWithLease _) => inferInstanceAs (Decidable False)
  | .call _ .unMergeNowIfLastOne => inferInstanceAs (Decidable False)
  | .call _ (.extendLeaseTo _) => inferInstanceAs (Decidable False)
  | .call _ .enable => inferInstanceAs (Decidable False)
  | .call _ .disable => inferInstanceAs (Decidable False)
  | .queues _ => inferInstanceAs (Decidable False)

structure CallEffect (platformQueueId gpuQueueId : TaskQueueId) (s : Sharers α) (call : Call)
    (out : MergerAnswer) (s' : Sharers α) : Prop where
  agrees : Agrees platformQueueId gpuQueueId s'
  disabled : s.isEnabled = false → s'.isMerged = s.isMerged
  unmergedNow : out.status = some .unmergedNow ↔
    call = .decrementLease ∧ s.isMerged = true ∧ s'.isMerged = false

theorem Agrees.taskQueuesAreSame (agrees : Agrees platformQueueId gpuQueueId s) : s.taskQueuesAreSame = false := by
  have distinct := agrees.inStep.pair.distinct
  simp [Sharers.taskQueuesAreSame, agrees.platform_eq, agrees.gpu_eq, distinct]

theorem Agrees.isMerged_eq (agrees : Agrees platformQueueId gpuQueueId s) : s.isMerged = s.sharedMerger.isMergedUnSafe := by
  simp [isMerged, agrees.taskQueuesAreSame]

theorem Agrees.update (agrees : Agrees platformQueueId gpuQueueId s) {m : SharedThreadMerger}
    {taskQueues : MessageLoopTaskQueues α}
    (inStep : m.InStep platformQueueId gpuQueueId taskQueues) :
    Agrees platformQueueId gpuQueueId (s.update m taskQueues) :=
  ⟨agrees.platform_eq, agrees.gpu_eq, inStep⟩

variable {call : Call} {out : MergerAnswer}

theorem Agrees.quiet (agrees : Agrees platformQueueId gpuQueueId s')
    (same : s'.isMerged = s.isMerged) (status : out.status ≠ some .unmergedNow) :
    CallEffect platformQueueId gpuQueueId s call out s' := by
  refine ⟨agrees, fun _ => same, iff_of_false status ?_⟩
  rintro ⟨-, merged, apart⟩
  rw [same, merged] at apart
  cases apart

theorem Agrees.updated (agrees : Agrees platformQueueId gpuQueueId s')
    (enabled : s.isEnabled = true) (status : out.status ≠ some .unmergedNow)
    (other : call ≠ .decrementLease) : CallEffect platformQueueId gpuQueueId s call out s' := by
  refine ⟨agrees, fun disabled => ?_, iff_of_false status fun when => other when.1⟩
  rw [enabled] at disabled
  cases disabled

/-- Every call that keeps to what is allowed and does not decrement a lease that has run out
    returns. -/
theorem call_spec (agrees : Agrees platformQueueId gpuQueueId s) (allowed : s.Allowed (.call caller call))
    (notRunOut : ¬ s.LeaseRunOut (.call caller call)) :
    ∃ out s', s.call caller call = .ok (out, s') ∧ CallEffect platformQueueId gpuQueueId s call out s' := by
  have apartQueues := agrees.taskQueuesAreSame
  have isMerged_eq := agrees.isMerged_eq
  cases call with
  -- calls that neither merge nor unmerge
  | setMergeUnmergeCallback isSet =>
    obtain ⟨platform_eq, gpu_eq, inStep⟩ := agrees
    exact ⟨_, _, rfl, Agrees.quiet ⟨platform_eq, gpu_eq, inStep⟩ rfl nofun⟩
  | enable => exact ⟨_, _, rfl, (agrees.update agrees.inStep.setEnabled).quiet rfl nofun⟩
  | disable => exact ⟨_, _, rfl, (agrees.update agrees.inStep.setEnabled).quiet rfl nofun⟩
  | mergeWithLease leaseTerm =>
    have positive : 0 < leaseTerm := allowed
    unfold Sharers.call mergeWithLease
    simp only [apartQueues, Bool.false_eq_true, if_false, positive, decide_true, fmlDcheck_true, ok_bind]
    cases enabled : s.isEnabled with
    | false => exact ⟨.noop, s, rfl, agrees.quiet rfl nofun⟩
    | true =>
      cases merged : s.isMerged with
      | true => exact ⟨⟨none, false, true⟩, s, rfl, agrees.quiet rfl nofun⟩
      | false =>
        obtain ⟨m', taskQueues', returned, inStep⟩ :=
          SharedThreadMerger.mergeWithLease_spec caller positive agrees.inStep (isMerged_eq ▸ merged)
        refine ⟨_, s.update m' taskQueues', by simp [returned]; rfl, ?_⟩
        exact (agrees.update inStep).updated enabled nofun nofun
  | unMergeNowIfLastOne =>
    have merged : s.isMerged = true := allowed
    unfold Sharers.call unMergeNowIfLastOne
    simp only [apartQueues, Bool.false_eq_true, if_false]
    cases enabled : s.isEnabled with
    | false => exact ⟨.noop, s, rfl, agrees.quiet rfl nofun⟩
    | true =>
      obtain ⟨m', taskQueues', returned, inStep⟩ :=
        SharedThreadMerger.unMergeNowIfLastOne_spec caller agrees.inStep (isMerged_eq ▸ merged)
      refine ⟨_, s.update m' taskQueues', by simp [returned]; rfl, ?_⟩
      exact (agrees.update inStep).updated enabled nofun nofun
  | extendLeaseTo leaseTerm =>
    obtain ⟨positive, merged⟩ : 0 < leaseTerm ∧ s.isMerged = true := allowed
    unfold Sharers.call extendLeaseTo
    simp only [apartQueues, Bool.false_eq_true, if_false, positive, decide_true, fmlDcheck_true, ok_bind]
    cases enabled : s.isEnabled with
    | false => exact ⟨.noop, s, rfl, agrees.quiet rfl nofun⟩
    | true =>
      obtain ⟨m', returned, inStep⟩ :=
        SharedThreadMerger.extendLeaseTo_spec caller positive agrees.inStep (isMerged_eq ▸ merged)
      refine ⟨.noop, s.update m' s.taskQueues, by simp [returned], ?_⟩
      exact (agrees.update inStep).updated enabled nofun nofun
  | decrementLease =>
    unfold Sharers.call decrementLease
    simp only [apartQueues, Bool.false_eq_true, if_false]
    cases merged : s.isMerged with
    | false => exact ⟨_, s, rfl, agrees.quiet rfl nofun⟩
    | true =>
      cases enabled : s.isEnabled with
      | false => exact ⟨_, s, rfl, agrees.quiet rfl nofun⟩
      | true =>
        have positive : s.sharedMerger.leaseTermByCaller[caller]? ≠ some 0 :=
          fun zero => notRunOut ⟨merged, enabled, zero⟩
        obtain ⟨m', taskQueues', returned, inStep⟩ :=
          SharedThreadMerger.decrementLease_spec agrees.inStep (isMerged_eq ▸ merged) positive
        have agrees' := agrees.update inStep
        have isMerged_eq' := agrees'.isMerged_eq
        -- the merge ends with the last lease, and only then is `kUnmergedNow` answered
        cases left : m'.isMergedUnSafe with
        | false =>
          refine ⟨_, s.update m' taskQueues', by simp [returned, left]; rfl, agrees', ?_, ?_⟩
          · intro disabled
            rw [enabled] at disabled
            cases disabled
          · exact iff_of_true rfl ⟨rfl, merged, isMerged_eq'.trans left⟩
        | true =>
          refine ⟨_, s.update m' taskQueues', by simp [returned, left]; rfl, ?_⟩
          exact agrees'.quiet (isMerged_eq'.trans (left.trans merged.symm)) nofun

theorem call_runOut (agrees : Agrees platformQueueId gpuQueueId s) (runOut : s.LeaseRunOut (.call caller call)) :
    s.call caller call = .error .check := by
  cases call with
  | decrementLease =>
    obtain ⟨merged, enabled, zero⟩ := runOut
    simp [Sharers.call, decrementLease, agrees.taskQueuesAreSame, merged, enabled,
      SharedThreadMerger.decrementLease_runOut zero]
  | _ => exact runOut.elim

/-! ## Runs -/

theorem call_inv (agrees : Agrees platformQueueId gpuQueueId s)
    (allowed : s.Allowed (.call caller call)) (h : s.call caller call = .ok (out, s')) :
    CallEffect platformQueueId gpuQueueId s call out s' := by
  have notRunOut : ¬ s.LeaseRunOut (.call caller call) := by
    intro runOut
    rw [call_runOut agrees runOut] at h
    cases h
  obtain ⟨out', s'', returned, effect⟩ := call_spec agrees allowed notRunOut
  rw [h] at returned
  cases returned
  exact effect

theorem step_agrees {op : Op α} (agrees : Agrees platformQueueId gpuQueueId s) (allowed : s.Allowed op)
    (h : s.step op = .ok (out, s')) :
    Agrees platformQueueId gpuQueueId s' ∧ (s.isEnabled = false → s'.isMerged = s.isMerged) := by
  cases op with
  | call caller call =>
    have effect := call_inv agrees allowed h
    exact ⟨effect.agrees, effect.disabled⟩
  | queues op =>
    obtain ⟨⟨answer, taskQueues⟩, stepped, h⟩ := bind_eq_ok.mp h
    cases h
    obtain ⟨rfl, rfl, owner_eq, subsumed_eq, wf, pair⟩ := agrees
    have pair' := pair.step wf allowed.1 allowed.2 stepped
    have wf' := MessageLoopTaskQueues.step_wellFormed wf stepped
    exact ⟨⟨rfl, rfl, owner_eq, subsumed_eq, wf', pair'⟩, fun _ => rfl⟩

/-- Two queues that nobody has merged yet, in task queues that any calls have led to. -/
structure Start (platformQueueId gpuQueueId : TaskQueueId) (taskQueues : MessageLoopTaskQueues α) :
    Prop where
  reached : ∃ log, Runs MessageLoopTaskQueues.step (fun _ _ => True) .initial log taskQueues
  distinct : platformQueueId ≠ gpuQueueId
  platform : ∃ e, taskQueues.find platformQueueId = some e ∧
    MessageLoopTaskQueues.InState e .independent
  gpu : ∃ e, taskQueues.find gpuQueueId = some e ∧ MessageLoopTaskQueues.InState e .independent

variable {taskQueues : MessageLoopTaskQueues α} {log : List (Op α × MergerAnswer)}

theorem Start.agrees (start : Start platformQueueId gpuQueueId taskQueues) :
    Agrees platformQueueId gpuQueueId (create platformQueueId gpuQueueId taskQueues) := by
  obtain ⟨log, runs⟩ := start.reached
  obtain ⟨e, found, -, unsubsumed⟩ := start.platform
  obtain ⟨f, foundF, ownsNone, unsubsumedF⟩ := start.gpu
  exact ⟨rfl, rfl, rfl, rfl, MessageLoopTaskQueues.runs_wellFormed runs, start.distinct,
    ⟨e, found, unsubsumed⟩, f, foundF, ownsNone, unsubsumedF⟩

theorem runs_agrees (start : Start platformQueueId gpuQueueId taskQueues)
    (runs : Runs step Allowed (create platformQueueId gpuQueueId taskQueues) log s) :
    Agrees platformQueueId gpuQueueId s :=
  runs.preserves start.agrees fun _ _ _ _ agrees allowed stepped =>
    (step_agrees agrees allowed stepped).1

/-- In every run in which nobody decrements a lease that has run out, a call returns, so that no
    `FML_CHECK` fails in it, exactly when it does not do so either. -/
theorem call_returns_iff_not_leaseRunOut (start : Start platformQueueId gpuQueueId taskQueues)
    (runs : Runs step (fun s op => s.Allowed op ∧ ¬ s.LeaseRunOut op)
      (create platformQueueId gpuQueueId taskQueues) log s) :
    ∀ caller call, s.Allowed (.call caller call) →
      ((∃ out s', s.step (.call caller call) = .ok (out, s')) ↔ ¬ s.LeaseRunOut (.call caller call)) ∧
      (s.step (.call caller call) = .error .check ↔ s.LeaseRunOut (.call caller call)) := by
  have agrees := runs_agrees start (runs.mono fun _ _ met => met.1)
  intro caller call allowed
  by_cases runOut : s.LeaseRunOut (.call caller call)
  · have failed : s.step (.call caller call) = .error .check := call_runOut agrees runOut
    exact ⟨by simp [failed, runOut], iff_of_true failed runOut⟩
  · obtain ⟨out, s', returned, -⟩ := call_spec agrees allowed runOut
    have returned : s.step (.call caller call) = .ok (out, s') := returned
    exact ⟨iff_of_true ⟨out, s', returned⟩ runOut, by simp [returned, runOut]⟩

def twoQueues : MessageLoopTaskQueues Unit :=
  (MessageLoopTaskQueues.initial.createTaskQueue.2).createTaskQueue.2

theorem start_twoQueues : Start 0 1 twoQueues where
  reached := by
    have ran : run MessageLoopTaskQueues.step .initial [.createTaskQueue, .createTaskQueue] =
        .ok ([(.createTaskQueue, .queueId 0), (.createTaskQueue, .queueId 1)], twoQueues) := rfl
    exact ⟨_, runs_of_run (fun _ _ _ => trivial) ran⟩
  distinct := by decide
  platform := ⟨.create 0, rfl, by simp [TaskQueueEntry.create, MessageLoopTaskQueues.InState]⟩
  gpu := ⟨.create 1, rfl, by simp [TaskQueueEntry.create, MessageLoopTaskQueues.InState]⟩

def expiringLease : List (Op Unit) :=
  [.call 0 (.mergeWithLease 1), .call 1 (.extendLeaseTo 2), .call 0 .decrementLease]

/-- `step` where what is allowed is kept to and no lease that has run out is decremented. -/
def checkedStep (s : Sharers Unit) (op : Op Unit) : Except Fault (MergerAnswer × Sharers Unit) :=
  guarded step .undefined (fun s op => decide (s.Allowed op ∧ ¬ s.LeaseRunOut op)) s op

theorem call_returns_iff_not_leaseRunOut_expiringLease :
    ∃ log s, run checkedStep (create 0 1 twoQueues) expiringLease = .ok (log, s) ∧
      (∃ out s', s.step (.call 1 .decrementLease) = .ok (out, s')) ∧
      s.step (.call 0 .decrementLease) = .error .check := by
  have returned : (run checkedStep (create 0 1 twoQueues) expiringLease).isOk = true := by decide
  obtain ⟨⟨log, s⟩, ran⟩ := exists_ok_of_isOk returned
  have states : (run checkedStep (create 0 1 twoQueues) expiringLease).map (fun r =>
      (decide (r.2.LeaseRunOut (.call 0 .decrementLease)),
        decide (r.2.LeaseRunOut (.call 1 .decrementLease)))) = .ok (true, false) := by decide
  rw [ran] at states
  simp only [Except.map, Except.ok.injEq, Prod.mk.injEq, decide_eq_true_eq, decide_eq_false_iff_not]
    at states
  obtain ⟨runOut, notRunOut⟩ := states
  have runs := runs_of_run_guarded (fun _ _ => of_decide_eq_true) ran
  have checked := call_returns_iff_not_leaseRunOut start_twoQueues runs
  exact ⟨log, s, ran, ((checked 1 .decrementLease trivial).1).mpr notRunOut,
    ((checked 0 .decrementLease trivial).2).mpr runOut⟩

/-- Decrementing the lease that has run out fails a check. -/
theorem decrementLease_fails_check :
    ∃ (log : List (Op Unit × MergerAnswer)) (s : Sharers Unit), Start 0 1 twoQueues ∧
      Runs step Allowed (create 0 1 twoQueues) log s ∧ s.Allowed (.call 0 .decrementLease) ∧
      s.step (.call 0 .decrementLease) = .error .check := by
  have returned : (run checkedStep (create 0 1 twoQueues) expiringLease).isOk = true := by decide
  obtain ⟨⟨log, s⟩, ran⟩ := exists_ok_of_isOk returned
  have failed : (run checkedStep (create 0 1 twoQueues) expiringLease).map (fun r =>
      (r.2.step (.call 0 .decrementLease)).map (·.1)) = .ok (.error .check) := by decide
  rw [ran] at failed
  simp only [Except.map, Except.ok.injEq] at failed
  have runs := runs_of_run_guarded (fun _ _ => of_decide_eq_true) ran
  refine ⟨log, s, start_twoQueues, runs.mono fun _ _ met => met.1, trivial, ?_⟩
  cases stepped : s.step (.call 0 .decrementLease) with
  | error fault => simpa [stepped] using failed
  | ok answer => simp [stepped] at failed

/-- In every state that calls of the mergers reach, `IsMerged` is what the task queues record; no
    call changes it while the mergers are disabled; and `DecrementLease` answers `kUnmergedNow`
    exactly when it ends the merge. -/
theorem isMerged_eq_owns (start : Start platformQueueId gpuQueueId taskQueues)
    (runs : Runs step Allowed (create platformQueueId gpuQueueId taskQueues) log s) :
    s.taskQueues.owns (some platformQueueId) (some gpuQueueId) = .ok s.isMerged ∧
    ∀ op out s', s.Allowed op → s.step op = .ok (out, s') →
      (s.isEnabled = false → s'.isMerged = s.isMerged) ∧
      ∀ caller, op = .call caller .decrementLease →
        (out.status = some .unmergedNow ↔ s.isMerged = true ∧ s'.isMerged = false) := by
  have agrees := runs_agrees start runs
  constructor
  · rw [agrees.isMerged_eq]
    exact agrees.inStep.pair.owns agrees.inStep.wf
  · intro op out s' allowed stepped
    refine ⟨(step_agrees agrees allowed stepped).2, ?_⟩
    rintro caller rfl
    have effect := (call_inv agrees allowed stepped).unmergedNow
    rw [effect]
    simp

theorem isMerged_eq_owns_expiringLease :
    ∃ log s, run checkedStep (create 0 1 twoQueues) expiringLease = .ok (log, s) ∧
      s.taskQueues.owns (some 0) (some 1) = .ok true := by
  have returned : (run checkedStep (create 0 1 twoQueues) expiringLease).isOk = true := by decide
  obtain ⟨⟨log, s⟩, ran⟩ := exists_ok_of_isOk returned
  have merged : (run checkedStep (create 0 1 twoQueues) expiringLease).map (fun r => r.2.isMerged) =
      .ok true := by decide
  rw [ran] at merged
  simp only [Except.map, Except.ok.injEq] at merged
  have runs := runs_of_run_guarded (fun _ _ => of_decide_eq_true) ran
  have agreed := (isMerged_eq_owns start_twoQueues (runs.mono fun _ _ met => met.1)).1
  exact ⟨log, s, ran, merged ▸ agreed⟩

end Sharers

end FlutterZero.Fml
