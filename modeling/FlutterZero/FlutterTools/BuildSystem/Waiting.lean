import FlutterZero.FlutterTools.BuildSystem.Skipping

/-! # Waiting for all dependencies

`Future.wait` waits for all dependencies, also after one of them has failed.

* `Scheduler.WaitInv` — who waits for whom;
* `Scheduler.WaitInv.finished_of_done` — no target is at work when the build returns.
-/

namespace FlutterZero.FlutterTools.BuildSystem.Scheduler

variable {root target : Target} {poolSize : Nat} {s s' : Scheduler} {event : Event} {position : List Nat}
  {name : String} {internal : Internal} {outcome : Outcome}

structure WaitInv (root : Target) (s : Scheduler) : Prop where
  dependencies : ∀ position target, root.at? position = some target → s.invocation position ≠ .waiting →
    ∀ index < target.dependencies.length, ∃ outcome, s.invocation (position ++ [index]) = .done outcome
  awaited : ∀ name internal, s.pending name = some internal → (∀ outcome, internal ≠ .finished outcome) →
    ∃ position target, root.at? position = some target ∧ target.name = name ∧ s.invocation position = .memoized

theorem WaitInv.start : WaitInv root start where
  dependencies position target _ notWaiting := absurd rfl notWaiting
  awaited name internal pending := by cases pending

theorem WaitInv.setInvocation (inv : WaitInv root s) (found : root.at? position = some target) {invocation : Invocation}
    (free : ∀ outcome, s.invocation position ≠ .done outcome)
    (dependencies : ∀ index < target.dependencies.length, ∃ outcome, s.invocation (position ++ [index]) = .done outcome)
    (awaited : ∀ internal, s.pending target.name = some internal → (∀ outcome, internal ≠ .finished outcome) →
      s.invocation position = .memoized → invocation = .memoized) :
    WaitInv root (s.setInvocation position invocation) := by
  have extended := (extends_setInvocation free : s.Extends (s.setInvocation position invocation))
  refine ⟨fun other target' found' notWaiting index bound => ?_, fun name internal pending unfinished => ?_⟩
  · have before : ∃ outcome, s.invocation (other ++ [index]) = .done outcome := by
      by_cases same : other = position
      · subst same
        obtain rfl := Option.some.inj (found.symm.trans found')
        exact dependencies index bound
      · exact inv.dependencies other target' found' (by simpa [Scheduler.setInvocation, same] using notWaiting) index
          bound
    obtain ⟨outcome, isDone⟩ := before
    exact ⟨outcome, extended.done _ _ isDone⟩
  · obtain ⟨other, target', found', rfl, memoized⟩ := inv.awaited name internal pending unfinished
    refine ⟨other, target', found', rfl, ?_⟩
    by_cases same : other = position
    · subst same
      obtain rfl := Option.some.inj (found.symm.trans found')
      simp [Scheduler.setInvocation, awaited internal pending unfinished memoized]
    · simpa [Scheduler.setInvocation, same] using memoized

theorem WaitInv.resume (inv : WaitInv root s) (stepped : s.resume root position = some s') : WaitInv root s' := by
  unfold Scheduler.resume at stepped
  split at stepped
  next target found waiting =>
    obtain ⟨results, finished, rfl⟩ := Option.map_eq_some_iff.mp stepped
    have free : ∀ outcome, s.invocation position ≠ .done outcome := by simp [waiting]
    have dependencies : ∀ index < target.dependencies.length,
        ∃ outcome, s.invocation (position ++ [index]) = .done outcome := by
      intro index bound
      obtain ⟨outcome, -, isDone⟩ := done_of_results finished bound
      exact ⟨outcome, isDone⟩
    have handedOn : ∀ outcome, WaitInv root (s.setInvocation position (.done outcome)) := fun outcome =>
      inv.setInvocation found free dependencies (by simp [waiting])
    unfold invoke
    split
    next => exact handedOn .threw
    next =>
      split
      next => exact handedOn .failed
      next =>
        -- the target may be new in the memo table: this invocation waits for it
        refine ⟨fun other target' found' notWaiting index bound => ?_, fun name internal pending unfinished => ?_⟩
        · have unchanged : (s.runOnce target.name).invocation = s.invocation := by
            unfold Scheduler.runOnce
            split <;> rfl
          have moved : WaitInv root (s.setInvocation position .memoized) :=
            inv.setInvocation found free dependencies (by simp)
          have step := moved.dependencies
            other target' found'
          simp only [Scheduler.setInvocation, unchanged] at notWaiting step ⊢
          exact step notWaiting index bound
        · by_cases same : name = target.name
          · exact ⟨position, target, found, same.symm, by simp [Scheduler.setInvocation]⟩
          · have before : s.pending name = some internal := by
              simp only [Scheduler.setInvocation, Scheduler.runOnce] at pending
              split at pending
              next => simpa [same] using pending
              next => exact pending
            obtain ⟨other, target', found', rfl, memoized⟩ := inv.awaited name internal before unfinished
            refine ⟨other, target', found', rfl, ?_⟩
            have different : other ≠ position := by
              rintro rfl
              rw [waiting] at memoized
              cases memoized
            have unchanged : (s.runOnce target.name).invocation = s.invocation := by
              unfold Scheduler.runOnce
              split <;> rfl
            simpa [Scheduler.setInvocation, different, unchanged] using memoized
  next => cases stepped

theorem WaitInv.deliver (inv : WaitInv root s) (stepped : s.deliver root position = some s') : WaitInv root s' := by
  unfold Scheduler.deliver at stepped
  split at stepped
  next target found memoized =>
    split at stepped
    next outcome finished =>
      obtain rfl := Option.some.inj stepped
      refine inv.setInvocation found (by simp [memoized])
        (inv.dependencies position target found (by simp [memoized])) fun internal pending unfinished => ?_
      obtain rfl := Option.some.inj (finished.symm.trans pending)
      exact absurd rfl (unfinished outcome)
    next => cases stepped
  next => cases stepped

theorem WaitInv.acquire (inv : WaitInv root s) (stepped : s.acquire poolSize name = some s') : WaitInv root s' := by
  obtain ⟨requested, -, rfl⟩ := acquire_eq_some stepped
  refine ⟨inv.dependencies, fun other internal pending unfinished => ?_⟩
  by_cases same : other = name
  · subst same
    exact inv.awaited other .requested requested nofun
  · exact inv.awaited other internal (by simpa [same] using pending) unfinished

theorem WaitInv.finish (inv : WaitInv root s) (stepped : s.finish name outcome = some s') : WaitInv root s' := by
  obtain ⟨-, rfl⟩ := finish_eq_some stepped
  refine ⟨inv.dependencies, fun other internal pending unfinished => ?_⟩
  by_cases same : other = name
  · subst same
    simp only [Function.update_self, Option.some.injEq] at pending
    exact absurd pending.symm (unfinished outcome)
  · exact inv.awaited other internal (by simpa [same] using pending) unfinished

theorem WaitInv.done_of_done (inv : WaitInv root s) (isDone : s.invocation [] = .done outcome)
    (found : root.at? position = some target) : ∃ outcome, s.invocation position = .done outcome := by
  induction position using List.reverseRecOn generalizing target with
  | nil => exact ⟨outcome, isDone⟩
  | append_singleton position index ih =>
    cases before : root.at? position with
    | none =>
      rw [Target.at?, List.foldlM_append, ← Target.at?, before] at found
      cases found
    | some parent =>
      obtain ⟨parentOutcome, parentDone⟩ := ih before
      rw [Target.at?_concat before] at found
      obtain ⟨bound, -⟩ := List.getElem?_eq_some_iff.mp found
      exact inv.dependencies position parent before (by simp [parentDone]) index bound

theorem WaitInv.finished_of_done (inv : WaitInv root s) (isDone : s.invocation [] = .done outcome)
    (pending : s.pending name = some internal) : ∃ outcome, internal = .finished outcome := by
  by_contra unfinished
  obtain ⟨position, target, found, -, memoized⟩ := inv.awaited name internal pending fun outcome same =>
    unfinished ⟨outcome, same⟩
  obtain ⟨outcome, isDone⟩ := inv.done_of_done isDone found
  rw [isDone] at memoized
  cases memoized

end FlutterZero.FlutterTools.BuildSystem.Scheduler
