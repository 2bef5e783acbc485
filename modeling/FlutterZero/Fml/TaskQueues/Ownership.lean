import FlutterZero.Fml.TaskQueues.Effects

/-! # Ownership of task queues

The invariants that the header states for merging and un-merging: one queue can
own several others, and each queue is an owner, or subsumed, or neither.  They
hold in every state that any sequence of calls reaches.
-/

namespace FlutterZero.Fml.MessageLoopTaskQueues

open FlutterZero.Lib

variable {α : Type} {s s' : MessageLoopTaskQueues α} {q owner subsumed : TaskQueueId}

inductive MergeState where
  | owner
  | subsumed
  | independent
deriving DecidableEq, Repr

def InState (e : TaskQueueEntry α) : MergeState → Prop
  | .owner => (∃ q, q ∈ e.ownerOf) ∧ e.subsumedBy = none
  | .subsumed => (∀ q, q ∉ e.ownerOf) ∧ ∃ owner, e.subsumedBy = some owner
  | .independent => (∀ q, q ∉ e.ownerOf) ∧ e.subsumedBy = none

theorem WellFormed.existsUnique_state (wf : WellFormed s) {e : TaskQueueEntry α}
    (found : s.find q = some e) : ∃! state, InState e state := by
  by_cases owns : ∃ q', q' ∈ e.ownerOf
  · obtain ⟨q', owned⟩ := owns
    have unsubsumed := wf.owner_unsubsumed found owned
    refine ⟨.owner, ⟨⟨q', owned⟩, unsubsumed⟩, ?_⟩
    rintro (_ | _ | _) inState
    · rfl
    · exact absurd owned (inState.1 q')
    · exact absurd owned (inState.1 q')
  · have ownsNone : ∀ q', q' ∉ e.ownerOf := fun q' owned => owns ⟨q', owned⟩
    cases subsumedBy : e.subsumedBy with
    | none =>
      refine ⟨.independent, ⟨ownsNone, subsumedBy⟩, ?_⟩
      rintro (_ | _ | _) inState
      · exact absurd inState.1 owns
      · obtain ⟨owner, by_owner⟩ := inState.2
        simp [subsumedBy] at by_owner
      · rfl
    | some owner =>
      refine ⟨.subsumed, ⟨ownsNone, owner, subsumedBy⟩, ?_⟩
      rintro (_ | _ | _) inState
      · exact absurd inState.1 owns
      · rfl
      · have unsubsumed : e.subsumedBy = none := inState.2
        simp [subsumedBy] at unsubsumed

/-- The same queues exist in both states, owned by the same queues and owning the same. -/
def SameOwnership (s s' : MessageLoopTaskQueues α) : Prop :=
  ∀ q, (s.find q = none ∧ s'.find q = none) ∨
    ∃ e e', s.find q = some e ∧ s'.find q = some e' ∧ e'.subsumedBy = e.subsumedBy ∧
      ∀ x, x ∈ e'.ownerOf ↔ x ∈ e.ownerOf

theorem SameShape.sameOwnership (same : SameShape s s') : SameOwnership s s' := by
  intro q
  cases found : s'.find q with
  | none =>
    have entries := same.entries q
    rw [found] at entries
    cases old : s.find q with
    | none => exact Or.inl ⟨rfl, rfl⟩
    | some e => simp [old] at entries
  | some e' =>
    obtain ⟨e, old, shaped⟩ := same.find found
    simp only [shape, Prod.mk.injEq] at shaped
    exact Or.inr ⟨e, e', old, rfl, shaped.2.1, fun x => by rw [shaped.1]⟩

variable {s₁ : MessageLoopTaskQueues α}

theorem SameOwnership.trans {s₂ s₃ : MessageLoopTaskQueues α} (first : SameOwnership s₁ s₂)
    (second : SameOwnership s₂ s₃) : SameOwnership s₁ s₃ := by
  intro q
  rcases first q with ⟨none₁, none₂⟩ | ⟨e₁, e₂, found₁, found₂, by₂, owned₂⟩
  · rcases second q with ⟨_, none₃⟩ | ⟨e, e', found, _⟩
    · exact Or.inl ⟨none₁, none₃⟩
    · simp [none₂] at found
  · rcases second q with ⟨none₂, _⟩ | ⟨e, e₃, found, found₃, by₃, owned₃⟩
    · simp [none₂] at found₂
    · rw [found₂] at found
      cases found
      exact Or.inr ⟨e₁, e₃, found₁, found₃, by₃.trans by₂, fun x => (owned₃ x).trans (owned₂ x)⟩

theorem owns_eq_ok {owned : Bool} :
    s.owns (some owner) (some subsumed) = .ok owned ↔
      ∃ e, s.find owner = some e ∧ (owned = true ↔ subsumed ∈ e.ownerOf) := by
  unfold owns
  rw [bind_eq_ok]
  constructor
  · rintro ⟨e, found, contained⟩
    refine ⟨e, entryAt_eq_ok.mp found, ?_⟩
    simp only [pure_eq_ok, Except.ok.injEq] at contained
    rw [← contained]
    exact Std.TreeSet.contains_iff_mem
  · rintro ⟨e, found, owned_iff⟩
    refine ⟨e, entryAt_of_find found, ?_⟩
    simp only [pure_eq_ok, Except.ok.injEq]
    rw [Bool.eq_iff_iff, owned_iff]
    exact Std.TreeSet.contains_iff_mem

theorem sameOwnership_unmergedState {e e' f f' : TaskQueueEntry α} (mergeable : Mergeable s owner subsumed e e')
    (same : SameShape (mergedState s owner subsumed e e') s₁) (unmergeable : Unmergeable s₁ owner subsumed f f') :
    SameOwnership s (unmergedState s₁ owner subsumed f f') := by
  have distinct := mergeable.distinct
  obtain ⟨g, ownerFound, ownerShape⟩ := same.find unmergeable.ownerFound
  obtain ⟨g', subsumedFound, subsumedShape⟩ := same.find unmergeable.subsumedFound
  rw [find_mergedState, if_neg distinct, if_pos rfl] at ownerFound
  rw [find_mergedState, if_pos rfl] at subsumedFound
  cases ownerFound
  cases subsumedFound
  simp only [shape, Prod.mk.injEq] at ownerShape subsumedShape
  intro q
  by_cases isOwner : q = owner
  · subst isOwner
    refine Or.inr ⟨e, _, mergeable.ownerFound,
      (find_unmergedState _ _ _ _ _ _).trans (if_pos rfl), ownerShape.2.1, fun x => ?_⟩
    rw [Std.TreeSet.mem_erase, ownerShape.1, Std.TreeSet.mem_insert]
    constructor
    · rintro ⟨ne, eq | old⟩
      · exact absurd eq ne
      · exact old
    · intro old
      refine ⟨fun eq => mergeable.notOwned ?_, Or.inr old⟩
      rw [Std.LawfulEqOrd.eq_of_compare eq]
      exact old
  by_cases isSubsumed : q = subsumed
  · subst isSubsumed
    have undone : (unmergedState s₁ owner q f f').find q = some { f' with subsumedBy := none } := by
      rw [find_unmergedState, if_neg isOwner, if_pos rfl]
    exact Or.inr ⟨e', _, mergeable.subsumedFound, undone, mergeable.unsubsumed.symm,
      fun x => by rw [subsumedShape.1]⟩
  · have kept := same.sameOwnership q
    rw [find_mergedState, if_neg isSubsumed, if_neg isOwner] at kept
    rw [find_unmergedState, if_neg isOwner, if_neg isSubsumed]
    exact kept

theorem merge_unmerge_sameOwnership (wf : WellFormed s) {s₂ : MessageLoopTaskQueues α}
    {merged unmerged : Bool} (apart : s.owns (some owner) (some subsumed) = .ok false)
    (h₁ : s.merge owner subsumed = .ok (merged, s₁))
    (h₂ : s₁.unmerge owner subsumed = .ok (unmerged, s₂)) : SameOwnership s s₂ := by
  obtain ⟨g, gFound, notOwned⟩ := owns_eq_ok.mp apart
  have notOwned : subsumed ∉ g.ownerOf := fun owned => by simpa using notOwned.mpr owned
  -- an `unmerge` that answers a `merge` which changed nothing is refused
  have idle : s₁ = s → SameOwnership s s₂ := by
    rintro rfl
    cases unmerge_inv wf h₂ with
    | refused => exact (SameShape.refl s₁).sameOwnership
    | unmerged unmergeable =>
      have owned := unmergeable.owned
      have found := unmergeable.ownerFound
      rw [gFound] at found
      cases found
      exact absurd owned notOwned
  cases merge_inv wf h₁ with
  | same => exact idle rfl
  | already => exact idle rfl
  | refused => exact idle rfl
  | @merged e e' _ mergeable woken =>
    have wf₁ := mergeable.wellFormed wf
    have same₁ := woken.sameCore.sameShape
    cases unmerge_inv (wf₁.of_sameShape same₁) h₂ with
    | @refused f found refused =>
      -- impossible: the pair has just been merged
      obtain ⟨f', found', shaped⟩ := same₁.find found
      rw [find_mergedState, if_neg mergeable.distinct, if_pos rfl] at found'
      cases found'
      simp only [shape, Prod.mk.injEq] at shaped
      rw [shaped.1] at refused
      exact absurd Std.TreeSet.mem_insert_self refused
    | unmerged unmergeable woken₁ woken₂ =>
      have undone := sameOwnership_unmergedState mergeable same₁ unmergeable
      have same₂ := woken₁.sameCore.sameShape.trans woken₂.sameCore.sameShape
      exact undone.trans same₂.sameOwnership

/-- In every state that calls on the task queues reach: the two ownership relations are inverse
    and name only existing queues, every queue is in exactly one of the three states and does not
    own itself, `merge` and `unmerge` of existing queues return and change nothing when they return
    false, and merging a pair that is not merged yet is undone by un-merging it. -/
theorem ownership_invariants {log : List (Op α × Answer α)}
    (runs : Runs step (fun _ _ => True) initial log s) :
    (∀ owner subsumed e, s.find owner = some e →
      (subsumed ∈ e.ownerOf ↔
        ∃ e', s.find subsumed = some e' ∧ e'.subsumedBy = some owner)) ∧
    (∀ owner subsumed e, s.find subsumed = some e → e.subsumedBy = some owner →
      ∃ e', s.find owner = some e') ∧
    (∀ q e, s.find q = some e → (∃! state, InState e state) ∧ q ∉ e.ownerOf) ∧
    (∀ owner subsumed e e', s.find owner = some e → s.find subsumed = some e' →
      (∃ success s', s.merge owner subsumed = .ok (success, s') ∧ (success = false → s' = s)) ∧
      (∃ success s', s.unmerge owner subsumed = .ok (success, s') ∧ (success = false → s' = s))) ∧
    (∀ owner subsumed merged unmerged s₁ s₂,
      s.owns (some owner) (some subsumed) = .ok false →
      s.merge owner subsumed = .ok (merged, s₁) →
      s₁.unmerge owner subsumed = .ok (unmerged, s₂) → SameOwnership s s₂) := by
  have wf := runs_wellFormed runs
  refine ⟨?_, ?_, ?_, ?_, ?_⟩
  · intro owner subsumed e found
    refine ⟨wf.subsumed_of_owned found, ?_⟩
    rintro ⟨e', found', by_owner⟩
    obtain ⟨f, ownerFound, owned⟩ := wf.owned_of_subsumed found' by_owner
    rw [found] at ownerFound
    cases ownerFound
    exact owned
  · intro owner subsumed e found by_owner
    obtain ⟨e', found', _⟩ := wf.owned_of_subsumed found by_owner
    exact ⟨e', found'⟩
  · intro q e found
    exact ⟨wf.existsUnique_state found, wf.not_self_owned found⟩
  · intro owner subsumed e e' found found'
    obtain ⟨success, s₁, returned, effect⟩ := merge_spec wf found found'
    obtain ⟨success', s₂, returned', effect'⟩ := unmerge_spec wf found found'
    refine ⟨⟨success, s₁, returned, ?_⟩, ⟨success', s₂, returned', ?_⟩⟩
    · rintro rfl
      cases effect
      rfl
    · rintro rfl
      cases effect'
      rfl
  · intro owner subsumed merged unmerged s₁ s₂ apart h₁ h₂
    exact merge_unmerge_sameOwnership wf apart h₁ h₂

/-- Two queues, the second of which the first has subsumed. -/
def mergedPair : List (Op Unit) := [.createTaskQueue, .createTaskQueue, .merge 0 1]

/-- The state after `mergedPair`. -/
def mergedPairState : MessageLoopTaskQueues Unit :=
  match run step initial mergedPair with
  | .ok (_, s) => s
  | .error _ => initial

theorem runs_mergedPair :
    ∃ log, Runs step (fun _ _ => True) initial log mergedPairState := by
  have returned : (run step (initial : MessageLoopTaskQueues Unit) mergedPair).isOk = true := by decide
  obtain ⟨⟨log, s⟩, ran⟩ := exists_ok_of_isOk returned
  refine ⟨log, ?_⟩
  simp only [mergedPairState, ran]
  exact runs_of_run (fun _ _ _ => trivial) ran

theorem ownership_invariants_mergedPair :
    ∃ e, mergedPairState.find 0 = some e ∧ 1 ∈ e.ownerOf ∧
      ∃ e', mergedPairState.find 1 = some e' ∧ e'.subsumedBy = some 0 := by
  obtain ⟨log, runs⟩ := runs_mergedPair
  have present : (mergedPairState.find 0).isSome = true := by decide
  obtain ⟨e, found⟩ := Option.isSome_iff_exists.mp present
  have owned : 1 ∈ e.ownerOf := by
    have contains : (mergedPairState.find 0).map (·.ownerOf.contains 1) = some true := by decide
    simpa [found] using contains
  exact ⟨e, found, owned, ((ownership_invariants runs).1 0 1 e found).mp owned⟩

/-- Merging a merged pair again changes nothing, and un-merging it then separates it. -/
theorem merge_unmerge_separates_merged_pair :
    ∃ (log : List (Op Unit × Answer Unit)) (s s₁ s₂ : MessageLoopTaskQueues Unit),
      Runs step (fun _ _ => True) initial log s ∧
      s.merge 0 1 = .ok (true, s₁) ∧ s₁.unmerge 0 1 = .ok (true, s₂) ∧
      s.owns (some 0) (some 1) = .ok true ∧ s₂.owns (some 0) (some 1) = .ok false := by
  obtain ⟨log, runs⟩ := runs_mergedPair
  have returned : (mergedPairState.unmerge 0 1).isOk = true := by decide
  obtain ⟨⟨success, s₂⟩, unmerged⟩ := exists_ok_of_isOk returned
  have facts : (mergedPairState.unmerge 0 1).map (fun r => (r.1, r.2.owns (some 0) (some 1))) =
      .ok (true, .ok false) := by decide
  rw [unmerged] at facts
  simp only [Except.map, Except.ok.injEq, Prod.mk.injEq] at facts
  obtain ⟨rfl, apart⟩ := facts
  exact ⟨log, mergedPairState, mergedPairState, s₂, runs, rfl, unmerged, by decide, apart⟩

end FlutterZero.Fml.MessageLoopTaskQueues
