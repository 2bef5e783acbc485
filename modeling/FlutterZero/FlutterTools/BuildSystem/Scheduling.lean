import FlutterZero.FlutterTools.BuildSystem

/-! # The order of the targets

* `Target.Reaches` — a target and its transitive dependencies;
* `Scheduler.Inv` — the invocations and the memo table agree;
* `Scheduler.scheduled_of_runs` — every target is started at most once, and only after
  its dependencies have succeeded; the build comes to an end, and it returns true exactly
  when all targets have succeeded.
-/

namespace FlutterZero.FlutterTools.BuildSystem

namespace Target

variable {root target dependency : Target} {position : List Nat}

inductive Reaches (root : Target) : Target → Prop where
  | root : Reaches root root
  | dependency {target dependency : Target} (before : Reaches root target)
      (depends : dependency ∈ target.dependencies) : Reaches root dependency

def DistinctNames (root : Target) : Prop :=
  ∀ target other, root.Reaches target → root.Reaches other → target.name = other.name → target = other

theorem Reaches.trans {middle : Target} (first : root.Reaches middle) (second : middle.Reaches target) :
    root.Reaches target := by
  induction second with
  | root => exact first
  | dependency _ depends ih => exact .dependency ih depends

theorem sizeOf_lt_of_mem (depends : dependency ∈ target.dependencies) : sizeOf dependency < sizeOf target := by
  obtain ⟨name, dependencies⟩ := target
  have smaller := List.sizeOf_lt_of_mem depends
  simp only [Target.dependencies] at smaller
  simp only [Target.mk.sizeOf_spec]
  omega

theorem inductionOn {motive : Target → Prop} (target : Target)
    (step : ∀ target : Target, (∀ dependency ∈ target.dependencies, motive dependency) → motive target) :
    motive target :=
  step target fun dependency depends =>
    have := sizeOf_lt_of_mem depends
    inductionOn dependency step
termination_by sizeOf target

@[simp] theorem at?_nil : root.at? [] = some root := rfl

theorem at?_concat {index : Nat} (found : root.at? position = some target) :
    root.at? (position ++ [index]) = target.dependencies[index]? := by
  rw [at?, List.foldlM_append, ← at?, found]
  simp

theorem reaches_of_at? (found : root.at? position = some target) : root.Reaches target := by
  induction position using List.reverseRecOn generalizing target with
  | nil =>
    cases found
    exact .root
  | append_singleton position index ih =>
    cases before : root.at? position with
    | none =>
      rw [at?, List.foldlM_append, ← at?, before] at found
      cases found
    | some parent =>
      rw [at?_concat before] at found
      exact .dependency (ih before) (List.mem_of_getElem? found)

theorem exists_at?_of_reaches (reaches : root.Reaches target) : ∃ position, root.at? position = some target := by
  induction reaches with
  | root => exact ⟨[], rfl⟩
  | dependency _ depends ih =>
    obtain ⟨position, found⟩ := ih
    obtain ⟨index, isThere⟩ := List.mem_iff_getElem?.mp depends
    exact ⟨position ++ [index], by rw [at?_concat found, isThere]⟩

mutual

def positions : Target → List (List Nat)
  | .mk _ dependencies => [] :: positionsFrom 0 dependencies

def positionsFrom (index : Nat) : List Target → List (List Nat)
  | [] => []
  | dependency :: dependencies =>
    (dependency.positions.map fun position => index :: position) ++ positionsFrom (index + 1) dependencies

end

theorem mem_positionsFrom {dependencies : List Target} (start : Nat) {index : Nat}
    (isThere : dependencies[index]? = some dependency) (inside : position ∈ dependency.positions) :
    (start + index) :: position ∈ positionsFrom start dependencies := by
  induction dependencies generalizing start index with
  | nil => cases isThere
  | cons first dependencies ih =>
    rw [positionsFrom, List.mem_append]
    cases index with
    | zero =>
      obtain rfl : first = dependency := by simpa using isThere
      exact .inl (List.mem_map_of_mem inside)
    | succ index =>
      have later := ih (start + 1) (show dependencies[index]? = some dependency by simpa using isThere)
      exact .inr (by simpa [Nat.add_comm, Nat.add_left_comm] using later)

theorem mem_positions (found : root.at? position = some target) : position ∈ root.positions := by
  induction position generalizing root with
  | nil =>
    obtain ⟨name, dependencies⟩ := root
    simp [positions]
  | cons index position ih =>
    obtain ⟨name, dependencies⟩ := root
    rw [at?, List.foldlM_cons] at found
    obtain ⟨dependency, isThere, found⟩ := Option.bind_eq_some_iff.mp found
    have inside := mem_positionsFrom 0 isThere (ih found)
    rw [Nat.zero_add] at inside
    rw [positions]
    exact List.mem_cons_of_mem _ inside

end Target

namespace Scheduler

variable {root target : Target} {poolSize : Nat} {s s' : Scheduler} {event : Event} {position : List Nat}

/-! ## The invariant -/

def InvocationInv (s : Scheduler) (target : Target) (position : List Nat) : Invocation → Prop
  | .waiting => True
  | .memoized => (s.pending target.name).isSome = true
  | .done .succeeded => s.pending target.name = some (.finished .succeeded)
  | .done outcome => s.pending target.name = some (.finished outcome) ∨
      ∃ index < target.dependencies.length, s.invocation (position ++ [index]) = .done outcome

structure Inv (root : Target) (s : Scheduler) : Prop where
  distinct : s.started.Nodup
  started : ∀ name, name ∈ s.started ↔ (s.pending name).isSome = true
  known : ∀ name, (s.pending name).isSome = true → ∃ target, root.Reaches target ∧ target.name = name
  after : ∀ target, root.Reaches target → (s.pending target.name).isSome = true →
    ∀ dependency ∈ target.dependencies, s.pending dependency.name = some (.finished .succeeded)
  resources : s.holding.Nodup
  holding : ∀ name ∈ s.holding, s.pending name = some .running
  invocations : ∀ position target, root.at? position = some target →
    s.InvocationInv target position (s.invocation position)

theorem Inv.start : Inv root start where
  distinct := List.nodup_nil
  started name := by simp [Scheduler.start]
  known name pending := by simp [Scheduler.start] at pending
  after target _ pending := by simp [Scheduler.start] at pending
  resources := List.nodup_nil
  holding name inside := by simp [Scheduler.start] at inside
  invocations position target _ := trivial

/-! ## One step -/

structure Extends (s s' : Scheduler) : Prop where
  pending : ∀ name, (s.pending name).isSome = true → (s'.pending name).isSome = true
  finished : ∀ name outcome, s.pending name = some (.finished outcome) → s'.pending name = some (.finished outcome)
  done : ∀ position outcome, s.invocation position = .done outcome → s'.invocation position = .done outcome

variable {invocation : Invocation}

theorem Extends.invocationInv (extended : s.Extends s')
    (holds : s.InvocationInv target position invocation) : s'.InvocationInv target position invocation := by
  have alternatives : ∀ outcome,
      (s.pending target.name = some (.finished outcome) ∨
        ∃ index < target.dependencies.length, s.invocation (position ++ [index]) = .done outcome) →
      (s'.pending target.name = some (.finished outcome) ∨
        ∃ index < target.dependencies.length, s'.invocation (position ++ [index]) = .done outcome) := by
    intro outcome
    exact Or.imp (extended.finished _ _) fun ⟨index, bound, isDone⟩ => ⟨index, bound, extended.done _ _ isDone⟩
  cases invocation with
  | waiting => trivial
  | memoized => exact extended.pending _ holds
  | done outcome =>
    cases outcome with
    | succeeded => exact extended.finished _ _ holds
    | failed => exact alternatives .failed holds
    | threw => exact alternatives .threw holds

theorem extends_setInvocation (free : ∀ outcome, s.invocation position ≠ .done outcome) :
    s.Extends (s.setInvocation position invocation) := by
  refine ⟨fun _ => id, fun _ _ => id, fun other outcome isDone => ?_⟩
  have different : other ≠ position := by
    rintro rfl
    exact free outcome isDone
  simp [setInvocation, different, isDone]

theorem Inv.setInvocation (inv : Inv root s) (free : ∀ outcome, s.invocation position ≠ .done outcome)
    (holds : ∀ target, root.at? position = some target →
      (s.setInvocation position invocation).InvocationInv target position invocation) :
    Inv root (s.setInvocation position invocation) where
  distinct := inv.distinct
  started := inv.started
  known := inv.known
  after := inv.after
  resources := inv.resources
  holding := inv.holding
  invocations other target found := by
    by_cases same : other = position
    · subst same
      simpa [Scheduler.setInvocation] using holds target found
    · have unchanged : (s.setInvocation position invocation).invocation other = s.invocation other := by
        simp [Scheduler.setInvocation, same]
      rw [unchanged]
      exact (extends_setInvocation free).invocationInv (inv.invocations other target found)

theorem map_of_mapM_eq_some {α β : Type} {f : α → Option β} {items : List α} {values : List β}
    (mapped : items.mapM f = some values) : items.map f = values.map some := by
  induction items generalizing values with
  | nil =>
    cases mapped
    rfl
  | cons item items ih =>
    rw [List.mapM_cons] at mapped
    obtain ⟨value, first, mapped⟩ := Option.bind_eq_some_iff.mp mapped
    obtain ⟨rest, others, mapped⟩ := Option.bind_eq_some_iff.mp mapped
    cases mapped
    rw [List.map_cons, List.map_cons, first, ih others]

theorem exists_none_of_mapM_eq_none {α β : Type} {f : α → Option β} {items : List α} (failed : items.mapM f = none) :
    ∃ item ∈ items, f item = none := by
  induction items with
  | nil => cases failed
  | cons item items ih =>
    cases first : f item with
    | none => exact ⟨item, List.mem_cons_self, first⟩
    | some value =>
      cases rest : items.mapM f with
      | none =>
        obtain ⟨other, inside, isNone⟩ := ih rest
        exact ⟨other, List.mem_cons_of_mem _ inside, isNone⟩
      | some values => simp [first, rest] at failed

variable {results : List Outcome} {outcome : Outcome}

theorem mem_results (finished : s.results target position = some results) :
    outcome ∈ results ↔ ∃ index < target.dependencies.length, s.invocation (position ++ [index]) = .done outcome := by
  have mapped := map_of_mapM_eq_some finished
  have isResult : ∀ invocation : Invocation, invocation.result? = some outcome ↔ invocation = .done outcome := by
    intro invocation
    cases invocation <;> simp [Invocation.result?]
  rw [← List.mem_map_of_injective (Option.some_injective _), ← mapped, List.mem_map]
  simp only [List.mem_range, isResult]

theorem done_of_results (finished : s.results target position = some results) {index : Nat}
    (bound : index < target.dependencies.length) :
    ∃ outcome ∈ results, s.invocation (position ++ [index]) = .done outcome := by
  have inside : (s.invocation (position ++ [index])).result? ∈ results.map some := by
    rw [← map_of_mapM_eq_some finished]
    exact List.mem_map_of_mem (List.mem_range.mpr bound)
  obtain ⟨outcome, inside, isResult⟩ := List.mem_map.mp inside
  refine ⟨outcome, inside, ?_⟩
  cases found : s.invocation (position ++ [index]) with
  | done other => simpa [found, Invocation.result?, eq_comm] using isResult
  | waiting | memoized => simp [found, Invocation.result?] at isResult

theorem Inv.runOnce (inv : Inv root s) (names : root.DistinctNames) (reaches : root.Reaches target)
    (succeeded : ∀ dependency ∈ target.dependencies, s.pending dependency.name = some (.finished .succeeded)) :
    Inv root (s.runOnce target.name) ∧ s.Extends (s.runOnce target.name) ∧
      ((s.runOnce target.name).pending target.name).isSome = true := by
  unfold Scheduler.runOnce
  split
  next fresh =>
    have others : ∀ name, (s.pending name).isSome = true → name ≠ target.name := by
      rintro name pending rfl
      simp [fresh] at pending
    have extended : s.Extends { s with
        pending := Function.update s.pending target.name (some .requested), started := s.started ++ [target.name] } := by
      refine ⟨fun name pending => ?_, fun name outcome finished => ?_, fun _ _ => id⟩
      · simp [others name pending, pending]
      · simp [others name (by simp [finished]), finished]
    refine ⟨⟨?_, fun name => ?_, fun name pending => ?_, fun other isTarget pending dependency depends => ?_,
      inv.resources, fun name inside => ?_,
      fun position other found => extended.invocationInv (inv.invocations position other found)⟩, extended, by simp⟩
    · have absent : target.name ∉ s.started := by simp [inv.started, fresh]
      refine List.nodup_append.mpr ⟨inv.distinct, List.nodup_singleton _, ?_⟩
      intro name inside other isTarget same
      rw [List.mem_singleton] at isTarget
      exact absent (isTarget ▸ same ▸ inside)
    · by_cases same : name = target.name
      · simp [same]
      · simp [same, inv.started]
    · by_cases same : name = target.name
      · exact ⟨target, reaches, same.symm⟩
      · exact inv.known name (by simpa [same] using pending)
    · refine extended.finished _ _ ?_
      by_cases same : other.name = target.name
      · exact succeeded dependency (names other target isTarget reaches same ▸ depends)
      · exact inv.after other isTarget (by simpa [same] using pending) dependency depends
    · have running := inv.holding name inside
      simp [others name (by simp [running]), running]
  next internal pending => exact ⟨inv, ⟨fun _ => id, fun _ _ => id, fun _ _ => id⟩, by simp [pending]⟩

theorem Inv.resume (inv : Inv root s) (names : root.DistinctNames)
    (stepped : s.resume root position = some s') : Inv root s' := by
  unfold Scheduler.resume at stepped
  split at stepped
  next target found waiting =>
    obtain ⟨results, finished, rfl⟩ := Option.map_eq_some_iff.mp stepped
    have free : ∀ outcome, s.invocation position ≠ .done outcome := by simp [waiting]
    -- an outcome of a dependency is handed on
    have handedOn : ∀ outcome ∈ results, outcome ≠ .succeeded → Inv root (s.setInvocation position (.done outcome)) := by
      intro outcome inside other
      refine inv.setInvocation free fun target' found' => ?_
      obtain rfl := Option.some.inj (found.symm.trans found')
      obtain ⟨index, bound, isDone⟩ := (mem_results finished).mp inside
      have child : (s.setInvocation position (.done outcome)).invocation (position ++ [index]) = .done outcome :=
        (extends_setInvocation free).done _ _ isDone
      cases outcome with
      | succeeded => exact absurd rfl other
      | failed => exact .inr ⟨index, bound, child⟩
      | threw => exact .inr ⟨index, bound, child⟩
    unfold Scheduler.invoke
    split
    next threw => exact handedOn .threw threw (by simp)
    next noError =>
      split
      next failed => exact handedOn .failed failed (by simp)
      next noFailure =>
        have succeeded : ∀ dependency ∈ target.dependencies,
            s.pending dependency.name = some (.finished .succeeded) := by
          intro dependency depends
          obtain ⟨index, isThere⟩ := List.mem_iff_getElem?.mp depends
          obtain ⟨bound, -⟩ := List.getElem?_eq_some_iff.mp isThere
          obtain ⟨outcome, inside, isDone⟩ := done_of_results finished bound
          have child := inv.invocations (position ++ [index]) dependency (by rw [Target.at?_concat found, isThere])
          rw [isDone] at child
          cases outcome with
          | succeeded => exact child
          | failed => exact absurd inside noFailure
          | threw => exact absurd inside noError
        obtain ⟨started, extended, pending⟩ := inv.runOnce names (Target.reaches_of_at? found) succeeded
        have unchanged : (s.runOnce target.name).invocation = s.invocation := by
          unfold Scheduler.runOnce
          split <;> rfl
        refine started.setInvocation (by rw [unchanged]; exact free) fun target' found' => ?_
        obtain rfl := Option.some.inj (found.symm.trans found')
        exact pending
  next => cases stepped

theorem Inv.deliver (inv : Inv root s) (stepped : s.deliver root position = some s') : Inv root s' := by
  unfold Scheduler.deliver at stepped
  split at stepped
  next target found memoized =>
    split at stepped
    next outcome finished =>
      obtain rfl := Option.some.inj stepped
      refine inv.setInvocation (by simp [memoized]) fun target' found' => ?_
      obtain rfl := Option.some.inj (found.symm.trans found')
      cases outcome with
      | succeeded => exact finished
      | failed => exact .inl finished
      | threw => exact .inl finished
    next => cases stepped
  next => cases stepped

variable {name : String} {internal : Internal}

theorem Inv.setPending (inv : Inv root s) {holding : List String}
    (pending : (s.pending name).isSome = true) (unfinished : ∀ outcome, s.pending name ≠ some (.finished outcome))
    (resources : holding.Nodup)
    (running : ∀ other ∈ holding, Function.update s.pending name (some internal) other = some .running) :
    Inv root { s with pending := Function.update s.pending name (some internal), holding := holding } := by
  have isSome : ∀ other, (Function.update s.pending name (some internal) other).isSome = (s.pending other).isSome := by
    intro other
    by_cases same : other = name
    · simp [same, pending]
    · simp [same]
  have extended : s.Extends { s with pending := Function.update s.pending name (some internal), holding := holding } := by
    refine ⟨fun other isPending => by rwa [isSome], fun other outcome finished => ?_, fun _ _ => id⟩
    have different : other ≠ name := by
      rintro rfl
      exact unfinished outcome finished
    simpa [different] using finished
  refine ⟨inv.distinct, fun other => ?_, fun other isPending => ?_, fun target reaches isPending dependency depends => ?_,
    resources, running, fun position target found => extended.invocationInv (inv.invocations position target found)⟩
  · rw [isSome]
    exact inv.started other
  · rw [isSome] at isPending
    exact inv.known other isPending
  · rw [isSome] at isPending
    exact extended.finished _ _ (inv.after target reaches isPending dependency depends)

theorem Inv.acquire (inv : Inv root s) (stepped : s.acquire poolSize name = some s') : Inv root s' := by
  unfold Scheduler.acquire at stepped
  split at stepped
  next enabled =>
    obtain rfl := Option.some.inj stepped
    have free : name ∉ s.holding := by
      intro inside
      simp [inv.holding name inside] at enabled
    refine inv.setPending (by simp [enabled.1]) (by simp [enabled.1]) (List.nodup_cons.mpr ⟨free, inv.resources⟩)
      fun other inside => ?_
    by_cases same : other = name
    · simp [same]
    · simpa [same] using inv.holding other (by simpa [same] using inside)
  next => cases stepped

theorem Inv.finish (inv : Inv root s) (stepped : s.finish name outcome = some s') : Inv root s' := by
  unfold Scheduler.finish at stepped
  split at stepped
  next enabled =>
    obtain rfl := Option.some.inj stepped
    refine inv.setPending (by simp [enabled]) (by simp [enabled]) (inv.resources.erase _) fun other inside => ?_
    have different : other ≠ name := by
      rintro rfl
      exact inv.resources.not_mem_erase inside
    simpa [different] using inv.holding other (List.mem_of_mem_erase inside)
  next => cases stepped

theorem Inv.step (inv : Inv root s) (names : root.DistinctNames) (stepped : s.advance root poolSize event = some s') :
    Inv root s' := by
  cases event with
  | resume position => exact inv.resume names stepped
  | acquire name => exact inv.acquire stepped
  | finish name outcome => exact inv.finish stepped
  | deliver position => exact inv.deliver stepped

theorem inv_of_runs (names : root.DistinctNames) {log : List (Event × Unit)}
    (reached : Lib.Runs (step root poolSize) (fun _ _ => True) start log s) : Inv root s := by
  refine reached.preserves .start ?_
  intro s event answer s' inv _ stepped
  simp only [step] at stepped
  split at stepped
  next next advanced =>
    obtain ⟨-, rfl⟩ := Prod.mk.inj (Except.ok.inj stepped)
    exact inv.step names advanced
  next => cases stepped

/-! ## The result of a build -/

theorem Inv.succeeded_of_started (inv : Inv root s) (reaches : root.Reaches target)
    (pending : (s.pending target.name).isSome = true) {dependency other : Target}
    (depends : dependency ∈ target.dependencies) (transitive : dependency.Reaches other) :
    s.pending other.name = some (.finished .succeeded) := by
  have isTarget : root.Reaches dependency := .dependency reaches depends
  have succeeded := inv.after target reaches pending dependency depends
  suffices general : root.Reaches other ∧ s.pending other.name = some (.finished .succeeded) from general.2
  induction transitive with
  | root => exact ⟨isTarget, succeeded⟩
  | @dependency middle next before isDependency ih =>
    exact ⟨.dependency ih.1 isDependency, inv.after middle ih.1 (by simp [ih.2]) next isDependency⟩

theorem Inv.outcome_of_succeeded (inv : Inv root s) (found : root.at? position = some target)
    (succeeded : ∀ other, target.Reaches other → s.pending other.name = some (.finished .succeeded))
    (isDone : s.invocation position = .done outcome) : outcome = .succeeded := by
  -- by induction over the target: what has failed below it would be a dependency
  induction target using Target.inductionOn generalizing position with
  | step target ih =>
    have holds := inv.invocations position target found
    rw [isDone] at holds
    have below : ∀ index < target.dependencies.length, s.invocation (position ++ [index]) = .done outcome →
        outcome = .succeeded := by
      intro index bound child
      have isThere : target.dependencies[index]? = some target.dependencies[index] := List.getElem?_eq_getElem bound
      refine ih _ (List.getElem_mem bound) (by rw [Target.at?_concat found, isThere]) ?_ child
      intro other reaches
      exact succeeded other (Target.Reaches.trans (.dependency .root (List.getElem_mem bound)) reaches)
    have own := succeeded target .root
    cases outcome with
    | succeeded => rfl
    | failed | threw =>
      obtain finished | ⟨index, bound, child⟩ := holds
      · simp [own] at finished
      · exact below index bound child

theorem Inv.succeeded_of_done (inv : Inv root s) (found : root.at? position = some target)
    (isDone : s.invocation position = .done .succeeded) {other : Target} (reaches : target.Reaches other) :
    s.pending other.name = some (.finished .succeeded) := by
  induction reaches with
  | root =>
    have holds := inv.invocations position target found
    rw [isDone] at holds
    exact holds
  | dependency before depends ih =>
    exact inv.after _ ((Target.reaches_of_at? found).trans before) (by simp [ih]) _ depends

/-! ## The end of a build -/

def rank : Invocation → Nat
  | .waiting => 2
  | .memoized => 1
  | .done _ => 0

def rankInternal : Option Internal → Nat
  | none => 3
  | some .requested => 2
  | some .running => 1
  | some (.finished _) => 0

def workAt (root : Target) (s : Scheduler) (position : List Nat) : Nat :=
  rank (s.invocation position) + ((root.at? position).elim 0 fun target => rankInternal (s.pending target.name))

def work (root : Target) (s : Scheduler) : Nat := (root.positions.map (s.workAt root)).sum

structure Lessens (root : Target) (s s' : Scheduler) : Prop where
  invocation : ∀ position, rank (s'.invocation position) ≤ rank (s.invocation position)
  pending : ∀ name, rankInternal (s'.pending name) ≤ rankInternal (s.pending name)
  strict : ∃ position target, root.at? position = some target ∧
    (rank (s'.invocation position) < rank (s.invocation position) ∨
      rankInternal (s'.pending target.name) < rankInternal (s.pending target.name))

theorem Lessens.work_lt (lessens : s.Lessens root s') : s'.work root < s.work root := by
  refine List.sum_lt_sum _ _ (fun position _ => ?_) ?_
  · refine Nat.add_le_add (lessens.invocation position) ?_
    cases root.at? position with
    | none => exact Nat.le_refl _
    | some target => exact lessens.pending target.name
  · obtain ⟨position, target, found, strict⟩ := lessens.strict
    refine ⟨position, Target.mem_positions found, ?_⟩
    have invocation := lessens.invocation position
    have pending := lessens.pending target.name
    simp only [workAt, found, Option.elim_some]
    omega

theorem lessens_setInvocation (found : root.at? position = some target)
    (less : rank invocation < rank (s.invocation position)) : s.Lessens root (s.setInvocation position invocation) := by
  refine ⟨fun other => ?_, fun name => Nat.le_refl _, ⟨position, target, found, .inl ?_⟩⟩
  · by_cases same : other = position
    · subst same
      simpa [setInvocation] using less.le
    · simp [setInvocation, same]
  · simpa [setInvocation] using less

theorem lessens_invoke (found : root.at? position = some target)
    (waiting : s.invocation position = .waiting) : s.Lessens root (s.invoke target position results) := by
  unfold invoke
  split
  next => exact lessens_setInvocation found (by simp [waiting, rank])
  next =>
    split
    next => exact lessens_setInvocation found (by simp [waiting, rank])
    next =>
      -- the memo table may get a new entry
      have unchanged : (s.runOnce target.name).invocation = s.invocation := by
        unfold runOnce
        split <;> rfl
      have fewer : ∀ name, rankInternal ((s.runOnce target.name).pending name) ≤ rankInternal (s.pending name) := by
        intro name
        unfold runOnce
        split
        next fresh =>
          by_cases same : name = target.name
          · simp [same, fresh, rankInternal]
          · simp [same]
        next => exact Nat.le_refl _
      obtain ⟨invocation, pending, strict⟩ := lessens_setInvocation (s := s.runOnce target.name) found
        (show rank .memoized < _ by simp [unchanged, waiting, rank])
      rw [unchanged] at invocation strict
      refine ⟨invocation, fun name => (pending name).trans (fewer name), ?_⟩
      obtain ⟨other, target', isThere, less | less⟩ := strict
      · exact ⟨other, target', isThere, .inl less⟩
      · exact ⟨other, target', isThere, .inr (less.trans_le (fewer _))⟩

theorem Inv.lessens_setPending (inv : Inv root s) {holding : List String}
    (pending : (s.pending name).isSome = true) (less : rankInternal (some internal) < rankInternal (s.pending name)) :
    s.Lessens root { s with pending := Function.update s.pending name (some internal), holding := holding } := by
  obtain ⟨target, reaches, rfl⟩ := inv.known name pending
  obtain ⟨position, found⟩ := Target.exists_at?_of_reaches reaches
  refine ⟨fun _ => Nat.le_refl _, fun other => ?_, ⟨position, target, found, .inr (by simpa using less)⟩⟩
  by_cases same : other = target.name
  · simpa [same] using less.le
  · simp [same]

theorem Inv.lessens_step (inv : Inv root s) (stepped : s.advance root poolSize event = some s') :
    s.Lessens root s' := by
  cases event with
  | resume position =>
    simp only [advance, Scheduler.resume] at stepped
    split at stepped
    next target found waiting =>
      obtain ⟨results, -, rfl⟩ := Option.map_eq_some_iff.mp stepped
      exact lessens_invoke found waiting
    next => cases stepped
  | acquire name =>
    simp only [advance, Scheduler.acquire] at stepped
    split at stepped
    next enabled =>
      obtain rfl := Option.some.inj stepped
      exact inv.lessens_setPending (by simp [enabled.1]) (by simp [enabled.1, rankInternal])
    next => cases stepped
  | finish name outcome =>
    simp only [advance, Scheduler.finish] at stepped
    split at stepped
    next enabled =>
      obtain rfl := Option.some.inj stepped
      exact inv.lessens_setPending (by simp [enabled]) (by simp [enabled, rankInternal])
    next => cases stepped
  | deliver position =>
    simp only [advance, Scheduler.deliver] at stepped
    split at stepped
    next target found memoized =>
      split at stepped
      next outcome finished =>
        obtain rfl := Option.some.inj stepped
        exact lessens_setInvocation found (by simp [memoized, rank])
      next => cases stepped
    next => cases stepped

def Follows (root : Target) (poolSize : Nat) (s' s : Scheduler) : Prop := ∃ event, s.advance root poolSize event = some s'

theorem Inv.ends (inv : Inv root s) (names : root.DistinctNames) : Acc (Follows root poolSize) s := by
  -- by induction over the work that is left
  induction left : s.work root using Nat.strong_induction_on generalizing s with
  | _ left' ih =>
    refine ⟨s, fun s' ⟨event, stepped⟩ => ?_⟩
    have less := (inv.lessens_step stepped).work_lt
    exact ih _ (left ▸ less) (inv.step names stepped) rfl

theorem Inv.internal_goes_on (inv : Inv root s) (positive : 0 < poolSize)
    (pending : s.pending name = some internal) (unfinished : ∀ outcome, internal ≠ .finished outcome) :
    ∃ s', Follows root poolSize s' s := by
  cases internal with
  | requested =>
    by_cases free : s.holding.length < poolSize
    · exact ⟨_, .acquire name, by simp [advance, Scheduler.acquire, pending, free]; rfl⟩
    · obtain ⟨other, inside⟩ := List.exists_mem_of_length_pos (show 0 < s.holding.length by omega)
      exact ⟨_, .finish other .succeeded, by simp [advance, Scheduler.finish, inv.holding other inside]; rfl⟩
  | running => exact ⟨_, .finish name .succeeded, by simp [advance, Scheduler.finish, pending]; rfl⟩
  | finished outcome => exact absurd rfl (unfinished outcome)

theorem Inv.goes_on (inv : Inv root s) (positive : 0 < poolSize) (found : root.at? position = some target)
    (unfinished : ∀ outcome, s.invocation position ≠ .done outcome) : ∃ s', Follows root poolSize s' s := by
  induction target using Target.inductionOn generalizing position with
  | step target ih =>
    cases current : s.invocation position with
    | done outcome => exact absurd current (unfinished outcome)
    | memoized =>
      have pending := inv.invocations position target found
      rw [current] at pending
      obtain ⟨internal, pending⟩ := Option.isSome_iff_exists.mp pending
      by_cases finished : ∃ outcome, internal = .finished outcome
      · obtain ⟨outcome, rfl⟩ := finished
        exact ⟨_, .deliver position, by simp [advance, Scheduler.deliver, found, current, pending]; rfl⟩
      · exact inv.internal_goes_on positive pending (by simpa using finished)
    | waiting =>
      cases results : s.results target position with
      | some results =>
        exact ⟨_, .resume position, by simp [advance, Scheduler.resume, found, current, results]; rfl⟩
      | none =>
        -- one of the dependencies is not done
        obtain ⟨index, bound, open'⟩ : ∃ index < target.dependencies.length,
            ∀ outcome, s.invocation (position ++ [index]) ≠ .done outcome := by
          obtain ⟨index, inside, isNone⟩ := exists_none_of_mapM_eq_none results
          refine ⟨index, List.mem_range.mp inside, fun outcome isDone => ?_⟩
          simp [isDone, Invocation.result?] at isNone
        have isThere : target.dependencies[index]? = some target.dependencies[index] := List.getElem?_eq_getElem bound
        exact ih _ (List.getElem_mem bound) (by rw [Target.at?_concat found, isThere]) open'

/-! ## Scheduling -/

structure Scheduled (root : Target) (poolSize : Nat) (s : Scheduler) : Prop where
  once : s.started.Nodup
  after : ∀ target, root.Reaches target → target.name ∈ s.started →
    ∀ dependency ∈ target.dependencies, s.pending dependency.name = some (.finished .succeeded)
  /-- Nor if a transitive dependency does not succeed. -/
  not_after_failure : ∀ target, root.Reaches target → target.name ∈ s.started →
    ∀ dependency ∈ target.dependencies, ∀ other, dependency.Reaches other →
      s.pending other.name ≠ some (.finished .failed) ∧ s.pending other.name ≠ some (.finished .threw)
  result : ∀ outcome, s.invocation [] = .done outcome →
    (outcome = .succeeded ↔ ∀ target, root.Reaches target → s.pending target.name = some (.finished .succeeded))
  ends : Acc (Follows root poolSize) s
  complete : (∀ s', ¬ Follows root poolSize s' s) → ∃ outcome, s.invocation [] = .done outcome

theorem Inv.scheduled (inv : Inv root s) (names : root.DistinctNames) (positive : 0 < poolSize) :
    s.Scheduled root poolSize where
  once := inv.distinct
  after target reaches started := inv.after target reaches ((inv.started _).mp started)
  not_after_failure target reaches started dependency depends other transitive := by
    have succeeded := inv.succeeded_of_started reaches ((inv.started _).mp started) depends transitive
    simp [succeeded]
  result outcome isDone := by
    constructor
    · rintro rfl target reaches
      exact inv.succeeded_of_done Target.at?_nil isDone reaches
    · intro succeeded
      exact inv.outcome_of_succeeded Target.at?_nil succeeded isDone
  ends := inv.ends names
  complete stuck := by
    by_contra unfinished
    obtain ⟨s', follows⟩ := inv.goes_on positive Target.at?_nil (by simpa using unfinished)
    exact stuck s' follows

/-- In every interleaving, every target is started at most once and after all of its dependencies. -/
theorem scheduled_of_runs (names : root.DistinctNames) (positive : 0 < poolSize) {log : List (Event × Unit)}
    (reached : Lib.Runs (step root poolSize) (fun _ _ => True) start log s) : s.Scheduled root poolSize :=
  (inv_of_runs names reached).scheduled names positive

def diamond : Target := .mk "app" [.mk "left" [.mk "base" []], .mk "right" [.mk "base" []]]

theorem distinctNames_diamond : diamond.DistinctNames := by
  have targets : ∀ target, diamond.Reaches target → target ∈
      [diamond, .mk "left" [.mk "base" []], .mk "right" [.mk "base" []], .mk "base" []] := by
    intro target reaches
    induction reaches with
    | root => simp
    | dependency _ depends ih =>
      simp only [List.mem_cons, List.not_mem_nil, or_false] at ih
      obtain rfl | rfl | rfl | rfl := ih
      · obtain rfl | rfl : _ ∨ _ := by simpa [diamond, Target.dependencies] using depends
        · simp
        · simp
      · obtain rfl : _ = _ := by simpa [Target.dependencies] using depends
        simp
      · obtain rfl : _ = _ := by simpa [Target.dependencies] using depends
        simp
      · simp [Target.dependencies] at depends
  intro target other reaches reaches' same
  have inside := targets target reaches
  have inside' := targets other reaches'
  simp only [List.mem_cons, List.not_mem_nil, or_false] at inside inside'
  obtain rfl | rfl | rfl | rfl := inside <;> obtain rfl | rfl | rfl | rfl := inside' <;>
    first | rfl | simp [diamond, Target.name] at same

/-- The second caller of a memoizer waits for the first one. -/
theorem scheduled_of_runs_diamond : ∃ log s,
    Lib.Runs (step diamond 1) (fun _ _ => True) start log s ∧ s.started = ["base", "left", "right", "app"] ∧
      s.invocation [] = .done .succeeded ∧ s.Scheduled diamond 1 := by
  have ran : ∃ log s, Lib.run (step diamond 1) start
      [.resume [0, 0], .resume [1, 0], .acquire "base", .finish "base" .succeeded, .deliver [0, 0], .resume [0],
        .deliver [1, 0], .resume [1], .acquire "left", .finish "left" .succeeded, .acquire "right",
        .finish "right" .succeeded, .deliver [1], .deliver [0], .resume [], .acquire "app",
        .finish "app" .succeeded, .deliver []] = .ok (log, s) ∧
      s.started = ["base", "left", "right", "app"] ∧ s.invocation [] = .done .succeeded := ⟨_, _, rfl, rfl, rfl⟩
  obtain ⟨log, s, ran, started, result⟩ := ran
  have runs := Lib.runs_of_run (fun _ _ _ => trivial) ran
  exact ⟨log, s, runs, started, result, scheduled_of_runs distinctNames_diamond (by decide) runs⟩

end Scheduler

end FlutterZero.FlutterTools.BuildSystem
