import FlutterZero.FlutterTools.BuildSystem.Scheduling

/-! # Skipped targets

A target is skipped on account of a stamp and of the file cache, which are written at
different times.

* `Session.Unexamined` — a node that still stands for the stamp on disk;
* `noStaleSkip_of_no_error` — a target whose last action has failed is not skipped, unless an
  error that is not an `Exception` has left its stamp behind;
* `not_noStaleSkip_error` — such an error lets the next build skip the target.
-/

namespace FlutterZero.FlutterTools.BuildSystem

variable {Content Digest : Type} [DecidableEq Digest] {digest : Content → Digest}

namespace Scheduler

variable {s s' : Scheduler} {root : Target} {position : List Nat} {name other : String} {poolSize : Nat}
  {outcome : Outcome}

theorem pending_of_resume (stepped : s.resume root position = some s') (name : String) :
    s'.pending name = s.pending name ∨ s.pending name = none ∧ s'.pending name = some .requested := by
  unfold resume at stepped
  split at stepped
  next target _ _ =>
    obtain ⟨results, -, rfl⟩ := Option.map_eq_some_iff.mp stepped
    unfold invoke
    split
    next => exact .inl rfl
    next =>
      split
      next => exact .inl rfl
      next =>
        simp only [setInvocation, runOnce]
        split
        next fresh =>
          by_cases same : name = target.name
          · subst same
            exact .inr ⟨fresh, by simp⟩
          · exact .inl (by simp [same])
        next => exact .inl rfl
  next => cases stepped

theorem pending_of_deliver (stepped : s.deliver root position = some s') : s'.pending = s.pending := by
  unfold deliver at stepped
  split at stepped
  next =>
    split at stepped
    next =>
      obtain rfl := Option.some.inj stepped
      rfl
    next => cases stepped
  next => cases stepped

theorem acquire_eq_some (stepped : s.acquire poolSize name = some s') :
    s.pending name = some .requested ∧ s.holding.length < poolSize ∧
      s' = { s with pending := Function.update s.pending name (some .running), holding := name :: s.holding } := by
  unfold acquire at stepped
  split at stepped
  next enabled => exact ⟨enabled.1, enabled.2, (Option.some.inj stepped).symm⟩
  next => cases stepped

theorem finish_eq_some (stepped : s.finish name outcome = some s') :
    s.pending name = some .running ∧
      s' = { s with
        pending := Function.update s.pending name (some (.finished outcome)), holding := s.holding.erase name } := by
  unfold finish at stepped
  split at stepped
  next enabled => exact ⟨enabled, (Option.some.inj stepped).symm⟩
  next => cases stepped

end Scheduler

namespace Session

variable {s s' : Session Content Digest} {build build' : Build Content Digest} {event : Event Content} {name : String}
  {result : Option BuildResult}

/-! ## Steps of a build -/

abbrev withBuild (s : Session Content Digest) (build : Build Content Digest) : Session Content Digest :=
  { s with build := some build }

def cacheAfter (digest : Content → Digest) (s : Session Content Digest) (build : Build Content Digest) (name : String)
    (inputs outputs : List String) : FileStore Digest :=
  ((if (build.nodes name).missingDepfile then (build.fileCache.diffFileList digest s.files inputs).1
    else build.fileCache).diffFileList digest s.files outputs).1

/-- The state after `_invokeInternal` has succeeded without a skip. -/
def completed (digest : Content → Digest) (s : Session Content Digest) (build : Build Content Digest)
    (scheduler : Scheduler) (name : String) (inputs outputs : List String) (last : LastAction Content) :
    Session Content Digest where
  files := delete s.files (staleOutputs build name outputs)
  stamps := Function.update s.stamps name (some ⟨outputs, (build.nodes name).buildKey⟩)
  cache := s.cache
  build := some { build with
    scheduler := scheduler
    fileCache := cacheAfter digest s build name inputs outputs
    phases := Function.update build.phases name .idle
    outputFiles := build.outputFiles ++ outputs }
  last := Function.update s.last name last
  skips := s.skips

/-- The state after `_invokeInternal` has failed. -/
def failed (s : Session Content Digest) (build : Build Content Digest) (scheduler : Scheduler) (name : String)
    (ending : Ending) (last : LastAction Content) : Session Content Digest where
  files := s.files
  stamps := if ending = .exception then Function.update s.stamps name none else s.stamps
  cache := s.cache
  build := some { build with scheduler := scheduler, phases := Function.update build.phases name .idle }
  last := Function.update s.last name last
  skips := s.skips

inductive Steps (digest : Content → Digest) (s : Session Content Digest) :
    Event Content → Option BuildResult → Session Content Digest → Prop where
  | edit {path : String} {content : Option Content} (idle : s.build = none) :
      Steps digest s (.edit path content) none { s with files := Function.update s.files path content }
  | start {root : Target} {environment : Environment Content} (idle : s.build = none) :
      Steps digest s (.start root environment) none (s.withBuild
        ⟨root, environment, environment.toNode s.files s.stamps, .start, ⟨s.cache, fun _ => none⟩, fun _ => .idle, []⟩)
  | resume {build : Build Content Digest} {position : List Nat} {scheduler : Scheduler} (building : s.build = some build)
      (resumed : build.scheduler.resume build.root position = some scheduler) :
      Steps digest s (.resume position) none (s.withBuild { build with scheduler := scheduler })
  | deliver {build : Build Content Digest} {position : List Nat} {scheduler : Scheduler}
      (building : s.build = some build) (delivered : build.scheduler.deliver build.root position = some scheduler) :
      Steps digest s (.deliver position) none (s.withBuild { build with scheduler := scheduler })
  | skip {build : Build Content Digest} {name : String} {acquired scheduler : Scheduler}
      (building : s.build = some build)
      (resource : build.scheduler.acquire build.environment.resourcePoolSize name = some acquired)
      (finished : acquired.finish name .succeeded = some scheduler)
      (depfile : (build.nodes name).missingDepfile = false)
      (clean : ((build.nodes name).computeChanges digest s.files build.fileCache).1 = true) :
      Steps digest s (.examine name) none { s with
        last := Function.update s.last name ((s.last name).skipped (build.nodes name))
        skips := s.skips ++ [⟨name, s.last name, build.nodes name, s.files⟩]
        build := some { build with
          scheduler := scheduler
          fileCache := ((build.nodes name).computeChanges digest s.files build.fileCache).2
          outputFiles := build.outputFiles ++ (build.nodes name).outputs } }
  | examine {build : Build Content Digest} {name : String} {acquired : Scheduler} (building : s.build = some build)
      (resource : build.scheduler.acquire build.environment.resourcePoolSize name = some acquired) :
      Steps digest s (.examine name) none (s.withBuild { build with
        scheduler := acquired
        fileCache :=
          if (build.nodes name).missingDepfile then build.fileCache
          else ((build.nodes name).computeChanges digest s.files build.fileCache).2
        phases := Function.update build.phases name .deciding })
  | notNeeded {build : Build Content Digest} {name : String} {scheduler : Scheduler} (building : s.build = some build)
      (deciding : build.phases name = .deciding) (finished : build.scheduler.finish name .succeeded = some scheduler) :
      Steps digest s (.decide name true .completed) none (completed digest s build scheduler name [] [] .notNeeded)
  | act {build : Build Content Digest} {name : String} (building : s.build = some build)
      (deciding : build.phases name = .deciding) :
      Steps digest s (.decide name false .completed) none { s with
        last := Function.update s.last name .running
        build := some { build with phases := Function.update build.phases name (.acting []) } }
  | failDeciding {build : Build Content Digest} {name : String} {canSkip : Bool} {ending : Ending}
      {scheduler : Scheduler} (building : s.build = some build) (deciding : build.phases name = .deciding)
      (notCompleted : ending ≠ .completed)
      (finished : build.scheduler.finish name (if ending = .exception then .failed else .threw) = some scheduler) :
      Steps digest s (.decide name canSkip ending) none (failed s build scheduler name ending (s.last name))
  | write {build : Build Content Digest} {name path : String} {content : Content} {written : List String}
      (building : s.build = some build) (acting : build.phases name = .acting written) :
      Steps digest s (.write name path content) none { s with
        files := Function.update s.files path (some content)
        build := some { build with phases := Function.update build.phases name (.acting (path :: written)) } }
  | complete {build : Build Content Digest} {name : String} {written : List String} {scheduler : Scheduler}
      (building : s.build = some build) (acting : build.phases name = .acting written)
      (finished : build.scheduler.finish name .succeeded = some scheduler) :
      Steps digest s (.finish name .completed) none (completed digest s build scheduler name
        (build.environment.resolveInputs name s.files) (build.environment.resolveOutputs name s.files)
        (.completed s.files (build.nodes name).buildKey (build.environment.resolveInputs name s.files)
          (build.environment.resolveOutputs name s.files)))
  | exception {build : Build Content Digest} {name : String} {written : List String} {scheduler : Scheduler}
      (building : s.build = some build) (acting : build.phases name = .acting written)
      (finished : build.scheduler.finish name .failed = some scheduler) :
      Steps digest s (.finish name .exception) none (failed s build scheduler name .exception .exception)
  | error {build : Build Content Digest} {name : String} {written : List String} {scheduler : Scheduler}
      (building : s.build = some build) (acting : build.phases name = .acting written)
      (finished : build.scheduler.finish name .threw = some scheduler) :
      Steps digest s (.finish name .error) none (failed s build scheduler name .error .error)
  | stop {build : Build Content Digest} {outcome : Outcome} (building : s.build = some build)
      (isDone : build.scheduler.invocation [] = .done outcome) :
      Steps digest s .stop (stop s build outcome).1 (stop s build outcome).2

theorem steps_examine (building : s.build = some build) (stepped : examine digest s build name = some s') :
    Steps digest s (.examine name) none s' := by
  obtain ⟨acquired, resource, stepped⟩ := Option.bind_eq_some_iff.mp stepped
  cases depfile : (build.nodes name).missingDepfile with
  | true =>
    have examined : Steps digest s (.examine name) none _ := .examine building resource
    simp only [depfile, if_true] at stepped examined
    simp only [Bool.false_eq_true, if_false, Option.some.injEq] at stepped
    rw [← stepped]
    exact examined
  | false =>
    simp only [depfile, Bool.false_eq_true, if_false] at stepped
    split at stepped
    next clean =>
      obtain ⟨scheduler, finished, rfl⟩ := Option.map_eq_some_iff.mp stepped
      exact .skip building resource finished depfile clean
    next =>
      have examined : Steps digest s (.examine name) none _ := .examine building resource
      simp only [depfile, Bool.false_eq_true, if_false] at examined
      rw [← Option.some.inj stepped]
      exact examined

theorem steps_of_advance (stepped : s.advance digest event = some (result, s')) : Steps digest s event result s' := by
  unfold advance at stepped
  split at stepped
  next idle =>
    cases stepped
    exact .edit idle
  next idle =>
    cases stepped
    exact .start idle
  next => cases stepped
  next event _ _ build building =>
    cases event with
    | edit | start => cases stepped
    | resume position =>
      obtain ⟨scheduler, resumed, same⟩ := Option.map_eq_some_iff.mp stepped
      cases same
      exact .resume building resumed
    | deliver position =>
      obtain ⟨scheduler, delivered, same⟩ := Option.map_eq_some_iff.mp stepped
      cases same
      exact .deliver building delivered
    | examine name =>
      obtain ⟨next, examined, same⟩ := Option.map_eq_some_iff.mp stepped
      cases same
      exact steps_examine building examined
    | decide name canSkip ending =>
      simp only [advanceBuild] at stepped
      split at stepped
      next deciding =>
        split at stepped
        next =>
          obtain ⟨next, completed, same⟩ := Option.map_eq_some_iff.mp stepped
          cases same
          obtain ⟨scheduler, finished, rfl⟩ := Option.map_eq_some_iff.mp completed
          exact .notNeeded building deciding finished
        next =>
          cases stepped
          exact .act building deciding
        next notSkipped notRun =>
          obtain ⟨next, failed, same⟩ := Option.map_eq_some_iff.mp stepped
          cases same
          obtain ⟨scheduler, finished, rfl⟩ := Option.map_eq_some_iff.mp failed
          refine .failDeciding building deciding (fun isCompleted => ?_) finished
          cases skips : canSkip with
          | true => exact notSkipped isCompleted skips
          | false => exact notRun isCompleted skips
      next => cases stepped
    | write name path content =>
      simp only [advanceBuild] at stepped
      split at stepped
      next written acting =>
        cases stepped
        exact .write building acting
      next => cases stepped
    | finish name ending =>
      simp only [advanceBuild] at stepped
      split at stepped
      next written acting =>
        obtain ⟨next, completed, same⟩ := Option.map_eq_some_iff.mp stepped
        cases same
        obtain ⟨scheduler, finished, rfl⟩ := Option.map_eq_some_iff.mp completed
        exact .complete building acting finished
      next written acting =>
        obtain ⟨next, failed, same⟩ := Option.map_eq_some_iff.mp stepped
        cases same
        obtain ⟨scheduler, finished, rfl⟩ := Option.map_eq_some_iff.mp failed
        exact .exception building acting finished
      next written acting =>
        obtain ⟨next, failed, same⟩ := Option.map_eq_some_iff.mp stepped
        cases same
        obtain ⟨scheduler, finished, rfl⟩ := Option.map_eq_some_iff.mp failed
        exact .error building acting finished
      next => cases stepped
    | stop =>
      simp only [advanceBuild] at stepped
      split at stepped
      next outcome isDone =>
        obtain ⟨rfl, rfl⟩ := Prod.mk.inj (Option.some.inj stepped)
        exact .stop building isDone
      next => cases stepped

theorem steps_of_step (stepped : s.step digest event = .ok (result, s')) : Steps digest s event result s' := by
  rw [step] at stepped
  split at stepped
  next next advanced =>
    obtain rfl := Except.ok.inj stepped
    exact steps_of_advance advanced
  next => cases stepped

theorem stamp_of_canSkip {node : Node} {files : Files Content} {store : FileStore Digest}
    (clean : (node.computeChanges digest files store).1 = true) : node.stamp.isSome = true := by
  simp only [Node.computeChanges, Bool.not_eq_true', Bool.or_eq_false_iff] at clean
  simpa using clean.1.1.1.1.1.1.1.1

/-! ## Failed actions -/

/-- No target was skipped after its last action had failed. -/
def NoStaleSkip (s : Session Content Digest) : Prop := ∀ skip ∈ s.skips, skip.last ≠ .exception ∧ skip.last ≠ .error

def NoErrorWithStamp (s : Session Content Digest) : Event Content → Prop
  | .finish name .error => s.stamps name = none
  | _ => True

/-- `_invokeInternal` of the target has not got its resource yet. -/
def Unexamined (build : Build Content Digest) (name : String) : Prop :=
  build.scheduler.pending name = none ∨ build.scheduler.pending name = some .requested

theorem hasFailed_skipped (last : LastAction Content) (node : Node) :
    (last.skipped node = .exception ∨ last.skipped node = .error) ↔ (last = .exception ∨ last = .error) := by
  cases last <;> simp [LastAction.skipped]

def HasFailed (s : Session Content Digest) (name : String) : Prop :=
  s.last name = .exception ∨ s.last name = .error

structure StampInv (s : Session Content Digest) : Prop where
  cleared : ∀ name, s.HasFailed name → s.stamps name = none
  nodes : ∀ build, s.build = some build → ∀ name, Unexamined build name → (build.nodes name).stamp = s.stamps name
  skips : s.NoStaleSkip

omit [DecidableEq Digest] in
theorem StampInv.of_same (inv : s.StampInv) (stamps : s'.stamps = s.stamps) (last : s'.last = s.last)
    (skips : s'.skips = s.skips)
    (nodes : ∀ build', s'.build = some build' → ∃ build, s.build = some build ∧ build'.nodes = build.nodes ∧
      ∀ name, Unexamined build' name → Unexamined build name) : s'.StampInv where
  cleared name hasFailed := by
    rw [HasFailed, last] at hasFailed
    rw [stamps]
    exact inv.cleared name hasFailed
  nodes build' building' name unexamined := by
    obtain ⟨build, building, same, before⟩ := nodes build' building'
    rw [same, stamps]
    exact inv.nodes build building name (before name unexamined)
  skips := by
    rw [NoStaleSkip, skips]
    exact inv.skips

omit [DecidableEq Digest] in
theorem StampInv.of_finish (inv : s.StampInv) (building : s.build = some build) {scheduler : Scheduler}
    {outcome : Outcome} (finished : build.scheduler.finish name outcome = some scheduler)
    (after : ∃ build', s'.build = some build' ∧ build'.nodes = build.nodes ∧ build'.scheduler = scheduler)
    (stamps : ∀ other, other ≠ name → s'.stamps other = s.stamps other)
    (last : ∀ other, other ≠ name → s'.last other = s.last other) (skips : s'.skips = s.skips)
    (cleared : s'.HasFailed name → s'.stamps name = none) : s'.StampInv := by
  obtain ⟨build', building', nodes, rfl⟩ := after
  obtain ⟨-, scheduled⟩ := Scheduler.finish_eq_some finished
  refine ⟨fun other hasFailed => ?_, fun next isNext other unexamined => ?_, by rw [NoStaleSkip, skips]; exact inv.skips⟩
  · by_cases same : other = name
    · subst same
      exact cleared hasFailed
    · rw [HasFailed, last other same] at hasFailed
      rw [stamps other same]
      exact inv.cleared other hasFailed
  · obtain rfl := Option.some.inj (building'.symm.trans isNext)
    rw [Unexamined, scheduled] at unexamined
    have different : other ≠ name := by
      rintro rfl
      simp at unexamined
    simp only [Function.update_of_ne different] at unexamined
    rw [nodes, stamps other different]
    exact inv.nodes build building other unexamined

theorem StampInv.step (inv : s.StampInv) (guard : s.NoErrorWithStamp event) (stepped : Steps digest s event result s') :
    s'.StampInv := by
  cases stepped with
  | edit idle => exact inv.of_same rfl rfl rfl fun build' building' => by simp [idle] at building'
  | @start root environment idle =>
    refine ⟨inv.cleared, fun build building name _ => ?_, inv.skips⟩
    obtain rfl := Option.some.inj building
    rfl
  | @resume build position scheduler building resumed =>
    refine inv.of_same rfl rfl rfl fun build' building' => ⟨build, building, ?_⟩
    obtain rfl := Option.some.inj building'
    refine ⟨rfl, fun name unexamined => ?_⟩
    obtain same | ⟨fresh, -⟩ := Scheduler.pending_of_resume resumed name
    · rwa [Unexamined, same] at unexamined
    · exact .inl fresh
  | @deliver build position scheduler building delivered =>
    refine inv.of_same rfl rfl rfl fun build' building' => ⟨build, building, ?_⟩
    obtain rfl := Option.some.inj building'
    refine ⟨rfl, fun name unexamined => ?_⟩
    rwa [Unexamined, Scheduler.pending_of_deliver delivered] at unexamined
  | @skip build name acquired scheduler building resource finished depfile clean =>
    obtain ⟨requested, -, rfl⟩ := Scheduler.acquire_eq_some resource
    obtain ⟨-, rfl⟩ := Scheduler.finish_eq_some finished
    -- the stamp is still on disk, so that the last action has not failed
    have stamped : (s.stamps name).isSome = true := by
      rw [← inv.nodes build building name (.inr requested)]
      exact stamp_of_canSkip clean
    have notFailed : ¬ s.HasFailed name := by
      intro hasFailed
      simp [inv.cleared name hasFailed] at stamped
    refine ⟨fun other hasFailed => ?_, fun build' building' other unexamined => ?_, fun skip inside => ?_⟩
    · by_cases same : other = name
      · subst same
        refine absurd ?_ notFailed
        simpa [HasFailed, hasFailed_skipped] using hasFailed
      · exact inv.cleared other (by simpa [HasFailed, same] using hasFailed)
    · obtain rfl := Option.some.inj building'
      have different : other ≠ name := by
        rintro rfl
        simp [Unexamined] at unexamined
      simp only [Unexamined, Function.update_of_ne different] at unexamined
      exact inv.nodes build building other unexamined
    · rw [List.mem_append, List.mem_singleton] at inside
      obtain inside | rfl := inside
      · exact inv.skips skip inside
      · exact ⟨fun failed => notFailed (.inl failed), fun failed => notFailed (.inr failed)⟩
  | @examine build name acquired building resource =>
    obtain ⟨requested, -, rfl⟩ := Scheduler.acquire_eq_some resource
    refine inv.of_same rfl rfl rfl fun build' building' => ⟨build, building, ?_⟩
    obtain rfl := Option.some.inj building'
    refine ⟨rfl, fun other unexamined => ?_⟩
    by_cases same : other = name
    · subst same
      exact .inr requested
    · simpa [Unexamined, same] using unexamined
  | @notNeeded build name scheduler building deciding finished =>
    refine inv.of_finish building finished ⟨_, rfl, rfl, rfl⟩ (fun other different => ?_) (fun other different => ?_) rfl ?_
    · simp [completed, different]
    · simp [completed, different]
    · simp [completed, HasFailed]
  | @act build name building deciding =>
    refine ⟨fun other hasFailed => ?_, fun build' building' other unexamined => ?_, inv.skips⟩
    · by_cases same : other = name
      · simp [HasFailed, same] at hasFailed
      · exact inv.cleared other (by simpa [HasFailed, same] using hasFailed)
    · obtain rfl := Option.some.inj building'
      exact inv.nodes build building other unexamined
  | @failDeciding build name canSkip ending scheduler building deciding notCompleted finished =>
    refine inv.of_finish building finished ⟨_, rfl, rfl, rfl⟩ (fun other different => ?_) (fun other different => ?_) rfl ?_
    · simp only [failed]
      split <;> simp [different]
    · simp [failed]
    · intro hasFailed
      simp only [failed]
      split
      · simp
      · exact inv.cleared name (by simpa [failed, HasFailed] using hasFailed)
  | @write build name path content written building acting =>
    refine inv.of_same rfl rfl rfl fun build' building' => ⟨build, building, ?_⟩
    obtain rfl := Option.some.inj building'
    exact ⟨rfl, fun _ => id⟩
  | @complete build name written scheduler building acting finished =>
    refine inv.of_finish building finished ⟨_, rfl, rfl, rfl⟩ (fun other different => ?_) (fun other different => ?_) rfl ?_
    · simp [completed, different]
    · simp [completed, different]
    · simp [completed, HasFailed]
  | @exception build name written scheduler building acting finished =>
    refine inv.of_finish building finished ⟨_, rfl, rfl, rfl⟩ (fun other different => ?_) (fun other different => ?_) rfl ?_
    · simp [failed, different]
    · simp [failed, different]
    · simp [failed]
  | @error build name written scheduler building acting finished =>
    refine inv.of_finish building finished ⟨_, rfl, rfl, rfl⟩ (fun other different => ?_) (fun other different => ?_) rfl ?_
    · simp [failed]
    · simp [failed, different]
    · intro _
      exact guard
  | @stop build outcome building isDone =>
    unfold Session.stop
    split
    · exact inv.of_same rfl rfl rfl fun build' building' => by cases building'
    · exact inv.of_same rfl rfl rfl fun build' building' => by cases building'

theorem stampInv_of_runs {files : Files Content} {log : List (Event Content × Option BuildResult)}
    (reached : Lib.Runs (step digest) NoErrorWithStamp (create files) log s) : s.StampInv := by
  refine reached.preserves ⟨fun name hasFailed => ?_, (fun build building => by cases building), fun skip inside => ?_⟩ ?_
  · simp [HasFailed, create] at hasFailed
  · cases inside
  · intro s event result s' inv guard stepped
    exact inv.step guard (steps_of_step stepped)

/-- In every run in which no action of a target with a stamp ends with an error, no target is
    skipped after its last action has failed. -/
theorem noStaleSkip_of_no_error {files : Files Content} {log : List (Event Content × Option BuildResult)}
    (reached : Lib.Runs (step digest) NoErrorWithStamp (create files) log s) : s.NoStaleSkip :=
  (stampInv_of_runs reached).skips

def oneTarget : Environment Nat where
  resolveInputs _ _ := ["in"]
  containsNewDepfile _ _ := false
  resolveOutputs _ _ := ["out"]
  buildKey _ := none
  preservedOutputFilePaths := []
  resourcePoolSize := 1
  isUnconditionalFile _ := false
  lastOutputs := []

def oneBuild (ending : Ending) : List (Event Nat) :=
  [.start (.mk "app" []) oneTarget, .resume [], .examine "app", .decide "app" false .completed, .write "app" "out" 0,
    .finish "app" ending, .deliver [], .stop]

def oneExamination : List (Event Nat) := [.start (.mk "app" []) oneTarget, .resume [], .examine "app"]

def oneInput : Files Nat := fun path => if path = "in" then some 0 else none

/-- An exception clears the stamp, and the target is run again; then it is skipped. -/
theorem noStaleSkip_of_no_error_exception : ∃ log s,
    Lib.Runs (step (id : Nat → Nat)) NoErrorWithStamp (create oneInput) log s ∧ s.skips.map Skip.name = ["app"] ∧
      s.NoStaleSkip := by
  have ran : ∃ log s, Lib.run (step id) (create oneInput)
      (oneBuild .completed ++ [.edit "in" (some 1)] ++ oneBuild .exception ++ oneBuild .completed ++ oneExamination) =
        .ok (log, s) ∧ s.skips.map Skip.name = ["app"] := ⟨_, _, rfl, rfl⟩
  obtain ⟨log, s, ran, skips⟩ := ran
  have runs : Lib.Runs (step id) NoErrorWithStamp (create oneInput) log s := by
    refine Lib.runs_of_run ?_ ran
    simp [oneBuild, oneExamination, NoErrorWithStamp]
  exact ⟨log, s, runs, skips, noStaleSkip_of_no_error runs⟩

/-- An error leaves the stamp behind, while the hash of the edited input is stored. -/
theorem not_noStaleSkip_error : ¬ ∀ (digest : Nat → Nat), Function.Injective digest →
    ∀ (files : Files Nat) (log : List (Event Nat × Option BuildResult)) (s : Session Nat Nat),
      Lib.Runs (step digest) (fun _ _ => True) (create files) log s → s.NoStaleSkip := by
  intro always
  have ran : ∃ log s last, Lib.run (step id) (create oneInput)
      (oneBuild .completed ++ [.edit "in" (some 1)] ++ oneBuild .error ++ oneExamination) = .ok (log, s) ∧
      s.skips = [last] ∧ last.last = .error := ⟨_, _, _, rfl, rfl, rfl⟩
  obtain ⟨log, s, last, ran, skips, isError⟩ := ran
  have runs := Lib.runs_of_run (fun _ _ _ => trivial) ran
  exact (always id Function.injective_id oneInput log s runs last (by simp [skips])).2 isError

end Session

end FlutterZero.FlutterTools.BuildSystem
