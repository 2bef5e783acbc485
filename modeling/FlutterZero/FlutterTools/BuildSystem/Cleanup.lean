import FlutterZero.FlutterTools.BuildSystem.Skipping

/-! # Stale outputs

A target that has run deletes its previous outputs, unless some target has registered
them by then.

* `LiveInv` — registered outputs exist, and so do the files that running actions have written;
* `outputs_exist_of_no_clash` — the outputs of a successful build exist, if no target deletes
  what an action that is still running has written;
* `not_outputs_exist_moved_output` — an output that has moved to another target is deleted
  between its creation and its registration.
-/

namespace FlutterZero.FlutterTools.BuildSystem.Session

variable {Content Digest : Type} [DecidableEq Digest] {digest : Content → Digest}
  {s s' : Session Content Digest} {build : Build Content Digest} {event : Event Content} {name : String}
  {result : Option BuildResult}

def CreatesOutputs (s : Session Content Digest) : Event Content → Prop
  | .finish name .completed => ∀ build written, s.build = some build → build.phases name = .acting written →
      ∀ path ∈ build.environment.resolveOutputs name s.files, path ∈ written
  | _ => True

def DeletesNothingNew (build : Build Content Digest) (name : String) (outputs : List String) : Prop :=
  ∀ path ∈ staleOutputs build name outputs, ∀ other written, other ≠ name → build.phases other = .acting written →
    path ∉ written

/-- Moreover, a target that completes or is not needed does not delete what a running action has written. -/
def NoClash (s : Session Content Digest) (event : Event Content) : Prop :=
  s.CreatesOutputs event ∧ ∀ build, s.build = some build →
    match event with
    | .finish name .completed => DeletesNothingNew build name (build.environment.resolveOutputs name s.files)
    | .decide name true .completed => DeletesNothingNew build name []
    | _ => True

/-- Outputs that are registered exist, and so do those that running actions have written. -/
structure LiveInv (s : Session Content Digest) (build : Build Content Digest) : Prop where
  registered : ∀ path ∈ build.outputFiles, (s.files path).isSome = true
  written : ∀ name written, build.phases name = .acting written → ∀ path ∈ written, (s.files path).isSome = true

theorem exists_of_canSkip {node : Node} {files : Files Content} {store : FileStore Digest}
    (clean : (node.computeChanges digest files store).1 = true) :
    ∀ path ∈ node.outputs, (files path).isSome = true := by
  simp only [Node.computeChanges, Bool.not_eq_true', Bool.or_eq_false_iff] at clean
  have recorded := clean.1.2
  have present := clean.1.1.1.2
  intro path inside
  simp only [List.any_eq_false, Bool.not_eq_true', Bool.not_eq_false, Option.isNone_iff_eq_none,
    List.contains_iff_mem] at recorded present
  exact Option.isSome_iff_ne_none.mpr (present path (recorded path inside))

variable {build' : Build Content Digest}

theorem LiveInv.completed (live : LiveInv s build) {scheduler : Scheduler} {inputs outputs : List String}
    {last : LastAction Content} (created : ∀ path ∈ outputs, (s.files path).isSome = true)
    (nothingNew : DeletesNothingNew build name outputs)
    (building : (Session.completed digest s build scheduler name inputs outputs last).build = some build') :
    LiveInv (Session.completed digest s build scheduler name inputs outputs last) build' := by
  obtain rfl := Option.some.inj building
  refine ⟨fun path inside => ?_, fun other written acting path inside => ?_⟩
  · -- a registered output is not stale
    have kept : path ∉ staleOutputs build name outputs := by
      intro stale
      simp only [staleOutputs, List.mem_filter, Bool.and_eq_true, Bool.not_eq_true'] at stale
      have absent := stale.2.1
      rw [← Bool.not_eq_true, List.contains_iff_mem] at absent
      exact absent inside
    simp only [Session.completed, Session.delete, if_neg kept]
    obtain earlier | isOutput := List.mem_append.mp inside
    · exact live.registered path earlier
    · exact created path isOutput
  · have different : other ≠ name := by
      rintro rfl
      simp at acting
    simp only [Function.update_of_ne different] at acting
    have kept : path ∉ staleOutputs build name outputs := fun stale =>
      nothingNew path stale other written different acting inside
    simp only [Session.completed, Session.delete, if_neg kept]
    exact live.written other written acting path inside

omit [DecidableEq Digest] in
theorem LiveInv.of_same (live : LiveInv s build) (files : s'.files = s.files)
    (registered : build'.outputFiles = build.outputFiles)
    (acting : ∀ name written, build'.phases name = .acting written → written = [] ∨ build.phases name = .acting written) :
    LiveInv s' build' := by
  refine ⟨fun path inside => ?_, fun name written isActing path inside => ?_⟩
  · rw [files]
    exact live.registered path (registered ▸ inside)
  · rw [files]
    obtain rfl | before := acting name written isActing
    · cases inside
    · exact live.written name written before path inside

omit [DecidableEq Digest] in
theorem LiveInv.of_phase (live : LiveInv s build) {name : String} {phase : Phase}
    (files : s'.files = s.files) (registered : build'.outputFiles = build.outputFiles)
    (phases : build'.phases = Function.update build.phases name phase)
    (nothing : ∀ written, phase = .acting written → written = []) : LiveInv s' build' := by
  refine live.of_same files registered fun other written acting => ?_
  rw [phases] at acting
  by_cases same : other = name
  · exact .inl (nothing written (by simpa [same] using acting))
  · exact .inr (by simpa [same] using acting)

theorem live_step (inv : ∀ build, s.build = some build → LiveInv s build) (guard : s.NoClash event)
    (stepped : Steps digest s event result s') : ∀ build, s'.build = some build → LiveInv s' build := by
  intro build' building'
  cases stepped with
  | edit idle => simp [idle] at building'
  | start idle =>
    obtain rfl := Option.some.inj building'
    exact ⟨(fun path inside => by cases inside), (fun name written acting => by cases acting)⟩
  | @resume build position scheduler building resumed =>
    obtain rfl := Option.some.inj building'
    exact (inv build building).of_same rfl rfl fun _ _ => .inr
  | @deliver build position scheduler building delivered =>
    obtain rfl := Option.some.inj building'
    exact (inv build building).of_same rfl rfl fun _ _ => .inr
  | @skip build name acquired scheduler building resource finished depfile clean =>
    obtain rfl := Option.some.inj building'
    refine ⟨fun path inside => ?_, (inv build building).written⟩
    obtain earlier | isOutput := List.mem_append.mp inside
    · exact (inv build building).registered path earlier
    · exact exists_of_canSkip clean path isOutput
  | @examine build name acquired building resource =>
    obtain rfl := Option.some.inj building'
    exact (inv build building).of_phase rfl rfl rfl nofun
  | @notNeeded build name scheduler building deciding finished =>
    exact (inv build building).completed (by simp) (guard.2 build building) building'
  | @act build name building deciding =>
    obtain rfl := Option.some.inj building'
    exact (inv build building).of_phase rfl rfl rfl fun written isActing => (Phase.acting.inj isActing).symm
  | @write build name path content written building acting =>
    obtain rfl := Option.some.inj building'
    -- the file exists now, and no other file is gone
    have kept : ∀ other, (s.files other).isSome = true →
        (Function.update s.files path (some content) other).isSome = true := by
      intro other isThere
      by_cases same : other = path
      · simp [same]
      · simpa [same] using isThere
    refine ⟨fun other inside => kept other ((inv build building).registered other inside),
      fun other written' isActing file inside => ?_⟩
    by_cases same : other = name
    · simp only [same, Function.update_self, Phase.acting.injEq] at isActing
      subst isActing
      obtain rfl | earlier := List.mem_cons.mp inside
      · simp
      · exact kept file ((inv build building).written name written acting file earlier)
    · simp only [Function.update_of_ne same] at isActing
      exact kept file ((inv build building).written other written' isActing file inside)
  | @complete build name written scheduler building acting finished =>
    refine (inv build building).completed (fun path inside => ?_) (guard.2 build building) building'
    exact (inv build building).written name written acting path (guard.1 build written building acting path inside)
  | @failDeciding build name canSkip ending scheduler building deciding notCompleted finished =>
    obtain rfl := Option.some.inj building'
    exact (inv build building).of_phase rfl rfl rfl nofun
  | @exception build name written scheduler building acting finished =>
    obtain rfl := Option.some.inj building'
    exact (inv build building).of_phase rfl rfl rfl nofun
  | @error build name written scheduler building acting finished =>
    obtain rfl := Option.some.inj building'
    exact (inv build building).of_phase rfl rfl rfl nofun
  | @stop build outcome building isDone =>
    unfold Session.stop at building'
    split at building' <;> cases building'

def OutputsExist (digest : Content → Digest) (s : Session Content Digest) : Prop :=
  ∀ result s', s.advance digest .stop = some (some result, s') → result.success = true →
    ∀ path ∈ result.outputFiles, (s'.files path).isSome = true

/-- Whatever the stamps of earlier builds say, the outputs of a build exist, if no target deletes a
    file that an action that is still running has written. -/
theorem outputs_exist_of_no_clash {initial : Session Content Digest} (idle : initial.build = none)
    {log : List (Event Content × Option BuildResult)}
    (reached : Lib.Runs (step digest) NoClash initial log s) : s.OutputsExist digest := by
  have inv : ∀ build, s.build = some build → LiveInv s build := by
    have start : ∀ build, initial.build = some build → LiveInv initial build := by simp [idle]
    refine Lib.Runs.preserves (P := fun s => ∀ build, s.build = some build → LiveInv s build) reached start ?_
    intro s event result s' inv guard stepped
    exact live_step inv guard (steps_of_step stepped)
  intro result s' stopped success path inside
  cases building : s.build with
  | none => simp [advance, building] at stopped
  | some build =>
    simp only [advance, building, advanceBuild] at stopped
    split at stopped
    next outcome isDone =>
      unfold Session.stop at stopped
      split at stopped
      next => cases stopped
      next =>
        cases stopped
        -- what is left of another build is not among the outputs
        have live := (inv build building).registered path (List.mem_filter.mp inside).1
        have kept : path ∉ build.environment.lastOutputs.filter fun path =>
            !(build.outputFiles.filter fun path => !build.environment.isUnconditionalFile path).contains path &&
              !build.environment.preservedOutputFilePaths.contains path := by
          intro stale
          simp only [List.mem_filter, Bool.and_eq_true, Bool.not_eq_true'] at stale
          have absent := stale.2.1
          rw [← Bool.not_eq_true, List.contains_iff_mem] at absent
          exact absent inside
        simpa only [delete, if_neg kept] using live
    next => cases stopped

/-- Two independent targets: the output of the first has moved to the second. -/
def movedOutput : Environment Nat where
  resolveInputs _ _ := []
  containsNewDepfile _ _ := false
  resolveOutputs name _ := if name = "second" then ["p"] else []
  buildKey _ := none
  preservedOutputFilePaths := []
  resourcePoolSize := 2
  isUnconditionalFile _ := false
  lastOutputs := []

def afterEarlierBuild : Session Nat Nat :=
  { create (fun path => if path = "p" then some 0 else none) with
    stamps := fun name => if name = "first" then some ⟨["p"], none⟩ else none }

def bothTargets : Target := .mk "app" [.mk "first" [], .mk "second" []]

/-- Both targets run at the same time; the events in the middle say which of them ends first. -/
def bothRun (ends : List (Event Nat)) : List (Event Nat) :=
  [Event.start bothTargets movedOutput, Event.resume [0], Event.resume [1], Event.examine "first",
    Event.examine "second", Event.decide "first" false .completed, Event.decide "second" false .completed,
    Event.write "second" "p" 1] ++ ends ++
    [Event.deliver [0], Event.deliver [1], Event.resume [], Event.examine "app", Event.decide "app" false .completed,
      Event.finish "app" .completed, Event.deliver []]

def createsOutputs (s : Session Content Digest) : Event Content → Bool
  | .finish name .completed => s.build.all fun build =>
      match build.phases name with
      | .acting written => (build.environment.resolveOutputs name s.files).all written.contains
      | _ => true
  | _ => true

def deletesNothing (s : Session Content Digest) : Event Content → Bool
  | .finish name .completed => s.build.all fun build =>
      (staleOutputs build name (build.environment.resolveOutputs name s.files)).isEmpty
  | .decide name true .completed => s.build.all fun build => (staleOutputs build name []).isEmpty
  | _ => true

omit [DecidableEq Digest] in
theorem createsOutputs_sound (checked : s.createsOutputs event = true) : s.CreatesOutputs event := by
  unfold CreatesOutputs
  split
  next name =>
    intro build written building acting path inside
    simp only [createsOutputs, building, Option.all_some, acting, List.all_eq_true] at checked
    simpa using checked path inside
  next => trivial

omit [DecidableEq Digest] in
theorem noClash_of_deletesNothing (created : s.createsOutputs event = true) (nothing : s.deletesNothing event = true) :
    s.NoClash event := by
  refine ⟨createsOutputs_sound created, fun build building => ?_⟩
  split
  next name =>
    simp only [deletesNothing, building, Option.all_some, List.isEmpty_iff] at nothing
    simp [DeletesNothingNew, nothing]
  next name =>
    simp only [deletesNothing, building, Option.all_some, List.isEmpty_iff] at nothing
    simp [DeletesNothingNew, nothing]
  next => trivial

/-- The second target has registered the output before the first one ends. -/
theorem outputs_exist_of_no_clash_registered : ∃ log s,
    Lib.Runs (step (id : Nat → Nat)) NoClash afterEarlierBuild log s ∧
      (∃ s', s.advance id .stop = some (some ⟨true, ["p"]⟩, s')) ∧ s.OutputsExist id := by
  have ran : ∃ log s s', Lib.run (Lib.guarded (step id) ()
        fun s event => s.createsOutputs event && s.deletesNothing event) afterEarlierBuild
      (bothRun [.finish "second" .completed, .finish "first" .completed]) = .ok (log, s) ∧
      s.advance id .stop = some (some ⟨true, ["p"]⟩, s') := ⟨_, _, _, rfl, rfl⟩
  obtain ⟨log, s, s', ran, stopped⟩ := ran
  have runs : Lib.Runs (step id) NoClash afterEarlierBuild log s := by
    refine Lib.runs_of_run_guarded (fun s event checked => ?_) ran
    simp only [Bool.and_eq_true] at checked
    exact noClash_of_deletesNothing checked.1 checked.2
  exact ⟨log, s, runs, ⟨s', stopped⟩, outputs_exist_of_no_clash rfl runs⟩

/-- The first target ends between the creation of the output and its registration. -/
theorem not_outputs_exist_moved_output : ¬ ∀ (digest : Nat → Nat) (initial s : Session Nat Nat)
    (log : List (Event Nat × Option BuildResult)), initial.build = none →
      Lib.Runs (step digest) CreatesOutputs initial log s → s.OutputsExist digest := by
  intro always
  have ran : ∃ log s s', Lib.run (Lib.guarded (step id) () createsOutputs) afterEarlierBuild
      (bothRun [.finish "first" .completed, .finish "second" .completed]) = .ok (log, s) ∧
      s.advance id .stop = some (some ⟨true, ["p"]⟩, s') ∧ s'.files "p" = none := ⟨_, _, _, rfl, rfl, rfl⟩
  obtain ⟨log, s, s', ran, stopped, missing⟩ := ran
  have runs : Lib.Runs (step id) CreatesOutputs afterEarlierBuild log s :=
    Lib.runs_of_run_guarded (fun _ _ => createsOutputs_sound) ran
  have found := always id afterEarlierBuild s log rfl runs _ s' stopped rfl "p" (by simp)
  simp [missing] at found

end FlutterZero.FlutterTools.BuildSystem.Session
