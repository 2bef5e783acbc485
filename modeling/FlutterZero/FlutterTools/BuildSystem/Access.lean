import FlutterZero.FlutterTools.BuildSystem.Hashes

/-! # What targets read and write

* `Access.Fits` — every target that reads a file depends on the others that write it;
* `Session.Attended` — in a build, only the targets that run are at work;
* `Session.Attended.writer_succeeded` — a target is started after the writers of what it reads.
-/

namespace FlutterZero.FlutterTools.BuildSystem

variable {Content Digest : Type}

structure Access where
  reads : String → String → Prop
  writes : String → String → Prop

namespace Access

/-- The targets of a build read and write what they may, in an order. -/
structure Fits (access : Access) (root : Target) (environment : Environment Content) : Prop where
  names : root.DistinctNames
  inputs : ∀ name files, ∀ path ∈ environment.resolveInputs name files, access.reads name path
  outputs : ∀ name files, ∀ path ∈ environment.resolveOutputs name files, access.writes name path
  dependencies : ∀ target, root.Reaches target → ∀ path writer, access.reads target.name path →
    access.writes writer path → writer ≠ target.name →
      ∃ dependency ∈ target.dependencies, ∃ other, dependency.Reaches other ∧ other.name = writer

end Access

namespace Session

variable {access : Access} {s s' : Session Content Digest} {build build' : Build Content Digest}
  {event : Event Content} {result : Option BuildResult} {name : String}

/-- Actions write what they may, and fail only with exceptions. -/
def Respects (access : Access) : Event Content → Prop
  | .start root environment => access.Fits root environment
  | .decide _ _ ending => ending ≠ .error
  | .write name path _ => access.writes name path
  | .finish _ ending => ending ≠ .error
  | _ => True

structure Attended (access : Access) (build : Build Content Digest) : Prop where
  fits : access.Fits build.root build.environment
  scheduler : Scheduler.Inv build.root build.scheduler
  waits : Scheduler.WaitInv build.root build.scheduler
  noError : ∀ name, build.scheduler.pending name ≠ some (.finished .threw)
  working : ∀ name, build.phases name ≠ .idle → build.scheduler.pending name = some .running
  written : ∀ name written, build.phases name = .acting written → ∀ path ∈ written, access.writes name path
  inputs : ∀ name, ∀ path ∈ (build.nodes name).inputs, access.reads name path
  outputs : ∀ name, ∀ path ∈ (build.nodes name).outputs, access.writes name path
  previousOutputs : ∀ name, ∀ path ∈ (build.nodes name).previousOutputs, access.writes name path

theorem Attended.writer_succeeded (attended : Attended access build) {reader writer path : String}
    (started : (build.scheduler.pending reader).isSome = true) (reads : access.reads reader path)
    (writes : access.writes writer path) (different : writer ≠ reader) :
    build.scheduler.pending writer = some (.finished .succeeded) := by
  obtain ⟨target, reaches, rfl⟩ := attended.scheduler.known reader started
  obtain ⟨dependency, depends, other, transitive, rfl⟩ :=
    attended.fits.dependencies target reaches path writer reads writes different
  exact attended.scheduler.succeeded_of_started reaches started depends transitive

variable {scheduler : Scheduler} {fileCache : FileStore Digest}

theorem Attended.schedule (attended : Attended access build) {phases : String → Phase}
    {outputFiles : List String} (inv : Scheduler.Inv build.root scheduler)
    (waits : Scheduler.WaitInv build.root scheduler)
    (noError : ∀ name, scheduler.pending name ≠ some (.finished .threw))
    (working : ∀ name, phases name ≠ .idle → scheduler.pending name = some .running)
    (written : ∀ name written, phases name = .acting written → ∀ path ∈ written, access.writes name path) :
    Attended access { build with
      scheduler := scheduler, fileCache := fileCache, phases := phases, outputFiles := outputFiles } :=
  { attended with scheduler := inv, waits := waits, noError := noError, working := working, written := written }

theorem Attended.acquire (attended : Attended access build) {poolSize : Nat} {acquired : Scheduler}
    (resource : build.scheduler.acquire poolSize name = some acquired) : Attended access { build with
      scheduler := acquired, fileCache := fileCache, phases := Function.update build.phases name .deciding } := by
  obtain ⟨-, -, scheduled⟩ := Scheduler.acquire_eq_some resource
  refine attended.schedule (attended.scheduler.acquire resource) (attended.waits.acquire resource)
    (fun other => ?_) (fun other busy => ?_) fun other written acting => ?_
  · by_cases same : other = name
    · simp [scheduled, same]
    · simpa [scheduled, same] using attended.noError other
  · by_cases same : other = name
    · simp [scheduled, same]
    · simpa [scheduled, same] using attended.working other (by simpa [same] using busy)
  · by_cases same : other = name
    · simp [same] at acting
    · exact attended.written other written (by simpa [same] using acting)

theorem Attended.finish (attended : Attended access build) {outcome : Outcome} {outputFiles : List String}
    (finished : build.scheduler.finish name outcome = some scheduler) (noError : outcome ≠ .threw) :
    Attended access { build with
      scheduler := scheduler, fileCache := fileCache, phases := Function.update build.phases name .idle
      outputFiles := outputFiles } := by
  obtain ⟨-, scheduled⟩ := Scheduler.finish_eq_some finished
  refine attended.schedule (attended.scheduler.finish finished) (attended.waits.finish finished)
    (fun other => ?_) (fun other busy => ?_) fun other written acting => ?_
  · by_cases same : other = name
    · simpa [scheduled, same] using noError
    · simpa [scheduled, same] using attended.noError other
  · have different : other ≠ name := by
      rintro rfl
      simp at busy
    simpa [scheduled, different] using attended.working other (by simpa [different] using busy)
  · have different : other ≠ name := by
      rintro rfl
      simp at acting
    exact attended.written other written (by simpa [different] using acting)

theorem Attended.idle_of_requested (attended : Attended access build)
    (requested : build.scheduler.pending name = some .requested) : build.phases name = .idle := by
  by_contra busy
  have running := attended.working name busy
  rw [requested] at running
  cases running

/-- Stamps name files that their targets write, and a build in progress is attended. -/
structure AccessInv (access : Access) (s : Session Content Digest) : Prop where
  stamps : ∀ name stamp, s.stamps name = some stamp → ∀ path ∈ stamp.outputs, access.writes name path
  build : ∀ build, s.build = some build → Attended access build

variable [DecidableEq Digest] {digest : Content → Digest}

theorem AccessInv.completed (inv : AccessInv access s) (building : s.build = some build)
    (finished : build.scheduler.finish name .succeeded = some scheduler) {inputs outputs : List String}
    {last : LastAction Content} (writes : ∀ path ∈ outputs, access.writes name path) :
    AccessInv access (completed digest s build scheduler name inputs outputs last) where
  stamps other stamp stamped path inside := by
    by_cases same : other = name
    · subst same
      simp only [Session.completed, Function.update_self, Option.some.injEq] at stamped
      subst stamped
      exact writes path inside
    · exact inv.stamps other stamp (by simpa [Session.completed, same] using stamped) path inside
  build build' building' := by
    obtain rfl := Option.some.inj building'
    exact (inv.build build building).finish finished (by simp)

omit [DecidableEq Digest] in
theorem AccessInv.failed (inv : AccessInv access s) (building : s.build = some build)
    {outcome : Outcome} (finished : build.scheduler.finish name outcome = some scheduler) (noError : outcome ≠ .threw)
    {ending : Ending} {last : LastAction Content} : AccessInv access (failed s build scheduler name ending last) where
  stamps other stamp stamped := by
    refine inv.stamps other stamp ?_
    simp only [Session.failed] at stamped
    split at stamped
    · by_cases same : other = name
      · simp [same] at stamped
      · simpa [same] using stamped
    · exact stamped
  build build' building' := by
    obtain rfl := Option.some.inj building'
    exact (inv.build build building).finish finished noError

theorem AccessInv.step (inv : AccessInv access s) (respects : Respects access event)
    (stepped : Steps digest s event result s') : AccessInv access s' := by
  cases stepped with
  | edit idle => exact ⟨inv.stamps, fun build building => by simp [idle] at building⟩
  | @start root environment idle =>
    refine ⟨inv.stamps, fun build building => ?_⟩
    obtain rfl := Option.some.inj building
    have fits : access.Fits root environment := respects
    exact {
      fits := fits
      scheduler := .start
      waits := .start
      noError := fun name => by simp [Scheduler.start]
      working := fun name busy => absurd rfl busy
      written := fun name written acting => by cases acting
      inputs := fun name => fits.inputs name s.files
      outputs := fun name => fits.outputs name s.files
      previousOutputs := fun name path inside => by
        cases stamped : s.stamps name with
        | none => simp [Environment.toNode, Node.previousOutputs, stamped] at inside
        | some stamp =>
          exact inv.stamps name stamp stamped path
            (by simpa [Environment.toNode, Node.previousOutputs, stamped] using inside) }
  | @resume build position scheduler building resumed =>
    refine ⟨inv.stamps, fun build' building' => ?_⟩
    obtain rfl := Option.some.inj building'
    have attended := inv.build build building
    have pending := Scheduler.pending_of_resume resumed
    refine attended.schedule (attended.scheduler.resume attended.fits.names resumed) (attended.waits.resume resumed)
      (fun name threw => ?_) (fun name busy => ?_) attended.written
    · obtain same | ⟨-, requested⟩ := pending name
      · exact attended.noError name (same ▸ threw)
      · simp [requested] at threw
    · have running := attended.working name busy
      obtain same | ⟨fresh, -⟩ := pending name
      · rw [same, running]
      · simp [fresh] at running
  | @deliver build position scheduler building delivered =>
    refine ⟨inv.stamps, fun build' building' => ?_⟩
    obtain rfl := Option.some.inj building'
    have attended := inv.build build building
    have pending := Scheduler.pending_of_deliver delivered
    refine attended.schedule (attended.scheduler.deliver delivered) (attended.waits.deliver delivered)
      (fun name => ?_) (fun name busy => ?_) attended.written
    · rw [pending]
      exact attended.noError name
    · rw [pending]
      exact attended.working name busy
  | @skip build name acquired scheduler building resource finished depfile clean =>
    refine ⟨inv.stamps, fun build' building' => ?_⟩
    obtain rfl := Option.some.inj building'
    have attended := inv.build build building
    have examined : Attended access { build with
        scheduler := acquired, phases := Function.update build.phases name .deciding } := attended.acquire resource
    -- the target was idle, and is so again
    have idle : Function.update (Function.update build.phases name .deciding) name .idle = build.phases := by
      obtain ⟨requested, -, -⟩ := Scheduler.acquire_eq_some resource
      rw [Function.update_idem, ← attended.idle_of_requested requested, Function.update_eq_self]
    have done : Attended access { build with
        scheduler := scheduler
        fileCache := ((build.nodes name).computeChanges digest s.files build.fileCache).2
        phases := Function.update (Function.update build.phases name .deciding) name .idle
        outputFiles := build.outputFiles ++ (build.nodes name).outputs } := examined.finish finished (by simp)
    simpa only [idle] using done
  | @examine build name acquired building resource =>
    refine ⟨inv.stamps, fun build' building' => ?_⟩
    obtain rfl := Option.some.inj building'
    exact (inv.build build building).acquire resource
  | @notNeeded build name scheduler building deciding finished => exact inv.completed building finished (by simp)
  | @act build name building deciding =>
    refine ⟨inv.stamps, fun build' building' => ?_⟩
    obtain rfl := Option.some.inj building'
    have attended := inv.build build building
    refine attended.schedule attended.scheduler attended.waits attended.noError (fun other busy => ?_)
      fun other written acting => ?_
    · by_cases same : other = name
      · subst same
        exact attended.working other (by simp [deciding])
      · exact attended.working other (by simpa [same] using busy)
    · by_cases same : other = name
      · simp only [same, Function.update_self, Phase.acting.injEq] at acting
        simp [← acting]
      · exact attended.written other written (by simpa [same] using acting)
  | @failDeciding build name canSkip ending scheduler building deciding notCompleted finished =>
    cases ending with
    | completed => exact absurd rfl notCompleted
    | exception => exact inv.failed building finished (by simp)
    | error => exact absurd rfl respects
  | @write build name path content written building acting =>
    refine ⟨inv.stamps, fun build' building' => ?_⟩
    obtain rfl := Option.some.inj building'
    have attended := inv.build build building
    refine attended.schedule attended.scheduler attended.waits attended.noError (fun other busy => ?_)
      fun other written' acting' => ?_
    · by_cases same : other = name
      · subst same
        exact attended.working other (by simp [acting])
      · exact attended.working other (by simpa [same] using busy)
    · by_cases same : other = name
      · subst same
        simp only [Function.update_self, Phase.acting.injEq] at acting'
        subst acting'
        exact List.forall_mem_cons.mpr ⟨respects, attended.written other written acting⟩
      · exact attended.written other written' (by simpa [same] using acting')
  | @complete build name written scheduler building acting finished =>
    exact inv.completed building finished ((inv.build build building).fits.outputs name s.files)
  | @exception build name written scheduler building acting finished => exact inv.failed building finished (by simp)
  | @error build name written scheduler building acting finished => exact absurd rfl respects
  | @stop build outcome building isDone =>
    unfold Session.stop
    split
    · exact ⟨inv.stamps, fun build' building' => by cases building'⟩
    · exact ⟨inv.stamps, fun build' building' => by cases building'⟩

end Session

end FlutterZero.FlutterTools.BuildSystem
