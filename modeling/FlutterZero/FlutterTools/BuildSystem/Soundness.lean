import FlutterZero.FlutterTools.BuildSystem.Access

/-! # Skipped targets and the contents of their files

A target is skipped when the stamp and the keys of its files are those of the last build.
The keys are shared by all targets, so that they say something about the last action of the
target only together.

* `Session.Tracked` — what the keys say about one target, before and after its turn;
* `Session.sameContents_of_runs` — a skipped target has the contents of its last action;
* `Session.not_sameContents` — four ways in which it has not, where targets share a file.
-/

namespace FlutterZero.FlutterTools.BuildSystem.Session

variable {Content Digest : Type} {access : Access} {subject own : String} {digest : Content → Digest}
  {s s' : Session Content Digest} {build build' : Build Content Digest} {event : Event Content}
  {result : Option BuildResult} {name path : String}

/-! ## Declared outputs and unchanged contents -/

/-- A target that ends declares what it has written, or had recorded, and some target reads. -/
def Declares (access : Access) (s : Session Content Digest) : Event Content → Prop
  | .finish name .completed => ∀ build written, s.build = some build → build.phases name = .acting written →
      ∀ path reader, access.reads reader path → path ∈ written ∨ path ∈ (build.nodes name).previousOutputs →
        path ∈ build.environment.resolveOutputs name s.files
  | .decide name true .completed => ∀ build, s.build = some build →
      ∀ path reader, access.reads reader path → path ∉ (build.nodes name).previousOutputs
  | _ => True

/-- Nobody else reads an output of the target, or writes what it writes. -/
structure Exclusive (access : Access) (subject own : String) : Prop where
  writes : access.writes subject own
  reader : ∀ name, access.reads name own → name = subject
  writer : ∀ name path, access.writes subject path → access.writes name path → name = subject

/-- Since the last completed action nothing has changed: the key, the outputs, their contents, and those of the inputs
    that were inputs all the time. -/
def SameContents (skip : Skip Content) : Prop :=
  ∃ files buildKey inputs outputs, skip.last = .completed files buildKey inputs outputs ∧
    skip.node.buildKey = buildKey ∧ (∀ path, path ∈ skip.node.outputs ↔ path ∈ outputs) ∧
    (∀ path ∈ skip.node.outputs, skip.files path = files path) ∧
    ∀ path ∈ skip.node.inputs, path ∈ inputs → skip.files path = files path

/-! ## The invariant -/

def Disturbed (access : Access) (build : Build Content Digest) (path : String) : Prop :=
  (∃ name written, build.phases name = .acting written ∧ path ∈ written) ∨
    ∃ name, access.writes name path ∧ build.scheduler.pending name = some (.finished .failed)

def Current (access : Access) (subject : String) (digest : Content → Digest) (files : Files Content)
    (build : Build Content Digest) : Prop :=
  ∀ path, access.reads subject path → ∀ key, build.fileCache.currentAssetKeys path = some key →
    (files path).map digest = some key ∨ Disturbed access build path

def Remembers (own : String) (digest : Content → Digest) (keys : String → Option Digest) (last : LastAction Content)
    (stamp : Option Stamp) : Prop :=
  ∀ recorded, stamp = some recorded → own ∈ recorded.outputs →
    ∃ files inputs, last = .completed files recorded.buildKey inputs recorded.outputs ∧
      ∀ path, path ∈ inputs ∨ path ∈ recorded.outputs → ∀ key, keys path = some key →
        (files path).map digest = some key

def Settled (access : Access) (subject own : String) (digest : Content → Digest) (s : Session Content Digest)
    (build : Build Content Digest) : Prop :=
  ∀ recorded, s.stamps subject = some recorded → own ∈ recorded.outputs →
    ∃ files inputs, s.last subject = .completed files recorded.buildKey inputs recorded.outputs ∧
      ∀ path, path ∈ inputs ∨ path ∈ recorded.outputs →
        (access.reads subject path ∨ access.writes subject path) ∧ s.files path = files path ∧
          ∀ key, build.fileCache.currentAssetKeys path = some key → (files path).map digest = some key

structure Tracked (access : Access) (subject own : String) (digest : Content → Digest) (s : Session Content Digest)
    (build : Build Content Digest) : Prop where
  current : Current access subject digest s.files build
  stamp : Unexamined build subject → (build.nodes subject).stamp = s.stamps subject
  /-- Without a previous key for the exclusive output, the target will not be skipped. -/
  previous : Unexamined build subject → build.fileCache.previousAssetKeys own ≠ none →
    Remembers own digest build.fileCache.previousAssetKeys (s.last subject) (s.stamps subject)
  noKeys : Unexamined build subject → ∀ path, access.writes subject path →
    build.fileCache.currentAssetKeys path = none
  succeeded : build.scheduler.pending subject = some (.finished .succeeded) → Settled access subject own digest s build
  failed : build.scheduler.pending subject = some (.finished .failed) → s.stamps subject = none

theorem Tracked.of_started (current : Current access subject digest s.files build)
    (started : ¬ Unexamined build subject)
    (succeeded : build.scheduler.pending subject = some (.finished .succeeded) →
      Settled access subject own digest s build)
    (failed : build.scheduler.pending subject = some (.finished .failed) → s.stamps subject = none) :
    Tracked access subject own digest s build where
  current := current
  stamp := fun unexamined => absurd unexamined started
  previous := fun unexamined => absurd unexamined started
  noKeys := fun unexamined => absurd unexamined started
  succeeded := succeeded
  failed := failed

theorem Remembers.of_fewer {keys keys' : String → Option Digest} {last : LastAction Content} {stamp : Option Stamp}
    (remembers : Remembers own digest keys last stamp) (fewer : ∀ path, keys' path = keys path ∨ keys' path = none) :
    Remembers own digest keys' last stamp := by
  intro recorded stamped owns
  obtain ⟨files, inputs, completed, same⟩ := remembers recorded stamped owns
  refine ⟨files, inputs, completed, fun path inside key found => ?_⟩
  obtain kept | lost := fewer path
  · exact same path inside key (kept ▸ found)
  · rw [lost] at found
    cases found

theorem Attended.not_disturbed (attended : Attended access build)
    (started : (build.scheduler.pending subject).isSome = true) (reads : access.reads subject path)
    (notWritten : ∀ written, build.phases subject = .acting written → path ∉ written)
    (notFailed : build.scheduler.pending subject ≠ some (.finished .failed)) : ¬ Disturbed access build path := by
  rintro (⟨name, written, acting, inside⟩ | ⟨name, writes, failed⟩)
  · by_cases same : name = subject
    · subst same
      exact notWritten written acting inside
    · have succeeded := attended.writer_succeeded started reads (attended.written name written acting path inside) same
      rw [attended.working name (by simp [acting])] at succeeded
      cases succeeded
  · by_cases same : name = subject
    · subst same
      exact notFailed failed
    · have succeeded := attended.writer_succeeded started reads writes same
      rw [failed] at succeeded
      cases succeeded

/-! ## Steps of other targets -/

theorem Attended.not_unexamined (attended : Attended access build)
    (started : (build.scheduler.pending name).isSome = true) (other : name ≠ subject)
    (reads : access.reads name path) (writes : access.writes subject path) : ¬ Unexamined build subject := by
  have succeeded := attended.writer_succeeded started reads writes (Ne.symm other)
  simp [Unexamined, succeeded]

theorem Current.of_change {files files' : Files Content} (current : Current access subject digest files build)
    (keys : ∀ path, access.reads subject path →
      build'.fileCache.currentAssetKeys path = build.fileCache.currentAssetKeys path ∨
        build'.fileCache.currentAssetKeys path = (files' path).map digest)
    (files : ∀ path, access.reads subject path → files' path = files path ∨ Disturbed access build' path)
    (disturbed : ∀ path, access.reads subject path → Disturbed access build path →
      Disturbed access build' path ∨ build'.fileCache.currentAssetKeys path = (files' path).map digest) :
    Current access subject digest files' build' := by
  intro path reads key found
  obtain kept | hashed := keys path reads
  · obtain same | isDisturbed := current path reads key (kept ▸ found)
    · obtain unchanged | isDisturbed := files path reads
      · exact .inl (unchanged ▸ same)
      · exact .inr isDisturbed
    · obtain still | hashed := disturbed path reads isDisturbed
      · exact .inr still
      · exact .inl (hashed ▸ found)
  · exact .inl (hashed ▸ found)

theorem Tracked.of_other (tracked : Tracked access subject own digest s build)
    (current : Current access subject digest s'.files build') (nodes : build'.nodes = build.nodes)
    (stamps : s'.stamps subject = s.stamps subject) (last : s'.last subject = s.last subject)
    (pending : build'.scheduler.pending subject = build.scheduler.pending subject ∨
      build.scheduler.pending subject = none ∧ build'.scheduler.pending subject = some .requested)
    (keys : ∀ path, build'.fileCache.currentAssetKeys path = build.fileCache.currentAssetKeys path ∨
      build'.fileCache.currentAssetKeys path = (s'.files path).map digest ∧
        (access.writes subject path → ¬ Unexamined build subject))
    (previous : ∀ path, build'.fileCache.previousAssetKeys path = build.fileCache.previousAssetKeys path ∨
      build'.fileCache.previousAssetKeys path = none)
    (files : build.scheduler.pending subject = some (.finished .succeeded) →
      ∀ path, access.reads subject path ∨ access.writes subject path → s'.files path = s.files path) :
    Tracked access subject own digest s' build' := by
  have before : Unexamined build' subject → Unexamined build subject := by
    intro unexamined
    obtain same | ⟨fresh, -⟩ := pending
    · rwa [Unexamined, same] at unexamined
    · exact .inl fresh
  have finished : ∀ outcome, build'.scheduler.pending subject = some (.finished outcome) →
      build.scheduler.pending subject = some (.finished outcome) := by
    intro outcome isFinished
    obtain same | ⟨-, requested⟩ := pending
    · rwa [same] at isFinished
    · rw [requested] at isFinished
      cases isFinished
  refine ⟨current, fun unexamined => ?_, fun unexamined known => ?_, fun unexamined path writes => ?_,
    fun isFinished recorded stamped owns => ?_, fun isFinished => ?_⟩
  · rw [nodes, stamps]
    exact tracked.stamp (before unexamined)
  · rw [last, stamps]
    have kept : build.fileCache.previousAssetKeys own ≠ none := by
      obtain same | lost := previous own
      · rwa [same] at known
      · exact absurd lost known
    exact (tracked.previous (before unexamined) kept).of_fewer previous
  · obtain kept | ⟨-, examined⟩ := keys path
    · rw [kept]
      exact tracked.noKeys (before unexamined) path writes
    · exact absurd (before unexamined) (examined writes)
  · have isSucceeded := finished .succeeded isFinished
    rw [stamps] at stamped
    obtain ⟨atEnd, inputs, completed, same⟩ := tracked.succeeded isSucceeded recorded stamped owns
    refine ⟨atEnd, inputs, last.trans completed, fun path inside => ?_⟩
    obtain ⟨uses, unchanged, keysSame⟩ := same path inside
    have now := (files isSucceeded path uses).trans unchanged
    refine ⟨uses, now, fun key found => ?_⟩
    obtain kept | ⟨hashed, -⟩ := keys path
    · exact keysSame key (kept ▸ found)
    · rw [hashed, now] at found
      exact found
  · rw [stamps]
    exact tracked.failed (finished .failed isFinished)

theorem Disturbed.mono (disturbed : Disturbed access build path)
    (acting : ∀ name written, build.phases name = .acting written → path ∈ written → Disturbed access build' path)
    (failed : ∀ name, build.scheduler.pending name = some (.finished .failed) →
      build'.scheduler.pending name = some (.finished .failed)) : Disturbed access build' path := by
  obtain ⟨name, written, isActing, inside⟩ | ⟨name, writes, hasFailed⟩ := disturbed
  · exact acting name written isActing inside
  · exact .inr ⟨name, writes, failed name hasFailed⟩

theorem Tracked.of_scheduler (tracked : Tracked access subject own digest s build) {scheduler : Scheduler}
    (pending : ∀ name, scheduler.pending name = build.scheduler.pending name ∨
      build.scheduler.pending name = none ∧ scheduler.pending name = some .requested) :
    Tracked access subject own digest (s.withBuild { build with scheduler := scheduler })
      { build with scheduler := scheduler } := by
  have failed : ∀ name, build.scheduler.pending name = some (.finished .failed) →
      scheduler.pending name = some (.finished .failed) := by
    intro name hasFailed
    obtain same | ⟨fresh, -⟩ := pending name
    · rw [same, hasFailed]
    · simp [fresh] at hasFailed
  have current : Current access subject digest s.files { build with scheduler := scheduler } :=
    tracked.current.of_change (fun _ _ => .inl rfl) (fun _ _ => .inl rfl) fun path _ disturbed =>
      .inl (disturbed.mono (fun name written acting inside => .inl ⟨name, written, acting, inside⟩) failed)
  exact tracked.of_other current rfl rfl rfl (pending subject) (fun _ => .inl rfl) (fun _ => .inl rfl)
    fun _ _ _ => rfl

variable [DecidableEq Digest]

/-! ## A target is examined -/

def examinedKeys (digest : Content → Digest) (s : Session Content Digest) (build : Build Content Digest)
    (name : String) : FileStore Digest :=
  if (build.nodes name).missingDepfile then build.fileCache
  else ((build.nodes name).computeChanges digest s.files build.fileCache).2

theorem current_examinedKeys (digest : Content → Digest) (s : Session Content Digest) (build : Build Content Digest)
    (name path : String) :
    (examinedKeys digest s build name).currentAssetKeys path = build.fileCache.currentAssetKeys path ∨
      (examinedKeys digest s build name).currentAssetKeys path = (s.files path).map digest ∧
        (path ∈ (build.nodes name).inputs ∨ path ∈ (build.nodes name).outputs) := by
  unfold examinedKeys
  cases (build.nodes name).missingDepfile with
  | true => exact .inl rfl
  | false =>
    simp only [Bool.false_eq_true, if_false, Node.current_computeChanges]
    by_cases source : path ∈ (build.nodes name).sourcesToDiff s.files build.fileCache
    · exact .inr ⟨by rw [if_pos source], (Node.mem_sourcesToDiff.mp source).1.imp_right And.right⟩
    · exact .inl (by rw [if_neg source])

theorem previous_examinedKeys (path : String) :
    (examinedKeys digest s build name).previousAssetKeys path = build.fileCache.previousAssetKeys path ∨
      (examinedKeys digest s build name).previousAssetKeys path = none := by
  unfold examinedKeys
  cases (build.nodes name).missingDepfile with
  | true => exact .inl rfl
  | false => exact Node.previous_computeChanges _ _ path

theorem Current.examined (current : Current access subject digest s.files build)
    (requested : build.scheduler.pending name = some .requested) (idle : build.phases name = .idle)
    (nextCache : build'.fileCache = examinedKeys digest s build name)
    (nextPhases : ∀ other, other ≠ name → build'.phases other = build.phases other)
    (nextPending : ∀ other, other ≠ name → build'.scheduler.pending other = build.scheduler.pending other) :
    Current access subject digest s.files build' := by
  refine current.of_change (fun path _ => ?_) (fun _ _ => .inl rfl) fun path _ disturbed => .inl ?_
  · rw [nextCache]
    exact (current_examinedKeys digest s build name path).imp_right And.left
  · refine disturbed.mono (fun other written acting inside => .inl ⟨other, written, ?_, inside⟩) fun other failed => ?_
    · have different : other ≠ name := by
        rintro rfl
        rw [idle] at acting
        cases acting
      rw [nextPhases other different, acting]
    · have different : other ≠ name := by
        rintro rfl
        rw [requested] at failed
        cases failed
      rw [nextPending other different, failed]

theorem Tracked.of_examined (tracked : Tracked access subject own digest s build)
    (exclusive : Exclusive access subject own) (attended : Attended access build) (other : name ≠ subject)
    (requested : build.scheduler.pending name = some .requested) (nextFiles : s'.files = s.files)
    (nextStamps : s'.stamps = s.stamps) (nextLast : s'.last subject = s.last subject)
    (nextNodes : build'.nodes = build.nodes) (nextCache : build'.fileCache = examinedKeys digest s build name)
    (nextPhases : ∀ other, other ≠ name → build'.phases other = build.phases other)
    (nextPending : ∀ other, other ≠ name → build'.scheduler.pending other = build.scheduler.pending other) :
    Tracked access subject own digest s' build' := by
  have current :=
    tracked.current.examined requested (attended.idle_of_requested requested) nextCache nextPhases nextPending
  rw [← nextFiles] at current
  refine tracked.of_other current nextNodes (congrFun nextStamps subject) nextLast
    (.inl (nextPending subject (Ne.symm other))) (fun path => ?_) (fun path => ?_)
    fun _ path _ => congrFun nextFiles path
  · rw [nextCache, nextFiles]
    refine (current_examinedKeys digest s build name path).imp_right fun ⟨hashed, inside⟩ => ⟨hashed, fun writes => ?_⟩
    obtain isInput | isOutput := inside
    · exact attended.not_unexamined (by simp [requested]) other (attended.inputs name path isInput) writes
    · exact absurd (exclusive.writer name path writes (attended.outputs name path isOutput)) other
  · rw [nextCache]
    exact previous_examinedKeys path

omit [DecidableEq Digest] in
theorem Tracked.same_of_clean (tracked : Tracked access subject own digest s build)
    (injective : Function.Injective digest) (attended : Attended access build)
    (requested : build.scheduler.pending subject = some .requested) {recorded : Stamp}
    (clean : (build.nodes subject).Clean digest s.files build.fileCache recorded) (owns : own ∈ recorded.outputs) :
    s.stamps subject = some recorded ∧
      ∃ files inputs, s.last subject = .completed files recorded.buildKey inputs recorded.outputs ∧
        ∀ path, path ∈ inputs ∧ path ∈ (build.nodes subject).inputs ∨ path ∈ recorded.outputs →
          (access.reads subject path ∨ access.writes subject path) ∧ s.files path = files path ∧
            ∀ key, build.fileCache.currentAssetKeys path = some key → (files path).map digest = some key := by
  have unexamined : Unexamined build subject := .inr requested
  have stamped : s.stamps subject = some recorded := by rw [← tracked.stamp unexamined, clean.stamped]
  have known : build.fileCache.previousAssetKeys own ≠ none := by
    obtain ⟨content, key, -, previous, -⟩ := clean.unchanged own (.inr owns)
    simp [previous]
  obtain ⟨files, inputs, completed, same⟩ := tracked.previous unexamined known recorded stamped owns
  refine ⟨stamped, files, inputs, completed, fun path inside => ?_⟩
  have uses : access.reads subject path ∨ access.writes subject path := by
    obtain ⟨-, isInput⟩ | isOutput := inside
    · exact .inl (attended.inputs subject path isInput)
    · exact .inr (attended.outputs subject path ((clean.outputs path).mpr isOutput))
  obtain ⟨content, key, found, previous, currentKey⟩ := clean.unchanged path (inside.imp_left And.right)
  have atEnd := same path (inside.imp_left And.left) key previous
  -- a key that is there already is that of the file
  have hashed : ∀ key, build.fileCache.currentAssetKeys path = some key → (s.files path).map digest = some key := by
    intro key isCurrent
    obtain reads | writes := uses
    · obtain same | disturbed := tracked.current path reads key isCurrent
      · exact same
      · refine absurd disturbed (attended.not_disturbed (by simp [requested]) reads (fun written acting => ?_)
          (by simp [requested]))
        rw [attended.idle_of_requested requested] at acting
        cases acting
    · rw [tracked.noKeys unexamined path writes] at isCurrent
      cases isCurrent
  have ofFile : (s.files path).map digest = some key := by
    obtain ⟨-, rfl⟩ | isCurrent := currentKey
    · rw [found]
      rfl
    · exact hashed key isCurrent
  have unchanged : s.files path = files path := Option.map_injective injective (ofFile.trans atEnd.symm)
  exact ⟨uses, unchanged, fun key isCurrent => unchanged ▸ hashed key isCurrent⟩

theorem Tracked.skipped (tracked : Tracked access subject own digest s build) (injective : Function.Injective digest)
    (attended : Attended access build) (requested : build.scheduler.pending subject = some .requested)
    (clean : ((build.nodes subject).computeChanges digest s.files build.fileCache).1 = true)
    (nextFiles : s'.files = s.files) (nextStamps : s'.stamps = s.stamps)
    (nextLast : s'.last subject = (s.last subject).skipped (build.nodes subject))
    (nextCache : build'.fileCache = examinedKeys digest s build subject)
    (nextPhases : ∀ other, other ≠ subject → build'.phases other = build.phases other)
    (nextPending : build'.scheduler.pending =
      Function.update build.scheduler.pending subject (some (.finished .succeeded))) :
    Tracked access subject own digest s' build' := by
  have current := tracked.current.examined requested (attended.idle_of_requested requested) nextCache nextPhases
    fun other different => by simp [nextPending, different]
  rw [← nextFiles] at current
  have started : ¬ Unexamined build' subject := by simp [Unexamined, nextPending]
  refine .of_started current started (fun _ recorded stamped owns => ?_) fun failed => ?_
  · obtain ⟨recorded', isClean⟩ := Node.clean_of_canSkip clean
    have stamped' : s.stamps subject = some recorded' := by
      rw [← tracked.stamp (.inr requested), isClean.stamped]
    obtain rfl : recorded = recorded' := Option.some.inj ((nextStamps ▸ stamped).symm.trans stamped')
    obtain ⟨-, files, inputs, completed, same⟩ :=
      tracked.same_of_clean injective attended requested isClean owns
    refine ⟨files, inputs.filter (build.nodes subject).inputs.contains, ?_, fun path inside => ?_⟩
    · rw [nextLast, completed]
      rfl
    · obtain ⟨uses, unchanged, keys⟩ := same path (inside.imp_left (by simp))
      refine ⟨uses, nextFiles ▸ unchanged, fun key found => ?_⟩
      rw [nextCache] at found
      obtain kept | ⟨hashed, -⟩ := current_examinedKeys digest s build subject path
      · exact keys key (kept ▸ found)
      · rw [hashed, unchanged] at found
        exact found
  · simp [nextPending] at failed

/-! ## A target ends -/

omit [DecidableEq Digest] in
theorem files_of_declared (files : Files Content) {outputs : List String}
    (declared : ∀ path reader, access.reads reader path → path ∈ (build.nodes name).previousOutputs → path ∈ outputs) :
    (∀ path reader, access.reads reader path → delete files (staleOutputs build name outputs) path = files path) ∧
      ∀ path ∈ outputs, delete files (staleOutputs build name outputs) path = files path := by
  have kept : ∀ path ∈ outputs, path ∉ staleOutputs build name outputs := by
    intro path inside stale
    simp [staleOutputs, inside] at stale
  refine ⟨fun path reader reads => ?_, fun path inside => if_neg (kept path inside)⟩
  by_cases stale : path ∈ staleOutputs build name outputs
  · exact absurd stale (kept path (declared path reader reads (List.mem_filter.mp stale).1))
  · exact if_neg stale

section Completed

variable {scheduler : Scheduler} {inputs outputs : List String} {last : LastAction Content}

theorem Current.completed (current : Current access subject digest s.files build)
    (running : build.scheduler.pending name = some .running)
    (finished : build.scheduler.finish name .succeeded = some scheduler)
    (declared : ∀ path reader, access.reads reader path →
      (∃ written, build.phases name = .acting written ∧ path ∈ written) ∨ path ∈ (build.nodes name).previousOutputs →
        path ∈ outputs) :
    Current access subject digest (delete s.files (staleOutputs build name outputs))
      { build with
        scheduler := scheduler
        fileCache := cacheAfter digest s build name inputs outputs
        phases := Function.update build.phases name .idle
        outputFiles := build.outputFiles ++ outputs } := by
  obtain ⟨-, scheduled⟩ := Scheduler.finish_eq_some finished
  obtain ⟨unchanged, -⟩ := files_of_declared s.files fun path reader reads inside =>
    declared path reader reads (.inr inside)
  refine current.of_change (fun path reads => ?_) (fun path reads => .inl (unchanged path subject reads))
    fun path reads disturbed => ?_
  · rw [unchanged path subject reads]
    simp only [current_cacheAfter]
    split
    · exact .inr rfl
    · exact .inl rfl
  · by_cases own : ∃ written, build.phases name = .acting written ∧ path ∈ written
    · -- what the action has written is hashed
      right
      rw [unchanged path subject reads]
      simp [current_cacheAfter, declared path subject reads (.inl own)]
    · left
      refine disturbed.mono (fun other written acting inside => .inl ⟨other, written, ?_, inside⟩)
        fun other failed => ?_
      · have different : other ≠ name := by
          rintro rfl
          exact own ⟨written, acting, inside⟩
        simpa [different] using acting
      · have different : other ≠ name := by
          rintro rfl
          rw [running] at failed
          cases failed
        simpa [scheduled, different] using failed

theorem Tracked.of_completed (tracked : Tracked access subject own digest s build)
    (exclusive : Exclusive access subject own) (attended : Attended access build) (other : name ≠ subject)
    (finished : build.scheduler.finish name .succeeded = some scheduler)
    (reads : ∀ path ∈ inputs, access.reads name path) (writes : ∀ path ∈ outputs, access.writes name path)
    (declared : ∀ path reader, access.reads reader path →
      (∃ written, build.phases name = .acting written ∧ path ∈ written) ∨ path ∈ (build.nodes name).previousOutputs →
        path ∈ outputs)
    (building' : (Session.completed digest s build scheduler name inputs outputs last).build = some build') :
    Tracked access subject own digest (Session.completed digest s build scheduler name inputs outputs last) build' := by
  obtain rfl := Option.some.inj building'
  obtain ⟨running, scheduled⟩ := Scheduler.finish_eq_some finished
  obtain ⟨ofReads, ofOutputs⟩ := files_of_declared s.files fun path reader reads inside =>
    declared path reader reads (.inr inside)
  refine tracked.of_other (tracked.current.completed running finished declared) rfl ?_ ?_ (.inl ?_) (fun path => ?_)
    previous_cacheAfter fun _ path uses => ?_
  · simp [Session.completed, Ne.symm other]
  · simp [Session.completed, Ne.symm other]
  · simp [scheduled, Ne.symm other]
  · simp only [Session.completed, current_cacheAfter]
    split
    next hashed =>
      right
      obtain isOutput | ⟨-, isInput⟩ := hashed
      · exact ⟨by rw [ofOutputs path isOutput], fun own =>
          absurd (exclusive.writer name path own (writes path isOutput)) other⟩
      · exact ⟨by rw [ofReads path name (reads path isInput)], fun own =>
          attended.not_unexamined (by simp [running]) other (reads path isInput) own⟩
    next => exact .inl rfl
  · obtain reads | own := uses
    · exact ofReads path subject reads
    · refine if_neg fun stale => ?_
      have recorded := attended.previousOutputs name path (List.mem_filter.mp stale).1
      exact other (exclusive.writer name path own recorded)

theorem Tracked.completed (tracked : Tracked access subject own digest s build)
    (attended : Attended access build)
    (finished : build.scheduler.finish subject .succeeded = some scheduler)
    (reads : ∀ path ∈ inputs, access.reads subject path) (writes : ∀ path ∈ outputs, access.writes subject path)
    (declared : ∀ path reader, access.reads reader path →
      (∃ written, build.phases subject = .acting written ∧ path ∈ written) ∨
        path ∈ (build.nodes subject).previousOutputs → path ∈ outputs)
    (record : own ∈ outputs → last = .completed s.files (build.nodes subject).buildKey inputs outputs)
    (building' : (Session.completed digest s build scheduler subject inputs outputs last).build = some build') :
    Tracked access subject own digest (Session.completed digest s build scheduler subject inputs outputs last)
      build' := by
  obtain rfl := Option.some.inj building'
  obtain ⟨running, scheduled⟩ := Scheduler.finish_eq_some finished
  have examined : scheduler.pending subject = some (.finished .succeeded) := by simp [scheduled]
  refine .of_started (tracked.current.completed running finished declared) (by simp [Unexamined, examined])
    (fun _ recorded stamped owns => ?_) fun failed => ?_
  · simp only [Session.completed, Function.update_self, Option.some.injEq] at stamped
    subst stamped
    obtain ⟨ofReads, ofOutputs⟩ := files_of_declared s.files fun path reader reads inside =>
      declared path reader reads (.inr inside)
    refine ⟨s.files, inputs, by simp [Session.completed, record owns], fun path inside => ?_⟩
    have unchanged : delete s.files (staleOutputs build subject outputs) path = s.files path := by
      obtain isInput | isOutput := inside
      · exact ofReads path subject (reads path isInput)
      · exact ofOutputs path isOutput
    refine ⟨inside.imp (reads path) (writes path), unchanged, fun key found => ?_⟩
    simp only [current_cacheAfter] at found
    split at found
    next => exact found
    next notHashed =>
      obtain isInput | isOutput := inside
      · -- an input with a key from before the action
        obtain same | disturbed := tracked.current path (reads path isInput) key found
        · exact same
        · refine absurd disturbed (attended.not_disturbed (by simp [running]) (reads path isInput)
            (fun written acting inside => ?_) (by simp [running]))
          exact notHashed (.inl (declared path subject (reads path isInput) (.inl ⟨written, acting, inside⟩)))
      · exact absurd (.inl isOutput) notHashed
  · rw [examined] at failed
    cases failed

end Completed

omit [DecidableEq Digest] in
theorem Tracked.of_failed (tracked : Tracked access subject own digest s build) (attended : Attended access build)
    {scheduler : Scheduler} (finished : build.scheduler.finish name .failed = some scheduler)
    {last : LastAction Content}
    (building' : (Session.failed s build scheduler name .exception last).build = some build') :
    Tracked access subject own digest (Session.failed s build scheduler name .exception last) build' := by
  obtain rfl := Option.some.inj building'
  obtain ⟨running, scheduled⟩ := Scheduler.finish_eq_some finished
  have current : Current access subject digest s.files
      { build with scheduler := scheduler, phases := Function.update build.phases name .idle } := by
    refine tracked.current.of_change (fun _ _ => .inl rfl) (fun _ _ => .inl rfl) fun path _ disturbed => .inl ?_
    refine disturbed.mono (fun other written acting inside => ?_) fun other failed => ?_
    · by_cases same : other = name
      · subst same
        exact .inr ⟨other, attended.written other written acting path inside, by simp [scheduled]⟩
      · exact .inl ⟨other, written, by simpa [same] using acting, inside⟩
    · by_cases same : other = name
      · simp [scheduled, same]
      · simpa [scheduled, same] using failed
  by_cases other : name = subject
  · subst other
    refine .of_started current (by simp [Unexamined, scheduled]) (fun succeeded => ?_) fun _ => ?_
    · simp [scheduled] at succeeded
    · simp [Session.failed]
  · exact tracked.of_other current rfl (by simp [Session.failed, Ne.symm other])
      (by simp [Session.failed, Ne.symm other]) (.inl (by simp [scheduled, Ne.symm other]))
      (fun _ => .inl rfl) (fun _ => .inl rfl) fun _ _ _ => rfl

/-! ## One step -/

omit [DecidableEq Digest] in
theorem Tracked.of_running (current : Current access subject digest s.files build)
    (running : build.scheduler.pending subject = some .running) : Tracked access subject own digest s build := by
  refine .of_started current (by simp [Unexamined, running]) (fun succeeded => ?_) fun failed => ?_
  · simp [running] at succeeded
  · simp [running] at failed

structure SoundInv (access : Access) (subject own : String) (digest : Content → Digest) (s : Session Content Digest) :
    Prop where
  attended : AccessInv access s
  idle : s.build = none → s.cache own ≠ none → Remembers own digest s.cache (s.last subject) (s.stamps subject)
  tracked : ∀ build, s.build = some build → Tracked access subject own digest s build
  skips : ∀ skip ∈ s.skips, skip.name = subject → own ∈ skip.node.outputs → SameContents skip

theorem tracked_step (inv : SoundInv access subject own digest s) (exclusive : Exclusive access subject own)
    (injective : Function.Injective digest) (respects : Respects access event) (declares : s.Declares access event)
    (stepped : Steps digest s event result s') :
    ∀ build, s'.build = some build → Tracked access subject own digest s' build := by
  intro build' building'
  cases stepped with
  | edit idle => simp [idle] at building'
  | @start root environment idle =>
    obtain rfl := Option.some.inj building'
    exact {
      current := fun path _ key found => by cases found
      stamp := fun _ => rfl
      previous := fun _ => inv.idle idle
      noKeys := fun _ _ _ => rfl
      succeeded := fun succeeded => by simp [Scheduler.start] at succeeded
      failed := fun failed => by simp [Scheduler.start] at failed }
  | @resume build position scheduler building resumed =>
    obtain rfl := Option.some.inj building'
    exact (inv.tracked build building).of_scheduler (Scheduler.pending_of_resume resumed)
  | @deliver build position scheduler building delivered =>
    obtain rfl := Option.some.inj building'
    exact (inv.tracked build building).of_scheduler fun name => .inl (by rw [Scheduler.pending_of_deliver delivered])
  | @skip build name acquired scheduler building resource finished depfile clean =>
    obtain rfl := Option.some.inj building'
    have attended := inv.attended.build build building
    have tracked := inv.tracked build building
    obtain ⟨requested, -, rfl⟩ := Scheduler.acquire_eq_some resource
    obtain ⟨-, rfl⟩ := Scheduler.finish_eq_some finished
    have keys : ((build.nodes name).computeChanges digest s.files build.fileCache).2 =
        examinedKeys digest s build name := by simp [examinedKeys, depfile]
    by_cases other : name = subject
    · subst other
      refine tracked.skipped injective attended requested clean ?_ ?_ ?_ keys (fun _ _ => rfl) ?_
      · rfl
      · rfl
      · simp
      · simp
    · exact tracked.of_examined exclusive attended other requested rfl rfl (by simp [Ne.symm other]) rfl keys
        (fun _ _ => rfl) fun other' different => by simp [different]
  | @examine build name acquired building resource =>
    obtain rfl := Option.some.inj building'
    have attended := inv.attended.build build building
    have tracked := inv.tracked build building
    obtain ⟨requested, -, rfl⟩ := Scheduler.acquire_eq_some resource
    by_cases other : name = subject
    · subst other
      refine .of_running ?_ (by simp)
      exact tracked.current.examined requested (attended.idle_of_requested requested) rfl
        (fun _ different => by simp [different]) fun _ different => by simp [different]
    · exact tracked.of_examined exclusive attended other requested rfl rfl rfl rfl rfl
        (fun _ different => by simp [different]) fun _ different => by simp [different]
  | @notNeeded build name scheduler building deciding finished =>
    have declared : ∀ path reader, access.reads reader path →
        (∃ written, build.phases name = .acting written ∧ path ∈ written) ∨ path ∈ (build.nodes name).previousOutputs →
          path ∈ ([] : List String) := by
      rintro path reader reads (⟨written, acting, -⟩ | recorded)
      · rw [deciding] at acting
        cases acting
      · exact absurd recorded (declares build building path reader reads)
    by_cases other : name = subject
    · subst other
      exact (inv.tracked build building).completed (inv.attended.build build building) finished (by simp) (by simp) declared
        (by simp) building'
    · exact (inv.tracked build building).of_completed exclusive (inv.attended.build build building) other finished (by simp)
        (by simp) declared building'
  | @act build name building deciding =>
    obtain rfl := Option.some.inj building'
    have attended := inv.attended.build build building
    have tracked := inv.tracked build building
    have current : Current access subject digest s.files
        { build with phases := Function.update build.phases name (.acting []) } := by
      refine tracked.current.of_change (fun _ _ => .inl rfl) (fun _ _ => .inl rfl) fun path _ disturbed => .inl ?_
      refine disturbed.mono (fun other written acting inside => .inl ⟨other, written, ?_, inside⟩) fun _ => id
      have different : other ≠ name := by
        rintro rfl
        rw [deciding] at acting
        cases acting
      simpa [different] using acting
    by_cases other : name = subject
    · subst other
      exact .of_running current (attended.working name (by simp [deciding]))
    · exact tracked.of_other current rfl rfl (by simp [Ne.symm other]) (.inl rfl) (fun _ => .inl rfl)
        (fun _ => .inl rfl) fun _ _ _ => rfl
  | @failDeciding build name canSkip ending scheduler building deciding notCompleted finished =>
    cases ending with
    | completed => exact absurd rfl notCompleted
    | exception =>
      exact (inv.tracked build building).of_failed (inv.attended.build build building) finished building'
    | error => exact absurd rfl respects
  | @write build name path content written building acting =>
    obtain rfl := Option.some.inj building'
    have attended := inv.attended.build build building
    have tracked := inv.tracked build building
    have running := attended.working name (by simp [acting])
    have current : Current access subject digest (Function.update s.files path (some content))
        { build with phases := Function.update build.phases name (.acting (path :: written)) } := by
      refine tracked.current.of_change (fun _ _ => .inl rfl) (fun other _ => ?_) fun other _ disturbed => .inl ?_
      · by_cases same : other = path
        · exact .inr (.inl ⟨name, path :: written, by simp, by simp [same]⟩)
        · exact .inl (by simp [same])
      · refine disturbed.mono (fun writer written' acting' inside => .inl ?_) fun _ => id
        by_cases same : writer = name
        · subst same
          obtain rfl := Phase.acting.inj (acting.symm.trans acting')
          exact ⟨writer, path :: written, by simp, List.mem_cons_of_mem _ inside⟩
        · exact ⟨writer, written', by simpa [same] using acting', inside⟩
    refine tracked.of_other current rfl rfl rfl (.inl rfl) (fun _ => .inl rfl) (fun _ => .inl rfl)
      fun succeeded other uses => ?_
    -- the file is one that the target does not use
    have different : other ≠ path := by
      rintro rfl
      have notOwn : name ≠ subject := by
        rintro rfl
        rw [running] at succeeded
        cases succeeded
      obtain reads | writes := uses
      · have done := attended.writer_succeeded (by simp [succeeded]) reads respects notOwn
        rw [running] at done
        cases done
      · exact notOwn (exclusive.writer name other writes respects)
    simp [different]
  | @complete build name written scheduler building acting finished =>
    have attended := inv.attended.build build building
    have declared : ∀ path reader, access.reads reader path →
        (∃ written, build.phases name = .acting written ∧ path ∈ written) ∨ path ∈ (build.nodes name).previousOutputs →
          path ∈ build.environment.resolveOutputs name s.files := by
      rintro path reader reads (⟨written', acting', inside⟩ | recorded)
      · exact declares build written' building acting' path reader reads (.inl inside)
      · exact declares build written building acting path reader reads (.inr recorded)
    by_cases other : name = subject
    · subst other
      exact (inv.tracked build building).completed attended finished (attended.fits.inputs name s.files)
        (attended.fits.outputs name s.files) declared (fun _ => rfl) building'
    · exact (inv.tracked build building).of_completed exclusive attended other finished
        (attended.fits.inputs name s.files) (attended.fits.outputs name s.files) declared building'
  | @exception build name written scheduler building acting finished =>
    exact (inv.tracked build building).of_failed (inv.attended.build build building) finished building'
  | @error build name written scheduler building acting finished => exact absurd rfl respects
  | @stop build outcome building isDone =>
    unfold Session.stop at building'
    split at building' <;> cases building'

omit [DecidableEq Digest] in
theorem stop_frame (s : Session Content Digest) (build : Build Content Digest) (outcome : Outcome) :
    (stop s build outcome).2.cache = build.fileCache.currentAssetKeys ∧ (stop s build outcome).2.last = s.last ∧
      (stop s build outcome).2.stamps = s.stamps ∧ (stop s build outcome).2.skips = s.skips := by
  unfold stop
  split <;> exact ⟨rfl, rfl, rfl, rfl⟩

omit [DecidableEq Digest] in
theorem Tracked.remembers_of_done (tracked : Tracked access subject own digest s build)
    (exclusive : Exclusive access subject own) (attended : Attended access build) {outcome : Outcome}
    (isDone : build.scheduler.invocation [] = .done outcome) (known : build.fileCache.currentAssetKeys own ≠ none) :
    Remembers own digest build.fileCache.currentAssetKeys (s.last subject) (s.stamps subject) := by
  intro recorded stamped owns
  cases pending : build.scheduler.pending subject with
  | none => exact absurd (tracked.noKeys (.inl pending) own exclusive.writes) known
  | some internal =>
    obtain ⟨outcome, rfl⟩ := attended.waits.finished_of_done isDone pending
    cases outcome with
    | succeeded =>
      obtain ⟨files, inputs, completed, same⟩ := tracked.succeeded pending recorded stamped owns
      exact ⟨files, inputs, completed, fun path inside => (same path inside).2.2⟩
    | failed =>
      rw [tracked.failed pending] at stamped
      cases stamped
    | threw => exact absurd pending (attended.noError subject)

theorem SoundInv.step (inv : SoundInv access subject own digest s) (exclusive : Exclusive access subject own)
    (injective : Function.Injective digest) (respects : Respects access event) (declares : s.Declares access event)
    (stepped : Steps digest s event result s') : SoundInv access subject own digest s' where
  attended := inv.attended.step respects stepped
  tracked := tracked_step inv exclusive injective respects declares stepped
  idle idle' known := by
    cases stepped with
    | edit idle => exact inv.idle idle known
    | @stop build outcome building isDone =>
      have remembers :=
        (inv.tracked build building).remembers_of_done exclusive (inv.attended.build build building) isDone
      obtain ⟨cache, last, stamps, -⟩ := stop_frame s build outcome
      rw [cache] at known ⊢
      rw [last, stamps]
      exact remembers known
    | start | resume | deliver | skip | examine | notNeeded | act | failDeciding | write | complete | exception
    | error =>
      cases idle'
  skips := by
    cases stepped with
    | @skip build name acquired scheduler building resource finished depfile clean =>
      intro skip inside isSubject owns
      obtain earlier | now := List.mem_append.mp inside
      · exact inv.skips skip earlier isSubject owns
      · rw [List.mem_singleton] at now
        subst now
        obtain rfl : name = subject := isSubject
        obtain ⟨requested, -, -⟩ := Scheduler.acquire_eq_some resource
        obtain ⟨recorded, isClean⟩ := Node.clean_of_canSkip clean
        obtain ⟨-, files, inputs, completed, same⟩ := (inv.tracked build building).same_of_clean injective
          (inv.attended.build build building) requested isClean ((isClean.outputs own).mp owns)
        exact ⟨files, recorded.buildKey, inputs, recorded.outputs, completed, isClean.buildKey, isClean.outputs,
          fun path isOutput => (same path (.inr ((isClean.outputs path).mp isOutput))).2.1,
          fun path isInput inside => (same path (.inl ⟨inside, isInput⟩)).2.1⟩
    | @stop build outcome building isDone =>
      obtain ⟨-, -, -, skips⟩ := stop_frame s build outcome
      rw [skips]
      exact inv.skips
    | edit | start | resume | deliver | examine | notNeeded | act | failDeciding | write | complete | exception
    | error =>
      exact inv.skips

omit [DecidableEq Digest] in
theorem soundInv_create (files : Files Content) : SoundInv access subject own digest (create files) where
  attended := ⟨fun name stamp stamped => (by cases stamped), fun build building => (by cases building)⟩
  idle _ known := absurd rfl known
  tracked build building := by cases building
  skips skip inside := by cases inside

theorem runs_of_disjoint (disjoint : ∀ reader writer path, access.reads reader path → ¬ access.writes writer path)
    {files : Files Content} {log : List (Event Content × Option BuildResult)}
    (reached : Lib.Runs (step digest) (fun _ event => Respects access event) (create files) log s) :
    Lib.Runs (step digest) (fun s event => Respects access event ∧ s.Declares access event) (create files) log s ∧
      AccessInv access s := by
  induction reached with
  | start => exact ⟨.start, fun name stamp stamped => (by cases stamped), fun build building => (by cases building)⟩
  | @next log s s' event result _ respects stepped ih =>
    obtain ⟨before, inv⟩ := ih
    have declares : s.Declares access event := by
      unfold Declares
      split
      · intro build written building acting path reader reads inside
        have attended := inv.build build building
        obtain isWritten | recorded := inside
        · exact absurd (attended.written _ written acting path isWritten) (disjoint reader _ path reads)
        · exact absurd (attended.previousOutputs _ path recorded) (disjoint reader _ path reads)
      · intro build building path reader reads recorded
        exact disjoint reader _ path reads ((inv.build build building).previousOutputs _ path recorded)
      · trivial
    refine ⟨before.next ⟨respects, declares⟩ stepped, ?_⟩
    exact inv.step respects (steps_of_step stepped)

/-! ## Two targets that share files -/

def chain : Target := .mk "second" [.mk "first" []]

theorem reaches_chain {target : Target} (reaches : chain.Reaches target) :
    target = chain ∨ target = .mk "first" [] := by
  induction reaches with
  | root => exact .inl rfl
  | dependency _ depends ih =>
    obtain rfl | rfl := ih
    · exact .inr (by simpa [chain, Target.dependencies] using depends)
    · simp [Target.dependencies] at depends

theorem distinctNames_chain : chain.DistinctNames := by
  intro target other reaches reaches' same
  obtain rfl | rfl := reaches_chain reaches <;> obtain rfl | rfl := reaches_chain reaches' <;>
    first | rfl | simp [chain, Target.name] at same

def ofChain (first second : List String) (name : String) : List String :=
  if name = "first" then first else if name = "second" then second else []

theorem mem_ofChain {first second : List String} {name path : String} :
    path ∈ ofChain first second name ↔ name = "first" ∧ path ∈ first ∨ name = "second" ∧ path ∈ second := by
  unfold ofChain
  by_cases isFirst : name = "first"
  · simp [isFirst]
  · by_cases isSecond : name = "second" <;> simp [isFirst, isSecond]

def chainAccess (reads writes : String → List String) : Access :=
  ⟨fun name path => path ∈ reads name, fun name path => path ∈ writes name⟩

def chainEnvironment (inputs : String → Files Nat → List String) (outputs : String → List String) :
    Environment Nat where
  resolveInputs := inputs
  containsNewDepfile _ _ := false
  resolveOutputs name _ := outputs name
  buildKey _ := none
  preservedOutputFilePaths := []
  resourcePoolSize := 1
  isUnconditionalFile _ := false
  lastOutputs := []

theorem fits_chain {reads writes outputs : String → List String} {inputs : String → Files Nat → List String}
    (isRead : ∀ name files, ∀ path ∈ inputs name files, path ∈ reads name)
    (isWritten : ∀ name, ∀ path ∈ outputs name, path ∈ writes name)
    (first : ∀ path ∈ reads "first", ∀ writer, path ∈ writes writer → writer = "first")
    (second : ∀ path ∈ reads "second", ∀ writer, path ∈ writes writer → writer = "second" ∨ writer = "first") :
    (chainAccess reads writes).Fits chain (chainEnvironment inputs outputs) where
  names := distinctNames_chain
  inputs := isRead
  outputs name _ := isWritten name
  dependencies target reaches path writer read written different := by
    obtain rfl | rfl := reaches_chain reaches
    · obtain rfl | rfl := second path read writer written
      · exact absurd rfl different
      · exact ⟨.mk "first" [], by simp [chain, Target.dependencies], .mk "first" [], .root, rfl⟩
    · exact absurd (first path read writer written) different

def acts (name : String) (writes : List (String × Nat)) : List (Event Nat) :=
  [Event.examine name, Event.decide name false .completed] ++
    writes.map (fun (path, content) => Event.write name path content) ++ [Event.finish name .completed]

def chainBuild (environment : Environment Nat) (first : List (Event Nat)) : List (Event Nat) :=
  [Event.start chain environment, Event.resume [0]] ++ first ++ [Event.deliver [0], Event.resume []]

/-- Both targets write `q`. -/
def sharedOutput : Environment Nat := chainEnvironment (fun _ _ => []) (ofChain ["o", "q"] ["q"])

def sharedBuilds : List (Event Nat) :=
  chainBuild sharedOutput (acts "first" [("o", 0), ("q", 1)]) ++ acts "second" [("q", 2)] ++
    [Event.deliver [], Event.stop] ++ [Event.start chain sharedOutput, Event.resume [0], Event.examine "first"]

/-- The first target changes a file in place that both read. -/
def changedInput : Environment Nat := chainEnvironment (fun name _ => ofChain ["p"] ["p"] name) (ofChain [] ["o"])

def changedBuilds : List (Event Nat) :=
  chainBuild changedInput (acts "first" [("p", 1)]) ++ acts "second" [("o", 0)] ++ [Event.deliver [], Event.stop] ++
    [Event.edit "p" (some 0)] ++ chainBuild changedInput [Event.examine "first"] ++ [Event.examine "second"]

/-- The second target reads `x` as soon as there is a `flag`. -/
def newInput : Environment Nat :=
  chainEnvironment (fun name files => ofChain ["x"] (if (files "flag").isSome then ["x"] else []) name)
    (ofChain [] ["o"])

def newInputBuilds : List (Event Nat) :=
  chainBuild newInput (acts "first" []) ++ acts "second" [("o", 0)] ++ [Event.deliver [], Event.stop] ++
    [Event.edit "x" (some 1)] ++ chainBuild newInput (acts "first" []) ++
    [Event.examine "second", Event.deliver [], Event.stop] ++ [Event.edit "flag" (some 0)] ++
    chainBuild newInput [Event.examine "first"] ++ [Event.examine "second"]

def only (path : String) : Files Nat := fun other => if other = path then some 0 else none

/-- A skip, with the inputs and one file at the end of the last completed action, and the file now. -/
structure Comparison where
  name : String
  inputs : List String
  outputs : List String
  last : Option (List String × Option Nat)
  now : Option Nat
deriving DecidableEq

def compare (path : String) (skip : Skip Nat) : Comparison where
  name := skip.name
  inputs := skip.node.inputs
  outputs := skip.node.outputs
  last :=
    match skip.last with
    | .completed files _ inputs _ => some (inputs, files path)
    | _ => none
  now := skip.files path

def comparisons (path : String) (files : Files Nat) (events : List (Event Nat)) : Option (List Comparison) :=
  (Lib.run (step (id : Nat → Nat)) (create files) events).toOption.map fun ran => ran.2.skips.map (compare path)

variable {files : Files Nat} {events : List (Event Nat)}

theorem exists_skip {skips : List Comparison}
    (ran : comparisons path files events = some skips) {comparison : Comparison} (inside : comparison ∈ skips) :
    ∃ log s, Lib.run (step (id : Nat → Nat)) (create files) events = .ok (log, s) ∧
      ∃ skip ∈ s.skips, compare path skip = comparison := by
  unfold comparisons at ran
  cases ended : Lib.run (step (id : Nat → Nat)) (create files) events with
  | error fault =>
    rw [ended] at ran
    cases ran
  | ok done =>
    rw [ended] at ran
    obtain rfl := Option.some.inj ran
    exact ⟨done.1, done.2, rfl, List.mem_map.mp inside⟩

theorem comparisons_shared : comparisons "q" (only "") sharedBuilds =
    some [⟨"first", [], ["o", "q"], some ([], some 1), some 2⟩] := by decide +kernel

theorem comparisons_changed : comparisons "p" (only "p") changedBuilds =
    some [⟨"first", ["p"], [], some (["p"], some 1), some 0⟩,
      ⟨"second", ["p"], ["o"], some (["p"], some 1), some 0⟩] := by
  decide +kernel

theorem comparisons_newInput : comparisons "x" (only "x") newInputBuilds =
    some [⟨"second", [], ["o"], some ([], some 0), some 1⟩, ⟨"first", ["x"], [], some (["x"], some 1), some 1⟩,
      ⟨"second", ["x"], ["o"], some ([], some 0), some 1⟩] := by decide +kernel

/-- The target declares an output that no other one reads or writes. -/
def Owns (access : Access) (subject own : String) : Prop :=
  access.writes subject own ∧ ∀ name, access.reads name own ∨ access.writes name own → name = subject

/-- Since the last completed action nothing has changed, not even what was no input then. -/
def SameContentsOfAll (skip : Skip Content) : Prop :=
  ∃ files buildKey inputs outputs, skip.last = .completed files buildKey inputs outputs ∧
    skip.node.buildKey = buildKey ∧ (∀ path, path ∈ skip.node.outputs ↔ path ∈ outputs) ∧
    ∀ path, path ∈ skip.node.inputs ∨ path ∈ skip.node.outputs → skip.files path = files path

theorem not_same_of_compare {skip : Skip Nat} {name : String} {inputs outputs lastInputs : List String}
    {was now : Option Nat} (compared : compare path skip = ⟨name, inputs, outputs, some (lastInputs, was), now⟩)
    (different : was ≠ now) :
    (path ∈ outputs ∨ path ∈ inputs ∧ path ∈ lastInputs → ¬ SameContents skip) ∧
      (path ∈ inputs ∨ path ∈ outputs → ¬ SameContentsOfAll skip) := by
  have ofLast : ∀ files buildKey ins outs, skip.last = .completed files buildKey ins outs →
      skip.node.inputs = inputs ∧ skip.node.outputs = outputs ∧ ins = lastInputs ∧ skip.files path ≠ files path := by
    intro files buildKey ins outs last
    simp only [compare, last, Comparison.mk.injEq, Option.some.injEq, Prod.mk.injEq] at compared
    obtain ⟨-, isInputs, isOutputs, ⟨isLast, rfl⟩, rfl⟩ := compared
    exact ⟨isInputs, isOutputs, isLast, Ne.symm different⟩
  constructor
  · rintro inside ⟨files, buildKey, ins, outs, last, -, -, sameOutputs, sameInputs⟩
    obtain ⟨rfl, rfl, rfl, changed⟩ := ofLast files buildKey ins outs last
    obtain isOutput | ⟨isInput, before⟩ := inside
    · exact changed (sameOutputs path isOutput)
    · exact changed (sameInputs path isInput before)
  · rintro inside ⟨files, buildKey, ins, outs, last, -, -, same⟩
    obtain ⟨rfl, rfl, -, changed⟩ := ofLast files buildKey ins outs last
    exact changed (same path inside)

def SkippingSound (owns : Access → String → String → Prop) (guard : Access → Session Nat Nat → Event Nat → Prop)
    (same : Skip Nat → Prop) : Prop :=
  ∀ digest : Nat → Nat, Function.Injective digest → ∀ access subject own, owns access subject own →
    ∀ (files : Files Nat) (log : List (Event Nat × Option BuildResult)) (s : Session Nat Nat),
      Lib.Runs (step digest) (guard access) (create files) log s →
        ∀ skip ∈ s.skips, skip.name = subject → own ∈ skip.node.outputs → same skip

theorem not_skippingSound {owns : Access → String → String → Prop}
    {guard : Access → Session Nat Nat → Event Nat → Prop} {same : Skip Nat → Prop} {own : String}
    {comparison : Comparison} {skips : List Comparison}
    (ran : comparisons path files events = some skips) (inside : comparison ∈ skips)
    (runs : ∀ log s, Lib.run (step (id : Nat → Nat)) (create files) events = .ok (log, s) →
      Lib.Runs (step id) (guard access) (create files) log s)
    (isOwn : owns access comparison.name own) (declared : own ∈ comparison.outputs)
    (notSame : ∀ skip, compare path skip = comparison → ¬ same skip) : ¬ SkippingSound owns guard same := by
  intro sound
  obtain ⟨log, s, ended, skip, member, rfl⟩ := exists_skip ran inside
  exact notSame skip rfl (sound id Function.injective_id access _ own isOwn files log s (runs log s ended) skip member
    rfl declared)

theorem runs_of_respects {log : List (Event Nat × Option BuildResult)}
    {s : Session Nat Nat} (respects : ∀ event ∈ events, Respects access event)
    (ran : Lib.run (step (id : Nat → Nat)) (create files) events = .ok (log, s)) :
    Lib.Runs (step id) (fun _ event => Respects access event) (create files) log s :=
  Lib.runs_of_run (fun _ => respects) ran

/-- Two targets write one file, which is no input of any. -/
def sharedAccess : Access := chainAccess (fun _ => []) (ofChain ["o", "q"] ["q"])

theorem respects_shared : ∀ event ∈ sharedBuilds, Respects sharedAccess event := by
  have fits : sharedAccess.Fits chain sharedOutput := fits_chain (by simp) (by simp) (by simp) (by simp)
  simp only [sharedBuilds, chainBuild, acts, List.map_cons, List.map_nil, List.cons_append, List.nil_append,
    List.forall_mem_cons, Respects, fits]
  simp [sharedAccess, chainAccess, mem_ofChain]

def changedAccess : Access := chainAccess (ofChain ["p"] ["p"]) (ofChain ["p"] ["o"])

theorem respects_changed : ∀ event ∈ changedBuilds, Respects changedAccess event := by
  have fits : changedAccess.Fits chain changedInput :=
    fits_chain (by simp) (by simp [mem_ofChain]) (by simp [mem_ofChain]) (by simp [mem_ofChain])
  simp only [changedBuilds, chainBuild, acts, List.map_cons, List.map_nil, List.cons_append, List.nil_append,
    List.forall_mem_cons, Respects, fits]
  simp [changedAccess, chainAccess, mem_ofChain]

def newInputAccess : Access := chainAccess (ofChain ["x"] ["x"]) (ofChain [] ["o"])

theorem respects_newInput : ∀ event ∈ newInputBuilds, Respects newInputAccess event := by
  have fits : newInputAccess.Fits chain newInput := by
    refine fits_chain (fun name files path inside => ?_) (by simp [mem_ofChain]) (by simp [mem_ofChain])
      (by simp [mem_ofChain])
    rw [mem_ofChain] at inside ⊢
    refine inside.imp_right fun ⟨isSecond, isInput⟩ => ⟨isSecond, ?_⟩
    split at isInput
    · exact isInput
    · cases isInput
  simp only [newInputBuilds, chainBuild, acts, List.map_cons, List.map_nil, List.cons_append, List.nil_append,
    List.forall_mem_cons, Respects, fits]
  simp [newInputAccess, chainAccess, mem_ofChain]

theorem disjoint_newInput (reader writer path : String) (reads : newInputAccess.reads reader path) :
    ¬ newInputAccess.writes writer path := by
  intro writes
  obtain rfl : path = "x" := by
    obtain ⟨-, isInput⟩ | ⟨-, isInput⟩ := mem_ofChain.mp reads <;> simpa using isInput
  simp [newInputAccess, chainAccess, mem_ofChain] at writes

theorem exclusive_newInput : Exclusive newInputAccess "second" "o" := by
  refine ⟨?_, ?_, fun name path own writes => ?_⟩
  · simp [newInputAccess, chainAccess, mem_ofChain]
  · simp [newInputAccess, chainAccess, mem_ofChain]
  · obtain rfl : path = "o" := by simpa [newInputAccess, chainAccess, mem_ofChain] using own
    simpa [newInputAccess, chainAccess, mem_ofChain] using writes

/-! ## Soundness -/

/-- In every sequence of builds, with any edits between them: a skipped target whose output nobody else uses, and whose
    other outputs nobody else writes, is as it was after its last completed action. -/
theorem sameContents_of_runs (injective : Function.Injective digest) (exclusive : Exclusive access subject own)
    {files : Files Content} {log : List (Event Content × Option BuildResult)}
    (reached : Lib.Runs (step digest) (fun s event => Respects access event ∧ s.Declares access event)
      (create files) log s) :
    ∀ skip ∈ s.skips, skip.name = subject → own ∈ skip.node.outputs → SameContents skip := by
  have inv : SoundInv access subject own digest s := by
    refine reached.preserves (soundInv_create files) ?_
    intro s event result s' inv guard stepped
    exact inv.step exclusive injective guard.1 guard.2 (steps_of_step stepped)
  exact inv.skips

/-- The second target is skipped in two builds. -/
theorem sameContents_of_runs_newInput : ∃ log s,
    Lib.Runs (step (id : Nat → Nat)) (fun s event => Respects newInputAccess event ∧ s.Declares newInputAccess event)
      (create (only "x")) log s ∧ (∃ skip ∈ s.skips, skip.name = "second" ∧ "o" ∈ skip.node.outputs) ∧
      ∀ skip ∈ s.skips, skip.name = "second" → "o" ∈ skip.node.outputs → SameContents skip := by
  obtain ⟨log, s, ran, skip, member, compared⟩ := exists_skip comparisons_newInput List.mem_cons_self
  obtain ⟨runs, -⟩ := runs_of_disjoint disjoint_newInput (runs_of_respects respects_newInput ran)
  have name : skip.name = "second" := congrArg Comparison.name compared
  have outputs : skip.node.outputs = ["o"] := congrArg Comparison.outputs compared
  exact ⟨log, s, runs, ⟨skip, member, name, by simp [outputs]⟩,
    sameContents_of_runs Function.injective_id exclusive_newInput runs⟩

/-- Skipping is not sound where targets share an output, change a file that is read without declaring it, or get an
    input that was none before. -/
theorem not_sameContents :
    ¬ SkippingSound Owns (fun access _ event => Respects access event) SameContentsOfAll ∧
    ¬ SkippingSound Owns (fun access s event => Respects access event ∧ s.Declares access event) SameContents ∧
    ¬ SkippingSound Exclusive (fun access _ event => Respects access event) SameContents ∧
    ¬ SkippingSound Exclusive (fun access s event => Respects access event ∧ s.Declares access event)
      SameContentsOfAll := by
  have disjointShared : ∀ reader writer path, sharedAccess.reads reader path → ¬ sharedAccess.writes writer path := by
    simp [sharedAccess, chainAccess]
  have ownsShared : Owns sharedAccess "first" "o" := by simp [Owns, sharedAccess, chainAccess, mem_ofChain]
  refine ⟨?_, ?_, ?_, ?_⟩
  · exact not_skippingSound comparisons_shared (List.mem_singleton.mpr rfl)
      (fun _ _ => runs_of_respects respects_shared) ownsShared (by simp)
      fun skip compared => (not_same_of_compare compared (by simp)).2 (by simp)
  · exact not_skippingSound comparisons_shared (List.mem_singleton.mpr rfl)
      (fun _ _ ran => (runs_of_disjoint disjointShared (runs_of_respects respects_shared ran)).1) ownsShared (by simp)
      fun skip compared => (not_same_of_compare compared (by simp)).1 (by simp)
  · have exclusive : Exclusive changedAccess "second" "o" := by
      refine ⟨?_, ?_, fun name path own writes => ?_⟩
      · simp [changedAccess, chainAccess, mem_ofChain]
      · simp [changedAccess, chainAccess, mem_ofChain]
      · obtain rfl : path = "o" := by simpa [changedAccess, chainAccess, mem_ofChain] using own
        simpa [changedAccess, chainAccess, mem_ofChain] using writes
    exact not_skippingSound comparisons_changed (List.mem_cons_of_mem _ (List.mem_singleton.mpr rfl))
      (fun _ _ => runs_of_respects respects_changed) exclusive (by simp)
      fun skip compared => (not_same_of_compare compared (by simp)).1 (by simp)
  · exact not_skippingSound comparisons_newInput
      (List.mem_cons_of_mem _ (List.mem_cons_of_mem _ (List.mem_singleton.mpr rfl)))
      (fun _ _ ran => (runs_of_disjoint disjoint_newInput (runs_of_respects respects_newInput ran)).1)
      exclusive_newInput (by simp) fun skip compared => (not_same_of_compare compared (by simp)).2 (by simp)

end FlutterZero.FlutterTools.BuildSystem.Session
