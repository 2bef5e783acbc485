import FlutterZero.FlutterTools.BuildSystem.Hashes

/-! # The set of inputs of a target

The stamp of a target records the inputs of its last run, and `Node` reads them as
`previousInputs`.  `computeChanges` compares the recorded outputs with the current ones,
but not the recorded inputs: it looks at each current input by itself, in the keys that
all targets share.

* `StampedNode.computeChanges_eq_false_iff` — what invalidates a target;
* `StampedNode.seesInputs_iff` — when another set of inputs invalidates a target.
-/

namespace FlutterZero.FlutterTools.BuildSystem

variable {Content Digest : Type} [DecidableEq Digest] {digest : Content → Digest} {files : Files Content}
  {store : FileStore Digest} {path : String} {paths : List String}

/-! ## What leaves no dirty file -/

namespace FileStore

theorem diffFileList_eq_false
    (same : ∀ path ∈ paths, ∃ content, files path = some content ∧
      store.previousAssetKeys path = some (digest content)) : (store.diffFileList digest files paths).2 = false := by
  induction paths generalizing store with
  | nil => rfl
  | cons first paths ih =>
    obtain ⟨⟨content, found, previous⟩, rest⟩ := List.forall_mem_cons.mp same
    -- hashing a file that exists leaves the previous keys alone
    have kept : (hashFile digest files store first).1.previousAssetKeys = store.previousAssetKeys := by
      simp [hashFile, found]
    have clean : (hashFile digest files store first).2 = false := by
      simp [hashFile, found, previous]
    simp only [diffFileList, Bool.or_eq_false_iff]
    refine ⟨clean, ih fun path inside => ?_⟩
    rw [kept]
    exact rest path inside

end FileStore

namespace Node

variable {node : Node} {stamp : Stamp}

theorem canSkip_of_clean (clean : Clean digest files node store stamp) :
    (node.computeChanges digest files store).1 = true := by
  have previousOutputs : node.previousOutputs = stamp.outputs := by simp [Node.previousOutputs, clean.stamped]
  have previousBuildKey : node.previousBuildKey = node.buildKey := by
    simp [Node.previousBuildKey, clean.stamped, clean.buildKey]
  have unchanged : ∀ path, path ∈ node.inputs ∨ path ∈ node.previousOutputs →
      (files path).isNone = false ∧ hasChanged files store path = false := by
    intro path inside
    rw [previousOutputs] at inside
    obtain ⟨content, key, found, previous, keys⟩ := clean.unchanged path inside
    obtain ⟨unhashed, -⟩ | hashed := keys
    · simp [hasChanged, found, unhashed]
    · simp [hasChanged, found, hashed, previous]
  have hashed : (store.diffFileList digest files (node.sourcesToDiff files store)).2 = false := by
    apply FileStore.diffFileList_eq_false
    intro path inside
    obtain ⟨tracked, -, unhashed⟩ := mem_sourcesToDiff.mp inside
    rw [previousOutputs] at tracked
    obtain ⟨content, key, found, previous, keys⟩ := clean.unchanged path (tracked.imp_right And.left)
    obtain ⟨-, rfl⟩ | isCurrent := keys
    · exact ⟨content, found, previous⟩
    · simp [unhashed] at isCurrent
  have inputs : ∀ path ∈ node.inputs, (files path).isNone = false ∧ hasChanged files store path = false :=
    fun path isInput => unchanged path (.inl isInput)
  have outputs : ∀ path ∈ node.previousOutputs, (files path).isNone = false ∧ hasChanged files store path = false :=
    fun path isOutput => unchanged path (.inr isOutput)
  have sameOutputs : ∀ path, path ∈ node.outputs ↔ path ∈ node.previousOutputs := by
    simpa [previousOutputs] using clean.outputs
  simp only [computeChanges, Bool.not_eq_true', Bool.or_eq_false_iff, List.any_eq_false, Bool.not_eq_true]
  refine ⟨⟨⟨⟨⟨⟨⟨⟨?_, ?_⟩, fun path isInput => (inputs path isInput).2⟩, fun path isInput => (inputs path isInput).1⟩,
    ?_⟩, fun path isOutput => (outputs path isOutput).1⟩, fun path isOutput => (outputs path isOutput).2⟩, ?_⟩, hashed⟩
  · simp [clean.stamped]
  · simp [previousBuildKey]
  · intro path isPrevious
    simp [(sameOutputs path).mpr isPrevious]
  · intro path isOutput
    simp [(sameOutputs path).mp isOutput]

theorem canSkip_iff_clean (node : Node) (store : FileStore Digest) :
    (node.computeChanges digest files store).1 = true ↔ ∃ stamp, Clean digest files node store stamp := by
  constructor
  · exact clean_of_canSkip
  · rintro ⟨stamp, clean⟩
    exact canSkip_of_clean clean

end Node

/-! ## Nodes with all that the stamp records -/

/-- What `Node.withStamp` is given. -/
structure StampedNode where
  inputs : List String
  previousInputs : List String
  outputs : List String
  previousOutputs : List String
  buildKey : Option String
  previousBuildKey : Option String
  missingDepfile : Bool
deriving DecidableEq, Repr

namespace StampedNode

/-- The node without the one field that is never looked at. -/
def toNode (node : StampedNode) : Node where
  inputs := node.inputs
  outputs := node.outputs
  buildKey := node.buildKey
  missingDepfile := node.missingDepfile
  stamp := some ⟨node.previousOutputs, node.previousBuildKey⟩

def computeChanges (digest : Content → Digest) (files : Files Content) (node : StampedNode) (store : FileStore Digest) :
    Bool × FileStore Digest :=
  node.toNode.computeChanges digest files store

def InputSetChanged (node : StampedNode) : Prop :=
  ¬ ∀ path, path ∈ node.inputs ↔ path ∈ node.previousInputs

def Tracked (node : StampedNode) (path : String) : Prop :=
  path ∈ node.inputs ∨ path ∈ node.previousOutputs

inductive Noticed (digest : Content → Digest) (files : Files Content) (store : FileStore Digest)
    (node : StampedNode) : Prop where
  | buildKey (changed : node.buildKey ≠ node.previousBuildKey)
  | outputs (path : String) (changed : ¬ (path ∈ node.outputs ↔ path ∈ node.previousOutputs))
  | missing (path : String) (tracked : node.Tracked path) (isMissing : files path = none)
  /-- The key of this build, or else the digest, is not that of the last build. -/
  | content (path : String) (content : Content) (tracked : node.Tracked path) (found : files path = some content)
      (changed : store.previousAssetKeys path ≠ some ((store.currentAssetKeys path).getD (digest content)))

variable {node : StampedNode}

omit [DecidableEq Digest] in
theorem unchanged_iff : Node.Unchanged digest files store path ↔
    ∃ content, files path = some content ∧
      store.previousAssetKeys path = some ((store.currentAssetKeys path).getD (digest content)) := by
  constructor
  · rintro ⟨content, key, found, previous, ⟨unhashed, rfl⟩ | hashed⟩
    · exact ⟨content, found, by simp [unhashed, previous]⟩
    · exact ⟨content, found, by simp [hashed, previous]⟩
  · rintro ⟨content, found, previous⟩
    cases current : store.currentAssetKeys path with
    | none => exact ⟨content, digest content, found, by simpa [current] using previous, .inl ⟨current, rfl⟩⟩
    | some key => exact ⟨content, key, found, by simpa [current] using previous, .inr current⟩

theorem computeChanges_eq_true_iff (node : StampedNode) (store : FileStore Digest) :
    (node.computeChanges digest files store).1 = true ↔ ¬ Noticed digest files store node := by
  rw [computeChanges, Node.canSkip_iff_clean]
  constructor
  · rintro ⟨stamp, clean⟩ noticed
    obtain rfl := Option.some.inj clean.stamped
    cases noticed with
    | buildKey changed => exact changed clean.buildKey
    | outputs path changed => exact changed (clean.outputs path)
    | missing path tracked isMissing =>
      obtain ⟨content, found, -⟩ := unchanged_iff.mp (clean.unchanged path tracked)
      simp [isMissing] at found
    | content path content tracked found changed =>
      obtain ⟨content', found', same⟩ := unchanged_iff.mp (clean.unchanged path tracked)
      obtain rfl := Option.some.inj (found.symm.trans found')
      exact changed same
  · intro notNoticed
    refine ⟨_, ⟨rfl, ?_, fun path => ?_, fun path tracked => unchanged_iff.mpr ?_⟩⟩
    · by_contra changed
      exact notNoticed (.buildKey changed)
    · by_contra changed
      exact notNoticed (.outputs path changed)
    · cases found : files path with
      | none => exact absurd (.missing path tracked found) notNoticed
      | some content =>
        refine ⟨content, rfl, ?_⟩
        by_contra changed
        exact notNoticed (.content path content tracked found changed)

theorem computeChanges_eq_false_iff (node : StampedNode) (store : FileStore Digest) :
    (node.computeChanges digest files store).1 = false ↔ Noticed digest files store node := by
  rw [← not_iff_not, Bool.not_eq_false, computeChanges_eq_true_iff]

/-- Another set of inputs invalidates the target exactly when something else does. -/
theorem seesInputs_iff (digest : Content → Digest) (files : Files Content) (node : StampedNode)
    (store : FileStore Digest) :
    (node.InputSetChanged → (node.computeChanges digest files store).1 = false) ↔
      (∀ path, path ∈ node.inputs ↔ path ∈ node.previousInputs) ∨ Noticed digest files store node := by
  rw [computeChanges_eq_false_iff, InputSetChanged, imp_iff_not_or, not_not]

end StampedNode

/-! ## In the builds of a session -/

/-- A session, with the inputs that the stamps record, and those that the nodes of the build have read. -/
structure StampedSession (Content Digest : Type) where
  session : Session Content Digest
  stampInputs : String → List String
  previousInputs : String → List String

namespace StampedSession

def create (files : Files Content) : StampedSession Content Digest := ⟨.create files, fun _ => [], fun _ => []⟩

/-- `_writeStamp` records the inputs that are resolved after the action. -/
def writeStamps (s : StampedSession Content Digest) (event : Event Content) : String → List String :=
  match s.session.build, event with
  | some build, .finish name .completed =>
    Function.update s.stampInputs name (build.environment.resolveInputs name s.session.files)
  -- a target that is skipped at runtime has no inputs and no outputs
  | some _, .decide name true .completed => Function.update s.stampInputs name []
  | _, _ => s.stampInputs

def step (digest : Content → Digest) (s : StampedSession Content Digest) (event : Event Content) :
    Except Unit (Option BuildResult × StampedSession Content Digest) :=
  match s.session.step digest event with
  | .ok (result, session) => .ok (result, {
      session := session
      stampInputs := s.writeStamps event
      previousInputs := if let .start _ _ := event then s.stampInputs else s.previousInputs })
  | .error fault => .error fault

def node? (s : StampedSession Content Digest) (build : Build Content Digest) (name : String) : Option StampedNode :=
  (build.nodes name).stamp.map fun stamp => {
    inputs := (build.nodes name).inputs
    previousInputs := s.previousInputs name
    outputs := (build.nodes name).outputs
    previousOutputs := stamp.outputs
    buildKey := (build.nodes name).buildKey
    previousBuildKey := stamp.buildKey
    missingDepfile := (build.nodes name).missingDepfile }

omit [DecidableEq Digest] in
/-- In every build of every session, another set of inputs than the recorded one invalidates a target. -/
def InputSetsSeen (digest : Content → Digest) : Prop :=
  ∀ (files : Files Content) (log : List (Event Content × Option BuildResult)) (s : StampedSession Content Digest),
    Lib.Runs (step digest) (fun _ _ => True) (create files) log s → ∀ build name node,
      s.session.build = some build → s.node? build name = some node →
        build.scheduler.pending name = some .requested → node.InputSetChanged →
          (node.computeChanges digest s.session.files build.fileCache).1 = false

/-- A target that reads all files of a directory, as a pattern `dir/*` does. -/
def wildcard : Environment Nat where
  resolveInputs _ files := ["dir/a", "dir/b"].filter fun path => (files path).isSome
  containsNewDepfile _ _ := false
  resolveOutputs _ _ := ["out"]
  buildKey _ := none
  preservedOutputFilePaths := []
  resourcePoolSize := 1
  isUnconditionalFile _ := false
  lastOutputs := []

/-- A file of the directory is deleted between two builds; the second one is about to examine the target. -/
def wildcardBuilds : List (Event Nat) :=
  [.start (.mk "app" []) wildcard, .resume [], .examine "app", .decide "app" false .completed, .write "app" "out" 0,
    .finish "app" .completed, .deliver [], .stop, .edit "dir/b" none, .start (.mk "app" []) wildcard, .resume []]

def wildcardFiles : Files Nat := fun path => if path ∈ ["dir/a", "dir/b"] then some 0 else none

theorem not_inputSetsSeen : ¬ ∀ digest : Nat → Nat, Function.Injective digest → InputSetsSeen digest := by
  intro always
  have ran : ∃ log s build node, Lib.run (step id) (create wildcardFiles) wildcardBuilds = .ok (log, s) ∧
      s.session.build = some build ∧ s.node? build "app" = some node ∧
      build.scheduler.pending "app" = some .requested ∧
      (node.inputs, node.previousInputs) = (["dir/a"], ["dir/a", "dir/b"]) ∧
      (node.computeChanges id s.session.files build.fileCache).1 = true :=
    ⟨_, _, _, _, rfl, rfl, rfl, rfl, rfl, rfl⟩
  obtain ⟨log, s, build, node, ran, building, found, requested, inputs, canSkip⟩ := ran
  simp only [Prod.mk.injEq] at inputs
  have runs := Lib.runs_of_run (fun _ _ _ => trivial) ran
  have changed : node.InputSetChanged := by
    intro same
    simpa [inputs.1, inputs.2] using same "dir/b"
  have invalidated := always id Function.injective_id wildcardFiles log s runs build "app" node building found
    requested changed
  simp [canSkip] at invalidated

end StampedSession

end FlutterZero.FlutterTools.BuildSystem
