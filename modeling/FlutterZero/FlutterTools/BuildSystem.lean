import FlutterZero.Lib.Machine

/-! # The build system

`FlutterBuildSystem.build` (`build_system.dart`) runs the targets of a graph, each after
its dependencies, and skips those that a stamp and the cache of file hashes
(`file_store.dart`) show to be up to date.

* `Scheduler` — the invocations of `invokeTarget`, the memo table and the resource pool;
* `FileStore`, `Node.computeChanges` — whether a target can be skipped;
* `Session` — builds one after another in one build directory, with edits between them.

Targets are values, so that a target that several others depend on stands in several
places of the tree, as its `Node` does.  What a target resolves, and what its action
writes, is answered by the environment and by the events of a run.
-/

namespace FlutterZero.FlutterTools.BuildSystem

/-! ## Targets -/

inductive Target where
  | mk (name : String) (dependencies : List Target)

namespace Target

def name : Target → String
  | .mk name _ => name

def dependencies : Target → List Target
  | .mk _ dependencies => dependencies

def at? (root : Target) (position : List Nat) : Option Target :=
  position.foldlM (fun target index => target.dependencies[index]?) root

end Target

/-! ## Scheduling -/

/-- How `_invokeInternal` ends. -/
inductive Outcome where
  | succeeded
  | failed
  /-- An error that is not an `Exception`. -/
  | threw
deriving DecidableEq, Repr

/-- What an invocation of `invokeTarget` is doing. -/
inductive Invocation where
  | waiting
  | memoized
  | done (outcome : Outcome)
deriving DecidableEq, Repr

def Invocation.result? : Invocation → Option Outcome
  | .done outcome => some outcome
  | .waiting | .memoized => none

/-- What `_invokeInternal` is doing. -/
inductive Internal where
  /-- It waits for the resource pool. -/
  | requested
  | running
  | finished (outcome : Outcome)
deriving DecidableEq, Repr

structure Scheduler where
  invocation : List Nat → Invocation
  /-- `pending`: the memo table, by the names of the targets. -/
  pending : String → Option Internal
  /-- The targets that hold a resource of the pool. -/
  holding : List String
  /-- The calls of `_invokeInternal` so far. -/
  started : List String

namespace Scheduler

/-- `invokeTarget` calls itself for all dependencies before it first waits. -/
def start : Scheduler := ⟨fun _ => .waiting, fun _ => none, [], []⟩

def setInvocation (s : Scheduler) (position : List Nat) (invocation : Invocation) : Scheduler :=
  { s with invocation := Function.update s.invocation position invocation }

/-- `runOnce`: the first caller runs `_invokeInternal`. -/
def runOnce (s : Scheduler) (name : String) : Scheduler :=
  match s.pending name with
  | none => { s with pending := Function.update s.pending name (some .requested), started := s.started ++ [name] }
  | some _ => s

/-- `Future.wait`, which waits for all results. -/
def results (s : Scheduler) (target : Target) (position : List Nat) : Option (List Outcome) :=
  (List.range target.dependencies.length).mapM fun index => (s.invocation (position ++ [index])).result?

def invoke (s : Scheduler) (target : Target) (position : List Nat) (results : List Outcome) : Scheduler :=
  if .threw ∈ results then s.setInvocation position (.done .threw)
  else if .failed ∈ results then s.setInvocation position (.done .failed)
  else (s.runOnce target.name).setInvocation position .memoized

def resume (root : Target) (s : Scheduler) (position : List Nat) : Option Scheduler :=
  match root.at? position, s.invocation position with
  | some target, .waiting => (s.results target position).map (s.invoke target position)
  | _, _ => none

def deliver (root : Target) (s : Scheduler) (position : List Nat) : Option Scheduler :=
  match root.at? position, s.invocation position with
  | some target, .memoized =>
    match s.pending target.name with
    | some (.finished outcome) => some (s.setInvocation position (.done outcome))
    | _ => none
  | _, _ => none

def acquire (poolSize : Nat) (s : Scheduler) (name : String) : Option Scheduler :=
  if s.pending name = some .requested ∧ s.holding.length < poolSize then
    some { s with pending := Function.update s.pending name (some .running), holding := name :: s.holding }
  else none

/-- `_invokeInternal` returns or throws, and releases its resource. -/
def finish (s : Scheduler) (name : String) (outcome : Outcome) : Option Scheduler :=
  if s.pending name = some .running then
    some { s with
      pending := Function.update s.pending name (some (.finished outcome)), holding := s.holding.erase name }
  else none

inductive Event where
  | resume (position : List Nat)
  | acquire (name : String)
  | finish (name : String) (outcome : Outcome)
  | deliver (position : List Nat)
deriving DecidableEq, Repr

def advance (root : Target) (poolSize : Nat) (s : Scheduler) : Event → Option Scheduler
  | .resume position => s.resume root position
  | .acquire name => s.acquire poolSize name
  | .finish name outcome => s.finish name outcome
  | .deliver position => s.deliver root position

def step (root : Target) (poolSize : Nat) (s : Scheduler) (event : Event) : Except Unit (Unit × Scheduler) :=
  match s.advance root poolSize event with
  | some s' => .ok ((), s')
  | none => .error ()

end Scheduler

/-! ## File hashes -/

variable {Content Digest : Type}

abbrev Files (Content : Type) := String → Option Content

structure FileStore (Digest : Type) where
  previousAssetKeys : String → Option Digest
  currentAssetKeys : String → Option Digest

namespace FileStore

variable [DecidableEq Digest] (digest : Content → Digest) (files : Files Content)

/-- `_hashFile`, with whether the file is dirty. -/
def hashFile (store : FileStore Digest) (path : String) : FileStore Digest × Bool :=
  match files path with
  | none =>
    -- a file that is missing is assumed to be dirty
    (⟨Function.update store.previousAssetKeys path none, Function.update store.currentAssetKeys path none⟩, true)
  | some content =>
    ({ store with currentAssetKeys := Function.update store.currentAssetKeys path (some (digest content)) },
      decide (some (digest content) ≠ store.previousAssetKeys path))

/-- `diffFileList`, with whether there are dirty files. -/
def diffFileList (store : FileStore Digest) : List String → FileStore Digest × Bool
  | [] => (store, false)
  | path :: paths =>
    let (store, dirty) := hashFile digest files store path
    let (store, others) := diffFileList store paths
    (store, dirty || others)

end FileStore

/-! ## Nodes -/

structure Stamp where
  outputs : List String
  buildKey : Option String
deriving DecidableEq, Repr

structure Node where
  inputs : List String
  outputs : List String
  buildKey : Option String
  missingDepfile : Bool
  stamp : Option Stamp
deriving DecidableEq, Repr

namespace Node

def previousOutputs (node : Node) : List String := (node.stamp.map Stamp.outputs).getD []

def previousBuildKey (node : Node) : Option String := node.stamp.bind Stamp.buildKey

variable [DecidableEq Digest] (digest : Content → Digest) (files : Files Content)

def sourcesToDiff (node : Node) (store : FileStore Digest) : List String :=
  (node.inputs.filter fun path => (files path).isSome && (store.currentAssetKeys path).isNone) ++
    node.previousOutputs.filter fun path =>
      node.outputs.contains path && (files path).isSome && (store.currentAssetKeys path).isNone

def hasChanged (store : FileStore Digest) (path : String) : Bool :=
  (files path).isSome && (store.currentAssetKeys path).isSome &&
    decide (store.currentAssetKeys path ≠ store.previousAssetKeys path)

/-- Whether the target can be skipped. -/
def computeChanges (node : Node) (store : FileStore Digest) : Bool × FileStore Digest :=
  let diff := store.diffFileList digest files (node.sourcesToDiff files store)
  let dirty := node.stamp.isNone || decide (node.buildKey ≠ node.previousBuildKey) ||
    -- the inputs
    node.inputs.any (hasChanged files store) || node.inputs.any (fun path => (files path).isNone) ||
    -- the outputs that were removed, are missing, have changed or were added
    node.previousOutputs.any (fun path => !node.outputs.contains path) ||
    node.previousOutputs.any (fun path => (files path).isNone) ||
    node.previousOutputs.any (hasChanged files store) ||
    node.outputs.any (fun path => !node.previousOutputs.contains path) || diff.2
  (!dirty, diff.1)

end Node

/-! ## Builds -/

/-- What a build is given, and how targets resolve their sources. -/
structure Environment (Content : Type) where
  resolveInputs : String → Files Content → List String
  /-- `containsNewDepfile` of the inputs. -/
  containsNewDepfile : String → Files Content → Bool
  resolveOutputs : String → Files Content → List String
  buildKey : String → Option String
  preservedOutputFilePaths : List String
  resourcePoolSize : Nat
  isUnconditionalFile : String → Bool
  /-- The outputs of the last build, if that had another identifier. -/
  lastOutputs : List String

def Environment.toNode (environment : Environment Content) (files : Files Content) (stamps : String → Option Stamp)
    (name : String) : Node where
  inputs := environment.resolveInputs name files
  outputs := environment.resolveOutputs name files
  buildKey := environment.buildKey name
  missingDepfile := environment.containsNewDepfile name files
  stamp := stamps name

inductive Phase where
  | idle
  /-- It waits for `canSkip`. -/
  | deciding
  | acting (written : List String)
deriving DecidableEq, Repr

structure Build (Content Digest : Type) where
  root : Target
  environment : Environment Content
  nodes : String → Node
  scheduler : Scheduler
  fileCache : FileStore Digest
  phases : String → Phase
  /-- The keys of `outputFiles`. -/
  outputFiles : List String

/-- How an action, or `canSkip`, ends. -/
inductive Ending where
  | completed
  | exception
  | error
deriving DecidableEq, Repr

inductive LastAction (Content : Type) where
  | never
  | running
  /-- With the files at its end, its build key, its outputs, and the inputs that were resolved then
      and each time that the target was skipped since. -/
  | completed (files : Files Content) (buildKey : Option String) (inputs outputs : List String)
  | exception
  | error
  /-- `canSkip` has returned true since. -/
  | notNeeded

def LastAction.skipped (last : LastAction Content) (node : Node) : LastAction Content :=
  match last with
  | .completed files buildKey inputs outputs => .completed files buildKey (inputs.filter node.inputs.contains) outputs
  | other => other

structure Skip (Content : Type) where
  name : String
  last : LastAction Content
  node : Node
  files : Files Content

structure BuildResult where
  success : Bool
  outputFiles : List String
deriving DecidableEq, Repr

structure Session (Content Digest : Type) where
  files : Files Content
  stamps : String → Option Stamp
  cache : String → Option Digest
  build : Option (Build Content Digest)
  last : String → LastAction Content
  skips : List (Skip Content)

inductive Event (Content : Type) where
  | edit (path : String) (content : Option Content)
  | start (root : Target) (environment : Environment Content)
  | resume (position : List Nat)
  | deliver (position : List Nat)
  /-- A target gets its resource and computes its changes. -/
  | examine (name : String)
  /-- `canSkip` of the target returns or throws. -/
  | decide (name : String) (canSkip : Bool) (ending : Ending)
  | write (name : String) (path : String) (content : Content)
  | finish (name : String) (ending : Ending)
  | stop

namespace Session

def create (files : Files Content) : Session Content Digest :=
  ⟨files, fun _ => none, fun _ => none, none, fun _ => .never, []⟩

def delete (files : Files Content) (paths : List String) : Files Content :=
  fun path => if path ∈ paths then none else files path

variable [DecidableEq Digest] (digest : Content → Digest)

def staleOutputs (build : Build Content Digest) (name : String) (outputs : List String) : List String :=
  (build.nodes name).previousOutputs.filter fun path =>
    !(build.outputFiles ++ outputs).contains path && !build.environment.preservedOutputFilePaths.contains path

/-- The end of `_invokeInternal` after the action, or after `canSkip` has returned true. -/
def complete (s : Session Content Digest) (build : Build Content Digest) (name : String) (inputs outputs : List String)
    (last : LastAction Content) : Option (Session Content Digest) :=
  (build.scheduler.finish name .succeeded).map fun scheduler =>
    let node := build.nodes name
    let fileCache :=
      if node.missingDepfile then (build.fileCache.diffFileList digest s.files inputs).1 else build.fileCache
    { s with
      files := delete s.files (staleOutputs build name outputs)
      stamps := Function.update s.stamps name (some ⟨outputs, node.buildKey⟩)
      last := Function.update s.last name last
      build := some { build with
        scheduler := scheduler
        fileCache := (fileCache.diffFileList digest s.files outputs).1
        phases := Function.update build.phases name .idle
        outputFiles := build.outputFiles ++ outputs } }

/-- An `Exception` clears the stamp, another error does not. -/
def fail (s : Session Content Digest) (build : Build Content Digest) (name : String) (ending : Ending)
    (last : LastAction Content) : Option (Session Content Digest) :=
  (build.scheduler.finish name (if ending = .exception then .failed else .threw)).map fun scheduler =>
    { s with
      stamps := if ending = .exception then Function.update s.stamps name none else s.stamps
      last := Function.update s.last name last
      build := some { build with scheduler := scheduler, phases := Function.update build.phases name .idle } }

/-- `_invokeInternal`, from the resource to the skip or to `canSkip`. -/
def examine (s : Session Content Digest) (build : Build Content Digest) (name : String) :
    Option (Session Content Digest) :=
  (build.scheduler.acquire build.environment.resourcePoolSize name).bind fun scheduler =>
    let node := build.nodes name
    let (canSkip, fileCache) :=
      if node.missingDepfile then (false, build.fileCache) else node.computeChanges digest s.files build.fileCache
    if canSkip then
      (scheduler.finish name .succeeded).map fun scheduler =>
        { s with
          last := Function.update s.last name ((s.last name).skipped node)
          skips := s.skips ++ [⟨name, s.last name, node, s.files⟩]
          build := some { build with
            scheduler := scheduler
            fileCache := fileCache
            outputFiles := build.outputFiles ++ node.outputs } }
    else
      some { s with build := some { build with
        scheduler := scheduler, fileCache := fileCache, phases := Function.update build.phases name .deciding } }

/-- `build` after `invokeTarget`. -/
def stop (s : Session Content Digest) (build : Build Content Digest) (outcome : Outcome) :
    Option BuildResult × Session Content Digest :=
  -- the file cache is always persisted
  let s := { s with cache := build.fileCache.currentAssetKeys, build := none }
  if outcome = .threw then (none, s)
  else
    let outputFiles := build.outputFiles.filter fun path => !build.environment.isUnconditionalFile path
    let stale := build.environment.lastOutputs.filter fun path =>
      !outputFiles.contains path && !build.environment.preservedOutputFilePaths.contains path
    (some ⟨decide (outcome = .succeeded), outputFiles⟩, { s with files := delete s.files stale })

def advanceBuild (s : Session Content Digest) (build : Build Content Digest) :
    Event Content → Option (Option BuildResult × Session Content Digest)
  | .edit _ _ | .start _ _ => none
  | .resume position => (build.scheduler.resume build.root position).map fun scheduler =>
      (none, { s with build := some { build with scheduler := scheduler } })
  | .deliver position => (build.scheduler.deliver build.root position).map fun scheduler =>
      (none, { s with build := some { build with scheduler := scheduler } })
  | .examine name => (examine digest s build name).map fun s => (none, s)
  | .decide name canSkip ending =>
    if build.phases name = .deciding then
      match ending, canSkip with
      | .completed, true => (complete digest s build name [] [] .notNeeded).map fun s => (none, s)
      | .completed, false =>
        some (none, { s with
          last := Function.update s.last name .running
          build := some { build with phases := Function.update build.phases name (.acting []) } })
      | ending, _ => (fail s build name ending (s.last name)).map fun s => (none, s)
    else none
  | .write name path content =>
    match build.phases name with
    | .acting written =>
      some (none, { s with
        files := Function.update s.files path (some content)
        build := some { build with phases := Function.update build.phases name (.acting (path :: written)) } })
    | _ => none
  | .finish name ending =>
    match build.phases name, ending with
    | .acting _, .completed =>
      let inputs := build.environment.resolveInputs name s.files
      let outputs := build.environment.resolveOutputs name s.files
      (complete digest s build name inputs outputs
        (.completed s.files (build.nodes name).buildKey inputs outputs)).map fun s => (none, s)
    | .acting _, .exception => (fail s build name .exception .exception).map fun s => (none, s)
    | .acting _, .error => (fail s build name .error .error).map fun s => (none, s)
    | _, _ => none
  | .stop =>
    match build.scheduler.invocation [] with
    | .done outcome => some (stop s build outcome)
    | _ => none

def advance (s : Session Content Digest) (event : Event Content) : Option (Option BuildResult × Session Content Digest) :=
  match s.build, event with
  | none, .edit path content => some (none, { s with files := Function.update s.files path content })
  | none, .start root environment =>
    some (none, { s with build := some {
      root := root
      environment := environment
      nodes := environment.toNode s.files s.stamps
      scheduler := .start
      fileCache := ⟨s.cache, fun _ => none⟩
      phases := fun _ => .idle
      outputFiles := [] } })
  | none, _ => none
  | some build, event => advanceBuild digest s build event

def step (s : Session Content Digest) (event : Event Content) :
    Except Unit (Option BuildResult × Session Content Digest) :=
  match s.advance digest event with
  | some next => .ok next
  | none => .error ()

end Session

end FlutterZero.FlutterTools.BuildSystem
