import FlutterZero.Lib.Machine

/-! # The preview detector

`PreviewDetector` (`preview_detector.dart`) keeps a graph of the libraries of a
project and of what they import (`dependency_graph.dart`), and updates it with
every change of a file.

* `LibraryPreviewNode`, `updateDependencyGraph` — the nodes and their edges;
* `findPreviewFunctions`, `fileAddedOrUpdated`, `fileRemoved` — what enters and
  leaves the graph;
* `onFileSystemEvent` — one change.

Nodes are objects that are told apart by identity, so they live in a store and the
graph maps paths to their numbers.  The analyzer answers as the record of a search
says.  A loop over a set of nodes changes each of them once, in an order that does
not matter.
-/

namespace FlutterZero.FlutterTools

structure PreviewPath where
  path : String
  uri : String
deriving DecidableEq, Repr, Inhabited

structure LibraryElement where
  path : PreviewPath
  files : List String
deriving DecidableEq, Repr

/-- A library with the imports of all its units; `none` is a library that is not analyzed. -/
structure ResolvedLibrary where
  element : LibraryElement
  imports : List (Option LibraryElement)
deriving DecidableEq, Repr

structure Analysis where
  analyzedFiles : List String
  getResolvedLibrary : String → Option ResolvedLibrary

abbrev NodeId := Nat

structure LibraryPreviewNode where
  path : PreviewPath
  files : List String
  dependedOnBy : Finset NodeId
  dependsOn : Finset NodeId
deriving DecidableEq, Inhabited

def LibraryPreviewNode.create (library : LibraryElement) : LibraryPreviewNode := ⟨library.path, library.files, ∅, ∅⟩

structure PreviewDetector where
  nodes : NodeId → LibraryPreviewNode
  next : NodeId
  /-- In the order of insertion. -/
  dependencyGraph : List (PreviewPath × NodeId)

namespace PreviewDetector

def create : PreviewDetector := ⟨fun _ => default, 0, []⟩

/-! ## The graph -/

def modifyNode (s : PreviewDetector) (id : NodeId) (f : LibraryPreviewNode → LibraryPreviewNode) : PreviewDetector :=
  { s with nodes := Function.update s.nodes id (f (s.nodes id)) }

def modifyNodes (s : PreviewDetector) (ids : Finset NodeId) (f : LibraryPreviewNode → LibraryPreviewNode) :
    PreviewDetector :=
  { s with nodes := fun id => if id ∈ ids then f (s.nodes id) else s.nodes id }

def added (s : PreviewDetector) (library : LibraryElement) : PreviewDetector :=
  { nodes := Function.update s.nodes s.next (.create library)
    next := s.next + 1
    dependencyGraph := s.dependencyGraph ++ [(library.path, s.next)] }

def putIfAbsent (s : PreviewDetector) (library : LibraryElement) : NodeId × PreviewDetector :=
  match s.dependencyGraph.lookup library.path with
  | some id => (id, s)
  | none => (s.next, s.added library)

/-- `_dependencyGraph[location] = node`. -/
def assign (s : PreviewDetector) (location : PreviewPath) (id : NodeId) : PreviewDetector :=
  { s with
    dependencyGraph :=
      if (s.dependencyGraph.lookup location).isSome then
        s.dependencyGraph.map fun entry => if entry.1 = location then (location, id) else entry
      else s.dependencyGraph ++ [(location, id)] }

def remove (s : PreviewDetector) (path : PreviewPath) : PreviewDetector :=
  { s with dependencyGraph := s.dependencyGraph.filter fun entry => entry.1 ≠ path }

def nodeWithFile (s : PreviewDetector) (filePath : String) : Option NodeId :=
  (s.dependencyGraph.find? fun entry => (s.nodes entry.2).files.contains filePath).map Prod.snd

def importedNodes : List (Option LibraryElement) → Finset NodeId → PreviewDetector → Finset NodeId × PreviewDetector
  | [], updatedDependencies, s => (updatedDependencies, s)
  | none :: imports, updatedDependencies, s => importedNodes imports updatedDependencies s
  | some importedLibrary :: imports, updatedDependencies, s =>
    let (result, s) := s.putIfAbsent importedLibrary
    importedNodes imports (insert result updatedDependencies) s

def updateDependencyGraph (s : PreviewDetector) (this : NodeId) (imports : List (Option LibraryElement)) :
    PreviewDetector :=
  let (updatedDependencies, s) := importedNodes imports ∅ s
  let removedDependencies := (s.nodes this).dependsOn \ updatedDependencies
  let s := s.modifyNodes removedDependencies fun node => { node with dependedOnBy := node.dependedOnBy.erase this }
  let s := s.modifyNode this fun node => { node with dependsOn := updatedDependencies }
  s.modifyNodes updatedDependencies fun node => { node with dependedOnBy := insert this node.dependedOnBy }

/-! ## Searches -/

/-- `String.endsWith` and `String.startsWith`. -/
def isDartFile (filePath : String) : Bool := ".dart".toList.isSuffixOf filePath.toList

def startsWith (filePath entity : String) : Bool := entity.toList.isPrefixOf filePath.toList

/-- The loop over the analyzed files: the libraries that were found, with their nodes. -/
def searchFiles (analysis : Analysis) (entity : String) :
    List String → List (PreviewPath × NodeId) → PreviewDetector → List (PreviewPath × NodeId) × PreviewDetector
  | [], updatedPreviews, s => (updatedPreviews, s)
  | filePath :: files, updatedPreviews, s =>
    if !isDartFile filePath || !startsWith filePath entity then searchFiles analysis entity files updatedPreviews s
    else
      match analysis.getResolvedLibrary filePath with
      | none => searchFiles analysis entity files updatedPreviews s
      | some lib =>
        let previewPath := lib.element.path
        if (updatedPreviews.lookup previewPath).isSome then searchFiles analysis entity files updatedPreviews s
        else
          let (previewsForLibrary, s) := s.putIfAbsent lib.element
          let s := s.updateDependencyGraph previewsForLibrary lib.imports
          searchFiles analysis entity files (updatedPreviews ++ [(previewPath, previewsForLibrary)]) s

def findPreviewFunctions (s : PreviewDetector) (analysis : Analysis) (entity : String) :
    List (PreviewPath × NodeId) × PreviewDetector := searchFiles analysis entity analysis.analyzedFiles [] s

/-- Whether it returns, and not throws: a path may be the start of others, and `single` throws if
    several libraries were found. -/
def fileAddedOrUpdated (s : PreviewDetector) (analysis : Analysis) (filePath : String) : Bool × PreviewDetector :=
  match s.findPreviewFunctions analysis filePath with
  | ([(location, libraryDetails)], s) => (true, s.assign location libraryDetails)
  | ([], s) =>
    match s.nodeWithFile filePath with
    | none => (true, s)
    | some removed => (true, s.remove (s.nodes removed).path)
  | (_ :: _ :: _, s) => (false, s)

def fileRemoved (s : PreviewDetector) (filePath : String) : PreviewDetector :=
  match s.nodeWithFile filePath with
  | none => s
  | some node =>
    let s := s.modifyNode node fun details => { details with files := details.files.erase filePath }
    if (s.nodes node).files.isEmpty then
      let s := s.remove (s.nodes node).path
      let s := s.modifyNodes (s.nodes node).dependedOnBy fun downstream =>
        { downstream with dependsOn := downstream.dependsOn.erase node }
      s.modifyNodes (s.nodes node).dependsOn fun upstream =>
        { upstream with dependedOnBy := upstream.dependedOnBy.erase node }
    else s

/-! ## Events -/

/-- What is known of paths: files under `.dart_tool` or in ephemeral directories are ignored, and so
    are those outside the analysis contexts. -/
structure ProjectPaths where
  projectRoot : String
  packageConfigPath : String
  isIgnored : String → Bool
  isPubspec : String → Bool
  isInContext : String → Bool

inductive ChangeType where
  | add
  | modify
  | remove
deriving DecidableEq, Repr

structure WatchEvent where
  type : ChangeType
  path : String
  /-- What the analyzer answers to `applyPendingFileChanges`, unless it is disposed. -/
  potentiallyAffectedFiles : Option (List String)
  analyses : Nat → Analysis

def affectedFiles (event : WatchEvent) (potentiallyAffectedFiles : List String) : List String :=
  match event.type with
  | .remove => potentiallyAffectedFiles.erase event.path
  | .add => potentiallyAffectedFiles ++ [event.path]
  | .modify => potentiallyAffectedFiles

def updateFiles (analyses : Nat → Analysis) : Nat → List String → PreviewDetector → Bool × PreviewDetector
  | _, [], s => (true, s)
  | k, filePath :: files, s =>
    match s.fileAddedOrUpdated (analyses k) filePath with
    | (true, s) => updateFiles analyses (k + 1) files s
    | (false, s) => (false, s)

variable (project : ProjectPaths)

def isHandled (eventPath : String) : Bool :=
  !project.isIgnored eventPath && !project.isPubspec eventPath && isDartFile eventPath &&
    project.isInContext eventPath

def onFileSystemEvent (s : PreviewDetector) (event : WatchEvent) : PreviewDetector :=
  if event.path = project.packageConfigPath then (s.findPreviewFunctions (event.analyses 0) project.projectRoot).2
  else if isHandled project event.path then
    match event.potentiallyAffectedFiles with
    | none => s
    | some potentiallyAffectedFiles =>
      match updateFiles event.analyses 0 (affectedFiles event potentiallyAffectedFiles) s with
      | (true, s) => if event.type = .remove then s.fileRemoved event.path else s
      | (false, s) => s
  else s

/-- After `initialize`. -/
def initialized (analysis : Analysis) : PreviewDetector :=
  (create.findPreviewFunctions analysis project.projectRoot).2

end PreviewDetector

end FlutterZero.FlutterTools
