import FlutterZero.Lib.Machine

/-! # The development file system

`DevFS` (`devfs.dart`): the files of an application on a device.  An update asks
every entry of the asset bundle whether it was modified, waits for the compiler,
and hands the modified entries and the compiled program to a writer.

* `DevFSContent.isModified` — a question that changes its own answer;
* `DevFS.update` — one update.

The file system of the host is a record of what it answers during one call.  The
compiler, the asset tools and the writer answer as the call's record says.  Archive
paths are relative, so that an asset's URI on the device stands for its path.
-/

namespace FlutterZero.FlutterTools

variable {Path Bytes Transformer : Type}

inductive FileSystemEntityType where
  | file
  | directory
  | link
  | notFound
deriving DecidableEq, Repr

structure FileStat where
  type : FileSystemEntityType
  modified : Nat
deriving DecidableEq, Repr

structure Host (Path Bytes : Type) where
  statSync : Path → FileStat
  /-- `FileStat.statSync` follows links. -/
  statSync_follows : ∀ path, (statSync path).type ≠ .link
  resolveSymbolicLinksSync : Path → Path
  read : Path → Option Bytes
  read_notFound : ∀ path, (statSync path).type = .notFound →
    read path = none ∧ read (resolveSymbolicLinksSync path) = none

/-! ## Contents -/

structure DevFSFileContent (Path : Type) where
  file : Path
  /-- Whether `file` is a `Link`. -/
  isLink : Bool
  linkTarget : Option Path
  fileStat : Option FileStat
deriving DecidableEq, Repr

namespace DevFSFileContent

def create (file : Path) (isLink : Bool) : DevFSFileContent Path := ⟨file, isLink, none, none⟩

def getFile (host : Host Path Bytes) (content : DevFSFileContent Path) : Path :=
  match content.linkTarget with
  | some linkTarget => linkTarget
  | none => if content.isLink then host.resolveSymbolicLinksSync content.file else content.file

def found (fileStat : FileStat) : Option FileStat := if fileStat.type = .notFound then none else some fileStat

/-- `_stat`, for a content without a cached target. -/
def statFile (cacheSymlinks : Bool) (host : Host Path Bytes) (content : DevFSFileContent Path) :
    DevFSFileContent Path :=
  let fileStat := found (host.statSync content.file)
  if fileStat.any fun stat => stat.type = .link then
    let linkTarget := host.resolveSymbolicLinksSync content.file
    if (host.statSync linkTarget).type = .notFound then { content with fileStat := none, linkTarget := none }
    else if cacheSymlinks then { content with fileStat, linkTarget := some linkTarget }
    else { content with fileStat, linkTarget := none }
  else { content with fileStat, linkTarget := none }

def stat (cacheSymlinks : Bool) (host : Host Path Bytes) (content : DevFSFileContent Path) :
    DevFSFileContent Path :=
  match content.linkTarget with
  | some linkTarget =>
    let fileStat := host.statSync linkTarget
    if fileStat.type = .notFound then statFile cacheSymlinks host { content with linkTarget := none }
    else { content with fileStat := some fileStat }
  | none => statFile cacheSymlinks host content

def isModified (cacheSymlinks : Bool) (host : Host Path Bytes) (content : DevFSFileContent Path) :
    Bool × DevFSFileContent Path :=
  let oldFileStat := content.fileStat
  let content := stat cacheSymlinks host content
  match oldFileStat, content.fileStat with
  | none, none => (false, content)
  | some oldFileStat, some newFileStat => (decide (oldFileStat.modified < newFileStat.modified), content)
  | _, _ => (true, content)

end DevFSFileContent

inductive DevFSContent (Path Bytes : Type) where
  | file (content : DevFSFileContent Path)
  | bytes (contents : Bytes) (isModified : Bool)

namespace DevFSContent

def isModified (cacheSymlinks : Bool) (host : Host Path Bytes) :
    DevFSContent Path Bytes → Bool × DevFSContent Path Bytes
  | .file content =>
    let (modified, content) := content.isModified cacheSymlinks host
    (modified, .file content)
  | .bytes contents isModified => (isModified, .bytes contents false)

def contentsAsBytes (host : Host Path Bytes) : DevFSContent Path Bytes → Option Bytes
  | .file content => host.read (content.getFile host)
  | .bytes contents _ => some contents

end DevFSContent

/-! ## The asset bundle -/

inductive AssetKind where
  | regular
  | font
  | shader
deriving DecidableEq, Repr

structure AssetBundleEntry (Path Bytes Transformer : Type) where
  content : DevFSContent Path Bytes
  kind : AssetKind
  transformers : List Transformer

abbrev Bundle (Path Bytes Transformer : Type) := List (Path × AssetBundleEntry Path Bytes Transformer)

structure DevFSTools (Path Bytes Transformer : Type) where
  cacheSymlinks : Bool
  /-- The path of an asset's URI on the device, below the asset directory. -/
  uriPath : Path → Path
  /-- What the asset transformers and the shader compiler make of an asset, if they do not fail. -/
  retransformAsset : Path → List Transformer → Bytes → Bytes
  recompileShader : Bytes → Bytes

section Assets

variable [DecidableEq Path] (tools : DevFSTools Path Bytes Transformer)

def kindOf (bundle : Bundle Path Bytes Transformer) (archivePath : Path) : Option AssetKind :=
  (bundle.lookup (tools.uriPath archivePath)).map AssetBundleEntry.kind

/-- Whether an asset tool has to run, which may fail. -/
def needsBuild (kind : Option AssetKind) (transformers : List Transformer) : Bool :=
  match kind with
  | some .shader => true
  | some .regular => !transformers.isEmpty
  | _ => false

def buildAsset (kind : Option AssetKind) (archivePath : Path) (transformers : List Transformer) (contents : Bytes) :
    Bytes :=
  match kind with
  | some .shader =>
    tools.recompileShader (if transformers.isEmpty then contents
      else tools.retransformAsset (tools.uriPath archivePath) transformers contents)
  | some .regular =>
    if transformers.isEmpty then contents
    else tools.retransformAsset (tools.uriPath archivePath) transformers contents
  | _ => contents

end Assets

/-! ## Updates -/

inductive DeviceUri (Path : Type) where
  | asset (archivePath : Path)
  | kernel (path : Path)
deriving DecidableEq

abbrev Device (Path Bytes : Type) := DeviceUri Path → Option Bytes

structure CompilerOutput (Path Bytes : Type) where
  errorCount : Nat
  /-- The compiled program, unless the file name is empty. -/
  compiledBinary : Option Bytes
  sources : List Path

/-- The arguments of a call of `update`, and what happens during it. -/
structure UpdateCall (Path Bytes : Type) where
  bundleFirstUpload : Bool
  pathToReload : Path
  candidateCompileTime : Nat
  compilerOutput : Option (CompilerOutput Path Bytes)
  buildFails : Path → Bool
  /-- The writer throws, after it wrote some of the files. -/
  writerThrows : Option (DeviceUri Path → Bool)

structure DevFS (Path : Type) where
  sources : List Path
  lastCompiled : Option Nat
  previousCompiled : Option Nat
deriving DecidableEq, Repr

namespace DevFS

def resetLastCompiled (devFS : DevFS Path) : DevFS Path := { devFS with lastCompiled := devFS.previousCompiled }

def recordCompile (devFS : DevFS Path) (candidateCompileTime : Nat) (sources : List Path) : DevFS Path :=
  { sources, lastCompiled := some candidateCompileTime, previousCompiled := devFS.lastCompiled }

inductive UpdateOutcome where
  /-- An `UpdateFSReport`. -/
  | report (success : Bool)
  | threw
deriving DecidableEq, Repr

structure UpdateResult (Path Bytes Transformer : Type) where
  outcome : UpdateOutcome
  devFS : DevFS Path
  bundle : Bundle Path Bytes Transformer
  device : Device Path Bytes

variable [DecidableEq Path]

def writeAll (device : Device Path Bytes) (entries : List (DeviceUri Path × Bytes)) : Device Path Bytes :=
  entries.foldl (fun device entry => Function.update device entry.1 (some entry.2)) device

variable (tools : DevFSTools Path Bytes Transformer) (host : Host Path Bytes)

def examine (bundle : Bundle Path Bytes Transformer) : Bundle Path Bytes Transformer :=
  bundle.map fun (archivePath, entry) =>
    (archivePath, { entry with content := (entry.content.isModified tools.cacheSymlinks host).2 })

def modifiedEntries (bundle : Bundle Path Bytes Transformer) : Bundle Path Bytes Transformer :=
  bundle.filter fun (_, entry) => (entry.content.isModified tools.cacheSymlinks host).1

/-- What is uploaded for an entry; `none` if its file cannot be read. -/
def upload (bundle : Bundle Path Bytes Transformer) (archivePath : Path)
    (entry : AssetBundleEntry Path Bytes Transformer) : Option Bytes :=
  (entry.content.contentsAsBytes host).map
    (buildAsset tools (kindOf tools bundle archivePath) archivePath entry.transformers)

/-- The entries of the bundle that are uploaded: none with the first upload, since they are part of
    the application then. -/
def dirty (call : UpdateCall Path Bytes) (bundle : Bundle Path Bytes Transformer) :
    Bundle Path Bytes Transformer :=
  if call.bundleFirstUpload then [] else modifiedEntries tools host bundle

def dirtyEntries (call : UpdateCall Path Bytes) (bundle : Bundle Path Bytes Transformer)
    (compilerOutput : CompilerOutput Path Bytes) : List (DeviceUri Path × Option Bytes) :=
  ((dirty tools host call bundle).map fun (archivePath, entry) =>
      (.asset archivePath, upload tools host bundle archivePath entry)) ++
    if call.bundleFirstUpload then []
    else (compilerOutput.compiledBinary.map fun binary => (.kernel call.pathToReload, some binary)).toList

def readable (entries : List (DeviceUri Path × Option Bytes)) : List (DeviceUri Path × Bytes) :=
  entries.filterMap fun (uri, contents) => contents.map (uri, ·)

def update (call : UpdateCall Path Bytes) (devFS : DevFS Path) (bundle : Bundle Path Bytes Transformer)
    (device : Device Path Bytes) : UpdateResult Path Bytes Transformer :=
  let examined := examine tools host bundle
  match call.compilerOutput with
  | none => ⟨.report false, devFS, examined, device⟩
  | some compilerOutput =>
    if compilerOutput.errorCount > 0 then ⟨.report false, devFS, examined, device⟩
    else
      let devFS := devFS.recordCompile call.candidateCompileTime compilerOutput.sources
      if (dirty tools host call bundle).any fun (archivePath, entry) =>
          needsBuild (kindOf tools bundle archivePath) entry.transformers && call.buildFails archivePath then
        ⟨.report false, devFS, examined, device⟩
      else
        let entries := dirtyEntries tools host call bundle compilerOutput
        if entries.isEmpty then ⟨.report true, devFS, examined, device⟩
        -- a file that cannot be read makes the writer throw as well
        else if call.writerThrows.isNone && entries.all fun (_, contents) => contents.isSome then
          ⟨.report true, devFS, examined, writeAll device (readable entries)⟩
        else
          let written := (readable entries).filter fun (uri, _) => (call.writerThrows.getD fun _ => true) uri
          ⟨.threw, devFS, examined, writeAll device written⟩

end DevFS

end FlutterZero.FlutterTools
