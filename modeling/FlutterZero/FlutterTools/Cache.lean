import Mathlib.Data.List.Basic
import FlutterZero.Lib.Machine

/-! # An engine artifact in the cache

`EngineCachedArtifact` (`cache.dart`): the packages and binary directories of an artifact are
downloaded and extracted one after another, in place, for the revision of the engine; at the end
of an update the revision is written to the stamp file of the artifact.

A step is one file operation of the tool.  An update may fail in each, and the tool may be
interrupted between any two; the revision of the engine changes only between updates, since the
tool reads it once.  An extraction writes all directories of its archive, or throws after it has
written some of them.  Paths are relative to the root of the cache.
-/

namespace FlutterZero.FlutterTools

open FlutterZero.Lib

abbrev CachePath := List String

structure EngineCachedArtifact where
  getPackageDirs : List String
  getBinaryDirs : List (CachePath × List String)
  getLicenseDirs : List CachePath

/-- What `downloadZipArchive` is called with. -/
structure CacheArchive where
  urlPath : List String
  location : CachePath
deriving DecidableEq, Repr

namespace CacheArchive

/-- `basenameWithoutExtension` of a file name. -/
def basenameWithoutExtension (basename : String) : String :=
  match basename.toList.reverse.dropWhile (· ≠ '.') with
  | _ :: c :: cs => String.ofList (c :: cs).reverse
  | _ => basename

def destination (archive : CacheArchive) : CachePath :=
  archive.location ++ [basenameWithoutExtension (archive.urlPath.getLastD "")]

end CacheArchive

namespace EngineCachedArtifact

def pkgDir : CachePath := ["pkg"]

def location : CachePath := ["artifacts", "engine"]

def kRetryCount : Nat := 2

/-- What `updateInner` downloads, in this order. -/
def archives (artifact : EngineCachedArtifact) : List CacheArchive :=
  artifact.getPackageDirs.map (fun pkgName => ⟨[pkgName ++ ".zip"], pkgDir⟩) ++
    artifact.getBinaryDirs.map fun toolsDir => ⟨toolsDir.2, location ++ toolsDir.1⟩

end EngineCachedArtifact

inductive DownloadPhase where
  | downloading
  | deleting
  | extracting
deriving DecidableEq, Repr

/-- An update that is running.  `startedAt` is the number of extractions before it. -/
structure CacheUpdate where
  /-- What is left to download; the first is under way. -/
  archives : List CacheArchive
  retries : Nat
  phase : DownloadPhase
  licenseDirs : List CachePath
  startedAt : Nat
deriving DecidableEq, Repr

/-- The update after a download or an extraction that failed: the next attempt, or the exit of the tool. -/
def CacheUpdate.retry (update : CacheUpdate) : Option CacheUpdate :=
  if update.retries - 1 = 0 then none
  else some { update with retries := update.retries - 1, phase := .downloading }

structure Extraction (Revision : Type) where
  archive : CacheArchive
  revision : Revision
  completed : Bool
deriving DecidableEq, Repr

structure Cache (Revision : Type) where
  engineRevision : Revision
  /-- What `getStampFor` returns for the artifact. -/
  stamp : Option Revision
  directories : List CachePath
  /-- The directories with a `LICENSE` file. -/
  licenses : List CachePath
  update : Option CacheUpdate
  /-- All extractions that were begun, in their order. -/
  extractions : List (Extraction Revision)
  /-- The number of extractions before the stamp was last written. -/
  stampedAt : Nat
deriving DecidableEq, Repr

inductive StampOutcome where
  | written
  | failed
  /-- The file is there and names no revision. -/
  | truncated
deriving DecidableEq, Repr

/-- Not a failure: a step that is not possible now. -/
inductive CacheFault where
  | notEnabled
deriving DecidableEq, Repr

namespace Cache

variable {Revision : Type}

def empty (engineRevision : Revision) : Cache Revision where
  engineRevision := engineRevision
  stamp := none
  directories := []
  licenses := []
  update := none
  extractions := []
  stampedAt := 0

/-- `createSync(recursive: true)`, unless it exists. -/
def ensureExists (s : Cache Revision) (directory : CachePath) : Cache Revision :=
  { s with directories := s.directories ++ directory.inits.filter fun parent => parent ∉ s.directories }

/-! ## Whether it is up to date -/

variable (artifact : EngineCachedArtifact)

def isUpToDateInner (s : Cache Revision) : Bool :=
  (artifact.getPackageDirs.all fun pkgName => EngineCachedArtifact.pkgDir ++ [pkgName] ∈ s.directories) &&
    (artifact.getBinaryDirs.all fun toolsDir => EngineCachedArtifact.location ++ toolsDir.1 ∈ s.directories) &&
    artifact.getLicenseDirs.all fun licenseDir => EngineCachedArtifact.location ++ licenseDir ∈ s.licenses

def isUpToDate [DecidableEq Revision] (s : Cache Revision) : Bool :=
  if EngineCachedArtifact.location ∉ s.directories then false
  else if some s.engineRevision ≠ s.stamp then false
  else s.isUpToDateInner artifact

/-! ## The update -/

/-- `update` up to its first download.  It may fail to create the location. -/
def beginUpdate (s : Cache Revision) : Except CacheFault (Cache Revision) :=
  match s.update with
  | some _ => .error .notEnabled
  | none =>
    .ok { s.ensureExists EngineCachedArtifact.location with
      update := some {
        archives := artifact.archives
        retries := EngineCachedArtifact.kRetryCount
        phase := .downloading
        licenseDirs := artifact.getLicenseDirs
        startedAt := s.extractions.length } }

def download (s : Cache Revision) (downloaded : Bool) : Except CacheFault (Cache Revision) :=
  match s.update with
  | some update =>
    if update.archives ≠ [] ∧ update.phase = .downloading then
      if downloaded then .ok { s with update := some { update with phase := .deleting } }
      else .ok { s with update := update.retry }
    else .error .notEnabled
  | none => .error .notEnabled

/-- Deletes the destination, except for the directories that could not be deleted, and makes sure that the
    location exists. -/
def deleteDestination (s : Cache Revision) (remaining : List CachePath) : Except CacheFault (Cache Revision) :=
  match s.update with
  | some update =>
    match update.archives, update.phase with
    | archive :: _, .deleting =>
      let directories := s.directories.filter fun directory =>
        ¬ archive.destination <+: directory ∨ directory ∈ remaining
      .ok { { s with directories }.ensureExists archive.location with
        update := some { update with phase := .extracting } }
    | _, _ => .error .notEnabled
  | none => .error .notEnabled

def extract (s : Cache Revision) (written : List CachePath) (completed : Bool) : Except CacheFault (Cache Revision) :=
  match s.update with
  | some update =>
    match update.archives, update.phase with
    | archive :: archives, .extracting =>
      let s' := written.foldl (fun s directory => s.ensureExists (archive.location ++ directory)) s
      .ok { s' with
        extractions := s.extractions ++ [⟨archive, s.engineRevision, completed⟩]
        update :=
          if completed then
            some { update with archives, retries := EngineCachedArtifact.kRetryCount, phase := .downloading }
          else update.retry }
    | _, _ => .error .notEnabled
  | none => .error .notEnabled

def copyLicense (s : Cache Revision) : Except CacheFault (Cache Revision) :=
  match s.update with
  | some update =>
    match update.archives, update.licenseDirs with
    | [], licenseDir :: licenseDirs =>
      if EngineCachedArtifact.location ++ licenseDir ∈ s.directories then
        .ok { s with
          licenses := (EngineCachedArtifact.location ++ licenseDir) :: s.licenses
          update := some { update with licenseDirs } }
      else .error .notEnabled
    | _, _ => .error .notEnabled
  | none => .error .notEnabled

/-- The end of `update`. -/
def setStamp (s : Cache Revision) (outcome : StampOutcome) : Except CacheFault (Cache Revision) :=
  match s.update with
  | some update =>
    if update.archives = [] ∧ update.licenseDirs = [] then
      match outcome with
      | .written => .ok { s with stamp := some s.engineRevision, stampedAt := s.extractions.length, update := none }
      | .failed => .ok { s with update := none }
      | .truncated => .ok { s with stamp := none, update := none }
    else .error .notEnabled
  | none => .error .notEnabled

def switchEngineRevision (s : Cache Revision) (engineRevision : Revision) : Except CacheFault (Cache Revision) :=
  match s.update with
  | some _ => .error .notEnabled
  | none => .ok { s with engineRevision }

/-! ## Operations -/

inductive Op (Revision : Type) where
  | switchEngineRevision (engineRevision : Revision)
  | beginUpdate
  | download (downloaded : Bool)
  | deleteDestination (remaining : List CachePath)
  | extract (written : List CachePath) (completed : Bool)
  | copyLicense
  | setStamp (outcome : StampOutcome)
  /-- The update throws somewhere else, or the tool is interrupted. -/
  | interrupt

def step (s : Cache Revision) : Op Revision → Except CacheFault (Unit × Cache Revision)
  | .switchEngineRevision engineRevision => do return ((), ← s.switchEngineRevision engineRevision)
  | .beginUpdate => do return ((), ← s.beginUpdate artifact)
  | .download downloaded => do return ((), ← s.download downloaded)
  | .deleteDestination remaining => do return ((), ← s.deleteDestination remaining)
  | .extract written completed => do return ((), ← s.extract written completed)
  | .copyLicense => do return ((), ← s.copyLicense)
  | .setStamp outcome => do return ((), ← s.setStamp outcome)
  | .interrupt => .ok ((), { s with update := none })

end Cache

end FlutterZero.FlutterTools
