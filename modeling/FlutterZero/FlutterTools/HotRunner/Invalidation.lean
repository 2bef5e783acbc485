import FlutterZero.FlutterTools.DevFS
import FlutterZero.Lib.Strings

/-! # Finding the edited sources

`ProjectFileInvalidator.findInvalidated` (`run_hot.dart`) compares the modification
time of every source with the time of the last compile.  The stats of one round are
spread over time, the compile time is taken only when the update starts, and a
rejected reload rolls it back, but an update that fails behind the compiler does not.

* `ReloadSession.step` — edits and the steps of hot reload rounds, in any order;
* `LosesNoEdit` — the first round that starts after an edit finds it, unless an
  accepted round found it before;
* `losesNoEdit_of_timely` — no edit is lost if none falls between the stat of its
  file and the start of the update, nor into the scan of a round that is not uploaded;
* `not_losesNoEdit_late_edit` — such an edit is lost.

A source is identified by the path of its URI.
-/

namespace FlutterZero.FlutterTools

open Lib.Strings

/-- The arguments of `findInvalidated` that stay the same, and the platform. -/
structure ProjectFileInvalidator where
  isWindows : Bool
  asyncScanning : Bool
  packagesPath : String

namespace ProjectFileInvalidator

def pubCachePathLinuxAndMac : String := ".pub-cache"

def pubCachePathWindows : String := "Pub/Cache"

def isNotInPubCache (invalidator : ProjectFileInvalidator) (uri : String) : Bool :=
  !(invalidator.isWindows && contains uri pubCachePathWindows) && !contains uri pubCachePathLinuxAndMac

def urisToScan (invalidator : ProjectFileInvalidator) (urisToMonitor : List String) : List String :=
  urisToMonitor.filter invalidator.isNotInPubCache

end ProjectFileInvalidator

/-! ## The rounds -/

structure SourceStat where
  uri : String
  time : Nat
  modified : Nat
deriving DecidableEq, Repr

/-- A call of `findInvalidated`, with the files it has looked at so far. -/
structure SourceScan where
  startTime : Nat
  lastCompiled : Option Nat
  stats : List SourceStat
deriving DecidableEq, Repr

namespace SourceScan

def invalidates (scan : SourceScan) (stat : SourceStat) : Bool := scan.lastCompiled.any (· < stat.modified)

def invalidatedFiles (scan : SourceScan) : List String := (scan.stats.filter scan.invalidates).map SourceStat.uri

def scannedFiles (scan : SourceScan) : List String := scan.stats.map SourceStat.uri

def look (scan : SourceScan) (stat : SourceStat) : SourceScan := { scan with stats := scan.stats ++ [stat] }

end SourceScan

inductive ReloadOutcome where
  | compileFailed
  /-- `DevFS.update` failed after it had recorded the compile time. -/
  | uploadFailed
  | accepted
  | rejected
deriving DecidableEq, Repr

structure ReloadRound where
  scan : SourceScan
  candidateCompileTime : Nat
  outcome : ReloadOutcome
deriving DecidableEq, Repr

inductive ReloadPhase where
  | idle
  /-- With the sources that were not looked at yet. -/
  | scanning (scan : SourceScan) (pending : List String)
  | scanned (scan : SourceScan)
  | compiling (scan : SourceScan) (candidateCompileTime : Nat)
  | reloading (scan : SourceScan) (candidateCompileTime : Nat)
deriving DecidableEq, Repr

structure SourceEdit where
  uri : String
  time : Nat
  /-- Whether the file was monitored when it was edited. -/
  monitored : Bool
deriving DecidableEq, Repr

structure ReloadSession where
  clock : Nat
  modified : String → Nat
  devFS : DevFS String
  phase : ReloadPhase
  edits : List SourceEdit
  rounds : List ReloadRound

inductive ReloadEvent where
  | edit (uri : String)
  | findInvalidated
  | stat (uri : String)
  | statPackages
  | update
  /-- The sources that the compiler reports, if it succeeds. -/
  | compiled (sources : Option (List String))
  | uploadFailed
  | reload (accepted : Bool)
deriving DecidableEq, Repr

namespace ReloadSession

variable (invalidator : ProjectFileInvalidator)

def start (clock : Nat) (modified : String → Nat) : ReloadSession :=
  ⟨clock, modified, ⟨[], none, none⟩, .idle, [], []⟩

/-- After the initial load the sources and the package configuration are monitored. -/
def monitors (devFS : DevFS String) (uri : String) : Bool :=
  devFS.lastCompiled.isSome &&
    (decide (uri ∈ invalidator.urisToScan devFS.sources) || decide (uri = invalidator.packagesPath))

def complete (s : ReloadSession) (scan : SourceScan) (candidateCompileTime : Nat) (outcome : ReloadOutcome) :
    ReloadSession :=
  { s with phase := .idle, rounds := s.rounds ++ [⟨scan, candidateCompileTime, outcome⟩] }

def advance (s : ReloadSession) (time : Nat) : ReloadEvent → Option ReloadSession
  | .edit uri =>
    some { s with
      modified := Function.update s.modified uri time
      edits := s.edits ++ [⟨uri, time, monitors invalidator s.devFS uri⟩] }
  | .findInvalidated =>
    match s.phase with
    | .idle =>
      match s.devFS.lastCompiled with
      -- the initial load
      | none => some { s with phase := .scanned ⟨time, none, []⟩ }
      | some lastCompiled =>
        some { s with
          phase := .scanning ⟨time, some lastCompiled, []⟩ (invalidator.urisToScan s.devFS.sources) }
    | _ => none
  | .stat uri =>
    match s.phase with
    | .scanning scan pending =>
      -- one after another, or in any order while they are pending together
      if uri ∈ pending ∧ (invalidator.asyncScanning = true ∨ pending.head? = some uri) then
        some { s with phase := .scanning (scan.look ⟨uri, time, s.modified uri⟩) (pending.erase uri) }
      else none
    | _ => none
  | .statPackages =>
    match s.phase with
    | .scanning scan [] =>
      let packages := invalidator.packagesPath
      some { s with phase := .scanned (scan.look ⟨packages, time, s.modified packages⟩) }
    | _ => none
  | .update =>
    match s.phase with
    | .scanned scan => some { s with phase := .compiling scan time }
    | _ => none
  | .compiled none =>
    match s.phase with
    | .compiling scan candidateCompileTime => some (s.complete scan candidateCompileTime .compileFailed)
    | _ => none
  | .compiled (some sources) =>
    match s.phase with
    | .compiling scan candidateCompileTime =>
      some { s with
        devFS := s.devFS.recordCompile candidateCompileTime sources
        phase := .reloading scan candidateCompileTime }
    | _ => none
  | .uploadFailed =>
    match s.phase with
    -- nothing resets the compile time
    | .reloading scan candidateCompileTime => some (s.complete scan candidateCompileTime .uploadFailed)
    | _ => none
  | .reload true =>
    match s.phase with
    | .reloading scan candidateCompileTime => some (s.complete scan candidateCompileTime .accepted)
    | _ => none
  | .reload false =>
    match s.phase with
    | .reloading scan candidateCompileTime =>
      -- the initial load starts the program anew and cannot be rejected
      if scan.lastCompiled.isSome then
        some ({ s with devFS := s.devFS.resetLastCompiled }.complete scan candidateCompileTime .rejected)
      else none
    | _ => none

def step (s : ReloadSession) (event : Nat × ReloadEvent) : Except Unit (Unit × ReloadSession) :=
  if s.clock < event.1 then
    match advance invalidator s event.1 event.2 with
    | some s' => .ok ((), { s' with clock := event.1 })
    | none => .error ()
  else .error ()

/-! ## Lost edits -/

/-- An accepted round invalidated the edited file, having looked at it after the edit. -/
def Compiled (rounds : List ReloadRound) (edit : SourceEdit) : Prop :=
  ∃ round ∈ rounds, round.outcome = .accepted ∧
    ∃ stat ∈ round.scan.stats, stat.uri = edit.uri ∧ edit.time < stat.time ∧ round.scan.invalidates stat = true

def Unseen (rounds : List ReloadRound) (edit : SourceEdit) : Prop :=
  ∀ round ∈ rounds, ¬ edit.time < round.scan.startTime

/-- For every edit of a monitored source, the first complete round that starts after it invalidates
    the file, or an accepted round before it did. -/
def LosesNoEdit (s : ReloadSession) : Prop :=
  ∀ edit ∈ s.edits, edit.monitored = true → ∀ earlier round later, s.rounds = earlier ++ round :: later →
    Unseen earlier edit → edit.time < round.scan.startTime → edit.uri ∈ round.scan.scannedFiles →
      edit.uri ∈ round.scan.invalidatedFiles ∨ Compiled earlier edit

/-- If the event is the acceptance of a round, no file was edited between its stat and the start of
    the update.  If it is the failure of an upload, no file that was looked at was edited between the
    start of the scan and that of the update. -/
def Timely (s : ReloadSession) (event : Nat × ReloadEvent) : Prop :=
  ∀ scan candidateCompileTime, s.phase = .reloading scan candidateCompileTime →
    ∀ edit ∈ s.edits, ∀ stat ∈ scan.stats, stat.uri = edit.uri → edit.time < candidateCompileTime →
      (event.2 = .reload true → ¬ stat.time < edit.time) ∧
      (event.2 = .uploadFailed → ¬ scan.startTime ≤ edit.time)

/-! ## The invariant -/

variable {invalidator} {s : ReloadSession} {time : Nat} {scan : SourceScan} {lastCompiled : Option Nat}

/-- Compared with the given compile time, every edit is new that no round has seen yet. -/
def Safe (s : ReloadSession) (lastCompiled : Option Nat) : Prop :=
  ∀ edit ∈ s.edits, edit.monitored = true → Unseen s.rounds edit →
    (∀ time ∈ lastCompiled, time < edit.time) ∨ Compiled s.rounds edit

/-- The current round looked at files in the past, and saw the edits that came before. -/
structure ScanInv (clock : Nat) (edits : List SourceEdit) (scan : SourceScan) : Prop where
  started : scan.startTime ≤ clock
  lastCompiled_lt : ∀ time ∈ scan.lastCompiled, time < scan.startTime
  loaded : scan.lastCompiled = none → scan.stats = []
  stats_time : ∀ stat ∈ scan.stats, scan.startTime < stat.time ∧ stat.time ≤ clock
  stats_edit : ∀ stat ∈ scan.stats, ∀ edit ∈ edits, stat.uri = edit.uri →
    stat.time < edit.time ∨ (edit.time < stat.time ∧ edit.time ≤ stat.modified)

/-- The files that were edited during the round and before the given time have been looked at. -/
def Covered (s : ReloadSession) (scan : SourceScan) (candidateCompileTime : Nat) : Prop :=
  ∀ edit ∈ s.edits, candidateCompileTime < edit.time ∨
    (edit.time < candidateCompileTime ∧
      (edit.monitored = true → scan.startTime ≤ edit.time → edit.uri ∈ scan.scannedFiles))

variable (invalidator) in
def StillMonitored (s : ReloadSession) (scan : SourceScan) : Prop :=
  s.devFS.lastCompiled = scan.lastCompiled ∧
    ∀ edit ∈ s.edits, edit.monitored = true → scan.startTime ≤ edit.time →
      monitors invalidator s.devFS edit.uri = true

variable (invalidator) in
def PhaseInv (s : ReloadSession) : ReloadPhase → Prop
  | .idle => Safe s s.devFS.lastCompiled ∧ ∀ time ∈ s.devFS.lastCompiled, time ≤ s.clock
  | .scanning scan pending =>
    Safe s scan.lastCompiled ∧ ScanInv s.clock s.edits scan ∧ StillMonitored invalidator s scan ∧
      scan.lastCompiled.isSome = true ∧ ∀ uri, monitors invalidator s.devFS uri = true →
        uri ∈ pending ∨ uri = invalidator.packagesPath ∨ uri ∈ scan.scannedFiles
  | .scanned scan =>
    Safe s scan.lastCompiled ∧ ScanInv s.clock s.edits scan ∧ StillMonitored invalidator s scan ∧
      ∀ uri, monitors invalidator s.devFS uri = true → uri ∈ scan.scannedFiles
  | .compiling scan candidateCompileTime =>
    Safe s scan.lastCompiled ∧ ScanInv s.clock s.edits scan ∧ s.devFS.lastCompiled = scan.lastCompiled ∧
      candidateCompileTime ≤ s.clock ∧ Covered s scan candidateCompileTime
  | .reloading scan candidateCompileTime =>
    Safe s scan.lastCompiled ∧ ScanInv s.clock s.edits scan ∧ s.devFS.lastCompiled = some candidateCompileTime ∧
      s.devFS.previousCompiled = scan.lastCompiled ∧ candidateCompileTime ≤ s.clock ∧
      Covered s scan candidateCompileTime

variable (invalidator) in
structure Inv (s : ReloadSession) : Prop where
  edits : ∀ edit ∈ s.edits, edit.time ≤ s.clock ∧ edit.time ≤ s.modified edit.uri
  rounds : ∀ round ∈ s.rounds, round.scan.startTime ≤ s.clock
  noEditLost : LosesNoEdit s
  phase : PhaseInv invalidator s s.phase

/-! ## Time passes -/

theorem ScanInv.tick (inv : ScanInv s.clock s.edits scan) (later : s.clock < time) : ScanInv time s.edits scan where
  started := inv.started.trans later.le
  lastCompiled_lt := inv.lastCompiled_lt
  loaded := inv.loaded
  stats_time stat inside := ⟨(inv.stats_time stat inside).1, (inv.stats_time stat inside).2.trans later.le⟩
  stats_edit := inv.stats_edit

theorem ScanInv.look (inv : ScanInv s.clock s.edits scan) (later : s.clock < time)
    (loaded : scan.lastCompiled.isSome = true)
    (edits : ∀ edit ∈ s.edits, edit.time ≤ s.clock ∧ edit.time ≤ s.modified edit.uri) (uri : String) :
    ScanInv time s.edits (scan.look ⟨uri, time, s.modified uri⟩) where
  started := inv.started.trans later.le
  lastCompiled_lt := inv.lastCompiled_lt
  loaded none := by
    rw [SourceScan.look] at none
    rw [none] at loaded
    cases loaded
  stats_time := by
    intro stat inside
    rcases List.mem_append.mp inside with old | new
    · exact ((inv.tick later).stats_time stat old)
    · rw [List.mem_singleton.mp new]
      exact ⟨inv.started.trans_lt later, le_rfl⟩
  stats_edit := by
    intro stat inside edit edited same
    rcases List.mem_append.mp inside with old | new
    · exact inv.stats_edit stat old edit edited same
    · rw [List.mem_singleton.mp new] at same ⊢
      right
      refine ⟨(edits edit edited).1.trans_lt later, ?_⟩
      rw [show uri = edit.uri from same]
      exact (edits edit edited).2

theorem scannedFiles_look (scan : SourceScan) (stat : SourceStat) :
    (scan.look stat).scannedFiles = scan.scannedFiles ++ [stat.uri] := by
  simp [SourceScan.look, SourceScan.scannedFiles]

/-! ## Edits -/

def afterEdit (s : ReloadSession) (edit : SourceEdit) : ReloadSession :=
  { s with clock := edit.time, modified := Function.update s.modified edit.uri edit.time, edits := s.edits ++ [edit] }

section Edit

variable {newEdit : SourceEdit}

theorem forall_mem_afterEdit {P : SourceEdit → Prop} (old : ∀ edit ∈ s.edits, P edit) (new : P newEdit) :
    ∀ edit ∈ (s.afterEdit newEdit).edits, P edit := by
  intro edit inside
  rcases List.mem_append.mp inside with before | last
  · exact old edit before
  · rwa [List.mem_singleton.mp last]

theorem Safe.edit (safe : Safe s lastCompiled) (later : ∀ time ∈ lastCompiled, time < newEdit.time) :
    Safe (s.afterEdit newEdit) lastCompiled :=
  forall_mem_afterEdit safe fun _ _ => .inl later

theorem ScanInv.edit (inv : ScanInv s.clock s.edits scan) (later : s.clock < newEdit.time) :
    ScanInv newEdit.time (s.edits ++ [newEdit]) scan where
  started := inv.started.trans later.le
  lastCompiled_lt := inv.lastCompiled_lt
  loaded := inv.loaded
  stats_time := (inv.tick later).stats_time
  stats_edit stat inside :=
    forall_mem_afterEdit (inv.stats_edit stat inside) fun _ => .inl ((inv.stats_time stat inside).2.trans_lt later)

theorem Covered.edit {candidateCompileTime : Nat} (covered : Covered s scan candidateCompileTime)
    (later : candidateCompileTime < newEdit.time) : Covered (s.afterEdit newEdit) scan candidateCompileTime :=
  forall_mem_afterEdit covered (.inl later)

theorem StillMonitored.edit (still : StillMonitored invalidator s scan)
    (monitored : newEdit.monitored = monitors invalidator s.devFS newEdit.uri) :
    StillMonitored invalidator (s.afterEdit newEdit) scan :=
  ⟨still.1, forall_mem_afterEdit still.2 fun isMonitored _ => monitored.symm.trans isMonitored⟩

theorem ScanInv.lastCompiled_lt_edit (inv : ScanInv s.clock s.edits scan) (later : s.clock < newEdit.time) :
    ∀ time ∈ scan.lastCompiled, time < newEdit.time :=
  fun compiled found => (inv.lastCompiled_lt compiled found).trans_le (inv.started.trans later.le)

theorem PhaseInv.edit (phase : PhaseInv invalidator s s.phase) (later : s.clock < newEdit.time)
    (monitored : newEdit.monitored = monitors invalidator s.devFS newEdit.uri) :
    PhaseInv invalidator (s.afterEdit newEdit) s.phase := by
  match current : s.phase with
  | .idle =>
    rw [current] at phase
    obtain ⟨safe, past⟩ := phase
    exact ⟨safe.edit fun compiled found => (past compiled found).trans_lt later,
      fun compiled found => (past compiled found).trans later.le⟩
  | .scanning scan pending =>
    rw [current] at phase
    obtain ⟨safe, scanInv, still, rest⟩ := phase
    exact ⟨safe.edit (scanInv.lastCompiled_lt_edit later), scanInv.edit later, still.edit monitored, rest⟩
  | .scanned scan =>
    rw [current] at phase
    obtain ⟨safe, scanInv, still, rest⟩ := phase
    exact ⟨safe.edit (scanInv.lastCompiled_lt_edit later), scanInv.edit later, still.edit monitored, rest⟩
  | .compiling scan candidateCompileTime =>
    rw [current] at phase
    obtain ⟨safe, scanInv, last, past, covered⟩ := phase
    exact ⟨safe.edit (scanInv.lastCompiled_lt_edit later), scanInv.edit later, last, past.trans later.le,
      covered.edit (past.trans_lt later)⟩
  | .reloading scan candidateCompileTime =>
    rw [current] at phase
    obtain ⟨safe, scanInv, last, previous, past, covered⟩ := phase
    exact ⟨safe.edit (scanInv.lastCompiled_lt_edit later), scanInv.edit later, last, previous, past.trans later.le,
      covered.edit (past.trans_lt later)⟩

theorem Inv.edit (inv : Inv invalidator s) (later : s.clock < newEdit.time)
    (monitored : newEdit.monitored = monitors invalidator s.devFS newEdit.uri) :
    Inv invalidator (s.afterEdit newEdit) where
  edits := by
    apply forall_mem_afterEdit
    · intro edit before
      obtain ⟨past, seen⟩ := inv.edits edit before
      refine ⟨past.trans later.le, ?_⟩
      change edit.time ≤ Function.update s.modified newEdit.uri newEdit.time edit.uri
      rw [Function.update_apply]
      split
      · exact past.trans later.le
      · exact seen
    · exact ⟨le_rfl, (Function.update_self newEdit.uri newEdit.time s.modified).ge⟩
  rounds round inside := (inv.rounds round inside).trans later.le
  noEditLost := by
    apply forall_mem_afterEdit inv.noEditLost
    intro _ earlier round later' split _ after
    -- the complete rounds have started before the new edit
    have started : round.scan.startTime ≤ s.clock := inv.rounds round (by simp [split])
    exact absurd (after.trans_le started) later.not_gt
  phase := inv.phase.edit later monitored

end Edit

/-! ## The end of a round -/

section Complete

variable {candidateCompileTime : Nat} {outcome : ReloadOutcome}

theorem mem_scannedFiles {uri : String} :
    uri ∈ scan.scannedFiles ↔ ∃ stat ∈ scan.stats, stat.uri = uri := List.mem_map

theorem ScanInv.invalidates (inv : ScanInv s.clock s.edits scan) {stat : SourceStat} (inside : stat ∈ scan.stats)
    {edit : SourceEdit} (newer : ∀ time ∈ scan.lastCompiled, time < edit.time) (seen : edit.time ≤ stat.modified) :
    scan.invalidates stat = true := by
  match compiled : scan.lastCompiled with
  | none =>
    rw [inv.loaded compiled] at inside
    exact absurd inside List.not_mem_nil
  | some lastCompiled =>
    rw [SourceScan.invalidates, compiled, Option.any_some, decide_eq_true_eq]
    exact (newer lastCompiled compiled).trans_le seen

theorem losesNoEdit_complete (noEditLost : LosesNoEdit s) (safe : Safe s scan.lastCompiled)
    (inv : ScanInv s.clock s.edits scan) :
    LosesNoEdit (s.complete scan candidateCompileTime outcome) := by
  intro edit edited monitored earlier round later split unseen after scanned
  rcases List.eq_nil_or_concat later with rfl | ⟨init, last, rfl⟩
  · obtain ⟨rfl, rounds⟩ := List.append_inj' split rfl
    obtain rfl := List.singleton_inj.mp rounds
    rcases safe edit edited monitored unseen with newer | compiled
    · left
      obtain ⟨stat, inside, same⟩ := mem_scannedFiles.mp scanned
      rcases inv.stats_edit stat inside edit edited same with before | ⟨-, seen⟩
      · exact absurd (before.trans after) (inv.stats_time stat inside).1.not_gt
      · exact List.mem_map.mpr ⟨stat, List.mem_filter.mpr ⟨inside, inv.invalidates inside newer seen⟩, same⟩
    · exact .inr compiled
  · rw [List.concat_eq_append, ← List.cons_append, ← List.append_assoc] at split
    obtain ⟨rounds, -⟩ := List.append_inj' split rfl
    exact noEditLost edit edited monitored earlier round init rounds unseen after scanned

theorem ScanInv.newer_of_started (inv : ScanInv s.clock s.edits scan) {edit : SourceEdit}
    (started : scan.startTime ≤ edit.time) :
    ∀ time ∈ scan.lastCompiled, time < edit.time :=
  fun compiled found => (inv.lastCompiled_lt compiled found).trans_le started

theorem started_of_unseen {edit : SourceEdit}
    (unseen : Unseen (s.complete scan candidateCompileTime outcome).rounds edit) : scan.startTime ≤ edit.time :=
  not_lt.mp (unseen ⟨scan, candidateCompileTime, outcome⟩ (by simp [complete]))

theorem safe_complete (inv : ScanInv s.clock s.edits scan) :
    Safe (s.complete scan candidateCompileTime outcome) scan.lastCompiled :=
  fun _ _ _ unseen => .inl (inv.newer_of_started (started_of_unseen unseen))

theorem safe_complete_accepted (inv : ScanInv s.clock s.edits scan) (covered : Covered s scan candidateCompileTime)
    (timely : ∀ edit ∈ s.edits, ∀ stat ∈ scan.stats, stat.uri = edit.uri → edit.time < candidateCompileTime →
      ¬ stat.time < edit.time) :
    Safe (s.complete scan candidateCompileTime .accepted) (some candidateCompileTime) := by
  intro edit edited monitored unseen
  have started := started_of_unseen unseen
  rcases covered edit edited with after | ⟨before, looked⟩
  · left
    rintro _ ⟨⟩
    exact after
  · right
    obtain ⟨stat, inside, same⟩ := mem_scannedFiles.mp (looked monitored started)
    rcases inv.stats_edit stat inside edit edited same with late | ⟨early, seen⟩
    · exact absurd late (timely edit edited stat inside same before)
    · refine ⟨⟨scan, candidateCompileTime, .accepted⟩, by simp [complete], rfl, stat, inside, same, early, ?_⟩
      exact inv.invalidates inside (inv.newer_of_started started) seen

theorem safe_complete_uploadFailed (covered : Covered s scan candidateCompileTime)
    (timely : ∀ edit ∈ s.edits, ∀ stat ∈ scan.stats, stat.uri = edit.uri → edit.time < candidateCompileTime →
      ¬ scan.startTime ≤ edit.time) :
    Safe (s.complete scan candidateCompileTime .uploadFailed) (some candidateCompileTime) := by
  intro edit edited monitored unseen
  have started := started_of_unseen unseen
  left
  rintro _ ⟨⟩
  rcases covered edit edited with after | ⟨before, looked⟩
  · exact after
  · obtain ⟨stat, inside, same⟩ := mem_scannedFiles.mp (looked monitored started)
    exact absurd started (timely edit edited stat inside same before)

theorem rounds_complete (rounds : ∀ round ∈ s.rounds, round.scan.startTime ≤ s.clock)
    (inv : ScanInv s.clock s.edits scan) :
    ∀ round ∈ (s.complete scan candidateCompileTime outcome).rounds, round.scan.startTime ≤ s.clock := by
  intro round inside
  rcases List.mem_append.mp inside with old | new
  · exact rounds round old
  · rw [List.mem_singleton.mp new]
    exact inv.started

end Complete

/-! ## Every step -/

theorem Inv.tick (inv : Inv invalidator s) (later : s.clock < time) {phase : ReloadPhase}
    (next : PhaseInv invalidator { s with clock := time } phase) :
    Inv invalidator { s with clock := time, phase := phase } where
  edits edit inside := ⟨(inv.edits edit inside).1.trans later.le, (inv.edits edit inside).2⟩
  rounds round inside := (inv.rounds round inside).trans later.le
  noEditLost := inv.noEditLost
  phase := by cases phase <;> exact next

theorem Inv.complete (inv : Inv invalidator s) (later : s.clock < time) {scan : SourceScan}
    {candidateCompileTime : Nat} {outcome : ReloadOutcome} (devFS : DevFS String)
    (safe : Safe s scan.lastCompiled) (scanInv : ScanInv s.clock s.edits scan)
    (kept : Safe (s.complete scan candidateCompileTime outcome) devFS.lastCompiled)
    (past : ∀ time ∈ devFS.lastCompiled, time ≤ s.clock) :
    Inv invalidator { s.complete scan candidateCompileTime outcome with clock := time, devFS := devFS } where
  edits edit inside := ⟨(inv.edits edit inside).1.trans later.le, (inv.edits edit inside).2⟩
  rounds round inside := (rounds_complete inv.rounds scanInv round inside).trans later.le
  noEditLost := losesNoEdit_complete inv.noEditLost safe scanInv
  phase := ⟨kept, fun compiled found => (past compiled found).trans later.le⟩

variable {s' : ReloadSession}

theorem Inv.findInvalidated (inv : Inv invalidator s) (later : s.clock < time)
    (advanced : advance invalidator s time .findInvalidated = some s') :
    Inv invalidator { s' with clock := time } := by
  have phase := inv.phase
  match current : s.phase with
  | .idle =>
    rw [current] at phase
    obtain ⟨safe, past⟩ := phase
    simp only [advance, current] at advanced
    have still : ∀ lastCompiled, s.devFS.lastCompiled = lastCompiled →
        StillMonitored invalidator { s with clock := time } ⟨time, lastCompiled, []⟩ := by
      refine fun lastCompiled last => ⟨last, fun edit edited _ started => ?_⟩
      exact absurd (started.trans (inv.edits edit edited).1) later.not_ge
    have fresh : ∀ lastCompiled, s.devFS.lastCompiled = lastCompiled →
        ScanInv time s.edits ⟨time, lastCompiled, []⟩ := by
      rintro _ rfl
      exact ⟨le_rfl, fun compiled found => (past compiled found).trans_lt later, fun _ => rfl, by simp, by simp⟩
    split at advanced
    · rename_i last
      cases advanced
      rw [last] at safe
      refine inv.tick later ⟨safe, fresh _ last, still _ last, fun uri monitored => ?_⟩
      simp [monitors, last] at monitored
    · rename_i lastCompiled last
      cases advanced
      rw [last] at safe
      refine inv.tick later ⟨safe, fresh _ last, still _ last, rfl, fun uri monitored => ?_⟩
      simp only [monitors, last, Option.isSome_some, Bool.true_and, Bool.or_eq_true, decide_eq_true_eq] at monitored
      exact monitored.imp_right .inl
  | .scanning .. | .scanned .. | .compiling .. | .reloading .. => simp [advance, current] at advanced

theorem Inv.stat (inv : Inv invalidator s) (later : s.clock < time) {uri : String}
    (advanced : advance invalidator s time (.stat uri) = some s') : Inv invalidator { s' with clock := time } := by
  have phase := inv.phase
  match current : s.phase with
  | .scanning scan pending =>
    rw [current] at phase
    obtain ⟨safe, scanInv, still, loaded, monitored⟩ := phase
    simp only [advance, current] at advanced
    split at advanced
    · cases advanced
      refine inv.tick later ⟨safe, scanInv.look later loaded inv.edits uri, still, loaded, fun other is => ?_⟩
      rw [scannedFiles_look]
      -- the file leaves the pending ones when it is looked at
      by_cases same : other = uri
      · exact .inr (.inr (by simp [same]))
      · rcases monitored other is with waiting | packages | looked
        · exact .inl ((List.mem_erase_of_ne same).mpr waiting)
        · exact .inr (.inl packages)
        · exact .inr (.inr (List.mem_append_left _ looked))
    · cases advanced
  | .idle | .scanned .. | .compiling .. | .reloading .. => simp [advance, current] at advanced

theorem Inv.statPackages (inv : Inv invalidator s) (later : s.clock < time)
    (advanced : advance invalidator s time .statPackages = some s') : Inv invalidator { s' with clock := time } := by
  have phase := inv.phase
  match current : s.phase with
  | .scanning scan [] =>
    rw [current] at phase
    obtain ⟨safe, scanInv, still, loaded, monitored⟩ := phase
    simp only [advance, current, Option.some.injEq] at advanced
    subst advanced
    refine inv.tick later ⟨safe, scanInv.look later loaded inv.edits _, still, fun other is => ?_⟩
    rw [scannedFiles_look]
    rcases monitored other is with waiting | packages | looked
    · exact absurd waiting List.not_mem_nil
    · simp [packages]
    · exact List.mem_append_left _ looked
  | .scanning _ (_ :: _) | .idle | .scanned .. | .compiling .. | .reloading .. => simp [advance, current] at advanced

theorem Inv.update (inv : Inv invalidator s) (later : s.clock < time)
    (advanced : advance invalidator s time .update = some s') : Inv invalidator { s' with clock := time } := by
  have phase := inv.phase
  match current : s.phase with
  | .scanned scan =>
    rw [current] at phase
    obtain ⟨safe, scanInv, still, looked⟩ := phase
    simp only [advance, current, Option.some.injEq] at advanced
    subst advanced
    refine inv.tick later ⟨safe, scanInv.tick later, still.1, le_rfl, fun edit edited => .inr ?_⟩
    refine ⟨(inv.edits edit edited).1.trans_lt later, fun monitored started => ?_⟩
    exact looked edit.uri (still.2 edit edited monitored started)
  | .idle | .scanning .. | .compiling .. | .reloading .. => simp [advance, current] at advanced

theorem Inv.compiled (inv : Inv invalidator s) (later : s.clock < time)
    {sources : Option (List String)} (advanced : advance invalidator s time (.compiled sources) = some s') :
    Inv invalidator { s' with clock := time } := by
  have phase := inv.phase
  match current : s.phase with
  | .compiling scan candidateCompileTime =>
    rw [current] at phase
    obtain ⟨safe, scanInv, last, past, covered⟩ := phase
    cases sources with
    | none =>
      simp only [advance, current, Option.some.injEq] at advanced
      subst advanced
      apply inv.complete later s.devFS safe scanInv
      · rw [last]
        exact safe_complete scanInv
      · intro compiled found
        rw [last] at found
        exact (scanInv.lastCompiled_lt compiled found).le.trans scanInv.started
    | some sources =>
      simp only [advance, current, Option.some.injEq] at advanced
      subst advanced
      exact ⟨fun edit inside => ⟨(inv.edits edit inside).1.trans later.le, (inv.edits edit inside).2⟩,
        fun round inside => (inv.rounds round inside).trans later.le, inv.noEditLost,
        safe, scanInv.tick later, rfl, last, past.trans later.le, covered⟩
  | .idle | .scanning .. | .scanned .. | .reloading .. => cases sources <;> simp [advance, current] at advanced

theorem Inv.uploadFailed (inv : Inv invalidator s) (later : s.clock < time) (timely : s.Timely (time, .uploadFailed))
    (advanced : advance invalidator s time .uploadFailed = some s') : Inv invalidator { s' with clock := time } := by
  have phase := inv.phase
  match current : s.phase with
  | .reloading scan candidateCompileTime =>
    rw [current] at phase
    obtain ⟨safe, scanInv, last, previous, past, covered⟩ := phase
    simp only [advance, current, Option.some.injEq] at advanced
    subst advanced
    apply inv.complete later s.devFS safe scanInv
    · rw [last]
      apply safe_complete_uploadFailed covered
      intro edit edited stat inside same before
      exact (timely scan candidateCompileTime current edit edited stat inside same before).2 rfl
    · rw [last]
      rintro _ ⟨⟩
      exact past
  | .idle | .scanning .. | .scanned .. | .compiling .. => simp [advance, current] at advanced

theorem Inv.reload (inv : Inv invalidator s) (later : s.clock < time) {accepted : Bool}
    (timely : s.Timely (time, .reload accepted))
    (advanced : advance invalidator s time (.reload accepted) = some s') :
    Inv invalidator { s' with clock := time } := by
  have phase := inv.phase
  match current : s.phase with
  | .reloading scan candidateCompileTime =>
    rw [current] at phase
    obtain ⟨safe, scanInv, last, previous, past, covered⟩ := phase
    cases accepted with
    | true =>
      simp only [advance, current, Option.some.injEq] at advanced
      subst advanced
      apply inv.complete later s.devFS safe scanInv
      · rw [last]
        apply safe_complete_accepted scanInv covered
        intro edit edited stat inside same before
        exact (timely scan candidateCompileTime current edit edited stat inside same before).1 rfl
      · rw [last]
        rintro _ ⟨⟩
        exact past
    | false =>
      simp only [advance, current] at advanced
      split at advanced
      · cases advanced
        apply inv.complete later s.devFS.resetLastCompiled safe scanInv
        · rw [DevFS.resetLastCompiled, previous]
          exact safe_complete scanInv
        · rw [DevFS.resetLastCompiled, previous]
          exact fun compiled found => (scanInv.lastCompiled_lt compiled found).le.trans scanInv.started
      · cases advanced
  | .idle | .scanning .. | .scanned .. | .compiling .. => cases accepted <;> simp [advance, current] at advanced

theorem Inv.step (inv : Inv invalidator s) {event : Nat × ReloadEvent} {out : Unit}
    (timely : s.Timely event) (stepped : ReloadSession.step invalidator s event = .ok (out, s')) :
    Inv invalidator s' := by
  obtain ⟨time, event⟩ := event
  unfold ReloadSession.step at stepped
  split at stepped
  · rename_i later
    split at stepped
    · rename_i next advanced
      cases stepped
      cases event with
      | edit uri =>
        cases advanced
        exact (inv.edit later rfl : Inv invalidator (s.afterEdit ⟨uri, time, monitors invalidator s.devFS uri⟩))
      | findInvalidated => exact inv.findInvalidated later advanced
      | stat uri => exact inv.stat later advanced
      | statPackages => exact inv.statPackages later advanced
      | update => exact inv.update later advanced
      | compiled sources => exact inv.compiled later advanced
      | uploadFailed => exact inv.uploadFailed later timely advanced
      | reload accepted => exact inv.reload later timely advanced
    · cases stepped
  · cases stepped

theorem inv_start (clock : Nat) (modified : String → Nat) : Inv invalidator (start clock modified) where
  edits := by simp [start]
  rounds := by simp [start]
  noEditLost := by simp [LosesNoEdit, start]
  phase := ⟨by simp [Safe, start], by simp [start]⟩

/-- In every run in which no file is edited between its stat and the update of an accepted round, nor
    between the scan and the update of a round whose upload fails, no edit is lost. -/
theorem losesNoEdit_of_timely {clock : Nat} {modified : String → Nat} {log : List ((Nat × ReloadEvent) × Unit)}
    (runs : Lib.Runs (ReloadSession.step invalidator) Timely (start clock modified) log s) : LosesNoEdit s := by
  have inv : Inv invalidator s := by
    apply runs.preserves (inv_start clock modified)
    intro s event out s' inv timely stepped
    exact inv.step timely stepped
  exact inv.noEditLost

section Runs

def isTimely (s : ReloadSession) (event : Nat × ReloadEvent) : Bool :=
  match s.phase with
  | .reloading scan candidateCompileTime =>
    s.edits.all fun edit => scan.stats.all fun stat =>
      !(decide (stat.uri = edit.uri) && decide (edit.time < candidateCompileTime) &&
        ((decide (event.2 = .reload true) && decide (stat.time < edit.time)) ||
          (decide (event.2 = .uploadFailed) && decide (scan.startTime ≤ edit.time))))
  | _ => true

theorem timely_of_isTimely (s : ReloadSession) (event : Nat × ReloadEvent) (checked : isTimely s event = true) :
    s.Timely event := by
  intro scan candidateCompileTime current edit edited stat inside same before
  simp only [isTimely, current, List.all_eq_true] at checked
  have outside := checked edit edited stat inside
  constructor
  · intro accepts late
    simp [same, before, accepts, late] at outside
  · intro fails started
    simp [same, before, fails, started] at outside

def linuxInvalidator : ProjectFileInvalidator := ⟨false, false, ".dart_tool/package_config.json"⟩

def initialLoad : List (Nat × ReloadEvent) :=
  [(1, .findInvalidated), (2, .update), (3, .compiled (some ["lib/main.dart"])), (4, .reload true)]

def hotReloadEnding (ending : ReloadEvent) (time : Nat) : List (Nat × ReloadEvent) :=
  [(time, .findInvalidated), (time + 1, .stat "lib/main.dart"), (time + 2, .statPackages), (time + 3, .update),
    (time + 4, .compiled (some ["lib/main.dart"])), (time + 5, ending)]

def hotReload : Nat → List (Nat × ReloadEvent) := hotReloadEnding (.reload true)

/-- An edit before a round is found by it, also if it is not uploaded. -/
theorem losesNoEdit_early_edit : ∃ log s,
    Lib.Runs (ReloadSession.step linuxInvalidator) Timely (start 0 fun _ => 0) log s ∧
      s.edits = [⟨"lib/main.dart", 5, true⟩] ∧
      s.rounds.map (fun round => round.scan.invalidatedFiles) = [[], ["lib/main.dart"], []] ∧ LosesNoEdit s := by
  have ran : ∃ log s, Lib.run (Lib.guarded (ReloadSession.step linuxInvalidator) () isTimely) (start 0 fun _ => 0)
      (initialLoad ++ [(5, .edit "lib/main.dart")] ++ hotReloadEnding .uploadFailed 6 ++ hotReload 12) = .ok (log, s) ∧
      s.edits = [⟨"lib/main.dart", 5, true⟩] ∧
      s.rounds.map (fun round => round.scan.invalidatedFiles) = [[], ["lib/main.dart"], []] := ⟨_, _, rfl, rfl, rfl⟩
  obtain ⟨log, s, ran, edits, rounds⟩ := ran
  have runs := Lib.runs_of_run_guarded timely_of_isTimely ran
  exact ⟨log, s, runs, edits, rounds, losesNoEdit_of_timely runs⟩

/-- The source is edited while the package configuration is looked at. -/
def lateEdit : List (Nat × ReloadEvent) :=
  initialLoad ++ [(5, .findInvalidated), (6, .stat "lib/main.dart"), (7, .edit "lib/main.dart"), (8, .statPackages),
    (9, .update), (10, .compiled (some ["lib/main.dart"])), (11, .reload true)] ++ hotReload 12

/-- An edit between the stat of the file and the update is lost. -/
theorem not_losesNoEdit_late_edit :
    ¬ ∀ (invalidator : ProjectFileInvalidator) (clock : Nat) (modified : String → Nat)
      (log : List ((Nat × ReloadEvent) × Unit)) (s : ReloadSession),
      Lib.Runs (ReloadSession.step invalidator) (fun _ _ => True) (start clock modified) log s → LosesNoEdit s := by
  intro always
  have ran : ∃ log s, Lib.run (ReloadSession.step linuxInvalidator) (start 0 fun _ => 0) lateEdit = .ok (log, s) ∧
      s.edits = [⟨"lib/main.dart", 7, true⟩] ∧
      s.rounds = [⟨⟨1, none, []⟩, 2, .accepted⟩,
        ⟨⟨5, some 2, [⟨"lib/main.dart", 6, 0⟩, ⟨".dart_tool/package_config.json", 8, 0⟩]⟩, 9, .accepted⟩] ++
        [⟨⟨12, some 9, [⟨"lib/main.dart", 13, 7⟩, ⟨".dart_tool/package_config.json", 14, 0⟩]⟩, 15, .accepted⟩] :=
    ⟨_, _, rfl, rfl, rfl⟩
  obtain ⟨log, s, ran, edits, rounds⟩ := ran
  have runs := Lib.runs_of_run (fun _ _ _ => trivial) ran
  have found := always linuxInvalidator 0 (fun _ => 0) log s runs ⟨"lib/main.dart", 7, true⟩ (by simp [edits]) rfl
    _ _ [] rounds (by simp [Unseen]) (by decide) (by simp [SourceScan.scannedFiles])
  revert found
  simp [SourceScan.invalidatedFiles, SourceScan.invalidates, Compiled]

end Runs

/-! ## The update of a device -/

section Update

variable {Bytes Transformer : Type}

def compiledSources (call : UpdateCall String Bytes) : Option (List String) :=
  match call.compilerOutput with
  | none => none
  | some compilerOutput => if compilerOutput.errorCount > 0 then none else some compilerOutput.sources

variable (tools : DevFSTools String Bytes Transformer) (host : Host String Bytes) (call : UpdateCall String Bytes)
  (devFS : DevFS String) (bundle : Bundle String Bytes Transformer) (device : Device String Bytes)

theorem devFS_update : (DevFS.update tools host call devFS bundle device).devFS =
    ((compiledSources call).map (devFS.recordCompile call.candidateCompileTime)).getD devFS := by
  cases output : call.compilerOutput with
  | none => simp [DevFS.update, compiledSources, output]
  | some compilerOutput =>
    by_cases errors : compilerOutput.errorCount > 0
    · simp [DevFS.update, compiledSources, output, errors]
    · simp only [DevFS.update, compiledSources, output, if_neg errors, Option.map_some, Option.getD_some]
      split
      · rfl
      · split
        · rfl
        · split <;> rfl

theorem outcome_update (failed : compiledSources call = none) :
    (DevFS.update tools host call devFS bundle device).outcome = .report false := by
  cases output : call.compilerOutput with
  | none => simp [DevFS.update, output]
  | some compilerOutput =>
    have errors : compilerOutput.errorCount > 0 := by
      by_contra none
      simp [compiledSources, output, none] at failed
    simp [DevFS.update, output, errors]

/-- A round moves the compile time as `DevFS.update` does, and ends there unless the compiler succeeded.
    Where the update is no success after that, it is the upload that failed. -/
theorem advance_compiled_eq_update (current : s.phase = .compiling scan call.candidateCompileTime) :
    ∃ s', advance invalidator s time (.compiled (compiledSources call)) = some s' ∧
      s'.devFS = (DevFS.update tools host call s.devFS bundle device).devFS ∧
      ((DevFS.update tools host call s.devFS bundle device).outcome = .report true →
        s'.phase = .reloading scan call.candidateCompileTime) := by
  rw [devFS_update]
  cases compiled : compiledSources call with
  | none =>
    refine ⟨s.complete scan call.candidateCompileTime .compileFailed, by simp [advance, current], rfl, ?_⟩
    rw [outcome_update tools host call s.devFS bundle device compiled]
    intro succeeded
    cases succeeded
  | some sources => exact ⟨_, by simp [advance, current]; rfl, rfl, fun _ => rfl⟩

end Update

end ReloadSession

end FlutterZero.FlutterTools
