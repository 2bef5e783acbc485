import FlutterZero.Lib.Calls
import FlutterZero.Lib.Machine

/-! # The writer that uploads over HTTP

`_DevFSHttpWriter` (`devfs.dart`): the entries of a map are sent to the device
with at most `kMaxInFlight` PUT requests at a time; a request that throws is tried
again, ten times at most.

Between two awaits nothing interrupts the code, so a step of the model is what
happens after one awaited future is done.  An upload is at the await that it waits
for.  `received` collects the entries whose request succeeded; the code has no such
variable.

* `write`, `step` — the writer;
* `Inv` — the counter, the uploads and the completer agree;
* `weight` — what every step lowers, which bounds the length of a run;
* `write_uploads_everything` — a write whose requests do not throw too often
  completes, and only with everything received.
-/

namespace FlutterZero.FlutterTools.DevFS

variable {Uri Content : Type}

structure EntryMap (Uri Content : Type) where
  entries : List (Uri × Content)
  distinct : (entries.map Prod.fst).Nodup

/-- An `Exception`: a `SocketException`, or another one. -/
inductive UploadException where
  | socket
  | other
deriving DecidableEq, Repr

structure DevFSException where
  message : String
deriving DecidableEq, Repr

/-- The await at which `_startWrite` is. -/
inductive UploadStage where
  /-- `await _client.putUrl(httpAddress!)` -/
  | putUrl
  /-- `await request.addStream(contents)` -/
  | addStream
  /-- `await request.close().timeout(...)` -/
  | close
  /-- `await request.done`, after the timeout -/
  | aborted
  /-- `await Future<void>.delayed(...)` -/
  | delayed
deriving DecidableEq, Repr

structure Upload (Uri Content : Type) where
  deviceUri : Uri
  content : Content
  retry : Nat
  stage : UploadStage
deriving DecidableEq, Repr

def Upload.entry (upload : Upload Uri Content) : Uri × Content := (upload.deviceUri, upload.content)

def kMaxInFlight : Int := 3

structure HttpWriter (Uri Content : Type) where
  inFlight : Int
  outstanding : List (Uri × Content)
  /-- `none` until it is completed. -/
  completer : Option (Except UploadException Unit)
  /-- The calls of `_startWrite` that have not returned. -/
  running : List (Upload Uri Content)
  received : List (Uri × Content)
deriving Repr

namespace HttpWriter

/-- The call of `_startWrite` runs up to its first await. -/
def startWrite (deviceUri : Uri) (content : Content) : Upload Uri Content := ⟨deviceUri, content, 10, .putUrl⟩

/-- The loop of `_scheduleWrites` over the outstanding entries. -/
def startWrites (writer : HttpWriter Uri Content) : List (Uri × Content) → HttpWriter Uri Content
  | [] => { writer with outstanding := [] }
  | (deviceUri, content) :: outstanding =>
    if writer.inFlight < kMaxInFlight ∧ writer.completer.isNone then
      startWrites { writer with
        running := writer.running ++ [startWrite deviceUri content]
        inFlight := writer.inFlight + 1 } outstanding
    else { writer with outstanding := (deviceUri, content) :: outstanding }

def scheduleWrites (writer : HttpWriter Uri Content) : HttpWriter Uri Content :=
  let writer := startWrites writer writer.outstanding
  if writer.inFlight = 0 ∧ writer.completer.isNone ∧ writer.outstanding = [] then
    { writer with completer := some (.ok ()) }
  else writer

/-- `write` up to the await of the completer. -/
def write (writer : HttpWriter Uri Content) (entries : EntryMap Uri Content) : HttpWriter Uri Content :=
  scheduleWrites { writer with completer := none, outstanding := entries.entries, received := [] }

/-- What `write` returns or throws, once the completer is completed. -/
def result (writer : HttpWriter Uri Content) : Option (Except DevFSException Unit) :=
  writer.completer.map fun
    | .ok () => .ok ()
    | .error .socket => .error ⟨"Lost connection to device."⟩
    | .error .other => .error ⟨"Sync failed"⟩

variable [DecidableEq Uri]

def find (writer : HttpWriter Uri Content) (deviceUri : Uri) : Option (Upload Uri Content) :=
  writer.running.find? fun upload => upload.deviceUri = deviceUri

/-- The upload of a URI goes on as `upload`. -/
def setUpload (writer : HttpWriter Uri Content) (upload : Upload Uri Content) : HttpWriter Uri Content :=
  { writer with
    running := writer.running.map fun other => if other.deviceUri = upload.deviceUri then upload else other }

/-- After the loop of `_startWrite`. -/
def finishWrite (writer : HttpWriter Uri Content) (upload : Upload Uri Content) : HttpWriter Uri Content :=
  scheduleWrites { writer with
    running := writer.running.filter fun other => other.deviceUri ≠ upload.deviceUri
    received := writer.received ++ [upload.entry]
    inFlight := writer.inFlight - 1 }

/-- The handler `on Exception`; the loop goes on unless the completer waits. -/
def handleException (writer : HttpWriter Uri Content) (upload : Upload Uri Content) (error : UploadException) :
    HttpWriter Uri Content :=
  if writer.completer.isNone then
    if upload.retry > 0 then writer.setUpload { upload with retry := upload.retry - 1, stage := .delayed }
    else { writer.setUpload { upload with stage := .putUrl } with completer := some (.error error) }
  else writer.setUpload { upload with stage := .putUrl }

inductive Event (Uri : Type) where
  | completes (deviceUri : Uri)
  /-- It throws an `Exception`. -/
  | throws (deviceUri : Uri) (error : UploadException)
  /-- The request is not closed within its time, which throws a `TimeoutException`. -/
  | timesOut (deviceUri : Uri)
  /-- The aborted request is done; `error` is what is thrown then. -/
  | isDone (deviceUri : Uri) (error : UploadException)
deriving DecidableEq, Repr

/-- `none` if the event is not possible now. -/
def step (writer : HttpWriter Uri Content) : Event Uri → Option (HttpWriter Uri Content)
  | .completes deviceUri => do
    let upload ← writer.find deviceUri
    match upload.stage with
    | .putUrl => some (writer.setUpload { upload with stage := .addStream })
    | .addStream => some (writer.setUpload { upload with stage := .close })
    | .close => some (writer.finishWrite upload)
    | .aborted => none
    | .delayed => some (writer.setUpload { upload with stage := .putUrl })
  | .throws deviceUri error => do
    let upload ← writer.find deviceUri
    match upload.stage with
    | .putUrl => some (writer.handleException upload error)
    | .addStream => some (writer.handleException upload error)
    | .close => some (writer.handleException upload error)
    | .aborted => none
    | .delayed => none
  | .timesOut deviceUri => do
    let upload ← writer.find deviceUri
    if upload.stage = .close then some (writer.setUpload { upload with stage := .aborted }) else none
  | .isDone deviceUri error => do
    let upload ← writer.find deviceUri
    if upload.stage = .aborted then some (writer.handleException upload error) else none

def run (writer : HttpWriter Uri Content) (events : List (Event Uri)) : Option (HttpWriter Uri Content) :=
  events.foldlM step writer

/-- The upload whose attempt an event ends. -/
def Event.failing : Event Uri → Option Uri
  | .throws deviceUri _ => some deviceUri
  | .isDone deviceUri _ => some deviceUri
  | _ => none

def thrown (deviceUri : Uri) : List (Event Uri) → Nat
  | [] => 0
  | .throws other _ :: events => thrown deviceUri events + if other = deviceUri then 1 else 0
  | .timesOut other :: events => thrown deviceUri events + if other = deviceUri then 1 else 0
  | _ :: events => thrown deviceUri events

/-! ## What the steps keep -/

def uploadWeight (upload : Upload Uri Content) : Nat :=
  6 * upload.retry +
    match upload.stage with
    | .delayed => 4
    | .putUrl => 3
    | .addStream => 2
    | .close => 1
    | .aborted => 0

def weight (writer : HttpWriter Uri Content) : Nat :=
  (writer.running.map uploadWeight).sum + 64 * writer.outstanding.length

/-- What holds after `events`, also in the middle of `_scheduleWrites`. -/
structure Core (entries : EntryMap Uri Content) (events : List (Event Uri)) (writer : HttpWriter Uri Content) :
    Prop where
  inFlight_eq : writer.inFlight = writer.running.length
  inFlight_le : writer.inFlight ≤ kMaxInFlight
  perm : (writer.received ++ writer.running.map Upload.entry ++ writer.outstanding).Perm entries.entries
  /-- A retry is spent for every throw; the one of a timeout is spent when the request is aborted. -/
  budget : ∀ upload ∈ writer.running, upload.retry + thrown upload.deviceUri events =
    10 + if upload.stage = .aborted then 1 else 0
  untried : ∀ entry ∈ writer.outstanding, thrown entry.1 events = 0
  weight_le : writer.weight + events.length ≤ 64 * entries.entries.length

/-- What holds between the steps: the writer waits for an upload, or it is done. -/
structure Inv (entries : EntryMap Uri Content) (events : List (Event Uri)) (writer : HttpWriter Uri Content) : Prop
    extends Core entries events writer where
  waits_or_done : writer.completer = none ∧ writer.running ≠ [] ∨
    writer.completer = some (.ok ()) ∧ writer.running = [] ∧ writer.outstanding = []

variable {entries : EntryMap Uri Content} {events : List (Event Uri)} {writer : HttpWriter Uri Content}

theorem thrown_append (deviceUri : Uri) (events : List (Event Uri)) (event : Event Uri) :
    thrown deviceUri (events ++ [event]) = thrown deviceUri events + thrown deviceUri [event] := by
  induction events with
  | nil => simp [thrown]
  | cons first events ih =>
    cases first <;> simp only [List.cons_append, thrown, ih] <;> omega

theorem startWrites_core {outstanding : List (Uri × Content)} (waits : writer.completer = none)
    (core : Core entries events { writer with outstanding }) :
    Core entries events (writer.startWrites outstanding) ∧ (writer.startWrites outstanding).completer = none ∧
      ((writer.startWrites outstanding).outstanding = [] ∨
        (writer.startWrites outstanding).inFlight = kMaxInFlight) := by
  induction outstanding generalizing writer with
  | nil => exact ⟨core, waits, .inl rfl⟩
  | cons entry outstanding ih =>
    obtain ⟨deviceUri, content⟩ := entry
    rw [startWrites]
    split
    · rename_i room
      refine ih waits ?_
      constructor
      · simpa using core.inFlight_eq
      · exact room.1
      · refine List.Perm.trans (List.Perm.of_eq ?_) core.perm
        simp [startWrite, Upload.entry]
      · intro upload inside
        rcases List.mem_append.mp inside with inside | new
        · exact core.budget upload inside
        · rw [List.mem_singleton.mp new]
          have untried := core.untried (deviceUri, content) List.mem_cons_self
          simpa [startWrite] using untried
      · exact fun entry inside => core.untried entry (List.mem_cons_of_mem _ inside)
      · have bound := core.weight_le
        simp only [weight, List.map_append, List.sum_append, List.map_cons, List.map_nil, List.sum_cons, List.sum_nil,
          startWrite, uploadWeight, List.length_cons] at bound ⊢
        omega
    · rename_i full
      refine ⟨core, waits, .inr ?_⟩
      have bound := core.inFlight_le
      simp only [waits, Option.isNone_none, and_true, not_lt] at full
      exact le_antisymm bound full

theorem scheduleWrites_inv (waits : writer.completer = none) (core : Core entries events writer) :
    Inv entries events writer.scheduleWrites := by
  obtain ⟨core, waits, stopped⟩ := startWrites_core waits core
  rw [scheduleWrites]
  split
  · rename_i finished
    refine ⟨⟨core.inFlight_eq, core.inFlight_le, core.perm, core.budget, core.untried, core.weight_le⟩, .inr ?_⟩
    have none : (writer.startWrites writer.outstanding).running.length = 0 := by
      have counted := core.inFlight_eq
      omega
    exact ⟨rfl, List.length_eq_zero_iff.mp none, finished.2.2⟩
  · rename_i unfinished
    refine ⟨core, .inl ⟨waits, fun none => unfinished ?_⟩⟩
    have zero : (writer.startWrites writer.outstanding).inFlight = 0 := by rw [core.inFlight_eq, none]; rfl
    refine ⟨zero, by rw [waits]; rfl, stopped.resolve_right fun full => ?_⟩
    rw [zero] at full
    exact absurd full (by decide)

theorem Core.nodup (core : Core entries events writer) :
    (writer.received.map Prod.fst ++ writer.running.map Upload.deviceUri ++ writer.outstanding.map Prod.fst).Nodup := by
  have all := (core.perm.map Prod.fst).nodup_iff.mpr entries.distinct
  rwa [List.map_append, List.map_append, List.map_map] at all

variable {upload : Upload Uri Content}

theorem Core.outstanding_ne (core : Core entries events writer)
    (runs : upload ∈ writer.running) {entry : Uri × Content} (waits : entry ∈ writer.outstanding) :
    entry.1 ≠ upload.deviceUri := by
  have disjoint := (List.nodup_append.mp core.nodup).2.2
  exact (disjoint upload.deviceUri (List.mem_append_right _ (List.mem_map_of_mem runs)) entry.1
    (List.mem_map.mpr ⟨entry, waits, rfl⟩)).symm

variable {before after : List (Upload Uri Content)}

theorem Core.ne_of_split (core : Core entries events writer) (split : writer.running = before ++ upload :: after) :
    ∀ other ∈ before ++ after, other.deviceUri ≠ upload.deviceUri :=
  Lib.key_ne_of_split split (List.nodup_append.mp (List.nodup_append.mp core.nodup).1).2.1

variable {deviceUri : Uri}

theorem Core.exists_split (core : Core entries events writer) (found : writer.find deviceUri = some upload) :
    ∃ before after, writer.running = before ++ upload :: after ∧ upload.deviceUri = deviceUri ∧
      ∀ other ∈ before ++ after, other.deviceUri ≠ upload.deviceUri := by
  obtain ⟨named, before, after, split, -⟩ := List.find?_eq_some_iff_append.mp found
  exact ⟨before, after, split, by simpa using named, core.ne_of_split split⟩

variable {upload' : Upload Uri Content}

theorem running_setUpload
    (split : writer.running = before ++ upload :: after) (same : upload'.deviceUri = upload.deviceUri)
    (others : ∀ other ∈ before ++ after, other.deviceUri ≠ upload.deviceUri) :
    (writer.setUpload upload').running = before ++ upload' :: after := by
  have kept : ∀ list : List (Upload Uri Content), (∀ other ∈ list, other.deviceUri ≠ upload.deviceUri) →
      list.map (fun other => if other.deviceUri = upload'.deviceUri then upload' else other) = list := by
    intro list different
    rw [List.map_congr_left fun other inside => if_neg (same ▸ different other inside), List.map_id']
  rw [List.forall_mem_append] at others
  rw [setUpload, split, List.map_append, List.map_cons, kept before others.1, kept after others.2,
    if_pos same.symm]

theorem running_filter (split : writer.running = before ++ upload :: after)
    (others : ∀ other ∈ before ++ after, other.deviceUri ≠ upload.deviceUri) :
    (writer.running.filter fun other => decide (other.deviceUri ≠ upload.deviceUri)) = before ++ after := by
  rw [split, List.filter_append, List.filter_cons_of_neg (by simp), ← List.filter_append, List.filter_eq_self]
  exact fun other inside => decide_eq_true (others other inside)

theorem Core.setUpload (core : Core entries events writer)
    (found : writer.find deviceUri = some upload) (event : Event Uri)
    (elsewhere : ∀ other, other ≠ deviceUri → thrown other [event] = 0) (same : upload'.entry = upload.entry)
    (budget : upload'.retry + thrown deviceUri (events ++ [event]) = 10 + if upload'.stage = .aborted then 1 else 0)
    (lighter : uploadWeight upload' < uploadWeight upload) :
    Core entries (events ++ [event]) (writer.setUpload upload') := by
  obtain ⟨before, after, split, rfl, others⟩ := core.exists_split found
  have sameUri : upload'.deviceUri = upload.deviceUri := congrArg Prod.fst same
  have running := running_setUpload split sameUri others
  have member := Lib.call_mem_of_split split
  constructor
  · have counted := core.inFlight_eq
    rw [split] at counted
    rw [running]
    simp only [List.length_append, List.length_cons] at counted ⊢
    exact counted
  · exact core.inFlight_le
  · refine List.Perm.trans (List.Perm.of_eq ?_) core.perm
    rw [running, split]
    simp [HttpWriter.setUpload, same]
  · intro other inside
    rw [running, List.mem_append, List.mem_cons] at inside
    -- every other upload is where it was, and the event is not about it
    have unchanged : other ∈ before ++ after →
        other.retry + thrown other.deviceUri (events ++ [event]) = 10 + if other.stage = .aborted then 1 else 0 := by
      intro inside
      rw [thrown_append, elsewhere _ (others other inside), Nat.add_zero]
      exact core.budget other (Lib.other_mem_of_split split other inside)
    rcases inside with inside | rfl | inside
    · exact unchanged (List.mem_append_left _ inside)
    · rw [sameUri]
      exact budget
    · exact unchanged (List.mem_append_right _ inside)
  · intro entry inside
    rw [thrown_append, elsewhere _ (core.outstanding_ne member inside), Nat.add_zero]
    exact core.untried entry inside
  · have bound := core.weight_le
    simp only [weight, running, split, List.map_append, List.map_cons, List.sum_append, List.sum_cons,
      List.length_append, List.length_singleton] at bound ⊢
    simp only [HttpWriter.setUpload]
    omega

theorem Inv.setUpload (inv : Inv entries events writer)
    (found : writer.find deviceUri = some upload) (event : Event Uri)
    (elsewhere : ∀ other, other ≠ deviceUri → thrown other [event] = 0) (same : upload'.entry = upload.entry)
    (budget : upload'.retry + thrown deviceUri (events ++ [event]) = 10 + if upload'.stage = .aborted then 1 else 0)
    (lighter : uploadWeight upload' < uploadWeight upload) :
    Inv entries (events ++ [event]) (writer.setUpload upload') := by
  refine ⟨inv.toCore.setUpload found event elsewhere same budget lighter, .inl ?_⟩
  have member := List.mem_of_find?_eq_some found
  rcases inv.waits_or_done with ⟨waits, runs⟩ | ⟨-, none, -⟩
  · exact ⟨waits, by simpa [HttpWriter.setUpload] using runs⟩
  · rw [none] at member
    exact absurd member List.not_mem_nil

theorem Inv.finishWrite (inv : Inv entries events writer)
    (found : writer.find deviceUri = some upload) (closing : upload.stage = .close) :
    Inv entries (events ++ [.completes deviceUri]) (writer.finishWrite upload) := by
  obtain ⟨before, after, split, rfl, others⟩ := inv.exists_split found
  have running := running_filter split others
  have waits : writer.completer = none := by
    rcases inv.waits_or_done with ⟨waits, -⟩ | ⟨-, none, -⟩
    · exact waits
    · rw [split] at none
      exact absurd none (by simp)
  refine scheduleWrites_inv waits ?_
  rw [running]
  have counted := inv.inFlight_eq
  have bound := inv.weight_le
  rw [split] at counted
  simp only [List.length_append, List.length_cons] at counted
  simp only [weight, split, List.map_append, List.map_cons, List.sum_append, List.sum_cons] at bound
  constructor
  · simp only [List.length_append]
    omega
  · have limit := inv.inFlight_le
    simp only [kMaxInFlight] at limit ⊢
    omega
  · refine List.Perm.trans ?_ inv.perm
    rw [split, List.map_append, List.map_append, List.map_cons, List.append_assoc writer.received]
    apply List.Perm.append_right
    apply List.Perm.append_left
    rw [List.singleton_append]
    exact List.perm_middle.symm
  · intro other inside
    rw [thrown_append]
    exact inv.budget other (Lib.other_mem_of_split split other inside)
  · intro entry inside
    rw [thrown_append]
    exact inv.untried entry inside
  · have heavy : 1 ≤ uploadWeight upload := by
      rw [uploadWeight, closing]
      exact Nat.le_add_left 1 _
    simp only [weight, List.map_append, List.sum_append, List.length_append, List.length_singleton]
    omega

theorem handleException_eq (inv : Inv entries events writer)
    (found : writer.find deviceUri = some upload) (retries : 0 < upload.retry) (error : UploadException) :
    writer.handleException upload error =
      writer.setUpload { upload with retry := upload.retry - 1, stage := .delayed } := by
  rcases inv.waits_or_done with ⟨waits, -⟩ | ⟨-, none, -⟩
  · rw [handleException, waits, if_pos Option.isNone_none, if_pos retries]
  · have member := List.mem_of_find?_eq_some found
    rw [none] at member
    exact absurd member List.not_mem_nil

theorem Inv.handleException (inv : Inv entries events writer)
    (found : writer.find deviceUri = some upload) (event : Event Uri) (error : UploadException)
    (elsewhere : ∀ other, other ≠ deviceUri → thrown other [event] = 0)
    (spent : upload.retry + thrown deviceUri (events ++ [event]) = 11) (retries : 0 < upload.retry) :
    Inv entries (events ++ [event]) (writer.handleException upload error) := by
  rw [handleException_eq inv found retries]
  refine inv.setUpload found event elsewhere rfl ?_ ?_
  · simp only [reduceCtorEq, if_false]
    omega
  · have lowered : 6 * (upload.retry - 1) + 4 < 6 * upload.retry := by omega
    exact Nat.lt_of_lt_of_le lowered (Nat.le_add_right _ _)

theorem Inv.budget_of_find (inv : Inv entries events writer) (found : writer.find deviceUri = some upload) :
    upload.retry + thrown deviceUri events = 10 + if upload.stage = .aborted then 1 else 0 := by
  have named : upload.deviceUri = deviceUri := by simpa using List.find?_some found
  rw [← named]
  exact inv.budget upload (List.mem_of_find?_eq_some found)

theorem Inv.step (inv : Inv entries events writer) {event : Event Uri} {writer' : HttpWriter Uri Content}
    (stepped : writer.step event = some writer')
    (retries : ∀ deviceUri upload, event.failing = some deviceUri → writer.find deviceUri = some upload →
      0 < upload.retry) : Inv entries (events ++ [event]) writer' := by
  cases event with
  | completes deviceUri =>
    obtain ⟨upload, found, stepped⟩ := Option.bind_eq_some_iff.mp stepped
    have budget := inv.budget_of_find found
    have quiet : ∀ other, thrown other (events ++ [.completes deviceUri]) = thrown other events :=
      fun other => thrown_append other events _
    cases stage : upload.stage with
    | putUrl =>
      simp only [stage, Option.some.injEq] at stepped
      rw [← stepped]
      refine inv.setUpload found _ (fun _ _ => rfl) rfl ?_ (by simp [uploadWeight, stage])
      simpa [quiet, stage] using budget
    | addStream =>
      simp only [stage, Option.some.injEq] at stepped
      rw [← stepped]
      refine inv.setUpload found _ (fun _ _ => rfl) rfl ?_ (by simp [uploadWeight, stage])
      simpa [quiet, stage] using budget
    | close =>
      simp only [stage, Option.some.injEq] at stepped
      rw [← stepped]
      exact inv.finishWrite found stage
    | aborted => simp [stage] at stepped
    | delayed =>
      simp only [stage, Option.some.injEq] at stepped
      rw [← stepped]
      refine inv.setUpload found _ (fun _ _ => rfl) rfl ?_ (by simp [uploadWeight, stage])
      simpa [quiet, stage] using budget
  | throws deviceUri error =>
    obtain ⟨upload, found, stepped⟩ := Option.bind_eq_some_iff.mp stepped
    have budget := inv.budget_of_find found
    have elsewhere : ∀ other, other ≠ deviceUri → thrown other [.throws deviceUri error] = 0 :=
      fun other different => by simp [thrown, different.symm]
    have handled : upload.stage ≠ .aborted ∧ writer.handleException upload error = writer' := by
      cases stage : upload.stage <;> simp [stage] at stepped ⊢ <;> exact stepped
    rw [if_neg handled.1] at budget
    rw [← handled.2]
    apply inv.handleException found _ error elsewhere _ (retries deviceUri upload rfl found)
    rw [thrown_append]
    simp only [thrown, if_true]
    omega
  | timesOut deviceUri =>
    obtain ⟨upload, found, stepped⟩ := Option.bind_eq_some_iff.mp stepped
    have budget := inv.budget_of_find found
    split at stepped
    · rename_i closing
      cases stepped
      refine inv.setUpload found _ (fun other different => by simp [thrown, different.symm]) rfl ?_
        (by simp [uploadWeight, closing])
      rw [if_neg (by rw [closing]; decide)] at budget
      rw [thrown_append]
      simp only [thrown, if_true]
      omega
    · cases stepped
  | isDone deviceUri error =>
    obtain ⟨upload, found, stepped⟩ := Option.bind_eq_some_iff.mp stepped
    have budget := inv.budget_of_find found
    split at stepped
    · rename_i aborted
      cases stepped
      rw [if_pos aborted] at budget
      apply inv.handleException found _ error (fun _ _ => rfl) _ (retries deviceUri upload rfl found)
      rw [thrown_append]
      exact budget
    · cases stepped

theorem Inv.retries (inv : Inv entries events writer) {event : Event Uri} {writer' : HttpWriter Uri Content}
    (stepped : writer.step event = some writer') (few : ∀ deviceUri, thrown deviceUri (events ++ [event]) ≤ 10)
    (deviceUri : Uri) (upload : Upload Uri Content) (fails : event.failing = some deviceUri)
    (found : writer.find deviceUri = some upload) : 0 < upload.retry := by
  have budget := inv.budget_of_find found
  have bound := few deviceUri
  rw [thrown_append] at bound
  cases event with
  | completes => cases fails
  | timesOut => cases fails
  | throws =>
    cases fails
    simp only [thrown, if_true] at bound
    omega
  | isDone =>
    cases fails
    have aborted : upload.stage = .aborted := by
      by_contra running
      simp [HttpWriter.step, found, running] at stepped
    rw [if_pos aborted] at budget
    omega

/-! ## Whole writes -/

theorem write_inv {idle : HttpWriter Uri Content} (counted : idle.inFlight = 0) (none : idle.running = []) :
    Inv entries [] (idle.write entries) := by
  refine scheduleWrites_inv rfl ?_
  constructor
  · rw [none]
    exact counted
  · rw [counted]
    decide
  · rw [none]
    exact List.Perm.refl _
  · rw [none]
    exact fun upload inside => absurd inside List.not_mem_nil
  · exact fun entry inside => rfl
  · simp [weight, none]

theorem run_inv {idle : HttpWriter Uri Content} (counted : idle.inFlight = 0) (none : idle.running = [])
    (events : List (Event Uri)) (few : ∀ deviceUri, thrown deviceUri events ≤ 10) {writer : HttpWriter Uri Content}
    (ran : (idle.write entries).run events = some writer) : Inv entries events writer := by
  induction events using List.reverseRecOn generalizing writer with
  | nil =>
    cases ran
    exact write_inv counted none
  | append_singleton events event ih =>
    rw [run, List.foldlM_append] at ran
    obtain ⟨middle, before, stepped⟩ := Option.bind_eq_some_iff.mp ran
    have few' : ∀ deviceUri, thrown deviceUri events ≤ 10 := by
      intro deviceUri
      have bound := few deviceUri
      rw [thrown_append] at bound
      omega
    have inv := ih few' before
    rw [List.foldlM_cons] at stepped
    obtain ⟨last, stepped, ended⟩ := Option.bind_eq_some_iff.mp stepped
    cases ended
    exact inv.step stepped (inv.retries stepped few)

/-- Whatever the order in which the requests are done, a write whose requests throw at most ten times
    each keeps count of them, has an await to wait for until it completes, does so after finitely many
    steps, normally, and with every entry received once. -/
theorem write_uploads_everything {idle : HttpWriter Uri Content} (counted : idle.inFlight = 0)
    (none : idle.running = []) (entries : EntryMap Uri Content) {events : List (Event Uri)}
    (few : ∀ deviceUri, thrown deviceUri events ≤ 10) {writer : HttpWriter Uri Content}
    (ran : (idle.write entries).run events = some writer) :
    (writer.inFlight = writer.running.length ∧ writer.inFlight ≤ kMaxInFlight) ∧
      (∀ outcome, writer.result = some outcome →
        outcome = .ok () ∧ writer.received.Perm entries.entries ∧ writer.inFlight = 0) ∧
      (writer.result = Option.none → ∃ deviceUri,
        (writer.step (.completes deviceUri)).isSome ∨ (writer.step (.isDone deviceUri .other)).isSome) ∧
      events.length ≤ 64 * entries.entries.length := by
  have inv := run_inv counted none events few ran
  refine ⟨⟨inv.inFlight_eq, inv.inFlight_le⟩, fun outcome returned => ?_, fun waiting => ?_, ?_⟩
  · rcases inv.waits_or_done with ⟨waits, -⟩ | ⟨completed, idle, empty⟩
    · rw [result, waits] at returned
      cases returned
    · rw [result, completed] at returned
      cases returned
      have perm := inv.perm
      rw [idle, empty, List.map_nil, List.append_nil, List.append_nil] at perm
      exact ⟨rfl, perm, by rw [inv.inFlight_eq, idle]; rfl⟩
  · rcases inv.waits_or_done with ⟨-, runs⟩ | ⟨completed, -, -⟩
    · obtain ⟨upload, member⟩ := List.exists_mem_of_ne_nil _ runs
      obtain ⟨found, finding⟩ : ∃ found, writer.find upload.deviceUri = some found := by
        rw [← Option.isSome_iff_exists, find, List.find?_isSome]
        exact ⟨upload, member, by simp⟩
      refine ⟨upload.deviceUri, ?_⟩
      cases stage : found.stage <;> simp [HttpWriter.step, finding, stage]
    · rw [result, completed] at waiting
      cases waiting
  · have bound := inv.weight_le
    omega

def newWriter : HttpWriter Nat Nat := ⟨0, [], none, [], []⟩

def twoEntries : EntryMap Nat Nat := ⟨[(1, 10), (2, 20)], by decide⟩

/-- The first request of the first entry throws, the second one times out. -/
def twoEntriesEvents : List (Event Nat) :=
  [.completes 1, .throws 1 .socket, .completes 2, .completes 2, .completes 2, .completes 1, .completes 1, .completes 1,
    .timesOut 1, .isDone 1 .other, .completes 1, .completes 1, .completes 1, .completes 1]

theorem write_uploads_everything_twoEntries : ∃ writer,
    (newWriter.write twoEntries).run twoEntriesEvents = some writer ∧ writer.result = some (.ok ()) ∧
      writer.received.Perm [(1, 10), (2, 20)] ∧ writer.inFlight = 0 := by
  have few : ∀ deviceUri, thrown deviceUri twoEntriesEvents ≤ 10 := by
    intro deviceUri
    simp only [twoEntriesEvents, thrown]
    split <;> omega
  have ran : (newWriter.write twoEntries).run twoEntriesEvents =
      some ⟨0, [], some (.ok ()), [], [(2, 20), (1, 10)]⟩ := by rfl
  have uploaded := write_uploads_everything rfl rfl twoEntries few ran
  exact ⟨_, ran, rfl, (uploaded.2.1 (.ok ()) rfl).2⟩

end HttpWriter

end FlutterZero.FlutterTools.DevFS
