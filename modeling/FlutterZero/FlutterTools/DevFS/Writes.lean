import FlutterZero.FlutterTools.DevFS.HttpWriter

/-! # Writes that fail

`_startWrite` leaves its loop only behind a request that succeeds: where the last retry throws it
completes the completer of the write with the error and sends the request again, and every later
exception is met by a completer that is completed and sends it once more, without a delay.

* `Writes.step` — writes one after another, each entry under the number of its write;
* `Progress` — what a step does to the uploads and the entries that wait;
* `Going` — what holds as long as no upload throws without retries left;
* `stops_iff` — an upload is attempted eleven times at most, and not after an error, exactly as long as
  none has failed more than ten times.
-/

namespace FlutterZero.FlutterTools.DevFS

open FlutterZero.Lib

variable {Uri Content : Type} [DecidableEq Uri]

/-! ## Attempts -/

namespace HttpWriter

def started (writer writer' : HttpWriter Uri Content) : List Uri :=
  (writer'.running.map Upload.deviceUri).filter fun deviceUri => deviceUri ∉ writer.running.map Upload.deviceUri

def again (writer : HttpWriter Uri Content) : Event Uri → List Uri
  | .completes deviceUri =>
    match writer.find deviceUri with
    | some upload => if upload.stage = .delayed then [deviceUri] else []
    | none => []
  | .throws deviceUri _ | .isDone deviceUri _ =>
    match writer.find deviceUri with
    | some upload =>
      -- not if it waits first
      if writer.completer.isNone ∧ upload.retry > 0 then [] else [deviceUri]
    | none => []
  | .timesOut _ => []

/-- The URIs that `putUrl` is called for in a step. -/
def attempts (writer : HttpWriter Uri Content) (event : Event Uri) (writer' : HttpWriter Uri Content) : List Uri :=
  started writer writer' ++ writer.again event

end HttpWriter

/-! ## One write after another -/

structure Attempt (Uri : Type) where
  deviceUri : Nat × Uri
  late : Bool
deriving DecidableEq, Repr

structure Writes (Uri Content : Type) where
  writer : HttpWriter (Nat × Uri) Content
  /-- The number of the last write. -/
  count : Nat
  failed : List Nat
  attempts : List (Attempt Uri)

def EntryMap.numbered (entries : EntryMap Uri Content) (number : Nat) : EntryMap (Nat × Uri) Content where
  entries := entries.entries.map fun entry => ((number, entry.1), entry.2)
  distinct := by
    have distinct := entries.distinct.map (Prod.mk_right_injective number)
    rw [List.map_map] at distinct ⊢
    exact distinct

namespace Writes

inductive Event (Uri Content : Type) where
  | write (entries : EntryMap Uri Content)
  | upload (event : HttpWriter.Event (Nat × Uri))

def create : Writes Uri Content := ⟨⟨0, [], none, [], []⟩, 0, [], []⟩

def isError : Option (Except UploadException Unit) → Bool
  | some (.error _) => true
  | _ => false

/-- The writer after a step in which `putUrl` is called for some URIs. -/
def record (s : Writes Uri Content) (writer : HttpWriter (Nat × Uri) Content) (deviceUris : List (Nat × Uri)) :
    Writes Uri Content :=
  let failed := if isError writer.completer then s.count :: s.failed else s.failed
  { s with
    writer := writer
    failed := failed
    attempts := s.attempts ++ deviceUris.map fun deviceUri => ⟨deviceUri, decide (deviceUri.1 ∈ failed)⟩ }

def advance (s : Writes Uri Content) : Event Uri Content → Option (Writes Uri Content)
  | .write entries =>
    -- the write before has returned
    if s.count = 0 ∨ s.writer.completer.isSome then
      let writer := s.writer.write (entries.numbered (s.count + 1))
      some ({ s with count := s.count + 1 }.record writer (HttpWriter.started s.writer writer))
    else none
  | .upload event => do
    let writer ← s.writer.step event
    some (s.record writer (s.writer.attempts event writer))

def step (s : Writes Uri Content) (event : Event Uri Content) : Except Unit (Unit × Writes Uri Content) :=
  match s.advance event with
  | some s' => .ok ((), s')
  | none => .error ()

def attempted (s : Writes Uri Content) (deviceUri : Nat × Uri) : Nat :=
  (s.attempts.map Attempt.deviceUri).count deviceUri

/-- How often an attempt of an entry failed. -/
def failures (deviceUri : Nat × Uri) (events : List (Event Uri Content)) : Nat :=
  events.countP fun
    | .write _ => false
    | .upload event => event.failing = some deviceUri

/-- No entry is attempted too often, and none after its write has failed; when the uploads have ended, none is counted
    as in flight. -/
structure Stops (s : Writes Uri Content) : Prop where
  attempted_le : ∀ deviceUri, s.attempted deviceUri ≤ 11
  not_late : ∀ attempt ∈ s.attempts, attempt.late = false
  inFlight_eq : s.writer.running = [] → s.writer.inFlight = 0

end Writes

/-! ## What a step does to the uploads -/

namespace HttpWriter

variable {writer writer' : HttpWriter Uri Content} {entries : EntryMap Uri Content} {events : List (Event Uri)}

omit [DecidableEq Uri] in
theorem startWrites_eq (writer : HttpWriter Uri Content) (outstanding : List (Uri × Content)) :
    ∃ new rest, outstanding = new ++ rest ∧ (writer.startWrites outstanding).outstanding = rest ∧
      (writer.startWrites outstanding).running =
        writer.running ++ new.map (fun entry => startWrite entry.1 entry.2) := by
  induction outstanding generalizing writer with
  | nil => exact ⟨[], [], rfl, rfl, by simp [startWrites]⟩
  | cons entry outstanding ih =>
    obtain ⟨deviceUri, content⟩ := entry
    rw [startWrites]
    split
    · obtain ⟨new, rest, split, waits, runs⟩ := ih { writer with
        running := writer.running ++ [startWrite deviceUri content]
        inFlight := writer.inFlight + 1 }
      refine ⟨(deviceUri, content) :: new, rest, by rw [split, List.cons_append], waits, ?_⟩
      rw [runs, List.append_assoc]
      rfl
    · exact ⟨[], (deviceUri, content) :: outstanding, rfl, rfl, by simp⟩

omit [DecidableEq Uri] in
theorem scheduleWrites_eq (writer : HttpWriter Uri Content) :
    ∃ new rest, writer.outstanding = new ++ rest ∧ writer.scheduleWrites.outstanding = rest ∧
      writer.scheduleWrites.running = writer.running ++ new.map (fun entry => startWrite entry.1 entry.2) := by
  obtain ⟨new, rest, split, waits, runs⟩ := startWrites_eq writer writer.outstanding
  refine ⟨new, rest, split, ?_⟩
  rw [scheduleWrites]
  split <;> exact ⟨waits, runs⟩

/-- Whether the attempt after the last one that has failed is started. -/
def begun (stage : UploadStage) : Nat := if stage = .delayed then 0 else 1

inductive Progress (writer writer' : HttpWriter Uri Content) (event : Event Uri) : Prop where
  | moves (before after : List (Upload Uri Content)) (upload upload' : Upload Uri Content) (repeats fails : Bool)
      (split : writer.running = before ++ upload :: after) (same : upload'.deviceUri = upload.deviceUri)
      (running : writer'.running = before ++ upload' :: after) (waits : writer'.outstanding = writer.outstanding)
      (again : writer.again event = if repeats then [upload.deviceUri] else [])
      (failing : event.failing = if fails then some upload.deviceUri else none)
      (retry : upload.retry = upload'.retry + fails.toNat)
      (stage : begun upload'.stage + fails.toNat = begun upload.stage + repeats.toNat) :
      Progress writer writer' event
  | finishes (before after : List (Upload Uri Content)) (upload : Upload Uri Content) (new rest : List (Uri × Content))
      (split : writer.running = before ++ upload :: after)
      (running : writer'.running = before ++ after ++ new.map fun entry => startWrite entry.1 entry.2)
      (split' : writer.outstanding = new ++ rest) (waits : writer'.outstanding = rest)
      (again : writer.again event = []) (failing : event.failing = none) : Progress writer writer' event

section

variable (inv : Inv entries events writer) {deviceUri : Uri} {upload : Upload Uri Content}
  (found : writer.find deviceUri = some upload) {event : Event Uri}

include inv found

theorem Inv.progress_setUpload (upload' : Upload Uri Content) (repeats fails : Bool)
    (same : upload'.deviceUri = upload.deviceUri) (again : writer.again event = if repeats then [deviceUri] else [])
    (failing : event.failing = if fails then some deviceUri else none)
    (retry : upload.retry = upload'.retry + fails.toNat)
    (stage : begun upload'.stage + fails.toNat = begun upload.stage + repeats.toNat) :
    Progress writer (writer.setUpload upload') event := by
  obtain ⟨before, after, split, rfl, others⟩ := inv.exists_split found
  exact .moves before after upload upload' repeats fails split same (running_setUpload split same others) rfl again
    failing retry stage

theorem Inv.progress_handleException (error : UploadException) (retries : 0 < upload.retry)
    (failing : event.failing = some deviceUri) (running : upload.stage ≠ .delayed) (again : writer.again event = []) :
    Progress writer (writer.handleException upload error) event := by
  rw [handleException_eq inv found retries]
  refine inv.progress_setUpload found _ false true rfl again failing ?_ ?_
  · show upload.retry = upload.retry - 1 + 1
    omega
  · rw [begun, begun, if_pos rfl, if_neg running]
    rfl

theorem Inv.progress_finishWrite (again : writer.again event = []) (failing : event.failing = none) :
    Progress writer (writer.finishWrite upload) event := by
  obtain ⟨before, after, split, rfl, others⟩ := inv.exists_split found
  obtain ⟨new, rest, split', waits, runs⟩ := scheduleWrites_eq { writer with
    running := writer.running.filter fun other => decide (other.deviceUri ≠ upload.deviceUri)
    received := writer.received ++ [upload.entry]
    inFlight := writer.inFlight - 1 }
  have running : (writer.finishWrite upload).running =
      writer.running.filter (fun other => decide (other.deviceUri ≠ upload.deviceUri)) ++
        new.map fun entry => startWrite entry.1 entry.2 := runs
  rw [running_filter split others] at running
  exact .finishes before after upload new rest split running split' waits again failing

end

theorem Inv.waits_of_find (inv : Inv entries events writer) {deviceUri : Uri} {upload : Upload Uri Content}
    (found : writer.find deviceUri = some upload) : writer.completer.isNone = true := by
  rcases inv.waits_or_done with ⟨waits, -⟩ | ⟨-, none, -⟩
  · rw [waits]
    rfl
  · have member := List.mem_of_find?_eq_some found
    rw [none] at member
    exact absurd member List.not_mem_nil

theorem Inv.progress (inv : Inv entries events writer) {event : Event Uri} (stepped : writer.step event = some writer')
    (retries : ∀ deviceUri upload, event.failing = some deviceUri → writer.find deviceUri = some upload →
      0 < upload.retry) : Progress writer writer' event := by
  cases event with
  | completes deviceUri =>
    obtain ⟨upload, found, stepped⟩ := Option.bind_eq_some_iff.mp stepped
    cases stage : upload.stage with
    | putUrl =>
      simp only [stage, Option.some.injEq] at stepped
      rw [← stepped]
      exact inv.progress_setUpload found _ false false rfl (by simp [again, found, stage]) rfl rfl
        (by simp [begun, stage])
    | addStream =>
      simp only [stage, Option.some.injEq] at stepped
      rw [← stepped]
      exact inv.progress_setUpload found _ false false rfl (by simp [again, found, stage]) rfl rfl
        (by simp [begun, stage])
    | close =>
      simp only [stage, Option.some.injEq] at stepped
      rw [← stepped]
      exact inv.progress_finishWrite found (by simp [again, found, stage]) rfl
    | aborted => simp [stage] at stepped
    | delayed =>
      simp only [stage, Option.some.injEq] at stepped
      rw [← stepped]
      exact inv.progress_setUpload found _ true false rfl (by simp [again, found, stage]) rfl rfl
        (by simp [begun, stage])
  | throws deviceUri error =>
    obtain ⟨upload, found, stepped⟩ := Option.bind_eq_some_iff.mp stepped
    have left := retries deviceUri upload rfl found
    have handled : upload.stage ≠ .delayed ∧ writer.handleException upload error = writer' := by
      cases stage : upload.stage <;> simp [stage] at stepped ⊢ <;> exact stepped
    rw [← handled.2]
    exact inv.progress_handleException found error left rfl handled.1
      (by simp [again, found, inv.waits_of_find found, left])
  | timesOut deviceUri =>
    obtain ⟨upload, found, stepped⟩ := Option.bind_eq_some_iff.mp stepped
    split at stepped
    · rename_i closing
      cases stepped
      exact inv.progress_setUpload found _ false false rfl rfl rfl rfl (by simp [begun, closing])
    · cases stepped
  | isDone deviceUri error =>
    obtain ⟨upload, found, stepped⟩ := Option.bind_eq_some_iff.mp stepped
    have left := retries deviceUri upload rfl found
    split at stepped
    · rename_i aborted
      cases stepped
      exact inv.progress_handleException found error left rfl (by simp [aborted])
        (by simp [again, found, inv.waits_of_find found, left])
    · cases stepped

theorem started_eq_nil (same : writer'.running.map Upload.deviceUri = writer.running.map Upload.deviceUri) :
    started writer writer' = [] := by
  rw [started, same, List.filter_eq_nil_iff]
  intro deviceUri inside
  simpa using inside

theorem started_eq {before : List (Upload Uri Content)} {new : List (Uri × Content)}
    (running : writer'.running = before ++ new.map fun entry => startWrite entry.1 entry.2)
    (old : ∀ upload ∈ before, upload ∈ writer.running)
    (fresh : ∀ entry ∈ new, ∀ upload ∈ writer.running, entry.1 ≠ upload.deviceUri) :
    started writer writer' = new.map Prod.fst := by
  have kept : (before.map Upload.deviceUri).filter
      (fun deviceUri => deviceUri ∉ writer.running.map Upload.deviceUri) = [] := by
    rw [List.filter_eq_nil_iff]
    intro deviceUri inside
    obtain ⟨upload, first, rfl⟩ := List.mem_map.mp inside
    simpa using ⟨upload, old upload first, rfl⟩
  have first : (new.map Prod.fst).filter (fun deviceUri => deviceUri ∉ writer.running.map Upload.deviceUri) =
      new.map Prod.fst := by
    rw [List.filter_eq_self]
    intro deviceUri inside
    obtain ⟨entry, waited, rfl⟩ := List.mem_map.mp inside
    refine decide_eq_true fun runs => ?_
    obtain ⟨upload, ran, same⟩ := List.mem_map.mp runs
    exact fresh entry waited upload ran same.symm
  have deviceUris : (new.map fun entry => startWrite entry.1 entry.2).map Upload.deviceUri = new.map Prod.fst := by
    rw [List.map_map]
    rfl
  rw [started, running, List.map_append, deviceUris, List.filter_append, kept, first, List.nil_append]

end HttpWriter

/-! ## What every step keeps -/

namespace Writes

variable {s s' : Writes Uri Content} {events : List (Event Uri Content)}

theorem attempted_record (s : Writes Uri Content) (writer : HttpWriter (Nat × Uri) Content)
    (deviceUris : List (Nat × Uri)) (deviceUri : Nat × Uri) :
    (s.record writer deviceUris).attempted deviceUri = s.attempted deviceUri + deviceUris.count deviceUri := by
  simp [attempted, record, Function.comp_def]

theorem failures_append (deviceUri : Nat × Uri) (events : List (Event Uri Content)) (event : Event Uri Content) :
    failures deviceUri (events ++ [event]) = failures deviceUri events + failures deviceUri [event] := by
  simp [failures]

@[simp] theorem failures_write (deviceUri : Nat × Uri) (entries : EntryMap Uri Content) :
    failures deviceUri [.write entries] = 0 := by
  simp [failures]

theorem failures_upload (deviceUri : Nat × Uri) (event : HttpWriter.Event (Nat × Uri)) :
    failures deviceUri [(.upload event : Event Uri Content)] = if event.failing = some deviceUri then 1 else 0 := by
  by_cases fails : event.failing = some deviceUri <;> simp [failures, fails]

/-- What holds after `events` as long as no upload throws without retries left. -/
structure Going (events : List (Event Uri Content)) (s : Writes Uri Content) : Prop where
  writing : s.count = 0 ∧ s.writer = create.writer ∨
    0 < s.count ∧ ∃ (entries : EntryMap Uri Content) (uploads : List (HttpWriter.Event (Nat × Uri))),
      HttpWriter.Inv (entries.numbered s.count) uploads s.writer
  running : ∀ upload ∈ s.writer.running,
    s.attempted upload.deviceUri + upload.retry = 10 + HttpWriter.begun upload.stage ∧
      upload.retry + failures upload.deviceUri events = 10
  outstanding : ∀ entry ∈ s.writer.outstanding, s.attempted entry.1 = 0 ∧ failures entry.1 events = 0
  later : ∀ deviceUri : Nat × Uri, s.count < deviceUri.1 → s.attempted deviceUri = 0 ∧ failures deviceUri events = 0
  attempted_le : ∀ deviceUri, s.attempted deviceUri ≤ 11
  failures_le : ∀ deviceUri, failures deviceUri events ≤ 10
  failed : s.failed = []
  not_late : ∀ attempt ∈ s.attempts, attempt.late = false

theorem going_create : Going [] (create : Writes Uri Content) where
  writing := .inl ⟨rfl, rfl⟩
  running := nofun
  outstanding := nofun
  later := fun _ _ => ⟨rfl, rfl⟩
  attempted_le := fun _ => Nat.zero_le _
  failures_le := fun _ => Nat.zero_le _
  failed := rfl
  not_late := nofun

variable {uploads : List (HttpWriter.Event (Nat × Uri))} {writer : HttpWriter (Nat × Uri) Content}

theorem number_eq {entries : EntryMap Uri Content} {number : Nat}
    (inv : HttpWriter.Inv (entries.numbered number) uploads writer) :
    (∀ upload ∈ writer.running, upload.deviceUri.1 = number) ∧ ∀ entry ∈ writer.outstanding, entry.1.1 = number := by
  have all : ∀ entry ∈ writer.received ++ writer.running.map Upload.entry ++ writer.outstanding,
      entry.1.1 = number := by
    intro entry inside
    obtain ⟨own, -, rfl⟩ := List.mem_map.mp (inv.perm.mem_iff.mp inside)
    rfl
  constructor
  · intro upload runs
    exact all upload.entry (List.mem_append_left _ (List.mem_append_right _ (List.mem_map_of_mem runs)))
  · exact fun entry waits => all entry (List.mem_append_right _ waits)

theorem Going.idle (going : Going events s) (returned : s.count = 0 ∨ s.writer.completer.isSome) :
    s.writer.inFlight = 0 ∧ s.writer.running = [] := by
  obtain ⟨none, fresh⟩ | ⟨positive, entries, uploads, inv⟩ := going.writing
  · rw [fresh]
    exact ⟨rfl, rfl⟩
  · have completed : s.writer.completer.isSome := returned.resolve_left (by omega)
    rcases inv.waits_or_done with ⟨waits, -⟩ | ⟨-, none, -⟩
    · rw [waits] at completed
      cases completed
    · exact ⟨by rw [inv.inFlight_eq, none]; rfl, none⟩

theorem isError_of_inv {entries : EntryMap (Nat × Uri) Content} (inv : HttpWriter.Inv entries uploads writer) :
    isError writer.completer = false := by
  rcases inv.waits_or_done with ⟨waits, -⟩ | ⟨done, -⟩
  · rw [waits]
    rfl
  · rw [done]
    rfl

omit [DecidableEq Uri] in
theorem record_fine (deviceUris : List (Nat × Uri)) (none : s.failed = [])
    (early : ∀ attempt ∈ s.attempts, attempt.late = false) (fine : isError writer.completer = false) :
    (s.record writer deviceUris).failed = [] ∧
      ∀ attempt ∈ (s.record writer deviceUris).attempts, attempt.late = false := by
  simp only [record, fine, none, Bool.false_eq_true, if_false]
  refine ⟨trivial, fun attempt inside => ?_⟩
  rcases List.mem_append.mp inside with inside | new
  · exact early attempt inside
  · obtain ⟨deviceUri, -, rfl⟩ := List.mem_map.mp new
    simp

theorem going_of_started {event : Event Uri Content} {entries : EntryMap Uri Content}
    {old : List (Upload (Nat × Uri) Content)} {new rest : List ((Nat × Uri) × Content)} (positive : 0 < s.count)
    (inv : HttpWriter.Inv (entries.numbered s.count) uploads writer)
    (running : writer.running = old ++ new.map fun entry => HttpWriter.startWrite entry.1 entry.2)
    (waits : writer.outstanding = rest)
    (kept : ∀ upload ∈ old, s.attempted upload.deviceUri + upload.retry = 10 + HttpWriter.begun upload.stage ∧
      upload.retry + failures upload.deviceUri events = 10)
    (fresh : ∀ entry ∈ new ++ rest, s.attempted entry.1 = 0 ∧ failures entry.1 events = 0)
    (later : ∀ deviceUri : Nat × Uri, s.count < deviceUri.1 → s.attempted deviceUri = 0 ∧ failures deviceUri events = 0)
    (attempted_le : ∀ deviceUri, s.attempted deviceUri ≤ 11) (failures_le : ∀ deviceUri, failures deviceUri events ≤ 10)
    (none : s.failed = []) (early : ∀ attempt ∈ s.attempts, attempt.late = false)
    (quiet : ∀ deviceUri, failures deviceUri (events ++ [event]) = failures deviceUri events) :
    Going (events ++ [event]) (s.record writer (new.map Prod.fst)) := by
  have distinct : (old.map Upload.deviceUri ++ new.map Prod.fst ++ rest.map Prod.fst).Nodup := by
    have nodup := inv.nodup
    rw [running, waits, List.map_append, List.map_map, List.append_assoc] at nodup
    exact (List.nodup_append.mp nodup).2.1
  -- so each of the new URIs is attempted once, and no other one is
  have once : (new.map Prod.fst).Nodup := (List.nodup_append.mp (List.nodup_append.mp distinct).1).2.1
  have numbers := number_eq inv
  constructor
  · exact .inr ⟨positive, entries, uploads, inv⟩
  · intro upload runs
    rw [attempted_record, quiet]
    rw [show (s.record writer (new.map Prod.fst)).writer.running = writer.running from rfl, running] at runs
    rcases List.mem_append.mp runs with runs | starts
    · have apart := (List.nodup_append.mp (List.nodup_append.mp distinct).1).2.2
      have other : upload.deviceUri ∉ new.map Prod.fst := fun inside =>
        apart upload.deviceUri (List.mem_map_of_mem runs) upload.deviceUri inside rfl
      rw [List.count_eq_zero_of_not_mem other]
      exact kept upload runs
    · obtain ⟨entry, inside, rfl⟩ := List.mem_map.mp starts
      obtain ⟨attempted, failed⟩ := fresh entry (List.mem_append_left _ inside)
      have first : (new.map Prod.fst).count entry.1 = 1 :=
        List.count_eq_one_of_mem once (List.mem_map_of_mem inside)
      simp [HttpWriter.startWrite, HttpWriter.begun, attempted, failed, first]
  · intro entry inside
    rw [show (s.record writer (new.map Prod.fst)).writer.outstanding = writer.outstanding from rfl, waits] at inside
    have apart := (List.nodup_append.mp distinct).2.2
    have other : entry.1 ∉ new.map Prod.fst := fun started =>
      apart entry.1 (List.mem_append_right _ started) entry.1 (List.mem_map_of_mem inside) rfl
    rw [attempted_record, quiet, List.count_eq_zero_of_not_mem other]
    exact fresh entry (List.mem_append_right _ inside)
  · intro deviceUri after
    have other : deviceUri ∉ new.map Prod.fst := by
      intro started
      obtain ⟨entry, inside, rfl⟩ := List.mem_map.mp started
      have runs : HttpWriter.startWrite entry.1 entry.2 ∈ writer.running := by
        rw [running]
        exact List.mem_append_right _ (List.mem_map_of_mem inside)
      have number := numbers.1 _ runs
      exact absurd number (Nat.ne_of_gt after)
    rw [attempted_record, quiet, List.count_eq_zero_of_not_mem other]
    exact later deviceUri after
  · intro deviceUri
    rw [attempted_record]
    by_cases started : deviceUri ∈ new.map Prod.fst
    · obtain ⟨entry, inside, rfl⟩ := List.mem_map.mp started
      rw [(fresh entry (List.mem_append_left _ inside)).1, List.count_eq_one_of_mem once started]
      omega
    · rw [List.count_eq_zero_of_not_mem started]
      exact attempted_le deviceUri
  · intro deviceUri
    rw [quiet]
    exact failures_le deviceUri
  · exact (record_fine _ none early (isError_of_inv inv)).1
  · exact (record_fine _ none early (isError_of_inv inv)).2

theorem Going.write (going : Going events s) (returned : s.count = 0 ∨ s.writer.completer.isSome)
    (entries : EntryMap Uri Content) :
    Going (events ++ [.write entries])
      ({ s with count := s.count + 1 }.record (s.writer.write (entries.numbered (s.count + 1)))
        (HttpWriter.started s.writer (s.writer.write (entries.numbered (s.count + 1))))) := by
  obtain ⟨counted, none⟩ := going.idle returned
  have inv : HttpWriter.Inv (entries.numbered (s.count + 1)) [] (s.writer.write (entries.numbered (s.count + 1))) :=
    HttpWriter.write_inv counted none
  obtain ⟨new, rest, split, waits, runs⟩ := HttpWriter.scheduleWrites_eq
    { s.writer with completer := .none, outstanding := (entries.numbered (s.count + 1)).entries, received := [] }
  have running : (s.writer.write (entries.numbered (s.count + 1))).running =
      [] ++ new.map fun entry => HttpWriter.startWrite entry.1 entry.2 := by
    rw [← none]
    exact runs
  -- no upload of the write before is left
  have started := HttpWriter.started_eq running nofun fun entry inside upload runs => by
    rw [none] at runs
    exact absurd runs List.not_mem_nil
  rw [started]
  refine going_of_started (Nat.succ_pos _) inv running waits nofun ?_ ?_ going.attempted_le going.failures_le
    going.failed going.not_late fun deviceUri => by rw [failures_append, failures_write, Nat.add_zero]
  · intro entry inside
    have member : entry ∈ (entries.numbered (s.count + 1)).entries := by
      rw [← show _ = new ++ rest from split] at inside
      exact inside
    obtain ⟨own, -, rfl⟩ := List.mem_map.mp member
    exact going.later _ (Nat.lt_succ_self _)
  · exact fun deviceUri after => going.later deviceUri (Nat.lt_of_succ_lt after)

theorem Going.upload (going : Going events s) {event : HttpWriter.Event (Nat × Uri)}
    (stepped : s.writer.step event = some writer)
    (retries : ∀ deviceUri upload, event.failing = some deviceUri → s.writer.find deviceUri = some upload →
      0 < upload.retry) : Going (events ++ [.upload event]) (s.record writer (s.writer.attempts event writer)) := by
  obtain ⟨-, fresh⟩ | ⟨positive, entries, uploads, inv⟩ := going.writing
  · rw [fresh] at stepped
    cases event <;> cases stepped
  have inv' := inv.step stepped retries
  rw [HttpWriter.attempts]
  cases inv.progress stepped retries with
  | finishes before after upload new rest split running split' waits again failing =>
    have old := other_mem_of_split split
    have started := HttpWriter.started_eq running old fun entry inside upload runs => by
      refine inv.outstanding_ne runs ?_
      rw [split']
      exact List.mem_append_left _ inside
    rw [started, again, List.append_nil]
    refine going_of_started positive inv' running waits (fun other inside => going.running other (old other inside))
      (fun entry inside => going.outstanding entry (split' ▸ inside)) going.later going.attempted_le going.failures_le
      going.failed going.not_late fun deviceUri => ?_
    rw [failures_append, failures_upload, failing, if_neg nofun, Nat.add_zero]
  | moves before after upload upload' repeats fails split same running waits again failing retry stage =>
    have others := inv.ne_of_split split
    have started : HttpWriter.started s.writer writer = [] := by
      refine HttpWriter.started_eq_nil ?_
      rw [running, split, List.map_append, List.map_append, List.map_cons, List.map_cons, same]
    rw [started, again, List.nil_append]
    -- the attempts and the failures of all but the upload that moves stay the same
    have elsewhere : ∀ deviceUri, deviceUri ≠ upload.deviceUri →
        (s.record writer (if repeats then [upload.deviceUri] else [])).attempted deviceUri = s.attempted deviceUri ∧
          failures deviceUri (events ++ [.upload event]) = failures deviceUri events := by
      intro deviceUri other
      rw [attempted_record, failures_append, failures_upload, failing]
      cases repeats <;> cases fails <;> simp [other.symm]
    have here : (s.record writer (if repeats then [upload.deviceUri] else [])).attempted upload.deviceUri =
          s.attempted upload.deviceUri + repeats.toNat ∧
        failures upload.deviceUri (events ++ [.upload event]) = failures upload.deviceUri events + fails.toNat := by
      rw [attempted_record, failures_append, failures_upload, failing]
      cases repeats <;> cases fails <;> simp
    have member := call_mem_of_split split
    obtain ⟨attempted, failed⟩ := going.running upload member
    have bound : HttpWriter.begun upload'.stage ≤ 1 := by
      rw [HttpWriter.begun]
      split <;> omega
    constructor
    · exact .inr ⟨positive, entries, _, inv'⟩
    · intro other runs
      rw [show (s.record writer (if repeats then [upload.deviceUri] else [])).writer.running = writer.running from rfl,
        running, List.mem_append, List.mem_cons] at runs
      have unchanged : other ∈ before ++ after →
          (s.record writer (if repeats then [upload.deviceUri] else [])).attempted other.deviceUri + other.retry =
            10 + HttpWriter.begun other.stage ∧
          other.retry + failures other.deviceUri (events ++ [.upload event]) = 10 := by
        intro inside
        rw [(elsewhere _ (others other inside)).1, (elsewhere _ (others other inside)).2]
        exact going.running other (other_mem_of_split split other inside)
      rcases runs with runs | rfl | runs
      · exact unchanged (List.mem_append_left _ runs)
      · rw [same, here.1, here.2]
        omega
      · exact unchanged (List.mem_append_right _ runs)
    · intro entry inside
      rw [show (s.record writer (if repeats then [upload.deviceUri] else [])).writer.outstanding = writer.outstanding
        from rfl, waits] at inside
      have other := inv.outstanding_ne member inside
      rw [(elsewhere _ other).1, (elsewhere _ other).2]
      exact going.outstanding entry inside
    · intro deviceUri later
      have other : deviceUri ≠ upload.deviceUri := by
        rintro rfl
        exact absurd ((number_eq inv).1 upload member) (Nat.ne_of_gt later)
      rw [(elsewhere _ other).1, (elsewhere _ other).2]
      exact going.later deviceUri later
    · intro deviceUri
      by_cases other : deviceUri = upload.deviceUri
      · rw [other, here.1]
        omega
      · rw [(elsewhere _ other).1]
        exact going.attempted_le deviceUri
    · intro deviceUri
      by_cases other : deviceUri = upload.deviceUri
      · rw [other, here.2]
        omega
      · rw [(elsewhere _ other).2]
        exact going.failures_le deviceUri
    · exact (record_fine _ going.failed going.not_late (isError_of_inv inv')).1
    · exact (record_fine _ going.failed going.not_late (isError_of_inv inv')).2

theorem Going.stops (going : Going events s) : Stops s := by
  refine ⟨going.attempted_le, going.not_late, fun none => ?_⟩
  obtain ⟨-, fresh⟩ | ⟨-, entries, uploads, inv⟩ := going.writing
  · rw [fresh]
    rfl
  · rw [inv.inFlight_eq, none]
    rfl

/-! ## When the last retry throws -/

def Overrun (s : Writes Uri Content) : Prop := ∃ deviceUri, 12 ≤ s.attempted deviceUri

theorem Overrun.not_stops (overrun : Overrun s) : ¬ Stops s := by
  intro stops
  obtain ⟨deviceUri, many⟩ := overrun
  have few := stops.attempted_le deviceUri
  omega

theorem attempted_le_advance {event : Event Uri Content} (advanced : s.advance event = some s')
    (deviceUri : Nat × Uri) : s.attempted deviceUri ≤ s'.attempted deviceUri := by
  cases event with
  | write entries =>
    simp only [advance] at advanced
    split at advanced
    · cases advanced
      rw [attempted_record]
      exact Nat.le_add_right _ _
    · cases advanced
  | upload event =>
    obtain ⟨writer, stepped, advanced⟩ := Option.bind_eq_some_iff.mp advanced
    cases advanced
    rw [attempted_record]
    exact Nat.le_add_right _ _

theorem Going.overrun (going : Going events s) {event : HttpWriter.Event (Nat × Uri)}
    (stepped : s.writer.step event = some writer) {deviceUri : Nat × Uri}
    {upload : Upload (Nat × Uri) Content} (fails : event.failing = some deviceUri)
    (found : s.writer.find deviceUri = some upload) (last : upload.retry = 0) :
    Overrun (s.record writer (s.writer.attempts event writer)) ∧
      10 < failures deviceUri (events ++ [.upload event]) := by
  have named : upload.deviceUri = deviceUri := by simpa using List.find?_some found
  obtain ⟨attempted, failed⟩ := going.running upload (List.mem_of_find?_eq_some found)
  -- the handler completes the completer and begins the loop once more
  have running : upload.stage ≠ .delayed ∧ s.writer.again event = [deviceUri] := by
    cases event with
    | completes => cases fails
    | timesOut => cases fails
    | throws other error =>
      cases fails
      refine ⟨fun delayed => ?_, by simp [HttpWriter.again, found, last]⟩
      simp [HttpWriter.step, found, delayed] at stepped
    | isDone other error =>
      cases fails
      refine ⟨fun delayed => ?_, by simp [HttpWriter.again, found, last]⟩
      simp [HttpWriter.step, found, delayed] at stepped
  rw [HttpWriter.begun, if_neg running.1, named] at attempted
  rw [named] at failed
  constructor
  · refine ⟨deviceUri, ?_⟩
    rw [attempted_record, HttpWriter.attempts, running.2, List.count_append, List.count_singleton_self]
    omega
  · rw [failures_append, failures_upload, if_pos fails]
    omega

/-! ## Whole runs -/

variable {log : List (Event Uri Content × Unit)}

theorem going_or_overrun (runs : Runs step (fun _ _ => True) create log s) :
    Going (log.map Prod.fst) s ∨ Overrun s ∧ ∃ deviceUri, 10 < failures deviceUri (log.map Prod.fst) := by
  induction runs with
  | start => exact .inl going_create
  | @next log s s' event out before met stepped ih =>
    rw [List.map_append]
    have advanced : s.advance event = some s' := by
      rw [step] at stepped
      split at stepped
      · rename_i advanced
        cases stepped
        exact advanced
      · cases stepped
    obtain going | ⟨⟨deviceUri, many⟩, other, often⟩ := ih
    · cases event with
      | write entries =>
        simp only [advance] at advanced
        split at advanced
        · rename_i returned
          cases advanced
          exact .inl (going.write returned entries)
        · cases advanced
      | upload event =>
        obtain ⟨writer, moved, advanced⟩ := Option.bind_eq_some_iff.mp advanced
        cases advanced
        by_cases exhausted : ∃ deviceUri upload, event.failing = some deviceUri ∧
            s.writer.find deviceUri = some upload ∧ upload.retry = 0
        · obtain ⟨deviceUri, upload, fails, found, last⟩ := exhausted
          obtain ⟨overrun, often⟩ := going.overrun moved fails found last
          exact .inr ⟨overrun, deviceUri, often⟩
        · refine .inl (going.upload moved fun deviceUri upload fails found => Nat.pos_of_ne_zero fun last => ?_)
          exact exhausted ⟨deviceUri, upload, fails, found, last⟩
    · refine .inr ⟨⟨deviceUri, many.trans (attempted_le_advance advanced deviceUri)⟩, other, ?_⟩
      rw [List.map_cons, List.map_nil, failures_append]
      omega

/-- The uploads stop exactly as long as no entry has failed more than ten times. -/
theorem stops_iff (runs : Runs step (fun _ _ => True) create log s) :
    s.Stops ↔ ∀ deviceUri, failures deviceUri (log.map Prod.fst) ≤ 10 := by
  obtain going | ⟨overrun, deviceUri, often⟩ := going_or_overrun runs
  · exact ⟨fun _ => going.failures_le, fun _ => going.stops⟩
  · refine ⟨fun stops => absurd stops overrun.not_stops, fun few => ?_⟩
    exact absurd (few deviceUri) (Nat.not_le_of_lt often)

def oneEntry : EntryMap Nat Nat := ⟨[(1, 10)], by decide⟩

def secondAttempt : List (Event Nat Nat) :=
  [.write oneEntry, .upload (.throws (1, 1) .socket), .upload (.completes (1, 1)), .upload (.completes (1, 1)),
    .upload (.completes (1, 1)), .upload (.completes (1, 1))]

theorem stops_iff_secondAttempt : ∃ (log : List (Event Nat Nat × Unit)) (s : Writes Nat Nat),
    Runs step (fun _ _ => True) create log s ∧ s.writer.result = some (.ok ()) ∧ s.Stops := by
  have ran : ∃ log s, run step create secondAttempt = .ok (log, s) ∧ s.writer.result = some (.ok ()) ∧
      log.map Prod.fst = secondAttempt := ⟨_, _, rfl, rfl, rfl⟩
  obtain ⟨log, s, ran, returned, events⟩ := ran
  have runs : Runs step (fun _ _ => True) create log s := runs_of_run (fun _ _ _ => trivial) ran
  refine ⟨log, s, runs, returned, (stops_iff runs).mpr fun deviceUri => ?_⟩
  rw [events]
  have few : failures deviceUri secondAttempt ≤ secondAttempt.length := List.countP_le_length
  exact few.trans (by decide)

def everyAttempt : List (Event Nat Nat) :=
  .write oneEntry :: ((List.replicate 10 [.upload (.throws (1, 1) .socket), .upload (.completes (1, 1))]).flatten ++
    [.upload (.throws (1, 1) .socket)])

theorem not_stops_everyAttempt : ¬ ∀ (log : List (Event Nat Nat × Unit)) (s : Writes Nat Nat),
    Runs step (fun _ _ => True) create log s → s.Stops := by
  intro always
  have ran : ∃ log s, run step create everyAttempt = .ok (log, s) ∧
      s.writer.completer = some (.error .socket) ∧ s.attempts = List.replicate 11 ⟨(1, 1), false⟩ ++ [⟨(1, 1), true⟩] :=
    ⟨_, _, rfl, rfl, rfl⟩
  obtain ⟨log, s, ran, -, attempts⟩ := ran
  have stops := always log s (runs_of_run (fun _ _ _ => trivial) ran)
  have last : (⟨(1, 1), true⟩ : Attempt Nat) ∈ s.attempts := by
    rw [attempts]
    exact List.mem_append_right _ (List.mem_singleton_self _)
  cases stops.not_late _ last

end Writes

end FlutterZero.FlutterTools.DevFS
