import FlutterZero.FlutterTools.FileTransfer
import FlutterZero.Lib.Calls
import FlutterZero.Lib.Json
import FlutterZero.Lib.Machine

/-! # Uploads of application packages

`ProxiedDevice.applicationPackageId` (`proxied_devices/devices.dart`) uploads a package at the first call
for its path.  The future of `idCompleter` is put into `_applicationPackageMap` before the first await, and
later calls for the path return it.  Where an await throws, the future stays in the map and nothing
completes it.

* `step` — calls, the answers of the daemon, and what the file operations return;
* `Effect` — what a step does to the map, the completers and the calls;
* `Retryable`, `Stuck` — every future of the map will be completed, and one that never is;
* `retryable_iff` — the device is retryable exactly after the runs in which nothing throws behind the
  entry into the map.
-/

namespace FlutterZero.FlutterTools

open FlutterZero.Lib

variable {Double Hashes Error : Type}

namespace ProxiedDevice

/-! ## A call -/

inductive FileSystemEntity where
  | file (absolutePath basename : Utf16)
  | directory
deriving DecidableEq, Repr

inductive Request where
  /-- `proxy.calculateFileHashes` -/
  | calculateFileHashes (path : Utf16) (cacheResult : Bool)
  /-- `proxy.writeTempFile` -/
  | writeTempFile (path : Utf16) (binary : List UInt8)
  /-- `proxy.updateFile` -/
  | updateFile (path : Utf16) (delta : List (List (String × Nat))) (binary : List UInt8)
  /-- `device.uploadApplicationPackage` -/
  | uploadApplicationPackage (targetPlatform applicationBinary : Utf16)
deriving DecidableEq, Repr

/-- The await at which `applicationPackageId` is. -/
inductive Stage (Hashes : Type) where
  | calculateFileHashes
  | readAsBytes
  | writeTempFile
  | computeDelta (rollingHashResult : Hashes)
  | binaryForRebuilding (delta : List FileDeltaBlock)
  | updateFile
  | uploadApplicationPackage
deriving DecidableEq, Repr

structure Call (Hashes : Type) where
  fileName : Utf16
  /-- Its number in `completers`. -/
  idCompleter : Nat
  stage : Stage Hashes
deriving DecidableEq, Repr

/-- `_cast<Map<String, Object?>?>`; the outer `none` is an exception. -/
def castMap : Json Double → Option (Option (List (Utf16 × Json Double)))
  | .null => some none
  | .object entries => some (some entries)
  | _ => none

/-- `_cast<String>` -/
def castString : Json Double → Option Utf16
  | .string value => some value
  | _ => none

/-- What is read from the answer to `proxy.calculateFileHashes`, with `fromJson` for `BlockHashes.fromJson`. -/
def rollingHashResult (fromJson : List (Utf16 × Json Double) → Option Hashes) (response : Json Double) :
    Option (Option Hashes) :=
  match castMap response with
  | none => none
  | some none => some none
  | some (some rollingHashResultJson) => (fromJson rollingHashResultJson).map some

end ProxiedDevice

open ProxiedDevice in
structure ProxiedDevice (Hashes : Type) where
  deltaFileTransfer : Bool
  targetPlatform : Utf16
  applicationPackageMap : List (Utf16 × Nat)
  /-- What the completers were completed with, in the order in which they were created. -/
  completers : List (Option Utf16)
  calls : List (Call Hashes)
  requests : List Request
  precaching : List Utf16
deriving DecidableEq, Repr

namespace ProxiedDevice

inductive Event (Double Error : Type) where
  | applicationPackageId (applicationPackage : FileSystemEntity)
  | response (i : Nat) (response : Json Double)
  | bytes (i : Nat) (bytes : List UInt8)
  | delta (i : Nat) (delta : List FileDeltaBlock)
  /-- What a call awaits throws. -/
  | throws (i : Nat) (error : Error)
  | precache (i : Nat)

def create (deltaFileTransfer : Bool) (targetPlatform : Utf16) : ProxiedDevice Hashes :=
  ⟨deltaFileTransfer, targetPlatform, [], [], [], [], []⟩

def setCall (device : ProxiedDevice Hashes) (i : Nat) (call : Call Hashes) : ProxiedDevice Hashes :=
  { device with calls := device.calls.set i call }

def endCall (device : ProxiedDevice Hashes) (i : Nat) : ProxiedDevice Hashes :=
  { device with calls := device.calls.eraseIdx i }

/-- `applicationPackageId` up to the first await. -/
def start (device : ProxiedDevice Hashes) (path fileName : Utf16) : ProxiedDevice Hashes :=
  let idCompleter := device.completers.length
  let device :=
    { device with
      applicationPackageMap := device.applicationPackageMap ++ [(path, idCompleter)]
      completers := device.completers ++ [none] }
  if device.deltaFileTransfer then
    { device with
      calls := device.calls ++ [⟨fileName, idCompleter, .calculateFileHashes⟩]
      requests := device.requests ++ [.calculateFileHashes fileName false] }
  else { device with calls := device.calls ++ [⟨fileName, idCompleter, .readAsBytes⟩] }

def upload (device : ProxiedDevice Hashes) (i : Nat) (call : Call Hashes) : ProxiedDevice Hashes :=
  let precaching := if device.deltaFileTransfer then device.precaching ++ [call.fileName] else device.precaching
  { device.setCall i { call with stage := .uploadApplicationPackage } with
    precaching := precaching
    requests := device.requests ++ [.uploadApplicationPackage device.targetPlatform call.fileName] }

/-- `idCompleter.complete(id)` -/
def complete (device : ProxiedDevice Hashes) (i : Nat) (call : Call Hashes) (id : Utf16) : ProxiedDevice Hashes :=
  { device.endCall i with completers := device.completers.set call.idCompleter (some id) }

variable (fromJson : List (Utf16 × Json Double) → Option Hashes)

def onResponse (device : ProxiedDevice Hashes) (i : Nat) (call : Call Hashes) (response : Json Double) :
    Option (ProxiedDevice Hashes) :=
  match call.stage with
  | .calculateFileHashes =>
    match rollingHashResult fromJson response with
    | none => some (device.endCall i)
    | some none => some (device.setCall i { call with stage := .readAsBytes })
    | some (some hashes) => some (device.setCall i { call with stage := .computeDelta hashes })
  | .writeTempFile => some (device.upload i call)
  | .updateFile => some (device.upload i call)
  | .uploadApplicationPackage =>
    match castString response with
    | none => some (device.endCall i)
    | some id => some (device.complete i call id)
  | _ => none

def onBytes (device : ProxiedDevice Hashes) (i : Nat) (call : Call Hashes) (bytes : List UInt8) :
    Option (ProxiedDevice Hashes) :=
  match call.stage with
  | .readAsBytes =>
    some { device.setCall i { call with stage := .writeTempFile } with
      requests := device.requests ++ [.writeTempFile call.fileName bytes] }
  | .binaryForRebuilding delta =>
    some { device.setCall i { call with stage := .updateFile } with
      requests := device.requests ++ [.updateFile call.fileName (delta.map FileDeltaBlock.toJson) bytes] }
  | _ => none

def onDelta (device : ProxiedDevice Hashes) (i : Nat) (call : Call Hashes) (delta : List FileDeltaBlock) :
    Option (ProxiedDevice Hashes) :=
  match call.stage with
  | .computeDelta _ =>
    -- the delta is empty if the file does not need to be updated
    if delta.isEmpty then some (device.upload i call)
    else some (device.setCall i { call with stage := .binaryForRebuilding delta })
  | _ => none

/-- `none` if the event is not possible now. -/
def advance (device : ProxiedDevice Hashes) : Event Double Error → Option (ProxiedDevice Hashes)
  | .applicationPackageId (.file path fileName) =>
    if path ∈ device.applicationPackageMap.map Prod.fst then some device else some (device.start path fileName)
  -- the cast to a file throws
  | .applicationPackageId .directory => some device
  | .response i response => do
    let call ← device.calls[i]?
    device.onResponse fromJson i call response
  | .bytes i bytes => do
    let call ← device.calls[i]?
    device.onBytes i call bytes
  | .delta i delta => do
    let call ← device.calls[i]?
    device.onDelta i call delta
  | .throws i _ => do
    let _ ← device.calls[i]?
    some (device.endCall i)
  | .precache i => do
    let fileName ← device.precaching[i]?
    some { device with
      precaching := device.precaching.eraseIdx i
      requests := device.requests ++ [.calculateFileHashes fileName true] }

def step (device : ProxiedDevice Hashes) (event : Event Double Error) : Except Unit (Unit × ProxiedDevice Hashes) :=
  match device.advance fromJson event with
  | some device' => .ok ((), device')
  | none => .error ()

/-! ## What throws behind the entry into the map -/

/-- Whether an answer can be read at an await. -/
def Accepts (stage : Stage Hashes) (response : Json Double) : Prop :=
  match stage with
  | .calculateFileHashes => (rollingHashResult fromJson response).isSome
  | .uploadApplicationPackage => (castString response).isSome
  | _ => True

/-- No call throws: what it awaits returns, and an answer of the daemon can be read. -/
def Returns (device : ProxiedDevice Hashes) : Event Double Error → Prop
  | .throws _ _ => False
  | .response i response => ∀ call ∈ device.calls[i]?, Accepts fromJson call.stage response
  | _ => True

/-- Every future of the map is completed, or its call is still in progress. -/
def Retryable (device : ProxiedDevice Hashes) : Prop :=
  ∀ entry ∈ device.applicationPackageMap,
    (∃ id, device.completers[entry.2]? = some (some id)) ∨ ∃ call ∈ device.calls, call.idCompleter = entry.2

/-! ## What a step does -/

variable {fromJson} {device device' : ProxiedDevice Hashes}

/-- The map, the completers and the calls after a step, and whether the call that moves has returned normally from
    what it awaited. -/
inductive Effect (device device' : ProxiedDevice Hashes) : Bool → Prop where
  | publishes (path : Utf16) (call : Call Hashes) (fresh : call.idCompleter = device.completers.length)
      (map : device'.applicationPackageMap = device.applicationPackageMap ++ [(path, device.completers.length)])
      (completers : device'.completers = device.completers ++ [none]) (calls : device'.calls = device.calls ++ [call]) :
      Effect device device' true
  | stays (map : device'.applicationPackageMap = device.applicationPackageMap)
      (completers : device'.completers = device.completers) (calls : device'.calls = device.calls) :
      Effect device device' true
  | goesOn (before after : List (Call Hashes)) (call : Call Hashes) (stage : Stage Hashes)
      (split : device.calls = before ++ call :: after)
      (map : device'.applicationPackageMap = device.applicationPackageMap)
      (completers : device'.completers = device.completers)
      (calls : device'.calls = before ++ { call with stage := stage } :: after) : Effect device device' true
  | returns (before after : List (Call Hashes)) (call : Call Hashes) (id : Utf16)
      (split : device.calls = before ++ call :: after)
      (map : device'.applicationPackageMap = device.applicationPackageMap)
      (completers : device'.completers = device.completers.set call.idCompleter (some id))
      (calls : device'.calls = before ++ after) : Effect device device' true
  | throws (before after : List (Call Hashes)) (call : Call Hashes) (split : device.calls = before ++ call :: after)
      (map : device'.applicationPackageMap = device.applicationPackageMap)
      (completers : device'.completers = device.completers) (calls : device'.calls = before ++ after) :
      Effect device device' false

theorem start_effect (device : ProxiedDevice Hashes) (path fileName : Utf16) :
    Effect device (device.start path fileName) true := by
  rw [start]
  cases device.deltaFileTransfer with
  | true => exact .publishes path ⟨fileName, device.completers.length, .calculateFileHashes⟩ rfl rfl rfl rfl
  | false => exact .publishes path ⟨fileName, device.completers.length, .readAsBytes⟩ rfl rfl rfl rfl

section

variable {i : Nat} {call : Call Hashes} (moves : device.calls[i]? = some call)

include moves

theorem setCall_effect (stage : Stage Hashes) (precaching : List Utf16) (requests : List Request) :
    Effect device { device.setCall i { call with stage := stage } with precaching, requests } true := by
  obtain ⟨before, after, split, rfl⟩ := exists_split_of_getElem? moves
  refine .goesOn before after call stage split rfl rfl ?_
  rw [setCall, split, set_split]

theorem endCall_effect : Effect device (device.endCall i) false := by
  obtain ⟨before, after, split, rfl⟩ := exists_split_of_getElem? moves
  refine .throws before after call split rfl rfl ?_
  rw [endCall, split, eraseIdx_split]

theorem complete_effect (id : Utf16) : Effect device (device.complete i call id) true := by
  obtain ⟨before, after, split, rfl⟩ := exists_split_of_getElem? moves
  refine .returns before after call id split rfl rfl ?_
  rw [complete, endCall, split, eraseIdx_split]

theorem onResponse_effect {response : Json Double}
    (advanced : device.onResponse fromJson i call response = some device') :
    ∃ returns, Effect device device' returns ∧ (returns = true ↔ Accepts fromJson call.stage response) := by
  rw [onResponse] at advanced
  cases stage : call.stage with
  | calculateFileHashes =>
    simp only [stage] at advanced
    simp only [Accepts]
    generalize rollingHashResult fromJson response = rollingHashResult at advanced ⊢
    obtain _ | _ | hashes := rollingHashResult
    · cases advanced
      exact ⟨false, endCall_effect moves, by simp⟩
    · cases advanced
      exact ⟨true, setCall_effect moves .readAsBytes device.precaching device.requests, by simp⟩
    · cases advanced
      exact ⟨true, setCall_effect moves (.computeDelta hashes) device.precaching device.requests, by simp⟩
  | writeTempFile =>
    simp only [stage, Option.some.injEq] at advanced
    rw [← advanced]
    exact ⟨true, setCall_effect moves .uploadApplicationPackage _ _, by simp [Accepts]⟩
  | updateFile =>
    simp only [stage, Option.some.injEq] at advanced
    rw [← advanced]
    exact ⟨true, setCall_effect moves .uploadApplicationPackage _ _, by simp [Accepts]⟩
  | uploadApplicationPackage =>
    simp only [stage] at advanced
    simp only [Accepts]
    generalize castString response = id at advanced ⊢
    obtain _ | id := id
    · cases advanced
      exact ⟨false, endCall_effect moves, by simp⟩
    · cases advanced
      exact ⟨true, complete_effect moves id, by simp⟩
  | readAsBytes => simp [stage] at advanced
  | computeDelta hashes => simp [stage] at advanced
  | binaryForRebuilding delta => simp [stage] at advanced

theorem onBytes_effect {bytes : List UInt8} (advanced : device.onBytes i call bytes = some device') :
    Effect device device' true := by
  rw [onBytes] at advanced
  split at advanced
  · cases advanced
    exact setCall_effect moves .writeTempFile device.precaching _
  · cases advanced
    exact setCall_effect moves .updateFile device.precaching _
  · cases advanced

theorem onDelta_effect {delta : List FileDeltaBlock} (advanced : device.onDelta i call delta = some device') :
    Effect device device' true := by
  rw [onDelta] at advanced
  split at advanced
  · split at advanced
    · cases advanced
      exact setCall_effect moves .uploadApplicationPackage _ _
    · cases advanced
      exact setCall_effect moves (.binaryForRebuilding delta) device.precaching device.requests
  · cases advanced

end

theorem advance_effect {event : Event Double Error} (advanced : device.advance fromJson event = some device') :
    ∃ returns, Effect device device' returns ∧ (returns = true ↔ Returns fromJson device event) := by
  cases event with
  | applicationPackageId applicationPackage =>
    cases applicationPackage with
    | file path fileName =>
      simp only [advance] at advanced
      split at advanced
      · cases advanced
        exact ⟨true, .stays rfl rfl rfl, by simp [Returns]⟩
      · cases advanced
        exact ⟨true, start_effect device path fileName, by simp [Returns]⟩
    | directory =>
      cases advanced
      exact ⟨true, .stays rfl rfl rfl, by simp [Returns]⟩
  | response i response =>
    obtain ⟨call, moves, advanced⟩ := Option.bind_eq_some_iff.mp advanced
    obtain ⟨returns, effect, accepts⟩ := onResponse_effect moves advanced
    exact ⟨returns, effect, by simp [Returns, moves, accepts]⟩
  | bytes i bytes =>
    obtain ⟨call, moves, advanced⟩ := Option.bind_eq_some_iff.mp advanced
    exact ⟨true, onBytes_effect moves advanced, by simp [Returns]⟩
  | delta i delta =>
    obtain ⟨call, moves, advanced⟩ := Option.bind_eq_some_iff.mp advanced
    exact ⟨true, onDelta_effect moves advanced, by simp [Returns]⟩
  | throws i error =>
    obtain ⟨call, moves, advanced⟩ := Option.bind_eq_some_iff.mp advanced
    cases advanced
    exact ⟨false, endCall_effect moves, by simp [Returns]⟩
  | precache i =>
    obtain ⟨fileName, waits, advanced⟩ := Option.bind_eq_some_iff.mp advanced
    cases advanced
    exact ⟨true, .stays rfl rfl rfl, by simp [Returns]⟩

/-! ## What every step keeps -/

/-- Every completer has its entry, and is not completed while its call, the only one that has it, is in progress. -/
structure Inv (device : ProxiedDevice Hashes) : Prop where
  entries : device.applicationPackageMap.map Prod.snd = List.range device.completers.length
  distinct : (device.calls.map Call.idCompleter).Nodup
  pending : ∀ call ∈ device.calls, device.completers[call.idCompleter]? = some none

def Stuck (path : Utf16) (device : ProxiedDevice Hashes) : Prop :=
  ∃ idCompleter, (path, idCompleter) ∈ device.applicationPackageMap ∧
    device.completers[idCompleter]? = some none ∧ ∀ call ∈ device.calls, call.idCompleter ≠ idCompleter

theorem Inv.lt_of_mem (inv : Inv device) {entry : Utf16 × Nat} (inside : entry ∈ device.applicationPackageMap) :
    entry.2 < device.completers.length := by
  have member : entry.2 ∈ device.applicationPackageMap.map Prod.snd := List.mem_map_of_mem inside
  rw [inv.entries] at member
  exact List.mem_range.mp member

theorem Inv.exists_entry (inv : Inv device) {call : Call Hashes} (inside : call ∈ device.calls) :
    ∃ entry ∈ device.applicationPackageMap, entry.2 = call.idCompleter := by
  have pending := inv.pending call inside
  have member : call.idCompleter ∈ device.applicationPackageMap.map Prod.snd := by
    rw [inv.entries, List.mem_range]
    exact (List.getElem?_eq_some_iff.mp pending).1
  obtain ⟨entry, inside, same⟩ := List.mem_map.mp member
  exact ⟨entry, inside, same⟩

theorem inv_create (deltaFileTransfer : Bool) (targetPlatform : Utf16) :
    Inv (create deltaFileTransfer targetPlatform : ProxiedDevice Hashes) :=
  ⟨rfl, List.nodup_nil, nofun⟩

theorem Inv.effect (inv : Inv device) {returns : Bool} (effect : Effect device device' returns) : Inv device' := by
  cases effect with
  | publishes path call fresh map completers calls =>
    constructor
    · rw [map, completers, List.map_append, inv.entries]
      simp [List.range_succ]
    · rw [calls, List.map_append, List.nodup_append]
      refine ⟨inv.distinct, List.nodup_singleton _, ?_⟩
      intro idCompleter inside other last same
      -- the new completer comes behind those of the calls in progress
      obtain ⟨earlier, runs, rfl⟩ := List.mem_map.mp inside
      obtain ⟨short, -⟩ := List.getElem?_eq_some_iff.mp (inv.pending earlier runs)
      rw [List.mem_singleton.mp last, fresh] at same
      omega
    · intro other inside
      rw [calls, List.mem_append, List.mem_singleton] at inside
      rw [completers]
      rcases inside with inside | rfl
      · have pending := inv.pending other inside
        rwa [List.getElem?_append_left (List.getElem?_eq_some_iff.mp pending).1]
      · rw [fresh]
        simp
  | stays map completers calls =>
    exact ⟨by rw [map, completers, inv.entries], by rw [calls]; exact inv.distinct,
      by rw [calls, completers]; exact inv.pending⟩
  | goesOn before after call stage split map completers calls =>
    refine ⟨by rw [map, completers, inv.entries], ?_, ?_⟩
    · have distinct := inv.distinct
      rw [split] at distinct
      rw [calls]
      simpa using distinct
    · intro other inside
      rw [calls, List.mem_append, List.mem_cons] at inside
      rw [completers]
      have others := other_mem_of_split split
      rcases inside with inside | rfl | inside
      · exact inv.pending other (others other (List.mem_append_left _ inside))
      · exact inv.pending call (call_mem_of_split split)
      · exact inv.pending other (others other (List.mem_append_right _ inside))
  | returns before after call id split map completers calls =>
    constructor
    · rw [map, completers, List.length_set, inv.entries]
    · rw [calls]
      exact keys_nodup_of_split split inv.distinct
    · intro other inside
      rw [calls] at inside
      rw [completers, List.getElem?_set_ne (key_ne_of_split split inv.distinct other inside).symm]
      exact inv.pending other (other_mem_of_split split other inside)
  | throws before after call split map completers calls =>
    constructor
    · rw [map, completers, inv.entries]
    · rw [calls]
      exact keys_nodup_of_split split inv.distinct
    · intro other inside
      rw [calls] at inside
      rw [completers]
      exact inv.pending other (other_mem_of_split split other inside)

theorem Retryable.effect (retryable : Retryable device) (inv : Inv device) (effect : Effect device device' true) :
    Retryable device' := by
  intro entry inside
  cases effect with
  | publishes path call fresh map completers calls =>
    rw [map, List.mem_append, List.mem_singleton] at inside
    rw [completers, calls]
    rcases inside with inside | rfl
    · refine (retryable entry inside).imp (fun ⟨id, completed⟩ => ⟨id, ?_⟩) fun ⟨owner, runs, same⟩ => ?_
      · rwa [List.getElem?_append_left (inv.lt_of_mem inside)]
      · exact ⟨owner, List.mem_append_left _ runs, same⟩
    · exact .inr ⟨call, List.mem_append_right _ (List.mem_singleton_self _), fresh⟩
  | stays map completers calls =>
    rw [map] at inside
    rw [completers, calls]
    exact retryable entry inside
  | goesOn before after call stage split map completers calls =>
    rw [map] at inside
    rw [completers, calls]
    refine (retryable entry inside).imp_right fun ⟨owner, runs, same⟩ => ?_
    rw [split, List.mem_append, List.mem_cons] at runs
    rcases runs with runs | rfl | runs
    · exact ⟨owner, List.mem_append_left _ runs, same⟩
    · exact ⟨{ owner with stage := stage }, List.mem_append_right _ List.mem_cons_self, same⟩
    · exact ⟨owner, List.mem_append_right _ (List.mem_cons_of_mem _ runs), same⟩
  | returns before after call id split map completers calls =>
    rw [map] at inside
    rw [completers, calls]
    by_cases own : call.idCompleter = entry.2
    -- the future of the call that returns is completed, and every other one is as before
    · refine .inl ⟨id, ?_⟩
      rw [own, List.getElem?_set_self (inv.lt_of_mem inside)]
    · rw [List.getElem?_set_ne own]
      refine (retryable entry inside).imp_right fun ⟨owner, runs, same⟩ => ?_
      rw [split, List.mem_append, List.mem_cons] at runs
      rcases runs with runs | rfl | runs
      · exact ⟨owner, List.mem_append_left _ runs, same⟩
      · exact absurd same own
      · exact ⟨owner, List.mem_append_right _ runs, same⟩

theorem Stuck.not_retryable {path : Utf16} (stuck : Stuck path device) : ¬ Retryable device := by
  intro retryable
  obtain ⟨idCompleter, inside, pending, free⟩ := stuck
  obtain ⟨id, completed⟩ | ⟨call, runs, same⟩ := retryable _ inside
  · rw [pending] at completed
    cases completed
  · exact free call runs same

theorem Inv.stuck (inv : Inv device) (effect : Effect device device' false) : ∃ path, Stuck path device' := by
  cases effect with
  | throws before after call split map completers calls =>
    have member := call_mem_of_split split
    -- its entry stays, and no other call has its completer
    obtain ⟨⟨path, idCompleter⟩, inside, rfl⟩ := inv.exists_entry member
    refine ⟨path, call.idCompleter, by rwa [map], ?_, ?_⟩
    · rw [completers]
      exact inv.pending call member
    · rw [calls]
      exact key_ne_of_split split inv.distinct

theorem Stuck.effect {path : Utf16} (stuck : Stuck path device) (inv : Inv device) {returns : Bool}
    (effect : Effect device device' returns) : Stuck path device' := by
  obtain ⟨idCompleter, inside, pending, free⟩ := stuck
  have short : idCompleter < device.completers.length := inv.lt_of_mem inside
  cases effect with
  | publishes newPath call fresh map completers calls =>
    refine ⟨idCompleter, ?_, ?_, fun other runs => ?_⟩
    · rw [map]
      exact List.mem_append_left _ inside
    · rwa [completers, List.getElem?_append_left short]
    · rw [calls, List.mem_append, List.mem_singleton] at runs
      rcases runs with runs | rfl
      · exact free other runs
      · omega
  | stays map completers calls => exact ⟨idCompleter, by rwa [map], by rwa [completers], by rwa [calls]⟩
  | goesOn before after call stage split map completers calls =>
    refine ⟨idCompleter, by rwa [map], by rwa [completers], fun other runs => ?_⟩
    rw [calls, List.mem_append, List.mem_cons] at runs
    have others := other_mem_of_split split
    rcases runs with runs | rfl | runs
    · exact free other (others other (List.mem_append_left _ runs))
    · exact free call (call_mem_of_split split)
    · exact free other (others other (List.mem_append_right _ runs))
  | returns before after call id split map completers calls =>
    have other := free call (call_mem_of_split split)
    refine ⟨idCompleter, by rwa [map], by rwa [completers, List.getElem?_set_ne other], fun other runs => ?_⟩
    rw [calls] at runs
    exact free other (other_mem_of_split split other runs)
  | throws before after call split map completers calls =>
    refine ⟨idCompleter, by rwa [map], by rwa [completers], fun other runs => ?_⟩
    rw [calls] at runs
    exact free other (other_mem_of_split split other runs)

/-! ## Whole runs -/

variable {log : List (Event Double Error × Unit)} {deltaFileTransfer : Bool} {targetPlatform : Utf16}

theorem advance_of_step {event : Event Double Error} {out : Unit}
    (stepped : device.step fromJson event = .ok (out, device')) : device.advance fromJson event = some device' := by
  rw [step] at stepped
  split at stepped
  · rename_i advanced
    cases stepped
    exact advanced
  · cases stepped

theorem retryable_of_returns
    (runs : Runs (step fromJson) (Returns fromJson) (create deltaFileTransfer targetPlatform) log device) :
    Inv device ∧ Retryable device := by
  refine runs.preserves (P := fun device => Inv device ∧ Retryable device) ⟨inv_create _ _, nofun⟩ ?_
  rintro device event out device' ⟨inv, retryable⟩ met stepped
  obtain ⟨returns, effect, iff⟩ := advance_effect (advance_of_step stepped)
  obtain rfl := iff.mpr met
  exact ⟨inv.effect effect, retryable.effect inv effect⟩

theorem returns_or_stuck
    (runs : Runs (step fromJson) (fun _ _ => True) (create deltaFileTransfer targetPlatform) log device) :
    Inv device ∧ (Runs (step fromJson) (Returns fromJson) (create deltaFileTransfer targetPlatform) log device ∨
      ∃ path, Stuck path device) := by
  induction runs with
  | start => exact ⟨inv_create _ _, .inl .start⟩
  | next before met stepped ih =>
    obtain ⟨inv, returned | ⟨path, stuck⟩⟩ := ih
    · obtain ⟨returns, effect, iff⟩ := advance_effect (advance_of_step stepped)
      cases returns with
      | true => exact ⟨inv.effect effect, .inl (.next returned (iff.mp rfl) stepped)⟩
      | false => exact ⟨inv.effect effect, .inr (inv.stuck effect)⟩
    · obtain ⟨returns, effect, -⟩ := advance_effect (advance_of_step stepped)
      exact ⟨inv.effect effect, .inr ⟨path, stuck.effect inv effect⟩⟩

/-- Every future of the map is completed or will be, exactly if no call throws behind its entry into the map. -/
theorem retryable_iff
    (runs : Runs (step fromJson) (fun _ _ => True) (create deltaFileTransfer targetPlatform) log device) :
    device.Retryable ↔
      Runs (step fromJson) (Returns fromJson) (create deltaFileTransfer targetPlatform) log device := by
  constructor
  · intro retryable
    exact (returns_or_stuck runs).2.resolve_right fun ⟨_, stuck⟩ => stuck.not_retryable retryable
  · exact fun returned => (retryable_of_returns returned).2

/-- A package that the remote end does not have yet; a second call for it comes while it is sent. -/
def fullTransfer : List (Event Nat Unit) :=
  [.applicationPackageId (.file (units ['/', 'a']) (units ['a'])), .response 0 .null, .bytes 0 [1, 2],
    .applicationPackageId (.file (units ['/', 'a']) (units ['a'])), .response 0 .null,
    .response 0 (.string (units ['i', 'd']))]

theorem retryable_iff_fullTransfer : ∃ (log : List (Event Nat Unit × Unit)) (device : ProxiedDevice Nat),
    Runs (step fun _ => none) (fun _ _ => True) (create true (units ['i', 'o', 's'])) log device ∧
      device.completers = [some (units ['i', 'd'])] ∧
      Runs (step fun _ => none) (Returns fun _ => none) (create true (units ['i', 'o', 's'])) log device := by
  have ran : ∃ log device, run (step fun _ => none) (create true (units ['i', 'o', 's'])) fullTransfer =
      .ok (log, (device : ProxiedDevice Nat)) ∧ device.applicationPackageMap = [(units ['/', 'a'], 0)] ∧
      device.completers = [some (units ['i', 'd'])] := ⟨_, _, rfl, rfl, rfl⟩
  obtain ⟨log, device, ran, map, completers⟩ := ran
  have runs : Runs (step fun _ => none) (fun _ _ => True) (create true (units ['i', 'o', 's'])) log device :=
    runs_of_run (fun _ _ _ => trivial) ran
  refine ⟨log, device, runs, completers, (retryable_iff runs).mp fun entry inside => .inl ⟨units ['i', 'd'], ?_⟩⟩
  rw [map, List.mem_singleton] at inside
  rw [inside, completers]
  rfl

def failedTransfer : List (Event Nat Unit) :=
  [.applicationPackageId (.file (units ['/', 'a']) (units ['a'])), .bytes 0 [1, 2], .throws 0 (),
    .applicationPackageId (.file (units ['/', 'a']) (units ['a']))]

theorem not_retryable_failedTransfer :
    ¬ ∀ (log : List (Event Nat Unit × Unit)) (device : ProxiedDevice Nat),
      Runs (step fun _ => none) (fun _ _ => True) (create false (units ['i', 'o', 's'])) log device →
        device.Retryable := by
  intro always
  have ran : ∃ log device, run (step fun _ => none) (create false (units ['i', 'o', 's'])) failedTransfer =
      .ok (log, (device : ProxiedDevice Nat)) ∧ device.applicationPackageMap = [(units ['/', 'a'], 0)] ∧
      device.completers = [none] ∧ device.calls = [] := ⟨_, _, rfl, rfl, rfl, rfl⟩
  obtain ⟨log, device, ran, map, completers, calls⟩ := ran
  have runs : Runs (step fun _ => none) (fun _ _ => True) (create false (units ['i', 'o', 's'])) log device :=
    runs_of_run (fun _ _ _ => trivial) ran
  have stuck : Stuck (units ['/', 'a']) device := by
    refine ⟨0, ?_, ?_, ?_⟩
    · rw [map]
      exact List.mem_singleton_self _
    · rw [completers]
      rfl
    · rw [calls]
      exact fun call none => absurd none List.not_mem_nil
  exact stuck.not_retryable (always log device runs)

end ProxiedDevice

end FlutterZero.FlutterTools
