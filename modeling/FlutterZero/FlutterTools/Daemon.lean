import FlutterZero.Lib.Json
import FlutterZero.Lib.Machine
import FlutterZero.Lib.Trim

/-! # The daemon's message streams

`DaemonStreams.send` and `DaemonInputStreamConverter` (`daemon.dart`): a message
is a line with a JSON object in brackets, followed by as many bytes as its
`_binaryLength` says.

Strings are UTF-16 code units.  The JSON codec of the standard library is
`Lib.Json`; how it writes a floating-point number is the parameter `format`.  What
was added to the stream controllers is part of the converter's state.
-/

namespace FlutterZero.FlutterTools

open FlutterZero.Lib

variable {Double : Type}

/-- What is thrown while a chunk is processed. -/
inductive DaemonError where
  /-- `throwToolExit`: a replacement character in what was decoded. -/
  | toolExit
  /-- `FormatException`: not JSON. -/
  | format
  /-- `TypeError`: a failed cast. -/
  | type
  /-- `RangeError`: a sublist that does not exist. -/
  | range
  /-- `LateInitializationError`. -/
  | uninitialized
  /-- A failed `assert`. -/
  | assertion
deriving DecidableEq, Repr

def binaryLengthKey : Utf16 := units ['_', 'b', 'i', 'n', 'a', 'r', 'y', 'L', 'e', 'n', 'g', 't', 'h']

inductive InputStreamParseState where
  | json
  | binary
deriving DecidableEq, Repr

structure BinaryStream where
  chunks : List (List UInt8)
  closed : Bool

structure DaemonMessage (Double : Type) where
  data : List (Utf16 × Json Double)
  binary : Option BinaryStream

structure DaemonInputStreamConverter (Double : Type) where
  /-- The messages added to `_controller`. -/
  messages : List (DaemonMessage Double)
  state : InputStreamParseState
  currentBinaryStream : Option Nat
  remainingBinaryLength : Int
  bytesBuilder : List UInt8

/-- The strict `utf8.decode` of the tool.  Its decoder writes a replacement character for bytes that
    are not UTF-8, and cannot tell it from one that was sent. -/
def utf8Decode (input : List UInt8) : Except DaemonError Utf16 :=
  match decodeUtf8 input with
  | none => .error .toolExit
  | some result => if 0xFFFD ∈ result then .error .toolExit else .ok result

def isWhitespaceUnit (unit : UInt16) : Bool := isWhitespaceCode unit.toNat

def trim (text : Utf16) : Utf16 := trimBy isWhitespaceUnit text

def castStringKeyedMap : Json Double → Except DaemonError (Option (List (Utf16 × Json Double)))
  | .null => .ok none
  | .object entries => .ok (some entries)
  | _ => .error .type

/-- `List.sublist`. -/
def sublist (chunk : List UInt8) (start stop : Int) : Except DaemonError (List UInt8) :=
  if 0 ≤ start ∧ start ≤ stop ∧ stop ≤ chunk.length then .ok ((chunk.drop start.toNat).take (stop - start).toNat)
  else .error .range

namespace DaemonInputStreamConverter

def initial : DaemonInputStreamConverter Double := ⟨[], .json, none, 0, []⟩

variable (format : DoubleFormat Double)

def addMessage (value : List (Utf16 × Json Double)) (converter : DaemonInputStreamConverter Double) :
    Except DaemonError (DaemonInputStreamConverter Double) :=
  match value.lookup binaryLengthKey with
  | none | some .null => .ok { converter with messages := converter.messages ++ [⟨value, none⟩] }
  | some (.int length) =>
    .ok { converter with
      remainingBinaryLength := length.toInt
      currentBinaryStream := some converter.messages.length
      state := .binary
      messages := converter.messages ++ [⟨value, some ⟨[], false⟩⟩] }
  | some _ => .error .type

def processLine (combinedChunk : List UInt8) (converter : DaemonInputStreamConverter Double) :
    Except DaemonError (DaemonInputStreamConverter Double) := do
  let decoded ← utf8Decode combinedChunk
  let jsonString := trim decoded
  if units ['[', '{'] <+: jsonString ∧ units ['}', ']'] <:+ jsonString then
    match Json.decode format ((jsonString.drop 1).take (jsonString.length - 2)) with
    | none => .error .format
    | some json =>
      match ← castStringKeyedMap json with
      | none => return converter
      | some value => converter.addMessage value
  else return converter

def processChunkInJsonMode (chunk : List UInt8) (start : Nat) (converter : DaemonInputStreamConverter Double) :
    Except DaemonError (Nat × DaemonInputStreamConverter Double) :=
  match (chunk.drop start).findIdx? (· == 10) with
  | none =>
    .ok (chunk.length - start, { converter with bytesBuilder := converter.bytesBuilder ++ chunk.drop start })
  | some offset => do
    let combinedChunk := converter.bytesBuilder ++ (chunk.drop start).take (offset + 1)
    let converter ← processLine format combinedChunk { converter with bytesBuilder := [] }
    return (offset + 1, converter)

def modifyBinaryStream (change : BinaryStream → BinaryStream) (converter : DaemonInputStreamConverter Double) :
    Except DaemonError (DaemonInputStreamConverter Double) :=
  match converter.currentBinaryStream with
  | none => .error .uninitialized
  | some index =>
    .ok { converter with
      messages := converter.messages.modify index fun message => { message with binary := message.binary.map change } }

def addToBinaryStream (bytes : List UInt8) : BinaryStream → BinaryStream :=
  fun stream => { stream with chunks := stream.chunks ++ [bytes] }

def addBinaryChunk (chunk : List UInt8) (start : Nat) (converter : DaemonInputStreamConverter Double) :
    Except DaemonError (Nat × DaemonInputStreamConverter Double) :=
  if start = 0 ∧ (chunk.length : Int) ≤ converter.remainingBinaryLength then do
    let converter ← converter.modifyBinaryStream (addToBinaryStream chunk)
    return (chunk.length, converter)
  else do
    let chunkRemainingLength : Int := chunk.length - start
    let sizeToRead :=
      if chunkRemainingLength < converter.remainingBinaryLength then chunkRemainingLength
      else converter.remainingBinaryLength
    let bytes ← sublist chunk start (start + sizeToRead)
    let converter ← converter.modifyBinaryStream (addToBinaryStream bytes)
    return (sizeToRead.toNat, converter)

/-- The `binary` case of the loop. -/
def processChunkInBinaryMode (chunk : List UInt8) (start : Nat) (converter : DaemonInputStreamConverter Double) :
    Except DaemonError (Nat × DaemonInputStreamConverter Double) := do
  let (bytesSent, converter) ← converter.addBinaryChunk chunk start
  let converter := { converter with remainingBinaryLength := converter.remainingBinaryLength - bytesSent }
  if converter.remainingBinaryLength ≤ 0 then
    if converter.remainingBinaryLength = 0 then
      let converter ← converter.modifyBinaryStream fun stream => { stream with closed := true }
      return (bytesSent, { converter with state := .json })
    else .error .assertion
  else return (bytesSent, converter)

def processRound (chunk : List UInt8) (start : Nat) (converter : DaemonInputStreamConverter Double) :
    Except DaemonError (Nat × DaemonInputStreamConverter Double) :=
  match converter.state with
  | .json => processChunkInJsonMode format chunk start converter
  | .binary => converter.processChunkInBinaryMode chunk start

/-! ## The loop makes progress -/

variable {chunk : List UInt8} {start : Nat} {converter converter' : DaemonInputStreamConverter Double}

theorem processChunkInJsonMode_pos {processed : Nat} (inside : start < chunk.length)
    (ran : processChunkInJsonMode format chunk start converter = .ok (processed, converter')) : 0 < processed := by
  unfold processChunkInJsonMode at ran
  split at ran
  · cases ran
    omega
  · obtain ⟨_, -, returned⟩ := bind_eq_ok.mp ran
    cases returned
    exact Nat.succ_pos _

theorem modifyBinaryStream_eq_ok {change : BinaryStream → BinaryStream}
    (ran : converter.modifyBinaryStream change = .ok converter') :
    ∃ index, converter.currentBinaryStream = some index ∧ converter' = { converter with
      messages := converter.messages.modify index fun message => { message with binary := message.binary.map change } } := by
  unfold modifyBinaryStream at ran
  split at ran
  · cases ran
  · rename_i index current
    cases ran
    exact ⟨index, current, rfl⟩

theorem sublist_eq_ok {bytes : List UInt8} {start stop : Int} (ran : sublist chunk start stop = .ok bytes) :
    0 ≤ start ∧ start ≤ stop ∧ stop ≤ chunk.length := by
  unfold sublist at ran
  split at ran
  · assumption
  · cases ran

theorem addBinaryChunk_sent {sent : Nat} (inside : start < chunk.length)
    (ran : converter.addBinaryChunk chunk start = .ok (sent, converter')) :
    converter'.remainingBinaryLength = converter.remainingBinaryLength ∧
      (0 < sent ∨ (sent : Int) = converter.remainingBinaryLength) := by
  unfold addBinaryChunk at ran
  split at ran
  · rename_i whole
    obtain ⟨_, modified, returned⟩ := bind_eq_ok.mp ran
    cases returned
    obtain ⟨_, -, rfl⟩ := modifyBinaryStream_eq_ok modified
    exact ⟨rfl, Or.inl (by omega)⟩
  · obtain ⟨_, exists_, ran⟩ := bind_eq_ok.mp ran
    obtain ⟨_, modified, returned⟩ := bind_eq_ok.mp ran
    cases returned
    obtain ⟨_, -, rfl⟩ := modifyBinaryStream_eq_ok modified
    have inside' := sublist_eq_ok exists_
    refine ⟨rfl, ?_⟩
    split at inside' <;> split <;> omega

theorem processRound_progress {processed : Nat} (inside : start < chunk.length)
    (ran : processRound format chunk start converter = .ok (processed, converter')) :
    0 < processed ∨ converter.state = .binary ∧ converter'.state = .json := by
  unfold processRound at ran
  split at ran
  · exact Or.inl (processChunkInJsonMode_pos format inside ran)
  · rename_i binary
    obtain ⟨⟨sent, added⟩, adding, ran⟩ := bind_eq_ok.mp ran
    obtain ⟨kept, progress⟩ := addBinaryChunk_sent inside adding
    simp only at ran
    split at ran
    · split at ran
      · obtain ⟨_, -, returned⟩ := bind_eq_ok.mp ran
        cases returned
        exact Or.inr ⟨binary, rfl⟩
      · cases ran
    · cases ran
      left
      omega

/-- The loop of `_processChunk`. -/
def processChunkFrom (chunk : List UInt8) (start : Nat) (converter : DaemonInputStreamConverter Double) :
    Except DaemonError (DaemonInputStreamConverter Double) :=
  if _inside : start < chunk.length then
    match _ran : processRound format chunk start converter with
    | .error error => .error error
    | .ok (processed, converter') => processChunkFrom chunk (start + processed) converter'
  else .ok converter
termination_by 2 * (chunk.length - start) + if converter.state = .binary then 1 else 0
decreasing_by
  rcases processRound_progress format _inside _ran with positive | ⟨before, after⟩
  · split <;> split <;> omega
  · rw [if_pos before, after, if_neg (by decide)]
    omega

def processChunk (converter : DaemonInputStreamConverter Double) (chunk : List UInt8) :
    Except DaemonError (DaemonInputStreamConverter Double) :=
  processChunkFrom format chunk 0 converter

def processChunks (chunks : List (List UInt8)) : Except DaemonError (DaemonInputStreamConverter Double) :=
  chunks.foldlM (processChunk format) initial

end DaemonInputStreamConverter

/-- What `DaemonStreams.send` adds to the output sink; nothing when `json.encode` throws. -/
def send (format : DoubleFormat Double) (message : List (Utf16 × Json Double)) (binary : Option (List UInt8)) :
    Option (List (List UInt8)) := do
  let message :=
    match binary with
    | none => message
    | some bytes => Json.insert binaryLengthKey (.int (Int64.ofNat bytes.length)) message
  let text ← (Json.object message).encode format
  return encodeUtf8 (0x5B :: (text ++ [0x5D, 0x0A])) :: binary.toList

end FlutterZero.FlutterTools
