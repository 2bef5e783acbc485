import FlutterZero.ClientWrapper.ByteBufferStreams
import FlutterZero.ClientWrapper.EncodableValue

/-! # The standard codec

`StandardCodecSerializer`, `StandardMessageCodec` and `StandardMethodCodec`
(`standard_codec.cc`).  Every value starts with a byte for its type; numbers of
more than one byte in vectors, and doubles, are aligned relative to the start of
the stream.
-/

namespace FlutterZero.ClientWrapper

open FlutterZero.Lib

inductive EncodedType where
  | null
  | true
  | false
  | int32
  | int64
  | largeInt
  | float64
  | string
  | uint8List
  | int32List
  | int64List
  | float64List
  | list
  | map
  | float32List
deriving DecidableEq, Repr

namespace EncodedType

def toByte : EncodedType → UInt8
  | .null => 0
  | .true => 1
  | .false => 2
  | .int32 => 3
  | .int64 => 4
  | .largeInt => 5
  | .float64 => 6
  | .string => 7
  | .uint8List => 8
  | .int32List => 9
  | .int64List => 10
  | .float64List => 11
  | .list => 12
  | .map => 13
  | .float32List => 14

/-- `static_cast<EncodedType>`, none for a value that is not one of the enumerators. -/
def ofByte (byte : UInt8) : Option EncodedType :=
  [EncodedType.null, .true, .false, .int32, .int64, .largeInt, .float64, .string, .uint8List,
    .int32List, .int64List, .float64List, .list, .map, .float32List][byte.toNat]?

@[simp] theorem ofByte_toByte (type : EncodedType) : ofByte type.toByte = some type := by
  cases type <;> rfl

end EncodedType

def encodedTypeForValue : EncodableValue → Except Assertion EncodedType
  | .null => .ok .null
  | .bool value => .ok (if value then .true else .false)
  | .int32 _ => .ok .int32
  | .int64 _ => .ok .int64
  | .double _ => .ok .float64
  | .string _ => .ok .string
  | .uint8Vector _ => .ok .uint8List
  | .int32Vector _ => .ok .int32List
  | .int64Vector _ => .ok .int64List
  | .doubleVector _ => .ok .float64List
  | .list _ => .ok .list
  | .map _ => .ok .map
  | .custom _ => .error .unhandledType
  | .floatVector _ => .ok .float32List

namespace StandardCodecSerializer

/-! ## Writing -/

def writeSize (size : Nat) (stream : ByteBufferStreamWriter) : Except Assertion ByteBufferStreamWriter :=
  if size < 254 then .ok (stream.writeByte (.ofNat size))
  else if size ≤ 0xffff then (stream.writeByte 254).writeBytes (toLittleEndian 2 size)
  else (stream.writeByte 255).writeBytes (toLittleEndian 4 size)

def writeVector {w : Nat} (vector : List (BitVec w)) (stream : ByteBufferStreamWriter) :
    Except Assertion ByteBufferStreamWriter := do
  let count := vector.length
  let stream ← writeSize count stream
  if count = 0 then return stream
  let typeSize := w / 8
  let stream := if typeSize > 1 then stream.writeAlignment typeSize else stream
  stream.writeBytes (vector.flatMap bytesOf)

mutual

def writeValue (value : EncodableValue) (stream : ByteBufferStreamWriter) :
    Except Assertion ByteBufferStreamWriter := do
  let type ← encodedTypeForValue value
  let stream := stream.writeByte type.toByte
  match value with
  | .null | .bool _ => return stream
  | .int32 value => stream.writeInt32 value
  | .int64 value => stream.writeInt64 value
  | .double value => (stream.writeAlignment 8).writeDouble value
  | .string value => do
    let size := value.length
    let stream ← writeSize size stream
    if size > 0 then stream.writeBytes value else return stream
  | .uint8Vector value => writeVector value stream
  | .int32Vector value => writeVector value stream
  | .int64Vector value => writeVector value stream
  | .doubleVector value => writeVector value stream
  | .list list => do
    let stream ← writeSize list.length stream
    writeItems list stream
  | .map map => do
    let stream ← writeSize map.length stream
    writePairs map stream
  -- reports the unhandled type
  | .custom _ => return stream
  | .floatVector value => writeVector value stream

def writeItems : EncodableList → ByteBufferStreamWriter → Except Assertion ByteBufferStreamWriter
  | [], stream => return stream
  | item :: rest, stream => do
    let stream ← writeValue item stream
    writeItems rest stream

def writePairs : EncodableMap → ByteBufferStreamWriter → Except Assertion ByteBufferStreamWriter
  | [], stream => return stream
  | (key, value) :: rest, stream => do
    let stream ← writeValue key stream
    let stream ← writeValue value stream
    writePairs rest stream

end

/-! ## Reading -/

def readSize (stream : ByteBufferStreamReader) : Nat × ByteBufferStreamReader :=
  let (byte, stream) := stream.readByte
  if byte < 254 then (byte.toNat, stream)
  else if byte = 254 then
    let (value, stream) := stream.readNumber 16
    (value.toNat, stream)
  else
    let (value, stream) := stream.readNumber 32
    (value.toNat, stream)

def readVector (w : Nat) (stream : ByteBufferStreamReader) : List (BitVec w) × ByteBufferStreamReader :=
  let (count, stream) := readSize stream
  let typeSize := w / 8
  let stream := if typeSize > 1 then stream.readAlignment typeSize else stream
  let (buffer, stream) := stream.readBytes (List.replicate (count * typeSize) 0)
  ((pieces typeSize count buffer).map (ofBytes w), stream)

abbrev ReadsValue := ByteBufferStreamReader → Option (EncodableValue × ByteBufferStreamReader)

def readItems (readValue : ReadsValue) :
    Nat → ByteBufferStreamReader → Option (EncodableList × ByteBufferStreamReader)
  | 0, stream => some ([], stream)
  | length + 1, stream => do
    let (item, stream) ← readValue stream
    let (rest, stream) ← readItems readValue length stream
    return (item :: rest, stream)

def readPairs (readValue : ReadsValue) :
    Nat → EncodableMap → ByteBufferStreamReader → Option (EncodableMap × ByteBufferStreamReader)
  | 0, map, stream => some (map, stream)
  | length + 1, map, stream => do
    let (key, stream) ← readValue stream
    let (value, stream) ← readValue stream
    readPairs readValue length (map.emplace key value) stream

/-- `ReadValueOfType`, given how it reads the values inside. -/
def readValueOfType (readValue : ReadsValue) (type : UInt8) (stream : ByteBufferStreamReader) :
    Option (EncodableValue × ByteBufferStreamReader) :=
  match EncodedType.ofByte type with
  | some .null => some (.null, stream)
  | some .true => some (.bool true, stream)
  | some .false => some (.bool false, stream)
  | some .int32 => some (stream.readInt32.map .int32 id)
  | some .int64 => some (stream.readInt64.map .int64 id)
  | some .float64 => some ((stream.readAlignment 8).readDouble.map .double id)
  | some .largeInt | some .string =>
    let (size, stream) := readSize stream
    some ((stream.readBytes (List.replicate size 0)).map .string id)
  | some .uint8List => some ((readVector 8 stream).map .uint8Vector id)
  | some .int32List => some ((readVector 32 stream).map .int32Vector id)
  | some .int64List => some ((readVector 64 stream).map .int64Vector id)
  | some .float64List => some ((readVector 64 stream).map .doubleVector id)
  | some .list => do
    let (length, stream) := readSize stream
    let (list, stream) ← readItems readValue length stream
    return (.list list, stream)
  | some .map => do
    let (length, stream) := readSize stream
    let (map, stream) ← readPairs readValue length [] stream
    return (.map map, stream)
  | some .float32List => some ((readVector 32 stream).map .floatVector id)
  -- reports the unknown type
  | none => some (.null, stream)

/-- `ReadValue`, none if its calls are nested deeper than `depth`. -/
def readValueWithin : Nat → ReadsValue
  | 0, _ => none
  | depth + 1, stream =>
    let (type, stream) := stream.readByte
    readValueOfType (readValueWithin depth) type stream

/-! ## Reading always ends

A value that contains others has at least the byte for its type, so that calls
are nested no deeper than there are bytes. -/

def Few (bound : Nat) (stream : ByteBufferStreamReader) : Prop :=
  stream.bytes.length - stream.location < bound

theorem Few.advances {bound : Nat} {stream stream' : ByteBufferStreamReader} (few : Few bound stream)
    (advances : stream.Advances stream') : Few bound stream' := by
  obtain ⟨bytes, moved⟩ := advances
  unfold Few at few ⊢
  rw [bytes]
  omega

def EndsBelow (readValue : ReadsValue) (bound : Nat) : Prop :=
  ∀ stream, Few bound stream → ∃ value stream', readValue stream = some (value, stream') ∧
    stream.Advances stream'

theorem readSize_advances (stream : ByteBufferStreamReader) : stream.Advances (readSize stream).2 := by
  have first := stream.readByte_advances
  unfold readSize
  simp only
  split
  · exact first
  · split
    · exact first.trans (ByteBufferStreamReader.readNumber_advances 16 _)
    · exact first.trans (ByteBufferStreamReader.readNumber_advances 32 _)

theorem readVector_advances (w : Nat) (stream : ByteBufferStreamReader) :
    stream.Advances (readVector w stream).2 := by
  have sized := readSize_advances stream
  unfold readVector
  simp only
  split
  · exact (sized.trans (ByteBufferStreamReader.readAlignment_advances _ _)).trans
      (ByteBufferStreamReader.readBytes_advances _ _)
  · exact sized.trans (ByteBufferStreamReader.readBytes_advances _ _)

section

variable {readValue : ReadsValue} {bound : Nat} {stream : ByteBufferStreamReader}

theorem readItems_ends (ends : EndsBelow readValue bound) (length : Nat) (few : Few bound stream) :
    ∃ list stream', readItems readValue length stream = some (list, stream') ∧ stream.Advances stream' := by
  induction length generalizing stream with
  | zero => exact ⟨[], stream, rfl, .refl stream⟩
  | succ length ih =>
    obtain ⟨item, stream₁, readItem, advances₁⟩ := ends stream few
    obtain ⟨rest, stream₂, readRest, advances₂⟩ := ih (few.advances advances₁)
    exact ⟨item :: rest, stream₂, by simp [readItems, readItem, readRest], advances₁.trans advances₂⟩

theorem readPairs_ends (ends : EndsBelow readValue bound) (length : Nat) (map : EncodableMap)
    (few : Few bound stream) : ∃ map' stream', readPairs readValue length map stream = some (map', stream') ∧
      stream.Advances stream' := by
  induction length generalizing stream map with
  | zero => exact ⟨map, stream, rfl, .refl stream⟩
  | succ length ih =>
    obtain ⟨key, stream₁, readKey, advances₁⟩ := ends stream few
    have few₁ := few.advances advances₁
    obtain ⟨value, stream₂, readEntry, advances₂⟩ := ends stream₁ few₁
    obtain ⟨map', stream₃, readRest, advances₃⟩ := ih (map.emplace key value) (few₁.advances advances₂)
    exact ⟨map', stream₃, by simp [readPairs, readKey, readEntry, readRest],
      (advances₁.trans advances₂).trans advances₃⟩

theorem readValueOfType_ends (ends : EndsBelow readValue bound) (type : UInt8) (few : Few bound stream) :
    ∃ value stream', readValueOfType readValue type stream = some (value, stream') ∧
      stream.Advances stream' := by
  have sized := readSize_advances stream
  have number := fun w => ByteBufferStreamReader.readNumber_advances w stream
  have text := sized.trans (ByteBufferStreamReader.readBytes_advances _ (List.replicate (readSize stream).1 0))
  have vector := fun w => readVector_advances w stream
  cases found : EncodedType.ofByte type with
  | none => exact ⟨_, _, by simp only [readValueOfType, found]; rfl, .refl stream⟩
  | some encodedType =>
    simp only [readValueOfType, found]
    cases encodedType with
    | null | true | false => exact ⟨_, _, rfl, .refl stream⟩
    | int32 => exact ⟨_, _, rfl, number 32⟩
    | int64 => exact ⟨_, _, rfl, number 64⟩
    | float64 =>
      exact ⟨_, _, rfl, (stream.readAlignment_advances 8).trans
        (ByteBufferStreamReader.readNumber_advances 64 _)⟩
    | largeInt | string => exact ⟨_, _, rfl, text⟩
    | uint8List => exact ⟨_, _, rfl, vector 8⟩
    | int32List | float32List => exact ⟨_, _, rfl, vector 32⟩
    | int64List | float64List => exact ⟨_, _, rfl, vector 64⟩
    | list =>
      obtain ⟨list, stream', read, advances⟩ := readItems_ends ends (readSize stream).1 (few.advances sized)
      exact ⟨.list list, stream', by simp [read], sized.trans advances⟩
    | map =>
      obtain ⟨map, stream', read, advances⟩ := readPairs_ends ends (readSize stream).1 [] (few.advances sized)
      exact ⟨.map map, stream', by simp [read], sized.trans advances⟩

end

theorem readValueWithin_ends (depth : Nat) : EndsBelow (readValueWithin depth) depth := by
  induction depth with
  | zero =>
    intro stream few
    exact absurd few (Nat.not_lt_zero _)
  | succ depth ih =>
    intro stream few
    cases found : stream.bytes[stream.location]? with
    | none =>
      -- the stream is exhausted, and a byte read from it is that of null
      have read : stream.readByte = (0, stream) := by simp [ByteBufferStreamReader.readByte, found]
      exact ⟨.null, stream, by simp only [readValueWithin, read]; rfl, .refl stream⟩
    | some type =>
      have read : stream.readByte = (type, { stream with location := stream.location + 1 }) := by
        simp [ByteBufferStreamReader.readByte, found]
      have inside : stream.location < stream.bytes.length := (List.getElem?_eq_some_iff.mp found).1
      have fewer : Few depth { stream with location := stream.location + 1 } := by
        unfold Few at few ⊢
        show stream.bytes.length - (stream.location + 1) < depth
        omega
      obtain ⟨value, stream', readRest, advances⟩ := readValueOfType_ends ih type fewer
      have first := stream.readByte_advances
      rw [read] at first
      exact ⟨value, stream', by simp only [readValueWithin, read, readRest], first.trans advances⟩

theorem readValueWithin_isSome (stream : ByteBufferStreamReader) :
    (readValueWithin (stream.bytes.length - stream.location + 1) stream).isSome := by
  obtain ⟨value, stream', read, -⟩ := readValueWithin_ends _ stream (Nat.lt_succ_self _)
  rw [read]
  rfl

def readValue (stream : ByteBufferStreamReader) : EncodableValue × ByteBufferStreamReader :=
  (readValueWithin (stream.bytes.length - stream.location + 1) stream).get (readValueWithin_isSome stream)

end StandardCodecSerializer

/-! ## Messages -/

namespace StandardMessageCodec

open StandardCodecSerializer

def encodeMessage (message : EncodableValue) : Except Assertion (List UInt8) := do
  let stream ← writeValue message ⟨[]⟩
  return stream.bytes

def decodeMessage (binaryMessage : List UInt8) : EncodableValue :=
  if binaryMessage.isEmpty then .null else (readValue ⟨binaryMessage, 0⟩).1

end StandardMessageCodec

/-! ## Method calls -/

structure MethodCall where
  methodName : List UInt8
  arguments : Option EncodableValue

namespace StandardMethodCodec

open StandardCodecSerializer

def encodeMethodCall (methodCall : MethodCall) : Except Assertion (List UInt8) := do
  let stream ← writeValue (.string methodCall.methodName) ⟨[]⟩
  let stream ← writeValue (methodCall.arguments.getD .null) stream
  return stream.bytes

def decodeMethodCall (message : List UInt8) : Option MethodCall :=
  let (methodNameValue, stream) := readValue ⟨message, 0⟩
  match methodNameValue with
  | .string methodName =>
    let (arguments, _) := readValue stream
    some ⟨methodName, some arguments⟩
  | _ => none

end StandardMethodCodec

end FlutterZero.ClientWrapper
