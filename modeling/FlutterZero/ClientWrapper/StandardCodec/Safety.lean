import FlutterZero.ClientWrapper.StandardCodec.Layout

/-! # Reading untrusted bytes

The reader of `byte_buffer_streams.h` one level further down: a pointer into
memory, of which only the bytes of the buffer may be read, and a `size_t` that
wraps around.  A read outside the buffer is a fault.

* `readItems_agrees` — on a buffer of any content the serializer reads what the
  model over byte strings reads, so without a fault;
* `readValueWithin_depth` — the value is nested no deeper than there are bytes.
-/

namespace FlutterZero.ClientWrapper

open FlutterZero.Lib

/-! ## Memory -/

/-- A buffer in memory.  No object is larger than `PTRDIFF_MAX`. -/
structure Buffer where
  bytes : List UInt8
  fits : bytes.length < 2 ^ 63

inductive Fault where
  | outOfBounds (index : Nat)
  | tooDeep
deriving DecidableEq, Repr

namespace Buffer

def size (buffer : Buffer) : Nat := buffer.bytes.length

/-- `bytes_[index]`. -/
def load (buffer : Buffer) (index : Nat) : Except Fault UInt8 :=
  match buffer.bytes[index]? with
  | some byte => .ok byte
  | none => .error (.outOfBounds index)

/-- `memcpy` of so many bytes from `&bytes_[index]`. -/
def copy (buffer : Buffer) (index : Nat) : Nat → Except Fault (List UInt8)
  | 0 => .ok []
  | length + 1 => do
    let byte ← buffer.load index
    let rest ← buffer.copy (index + 1) length
    return byte :: rest

theorem load_of_lt {buffer : Buffer} {index : Nat} (inside : index < buffer.bytes.length) :
    buffer.load index = .ok buffer.bytes[index] := by
  simp [load, List.getElem?_eq_getElem inside]

theorem copy_of_le {buffer : Buffer} {index length : Nat} (inside : index + length ≤ buffer.bytes.length) :
    buffer.copy index length = .ok ((buffer.bytes.drop index).take length) := by
  induction length generalizing index with
  | zero => simp [copy]
  | succ length ih =>
    have first : index < buffer.bytes.length := by omega
    rw [copy, load_of_lt first, ok_bind, ih (by omega), ok_bind, List.drop_eq_getElem_cons first,
      List.take_succ_cons]
    rfl

end Buffer

/-- A number kept in a `size_t`. -/
def sizeT (number : Nat) : Nat := number % 2 ^ 64

theorem sizeT_of_lt {number : Nat} (small : number < 2 ^ 64) : sizeT number = number := Nat.mod_eq_of_lt small

/-! ## The reader over memory -/

/-- `ByteBufferStreamReader`, as it is in memory. -/
structure MemoryReader where
  buffer : Buffer
  location : Nat

namespace MemoryReader

def readByte (stream : MemoryReader) : Except Fault (UInt8 × MemoryReader) :=
  if stream.location ≥ stream.buffer.size then .ok (0, stream)
  else do
    let byte ← stream.buffer.load stream.location
    return (byte, { stream with location := sizeT (stream.location + 1) })

def readBytes (stream : MemoryReader) (buffer : List UInt8) : Except Fault (List UInt8 × MemoryReader) :=
  if sizeT (stream.location + buffer.length) > stream.buffer.size then .ok (buffer, stream)
  else do
    let bytes ← stream.buffer.copy stream.location buffer.length
    return (bytes, { stream with location := sizeT (stream.location + buffer.length) })

def readAlignment (stream : MemoryReader) (alignment : Nat) : MemoryReader :=
  let mod := stream.location % alignment
  if mod ≠ 0 then { stream with location := sizeT (stream.location + (alignment - mod)) } else stream

def readNumber (w : Nat) (stream : MemoryReader) : Except Fault (BitVec w × MemoryReader) := do
  let (buffer, stream) ← stream.readBytes (List.replicate (w / 8) 0)
  return (ofBytes w buffer, stream)

def readSize (stream : MemoryReader) : Except Fault (Nat × MemoryReader) := do
  let (byte, stream) ← stream.readByte
  if byte < 254 then return (byte.toNat, stream)
  else if byte = 254 then
    let (value, stream) ← stream.readNumber 16
    return (value.toNat, stream)
  else
    let (value, stream) ← stream.readNumber 32
    return (value.toNat, stream)

def readVector (w : Nat) (stream : MemoryReader) : Except Fault (List (BitVec w) × MemoryReader) := do
  let (count, stream) ← stream.readSize
  let typeSize := w / 8
  let stream := if typeSize > 1 then stream.readAlignment typeSize else stream
  let (buffer, stream) ← stream.readBytes (List.replicate (sizeT (count * typeSize)) 0)
  return ((pieces typeSize count buffer).map (ofBytes w), stream)

abbrev ReadsMemory := MemoryReader → Except Fault (EncodableValue × MemoryReader)

def readItems (readValue : ReadsMemory) : Nat → MemoryReader → Except Fault (EncodableList × MemoryReader)
  | 0, stream => .ok ([], stream)
  | length + 1, stream => do
    let (item, stream) ← readValue stream
    let (rest, stream) ← readItems readValue length stream
    return (item :: rest, stream)

def readPairs (readValue : ReadsMemory) :
    Nat → EncodableMap → MemoryReader → Except Fault (EncodableMap × MemoryReader)
  | 0, map, stream => .ok (map, stream)
  | length + 1, map, stream => do
    let (key, stream) ← readValue stream
    let (value, stream) ← readValue stream
    readPairs readValue length (map.emplace key value) stream

def readValueOfType (readValue : ReadsMemory) (type : UInt8) (stream : MemoryReader) :
    Except Fault (EncodableValue × MemoryReader) :=
  match EncodedType.ofByte type with
  | some .null => .ok (.null, stream)
  | some .true => .ok (.bool true, stream)
  | some .false => .ok (.bool false, stream)
  | some .int32 => do
    let (value, stream) ← stream.readNumber 32
    return (.int32 value, stream)
  | some .int64 => do
    let (value, stream) ← stream.readNumber 64
    return (.int64 value, stream)
  | some .float64 => do
    let (value, stream) ← (stream.readAlignment 8).readNumber 64
    return (.double value, stream)
  | some .largeInt | some .string => do
    let (size, stream) ← stream.readSize
    let (value, stream) ← stream.readBytes (List.replicate size 0)
    return (.string value, stream)
  | some .uint8List => do
    let (value, stream) ← stream.readVector 8
    return (.uint8Vector value, stream)
  | some .int32List => do
    let (value, stream) ← stream.readVector 32
    return (.int32Vector value, stream)
  | some .int64List => do
    let (value, stream) ← stream.readVector 64
    return (.int64Vector value, stream)
  | some .float64List => do
    let (value, stream) ← stream.readVector 64
    return (.doubleVector value, stream)
  | some .list => do
    let (length, stream) ← stream.readSize
    let (list, stream) ← readItems readValue length stream
    return (.list list, stream)
  | some .map => do
    let (length, stream) ← stream.readSize
    let (map, stream) ← readPairs readValue length [] stream
    return (.map map, stream)
  | some .float32List => do
    let (value, stream) ← stream.readVector 32
    return (.floatVector value, stream)
  | none => .ok (.null, stream)

/-- `ReadValue`, a fault if its calls are nested deeper than `depth`. -/
def readValueWithin : Nat → ReadsMemory
  | 0, _ => .error .tooDeep
  | depth + 1, stream => do
    let (type, stream) ← stream.readByte
    readValueOfType (readValueWithin depth) type stream

def readValues (depth : Nat) : Nat → MemoryReader → Except Fault (EncodableList × MemoryReader) :=
  readItems (readValueWithin depth)

/-! ## Both readers agree

The location never passes the multiple of eight that follows the end of the
buffer, so that no sum of it and a length wraps around. -/

def view (stream : MemoryReader) : ByteBufferStreamReader := ⟨stream.buffer.bytes, stream.location⟩

def Bounded (stream : MemoryReader) : Prop := stream.location ≤ alignUp 8 stream.buffer.size

/-- The call returns what the model over byte strings returns. -/
def Agrees {α : Type} (stream : MemoryReader) (result : Except Fault (α × MemoryReader))
    (expected : α × ByteBufferStreamReader) : Prop :=
  ∃ stream', result = .ok (expected.1, stream') ∧ stream'.buffer = stream.buffer ∧ stream'.Bounded ∧
    stream'.view = expected.2

section

variable {α β : Type} {stream : MemoryReader}

theorem Agrees.pure (value : α) (bounded : stream.Bounded) :
    stream.Agrees (.ok (value, stream)) (value, stream.view) :=
  ⟨stream, rfl, rfl, bounded, rfl⟩

theorem Agrees.bind {result : Except Fault (α × MemoryReader)} {expected : α × ByteBufferStreamReader}
    {next : α × MemoryReader → Except Fault (β × MemoryReader)} {expected' : β × ByteBufferStreamReader}
    (first : stream.Agrees result expected)
    (second : ∀ stream' : MemoryReader, stream'.Bounded → stream'.view = expected.2 →
      stream'.Agrees (next (expected.1, stream')) expected') :
    stream.Agrees (result >>= next) expected' := by
  obtain ⟨stream', returned, buffer, bounded, view⟩ := first
  obtain ⟨stream'', returned', buffer', bounded', view'⟩ := second stream' bounded view
  refine ⟨stream'', ?_, buffer'.trans buffer, bounded', view'⟩
  rw [returned, ok_bind, returned']

theorem Agrees.map {result : Except Fault (α × MemoryReader)} {expected : α × ByteBufferStreamReader}
    (f : α → β) (agrees : stream.Agrees result expected) :
    stream.Agrees (do let (value, stream) ← result; return (f value, stream)) (expected.map f id) := by
  refine agrees.bind fun stream' bounded view => ?_
  obtain ⟨value, reader⟩ := expected
  cases view
  exact .pure (f value) bounded

end

variable {alignment : Nat}

theorem alignUp_le {offset bound : Nat} (positive : 0 < alignment) (multiple : alignment ∣ bound)
    (below : offset ≤ bound) : alignUp alignment offset ≤ bound := by
  unfold alignUp
  split
  · rename_i unaligned
    obtain ⟨count, rfl⟩ := multiple
    have decomposed := Nat.mod_add_div offset alignment
    have remainder := Nat.mod_lt offset positive
    -- the quotient is smaller than the bound's, so the next multiple still is at most the bound
    have quotient : offset / alignment + 1 ≤ count := by
      by_contra larger
      have := Nat.mul_le_mul_left alignment (show count ≤ offset / alignment by omega)
      omega
    have := Nat.mul_le_mul_left alignment quotient
    rw [Nat.mul_add] at this
    omega
  · exact below

theorem alignUp_lt (alignment offset : Nat) (positive : 0 < alignment) :
    alignUp alignment offset < offset + alignment := by
  unfold alignUp
  split <;> omega

theorem dvd_alignUp (positive : 0 < alignment) (offset : Nat) : alignment ∣ alignUp alignment offset := by
  unfold alignUp
  split
  · have decomposed := Nat.mod_add_div offset alignment
    have remainder := Nat.mod_lt offset positive
    refine ⟨offset / alignment + 1, ?_⟩
    rw [Nat.mul_add]
    omega
  · rename_i aligned
    exact Nat.dvd_of_mod_eq_zero (not_not.mp aligned)

variable {stream : MemoryReader}

theorem Bounded.small (bounded : stream.Bounded) : stream.location < 2 ^ 63 + 8 := by
  have fits := stream.buffer.fits
  have := alignUp_lt 8 stream.buffer.size (by decide)
  unfold Bounded at bounded
  unfold Buffer.size at *
  omega

theorem bounded_of_le (inside : stream.location ≤ stream.buffer.size) : stream.Bounded := by
  unfold Bounded alignUp
  split <;> omega

theorem readByte_agrees (bounded : stream.Bounded) : stream.Agrees stream.readByte stream.view.readByte := by
  unfold readByte
  split
  · rename_i exhausted
    have absent : stream.buffer.bytes[stream.location]? = none := List.getElem?_eq_none exhausted
    have expected : stream.view.readByte = (0, stream.view) := by
      simp [ByteBufferStreamReader.readByte, view, absent]
    rw [expected]
    exact .pure 0 bounded
  · rename_i inside
    have inside : stream.location < stream.buffer.bytes.length := not_le.mp inside
    have expected : stream.view.readByte =
        (stream.buffer.bytes[stream.location], { stream.view with location := stream.location + 1 }) := by
      simp [ByteBufferStreamReader.readByte, view, List.getElem?_eq_getElem inside]
    have fits := stream.buffer.fits
    rw [Buffer.load_of_lt inside, ok_bind, sizeT_of_lt (by omega), expected]
    exact ⟨_, rfl, rfl, bounded_of_le inside, rfl⟩

theorem readBytes_agrees (bounded : stream.Bounded) {buffer : List UInt8} (short : buffer.length < 2 ^ 36) :
    stream.Agrees (stream.readBytes buffer) (stream.view.readBytes buffer) := by
  have small := bounded.small
  have unwrapped : sizeT (stream.location + buffer.length) = stream.location + buffer.length :=
    sizeT_of_lt (by omega)
  unfold readBytes ByteBufferStreamReader.readBytes
  rw [unwrapped]
  by_cases outside : stream.location + buffer.length > stream.buffer.size
  · rw [if_pos outside, if_pos (show stream.view.location + buffer.length > stream.view.bytes.length from outside)]
    exact .pure buffer bounded
  · rw [if_neg outside, if_neg (show ¬ stream.view.location + buffer.length > stream.view.bytes.length from outside),
      Buffer.copy_of_le (not_lt.mp outside), ok_bind]
    exact ⟨_, rfl, rfl, bounded_of_le (not_lt.mp outside), rfl⟩

theorem readAlignment_agrees (bounded : stream.Bounded) (positive : 0 < alignment) (divides : alignment ∣ 8) :
    (stream.readAlignment alignment).Bounded ∧ (stream.readAlignment alignment).buffer = stream.buffer ∧
    (stream.readAlignment alignment).view = stream.view.readAlignment alignment := by
  have small := bounded.small
  have at_most : alignment ≤ 8 := Nat.le_of_dvd (by decide) divides
  have limit : alignUp alignment stream.location ≤ alignUp 8 stream.buffer.size :=
    alignUp_le positive (divides.trans (dvd_alignUp (by decide) _)) bounded
  have unwrapped : sizeT (alignUp alignment stream.location) = alignUp alignment stream.location :=
    sizeT_of_lt (by have := alignUp_lt alignment stream.location positive; omega)
  by_cases aligned : stream.location % alignment = 0
  · have unmoved : stream.readAlignment alignment = stream := by simp [readAlignment, aligned]
    rw [unmoved]
    exact ⟨bounded, rfl, by simp [ByteBufferStreamReader.readAlignment, view, aligned]⟩
  · have moved : stream.readAlignment alignment =
        { stream with location := alignUp alignment stream.location } := by
      conv_rhs => rw [← unwrapped]
      simp [readAlignment, alignUp, aligned]
    rw [moved]
    exact ⟨limit, rfl, by simp [ByteBufferStreamReader.readAlignment, view, alignUp, aligned]⟩

theorem readNumber_agrees (w : Nat) (narrow : w ≤ 64) (bounded : stream.Bounded) :
    stream.Agrees (stream.readNumber w) (stream.view.readNumber w) :=
  (readBytes_agrees bounded (by simp only [List.length_replicate]; omega)).map (ofBytes w)

theorem readSize_agrees (bounded : stream.Bounded) :
    stream.Agrees stream.readSize (StandardCodecSerializer.readSize stream.view) := by
  refine (readByte_agrees bounded).bind fun stream' bounded' viewed => ?_
  unfold StandardCodecSerializer.readSize
  simp only [← viewed]
  split
  · exact .pure _ bounded'
  · split
    · exact (readNumber_agrees 16 (by decide) bounded').map BitVec.toNat
    · exact (readNumber_agrees 32 (by decide) bounded').map BitVec.toNat

theorem readSize_lt (stream : ByteBufferStreamReader) : (StandardCodecSerializer.readSize stream).1 < 2 ^ 32 := by
  unfold StandardCodecSerializer.readSize
  simp only
  split
  · exact (UInt8.toNat_lt _).trans (by decide)
  · split
    · exact (BitVec.isLt _).trans (by decide)
    · exact BitVec.isLt _

theorem readVector_agrees {w : Nat} (known : w = 8 ∨ w = 32 ∨ w = 64) (bounded : stream.Bounded) :
    stream.Agrees (stream.readVector w) (StandardCodecSerializer.readVector w stream.view) := by
  have size := readSize_lt stream.view
  refine (readSize_agrees bounded).bind fun stream' bounded' viewed => ?_
  unfold StandardCodecSerializer.readVector
  simp only [← viewed]
  generalize (StandardCodecSerializer.readSize stream.view).1 = count at *
  have width : w / 8 ≤ 8 := by omega
  have product : count * (w / 8) ≤ count * 8 := Nat.mul_le_mul_left count width
  have bytes : sizeT (count * (w / 8)) = count * (w / 8) := sizeT_of_lt (by omega)
  have short : (List.replicate (count * (w / 8)) (0 : UInt8)).length < 2 ^ 36 := by
    rw [List.length_replicate]
    omega
  have divides : w / 8 ∣ 8 := by rcases known with rfl | rfl | rfl <;> decide
  rw [bytes]
  split
  · rename_i wide
    obtain ⟨bounded'', buffer, aligned⟩ := readAlignment_agrees bounded' (by omega) divides
    rw [← aligned]
    obtain ⟨last, returned, same, ends, viewed'⟩ := (readBytes_agrees bounded'' short).map
      fun buffer => (pieces (w / 8) count buffer).map (ofBytes w)
    exact ⟨last, returned, same.trans buffer, ends, viewed'⟩
  · exact (readBytes_agrees bounded' short).map fun buffer => (pieces (w / 8) count buffer).map (ofBytes w)

section

variable {readMemory : ReadsMemory} {readValue : StandardCodecSerializer.ReadsValue}

/-- Whenever the model over byte strings reads a value, the same is read from memory. -/
def ReadsSame (readMemory : ReadsMemory) (readValue : StandardCodecSerializer.ReadsValue) : Prop :=
  ∀ stream : MemoryReader, stream.Bounded → ∀ expected, readValue stream.view = some expected →
    stream.Agrees (readMemory stream) expected

variable {stream : MemoryReader}

theorem readItems_agrees (same : ReadsSame readMemory readValue) {length : Nat}
    (bounded : stream.Bounded) {expected : EncodableList × ByteBufferStreamReader}
    (read : StandardCodecSerializer.readItems readValue length stream.view = some expected) :
    stream.Agrees (readItems readMemory length stream) expected := by
  induction length generalizing stream expected with
  | zero =>
    cases read
    exact .pure [] bounded
  | succ length ih =>
    simp only [StandardCodecSerializer.readItems, Option.bind_eq_bind, Option.bind_eq_some_iff] at read
    obtain ⟨first, readFirst, rest, readRest, read⟩ := read
    cases read
    refine (same stream bounded first readFirst).bind fun stream' bounded' viewed => ?_
    rw [← viewed] at readRest
    exact (ih bounded' readRest).map (first.1 :: ·)

theorem readPairs_agrees (same : ReadsSame readMemory readValue) {length : Nat} {map : EncodableMap}
    (bounded : stream.Bounded) {expected : EncodableMap × ByteBufferStreamReader}
    (read : StandardCodecSerializer.readPairs readValue length map stream.view = some expected) :
    stream.Agrees (readPairs readMemory length map stream) expected := by
  induction length generalizing stream map expected with
  | zero =>
    cases read
    exact .pure map bounded
  | succ length ih =>
    simp only [StandardCodecSerializer.readPairs, Option.bind_eq_bind, Option.bind_eq_some_iff] at read
    obtain ⟨key, readKey, value, readEntry, readRest⟩ := read
    refine (same stream bounded key readKey).bind fun stream' bounded' viewed => ?_
    rw [← viewed] at readEntry
    refine (same stream' bounded' value readEntry).bind fun stream'' bounded'' viewed' => ?_
    rw [← viewed'] at readRest
    exact ih bounded'' readRest

theorem readValueOfType_agrees (same : ReadsSame readMemory readValue) (type : UInt8)
    (bounded : stream.Bounded) {expected : EncodableValue × ByteBufferStreamReader}
    (read : StandardCodecSerializer.readValueOfType readValue type stream.view = some expected) :
    stream.Agrees (readValueOfType readMemory type stream) expected := by
  have number := fun w narrow => readNumber_agrees w narrow bounded
  have vector := fun (w : Nat) (known : w = 8 ∨ w = 32 ∨ w = 64) => readVector_agrees known bounded
  unfold StandardCodecSerializer.readValueOfType at read
  unfold readValueOfType
  cases found : EncodedType.ofByte type with
  | none =>
    simp only [found] at read
    cases read
    exact .pure EncodableValue.null bounded
  | some encodedType =>
    simp only [found] at read
    cases encodedType with
    | null | true | false =>
      cases read
      exact .pure _ bounded
    | int32 =>
      cases read
      exact (number 32 (by decide)).map EncodableValue.int32
    | int64 =>
      cases read
      exact (number 64 (by decide)).map EncodableValue.int64
    | float64 =>
      cases read
      obtain ⟨bounded', buffer, aligned⟩ := readAlignment_agrees bounded (show 0 < 8 by decide) (dvd_refl 8)
      rw [← aligned]
      obtain ⟨last, returned, same, ends, viewed⟩ := (readNumber_agrees 64 (by decide) bounded').map EncodableValue.double
      exact ⟨last, returned, same.trans buffer, ends, viewed⟩
    | largeInt | string =>
      cases read
      have size := readSize_lt stream.view
      refine (readSize_agrees bounded).bind fun stream' bounded' viewed => ?_
      rw [← viewed]
      have short : (List.replicate (StandardCodecSerializer.readSize stream.view).1 (0 : UInt8)).length < 2 ^ 36 := by
        rw [List.length_replicate]
        omega
      exact (readBytes_agrees bounded' short).map EncodableValue.string
    | uint8List =>
      cases read
      exact (vector 8 (by decide)).map EncodableValue.uint8Vector
    | int32List =>
      cases read
      exact (vector 32 (by decide)).map EncodableValue.int32Vector
    | int64List =>
      cases read
      exact (vector 64 (by decide)).map EncodableValue.int64Vector
    | float64List =>
      cases read
      exact (vector 64 (by decide)).map EncodableValue.doubleVector
    | float32List =>
      cases read
      exact (vector 32 (by decide)).map EncodableValue.floatVector
    | list =>
      simp only [Option.bind_eq_bind, Option.bind_eq_some_iff] at read
      obtain ⟨list, readList, read⟩ := read
      cases read
      refine (readSize_agrees bounded).bind fun stream' bounded' viewed => ?_
      rw [← viewed] at readList
      exact (readItems_agrees same bounded' readList).map EncodableValue.list
    | map =>
      simp only [Option.bind_eq_bind, Option.bind_eq_some_iff] at read
      obtain ⟨map, readMap, read⟩ := read
      cases read
      refine (readSize_agrees bounded).bind fun stream' bounded' viewed => ?_
      rw [← viewed] at readMap
      exact (readPairs_agrees same bounded' readMap).map EncodableValue.map

end

theorem readValueWithin_agrees (depth : Nat) :
    ReadsSame (readValueWithin depth) (StandardCodecSerializer.readValueWithin depth) := by
  induction depth with
  | zero =>
    intro stream _ expected read
    cases read
  | succ depth ih =>
    intro stream bounded expected read
    refine (readByte_agrees bounded).bind fun stream' bounded' viewed => ?_
    simp only [StandardCodecSerializer.readValueWithin, ← viewed] at read
    exact readValueOfType_agrees ih _ bounded' read

end MemoryReader

/-! ## Nesting -/

namespace EncodableValue

mutual

def depth : EncodableValue → Nat
  | .list items => itemsDepth items + 1
  | .map entries => pairsDepth entries + 1
  | .null | .bool _ | .int32 _ | .int64 _ | .double _ | .string _ | .uint8Vector _ | .int32Vector _
  | .int64Vector _ | .doubleVector _ | .custom _ | .floatVector _ => 0

def itemsDepth : EncodableList → Nat
  | [] => 0
  | item :: rest => max item.depth (itemsDepth rest)

def pairsDepth : EncodableMap → Nat
  | [] => 0
  | (key, value) :: rest => max (max key.depth value.depth) (pairsDepth rest)

end

theorem pairsDepth_emplace (map : EncodableMap) (key value : EncodableValue) :
    pairsDepth (map.emplace key value) ≤ max (max key.depth value.depth) (pairsDepth map) := by
  induction map with
  | nil => simp [EncodableMap.emplace, pairsDepth]
  | cons entry rest ih =>
    obtain ⟨key', value'⟩ := entry
    unfold EncodableMap.emplace
    split
    · simp only [pairsDepth]
      omega
    · split <;> simp only [pairsDepth] <;> omega

end EncodableValue

namespace StandardCodecSerializer

def remaining (stream : ByteBufferStreamReader) : Nat := stream.bytes.length - stream.location

/-- Where fewer than so many bytes are left, values are nested no deeper than that many. -/
def ShallowBelow (readValue : ReadsValue) (bound : Nat) : Prop :=
  ∀ stream, Few bound stream → ∀ value stream', readValue stream = some (value, stream') →
    value.depth ≤ remaining stream

section

variable {readValue : ReadsValue} {bound : Nat} {stream stream' : ByteBufferStreamReader}

theorem EndsBelow.advances (ends : EndsBelow readValue bound)
    (few : Few bound stream) {value : EncodableValue} (read : readValue stream = some (value, stream')) :
    Few bound stream' ∧ remaining stream' ≤ remaining stream := by
  obtain ⟨_, _, read', advances⟩ := ends stream few
  cases read.symm.trans read'
  refine ⟨few.advances advances, ?_⟩
  unfold remaining
  rw [advances.1]
  have := advances.2
  omega

theorem readItems_depth (ends : EndsBelow readValue bound) (shallow : ShallowBelow readValue bound)
    {length : Nat} (few : Few bound stream) {list : EncodableList}
    (read : readItems readValue length stream = some (list, stream')) :
    EncodableValue.itemsDepth list ≤ remaining stream := by
  induction length generalizing stream list stream' with
  | zero =>
    cases read
    exact Nat.zero_le _
  | succ length ih =>
    simp only [readItems, Option.bind_eq_bind, Option.bind_eq_some_iff] at read
    obtain ⟨⟨item, stream₁⟩, readItem, ⟨rest, stream₂⟩, readRest, read⟩ := read
    cases read
    obtain ⟨few₁, fewer⟩ := ends.advances few readItem
    exact max_le (shallow stream few item stream₁ readItem) ((ih few₁ readRest).trans fewer)

theorem readPairs_depth (ends : EndsBelow readValue bound) (shallow : ShallowBelow readValue bound)
    {length : Nat} {map : EncodableMap} (few : Few bound stream)
    {map' : EncodableMap} (read : readPairs readValue length map stream = some (map', stream')) :
    EncodableValue.pairsDepth map' ≤ max (EncodableValue.pairsDepth map) (remaining stream) := by
  induction length generalizing stream map with
  | zero =>
    cases read
    exact le_max_left _ _
  | succ length ih =>
    simp only [readPairs, Option.bind_eq_bind, Option.bind_eq_some_iff] at read
    obtain ⟨⟨key, stream₁⟩, readKey, ⟨value, stream₂⟩, readEntry, readRest⟩ := read
    obtain ⟨few₁, fewer₁⟩ := ends.advances few readKey
    obtain ⟨few₂, fewer₂⟩ := ends.advances few₁ readEntry
    have keyDepth := shallow stream few key stream₁ readKey
    have valueDepth := shallow stream₁ few₁ value stream₂ readEntry
    have entered := EncodableValue.pairsDepth_emplace map key value
    have rest : EncodableValue.pairsDepth map' ≤
        max (EncodableValue.pairsDepth (map.emplace key value)) (remaining stream₂) := ih few₂ readRest
    omega

theorem readValueOfType_depth (ends : EndsBelow readValue bound) (shallow : ShallowBelow readValue bound)
    {type : UInt8} (few : Few bound stream) {value : EncodableValue}
    (read : readValueOfType readValue type stream = some (value, stream')) : value.depth ≤ remaining stream + 1 := by
  have sized := readSize_advances stream
  have few' := few.advances sized
  have fewer : remaining (readSize stream).2 ≤ remaining stream := by
    unfold remaining
    rw [sized.1]
    have := sized.2
    omega
  unfold readValueOfType at read
  cases found : EncodedType.ofByte type with
  | none =>
    simp only [found] at read
    cases read
    exact Nat.zero_le _
  | some encodedType =>
    simp only [found] at read
    cases encodedType with
    | list =>
      simp only [Option.bind_eq_bind, Option.bind_eq_some_iff] at read
      obtain ⟨⟨list, stream₁⟩, readList, read⟩ := read
      cases read
      have := readItems_depth ends shallow few' readList
      simp only [EncodableValue.depth]
      omega
    | map =>
      simp only [Option.bind_eq_bind, Option.bind_eq_some_iff] at read
      obtain ⟨⟨map, stream₁⟩, readMap, read⟩ := read
      cases read
      have := readPairs_depth ends shallow few' readMap
      simp only [EncodableValue.depth, EncodableValue.pairsDepth] at this ⊢
      omega
    | null | true | false | int32 | int64 | largeInt | float64 | string | uint8List | int32List | int64List
    | float64List | float32List =>
      cases read
      exact Nat.zero_le _

end

theorem readValueWithin_depth (depth : Nat) : ShallowBelow (readValueWithin depth) depth := by
  induction depth with
  | zero =>
    intro stream few
    exact absurd few (Nat.not_lt_zero _)
  | succ depth ih =>
    intro stream few value stream' read
    cases found : stream.bytes[stream.location]? with
    | none =>
      -- nothing is left, and null is read
      have readType : stream.readByte = (0, stream) := by simp [ByteBufferStreamReader.readByte, found]
      simp only [readValueWithin, readType] at read
      cases read
      exact Nat.zero_le _
    | some type =>
      have readType : stream.readByte = (type, { stream with location := stream.location + 1 }) := by
        simp [ByteBufferStreamReader.readByte, found]
      have inside : stream.location < stream.bytes.length := (List.getElem?_eq_some_iff.mp found).1
      have fewer : Few depth { stream with location := stream.location + 1 } := by
        unfold Few at few ⊢
        show stream.bytes.length - (stream.location + 1) < depth
        omega
      simp only [readValueWithin, readType] at read
      have := readValueOfType_depth (readValueWithin_ends depth) ih fewer read
      unfold remaining at *
      show value.depth ≤ stream.bytes.length - stream.location
      simp only at this
      omega

theorem mem_readItems_depth {depth length : Nat} {stream stream' : ByteBufferStreamReader}
    (few : Few depth stream) {list : EncodableList}
    (read : readItems (readValueWithin depth) length stream = some (list, stream')) :
    list.length = length ∧ ∀ value ∈ list, value.depth ≤ remaining stream := by
  induction length generalizing stream list with
  | zero =>
    cases read
    exact ⟨rfl, by simp⟩
  | succ length ih =>
    simp only [readItems, Option.bind_eq_bind, Option.bind_eq_some_iff] at read
    obtain ⟨⟨item, stream₁⟩, readItem, ⟨rest, stream₂⟩, readRest, read⟩ := read
    cases read
    obtain ⟨few₁, fewer⟩ := (readValueWithin_ends depth).advances few readItem
    obtain ⟨lengthRest, depthRest⟩ := ih few₁ readRest
    refine ⟨congrArg Nat.succ lengthRest, List.forall_mem_cons.mpr ⟨?_, ?_⟩⟩
    · exact readValueWithin_depth depth stream few item stream₁ readItem
    · exact fun value member => (depthRest value member).trans fewer

end StandardCodecSerializer

/-! ## Every buffer is read safely -/

namespace MemoryReader

/-- However many values are read from a buffer one after another, each call returns, no byte
    outside the buffer is read, the values are those that the model over byte strings reads, and
    none is nested deeper than the buffer has bytes. -/
theorem readValues_safe (buffer : Buffer) (count : Nat) :
    ∃ values stream,
      readValues (buffer.size + 1) count ⟨buffer, 0⟩ = .ok (values, stream) ∧
      StandardCodecSerializer.readItems (StandardCodecSerializer.readValueWithin (buffer.size + 1)) count
        ⟨buffer.bytes, 0⟩ = some (values, stream.view) ∧
      values.length = count ∧ ∀ value ∈ values, value.depth ≤ buffer.size := by
  have few : StandardCodecSerializer.Few (buffer.size + 1) ⟨buffer.bytes, 0⟩ := Nat.lt_succ_self _
  obtain ⟨values, reader, read, -⟩ := StandardCodecSerializer.readItems_ends
    (StandardCodecSerializer.readValueWithin_ends (buffer.size + 1)) count few
  obtain ⟨length, depth⟩ := StandardCodecSerializer.mem_readItems_depth few read
  have bounded : Bounded ⟨buffer, 0⟩ := bounded_of_le (Nat.zero_le _)
  obtain ⟨stream, returned, -, -, viewed⟩ :=
    readItems_agrees (readValueWithin_agrees (buffer.size + 1)) bounded read
  exact ⟨values, stream, returned, by rw [viewed]; exact read, length, depth⟩

example : readValues 6 1 ⟨⟨[12, 3, 12, 1, 1], by decide⟩, 0⟩ =
    .ok ([.list [.list [.bool true], .null, .null]], ⟨⟨[12, 3, 12, 1, 1], by decide⟩, 5⟩) := by
  rfl

end MemoryReader

end FlutterZero.ClientWrapper
