import FlutterZero.ClientWrapper.StandardCodec.Layout

/-! # Reading back what was written

A write *carries* what it wrote (`Carries`) when a reader that stands where the
write began gets it back and ends up where the write ended, whatever follows.
Every write of the serializer carries its value but one: `WriteVector` returns
before it aligns an empty vector, while `ReadVector` aligns always.  Hence a
value is read back exactly when its empty vectors happen to end at aligned
locations (`InStep`).
-/

namespace FlutterZero.ClientWrapper

open FlutterZero.Lib

/-! ## Streams -/

section Streams

variable {β : Type} {before after : ByteBufferStreamWriter}

/-- The stream `after` continues `before`, and `read` from where `before` ended gives the result
    with a reader that stands where `after` ended, whatever follows. -/
structure Carries (read : ByteBufferStreamReader → β) (before after : ByteBufferStreamWriter)
    (result : ByteBufferStreamReader → β) : Prop where
  continues : before.bytes <+: after.bytes
  reads : ∀ bytes, after.bytes <+: bytes → read ⟨bytes, before.length⟩ = result ⟨bytes, after.length⟩

variable {result : ByteBufferStreamReader → β}

theorem Carries.length_le {read : ByteBufferStreamReader → β}
    (carries : Carries read before after result) : before.length ≤ after.length :=
  carries.continues.length_le

theorem Carries.bind {α : Type} {read : ByteBufferStreamReader → α × ByteBufferStreamReader} {x : α}
    {middle : ByteBufferStreamWriter}
    (first : Carries read before middle (x, ·)) (next : α → ByteBufferStreamReader → β)
    (second : Carries (next x) middle after result) :
    Carries (fun stream => next (read stream).1 (read stream).2) before after result := by
  refine ⟨first.continues.trans second.continues, fun bytes within => ?_⟩
  simp only [first.reads bytes (second.continues.trans within), second.reads bytes within]

theorem Carries.aligned {align : ByteBufferStreamReader → ByteBufferStreamReader}
    {next : ByteBufferStreamReader → β} {middle : ByteBufferStreamWriter}
    (first : Carries align before middle id) (second : Carries next middle after result) :
    Carries (fun stream => next (align stream)) before after result := by
  refine ⟨first.continues.trans second.continues, fun bytes within => ?_⟩
  simp only [first.reads bytes (second.continues.trans within), id_eq, second.reads bytes within]

theorem Carries.value {α : Type} {read : ByteBufferStreamReader → α × ByteBufferStreamReader} {x : α}
    (carries : Carries read before after (x, ·)) (alternative : α → EncodableValue) :
    Carries (fun stream => some ((read stream).map alternative id)) before after
      (fun stream => some (alternative x, stream)) := by
  refine ⟨carries.continues, fun bytes within => ?_⟩
  simp only [carries.reads bytes within, Prod.map, id_eq]

theorem writeByte_carries (stream : ByteBufferStreamWriter) (byte : UInt8) :
    Carries (·.readByte) stream (stream.writeByte byte) (byte, ·) where
  continues := List.prefix_append _ _
  reads := by
    intro bytes within
    obtain ⟨further, rfl⟩ := within
    have found : ((stream.writeByte byte).bytes ++ further)[stream.length]? = some byte := by
      simp [ByteBufferStreamWriter.writeByte, ByteBufferStreamWriter.length]
    simp only [ByteBufferStreamReader.readByte, found]
    simp [ByteBufferStreamWriter.writeByte, ByteBufferStreamWriter.length]

variable {stream : ByteBufferStreamWriter}

theorem writeBytes_eq_ok {bytes : List UInt8} :
    stream.writeBytes bytes = .ok after ↔ bytes ≠ [] ∧ after = ⟨stream.bytes ++ bytes⟩ := by
  unfold ByteBufferStreamWriter.writeBytes
  cases bytes with
  | nil => simp
  | cons byte rest => simp [eq_comm]

theorem append_carries (stream : ByteBufferStreamWriter) (data buffer : List UInt8)
    (fits : buffer.length = data.length) :
    Carries (·.readBytes buffer) stream ⟨stream.bytes ++ data⟩ (data, ·) where
  continues := List.prefix_append _ _
  reads := by
    intro bytes within
    obtain ⟨further, rfl⟩ := within
    have room : ¬ stream.bytes.length + data.length > ((stream.bytes ++ data) ++ further).length := by
      simp only [List.length_append]
      omega
    simp only [ByteBufferStreamReader.readBytes, ByteBufferStreamWriter.length, fits, if_neg room]
    rw [List.append_assoc, List.drop_left, List.take_left, List.length_append]

theorem writeBytes_carries {data : List UInt8} (written : stream.writeBytes data = .ok after) (buffer : List UInt8)
    (fits : buffer.length = data.length) : Carries (·.readBytes buffer) stream after (data, ·) := by
  obtain ⟨-, rfl⟩ := writeBytes_eq_ok.mp written
  exact append_carries stream data buffer fits

theorem writeAlignment_carries (stream : ByteBufferStreamWriter) (alignment : Nat) :
    Carries (·.readAlignment alignment) stream (stream.writeAlignment alignment) id where
  continues := by
    unfold ByteBufferStreamWriter.writeAlignment
    simp only
    split
    · exact List.prefix_append _ _
    · exact List.prefix_refl _
  reads := by
    intro bytes _
    unfold ByteBufferStreamWriter.writeAlignment ByteBufferStreamReader.readAlignment
    simp only
    split
    · simp [ByteBufferStreamWriter.length]
    · rfl

theorem writeNumber_carries {w : Nat} (whole : 8 ∣ w) {value : BitVec w}
    (written : stream.writeNumber value = .ok after) : Carries (·.readNumber w) stream after (value, ·) := by
  have carries := writeBytes_carries written (List.replicate (w / 8) 0) (by simp)
  refine ⟨carries.continues, fun bytes within => ?_⟩
  simp only [ByteBufferStreamReader.readNumber, carries.reads bytes within, ofBytes_bytesOf whole]

end Streams

namespace StandardCodecSerializer

variable {before after : ByteBufferStreamWriter}

/-! ## Sizes and vectors -/

def readMarked (w : Nat) (stream : ByteBufferStreamReader) : UInt8 × Nat × ByteBufferStreamReader :=
  let (marker, stream) := stream.readByte
  let (value, stream) := stream.readNumber w
  (marker, value.toNat, stream)

variable {w size : Nat}

theorem writeMarked_carries (whole : 8 ∣ w) (bound : size < 2 ^ w) {marker : UInt8}
    (written : (before.writeByte marker).writeBytes (toLittleEndian (w / 8) size) = .ok after) :
    Carries (readMarked w) before after (marker, size, ·) := by
  have number : (before.writeByte marker).writeNumber (BitVec.ofNat w size) = .ok after := by
    rw [ByteBufferStreamWriter.writeNumber, bytesOf, BitVec.toNat_ofNat, Nat.mod_eq_of_lt bound]
    exact written
  have first := writeByte_carries before marker
  have second := writeNumber_carries whole number
  refine ⟨first.continues.trans second.continues, fun bytes within => ?_⟩
  simp only [readMarked, first.reads bytes (second.continues.trans within), second.reads bytes within,
    BitVec.toNat_ofNat, Nat.mod_eq_of_lt bound]

variable {stream stream' : ByteBufferStreamReader}

theorem readSize_of_readMarked {marker : UInt8} (read : readMarked w stream = (marker, size, stream'))
    (kind : (marker = 254 ∧ w = 16) ∨ (marker = 255 ∧ w = 32)) : readSize stream = (size, stream') := by
  simp only [readMarked, Prod.mk.injEq] at read
  obtain ⟨first, second, rest⟩ := read
  obtain ⟨rfl, rfl⟩ | ⟨rfl, rfl⟩ := kind
  · simp only [readSize, first, second, rest]
    rfl
  · simp only [readSize, first, second, rest]
    rfl

theorem writeSize_carries (bound : size < 2 ^ 32) (written : writeSize size before = .ok after) :
    Carries readSize before after (size, ·) := by
  unfold writeSize at written
  split at written
  · rename_i small
    cases written
    have byte := writeByte_carries before (UInt8.ofNat size)
    refine ⟨byte.continues, fun bytes within => ?_⟩
    have toNat : (UInt8.ofNat size).toNat = size := by
      rw [UInt8.toNat_ofNat']
      omega
    have direct : UInt8.ofNat size < 254 := by
      rw [UInt8.lt_iff_toNat_lt, toNat]
      exact small
    simp only [readSize, byte.reads bytes within, if_pos direct, toNat]
  · split at written
    · rename_i medium
      have marked := writeMarked_carries (w := 16) (by decide) (by omega) written
      exact ⟨marked.continues, fun bytes within =>
        readSize_of_readMarked (marked.reads bytes within) (.inl ⟨rfl, rfl⟩)⟩
    · have marked := writeMarked_carries (w := 32) (by decide) bound written
      exact ⟨marked.continues, fun bytes within =>
        readSize_of_readMarked (marked.reads bytes within) (.inr ⟨rfl, rfl⟩)⟩

theorem writeAligned_carries (stream : ByteBufferStreamWriter) (typeSize : Nat) :
    Carries (fun reader => if typeSize > 1 then reader.readAlignment typeSize else reader) stream
      (if typeSize > 1 then stream.writeAlignment typeSize else stream) id := by
  split
  · exact writeAlignment_carries stream typeSize
  · exact ⟨List.prefix_refl _, fun _ _ => rfl⟩

theorem writeVector_carries (whole : 8 ∣ w) {vector : List (BitVec w)}
    (bound : vector.length < 2 ^ 32) (written : writeVector vector before = .ok after)
    (inStep : vector = [] → w / 8 ∣ after.length) : Carries (readVector w) before after (vector, ·) := by
  obtain ⟨sized, writtenSize, written⟩ := bind_eq_ok.mp written
  have size := writeSize_carries bound writtenSize
  split at written
  · rename_i none
    cases written
    have empty : vector = [] := List.length_eq_zero_iff.mp none
    subst empty
    refine ⟨size.continues, fun bytes within => ?_⟩
    -- the reader is aligned already, and there is room for no bytes
    have aligned : (⟨bytes, after.length⟩ : ByteBufferStreamReader).readAlignment (w / 8) =
        ⟨bytes, after.length⟩ := by
      simp [ByteBufferStreamReader.readAlignment, Nat.mod_eq_zero_of_dvd (inStep rfl)]
    have room : ¬ after.length > bytes.length := not_lt.mpr within.length_le
    simp [readVector, size.reads bytes within, aligned, ByteBufferStreamReader.readBytes, room, pieces]
  · have length : (vector.flatMap bytesOf).length = vector.length * (w / 8) :=
      length_flatMap_uniform length_bytesOf vector
    have aligned := writeAligned_carries sized (w / 8)
    have data := writeBytes_carries written (List.replicate (vector.length * (w / 8)) 0) (by simp [length])
    refine ⟨(size.continues.trans aligned.continues).trans data.continues, fun bytes within => ?_⟩
    have readSize := size.reads bytes ((aligned.continues.trans data.continues).trans within)
    have readAligned := aligned.reads bytes (data.continues.trans within)
    have readData := data.reads bytes within
    simp only [id_eq] at readAligned
    simp only [readVector, readSize, readAligned, readData, pieces_flatMap length_bytesOf,
      map_ofBytes_bytesOf whole]

/-! ## What a write adds -/

/-- The write returns a stream that continues the one before and ends at the offset. -/
def WritesTo (written : Except Assertion ByteBufferStreamWriter) (before : ByteBufferStreamWriter)
    (offset : Nat) : Prop :=
  ∃ after, written = .ok after ∧ before.bytes <+: after.bytes ∧ after.length = offset

variable {written : Except Assertion ByteBufferStreamWriter} {offset : Nat}

theorem WritesTo.bind {next : ByteBufferStreamWriter → Except Assertion ByteBufferStreamWriter} {middle : Nat}
    (first : WritesTo written before middle)
    (second : ∀ stream, stream.length = middle → WritesTo (next stream) stream offset) :
    WritesTo (written >>= next) before offset := by
  obtain ⟨stream, rfl, continues₁, length⟩ := first
  obtain ⟨after, returned, continues₂, ended⟩ := second stream length
  exact ⟨after, returned, continues₁.trans continues₂, ended⟩

theorem WritesTo.of_ok (writes : WritesTo written before offset) (returned : written = .ok after) :
    before.bytes <+: after.bytes ∧ after.length = offset := by
  obtain ⟨after', returned', continues, ended⟩ := writes
  rw [returned] at returned'
  cases returned'
  exact ⟨continues, ended⟩

theorem WritesTo.following {stream : ByteBufferStreamWriter} (writes : WritesTo written stream offset)
    (continues : before.bytes <+: stream.bytes) : WritesTo written before offset := by
  obtain ⟨after, returned, continues₂, ended⟩ := writes
  exact ⟨after, returned, continues.trans continues₂, ended⟩

theorem writeBytes_writesTo (stream : ByteBufferStreamWriter) {bytes : List UInt8} (some : bytes ≠ []) :
    WritesTo (stream.writeBytes bytes) stream (stream.length + bytes.length) :=
  ⟨⟨stream.bytes ++ bytes⟩, writeBytes_eq_ok.mpr ⟨some, rfl⟩, List.prefix_append _ _,
    List.length_append⟩

@[simp] theorem length_writeByte (stream : ByteBufferStreamWriter) (byte : UInt8) :
    (stream.writeByte byte).length = stream.length + 1 := by
  simp [ByteBufferStreamWriter.writeByte, ByteBufferStreamWriter.length]

@[simp] theorem length_writeAlignment (stream : ByteBufferStreamWriter) (alignment : Nat) :
    (stream.writeAlignment alignment).length = alignUp alignment stream.length := by
  unfold ByteBufferStreamWriter.writeAlignment alignUp
  simp only
  split
  · simp [ByteBufferStreamWriter.length]
  · rfl

theorem writeNumber_writesTo (some : 0 < w / 8) (stream : ByteBufferStreamWriter) (value : BitVec w) :
    WritesTo (stream.writeNumber value) stream (stream.length + w / 8) := by
  have length := length_bytesOf value
  have writes := writeBytes_writesTo stream (List.ne_nil_of_length_pos (by rw [length]; exact some))
  rw [length] at writes
  exact writes

theorem writeSize_writesTo (size : Nat) (stream : ByteBufferStreamWriter) :
    WritesTo (writeSize size stream) stream (stream.length + sizeLength size) := by
  unfold writeSize sizeLength
  have first := fun byte => (writeByte_carries stream byte).continues
  have some := fun length => List.ne_nil_of_length_pos (l := toLittleEndian (length + 1) size) (by simp)
  split
  · exact ⟨_, rfl, first _, length_writeByte _ _⟩
  · split
    · have writes := writeBytes_writesTo (stream.writeByte 254) (some 1)
      rw [length_writeByte, length_toLittleEndian, add_assoc] at writes
      exact writes.following (first _)
    · have writes := writeBytes_writesTo (stream.writeByte 255) (some 3)
      rw [length_writeByte, length_toLittleEndian, add_assoc] at writes
      exact writes.following (first _)

theorem writeVector_writesTo (some : 0 < w / 8) (vector : List (BitVec w)) (stream : ByteBufferStreamWriter) :
    WritesTo (writeVector vector stream) stream (vectorEnd (w / 8) vector.length stream.length) := by
  apply (writeSize_writesTo vector.length stream).bind
  intro sized length
  unfold vectorEnd
  split
  · exact ⟨sized, rfl, List.prefix_refl _, length⟩
  · rename_i nonempty
    have aligned := (writeAligned_carries sized (w / 8)).continues
    have bytes : (vector.flatMap bytesOf).length = vector.length * (w / 8) :=
      length_flatMap_uniform length_bytesOf vector
    have ends : (if w / 8 > 1 then sized.writeAlignment (w / 8) else sized).length =
        alignUp (w / 8) (stream.length + sizeLength vector.length) := by
      rw [← length]
      split
      · exact length_writeAlignment _ _
      · rename_i one
        have typeSize : w / 8 = 1 := by omega
        simp [typeSize, alignUp, Nat.mod_one]
    have positive := Nat.mul_pos (Nat.pos_of_ne_zero nonempty) some
    have writes := writeBytes_writesTo (if w / 8 > 1 then sized.writeAlignment (w / 8) else sized)
      (List.ne_nil_of_length_pos (by rw [bytes]; exact positive))
    rw [ends, bytes] at writes
    exact writes.following aligned

theorem writeVector_carries_inStep (whole : 8 ∣ w) (some : 0 < w / 8) {vector : List (BitVec w)}
    (bound : vector.length < 2 ^ 32) (type : UInt8) (written : writeVector vector (before.writeByte type) = .ok after)
    (inStep : vector = [] → w / 8 ∣ before.length + 2) :
    Carries (readVector w) (before.writeByte type) after (vector, ·) := by
  apply writeVector_carries whole bound written
  intro empty
  have ended := ((writeVector_writesTo some vector (before.writeByte type)).of_ok written).2
  rw [ended, length_writeByte, empty]
  exact inStep empty

theorem writeItems_writesTo {items : EncodableList}
    (each : ∀ item ∈ items, ∀ stream : ByteBufferStreamWriter,
      WritesTo (writeValue item stream) stream (item.endOffset stream.length))
    (stream : ByteBufferStreamWriter) :
    WritesTo (writeItems items stream) stream (EncodableValue.itemsEnd items stream.length) := by
  induction items generalizing stream with
  | nil => exact ⟨stream, rfl, List.prefix_refl _, rfl⟩
  | cons item rest ih =>
    obtain ⟨first, each⟩ := List.forall_mem_cons.mp each
    rw [EncodableValue.itemsEnd, writeItems]
    apply (first stream).bind
    intro next length
    rw [← length]
    exact ih each next

theorem writePairs_eq (entries : EncodableMap) (stream : ByteBufferStreamWriter) :
    writePairs entries stream = writeItems entries.flatten stream := by
  induction entries generalizing stream with
  | nil => rfl
  | cons entry rest ih => simp [writePairs, EncodableMap.flatten, writeItems, ih]

theorem writeValue_writesTo (value : EncodableValue) (encodable : value.encodable = true) :
    ∀ stream : ByteBufferStreamWriter,
      WritesTo (writeValue value stream) stream (value.endOffset stream.length) := by
  induction value using EncodableValue.induct with
  | step value ih =>
    intro stream
    have type := fun byte => (writeByte_carries stream byte).continues
    have sized := fun size byte => (writeSize_writesTo size (stream.writeByte byte)).following (type byte)
    have vector : ∀ {w} (vector : List (BitVec w)) byte, 0 < w / 8 →
        WritesTo (writeVector vector (stream.writeByte byte)) stream
          (vectorEnd (w / 8) vector.length (stream.length + 1)) := by
      intro w vector byte some
      have writes := (writeVector_writesTo some vector (stream.writeByte byte)).following (type byte)
      rwa [length_writeByte] at writes
    simp only [length_writeByte] at sized
    cases value with
    | null => exact ⟨_, rfl, type _, length_writeByte _ _⟩
    | bool value => exact ⟨_, rfl, type _, length_writeByte _ _⟩
    | custom address => cases encodable
    | int32 value =>
      have writes := writeNumber_writesTo (by decide) (stream.writeByte 3) value
      rw [length_writeByte] at writes
      exact writes.following (type _)
    | int64 value =>
      have writes := writeNumber_writesTo (by decide) (stream.writeByte 4) value
      rw [length_writeByte] at writes
      exact writes.following (type _)
    | double value =>
      have aligned := (writeAlignment_carries (stream.writeByte 6) 8).continues
      have writes := writeNumber_writesTo (by decide) ((stream.writeByte 6).writeAlignment 8) value
      rw [length_writeAlignment, length_writeByte] at writes
      exact writes.following ((type _).trans aligned)
    | string value =>
      apply (sized value.length 7).bind
      intro next length
      rw [EncodableValue.endOffset, ← length]
      cases value with
      | nil => exact ⟨next, rfl, List.prefix_refl _, rfl⟩
      | cons byte rest => exact writeBytes_writesTo next (List.cons_ne_nil byte rest)
    | uint8Vector value => exact vector value 8 (by decide)
    | int32Vector value => exact vector value 9 (by decide)
    | int64Vector value => exact vector value 10 (by decide)
    | doubleVector value => exact vector value 11 (by decide)
    | floatVector value => exact vector value 14 (by decide)
    | list items =>
      have each := fun item member => ih item member (EncodableValue.encodable_child encodable member)
      apply (sized items.length 12).bind
      intro next length
      rw [EncodableValue.endOffset, ← length]
      exact writeItems_writesTo each next
    | map entries =>
      have each := fun item member => ih item member (EncodableValue.encodable_child encodable member)
      apply (sized entries.length 13).bind
      intro next length
      rw [EncodableValue.endOffset, ← length, EncodableValue.pairsEnd_eq, writePairs_eq]
      exact writeItems_writesTo each next

/-! ## Values -/

theorem readValueWithin_carries (type : EncodedType) {value : EncodableValue} {depth : Nat}
    (rest : Carries (readValueOfType (readValueWithin depth) type.toByte) (before.writeByte type.toByte) after
      (fun stream => some (value, stream))) :
    Carries (readValueWithin (depth + 1)) before after (fun stream => some (value, stream)) := by
  have first := writeByte_carries before type.toByte
  refine ⟨first.continues.trans rest.continues, fun bytes within => ?_⟩
  simp only [readValueWithin, first.reads bytes (rest.continues.trans within), rest.reads bytes within]

variable {read : ReadsValue}

/-- Values written one after another are read one after another, if each of them is read back from
    where it is written. -/
theorem writeItems_carries {items : EncodableList} {limit : Nat} (encodable : ∀ item ∈ items, item.encodable = true)
    (each : ∀ child ∈ EncodableValue.placed items before.length, ∀ first next,
      first.length = child.2 → before.length ≤ first.length → next.length ≤ limit →
      writeValue child.1 first = .ok next → Carries read first next (fun stream => some (child.1, stream)))
    (written : writeItems items before = .ok after) (short : after.length ≤ limit) :
    Carries (readItems read items.length) before after (fun stream => some (items, stream)) := by
  induction items generalizing before with
  | nil =>
    cases written
    exact ⟨List.prefix_refl _, fun _ _ => rfl⟩
  | cons item rest ih =>
    obtain ⟨next, writtenItem, written⟩ := bind_eq_ok.mp written
    obtain ⟨itemEncodable, restEncodable⟩ := List.forall_mem_cons.mp encodable
    obtain ⟨eachFirst, eachRest⟩ := List.forall_mem_cons.mp each
    obtain ⟨continues, ended⟩ := (writeValue_writesTo item itemEncodable before).of_ok writtenItem
    rw [← ended] at eachRest
    have later := ih restEncodable (fun child member first next' offset above =>
      eachRest child member first next' offset (continues.length_le.trans above)) written
    have now := eachFirst before next rfl (le_refl _) (later.length_le.trans short) writtenItem
    refine ⟨now.continues.trans later.continues, fun bytes within => ?_⟩
    simp [readItems, now.reads bytes (later.continues.trans within), later.reads bytes within]

theorem readItems_cons_inv {length : Nat} {item : EncodableValue} {rest : EncodableList}
    (readAll : readItems read (length + 1) stream = some (item :: rest, stream')) :
    ∃ next, read stream = some (item, next) ∧ readItems read length next = some (rest, stream') := by
  simp only [readItems, Option.bind_eq_bind, Option.bind_eq_some_iff, Option.pure_def, Prod.exists] at readAll
  obtain ⟨_, next, readItem, _, _, readRest, same⟩ := readAll
  cases same
  exact ⟨next, readItem, readRest⟩

theorem readPairs_of_readItems {entries : EncodableMap} (map : EncodableMap)
    (readAll : readItems read entries.flatten.length stream = some (entries.flatten, stream'))
    (sorted : EncodableMap.Sorted (map ++ entries)) :
    readPairs read entries.length map stream = some (map ++ entries, stream') := by
  induction entries generalizing map stream with
  | nil =>
    cases readAll
    simp [readPairs]
  | cons entry rest ih =>
    obtain ⟨key, value⟩ := entry
    obtain ⟨stream₁, readKey, readAll⟩ := readItems_cons_inv readAll
    obtain ⟨stream₂, readValue, readRest⟩ := readItems_cons_inv readAll
    have last : ∀ before ∈ map, before.1.lt key := fun before member =>
      (List.pairwise_append.mp sorted).2.2 before member (key, value) List.mem_cons_self
    have emplaced : map.emplace key value = map ++ [(key, value)] := EncodableMap.emplace_of_last last value
    rw [List.append_cons] at sorted ⊢
    have later := ih _ readRest sorted
    simp only [List.length_cons, readPairs, readKey, readValue, Option.bind_eq_bind, Option.bind_some,
      emplaced]
    exact later

/-- The value is read back from every stream it is written to, by calls that are nested no deeper
    than its encoding is long. -/
def ReadsWithin (value : EncodableValue) : Prop :=
  ∀ (depth : Nat) {before after : ByteBufferStreamWriter}, value.InStep before.length →
    after.length ≤ before.length + depth + 1 → writeValue value before = .ok after →
    Carries (readValueWithin (depth + 1)) before after (fun stream => some (value, stream))

theorem writeSize_ends {type : UInt8} {sized : ByteBufferStreamWriter}
    (written : writeSize size (before.writeByte type) = .ok sized) :
    sized.length = before.length + 1 + sizeLength size := by
  rw [((writeSize_writesTo size (before.writeByte type)).of_ok written).2, length_writeByte]

theorem sizeLength_pos (size : Nat) : 0 < sizeLength size := by
  unfold sizeLength
  split_ifs <;> decide

/-- The values inside a value are read with calls that are nested one level less: there are at
    least two bytes before them. -/
theorem children_carries {value : EncodableValue} {depth : Nat} {sized : ByteBufferStreamWriter}
    (encodable : value.encodable = true)
    (each : ∀ child ∈ value.children, child.encodable = true → ReadsWithin child)
    (inStep : value.InStep before.length) (short : after.length ≤ before.length + depth + 1)
    (start : sized.length = value.childrenOffset before.length) (inside : before.length + 2 ≤ sized.length)
    (written : writeItems value.children sized = .ok after) :
    Carries (readItems (readValueWithin depth) value.children.length) sized after
      (fun stream => some (value.children, stream)) := by
  have childEncodable := fun child member => @EncodableValue.encodable_child value child encodable member
  apply writeItems_carries childEncodable _ written (le_refl _)
  intro child member first next offset above below writtenChild
  rw [start] at member
  have child_mem := EncodableValue.mem_of_mem_placed member
  have childInStep : child.1.InStep first.length := by
    rw [offset]
    exact inStep.child member
  have longer : first.length ≤ next.length :=
    ((writeValue_writesTo child.1 (childEncodable _ child_mem) first).of_ok writtenChild).1.length_le
  -- a child has at least one byte of its own, so a level is left for it
  cases depth with
  | zero => omega
  | succ depth =>
    exact each child.1 child_mem (childEncodable _ child_mem) depth childInStep (by omega) writtenChild

theorem writeValue_carries (value : EncodableValue) (encodable : value.encodable = true) :
    ReadsWithin value := by
  induction value using EncodableValue.induct with
  | step value ih =>
    intro depth before after inStep short written
    cases value with
    | null =>
      cases written
      exact readValueWithin_carries .null ⟨List.prefix_refl _, fun _ _ => rfl⟩
    | bool value =>
      cases written
      cases value with
      | false => exact readValueWithin_carries .false ⟨List.prefix_refl _, fun _ _ => rfl⟩
      | true => exact readValueWithin_carries .true ⟨List.prefix_refl _, fun _ _ => rfl⟩
    | custom address => cases encodable
    -- the write after the type byte is that of the alternative
    | int32 value =>
      have written : (before.writeByte 3).writeNumber value = .ok after := written
      exact readValueWithin_carries .int32 ((writeNumber_carries (by decide) written).value .int32)
    | int64 value =>
      have written : (before.writeByte 4).writeNumber value = .ok after := written
      exact readValueWithin_carries .int64 ((writeNumber_carries (by decide) written).value .int64)
    | double value =>
      have written : ((before.writeByte 6).writeAlignment 8).writeNumber value = .ok after := written
      have number := (writeNumber_carries (by decide) written).value .double
      exact readValueWithin_carries .float64 ((writeAlignment_carries (before.writeByte 6) 8).aligned number)
    | string value =>
      have bound : value.length < 2 ^ 32 := of_decide_eq_true encodable
      obtain ⟨sized, writtenSize, written⟩ :=
        (bind_eq_ok (x := writeSize value.length (before.writeByte EncodedType.string.toByte))).mp written
      have size := writeSize_carries bound writtenSize
      have data : Carries (·.readBytes (List.replicate value.length 0)) sized after (value, ·) := by
        split at written
        · exact writeBytes_carries written _ (by simp)
        · -- an empty string is not written, and reads as no bytes
          rename_i empty
          have empty : value = [] := List.length_eq_zero_iff.mp (by omega)
          cases written
          subst empty
          have carries := append_carries after [] [] rfl
          rw [List.append_nil] at carries
          exact carries
      have read := size.bind
        (fun size stream => some ((stream.readBytes (List.replicate size 0)).map EncodableValue.string id))
        (data.value .string)
      exact readValueWithin_carries .string read
    | uint8Vector value =>
      have vector := writeVector_carries_inStep (by decide) (by decide) (of_decide_eq_true encodable) 8
        written (fun _ => one_dvd _)
      exact readValueWithin_carries .uint8List (vector.value .uint8Vector)
    | int32Vector value =>
      have vector := writeVector_carries_inStep (by decide) (by decide) (of_decide_eq_true encodable) 9
        written (fun empty => inStep _ (EncodableValue.self_mem_parts _ _) 4 (by subst empty; rfl))
      exact readValueWithin_carries .int32List (vector.value .int32Vector)
    | int64Vector value =>
      have vector := writeVector_carries_inStep (by decide) (by decide) (of_decide_eq_true encodable) 10
        written (fun empty => inStep _ (EncodableValue.self_mem_parts _ _) 8 (by subst empty; rfl))
      exact readValueWithin_carries .int64List (vector.value .int64Vector)
    | doubleVector value =>
      have vector := writeVector_carries_inStep (by decide) (by decide) (of_decide_eq_true encodable) 11
        written (fun empty => inStep _ (EncodableValue.self_mem_parts _ _) 8 (by subst empty; rfl))
      exact readValueWithin_carries .float64List (vector.value .doubleVector)
    | floatVector value =>
      have vector := writeVector_carries_inStep (by decide) (by decide) (of_decide_eq_true encodable) 14
        written (fun empty => inStep _ (EncodableValue.self_mem_parts _ _) 4 (by subst empty; rfl))
      exact readValueWithin_carries .float32List (vector.value .floatVector)
    | list items =>
      have bound : items.length < 2 ^ 32 := of_decide_eq_true (Bool.and_eq_true_iff.mp encodable).1
      obtain ⟨sized, writtenSize, written⟩ :=
        (bind_eq_ok (x := writeSize items.length (before.writeByte EncodedType.list.toByte))).mp written
      have size := writeSize_carries bound writtenSize
      have start := writeSize_ends writtenSize
      have positive := sizeLength_pos items.length
      have children := children_carries encodable ih inStep short start (by omega) written
      refine readValueWithin_carries .list ⟨size.continues.trans children.continues, fun bytes within => ?_⟩
      have readSize := size.reads bytes (children.continues.trans within)
      have readAll := children.reads bytes within
      simp only [EncodableValue.children] at readAll
      simp only [readValueOfType, EncodedType.ofByte_toByte, readSize, readAll]
      rfl
    | map entries =>
      have both := Bool.and_eq_true_iff.mp (Bool.and_eq_true_iff.mp encodable).1
      have bound : entries.length < 2 ^ 32 := of_decide_eq_true both.1
      have sorted : EncodableMap.Sorted entries := of_decide_eq_true both.2
      obtain ⟨sized, writtenSize, written⟩ :=
        (bind_eq_ok (x := writeSize entries.length (before.writeByte EncodedType.map.toByte))).mp written
      rw [writePairs_eq] at written
      have size := writeSize_carries bound writtenSize
      have start := writeSize_ends writtenSize
      have positive := sizeLength_pos entries.length
      have children := children_carries encodable ih inStep short start (by omega) written
      refine readValueWithin_carries .map ⟨size.continues.trans children.continues, fun bytes within => ?_⟩
      have readSize := size.reads bytes (children.continues.trans within)
      -- the entries come in the order of the keys, starting from an empty map
      have readAll := readPairs_of_readItems [] (children.reads bytes within) sorted
      simp only [readValueOfType, EncodedType.ofByte_toByte, readSize, readAll]
      rfl

theorem readValue_eq (stream : ByteBufferStreamReader) {result : EncodableValue × ByteBufferStreamReader}
    (read : readValueWithin (stream.bytes.length - stream.location + 1) stream = some result) :
    readValue stream = result := by
  simp [readValue, read]

/-- From every stream of the given length the value is read back as it was written, up to exactly
    where it ends, whatever follows. -/
def ReadsBack (value : EncodableValue) (offset : Nat) : Prop :=
  ∀ stream : ByteBufferStreamWriter, stream.length = offset →
    ∃ stream', writeValue value stream = .ok stream' ∧
      ∀ further, readValue ⟨stream'.bytes ++ further, offset⟩ =
        (value, ⟨stream'.bytes ++ further, stream'.length⟩)

theorem readsBack_of_inStep {value : EncodableValue} (encodable : value.encodable = true)
    (inStep : value.InStep offset) : ReadsBack value offset := by
  intro stream length
  subst length
  obtain ⟨stream', written, continues, -⟩ := writeValue_writesTo value encodable stream
  refine ⟨stream', written, fun further => readValue_eq _ ?_⟩
  have within : stream'.bytes <+: stream'.bytes ++ further := List.prefix_append _ _
  -- as many nested calls are allowed for as there are bytes
  have deep : stream'.length ≤ stream.length + ((stream'.bytes ++ further).length - stream.length) + 1 := by
    have longer : stream.length ≤ stream'.length := continues.length_le
    have room : stream'.length ≤ (stream'.bytes ++ further).length := within.length_le
    omega
  exact (writeValue_carries value encodable _ inStep deep written).reads _ within

/-! ## Empty vectors -/

theorem alignUp_eq_self {alignment : Nat} (positive : 0 < alignment)
    (same : alignUp alignment offset = offset) : alignment ∣ offset := by
  have small := Nat.mod_lt offset positive
  apply Nat.dvd_of_mod_eq_zero
  unfold alignUp at same
  split at same
  · omega
  · rename_i aligned
    omega

theorem readVector_location (wide : 1 < w / 8) (empty : readSize stream = (0, stream')) :
    (readVector w stream).2.location = alignUp (w / 8) stream'.location := by
  have nothing : ∀ reader : ByteBufferStreamReader, (reader.readBytes []).2 = reader := by
    intro reader
    unfold ByteBufferStreamReader.readBytes
    split <;> rfl
  have location : (stream'.readAlignment (w / 8)).location = alignUp (w / 8) stream'.location := by
    unfold ByteBufferStreamReader.readAlignment alignUp
    simp only
    split <;> rfl
  simp only [readVector, empty, if_pos wide, Nat.zero_mul, List.replicate_zero, nothing, location]

theorem dvd_of_readsBack (wide : 1 < w / 8) (type : EncodedType) {value : EncodableValue}
    {alternative : List (BitVec w) → EncodableValue}
    (writes : ∀ stream, writeValue value stream = writeVector ([] : List (BitVec w)) (stream.writeByte type.toByte))
    (reads : ∀ readValue stream, readValueOfType readValue type.toByte stream =
      some ((readVector w stream).map alternative id)) (back : ReadsBack value offset) : w / 8 ∣ offset + 2 := by
  have length : (⟨List.replicate offset 0⟩ : ByteBufferStreamWriter).length = offset := List.length_replicate
  obtain ⟨stream', written, read⟩ := back ⟨List.replicate offset 0⟩ length
  obtain ⟨sized, writtenSize, written⟩ := bind_eq_ok.mp ((writes _).symm.trans written)
  cases written
  have first := writeByte_carries ⟨List.replicate offset 0⟩ type.toByte
  have size := writeSize_carries (by simp) writtenSize
  have ends : stream'.length = offset + 2 := by
    have ends := writeSize_ends writtenSize
    rw [length] at ends
    exact ends
  have within : stream'.bytes <+: stream'.bytes ++ [] := List.prefix_append _ _
  have readType := first.reads _ (size.continues.trans within)
  have readSize := size.reads _ within
  rw [length] at readType
  have readWhole := readValue_eq ⟨stream'.bytes ++ [], offset⟩
    (by simp only [readValueWithin, readType, reads]; rfl)
  have location := congrArg (fun result => result.2.location) (readWhole.symm.trans (read []))
  simp only [Prod.map, id_eq, readVector_location wide readSize] at location
  rw [ends] at location
  exact alignUp_eq_self (by omega) location

theorem inStep_of_readsBack {value : EncodableValue}
    (back : ∀ part ∈ value.parts offset, ReadsBack part.1 part.2) : value.InStep offset := by
  intro part member typeSize empty
  have back := back part member
  obtain ⟨inner, innerOffset⟩ := part
  cases inner with
  | int32Vector vector =>
    cases vector with
    | nil =>
      cases empty
      exact dvd_of_readsBack (by decide) .int32List (fun _ => rfl) (fun _ _ => rfl) back
    | cons _ _ => cases empty
  | int64Vector vector =>
    cases vector with
    | nil =>
      cases empty
      exact dvd_of_readsBack (by decide) .int64List (fun _ => rfl) (fun _ _ => rfl) back
    | cons _ _ => cases empty
  | doubleVector vector =>
    cases vector with
    | nil =>
      cases empty
      exact dvd_of_readsBack (by decide) .float64List (fun _ => rfl) (fun _ _ => rfl) back
    | cons _ _ => cases empty
  | floatVector vector =>
    cases vector with
    | nil =>
      cases empty
      exact dvd_of_readsBack (by decide) .float32List (fun _ => rfl) (fun _ _ => rfl) back
    | cons _ _ => cases empty
  | _ => cases empty

theorem readsBack_parts {value : EncodableValue} (encodable : value.encodable = true)
    (inStep : value.InStep offset) : ∀ part ∈ value.parts offset, ReadsBack part.1 part.2 :=
  fun part member => readsBack_of_inStep
    ((EncodableValue.parts_of_part value offset part member).2 encodable) (inStep.part member)

end StandardCodecSerializer

/-! ## Messages and method calls -/

open StandardCodecSerializer StandardMessageCodec StandardMethodCodec

theorem decodeMessage_eq (binaryMessage : List UInt8) :
    decodeMessage binaryMessage = (readValue ⟨binaryMessage, 0⟩).1 := by
  cases binaryMessage with
  | nil => rfl
  | cons byte rest => rfl

theorem decodeMessage_encodeMessage {value : EncodableValue} (encodable : value.encodable = true)
    (inStep : value.InStep 0) : ∃ bytes, encodeMessage value = .ok bytes ∧ decodeMessage bytes = value := by
  obtain ⟨stream, written, read⟩ := readsBack_of_inStep encodable inStep ⟨[]⟩ rfl
  have read := read []
  rw [List.append_nil] at read
  exact ⟨stream.bytes, by simp [encodeMessage, written], by rw [decodeMessage_eq, read]⟩

theorem decodeMethodCall_encodeMethodCall {methodCall : MethodCall}
    (nameBound : methodCall.methodName.length < 2 ^ 32)
    (encodable : (methodCall.arguments.getD .null).encodable = true)
    (inStep : (methodCall.arguments.getD .null).InStep
      (EncodableValue.endOffset (.string methodCall.methodName) 0)) :
    ∃ bytes, encodeMethodCall methodCall = .ok bytes ∧
      decodeMethodCall bytes = some ⟨methodCall.methodName, some (methodCall.arguments.getD .null)⟩ := by
  have nameEncodable : (EncodableValue.string methodCall.methodName).encodable = true := decide_eq_true nameBound
  have nameInStep : (EncodableValue.string methodCall.methodName).InStep 0 := by
    simp [EncodableValue.InStep, EncodableValue.parts, EncodableValue.emptyVectorTypeSize]
  obtain ⟨named, writtenName, readName⟩ := readsBack_of_inStep nameEncodable nameInStep ⟨[]⟩ rfl
  have length : named.length = EncodableValue.endOffset (.string methodCall.methodName) 0 :=
    ((writeValue_writesTo _ nameEncodable ⟨[]⟩).of_ok writtenName).2
  obtain ⟨stream, written, readArguments⟩ := readsBack_of_inStep encodable inStep named length
  have continues := ((writeValue_writesTo _ encodable named).of_ok written).1
  -- the name is followed by the arguments, and these by nothing
  obtain ⟨further, split⟩ := continues
  have readName := readName further
  have readArguments := readArguments []
  rw [split] at readName
  rw [List.append_nil, ← length] at readArguments
  refine ⟨stream.bytes, by simp [encodeMethodCall, writtenName, written], ?_⟩
  simp only [decodeMethodCall, readName, readArguments]

/-- A value and all that is inside it are read back, each from where it is written, if and only if
    its empty vectors are in step; in that case messages and method calls survive as well. -/
theorem readsBack_iff_inStep (value : EncodableValue) (encodable : value.encodable = true) :
    (∀ offset, (∀ part ∈ value.parts offset, ReadsBack part.1 part.2) ↔ value.InStep offset) ∧
    (value.InStep 0 → ∃ bytes, encodeMessage value = .ok bytes ∧ decodeMessage bytes = value) ∧
    (∀ methodName : List UInt8, methodName.length < 2 ^ 32 →
      value.InStep (EncodableValue.endOffset (.string methodName) 0) →
      ∃ bytes, encodeMethodCall ⟨methodName, some value⟩ = .ok bytes ∧
        decodeMethodCall bytes = some ⟨methodName, some value⟩) :=
  ⟨fun _ => ⟨inStep_of_readsBack, readsBack_parts encodable⟩, decodeMessage_encodeMessage encodable,
    fun _ nameBound inStep => decodeMethodCall_encodeMethodCall nameBound encodable inStep⟩

def alignedValue : EncodableValue :=
  .list [.int32Vector [], .map [(.null, .doubleVector [1]), (.string [97], .bool true)]]

theorem readsBack_iff_inStep_alignedValue :
    (∀ part ∈ alignedValue.parts 0, ReadsBack part.1 part.2) ∧ ¬ alignedValue.InStep 1 ∧
    ∃ bytes, encodeMessage alignedValue = .ok bytes ∧ decodeMessage bytes = alignedValue := by
  have encodable : alignedValue.encodable = true := by decide +kernel
  have inStep : alignedValue.InStep 0 := by decide +kernel
  obtain ⟨parts, message, -⟩ := readsBack_iff_inStep alignedValue encodable
  exact ⟨(parts 0).mpr inStep, by decide +kernel, message inStep⟩

/-- The reader skips what follows an empty vector, and finds nothing where it ends up. -/
theorem decodeMessage_loses_value :
    (EncodableValue.list [.int64Vector [], .bool true]).encodable = true ∧
    encodeMessage (.list [.int64Vector [], .bool true]) = .ok [12, 2, 10, 0, 1] ∧
    decodeMessage [12, 2, 10, 0, 1] = .list [.int64Vector [], .null] ∧
    ¬ ReadsBack (.list [.int64Vector [], .bool true]) 0 := by
  have encoded : encodeMessage (.list [.int64Vector [], .bool true]) = .ok [12, 2, 10, 0, 1] := rfl
  have decoded : decodeMessage [12, 2, 10, 0, 1] = .list [.int64Vector [], .null] := rfl
  refine ⟨by decide, encoded, decoded, fun back => ?_⟩
  obtain ⟨stream, written, read⟩ := back ⟨[]⟩ rfl
  have read := read []
  cases written
  rw [decodeMessage_eq] at decoded
  cases (congrArg Prod.fst read).symm.trans decoded

end FlutterZero.ClientWrapper
