import FlutterZero.Lib.IntParse
import FlutterZero.Ui.ChannelBuffers
import FlutterZero.ClientWrapper.StandardCodec

/-! # Control messages

`ChannelBuffers.handleMessage` (`channel_buffers.dart`): a plugin configures the
buffer of its channel by a message to the control channel, as a method call of the
standard codec or as a text.

* `decodeMessage` — what a message asks for;
* `handleMessage` — its effect, also when it throws;
* `ResizeMessage` — the messages that name a size;
* `handleMessage_exact_iff` — the sizes that are taken exactly, and the names that
  reach their channel.

The part of the message that is not read yet stands for the index into its bytes.
-/

namespace FlutterZero.Ui

open Lib Lib.IntParse ClientWrapper

/-- What `handleMessage` throws. -/
inductive ControlError where
  | exception (message : String)
  | rangeError
  /-- By `utf8.decode` and `int.parse`. -/
  | formatException
  /-- By `resize` or `allowOverflow`. -/
  | fault (fault : DartFault)
deriving DecidableEq, Repr

inductive ControlCommand where
  | resize (name : String) (newSize : Int)
  | allowOverflow (name : String) (allowed : Bool)
deriving DecidableEq, Repr

namespace ControlMessage

def kControlChannelName : String := "dev.flutter/channel-buffers"

/-! ## Texts -/

def byteOrderMark : Char := Char.ofNat 0xFEFF

/-- `utf8.decode` drops a byte order mark at the start. -/
def utf8Decode (bytes : List UInt8) : Except ControlError (List Char) :=
  match bytes.toByteArray.utf8Decode? with
  | none => .error .formatException
  | some characters =>
    .ok (if characters.toList.head? = some byteOrderMark then characters.toList.tail else characters.toList)

def utf8Encode (text : List Char) : List UInt8 := text.flatMap String.utf8EncodeChar

/-! ## Decoding -/

def readByte : List UInt8 → Except ControlError (UInt8 × List UInt8)
  | [] => .error .rangeError
  | byte :: bytes => .ok (byte, bytes)

/-- `sublist`, and the bytes of `getUint32`. -/
def readBytes (length : Nat) (bytes : List UInt8) : Except ControlError (List UInt8 × List UInt8) :=
  if length ≤ bytes.length then .ok (bytes.take length, bytes.drop length) else .error .rangeError

def require (condition : Bool) (message : String) : Except ControlError Unit :=
  if condition then .ok () else .error (.exception message)

def invalidArguments (method reason : String) : String :=
  "Invalid arguments for '" ++ method ++ "' method sent to " ++ kControlChannelName ++ " (" ++ reason ++ ")"

def readChannelName (method secondArgument : String) (bytes : List UInt8) :
    Except ControlError (String × List UInt8) := do
  let twoElements := "arguments must be a two-element list, channel name and " ++ secondArgument
  let (code, bytes) ← readByte bytes
  require (code = 0x0C) (invalidArguments method twoElements)
  let (count, bytes) ← readByte bytes
  -- extra arguments are ignored
  require (0x02 ≤ count) (invalidArguments method twoElements)
  let (code, bytes) ← readByte bytes
  require (code = 0x07) (invalidArguments method "first argument must be a string")
  let (channelNameLength, bytes) ← readByte bytes
  require (channelNameLength < 254)
    (invalidArguments method "channel name must be less than 254 characters long")
  let (channelName, bytes) ← readBytes channelNameLength.toNat bytes
  let channelName ← utf8Decode channelName
  return (String.ofList channelName, bytes)

def decodeResize (bytes : List UInt8) : Except ControlError ControlCommand := do
  let (channelName, bytes) ← readChannelName "resize" "new capacity" bytes
  require (!ChannelBuffers.hasNull channelName)
    (invalidArguments "resize" "channel name must not contain any null bytes")
  let (code, bytes) ← readByte bytes
  require (code = 0x03)
    (invalidArguments "resize" "second argument must be an integer in the range 0 to 2147483647")
  let (number, _) ← readBytes 4 bytes
  return .resize channelName (ofLittleEndian number)

def decodeOverflow (bytes : List UInt8) : Except ControlError ControlCommand := do
  let (channelName, bytes) ← readChannelName "overflow" "flag state" bytes
  let (flag, _) ← readByte bytes
  require (flag = 0x01 || flag = 0x02) (invalidArguments "overflow" "second argument must be a boolean")
  return .allowOverflow channelName (flag = 0x01)

def decodeMethodCall (bytes : List UInt8) : Except ControlError ControlCommand := do
  let (methodNameLength, bytes) ← readByte bytes
  require (methodNameLength < 254)
    ("Unrecognized message sent to " ++ kControlChannelName ++ " (method name too long)")
  let (methodName, bytes) ← readBytes methodNameLength.toNat bytes
  let methodName ← utf8Decode methodName
  if methodName = "resize".toList then decodeResize bytes
  else if methodName = "overflow".toList then decodeOverflow bytes
  else
    .error (.exception ("Unrecognized method '" ++ String.ofList methodName ++ "' sent to " ++ kControlChannelName))

def decodeText (bytes : List UInt8) : Except ControlError ControlCommand := do
  let parts := (← utf8Decode bytes).splitOn '\r'
  let unrecognized := "Unrecognized message [" ++ ", ".intercalate (parts.map String.ofList) ++ "] sent to " ++
    kControlChannelName ++ "."
  match parts with
  | [method, name, newSize] =>
    if method = "resize".toList then
      match intParse newSize with
      | some newSize => return .resize (String.ofList name) newSize
      | none => .error .formatException
    else .error (.exception unrecognized)
  | _ => .error (.exception unrecognized)

def decodeMessage : List UInt8 → Except ControlError ControlCommand
  | [] => .error .rangeError
  | code :: bytes => if code = 0x07 then decodeMethodCall bytes else decodeText (code :: bytes)

end ControlMessage

/-! ## Effects -/

structure Handled (α : Type) where
  thrown : Option ControlError
  events : List (Event α)
  buffers : ChannelBuffers α

namespace ChannelBuffers

variable {α : Type}

/-- The messages that `_dropOverflowMessages` removes and keeps, and whether it throws in the end. -/
def dropLoop : List α → Int → List α × List α × Option ControlError
  | [], lengthLimit => ([], [], if (0 : Int) > lengthLimit then some (.fault .noElement) else none)
  | message :: rest, lengthLimit =>
    if ((message :: rest).length : Int) > lengthLimit then
      let (dropped, kept, thrown) := dropLoop rest lengthLimit
      (message :: dropped, kept, thrown)
    else ([], message :: rest, none)

/-- `resize`, with what is left behind if it throws. -/
def resizeEffect (s : ChannelBuffers α) (name : String) (newSize : Int) : Handled α :=
  match s.channels[name]? with
  | none =>
    if hasNull name then ⟨some (.fault .assertion), [], s⟩ else ⟨none, [], s.setChannel name (.create newSize)⟩
  | some channel =>
    let (dropped, kept, thrown) := dropLoop channel.queue newSize
    ⟨thrown, dropped.map (.repliedNull name), s.setChannel name { channel with capacity := newSize, queue := kept }⟩

/-- `allowOverflow` throws before it changes anything. -/
def allowOverflowEffect (s : ChannelBuffers α) (name : String) (allowed : Bool) : Handled α :=
  match s.allowOverflow name allowed with
  | .ok (events, s') => ⟨none, events, s'⟩
  | .error fault => ⟨some (.fault fault), [], s⟩

def handleMessage (s : ChannelBuffers α) (data : List UInt8) : Handled α :=
  match ControlMessage.decodeMessage data with
  | .error error => ⟨some error, [], s⟩
  | .ok (.resize name newSize) => s.resizeEffect name newSize
  | .ok (.allowOverflow name allowed) => s.allowOverflowEffect name allowed

def maxSize : Int := 2147483647

def ExactOrRejected (s : ChannelBuffers α) (data : List UInt8) : Prop :=
  ((s.handleMessage data).thrown.isSome = true ∧ (s.handleMessage data).events = [] ∧
      (s.handleMessage data).buffers = s) ∨
    (∃ name newSize, 0 ≤ newSize ∧ newSize ≤ maxSize ∧ s.handleMessage data = s.resizeEffect name newSize) ∨
    ∃ name allowed, s.handleMessage data = s.allowOverflowEffect name allowed

end ChannelBuffers

/-! ## The messages that name a size -/

namespace ControlMessage

inductive ResizeMessage : List UInt8 → String → Int → Prop where
  | methodCall {method encoded number rest : List UInt8} {count : UInt8} {name : List Char}
      (method_short : method.length < 254) (method_name : utf8Decode method = .ok "resize".toList)
      (two : 2 ≤ count) (short : encoded.length < 254) (decoded : utf8Decode encoded = .ok name)
      (noNull : ChannelBuffers.hasNull (String.ofList name) = false) (four : number.length = 4) :
      ResizeMessage
        (0x07 :: UInt8.ofNat method.length :: (method ++
          (0x0C :: count :: 0x07 :: UInt8.ofNat encoded.length :: (encoded ++ (0x03 :: (number ++ rest))))))
        (String.ofList name) (ofLittleEndian number)
  | text {bytes : List UInt8} {text name newSize : List Char} {size : Int} (no_code : bytes.head? ≠ some 0x07)
      (decoded : utf8Decode bytes = .ok text) (parts : text.splitOn '\r' = ["resize".toList, name, newSize])
      (number : intParse newSize = some size) : ResizeMessage bytes (String.ofList name) size

variable {bytes : List UInt8}

theorem readByte_eq_ok {rest : List UInt8} {byte : UInt8} :
    readByte bytes = .ok (byte, rest) ↔ bytes = byte :: rest := by
  cases bytes with
  | nil => simp [readByte]
  | cons first bytes => simp [readByte]

theorem readBytes_eq_ok {length : Nat} {first rest : List UInt8} :
    readBytes length bytes = .ok (first, rest) ↔ first.length = length ∧ bytes = first ++ rest := by
  unfold readBytes
  constructor
  · intro read
    split at read
    · rename_i enough
      cases read
      exact ⟨List.length_take_of_le enough, (List.take_append_drop length bytes).symm⟩
    · cases read
  · rintro ⟨rfl, rfl⟩
    rw [if_pos (by simp), List.take_left, List.drop_left]

theorem require_eq_ok {condition : Bool} {message : String} {out : Unit} :
    require condition message = .ok out ↔ condition = true := by
  cases condition <;> simp [require]

theorem ofNat_toNat_length {length : UInt8} (counted : bytes.length = length.toNat) :
    length = UInt8.ofNat bytes.length := by
  rw [counted, UInt8.ofNat_toNat]

theorem toNat_ofNat_length (short : bytes.length < 254) : (UInt8.ofNat bytes.length).toNat = bytes.length := by
  rw [UInt8.toNat_ofNat', Nat.mod_eq_of_lt (by omega)]

theorem ofNat_length_lt (short : bytes.length < 254) : UInt8.ofNat bytes.length < 254 := by
  rw [UInt8.lt_iff_toNat_lt, toNat_ofNat_length short]
  exact short

variable {method secondArgument : String} {bytes rest : List UInt8} {name : String}

theorem readChannelName_eq_ok :
    readChannelName method secondArgument bytes = .ok (name, rest) ↔
      ∃ (count : UInt8) (encoded : List UInt8) (characters : List Char), 2 ≤ count ∧ encoded.length < 254 ∧
        utf8Decode encoded = .ok characters ∧ name = String.ofList characters ∧
        bytes = 0x0C :: count :: 0x07 :: UInt8.ofNat encoded.length :: (encoded ++ rest) := by
  simp only [readChannelName, bind_eq_ok, Prod.exists, readByte_eq_ok, require_eq_ok, readBytes_eq_ok,
    decide_eq_true_eq, pure_eq_ok, Except.ok.injEq, Prod.mk.injEq]
  constructor
  · rintro ⟨_, _, rfl, _, rfl, count, _, rfl, _, two, _, _, rfl, _, rfl, length, _, rfl, _, short, encoded, _,
      ⟨counted, rfl⟩, characters, decoded, rfl, rfl⟩
    refine ⟨count, encoded, characters, two, ?_, decoded, rfl, ?_⟩
    · rw [counted]
      exact UInt8.lt_iff_toNat_lt.mp short
    · rw [ofNat_toNat_length counted]
  · rintro ⟨count, encoded, characters, two, short, decoded, rfl, rfl⟩
    exact ⟨_, _, rfl, (), rfl, count, _, rfl, (), two, _, _, rfl, (), rfl, _, _, rfl, (), ofNat_length_lt short,
      encoded, rest, ⟨(toNat_ofNat_length short).symm, rfl⟩, characters, decoded, rfl, rfl⟩

variable {command : ControlCommand}

theorem decodeResize_eq_ok : decodeResize bytes = .ok command ↔
      ∃ name number rest rest', readChannelName "resize" "new capacity" bytes = .ok (name, rest) ∧
        ChannelBuffers.hasNull name = false ∧ number.length = 4 ∧ rest = 0x03 :: (number ++ rest') ∧
        command = .resize name (ofLittleEndian number) := by
  simp only [decodeResize, bind_eq_ok, Prod.exists, readByte_eq_ok, require_eq_ok, readBytes_eq_ok,
    decide_eq_true_eq, pure_eq_ok, Except.ok.injEq, Bool.not_eq_true']
  constructor
  · rintro ⟨name, _, read, _, noNull, _, _, rfl, _, rfl, number, rest', ⟨four, rfl⟩, rfl⟩
    exact ⟨name, number, _, rest', read, noNull, four, rfl, rfl⟩
  · rintro ⟨name, number, _, rest', read, noNull, four, rfl, rfl⟩
    exact ⟨name, _, read, (), noNull, _, _, rfl, (), rfl, number, rest', ⟨four, rfl⟩, rfl⟩

theorem decodeOverflow_eq_ok : decodeOverflow bytes = .ok command ↔
      ∃ name flag rest rest', readChannelName "overflow" "flag state" bytes = .ok (name, rest) ∧
        (flag = 0x01 ∨ flag = 0x02) ∧ rest = flag :: rest' ∧ command = .allowOverflow name (flag = 0x01) := by
  simp only [decodeOverflow, bind_eq_ok, Prod.exists, readByte_eq_ok, require_eq_ok, decide_eq_true_eq, pure_eq_ok,
    Except.ok.injEq, Bool.or_eq_true]
  constructor
  · rintro ⟨name, _, read, flag, rest', rfl, _, known, rfl⟩
    exact ⟨name, flag, _, rest', read, known, rfl, rfl⟩
  · rintro ⟨name, flag, _, rest', read, known, rfl, rfl⟩
    exact ⟨name, _, read, flag, rest', rfl, (), known, rfl⟩

theorem decodeMethodCall_eq_ok : decodeMethodCall bytes = .ok command ↔
      ∃ (method rest : List UInt8) (name : List Char), method.length < 254 ∧ utf8Decode method = .ok name ∧
        bytes = UInt8.ofNat method.length :: (method ++ rest) ∧
        ((name = "resize".toList ∧ decodeResize rest = .ok command) ∨
          (name = "overflow".toList ∧ decodeOverflow rest = .ok command)) := by
  have distinct : "resize".toList ≠ "overflow".toList := by decide
  simp only [decodeMethodCall, bind_eq_ok, Prod.exists, readByte_eq_ok, require_eq_ok, readBytes_eq_ok,
    decide_eq_true_eq]
  constructor
  · rintro ⟨length, _, rfl, _, short, method, rest, ⟨counted, rfl⟩, name, decoded, chosen⟩
    refine ⟨method, rest, name, ?_, decoded, by rw [ofNat_toNat_length counted], ?_⟩
    · rw [counted]
      exact UInt8.lt_iff_toNat_lt.mp short
    · split at chosen
      · exact .inl ⟨‹_›, chosen⟩
      · split at chosen
        · exact .inr ⟨‹_›, chosen⟩
        · cases chosen
  · rintro ⟨method, rest, name, short, decoded, rfl, chosen⟩
    refine ⟨_, _, rfl, (), ofNat_length_lt short, method, rest, ⟨(toNat_ofNat_length short).symm, rfl⟩, name,
      decoded, ?_⟩
    rcases chosen with ⟨rfl, resizes⟩ | ⟨rfl, overflows⟩
    · rw [if_pos rfl, resizes]
    · rw [if_neg distinct.symm, if_pos rfl, overflows]

theorem decodeText_eq_ok : decodeText bytes = .ok command ↔
      ∃ (text name newSize : List Char) (size : Int), utf8Decode bytes = .ok text ∧
        text.splitOn '\r' = ["resize".toList, name, newSize] ∧ intParse newSize = some size ∧
        command = .resize (String.ofList name) size := by
  simp only [decodeText, bind_eq_ok]
  constructor
  · rintro ⟨text, decoded, matched⟩
    split at matched
    · rename_i method name newSize parts
      split at matched
      · rename_i isResize
        subst isResize
        split at matched
        · rename_i size number
          cases matched
          exact ⟨text, name, newSize, size, decoded, parts, number, rfl⟩
        · cases matched
      · cases matched
    · cases matched
  · rintro ⟨text, name, newSize, size, decoded, parts, number, rfl⟩
    refine ⟨text, decoded, ?_⟩
    simp only [parts, if_true, number]
    rfl

theorem decodeMessage_resize_iff {size : Int} :
    decodeMessage bytes = .ok (.resize name size) ↔ ResizeMessage bytes name size := by
  constructor
  · intro decoded
    match bytes with
    | [] => simp [decodeMessage] at decoded
    | code :: bytes =>
      rw [decodeMessage] at decoded
      split at decoded
      · rename_i isString
        subst isString
        obtain ⟨method, rest, methodName, short, isMethod, rfl, chosen⟩ := decodeMethodCall_eq_ok.mp decoded
        rcases chosen with ⟨rfl, resizes⟩ | ⟨rfl, overflows⟩
        · obtain ⟨_, number, _, rest', read, noNull, four, rfl, same⟩ := decodeResize_eq_ok.mp resizes
          cases same
          obtain ⟨count, encoded, characters, two, short', decoded', rfl, rfl⟩ := readChannelName_eq_ok.mp read
          exact .methodCall short isMethod two short' decoded' noNull four
        · obtain ⟨_, _, _, _, -, -, -, same⟩ := decodeOverflow_eq_ok.mp overflows
          cases same
      · rename_i notString
        obtain ⟨text, _, newSize, _, decoded', parts, number, same⟩ := decodeText_eq_ok.mp decoded
        cases same
        exact .text (by simpa using notString) decoded' parts number
  · intro names
    cases names with
    | methodCall method_short method_name two short decoded noNull four =>
      rw [decodeMessage, if_pos rfl, decodeMethodCall_eq_ok]
      refine ⟨_, _, _, method_short, method_name, rfl, .inl ⟨rfl, decodeResize_eq_ok.mpr ?_⟩⟩
      exact ⟨_, _, _, _, readChannelName_eq_ok.mpr ⟨_, _, _, two, short, decoded, rfl, rfl⟩, noNull, four, rfl, rfl⟩
    | text no_code decoded parts number =>
      match bytes with
      | [] =>
        -- no bytes decode to no text, which has a single part
        exfalso
        have none : utf8Decode [] = .ok [] := rfl
        rw [none] at decoded
        cases decoded
        simp at parts
      | code :: bytes =>
        rw [decodeMessage, if_neg (by simpa using no_code)]
        exact decodeText_eq_ok.mpr ⟨_, _, _, _, decoded, parts, number, rfl⟩

/-! ## Encoded messages -/

theorem utf8Decode_utf8Encode (text : List Char) :
    utf8Decode (utf8Encode text) = .ok (if text.head? = some byteOrderMark then text.tail else text) := by
  have decoded : (utf8Encode text).toByteArray.utf8Decode? = some text.toArray := List.utf8Decode?_utf8Encode
  rw [utf8Decode, decoded]

theorem utf8Decode_of_unmarked {text : List Char} (unmarked : text.head? ≠ some byteOrderMark) :
    utf8Decode (utf8Encode text) = .ok text := by
  rw [utf8Decode_utf8Encode, if_neg unmarked]

/-- `resize` and `overflow` as method calls. -/
def controlCall (method name : String) (argument : EncodableValue) : MethodCall :=
  ⟨utf8Encode method.toList, some (.list [.string (utf8Encode name.toList), argument])⟩

def resizeCall (name : String) (newSize : Nat) : MethodCall :=
  controlCall "resize" name (.int32 (BitVec.ofNat 32 newSize))

def overflowCall (name : String) (allowed : Bool) : MethodCall := controlCall "overflow" name (.bool allowed)

def resizeText (name : String) (newSize : Nat) : List UInt8 :=
  utf8Encode (['\r'].intercalate ["resize".toList, name.toList, Nat.toDigits 10 newSize])

section Encode

open StandardCodecSerializer

theorem writeValue_string {value : List UInt8} (short : value.length < 254) (stream : ByteBufferStreamWriter) :
    writeValue (.string value) stream =
      .ok ⟨stream.bytes ++ 0x07 :: UInt8.ofNat value.length :: value⟩ := by
  rw [writeValue]
  simp only [encodedTypeForValue, ok_bind, writeSize, if_pos short, ByteBufferStreamWriter.writeByte]
  by_cases empty : value = []
  · simp [empty, EncodedType.toByte]
  · have some : value.length > 0 := List.length_pos_iff.mpr empty
    simp [some, ByteBufferStreamWriter.writeBytes, EncodedType.toByte]

theorem encodeMethodCall_controlCall {method name : String} {argument : EncodableValue} {written : List UInt8}
    (method_short : (utf8Encode method.toList).length < 254) (short : (utf8Encode name.toList).length < 254)
    (writes : ∀ stream, writeValue argument stream = .ok ⟨stream.bytes ++ written⟩) :
    StandardMethodCodec.encodeMethodCall (controlCall method name argument) =
      .ok (0x07 :: UInt8.ofNat (utf8Encode method.toList).length :: (utf8Encode method.toList ++
        (0x0C :: 0x02 :: 0x07 :: UInt8.ofNat (utf8Encode name.toList).length ::
          (utf8Encode name.toList ++ written)))) := by
  have items : ∀ stream, writeValue (.list [.string (utf8Encode name.toList), argument]) stream =
      .ok ⟨stream.bytes ++ 0x0C :: 0x02 :: 0x07 :: UInt8.ofNat (utf8Encode name.toList).length ::
        (utf8Encode name.toList ++ written)⟩ := by
    intro stream
    rw [writeValue]
    simp [encodedTypeForValue, writeSize, ByteBufferStreamWriter.writeByte, writeItems, writeValue_string short,
      writes, EncodedType.toByte]
  simp [StandardMethodCodec.encodeMethodCall, controlCall, writeValue_string method_short, items]

theorem writeValue_int32 (value : BitVec 32) (stream : ByteBufferStreamWriter) :
    writeValue (.int32 value) stream = .ok ⟨stream.bytes ++ 0x03 :: bytesOf value⟩ := by
  rw [writeValue]
  simp [encodedTypeForValue, ByteBufferStreamWriter.writeByte, ByteBufferStreamWriter.writeInt32,
    ByteBufferStreamWriter.writeNumber, ByteBufferStreamWriter.writeBytes, EncodedType.toByte]

theorem writeValue_bool (value : Bool) (stream : ByteBufferStreamWriter) :
    writeValue (.bool value) stream = .ok ⟨stream.bytes ++ [if value then 0x01 else 0x02]⟩ := by
  rw [writeValue]
  cases value <;> simp [encodedTypeForValue, ByteBufferStreamWriter.writeByte, EncodedType.toByte]

end Encode

def decodedName (name : String) : String :=
  String.ofList (if name.toList.head? = some byteOrderMark then name.toList.tail else name.toList)

theorem decodedName_eq_iff (name : String) : decodedName name = name ↔ name.toList.head? ≠ some byteOrderMark := by
  unfold decodedName
  split
  · rename_i marked
    refine iff_of_false (fun same => ?_) (not_not_intro marked)
    have shorter := congrArg (fun name => name.toList.length) same
    simp only [String.toList_ofList, List.length_tail] at shorter
    have some : 0 < name.toList.length := List.length_pos_iff.mpr fun empty => by simp [empty] at marked
    omega
  · rename_i unmarked
    exact iff_of_true (String.ofList_toList) unmarked

theorem hasNull_decodedName {name : String} (noNull : ChannelBuffers.hasNull name = false) :
    ChannelBuffers.hasNull (decodedName name) = false := by
  simp only [ChannelBuffers.hasNull, List.contains_eq_mem, decide_eq_false_iff_not, decodedName,
    String.toList_ofList] at noNull ⊢
  split
  · exact fun inside => noNull (List.mem_of_mem_tail inside)
  · exact noNull

theorem decodeMessage_resizeCall {newSize : Nat} (short : (utf8Encode name.toList).length < 254)
    (noNull : ChannelBuffers.hasNull name = false) (small : newSize < 2 ^ 32) :
    ∃ data, StandardMethodCodec.encodeMethodCall (resizeCall name newSize) = .ok data ∧
      decodeMessage data = .ok (.resize (decodedName name) newSize) := by
  refine ⟨_, encodeMethodCall_controlCall (by decide) short (writeValue_int32 _), ?_⟩
  rw [decodeMessage_resize_iff]
  have number : (ofLittleEndian (bytesOf (BitVec.ofNat 32 newSize)) : Int) = newSize := by
    rw [bytesOf, BitVec.toNat_ofNat, Nat.mod_eq_of_lt small, ofLittleEndian_toLittleEndian (by simpa using small)]
  rw [← number, ← List.append_nil (bytesOf (BitVec.ofNat 32 newSize))]
  exact .methodCall (by decide) (utf8Decode_of_unmarked (by decide)) (by decide) short (utf8Decode_utf8Encode _)
    (hasNull_decodedName noNull) (by simp)

theorem decodeMessage_overflowCall {allowed : Bool} (short : (utf8Encode name.toList).length < 254) :
    ∃ data, StandardMethodCodec.encodeMethodCall (overflowCall name allowed) = .ok data ∧
      decodeMessage data = .ok (.allowOverflow (decodedName name) allowed) := by
  refine ⟨_, encodeMethodCall_controlCall (by decide) short (writeValue_bool _), ?_⟩
  rw [decodeMessage, if_pos rfl, decodeMethodCall_eq_ok]
  refine ⟨_, _, _, by decide, utf8Decode_of_unmarked (by decide), rfl, .inr ⟨rfl, decodeOverflow_eq_ok.mpr ?_⟩⟩
  refine ⟨decodedName name, if allowed then 0x01 else 0x02, _, [], readChannelName_eq_ok.mpr ?_, ?_, rfl, ?_⟩
  · exact ⟨_, _, _, by decide, short, utf8Decode_utf8Encode _, rfl, rfl⟩
  · cases allowed <;> simp
  · cases allowed <;> simp

/-! ## The older format -/

theorem utf8EncodeChar_r : String.utf8EncodeChar 'r' = [0x72] := by decide

theorem decodeMessage_resizeText {newSize : Nat} (noReturn : '\r' ∉ name.toList) (small : newSize < 2 ^ 63) :
    decodeMessage (resizeText name newSize) = .ok (.resize name newSize) := by
  have digits : '\r' ∉ Nat.toDigits 10 newSize := fun inside =>
    absurd (Nat.isDigit_of_mem_toDigits (by decide) (by decide) inside) (by decide)
  have parts : (['\r'].intercalate ["resize".toList, name.toList, Nat.toDigits 10 newSize]).splitOn '\r' =
      ["resize".toList, name.toList, Nat.toDigits 10 newSize] := by
    apply List.splitOn_intercalate
    · simpa using ⟨noReturn, digits⟩
    · simp
  have start : ∃ rest, ['\r'].intercalate ["resize".toList, name.toList, Nat.toDigits 10 newSize] = 'r' :: rest :=
    ⟨_, rfl⟩
  obtain ⟨rest, start⟩ := start
  have no_code : (resizeText name newSize).head? ≠ some 0x07 := by
    rw [resizeText, start, utf8Encode, List.flatMap_cons, utf8EncodeChar_r]
    simp
  have unmarked : (['\r'].intercalate ["resize".toList, name.toList, Nat.toDigits 10 newSize]).head? ≠
      some byteOrderMark := by
    rw [start, List.head?_cons]
    decide
  have names := ResizeMessage.text no_code (utf8Decode_of_unmarked unmarked) parts (intParse_toDigits small)
  rw [String.ofList_toList] at names
  exact decodeMessage_resize_iff.mpr names

end ControlMessage

/-! ## Exact effects -/

namespace ChannelBuffers

open ControlMessage

variable {α : Type} {s : ChannelBuffers α} {name other : String} {newSize : Int} {allowed : Bool}

theorem channels_resizeEffect_of_ne (different : other ≠ name) :
    (s.resizeEffect name newSize).buffers.channels[other]? = s.channels[other]? := by
  unfold resizeEffect
  split
  · split
    · rfl
    · simp [setChannel, Std.TreeMap.getElem?_insert, different.symm]
  · simp [setChannel, Std.TreeMap.getElem?_insert, different.symm]

variable {channel : Channel α}

theorem capacity_resizeEffect (found : s.channels[name]? = some channel) :
    ((s.resizeEffect name newSize).buffers.channels[name]?).map Channel.capacity = some newSize := by
  simp [resizeEffect, found, setChannel]

theorem channels_allowOverflowEffect_of_ne (different : other ≠ name) :
    (s.allowOverflowEffect name allowed).buffers.channels[other]? = s.channels[other]? := by
  unfold allowOverflowEffect allowOverflow
  cases s.channels[name]? with
  | some channel => simp [setChannel, Std.TreeMap.getElem?_insert, different.symm]
  | none =>
    cases allowed with
    | false => rfl
    | true =>
      cases null : hasNull name with
      | true => simp [dartAssert]
      | false => simp [dartAssert, setChannel, Std.TreeMap.getElem?_insert, different.symm]

theorem allowOverflowEffect_of_some (found : s.channels[name]? = some channel) :
    (s.allowOverflowEffect name allowed).buffers.channels[name]? =
      some { channel with debugEnableDiscardWarnings := !allowed } := by
  simp [allowOverflowEffect, allowOverflow, found, setChannel]

theorem capacity_allowOverflowEffect (found : s.channels[other]? = some channel) :
    ((s.allowOverflowEffect name allowed).buffers.channels[other]?).map Channel.capacity =
      some channel.capacity := by
  by_cases same : other = name
  · subst same
    rw [allowOverflowEffect_of_some found]
    rfl
  · rw [channels_allowOverflowEffect_of_ne same, found]
    rfl

variable {data : List UInt8}

theorem exactOrRejected_of_sizes
    (sizes : ∀ name size, ResizeMessage data name size → 0 ≤ size ∧ size ≤ maxSize) (s : ChannelBuffers α) :
    s.ExactOrRejected data := by
  unfold ExactOrRejected handleMessage
  match decoded : decodeMessage data with
  | .error error => exact .inl ⟨rfl, rfl, rfl⟩
  | .ok (.resize name size) =>
    obtain ⟨low, high⟩ := sizes name size (decodeMessage_resize_iff.mp decoded)
    exact .inr (.inl ⟨name, size, low, high, rfl⟩)
  | .ok (.allowOverflow name allowed) => exact .inr (.inr ⟨name, allowed, rfl⟩)

theorem not_exactOrRejected (found : s.channels[name]? = some channel)
    {size : Int} (names : ResizeMessage data name size) (outside : ¬ (0 ≤ size ∧ size ≤ maxSize))
    (differs : channel.capacity ≠ size) : ¬ s.ExactOrRejected data := by
  have handled : s.handleMessage data = s.resizeEffect name size := by
    rw [handleMessage, decodeMessage_resize_iff.mpr names]
  have capacity : (s.resizeEffect name size).buffers.channels[name]?.map Channel.capacity = some size :=
    capacity_resizeEffect found
  rintro (⟨-, -, unchanged⟩ | ⟨name', size', low, high, same⟩ | ⟨name', allowed, same⟩)
  · rw [handled] at unchanged
    rw [unchanged, found] at capacity
    exact differs (Option.some.inj capacity)
  · rw [← handled, same] at capacity
    by_cases isName : name = name'
    · subst isName
      rw [capacity_resizeEffect found] at capacity
      cases capacity
      exact outside ⟨low, high⟩
    · rw [channels_resizeEffect_of_ne isName, found] at capacity
      exact differs (Option.some.inj capacity)
  · rw [← handled, same, capacity_allowOverflowEffect found] at capacity
    exact differs (Option.some.inj capacity)

def single (α : Type) (name : String) (allowed : Bool) : ChannelBuffers α :=
  create.setChannel name { Channel.create kDefaultBufferSize with debugEnableDiscardWarnings := allowed }

theorem channels_single : (single α name allowed).channels[name]? =
    some { Channel.create kDefaultBufferSize with debugEnableDiscardWarnings := allowed } := by
  simp [single, setChannel]

theorem exactOrRejected_iff : (∀ s : ChannelBuffers α, s.ExactOrRejected data) ↔
      ∀ name size, ResizeMessage data name size → 0 ≤ size ∧ size ≤ maxSize := by
  refine ⟨fun exact name size names => ?_, exactOrRejected_of_sizes⟩
  by_contra outside
  refine not_exactOrRejected channels_single names outside ?_ (exact (single α name true))
  rintro rfl
  exact outside ⟨Int.one_nonneg, (by decide : (1 : Int) ≤ maxSize)⟩

/-! ## The channel that is reached -/

def HasEffect (call : MethodCall) (effect : ChannelBuffers α → Handled α) : Prop :=
  ∃ data, StandardMethodCodec.encodeMethodCall call = .ok data ∧
    ∀ s : ChannelBuffers α, s.handleMessage data = effect s

/-- A call reaches its channel exactly if the name is decoded to itself, where the effects on channels of
    different names can be told apart. -/
theorem hasEffect_iff_of_decoded {call : MethodCall} (effect : String → ChannelBuffers α → Handled α)
    (encoded : StandardMethodCodec.encodeMethodCall call = .ok data)
    (handled : ∀ s : ChannelBuffers α, s.handleMessage data = effect (decodedName name) s)
    (apart : decodedName name ≠ name → ∃ s, effect (decodedName name) s ≠ effect name s) :
    HasEffect call (effect name) ↔ name.toList.head? ≠ some byteOrderMark := by
  rw [← decodedName_eq_iff]
  constructor
  · rintro ⟨data', encoded', takes⟩
    obtain rfl : data = data' := Except.ok.inj (encoded.symm.trans encoded')
    by_contra different
    obtain ⟨s, differs⟩ := apart different
    exact differs ((handled s).symm.trans (takes s))
  · intro same
    refine ⟨data, encoded, fun s => ?_⟩
    rw [handled, same]

theorem hasEffect_resizeCall_iff {size : Nat} (short : (utf8Encode name.toList).length < 254)
    (noNull : hasNull name = false) (small : (size : Int) ≤ maxSize) :
    HasEffect (resizeCall name size) (fun s : ChannelBuffers α => s.resizeEffect name size) ↔
      name.toList.head? ≠ some byteOrderMark := by
  have fits : size < 2 ^ 32 := by
    unfold maxSize at small
    omega
  obtain ⟨data, encoded, decoded⟩ := decodeMessage_resizeCall short noNull fits
  refine hasEffect_iff_of_decoded (fun name s => s.resizeEffect name size) encoded (fun s => ?_) fun different => ?_
  · rw [handleMessage, decoded]
  · -- only the channel of the decoded name is created
    have created : (create.resizeEffect name size : Handled α).buffers.channels[name]? = some (.create size) := by
      simp [resizeEffect, create, setChannel, noNull]
    refine ⟨create, fun same => ?_⟩
    rw [← same, channels_resizeEffect_of_ne (Ne.symm different)] at created
    simp [create] at created

theorem hasEffect_overflowCall_iff (short : (utf8Encode name.toList).length < 254) :
    HasEffect (overflowCall name allowed) (fun s : ChannelBuffers α => s.allowOverflowEffect name allowed) ↔
      name.toList.head? ≠ some byteOrderMark := by
  obtain ⟨data, encoded, decoded⟩ := decodeMessage_overflowCall short
  refine hasEffect_iff_of_decoded (fun name s => s.allowOverflowEffect name allowed) encoded (fun s => ?_)
    fun different => ?_
  · rw [handleMessage, decoded]
  · -- a channel that has the flag the other way keeps it
    have flipped : ((single α name allowed).allowOverflowEffect name allowed).buffers.channels[name]? = _ :=
      allowOverflowEffect_of_some channels_single
    refine ⟨single α name allowed, fun same => ?_⟩
    rw [← same, channels_allowOverflowEffect_of_ne (Ne.symm different), channels_single] at flipped
    cases allowed <;> simp at flipped

theorem handleMessage_resizeText {size : Nat} (noReturn : '\r' ∉ name.toList) (small : (size : Int) ≤ maxSize)
    (s : ChannelBuffers α) : s.handleMessage (resizeText name size) = s.resizeEffect name size := by
  have fits : size < 2 ^ 63 := by
    unfold maxSize at small
    omega
  rw [handleMessage, decodeMessage_resizeText noReturn fits]

/-- A message is taken exactly or rejected whole exactly if it names no size outside the documented
    ones; a method call reaches its channel exactly if the name does not start with a byte order mark,
    and a text always does. -/
theorem handleMessage_exact_iff :
    (∀ data, (∀ s : ChannelBuffers α, s.ExactOrRejected data) ↔
      ∀ name size, ResizeMessage data name size → 0 ≤ size ∧ size ≤ maxSize) ∧
    (∀ name : String, (utf8Encode name.toList).length < 254 → hasNull name = false →
      (∀ size : Nat, (size : Int) ≤ maxSize →
        (HasEffect (resizeCall name size) (fun s : ChannelBuffers α => s.resizeEffect name size) ↔
          name.toList.head? ≠ some byteOrderMark)) ∧
      (∀ allowed,
        (HasEffect (overflowCall name allowed) (fun s : ChannelBuffers α => s.allowOverflowEffect name allowed) ↔
          name.toList.head? ≠ some byteOrderMark)) ∧
      ('\r' ∉ name.toList → ∀ size : Nat, (size : Int) ≤ maxSize →
        ∀ s : ChannelBuffers α, s.handleMessage (resizeText name size) = s.resizeEffect name size)) := by
  refine ⟨fun data => exactOrRejected_iff, fun name short noNull => ⟨fun size small => ?_, fun allowed => ?_, ?_⟩⟩
  · exact hasEffect_resizeCall_iff short noNull small
  · exact hasEffect_overflowCall_iff short
  · exact fun noReturn size small s => handleMessage_resizeText noReturn small s

def waiting : Channel Nat := { (Channel.create kDefaultBufferSize : Channel Nat) with queue := [7] }

/-- A negative size in a text empties the channel and then throws. -/
theorem not_exactOrRejected_negative_size :
    ∃ events s, (create : ChannelBuffers Nat).push "ch" 7 = .ok (events, s) ∧
      ¬ s.ExactOrRejected (utf8Encode "resize\rch\r-1".toList) := by
  have names : ResizeMessage (utf8Encode "resize\rch\r-1".toList) (String.ofList "ch".toList) (-1) := by
    apply ResizeMessage.text
    · decide
    · exact utf8Decode_of_unmarked (by decide)
    · rfl
    · decide
  have pushed : (create : ChannelBuffers Nat).push "ch" 7 =
      .ok ([], create.setChannel "ch" waiting) := by
    simp [waiting, push, dartAssert, hasNull, putIfAbsent, create, Channel.push, Channel.create, kDefaultBufferSize,
      Channel.dropOverflowMessages, Channel.dropOverflow]
  have found : (create.setChannel "ch" waiting).channels["ch"]? = some waiting := by simp [setChannel]
  exact ⟨_, _, pushed, not_exactOrRejected found names (by decide) (by decide)⟩

end ChannelBuffers

end FlutterZero.Ui
