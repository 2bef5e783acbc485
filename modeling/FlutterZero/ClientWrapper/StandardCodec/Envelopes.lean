import FlutterZero.ClientWrapper.StandardCodec.RoundTrip

/-! # Response envelopes

`StandardMethodCodec` answers a method call with an envelope of a flag and the encoded
values (`standard_codec.cc`), and `DecodeAndProcessResponseEnvelope` turns one back into
a call of a `MethodResult`.

* `answered_iff` — on which responses it does so, or returns false.
* `readsBack_envelopes` — what is encoded arrives.
-/

namespace FlutterZero.ClientWrapper

open FlutterZero.Lib StandardCodecSerializer

/-- A call of a method of `MethodResult`; a pointer to a value is none for null. -/
inductive ResultCall where
  | success (result : Option EncodableValue)
  | error (errorCode errorMessage : List UInt8) (errorDetails : Option EncodableValue)
  | notImplemented

/-- What `std::get` throws for an alternative that is not there. -/
inductive BadVariantAccess where
  | badVariantAccess
deriving DecidableEq, Repr

namespace EncodableValue

def isNull : EncodableValue → Bool
  | .null => true
  | _ => false

/-- `std::get<std::string>`. -/
def getString : EncodableValue → Except BadVariantAccess (List UInt8)
  | .string value => .ok value
  | _ => .error .badVariantAccess

end EncodableValue

/-- `message_string`. -/
def messageString (message : EncodableValue) : Except BadVariantAccess (List UInt8) :=
  if message.isNull then .ok [] else message.getString

namespace StandardMethodCodec

def encodeSuccessEnvelope (result : Option EncodableValue) : Except Assertion (List UInt8) := do
  let stream := (⟨[]⟩ : ByteBufferStreamWriter).writeByte 0
  let stream ← writeValue (result.getD .null) stream
  return stream.bytes

def encodeErrorEnvelope (errorCode errorMessage : List UInt8) (errorDetails : Option EncodableValue) :
    Except Assertion (List UInt8) := do
  let stream := (⟨[]⟩ : ByteBufferStreamWriter).writeByte 1
  let stream ← writeValue (.string errorCode) stream
  let stream ← writeValue (if errorMessage.isEmpty then .null else .string errorMessage) stream
  let stream ← writeValue (errorDetails.getD .null) stream
  return stream.bytes

def decodeAndProcessResponseEnvelope (response : List UInt8) :
    Except BadVariantAccess (Bool × List ResultCall) :=
  let (flag, stream) := (⟨response, 0⟩ : ByteBufferStreamReader).readByte
  if flag = 0 then
    let (value, _) := readValue stream
    if value.isNull then .ok (true, [.success none]) else .ok (true, [.success (some value)])
  else if flag = 1 then do
    let (code, stream) := readValue stream
    let (message, stream) := readValue stream
    let (details, _) := readValue stream
    let messageString ← messageString message
    if details.isNull then
      let codeString ← code.getString
      .ok (true, [.error codeString messageString none])
    else
      let codeString ← code.getString
      .ok (true, [.error codeString messageString (some details)])
  else
    .ok (false, [])

end StandardMethodCodec

open StandardMethodCodec

/-! ## What the type byte tells -/

def isStringType (type : UInt8) : Prop := type = 5 ∨ type = 7

/-- The type bytes that are read as null: its own, and those of no type. -/
def isNullType (type : UInt8) : Prop := type = 0 ∨ 15 ≤ type

instance (type : UInt8) : Decidable (isStringType type) := inferInstanceAs (Decidable (_ ∨ _))

instance (type : UInt8) : Decidable (isNullType type) := inferInstanceAs (Decidable (_ ∨ _))

def skipString (stream : ByteBufferStreamReader) : ByteBufferStreamReader :=
  let (size, stream) := readSize stream
  (stream.readBytes (List.replicate size 0)).2

theorem readValue_type (stream : ByteBufferStreamReader) :
    ∃ read, readValueOfType read stream.readByte.1 stream.readByte.2 = some (readValue stream) := by
  refine ⟨readValueWithin (stream.bytes.length - stream.location), ?_⟩
  have read := Option.some_get (readValueWithin_isSome stream)
  exact read.symm

theorem type_of_ofByte (type : UInt8) :
    (isStringType type ↔ EncodedType.ofByte type = some .largeInt ∨ EncodedType.ofByte type = some .string) ∧
      (isNullType type ↔ EncodedType.ofByte type = none ∨ EncodedType.ofByte type = some .null) := by
  have all : ∀ code : Fin 256,
      (isStringType (UInt8.ofNat code) ↔ EncodedType.ofByte (UInt8.ofNat code) = some .largeInt ∨
        EncodedType.ofByte (UInt8.ofNat code) = some .string) ∧
      (isNullType (UInt8.ofNat code) ↔ EncodedType.ofByte (UInt8.ofNat code) = none ∨
        EncodedType.ofByte (UInt8.ofNat code) = some .null) := by decide +kernel
  simpa only [UInt8.ofNat_toNat] using all ⟨type.toNat, type.toNat_lt⟩

theorem readValue_of_isStringType {stream : ByteBufferStreamReader}
    (isString : isStringType stream.readByte.1) :
    ∃ value, readValue stream = (.string value, skipString stream.readByte.2) := by
  obtain ⟨read, readEq⟩ := readValue_type stream
  obtain type | type := (type_of_ofByte _).1.mp isString
  all_goals
    rw [readValueOfType, type] at readEq
    exact ⟨_, (Option.some.inj readEq).symm⟩

theorem readValue_kind (stream : ByteBufferStreamReader) :
    ((∃ value, (readValue stream).1 = .string value) ↔ isStringType stream.readByte.1) ∧
      ((readValue stream).1.isNull = true ↔ isNullType stream.readByte.1) := by
  obtain ⟨read, readEq⟩ := readValue_type stream
  obtain ⟨ofString, ofNull⟩ := type_of_ofByte stream.readByte.1
  rw [ofString, ofNull]
  rw [readValueOfType] at readEq
  cases type : EncodedType.ofByte stream.readByte.1 with
  | none =>
    simp only [type, Option.some.injEq] at readEq
    rw [← readEq]
    simp [EncodableValue.isNull]
  | some type' =>
    cases type' with
    | list =>
      simp only [type] at readEq
      obtain ⟨⟨list, stream'⟩, _, readEq⟩ := Option.bind_eq_some_iff.mp readEq
      rw [← Option.some.inj readEq]
      simp [EncodableValue.isNull]
    | map =>
      simp only [type] at readEq
      obtain ⟨⟨map, stream'⟩, _, readEq⟩ := Option.bind_eq_some_iff.mp readEq
      rw [← Option.some.inj readEq]
      simp [EncodableValue.isNull]
    | _ =>
      simp only [type, Option.some.injEq] at readEq
      rw [← readEq]
      simp [EncodableValue.isNull]

/-! ## Responses -/

def Answered (outcome : Except BadVariantAccess (Bool × List ResultCall)) : Prop :=
  (∃ call, outcome = .ok (true, [call])) ∨ outcome = .ok (false, [])

/-- The flag is not that of an error, or a string follows it, and null or another string
    behind that. -/
def Decodable (response : List UInt8) : Prop :=
  let (flag, stream) := (⟨response, 0⟩ : ByteBufferStreamReader).readByte
  let (codeType, stream) := stream.readByte
  let (messageType, _) := (skipString stream).readByte
  flag ≠ 1 ∨ (isStringType codeType ∧ (isStringType messageType ∨ isNullType messageType))

instance (response : List UInt8) : Decidable (Decodable response) := inferInstanceAs (Decidable (_ ∨ _))

theorem getString_eq_ok {value : EncodableValue} {text : List UInt8} :
    value.getString = .ok text ↔ value = .string text := by
  cases value <;> simp [EncodableValue.getString]

def answerSuccess (value : EncodableValue) : Except BadVariantAccess (Bool × List ResultCall) :=
  if value.isNull then .ok (true, [.success none]) else .ok (true, [.success (some value)])

def answerError (code message details : EncodableValue) : Except BadVariantAccess (Bool × List ResultCall) := do
  let messageString ← messageString message
  if details.isNull then
    let codeString ← code.getString
    .ok (true, [.error codeString messageString none])
  else
    let codeString ← code.getString
    .ok (true, [.error codeString messageString (some details)])

theorem answerError_eq (details : EncodableValue) {code : List UInt8} {message : EncodableValue} {text : List UInt8}
    (messageText : messageString message = .ok text) :
    answerError (.string code) message details =
      .ok (true, [.error code text (if details.isNull then none else some details)]) := by
  rw [answerError, messageText, ok_bind]
  by_cases null : details.isNull = true
  · rw [if_pos null, if_pos null]
    rfl
  · rw [if_neg null, if_neg null]
    rfl

theorem answered_answerError (code message details : EncodableValue) :
    Answered (answerError code message details) ↔
      (∃ text, code = .string text) ∧ ((∃ text, message = .string text) ∨ message.isNull = true) := by
  constructor
  · intro answered
    obtain ⟨outcome, returned⟩ : ∃ outcome, answerError code message details = .ok outcome := by
      obtain ⟨call, returned⟩ | returned := answered
      · exact ⟨_, returned⟩
      · exact ⟨_, returned⟩
    rw [answerError] at returned
    obtain ⟨text, messageText, returned⟩ := bind_eq_ok.mp returned
    have codeText : ∃ text, code.getString = .ok text := by
      by_cases null : details.isNull = true
      · rw [if_pos null] at returned
        obtain ⟨text, codeText, _⟩ := bind_eq_ok.mp returned
        exact ⟨text, codeText⟩
      · rw [if_neg null] at returned
        obtain ⟨text, codeText, _⟩ := bind_eq_ok.mp returned
        exact ⟨text, codeText⟩
    obtain ⟨text', codeText⟩ := codeText
    refine ⟨⟨text', getString_eq_ok.mp codeText⟩, ?_⟩
    by_cases null : message.isNull = true
    · exact .inr null
    · rw [messageString, if_neg null] at messageText
      exact .inl ⟨text, getString_eq_ok.mp messageText⟩
  · intro ⟨⟨codeText, codeEq⟩, messageKind⟩
    obtain ⟨text, messageText⟩ : ∃ text, messageString message = .ok text := by
      obtain ⟨text, messageEq⟩ | null := messageKind
      · exact ⟨text, by rw [messageEq]; rfl⟩
      · exact ⟨[], if_pos null⟩
    rw [codeEq, answerError_eq details messageText]
    exact .inl ⟨_, rfl⟩

/-- A response is answered with one call or refused exactly when it is decodable; on the
    others `std::get` throws. -/
theorem answered_iff (response : List UInt8) :
    Answered (decodeAndProcessResponseEnvelope response) ↔ Decodable response := by
  rw [decodeAndProcessResponseEnvelope, Decodable]
  generalize (⟨response, 0⟩ : ByteBufferStreamReader).readByte = start
  obtain ⟨flag, stream⟩ := start
  dsimp only
  by_cases success : flag = 0
  · rw [if_pos success]
    have notError : flag ≠ 1 := by
      rw [success]
      decide
    refine iff_of_true ?_ (.inl notError)
    by_cases null : (readValue stream).1.isNull = true
    · rw [if_pos null]
      exact .inl ⟨_, rfl⟩
    · rw [if_neg null]
      exact .inl ⟨_, rfl⟩
  rw [if_neg success]
  by_cases error : flag = 1
  · rw [if_pos error]
    show Answered (answerError _ _ _) ↔ _
    have codeKind := (readValue_kind stream).1
    have messageKind := readValue_kind (readValue stream).2
    rw [answered_answerError, codeKind, messageKind.1, messageKind.2]
    -- when the code is a string, the message starts where it ends
    by_cases isString : isStringType stream.readByte.1
    · obtain ⟨value, read⟩ := readValue_of_isStringType isString
      simp only [error, isString, read, ne_eq, not_true_eq_false, false_or, true_and]
    · simp only [error, isString, ne_eq, not_true_eq_false, false_or, false_and]
  · rw [if_neg error]
    exact iff_of_true (.inr rfl) (.inl error)

/-! ## Envelopes -/

def present (value : Option EncodableValue) : Option EncodableValue :=
  if (value.getD .null).isNull then none else value

theorem present_eq (value : Option EncodableValue) :
    present value = if (value.getD .null).isNull then none else some (value.getD .null) := by
  cases value with
  | none => rfl
  | some value => rfl

theorem readValue_written {value : EncodableValue} {before after : ByteBufferStreamWriter}
    (encodable : value.encodable = true) (inStep : value.InStep before.length)
    (written : writeValue value before = .ok after) (further : List UInt8) :
    readValue ⟨after.bytes ++ further, before.length⟩ = (value, ⟨after.bytes ++ further, after.length⟩) := by
  obtain ⟨stream, written', read⟩ := readsBack_of_inStep encodable inStep before rfl
  rw [written] at written'
  cases written'
  exact read further

theorem decode_encodeSuccessEnvelope {result : Option EncodableValue}
    (encodable : (result.getD .null).encodable = true) (inStep : (result.getD .null).InStep 1) :
    ∃ response, encodeSuccessEnvelope result = .ok response ∧
      decodeAndProcessResponseEnvelope response = .ok (true, [.success (present result)]) := by
  obtain ⟨after, written, ⟨rest, continues⟩, _⟩ := writeValue_writesTo _ encodable ⟨[0]⟩
  have behindFlag : (result.getD .null).InStep (⟨[0]⟩ : ByteBufferStreamWriter).length := inStep
  have read := readValue_written encodable behindFlag written []
  rw [List.append_nil] at read
  have flag : (⟨after.bytes, 0⟩ : ByteBufferStreamReader).readByte = (0, ⟨after.bytes, 1⟩) := by
    rw [← continues]
    rfl
  refine ⟨after.bytes, by rw [encodeSuccessEnvelope]; exact bind_eq_ok.mpr ⟨after, written, rfl⟩, ?_⟩
  rw [decodeAndProcessResponseEnvelope, flag]
  show answerSuccess (readValue ⟨after.bytes, 1⟩).1 = _
  rw [show readValue ⟨after.bytes, 1⟩ = _ from read, present_eq, answerSuccess]
  by_cases null : (result.getD .null).isNull = true
  · rw [if_pos null, if_pos null]
  · rw [if_neg null, if_neg null]

abbrev messageValue (errorMessage : List UInt8) : EncodableValue :=
  if errorMessage.isEmpty then .null else .string errorMessage

theorem messageString_messageValue (errorMessage : List UInt8) :
    messageString (messageValue errorMessage) = .ok errorMessage := by
  cases errorMessage <;> rfl

theorem inStep_string (text : List UInt8) (offset : Nat) : (EncodableValue.string text).InStep offset := by
  simp [EncodableValue.InStep, EncodableValue.parts, EncodableValue.emptyVectorTypeSize]

theorem inStep_messageValue (errorMessage : List UInt8) (offset : Nat) :
    (messageValue errorMessage).InStep offset := by
  cases errorMessage with
  | nil => simp [messageValue, EncodableValue.InStep, EncodableValue.parts, EncodableValue.emptyVectorTypeSize]
  | cons c text => exact inStep_string (c :: text) offset

theorem encodable_messageValue {errorMessage : List UInt8} (bound : errorMessage.length < 2 ^ 32) :
    (messageValue errorMessage).encodable = true := by
  cases errorMessage with
  | nil => rfl
  | cons c text => exact decide_eq_true bound

abbrev detailsOffset (errorCode errorMessage : List UInt8) : Nat :=
  (messageValue errorMessage).endOffset (EncodableValue.endOffset (.string errorCode) 1)

theorem decode_encodeErrorEnvelope {errorCode errorMessage : List UInt8} {errorDetails : Option EncodableValue}
    (codeBound : errorCode.length < 2 ^ 32) (messageBound : errorMessage.length < 2 ^ 32)
    (encodable : (errorDetails.getD .null).encodable = true)
    (inStep : (errorDetails.getD .null).InStep (detailsOffset errorCode errorMessage)) :
    ∃ response, encodeErrorEnvelope errorCode errorMessage errorDetails = .ok response ∧
      decodeAndProcessResponseEnvelope response =
        .ok (true, [.error errorCode errorMessage (present errorDetails)]) := by
  have codeEncodable : (EncodableValue.string errorCode).encodable = true := decide_eq_true codeBound
  obtain ⟨coded, writtenCode, ⟨rest₁, continues₁⟩, length₁⟩ := writeValue_writesTo _ codeEncodable ⟨[1]⟩
  obtain ⟨told, writtenMessage, ⟨rest₂, continues₂⟩, length₂⟩ :=
    writeValue_writesTo _ (encodable_messageValue messageBound) coded
  rw [length₁] at length₂
  have startsAt : told.length = detailsOffset errorCode errorMessage := length₂
  obtain ⟨after, writtenDetails, ⟨rest₃, continues₃⟩, _⟩ := writeValue_writesTo _ encodable told
  -- each value is followed by those written after it
  have readCode := readValue_written codeEncodable (inStep_string _ _) writtenCode (rest₂ ++ rest₃)
  have readMessage := readValue_written (encodable_messageValue messageBound) (inStep_messageValue _ _) writtenMessage
    rest₃
  have readDetails := readValue_written encodable (by rwa [startsAt]) writtenDetails []
  rw [← List.append_assoc, continues₂, continues₃] at readCode
  rw [continues₃] at readMessage
  rw [List.append_nil] at readDetails
  have flag : (⟨after.bytes, 0⟩ : ByteBufferStreamReader).readByte = (1, ⟨after.bytes, 1⟩) := by
    rw [← continues₃, ← continues₂, ← continues₁]
    rfl
  refine ⟨after.bytes, ?_, ?_⟩
  · rw [encodeErrorEnvelope]
    exact bind_eq_ok.mpr ⟨coded, writtenCode, bind_eq_ok.mpr ⟨told, writtenMessage,
      bind_eq_ok.mpr ⟨after, writtenDetails, rfl⟩⟩⟩
  · rw [decodeAndProcessResponseEnvelope, flag]
    dsimp only
    rw [if_neg (by decide), if_pos rfl]
    show answerError (readValue ⟨after.bytes, 1⟩).1 (readValue (readValue ⟨after.bytes, 1⟩).2).1
      (readValue (readValue (readValue ⟨after.bytes, 1⟩).2).2).1 = _
    rw [show readValue ⟨after.bytes, 1⟩ = _ from readCode, readMessage, readDetails,
      answerError_eq _ (messageString_messageValue errorMessage), present_eq]

/-- Every response is answered with one call or refused, if and only if it is decodable.
    What is encoded as a success or an error arrives as such, when the values are
    encodable and in step. -/
theorem answered_iff_decodable (response : List UInt8) :
    (Answered (decodeAndProcessResponseEnvelope response) ↔ Decodable response) ∧
    (∀ result : Option EncodableValue, (result.getD .null).encodable = true → (result.getD .null).InStep 1 →
      ∃ response, encodeSuccessEnvelope result = .ok response ∧
        decodeAndProcessResponseEnvelope response = .ok (true, [.success (present result)])) ∧
    (∀ (errorCode errorMessage : List UInt8) (errorDetails : Option EncodableValue),
      errorCode.length < 2 ^ 32 → errorMessage.length < 2 ^ 32 → (errorDetails.getD .null).encodable = true →
      (errorDetails.getD .null).InStep (detailsOffset errorCode errorMessage) →
      ∃ response, encodeErrorEnvelope errorCode errorMessage errorDetails = .ok response ∧
        decodeAndProcessResponseEnvelope response =
          .ok (true, [.error errorCode errorMessage (present errorDetails)])) :=
  ⟨answered_iff response, fun _ => decode_encodeSuccessEnvelope, fun _ _ _ => decode_encodeErrorEnvelope⟩

/-- A list as the result, and an error with a message and details. -/
theorem answered_iff_decodable_failed :
    (∃ response, encodeSuccessEnvelope (some (.list [.bool true])) = .ok response ∧
      decodeAndProcessResponseEnvelope response = .ok (true, [.success (present (some (.list [.bool true])))])) ∧
    (∃ response, encodeErrorEnvelope [102] [] (some (.int32 7)) = .ok response ∧
      decodeAndProcessResponseEnvelope response = .ok (true, [.error [102] [] (present (some (.int32 7)))])) :=
  ⟨(answered_iff_decodable []).2.1 (some (.list [.bool true])) (by decide) (by decide),
    (answered_iff_decodable []).2.2 [102] [] (some (.int32 7)) (by decide) (by decide) (by decide) (by decide)⟩

/-- An error envelope of three nulls. -/
theorem not_answered_nulls :
    ¬ Answered (decodeAndProcessResponseEnvelope [1, 0, 0, 0]) := by
  rintro (⟨call, answered⟩ | refused)
  · cases answered
  · cases refused

end FlutterZero.ClientWrapper
