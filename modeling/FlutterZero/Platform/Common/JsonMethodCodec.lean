import Mathlib.Data.List.TakeWhile
import FlutterZero.Lib.Machine
import FlutterZero.Lib.RapidJson

/-! # The JSON method codec

`JsonMethodCodec` (`json_method_codec.cc`) turns method calls and their responses into JSON
documents and back, with the values of rapidjson.

The accessors of rapidjson assert that a value has the type that they are for. The text of
a document is written and parsed by rapidjson as well, which is a parameter.

* `decodeMethodCall`, `decodeAndProcessResponseEnvelope` — what they return, or the
  assertion that fails;
* `callSurvives_iff`, `envelopeSurvives_iff` — the documents that are survived;
* `keepsCall`, `keepsSuccess_iff`, `keepsError` — what is encoded arrives, if rapidjson keeps its document;
* `survives_iff` — all of this together.
-/

namespace FlutterZero.Platform.Common

open FlutterZero.Lib

/-- What the message codec uses of rapidjson: `Parse`, and `Accept` with a `Writer`. -/
structure RapidJson (ν : Type) where
  parse : List UInt8 → Option (JsonValue ν)
  write : JsonValue ν → List UInt8

/-! ## The codec -/

/-- `"method"` -/
def kMessageMethodKey : List UInt8 := [0x6D, 0x65, 0x74, 0x68, 0x6F, 0x64]

/-- `"args"` -/
def kMessageArgumentsKey : List UInt8 := [0x61, 0x72, 0x67, 0x73]

structure MethodCall (ν : Type) where
  methodName : List UInt8
  arguments : Option (JsonValue ν)

/-- A call of a method of `MethodResult`; a pointer to a value is none for null. -/
inductive ResultCall (ν : Type) where
  | success (result : Option (JsonValue ν))
  | error (code message : List UInt8) (details : Option (JsonValue ν))

def extractElement {ν : Type} (subtree : JsonValue ν) : JsonValue ν × JsonValue ν :=
  -- the subtree is swapped to the root, and the root into a new document
  (subtree, .null)

namespace RapidJson

variable {ν : Type} (json : RapidJson ν)

def decodeMethodCall (message : List UInt8) : Except JsonFault (Option (MethodCall ν)) :=
  match json.parse message with
  | none => .ok none
  | some jsonMessage => do
    match ← jsonMessage.findMember kMessageMethodKey with
    | none => return none
    | some name =>
      if name.isString = false then return none
      let methodName ← name.getString
      match ← jsonMessage.findMember kMessageArgumentsKey with
      | none => return some ⟨methodName, none⟩
      | some arguments => return some ⟨methodName, some (extractElement arguments).1⟩

def callDocument (call : MethodCall ν) : JsonValue ν :=
  .object [(kMessageMethodKey, .string call.methodName), (kMessageArgumentsKey, call.arguments.getD .null)]

def encodeMethodCall (call : MethodCall ν) : List UInt8 := json.write (callDocument call)

def successDocument (result : Option (JsonValue ν)) : JsonValue ν := .array [result.getD .null]

def encodeSuccessEnvelope (result : Option (JsonValue ν)) : List UInt8 := json.write (successDocument result)

def errorDocument (errorCode errorMessage : List UInt8) (errorDetails : Option (JsonValue ν)) : JsonValue ν :=
  .array [.string errorCode, .string errorMessage, errorDetails.getD .null]

def encodeErrorEnvelope (errorCode errorMessage : List UInt8) (errorDetails : Option (JsonValue ν)) : List UInt8 :=
  json.write (errorDocument errorCode errorMessage errorDetails)

def decodeAndProcessResponseEnvelope (response : List UInt8) : Except JsonFault (Bool × List (ResultCall ν)) :=
  match json.parse response with
  | none => .ok (false, [])
  | some jsonResponse =>
    if jsonResponse.isArray = false then .ok (false, [])
    else do
      match ← jsonResponse.size with
      | 1 =>
        let value := (extractElement (← jsonResponse.element 0)).1
        if value.isNull then return (true, [.success none]) else return (true, [.success (some value)])
      | 3 =>
        let code ← (← jsonResponse.element 0).getString
        let message ← (← jsonResponse.element 1).getString
        -- nothing is read from the response once the details are taken out of it
        let details := (extractElement (← jsonResponse.element 2)).1
        if details.isNull then return (true, [.error code message none])
        else return (true, [.error code message (some details)])
      | _ => return (false, [])

/-! ## The documents that are survived -/

def CallSurvives (message : List UInt8) : Prop := ∃ call, json.decodeMethodCall message = .ok call

def EnvelopeSurvives (response : List UInt8) : Prop :=
  ∃ answered calls, json.decodeAndProcessResponseEnvelope response = .ok (answered, calls) ∧
    calls.length = if answered then 1 else 0

variable {json}

section Survival

variable {message response : List UInt8} {code text value details : JsonValue ν}

theorem callSurvives_iff :
    json.CallSurvives message ↔ ∀ document, json.parse message = some document → document.isObject = true := by
  unfold CallSurvives decodeMethodCall
  cases parsed : json.parse message with
  | none => simp
  | some document =>
    cases document with
    | object members =>
      simp only [JsonValue.findMember, JsonValue.isObject, Option.some.injEq, forall_eq', iff_true]
      -- every accessor is applied to the object, or to a string
      cases members.lookup kMessageMethodKey with
      | none => exact ⟨none, rfl⟩
      | some name =>
        cases name with
        | string value =>
          cases members.lookup kMessageArgumentsKey with
          | none => exact ⟨_, rfl⟩
          | some arguments => exact ⟨_, rfl⟩
        | _ => exact ⟨none, rfl⟩
    | _ =>
      constructor
      · rintro ⟨call, decoded⟩
        cases decoded
      · intro isObject
        cases isObject _ rfl

def present (value : JsonValue ν) : Option (JsonValue ν) := if value.isNull then none else some value

theorem decode_one (parsed : json.parse response = some (.array [value])) :
    json.decodeAndProcessResponseEnvelope response = .ok (true, [.success (present value)]) := by
  unfold decodeAndProcessResponseEnvelope
  rw [parsed]
  cases value <;> rfl

theorem decode_three (parsed : json.parse response = some (.array [code, text, details])) :
    json.decodeAndProcessResponseEnvelope response = (do
      let code ← code.getString
      let text ← text.getString
      return (true, [.error code text (present details)])) := by
  unfold decodeAndProcessResponseEnvelope
  rw [parsed]
  cases code with
  | string code =>
    cases text with
    | string text => cases details <;> rfl
    | _ => rfl
  | _ => rfl

theorem decode_other (none : ∀ value, json.parse response ≠ some (.array [value]))
    (notThree : ∀ code text details, json.parse response ≠ some (.array [code, text, details])) :
    json.decodeAndProcessResponseEnvelope response = .ok (false, []) := by
  unfold decodeAndProcessResponseEnvelope
  cases parsed : json.parse response with
  | none => rfl
  | some document =>
    cases document with
    | array elements =>
      match elements with
      | [value] => exact absurd parsed (none value)
      | [code, text, details] => exact absurd parsed (notThree code text details)
      | [] => rfl
      | [_, _] => rfl
      | _ :: _ :: _ :: _ :: _ => rfl
    | _ => rfl

theorem decode_cases (response : List UInt8) :
    (∃ value, json.parse response = some (.array [value])) ∨
      (∃ code text details, json.parse response = some (.array [code, text, details])) ∨
      json.decodeAndProcessResponseEnvelope response = .ok (false, []) := by
  by_cases one : ∃ value, json.parse response = some (.array [value])
  · exact .inl one
  by_cases three : ∃ code text details, json.parse response = some (.array [code, text, details])
  · exact .inr (.inl three)
  · exact .inr (.inr (decode_other (fun value parsed => one ⟨value, parsed⟩)
      fun code text details parsed => three ⟨code, text, details, parsed⟩))

theorem envelopeSurvives_iff : json.EnvelopeSurvives response ↔
    ∀ code text details, json.parse response = some (.array [code, text, details]) →
      code.isString = true ∧ text.isString = true := by
  unfold EnvelopeSurvives
  by_cases three : ∃ code text details, json.parse response = some (.array [code, text, details])
  · obtain ⟨code, text, details, parsed⟩ := three
    rw [decode_three parsed, parsed]
    -- both strings are read, or an assertion fails
    cases code with
    | string code =>
      cases text with
      | string text => exact iff_of_true ⟨true, _, rfl, rfl⟩ (by simp [JsonValue.isString])
      | _ =>
        refine iff_of_false ?_ fun strings => Bool.false_ne_true (strings _ _ _ rfl).2
        rintro ⟨answered, calls, decoded, -⟩
        cases decoded
    | _ =>
      refine iff_of_false ?_ fun strings => Bool.false_ne_true (strings _ _ _ rfl).1
      rintro ⟨answered, calls, decoded, -⟩
      cases decoded
  · refine iff_of_true ?_ fun code text details parsed => absurd ⟨code, text, details, parsed⟩ three
    obtain ⟨value, parsed⟩ | isThree | other := json.decode_cases response
    · exact ⟨true, _, decode_one parsed, rfl⟩
    · exact absurd isThree three
    · exact ⟨false, [], other, rfl⟩

end Survival

/-! ## What is encoded -/

section RoundTrip

variable (json)

def Keeps (document : JsonValue ν) : Prop := json.parse (json.write document) = some document

def KeepsCall (call : MethodCall ν) : Prop :=
  ∃ decoded, json.decodeMethodCall (json.encodeMethodCall call) = .ok (some decoded) ∧
    decoded.methodName = call.methodName ∧ decoded.arguments.getD .null = call.arguments.getD .null

def KeepsSuccess (result : Option (JsonValue ν)) : Prop :=
  json.decodeAndProcessResponseEnvelope (json.encodeSuccessEnvelope result) =
    .ok (true, [.success (result.bind present)])

def KeepsError (errorCode errorMessage : List UInt8) (errorDetails : Option (JsonValue ν)) : Prop :=
  json.decodeAndProcessResponseEnvelope (json.encodeErrorEnvelope errorCode errorMessage errorDetails) =
    .ok (true, [.error errorCode errorMessage (errorDetails.bind present)])

variable {json}

theorem present_getD (result : Option (JsonValue ν)) : present (result.getD .null) = result.bind present := by
  cases result <;> rfl

theorem takeWhile_ne_zero_iff {text : List UInt8} : text.takeWhile (· ≠ 0) = text ↔ 0 ∉ text := by
  rw [List.takeWhile_eq_self_iff]
  constructor
  · intro all member
    exact absurd (all 0 member) (by decide)
  · intro absent c member
    exact decide_eq_true fun zero => absent (zero ▸ member)

theorem not_mem_takeWhile (text : List UInt8) : 0 ∉ text.takeWhile (· ≠ 0) :=
  fun member => absurd (List.mem_takeWhile_imp member) (by decide)

theorem getString_eq_ok {value : JsonValue ν} {text : List UInt8} (read : value.getString = .ok text) : 0 ∉ text := by
  cases value with
  | string value =>
    cases read
    exact not_mem_takeWhile value
  | _ => cases read

theorem present_injective : Function.Injective (present : JsonValue ν → Option (JsonValue ν)) := by
  intro value other same
  cases value <;> cases other <;> simp_all [present, JsonValue.isNull]

theorem keepsCall {call : MethodCall ν} (keeps : json.Keeps (callDocument call)) (plain : 0 ∉ call.methodName) :
    json.KeepsCall call := by
  have decoded : json.decodeMethodCall (json.encodeMethodCall call) =
      .ok (some ⟨call.methodName.takeWhile (· ≠ 0), some (call.arguments.getD .null)⟩) := by
    unfold decodeMethodCall
    rw [show json.parse (json.encodeMethodCall call) = _ from keeps]
    rfl
  exact ⟨_, decoded, takeWhile_ne_zero_iff.mpr plain, rfl⟩

theorem not_mem_methodName {message : List UInt8} {call : MethodCall ν}
    (decoded : json.decodeMethodCall message = .ok (some call)) : 0 ∉ call.methodName := by
  unfold decodeMethodCall at decoded
  cases parsed : json.parse message with
  | none =>
    rw [parsed] at decoded
    cases decoded
  | some document =>
    rw [parsed] at decoded
    obtain ⟨found, _, decoded⟩ := bind_eq_ok.mp decoded
    cases found with
    | none => cases decoded
    | some name =>
      dsimp only at decoded
      split at decoded
      · cases decoded
      obtain ⟨methodName, read, decoded⟩ := bind_eq_ok.mp decoded
      obtain ⟨arguments, _, decoded⟩ := bind_eq_ok.mp decoded
      have plain := getString_eq_ok read
      cases arguments with
      | none =>
        cases decoded
        exact plain
      | some arguments =>
        cases decoded
        exact plain

theorem keepsSuccess_iff {result : Option (JsonValue ν)} :
    json.KeepsSuccess result ↔ json.Keeps (successDocument result) := by
  constructor
  · intro kept
    unfold KeepsSuccess at kept
    -- only an array of one value is answered with a success
    obtain ⟨value, parsed⟩ | ⟨code, text, details, parsed⟩ | other := decode_cases (json.encodeSuccessEnvelope result)
    · rw [decode_one parsed, ← present_getD] at kept
      simp only [Except.ok.injEq, Prod.mk.injEq, List.cons.injEq, ResultCall.success.injEq, and_true, true_and] at kept
      obtain rfl := present_injective kept
      exact parsed
    · rw [decode_three parsed] at kept
      obtain ⟨_, -, kept⟩ := bind_eq_ok.mp kept
      obtain ⟨_, -, kept⟩ := bind_eq_ok.mp kept
      cases kept
    · rw [other] at kept
      cases kept
  · intro keeps
    have decoded := decode_one (show json.parse (json.encodeSuccessEnvelope result) = _ from keeps)
    rwa [present_getD] at decoded

theorem keepsError {errorCode errorMessage : List UInt8} {errorDetails : Option (JsonValue ν)}
    (keeps : json.Keeps (errorDocument errorCode errorMessage errorDetails)) (plainCode : 0 ∉ errorCode)
    (plainMessage : 0 ∉ errorMessage) : json.KeepsError errorCode errorMessage errorDetails := by
  have decoded : json.decodeAndProcessResponseEnvelope (json.encodeErrorEnvelope errorCode errorMessage errorDetails) =
      .ok (true, [.error (errorCode.takeWhile (· ≠ 0)) (errorMessage.takeWhile (· ≠ 0))
        (present (errorDetails.getD .null))]) := decode_three keeps
  rwa [present_getD, takeWhile_ne_zero_iff.mpr plainCode, takeWhile_ne_zero_iff.mpr plainMessage] at decoded

theorem not_mem_error {response errorCode errorMessage : List UInt8} {details : Option (JsonValue ν)}
    (decoded : json.decodeAndProcessResponseEnvelope response = .ok (true, [.error errorCode errorMessage details])) :
    0 ∉ errorCode ∧ 0 ∉ errorMessage := by
  obtain ⟨value, parsed⟩ | ⟨code, text, value, parsed⟩ | other := decode_cases response
  · rw [decode_one parsed] at decoded
    cases decoded
  · rw [decode_three parsed] at decoded
    obtain ⟨_, readCode, decoded⟩ := bind_eq_ok.mp decoded
    obtain ⟨_, readText, decoded⟩ := bind_eq_ok.mp decoded
    cases decoded
    exact ⟨getString_eq_ok readCode, getString_eq_ok readText⟩
  · rw [other] at decoded
    cases decoded

end RoundTrip

/-! ## Every text, and every call -/

/-- A text is survived if its document has the expected type; a call arrives if rapidjson keeps its document and
there is no NUL in its name. -/
theorem survives_iff (json : RapidJson ν) :
    (∀ message, json.CallSurvives message ↔
      ∀ document, json.parse message = some document → document.isObject = true) ∧
    (∀ response, json.EnvelopeSurvives response ↔
      ∀ code text details, json.parse response = some (.array [code, text, details]) →
        code.isString = true ∧ text.isString = true) ∧
    (∀ call, (json.KeepsCall call → 0 ∉ call.methodName) ∧
      (json.Keeps (callDocument call) → 0 ∉ call.methodName → json.KeepsCall call)) ∧
    (∀ result, json.KeepsSuccess result ↔ json.Keeps (successDocument result)) ∧
    (∀ errorCode errorMessage errorDetails,
      (json.KeepsError errorCode errorMessage errorDetails → 0 ∉ errorCode ∧ 0 ∉ errorMessage) ∧
      (json.Keeps (errorDocument errorCode errorMessage errorDetails) → 0 ∉ errorCode → 0 ∉ errorMessage →
        json.KeepsError errorCode errorMessage errorDetails)) := by
  refine ⟨?_, ?_, ?_, ?_, ?_⟩
  · intro message
    exact callSurvives_iff
  · intro response
    exact envelopeSurvives_iff
  · intro call
    refine ⟨?_, keepsCall⟩
    rintro ⟨decoded, done, name, -⟩
    exact name ▸ not_mem_methodName done
  · intro result
    exact keepsSuccess_iff
  · intro errorCode errorMessage errorDetails
    exact ⟨not_mem_error, keepsError⟩

def samples : List (List UInt8 × JsonValue Nat) :=
  -- `[]`
  [([0x5B, 0x5D], .array []),
  -- `["c",null,null]`
  ([0x5B, 0x22, 0x63, 0x22, 0x2C, 0x6E, 0x75, 0x6C, 0x6C, 0x2C, 0x6E, 0x75, 0x6C, 0x6C, 0x5D],
    .array [.string [0x63], .null, .null]),
  -- `{"method":"m\u0000","args":null}`
  ([0x7B, 0x22, 0x6D, 0x65, 0x74, 0x68, 0x6F, 0x64, 0x22, 0x3A, 0x22, 0x6D, 0x5C, 0x75, 0x30, 0x30, 0x30, 0x30, 0x22,
    0x2C, 0x22, 0x61, 0x72, 0x67, 0x73, 0x22, 0x3A, 0x6E, 0x75, 0x6C, 0x6C, 0x7D],
    .object [(kMessageMethodKey, .string [0x6D, 0x00]), (kMessageArgumentsKey, .null)]),
  -- `{"method":"m","args":null}`
  ([0x7B, 0x22, 0x6D, 0x65, 0x74, 0x68, 0x6F, 0x64, 0x22, 0x3A, 0x22, 0x6D, 0x22, 0x2C, 0x22, 0x61, 0x72, 0x67, 0x73,
    0x22, 0x3A, 0x6E, 0x75, 0x6C, 0x6C, 0x7D],
    .object [(kMessageMethodKey, .string [0x6D]), (kMessageArgumentsKey, .null)]),
  -- `[7]`
  ([0x5B, 0x37, 0x5D], .array [.number 7]),
  -- `["c","m",null]`
  ([0x5B, 0x22, 0x63, 0x22, 0x2C, 0x22, 0x6D, 0x22, 0x2C, 0x6E, 0x75, 0x6C, 0x6C, 0x5D],
    .array [.string [0x63], .string [0x6D], .null])]

def textOfSample (index : Nat) : List UInt8 := (samples.map Prod.fst).getD index []

def ofSamples : RapidJson Nat where
  parse text := samples.lookup text
  write
    | .object [(_, .string [_, _]), _] => textOfSample 2
    | .object _ => textOfSample 3
    | .array [_] => textOfSample 4
    | .array [_, .string _, _] => textOfSample 5
    | .array (_ :: _) => textOfSample 1
    | _ => textOfSample 0

/-- A call, a success and an error that arrive. -/
theorem survives_iff_samples :
    ofSamples.KeepsCall ⟨[0x6D], none⟩ ∧ ofSamples.KeepsSuccess (some (.number 7)) ∧
    ofSamples.KeepsError [0x63] [0x6D] none :=
  have survives := survives_iff ofSamples
  ⟨(survives.2.2.1 ⟨[0x6D], none⟩).2 rfl (by decide), (survives.2.2.2.1 (some (.number 7))).mpr rfl,
    (survives.2.2.2.2 [0x63] [0x6D] none).2 rfl (by decide) (by decide)⟩

/-- An array is no method call, a framework that has no message sends null, and a NUL ends a name. -/
theorem samples_not_survived :
    ¬ ofSamples.CallSurvives [0x5B, 0x5D] ∧
    ¬ ofSamples.EnvelopeSurvives
      [0x5B, 0x22, 0x63, 0x22, 0x2C, 0x6E, 0x75, 0x6C, 0x6C, 0x2C, 0x6E, 0x75, 0x6C, 0x6C, 0x5D] ∧
    ofSamples.Keeps (callDocument ⟨[0x6D, 0x00], none⟩) ∧ ¬ ofSamples.KeepsCall ⟨[0x6D, 0x00], none⟩ := by
  refine ⟨?_, ?_, rfl, ?_⟩
  · intro survives
    cases callSurvives_iff.mp survives _ rfl
  · intro survives
    cases (envelopeSurvives_iff.mp survives _ _ _ rfl).2
  · rintro ⟨decoded, done, name, -⟩
    exact absurd (name ▸ not_mem_methodName done) (by decide)

end RapidJson

end FlutterZero.Platform.Common
