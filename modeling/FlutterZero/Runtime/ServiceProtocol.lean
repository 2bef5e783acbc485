import Mathlib.Data.Set.Insert
import FlutterZero.Lib.Hexadecimal
import FlutterZero.Lib.RapidJson

/-! # The service protocol

`ServiceProtocol` (`service_protocol.cc`) hands messages of the tools to the handlers that are
registered.  A handler is named by the text of its address.

What a handler answers is a parameter.  A text is the memory of a C string, and there is nothing to be
read behind its end.

* `handleMessage` — the response, and the handlers that were called;
* `handlerOfViewId_ok_iff`, `handlerOfViewId_create` — the texts that are read, and the ones that are printed;
* `routes_iff` — every message is routed, but for those with a text that is no identifier;
* `mem_handlers_register` — the registered handlers after a run of registrations;
* `handleServiceRequest_of_registered`, `registered_of_handleServiceRequest` — the handlers that are called then.
-/

namespace FlutterZero.Runtime

open FlutterZero.Lib

abbrev Response := JsonValue Int

/-- `ServiceProtocolMap` -/
abbrev ServiceProtocolMap := List UInt8 → Option (List UInt8)

/-- The parameters of two arrays, in which a later value of a key replaces an earlier one. -/
def serviceProtocolMap (params : List (List UInt8 × List UInt8)) : ServiceProtocolMap :=
  params.foldl (fun map param => Function.update map param.1 (some param.2)) fun _ => none

/-- `Handler::Description` -/
structure Description where
  isolatePort : Int
  isolateName : List UInt8

abbrev Handler := BitVec 64

/-- The registered handlers, in the order of their addresses. -/
structure ServiceProtocol where
  handlers : List (Handler × Description)
  sorted : handlers.Pairwise fun x y => x.1 < y.1

inductive ServiceFault where
  | readOutside
  | conversion (fault : ConversionFault)
deriving DecidableEq, Repr

structure Handled where
  result : Bool
  dispatched : List Handler
  response : Response

/-- `HandleServiceProtocolMessage` of the handler at an address. -/
abbrev Answers := Handler → List UInt8 → ServiceProtocolMap → Bool × Response

/-! ## Texts -/

def kViewIdPrefx : List UInt8 := asciiBytes "_flutterView/"

def kListViewsExtensionName : List UInt8 := asciiBytes "_flutter.listViews"

def kScreenshotExtensionName : List UInt8 := asciiBytes "_flutter.screenshot"

def kScreenshotSkpExtensionName : List UInt8 := asciiBytes "_flutter.screenshotSkp"

def kFlushUIThreadTasksExtensionName : List UInt8 := asciiBytes "_flutter.flushUIThreadTasks"

def kViewId : List UInt8 := asciiBytes "viewId"

def writeServerErrorResponse (message : String) : Response :=
  .object [(asciiBytes "code", .number (-32000)), (asciiBytes "message", .string (asciiBytes message))]

def createFlutterViewID (handler : Handler) : List UInt8 := kViewIdPrefx ++ asciiBytes "0x" ++ printHex handler

def createIsolateID (isolate : Int) : List UInt8 := asciiBytes s!"isolates/{isolate}"

/-! ## Handlers -/

namespace ServiceProtocol

def emplace (handler : Handler) (description : Description) :
    List (Handler × Description) → List (Handler × Description)
  | [] => [(handler, description)]
  | entry :: rest =>
    if handler < entry.1 then (handler, description) :: entry :: rest
    else if handler = entry.1 then entry :: rest
    else entry :: emplace handler description rest

theorem mem_emplace {handler : Handler} {description : Description} {entry : Handler × Description}
    {handlers : List (Handler × Description)} (inside : entry ∈ emplace handler description handlers) :
    entry = (handler, description) ∨ entry ∈ handlers := by
  induction handlers with
  | nil => exact .inl (List.mem_singleton.mp inside)
  | cons first rest ih =>
    rw [emplace] at inside
    split at inside
    · exact List.mem_cons.mp inside
    · split at inside
      · exact .inr inside
      · obtain rfl | inside := List.mem_cons.mp inside
        · exact .inr List.mem_cons_self
        · exact (ih inside).imp_right (List.mem_cons_of_mem _)

theorem sorted_emplace {handler : Handler} {description : Description} {handlers : List (Handler × Description)}
    (sorted : handlers.Pairwise fun x y => x.1 < y.1) :
    (emplace handler description handlers).Pairwise fun x y => x.1 < y.1 := by
  induction handlers with
  | nil => exact List.pairwise_singleton _ _
  | cons first rest ih =>
    obtain ⟨below, sorted'⟩ := List.pairwise_cons.mp sorted
    rw [emplace]
    split
    · next before =>
      refine List.pairwise_cons.mpr ⟨fun entry inside => ?_, sorted⟩
      obtain rfl | inside := List.mem_cons.mp inside
      · exact before
      · exact BitVec.lt_trans before (below entry inside)
    · split
      · exact sorted
      · next notBefore other =>
        refine List.pairwise_cons.mpr ⟨fun entry inside => ?_, ih sorted'⟩
        obtain rfl | inside := mem_emplace inside
        · bv_omega
        · exact below entry inside

def addHandler (protocol : ServiceProtocol) (handler : Handler) (description : Description) : ServiceProtocol where
  handlers := emplace handler description protocol.handlers
  sorted := sorted_emplace protocol.sorted

def removeHandler (protocol : ServiceProtocol) (handler : Handler) : ServiceProtocol where
  handlers := protocol.handlers.filter fun entry => entry.1 ≠ handler
  sorted := protocol.sorted.filter _

def setHandlerDescription (protocol : ServiceProtocol) (handler : Handler) (description : Description) :
    ServiceProtocol where
  handlers := protocol.handlers.map fun entry => if entry.1 = handler then (entry.1, description) else entry
  sorted := by
    refine List.pairwise_map.mpr (protocol.sorted.imp fun before => ?_)
    split <;> split <;> exact before

/-! ## Messages -/

/-- `Description::Write` -/
def writeDescription (handler : Handler) (description : Description) : Response :=
  .object ([(asciiBytes "type", .string (asciiBytes "FlutterView")),
      (asciiBytes "id", .string (createFlutterViewID handler))] ++
    if description.isolatePort ≠ 0 then
      [(asciiBytes "isolate", .object [(asciiBytes "type", .string (asciiBytes "@Isolate")),
        (asciiBytes "fixedId", .bool true), (asciiBytes "id", .string (createIsolateID description.isolatePort)),
        (asciiBytes "name", .string description.isolateName), (asciiBytes "number", .number description.isolatePort)])]
    else [])

def handleListViewsMethod (protocol : ServiceProtocol) : Handled where
  result := true
  dispatched := []
  response := .object [(asciiBytes "type", .string (asciiBytes "FlutterViewList")),
    (asciiBytes "views", .array (protocol.handlers.map fun entry => writeDescription entry.1 entry.2))]

def handlerOfViewId (viewId : List UInt8) : Except ServiceFault Handler :=
  -- the pointer goes behind the terminating NUL of a text that is too short
  if viewId.length < kViewIdPrefx.length then .error .readOutside
  else (stoull (viewId.drop kViewIdPrefx.length)).mapError .conversion

def handleMessageOnHandler (answers : Answers) (handler : Handler) (method : List UInt8) (params : ServiceProtocolMap) :
    Handled where
  result := (answers handler method params).1
  dispatched := [handler]
  response := (answers handler method params).2

def failed (message : String) : Handled := ⟨false, [], writeServerErrorResponse message⟩

def handleLegacyCall (answers : Answers) (first : Handler) (method : List UInt8) (params : ServiceProtocolMap) :
    Handled :=
  if method = kScreenshotExtensionName ∨ method = kScreenshotSkpExtensionName ∨
      method = kFlushUIThreadTasksExtensionName then
    handleMessageOnHandler answers first method params
  else failed "Service protocol could not handle or find a handler for the requested method."

def handleMessage (protocol : ServiceProtocol) (answers : Answers) (method : List UInt8) (params : ServiceProtocolMap) :
    Except ServiceFault Handled :=
  if method = kListViewsExtensionName then .ok protocol.handleListViewsMethod
  else
    match protocol.handlers with
    | [] => .ok (failed "There are no running service protocol handlers.")
    | (first, _) :: _ =>
      match params kViewId with
      | none => .ok (handleLegacyCall answers first method params)
      | some viewId => do
        let handler ← handlerOfViewId viewId
        if handler ∈ protocol.handlers.map Prod.fst then return handleMessageOnHandler answers handler method params
        else return handleLegacyCall answers first method params

def handleServiceRequest (protocol : Option ServiceProtocol) (answers : Answers) (method : List UInt8)
    (params : List (List UInt8 × List UInt8)) : Except ServiceFault Handled :=
  match protocol with
  | none => .ok (failed "Service protocol unavailable.")
  | some protocol => protocol.handleMessage answers method (serviceProtocolMap params)

/-! ## Routing -/

section Routing

variable {protocol : ServiceProtocol} {answers : Answers} {method : List UInt8} {params : ServiceProtocolMap}
  {viewId : List UInt8} {handled : Handled}

def IsErrorResponse (response : Response) : Prop := ∃ message, response = writeServerErrorResponse message

def Answered (handled : Handled) : Prop :=
  (∃ handler, handled.dispatched = [handler]) ∨ (handled.dispatched = [] ∧ IsErrorResponse handled.response)

def IsIdentifier (viewId : List UInt8) : Prop :=
  kViewIdPrefx.length ≤ viewId.length ∧ Convertible (viewId.drop kViewIdPrefx.length)

theorem handlerOfViewId_ok_iff : (∃ handler, handlerOfViewId viewId = .ok handler) ↔ IsIdentifier viewId := by
  unfold handlerOfViewId IsIdentifier
  by_cases short : viewId.length < kViewIdPrefx.length
  · rw [if_pos short]
    exact iff_of_false (fun ⟨_, found⟩ => nomatch found) fun enough => Nat.not_le.mpr short enough.1
  · rw [if_neg short, ← stoull_ok_iff]
    cases stoull (viewId.drop kViewIdPrefx.length) with
    | error fault => exact iff_of_false (fun ⟨_, found⟩ => nomatch found) fun ⟨_, _, found⟩ => nomatch found
    | ok handler => exact iff_of_true ⟨handler, rfl⟩ ⟨Nat.le_of_not_lt short, handler, rfl⟩

theorem handlerOfViewId_create (handler : Handler) : handlerOfViewId (createFlutterViewID handler) = .ok handler := by
  have behind : (createFlutterViewID handler).drop kViewIdPrefx.length = 0x30 :: 0x78 :: printHex handler := by
    rw [createFlutterViewID, List.append_assoc, List.drop_left]
    rfl
  have enough : ¬ (createFlutterViewID handler).length < kViewIdPrefx.length := by
    rw [createFlutterViewID, List.append_assoc, List.length_append]
    omega
  rw [handlerOfViewId, if_neg enough, behind, stoull_printed]
  rfl

theorem answered_on_handler (handler : Handler) : Answered (handleMessageOnHandler answers handler method params) :=
  .inl ⟨handler, rfl⟩

theorem answered_failed (message : String) : Answered (failed message) := .inr ⟨rfl, message, rfl⟩

theorem answered_legacy (first : Handler) : Answered (handleLegacyCall answers first method params) := by
  unfold handleLegacyCall
  split
  · exact answered_on_handler first
  · exact answered_failed _

def Names (protocol : ServiceProtocol) (method : List UInt8) (params : ServiceProtocolMap) (viewId : List UInt8) :
    Prop :=
  method ≠ kListViewsExtensionName ∧ protocol.handlers ≠ [] ∧ params kViewId = some viewId

theorem handleMessage_of_names (answers : Answers) (names : protocol.Names method params viewId) :
    ∃ first ∈ protocol.handlers.map Prod.fst,
    protocol.handleMessage answers method params = (handlerOfViewId viewId).map fun handler =>
      if handler ∈ protocol.handlers.map Prod.fst then handleMessageOnHandler answers handler method params
      else handleLegacyCall answers first method params := by
  obtain ⟨other, some, given⟩ := names
  obtain ⟨⟨first, description⟩, rest, split⟩ := List.exists_cons_of_ne_nil some
  refine ⟨first, by simp [split], ?_⟩
  unfold handleMessage
  rw [if_neg other, split]
  simp only [given]
  cases handlerOfViewId viewId with
  | error fault => rfl
  | ok handler =>
    change (if _ then _ else _ : Except ServiceFault Handled) = .ok (if _ then _ else _)
    split <;> rfl

theorem handleMessage_of_not_names (answers : Answers) (unnamed : ∀ viewId, ¬ protocol.Names method params viewId) :
    ∃ handled, protocol.handleMessage answers method params = .ok handled ∧
      (method ≠ kListViewsExtensionName → Answered handled) := by
  unfold handleMessage
  by_cases list : method = kListViewsExtensionName
  · exact ⟨_, if_pos list, fun other => absurd list other⟩
  · rw [if_neg list]
    cases handlers : protocol.handlers with
    | nil => exact ⟨_, rfl, fun _ => answered_failed _⟩
    | cons entry rest =>
      cases given : params kViewId with
      | none => exact ⟨_, rfl, fun _ => answered_legacy entry.1⟩
      | some viewId => exact absurd ⟨list, by simp [handlers], given⟩ (unnamed viewId)

/-- There is a response, of one handler or with an error, and the handler that is named is called.  The built-in
method is answered by the protocol. -/
structure Routes (protocol : ServiceProtocol) (answers : Answers) (method : List UInt8) (params : ServiceProtocolMap)
    (handled : Handled) : Prop where
  returns : protocol.handleMessage answers method params = .ok handled
  answered : method ≠ kListViewsExtensionName → Answered handled
  named : ∀ handler ∈ protocol.handlers.map Prod.fst, params kViewId = some (createFlutterViewID handler) →
    method ≠ kListViewsExtensionName → handled.dispatched = [handler]
  listed : method = kListViewsExtensionName → handled = protocol.handleListViewsMethod

/-- Every message is routed, but for those with a text that is no identifier. -/
theorem routes_iff (protocol : ServiceProtocol) (answers : Answers) (method : List UInt8)
    (params : ServiceProtocolMap) :
    (∃ handled, protocol.Routes answers method params handled) ↔
      ∀ viewId, protocol.Names method params viewId → IsIdentifier viewId := by
  by_cases unnamed : ∀ viewId, ¬ protocol.Names method params viewId
  · obtain ⟨handled, returns, answered⟩ := handleMessage_of_not_names answers unnamed
    refine iff_of_true ⟨handled, returns, answered, ?_, ?_⟩ fun viewId names => absurd names (unnamed viewId)
    · intro handler registered given other
      have some : protocol.handlers ≠ [] := by
        rintro none
        rw [none] at registered
        cases registered
      exact absurd ⟨other, some, given⟩ (unnamed _)
    · intro list
      rw [handleMessage, if_pos list] at returns
      exact (Except.ok.inj returns).symm
  · push Not at unnamed
    obtain ⟨viewId, names⟩ := unnamed
    constructor
    · rintro ⟨handled, routes⟩ viewId' names'
      obtain ⟨first, -, message⟩ := handleMessage_of_names answers names'
      have returns := routes.returns
      rw [message] at returns
      -- the conversion has not failed
      cases read : handlerOfViewId viewId' with
      | error fault =>
        rw [read] at returns
        cases returns
      | ok handler => exact handlerOfViewId_ok_iff.mp ⟨handler, read⟩
    · intro identifiers
      obtain ⟨handler, read⟩ := handlerOfViewId_ok_iff.mpr (identifiers viewId names)
      obtain ⟨first, -, message⟩ := handleMessage_of_names answers names
      rw [read] at message
      refine ⟨_, message, fun _ => ?_, ?_, fun list => absurd list names.1⟩
      · dsimp only
        split
        · exact answered_on_handler handler
        · exact answered_legacy first
      · intro handler' registered given _
        -- the text is the one of this handler
        rw [names.2.2] at given
        rw [Option.some.inj given, handlerOfViewId_create] at read
        cases read
        dsimp only
        rw [if_pos registered, handleMessageOnHandler]

def oneHandler : ServiceProtocol := ⟨[(0x10, ⟨0, []⟩)], List.pairwise_singleton _ _⟩

def alwaysNull : Answers := fun _ _ _ => (true, .null)

def viewIdParams (viewId : String) : ServiceProtocolMap := serviceProtocolMap [(kViewId, asciiBytes viewId)]

/-- A text that is too short, one without digits, and one with a number that is too large. -/
theorem malformed_not_routed :
    (¬ ∃ handled, oneHandler.Routes alwaysNull kScreenshotExtensionName (viewIdParams "abc") handled) ∧
    (¬ ∃ handled, oneHandler.Routes alwaysNull kScreenshotExtensionName (viewIdParams "_flutterView/zz") handled) ∧
    ¬ ∃ handled, oneHandler.Routes alwaysNull kScreenshotExtensionName
      (viewIdParams "_flutterView/0x10000000000000000") handled := by
  refine ⟨?_, ?_, ?_⟩
  · rintro ⟨handled, routes⟩
    cases routes.returns
  · rintro ⟨handled, routes⟩
    cases routes.returns
  · rintro ⟨handled, routes⟩
    cases routes.returns

end Routing

/-! ## Requests -/

section Requests

/-- `AddHandler`, `RemoveHandler` and `SetHandlerDescription`. -/
inductive Registration where
  | added (handler : Handler) (description : Description)
  | removed (handler : Handler)
  | described (handler : Handler) (description : Description)

def register (protocol : ServiceProtocol) : Registration → ServiceProtocol
  | .added handler description => protocol.addHandler handler description
  | .removed handler => protocol.removeHandler handler
  | .described handler description => protocol.setHandlerDescription handler description

def empty : ServiceProtocol := ⟨[], .nil⟩

/-- The registered handlers as a set. -/
def Registration.apply (handlers : Set Handler) : Registration → Set Handler
  | .added handler _ => insert handler handlers
  | .removed handler => handlers \ {handler}
  | .described _ _ => handlers

variable {protocol : ServiceProtocol} {answers : Answers} {method : List UInt8}
  {params : List (List UInt8 × List UInt8)} {handler other : Handler} {description : Description}

theorem mem_keys_emplace {handlers : List (Handler × Description)} :
    handler ∈ (emplace other description handlers).map Prod.fst ↔ handler = other ∨ handler ∈ handlers.map Prod.fst := by
  induction handlers with
  | nil => simp [emplace]
  | cons entry rest ih =>
    rw [emplace]
    split
    · simp
    · split
      · next same => simp [same]
      · rw [List.map_cons, List.mem_cons, ih, List.map_cons, List.mem_cons]
        exact or_left_comm

theorem mem_handlers_register_one (registration : Registration) :
    handler ∈ (protocol.register registration).handlers.map Prod.fst ↔
      handler ∈ registration.apply {known | known ∈ protocol.handlers.map Prod.fst} := by
  cases registration with
  | added other description => exact mem_keys_emplace
  | removed other =>
    simp only [register, removeHandler, Registration.apply, List.mem_map, List.mem_filter, decide_eq_true_eq]
    constructor
    · rintro ⟨entry, ⟨inside, kept⟩, rfl⟩
      exact ⟨⟨entry, inside, rfl⟩, kept⟩
    · rintro ⟨⟨entry, inside, rfl⟩, kept⟩
      exact ⟨entry, ⟨inside, kept⟩, rfl⟩
  | described other description =>
    -- a new description leaves the addresses as they are
    have keys : ((protocol.setHandlerDescription other description).handlers.map Prod.fst) =
        protocol.handlers.map Prod.fst := by
      rw [setHandlerDescription, List.map_map]
      refine List.map_congr_left fun entry _ => ?_
      dsimp only [Function.comp_apply]
      split <;> rfl
    rw [register, keys]
    rfl

/-- After a run of registrations the handlers are those that were added, and not removed since. -/
theorem mem_handlers_register (registrations : List Registration) :
    handler ∈ (registrations.foldl register empty).handlers.map Prod.fst ↔
      handler ∈ registrations.foldl Registration.apply ∅ := by
  induction registrations using List.reverseRecOn generalizing handler with
  | nil => exact iff_of_false (List.not_mem_nil) (Set.notMem_empty handler)
  | append_singleton registrations registration ih =>
    have known : {known | known ∈ (registrations.foldl register empty).handlers.map Prod.fst} =
        registrations.foldl Registration.apply ∅ := Set.ext fun _ => ih
    rw [List.foldl_append, List.foldl_append, List.foldl_cons, List.foldl_cons, List.foldl_nil, List.foldl_nil,
      mem_handlers_register_one, known]

theorem handleServiceRequest_of_registered {registrations : List Registration}
    (registered : handler ∈ registrations.foldl Registration.apply ∅) (forwarded : method ≠ kListViewsExtensionName)
    (named : serviceProtocolMap params kViewId = some (createFlutterViewID handler)) :
    handleServiceRequest (some (registrations.foldl register empty)) answers method params =
      .ok (handleMessageOnHandler answers handler method (serviceProtocolMap params)) := by
  rw [← mem_handlers_register] at registered
  have nonempty : (registrations.foldl register empty).handlers ≠ [] := by
    intro none
    rw [none] at registered
    cases registered
  obtain ⟨first, -, message⟩ := handleMessage_of_names answers ⟨forwarded, nonempty, named⟩
  rw [handleServiceRequest, message, handlerOfViewId_create]
  exact congrArg Except.ok (if_pos registered)

theorem dispatched_legacy {params : ServiceProtocolMap} {first : Handler}
    (called : handler ∈ (handleLegacyCall answers first method params).dispatched) : handler ∈ [first] := by
  unfold handleLegacyCall at called
  split at called
  · exact called
  · cases called

theorem registered_of_handleMessage {params : ServiceProtocolMap} {handled : Handled}
    (done : protocol.handleMessage answers method params = .ok handled) :
    ∀ handler ∈ handled.dispatched, handler ∈ protocol.handlers.map Prod.fst := by
  by_cases named : ∃ viewId, protocol.Names method params viewId
  · obtain ⟨viewId, names⟩ := named
    obtain ⟨first, known, message⟩ := handleMessage_of_names answers names
    rw [message] at done
    cases read : handlerOfViewId viewId with
    | error fault =>
      rw [read] at done
      cases done
    | ok named =>
      rw [read] at done
      cases done
      intro handler called
      dsimp only at called
      split at called
      next registered => exact List.mem_singleton.mp called ▸ registered
      next => exact List.mem_singleton.mp (dispatched_legacy called) ▸ known
  · unfold handleMessage at done
    split at done
    next =>
      cases done
      exact List.forall_mem_nil _
    next forwarded =>
      cases handlers : protocol.handlers with
      | nil =>
        simp only [handlers] at done
        cases done
        exact List.forall_mem_nil _
      | cons entry rest =>
        cases given : params kViewId with
        | some viewId => exact absurd ⟨viewId, forwarded, by simp [handlers], given⟩ named
        | none =>
          simp only [handlers, given] at done
          cases done
          intro handler called
          rw [List.mem_singleton.mp (dispatched_legacy called)]
          exact List.mem_cons_self

/-- Only registered handlers are called. -/
theorem registered_of_handleServiceRequest {registrations : List Registration} {handled : Handled}
    (done : handleServiceRequest (some (registrations.foldl register empty)) answers method params = .ok handled) :
    ∀ handler ∈ handled.dispatched, handler ∈ registrations.foldl Registration.apply ∅ :=
  fun handler called => (mem_handlers_register registrations).mp (registered_of_handleMessage done handler called)

end Requests

end ServiceProtocol

end FlutterZero.Runtime
