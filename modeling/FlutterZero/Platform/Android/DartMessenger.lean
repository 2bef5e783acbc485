import Mathlib.Data.List.AList
import FlutterZero.Lib.Machine
import FlutterZero.Lib.Calls

/-! # The messenger of an Android embedding

`DartMessenger` (`DartMessenger.java`): a message from Dart is dispatched to the task
queue of the handler of its channel, or kept until there is a handler when buffering is
enabled.

Any number of threads may call it.  A call is cut into its atomic steps: a critical section
under `handlersLock`, the write of the flag by `enableBufferingIncomingMessages`, which does
not take the lock, and each dispatch to a task queue.  A call that still has dispatches to
make stands in `calls`.
-/

namespace FlutterZero.Platform.Android

open FlutterZero.Lib

/-- The task queues that `makeBackgroundTaskQueue` made are told apart by their number. -/
inductive DartMessengerTaskQueue where
  | platformTaskQueue
  | background (token : Nat)
deriving DecidableEq, Repr

structure HandlerInfo where
  handler : Nat
  taskQueue : Option DartMessengerTaskQueue
deriving DecidableEq, Repr

/-- `arrival` tells the messages apart: it is the number of those that arrived earlier. -/
structure BufferedMessageInfo (α : Type) where
  message : α
  replyId : Int
  messageData : Int
  arrival : Nat
deriving DecidableEq, Repr

abbrev Incoming (α : Type) := String × BufferedMessageInfo α

/-- What `dispatchMessageToQueue` puts into a task queue. -/
structure Dispatch (α : Type) where
  taskQueue : DartMessengerTaskQueue
  handlerInfo : Option HandlerInfo
  incoming : Incoming α
deriving DecidableEq, Repr

inductive Call (α : Type) where
  /-- `handleMessageFromDart` of a message that is not deferred, with the handler it found. -/
  | handling (handlerInfo : Option HandlerInfo) (incoming : Incoming α)
  /-- The loop of `setMessageHandler` over `list`. -/
  | settingHandler (channel : String) (list : List (BufferedMessageInfo α))
  /-- The loops of `disableBufferingIncomingMessages` over `pendingMessages`. -/
  | disabling (pendingMessages : List (Incoming α))
deriving DecidableEq, Repr

def flatten {α : Type} (entries : List (Σ _ : String, List (BufferedMessageInfo α))) : List (Incoming α) :=
  entries.flatMap fun entry => entry.2.map fun info => (entry.1, info)

structure DartMessenger (α : Type) where
  messageHandlers : AList fun _ : String => HandlerInfo
  bufferedMessages : AList fun _ : String => List (BufferedMessageInfo α)
  enableBufferingIncomingMessages : Bool
  /-- The number of tokens in `createdTaskQueues`. -/
  createdTaskQueues : Nat
  calls : List (Call α)
  received : List (Incoming α)
  /-- All dispatches so far, in their order. -/
  dispatched : List (Dispatch α)
deriving DecidableEq

/-- Not a failure: an atomic step that is not possible now. -/
inductive MessengerFault where
  | notEnabled
deriving DecidableEq, Repr

/-- The text of the `IllegalArgumentException`. -/
def unrecognizedTaskQueue : String :=
  "Unrecognized TaskQueue, use BinaryMessenger to create your TaskQueue (ex makeBackgroundTaskQueue)."

/-- `nonnullTaskQueue` of `dispatchMessageToQueue`. -/
def nonnullTaskQueue (handlerInfo : Option HandlerInfo) : DartMessengerTaskQueue :=
  match handlerInfo with
  | some ⟨_, some taskQueue⟩ => taskQueue
  | _ => .platformTaskQueue

namespace DartMessenger

variable {α : Type}

def create : DartMessenger α where
  messageHandlers := ∅
  bufferedMessages := ∅
  enableBufferingIncomingMessages := false
  createdTaskQueues := 0
  calls := []
  received := []
  dispatched := []

def dispatchMessageToQueue (s : DartMessenger α) (handlerInfo : Option HandlerInfo) (incoming : Incoming α) :
    DartMessenger α :=
  { s with dispatched := s.dispatched ++ [⟨nonnullTaskQueue handlerInfo, handlerInfo, incoming⟩] }

def makeBackgroundTaskQueue (s : DartMessenger α) : DartMessenger α :=
  { s with createdTaskQueues := s.createdTaskQueues + 1 }

/-- `createdTaskQueues.get`, with the null check around it. -/
def findTaskQueue (s : DartMessenger α) : Option Nat → Except String (Option DartMessengerTaskQueue)
  | none => .ok none
  | some token =>
    if token < s.createdTaskQueues then .ok (some (.background token)) else .error unrecognizedTaskQueue

/-- The critical sections of `setMessageHandler`; returns the text of the exception, if there is one. -/
def setMessageHandler (s : DartMessenger α) (channel : String) (handler : Option Nat) (taskQueue : Option Nat) :
    Option String × DartMessenger α :=
  match handler with
  | none => (none, { s with messageHandlers := s.messageHandlers.erase channel })
  | some handler =>
    match s.findTaskQueue taskQueue with
    | .error message => (some message, s)
    | .ok dartMessengerTaskQueue =>
      let s := { s with messageHandlers := s.messageHandlers.insert channel ⟨handler, dartMessengerTaskQueue⟩ }
      match s.bufferedMessages.lookup channel with
      | none => (none, s)
      | some list =>
        (none, { s with
          bufferedMessages := s.bufferedMessages.erase channel
          calls := s.calls ++ [.settingHandler channel list] })

/-- The critical section of `disableBufferingIncomingMessages`.  A `HashMap` enumerates its entries in
    an order of its own, which is `entrySet`. -/
def disableBuffering (s : DartMessenger α) (entrySet : List (Σ _ : String, List (BufferedMessageInfo α))) :
    DartMessenger α :=
  { s with
    enableBufferingIncomingMessages := false
    bufferedMessages := ∅
    calls := s.calls ++ [.disabling (flatten entrySet)] }

/-- The critical section of `handleMessageFromDart`. -/
def handleMessageFromDart (s : DartMessenger α) (channel : String) (message : α) (replyId messageData : Int) :
    DartMessenger α :=
  let info : BufferedMessageInfo α := ⟨message, replyId, messageData, s.received.length⟩
  let s := { s with received := s.received ++ [(channel, info)] }
  let handlerInfo := s.messageHandlers.lookup channel
  let messageDeferred := s.enableBufferingIncomingMessages && handlerInfo.isNone
  if messageDeferred then
    { s with
      bufferedMessages := s.bufferedMessages.insert channel ((s.bufferedMessages.lookup channel).getD [] ++ [info]) }
  else
    { s with calls := s.calls ++ [.handling handlerInfo (channel, info)] }

def advance (s : DartMessenger α) (i : Nat) : Except MessengerFault (DartMessenger α) :=
  match s.calls[i]? with
  | none => .error .notEnabled
  | some (.handling handlerInfo incoming) =>
    .ok ({ s with calls := s.calls.eraseIdx i }.dispatchMessageToQueue handlerInfo incoming)
  | some (.settingHandler channel (info :: list)) =>
    -- The handlers are read without the lock here, and once for each message.
    .ok ({ s with calls := s.calls.set i (.settingHandler channel list) }.dispatchMessageToQueue
      (s.messageHandlers.lookup channel) (channel, info))
  | some (.disabling (incoming :: pendingMessages)) =>
    .ok ({ s with calls := s.calls.set i (.disabling pendingMessages) }.dispatchMessageToQueue none incoming)
  | some (.settingHandler _ []) | some (.disabling []) => .ok { s with calls := s.calls.eraseIdx i }

/-! ## Operations -/

inductive Op (α : Type) where
  | makeBackgroundTaskQueue
  | setMessageHandler (channel : String) (handler : Option Nat) (taskQueue : Option Nat)
  | enableBufferingIncomingMessages
  | disableBufferingIncomingMessages (entrySet : List (Σ _ : String, List (BufferedMessageInfo α)))
  | handleMessageFromDart (channel : String) (message : α) (replyId messageData : Int)
  | advance (i : Nat)

/-- Answers with the text of an exception thrown at the caller. -/
def step [DecidableEq α] (s : DartMessenger α) : Op α → Except MessengerFault (Option String × DartMessenger α)
  | .makeBackgroundTaskQueue => .ok (none, s.makeBackgroundTaskQueue)
  | .setMessageHandler channel handler taskQueue => .ok (s.setMessageHandler channel handler taskQueue)
  | .enableBufferingIncomingMessages => .ok (none, { s with enableBufferingIncomingMessages := true })
  | .disableBufferingIncomingMessages entrySet =>
    if entrySet.isPerm s.bufferedMessages.entries then .ok (none, s.disableBuffering entrySet)
    else .error .notEnabled
  | .handleMessageFromDart channel message replyId messageData =>
    .ok (none, s.handleMessageFromDart channel message replyId messageData)
  | .advance i => do return (none, ← s.advance i)

/-! ## What a step does -/

inductive Steps (s : DartMessenger α) : Op α → DartMessenger α → Prop where
  | madeTaskQueue : Steps s .makeBackgroundTaskQueue s.makeBackgroundTaskQueue
  | enabled : Steps s .enableBufferingIncomingMessages { s with enableBufferingIncomingMessages := true }
  | threw {channel : String} {handler token : Nat} (unknown : ¬ token < s.createdTaskQueues) :
      Steps s (.setMessageHandler channel (some handler) (some token)) s
  | removed {channel : String} {taskQueue : Option Nat} :
      Steps s (.setMessageHandler channel none taskQueue)
        { s with messageHandlers := s.messageHandlers.erase channel }
  | set {channel : String} {handler : Nat} {taskQueue : Option Nat} {queue : Option DartMessengerTaskQueue}
      (found : s.findTaskQueue taskQueue = .ok queue) (nothing : s.bufferedMessages.lookup channel = none) :
      Steps s (.setMessageHandler channel (some handler) taskQueue)
        { s with messageHandlers := s.messageHandlers.insert channel ⟨handler, queue⟩ }
  | took {channel : String} {handler : Nat} {taskQueue : Option Nat} {queue : Option DartMessengerTaskQueue}
      {list : List (BufferedMessageInfo α)} (found : s.findTaskQueue taskQueue = .ok queue)
      (waiting : s.bufferedMessages.lookup channel = some list) :
      Steps s (.setMessageHandler channel (some handler) taskQueue)
        { s with
          messageHandlers := s.messageHandlers.insert channel ⟨handler, queue⟩
          bufferedMessages := s.bufferedMessages.erase channel
          calls := s.calls ++ [.settingHandler channel list] }
  | disabled {entrySet : List (Σ _ : String, List (BufferedMessageInfo α))}
      (enumerated : entrySet.Perm s.bufferedMessages.entries) :
      Steps s (.disableBufferingIncomingMessages entrySet) (s.disableBuffering entrySet)
  | deferred {channel : String} {message : α} {replyId messageData : Int} {info : BufferedMessageInfo α}
      (made : info = ⟨message, replyId, messageData, s.received.length⟩)
      (buffering : s.enableBufferingIncomingMessages = true) (none : s.messageHandlers.lookup channel = none) :
      Steps s (.handleMessageFromDart channel message replyId messageData)
        { s with
          received := s.received ++ [(channel, info)]
          bufferedMessages :=
            s.bufferedMessages.insert channel ((s.bufferedMessages.lookup channel).getD [] ++ [info]) }
  | accepted {channel : String} {message : α} {replyId messageData : Int} {info : BufferedMessageInfo α}
      (made : info = ⟨message, replyId, messageData, s.received.length⟩)
      (direct : s.enableBufferingIncomingMessages = false ∨ s.messageHandlers.lookup channel ≠ none) :
      Steps s (.handleMessageFromDart channel message replyId messageData)
        { s with
          received := s.received ++ [(channel, info)]
          calls := s.calls ++ [.handling (s.messageHandlers.lookup channel) (channel, info)] }
  /-- `handleMessageFromDart` dispatches its message and returns. -/
  | handed {before after : List (Call α)} {handlerInfo : Option HandlerInfo} {incoming : Incoming α}
      (calls : s.calls = before ++ Call.handling handlerInfo incoming :: after) :
      Steps s (.advance before.length)
        ({ s with calls := before ++ after }.dispatchMessageToQueue handlerInfo incoming)
  | handedSet {before after : List (Call α)} {channel : String} {info : BufferedMessageInfo α}
      {list : List (BufferedMessageInfo α)}
      (calls : s.calls = before ++ Call.settingHandler channel (info :: list) :: after) :
      Steps s (.advance before.length)
        ({ s with calls := before ++ Call.settingHandler channel list :: after }.dispatchMessageToQueue
          (s.messageHandlers.lookup channel) (channel, info))
  | handedDisabled {before after : List (Call α)} {incoming : Incoming α} {pendingMessages : List (Incoming α)}
      (calls : s.calls = before ++ Call.disabling (incoming :: pendingMessages) :: after) :
      Steps s (.advance before.length)
        ({ s with calls := before ++ Call.disabling pendingMessages :: after }.dispatchMessageToQueue none incoming)
  | returned {before after : List (Call α)} {call : Call α}
      (nothing : (∃ channel, call = .settingHandler channel []) ∨ call = .disabling [])
      (calls : s.calls = before ++ call :: after) :
      Steps s (.advance before.length) { s with calls := before ++ after }

theorem steps_of_advance {s s' : DartMessenger α} {i : Nat} (stepped : s.advance i = .ok s') :
    Steps s (.advance i) s' := by
  cases found : s.calls[i]? with
  | none => simp [advance, found] at stepped
  | some call =>
    obtain ⟨before, after, calls, rfl⟩ := exists_split_of_getElem? found
    have erased : s.calls.eraseIdx before.length = before ++ after := by rw [calls, eraseIdx_split]
    have replaced (call' : Call α) : s.calls.set before.length call' = before ++ call' :: after := by
      rw [calls, set_split]
    cases call with
    | handling handlerInfo incoming =>
      simp only [advance, found, erased, Except.ok.injEq] at stepped
      exact stepped ▸ .handed calls
    | settingHandler channel list =>
      cases list with
      | nil =>
        simp only [advance, found, erased, Except.ok.injEq] at stepped
        exact stepped ▸ .returned (.inl ⟨channel, rfl⟩) calls
      | cons info list =>
        simp only [advance, found, replaced, Except.ok.injEq] at stepped
        exact stepped ▸ .handedSet calls
    | disabling pendingMessages =>
      cases pendingMessages with
      | nil =>
        simp only [advance, found, erased, Except.ok.injEq] at stepped
        exact stepped ▸ .returned (.inr rfl) calls
      | cons incoming pendingMessages =>
        simp only [advance, found, replaced, Except.ok.injEq] at stepped
        exact stepped ▸ .handedDisabled calls

theorem steps_setMessageHandler (s : DartMessenger α) (channel : String) (handler taskQueue : Option Nat) :
    Steps s (.setMessageHandler channel handler taskQueue) (s.setMessageHandler channel handler taskQueue).2 := by
  cases handler with
  | none => exact .removed
  | some handler =>
    cases found : s.findTaskQueue taskQueue with
    | error message =>
      -- Only an unknown token is refused.
      cases taskQueue with
      | none => simp [findTaskQueue] at found
      | some token =>
        simp only [setMessageHandler, found]
        apply Steps.threw
        intro known
        simp [findTaskQueue, known] at found
    | ok queue =>
      cases waiting : s.bufferedMessages.lookup channel with
      | none => simpa only [setMessageHandler, found, waiting] using .set found waiting
      | some list => simpa only [setMessageHandler, found, waiting] using .took found waiting

theorem steps_handleMessageFromDart (s : DartMessenger α) (channel : String) (message : α)
    (replyId messageData : Int) :
    Steps s (.handleMessageFromDart channel message replyId messageData)
      (s.handleMessageFromDart channel message replyId messageData) := by
  cases deferred : s.enableBufferingIncomingMessages && (s.messageHandlers.lookup channel).isNone with
  | true =>
    simp only [handleMessageFromDart, deferred, if_true]
    simp only [Bool.and_eq_true, Option.isNone_iff_eq_none] at deferred
    exact .deferred rfl deferred.1 deferred.2
  | false =>
    have direct : s.enableBufferingIncomingMessages = false ∨ s.messageHandlers.lookup channel ≠ none := by
      cases Bool.and_eq_false_iff.mp deferred with
      | inl off => exact .inl off
      | inr found => exact .inr (Option.isNone_eq_false_iff.mp found |> Option.isSome_iff_ne_none.mp)
    simp only [handleMessageFromDart, deferred]
    exact .accepted rfl direct

theorem steps_of_step [DecidableEq α] {s s' : DartMessenger α} {op : Op α} {out : Option String}
    (stepped : s.step op = .ok (out, s')) : Steps s op s' := by
  cases op with
  | makeBackgroundTaskQueue =>
    simp only [step, Except.ok.injEq, Prod.mk.injEq] at stepped
    exact stepped.2 ▸ .madeTaskQueue
  | enableBufferingIncomingMessages =>
    simp only [step, Except.ok.injEq, Prod.mk.injEq] at stepped
    exact stepped.2 ▸ .enabled
  | setMessageHandler channel handler taskQueue =>
    simp only [step, Except.ok.injEq] at stepped
    have := s.steps_setMessageHandler channel handler taskQueue
    rwa [stepped] at this
  | disableBufferingIncomingMessages entrySet =>
    simp only [step] at stepped
    split at stepped
    · rename_i enumerated
      simp only [Except.ok.injEq, Prod.mk.injEq] at stepped
      exact stepped.2 ▸ .disabled (List.isPerm_iff.mp enumerated)
    · cases stepped
  | handleMessageFromDart channel message replyId messageData =>
    simp only [step, Except.ok.injEq, Prod.mk.injEq] at stepped
    exact stepped.2 ▸ s.steps_handleMessageFromDart channel message replyId messageData
  | advance i =>
    obtain ⟨s₁, advanced, returned⟩ := bind_eq_ok.mp stepped
    simp only [pure_eq_ok, Except.ok.injEq, Prod.mk.injEq] at returned
    exact returned.2 ▸ steps_of_advance advanced

end DartMessenger

end FlutterZero.Platform.Android
