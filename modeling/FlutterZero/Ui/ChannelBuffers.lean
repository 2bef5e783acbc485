import FlutterZero.Lib.Machine

/-! # Channel buffers

`ChannelBuffers` (`channel_buffers.dart`): the messages of each platform channel
are kept in a bounded queue until a listener is set, and then handed to it one
microtask at a time.

A listener runs inside the call that invokes it and may call everything again,
so a call that invokes a listener leaves a frame on the stack, and the rest of
its body runs when the listener returns.  A microtask starts on an empty stack
only.  A stored message stands for its data together with its response callback.
-/

namespace FlutterZero.Ui

inductive DartFault where
  /-- A failed `assert`. -/
  | assertion
  /-- `removeFirst` of an empty queue. -/
  | noElement
  /-- Not a failure: a step of the event loop that is not possible now. -/
  | notEnabled
deriving DecidableEq, Repr

def dartAssert (condition : Bool) : Except DartFault Unit :=
  if condition then .ok () else .error .assertion

abbrev ListenerId := Nat

structure Channel (α : Type) where
  queue : List α
  debugEnableDiscardWarnings : Bool
  capacity : Int
  draining : Bool
  channelCallbackRecord : Option ListenerId
  /-- The microtasks that are queued to call `_drainStep`. -/
  scheduled : Nat
deriving DecidableEq, Repr

def kDefaultBufferSize : Int := 1

namespace Channel

variable {α : Type}

def create (capacity : Int) : Channel α where
  queue := []
  debugEnableDiscardWarnings := true
  capacity := capacity
  draining := false
  channelCallbackRecord := none
  scheduled := 0

/-- The loop of `_dropOverflowMessages`: the messages whose callbacks are invoked with null, and
    those that stay. -/
def dropOverflow : List α → Int → Except DartFault (List α × List α)
  | [], lengthLimit => if (0 : Int) > lengthLimit then .error .noElement else .ok ([], [])
  | message :: rest, lengthLimit =>
    if ((message :: rest).length : Int) > lengthLimit then do
      let (dropped, kept) ← dropOverflow rest lengthLimit
      return (message :: dropped, kept)
    else .ok ([], message :: rest)

def dropOverflowMessages (c : Channel α) (lengthLimit : Int) :
    Except DartFault (List α × Bool × Channel α) := do
  let (dropped, kept) ← dropOverflow c.queue lengthLimit
  return (dropped, !dropped.isEmpty, { c with queue := kept })

/-- The setter of `capacity`. -/
def setCapacity (c : Channel α) (newSize : Int) : Except DartFault (List α × Channel α) := do
  let (dropped, _, c) ← { c with capacity := newSize }.dropOverflowMessages newSize
  return (dropped, c)

/-- How `push` goes on: it invokes the listener, or it returns the given value, having discarded
    some messages. -/
inductive PushOutcome (α : Type) where
  | invokes (listener : ListenerId)
  | returns (discarded : List α) (result : Bool)

def push (c : Channel α) (message : α) : Except DartFault (PushOutcome α × Channel α) :=
  match c.draining, c.channelCallbackRecord with
  | false, some listener => do
    dartAssert c.queue.isEmpty
    return (.invokes listener, c)
  | _, _ =>
    if c.capacity ≤ 0 then
      .ok (.returns [] c.debugEnableDiscardWarnings, c)
    else do
      let (dropped, result, c) ← c.dropOverflowMessages (c.capacity - 1)
      return (.returns dropped result, { c with queue := c.queue ++ [message] })

def drain (c : Channel α) : Except DartFault (Channel α) := do
  dartAssert !c.draining
  return { c with draining := true, scheduled := c.scheduled + 1 }

def setListener (c : Channel α) (callback : ListenerId) : Except DartFault (Channel α) :=
  let needDrain := c.channelCallbackRecord.isNone
  let c := { c with channelCallbackRecord := some callback }
  if needDrain && !c.draining then c.drain else .ok c

def clearListener (c : Channel α) : Channel α := { c with channelCallbackRecord := none }

/-- The part of `_drainStep` up to the invocation of the listener, which is returned with its
    message if there is one. -/
def drainStep (c : Channel α) : Except DartFault (Option (ListenerId × α) × Channel α) := do
  dartAssert c.draining
  match c.queue, c.channelCallbackRecord with
  | message :: rest, some listener => return (some (listener, message), { c with queue := rest })
  | _, _ => return (none, { c with draining := false })

end Channel

inductive Frame where
  | push (name : String)
  | drainStep (name : String)
deriving DecidableEq, Repr

inductive Event (α : Type) where
  | handed (name : String) (listener : ListenerId) (message : α)
  | repliedNull (name : String) (message : α)
  | sendChannelUpdate (name : String) (listening : Bool)
  | discardWarning (name : String) (capacity : Int)
deriving DecidableEq, Repr

structure ChannelBuffers (α : Type) where
  channels : Std.TreeMap String (Channel α)
  stack : List Frame

namespace ChannelBuffers

variable {α : Type}

def create : ChannelBuffers α := ⟨∅, []⟩

def hasNull (name : String) : Bool := name.toList.contains '\x00'

/-- `_channels.putIfAbsent(name, () => _Channel())`. -/
def putIfAbsent (s : ChannelBuffers α) (name : String) : Channel α :=
  s.channels.getD name (.create kDefaultBufferSize)

def setChannel (s : ChannelBuffers α) (name : String) (channel : Channel α) : ChannelBuffers α :=
  { s with channels := s.channels.insert name channel }

def push (s : ChannelBuffers α) (name : String) (message : α) :
    Except DartFault (List (Event α) × ChannelBuffers α) := do
  dartAssert !hasNull name
  let (outcome, channel) ← (s.putIfAbsent name).push message
  let s := s.setChannel name channel
  match outcome with
  | .invokes listener =>
    return ([.handed name listener message], { s with stack := .push name :: s.stack })
  | .returns discarded result =>
    return (discarded.map (.repliedNull name) ++
      (if result then [.discardWarning name channel.capacity] else []), s)

def setListener (s : ChannelBuffers α) (name : String) (callback : ListenerId) :
    Except DartFault (List (Event α) × ChannelBuffers α) := do
  dartAssert !hasNull name
  let channel ← (s.putIfAbsent name).setListener callback
  return ([.sendChannelUpdate name true], s.setChannel name channel)

def clearListener (s : ChannelBuffers α) (name : String) : List (Event α) × ChannelBuffers α :=
  match s.channels[name]? with
  | some channel => ([.sendChannelUpdate name false], s.setChannel name channel.clearListener)
  | none => ([], s)

def resize (s : ChannelBuffers α) (name : String) (newSize : Int) :
    Except DartFault (List (Event α) × ChannelBuffers α) :=
  match s.channels[name]? with
  | none => do
    dartAssert !hasNull name
    return ([], s.setChannel name (.create newSize))
  | some channel => do
    let (dropped, channel) ← channel.setCapacity newSize
    return (dropped.map (.repliedNull name), s.setChannel name channel)

/-- Works in builds with assertions only. -/
def allowOverflow (s : ChannelBuffers α) (name : String) (allowed : Bool) :
    Except DartFault (List (Event α) × ChannelBuffers α) :=
  match s.channels[name]? with
  | some channel =>
    .ok ([], s.setChannel name { channel with debugEnableDiscardWarnings := !allowed })
  | none =>
    if allowed then do
      dartAssert !hasNull name
      return ([], s.setChannel name
        { Channel.create kDefaultBufferSize with debugEnableDiscardWarnings := !allowed })
    else .ok ([], s)

/-- The event loop runs a microtask that calls `_drainStep`. -/
def runMicrotask (s : ChannelBuffers α) (name : String) :
    Except DartFault (List (Event α) × ChannelBuffers α) :=
  match s.stack, s.channels[name]? with
  | [], some channel =>
    if channel.scheduled = 0 then .error .notEnabled
    else do
      let (invoked, channel) ← { channel with scheduled := channel.scheduled - 1 }.drainStep
      let s := s.setChannel name channel
      match invoked with
      | some (listener, message) =>
        return ([.handed name listener message], { s with stack := .drainStep name :: s.stack })
      | none => return ([], s)
  | _, _ => .error .notEnabled

def listenerReturns (s : ChannelBuffers α) : Except DartFault (List (Event α) × ChannelBuffers α) :=
  match s.stack with
  | [] => .error .notEnabled
  | .push _ :: stack => .ok ([], { s with stack := stack })
  | .drainStep name :: stack =>
    -- `scheduleMicrotask(_drainStep)`
    match s.channels[name]? with
    | some channel =>
      .ok ([], { s.setChannel name { channel with scheduled := channel.scheduled + 1 } with
        stack := stack })
    | none => .error .notEnabled

/-! ## Operations -/

inductive Op (α : Type) where
  | push (name : String) (message : α)
  | setListener (name : String) (callback : ListenerId)
  | clearListener (name : String)
  | resize (name : String) (newSize : Int)
  | allowOverflow (name : String) (allowed : Bool)
  | runMicrotask (name : String)
  | listenerReturns

def step (s : ChannelBuffers α) : Op α → Except DartFault (List (Event α) × ChannelBuffers α)
  | .push name message => s.push name message
  | .setListener name callback => s.setListener name callback
  | .clearListener name => .ok (s.clearListener name)
  | .resize name newSize => s.resize name newSize
  | .allowOverflow name allowed => s.allowOverflow name allowed
  | .runMicrotask name => s.runMicrotask name
  | .listenerReturns => s.listenerReturns

end ChannelBuffers

end FlutterZero.Ui
