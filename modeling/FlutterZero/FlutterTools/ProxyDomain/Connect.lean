import FlutterZero.FlutterTools.DebounceDataStream

/-! # Forwarded connections

`ProxyDomain.connect` (`daemon.dart`) sends what a local socket receives as `proxy.data` events, through
`debounceDataStream`, and a `proxy.disconnected` event when `socket.done` completes.

An event of the socket or of the timer is handled together with the microtasks that it leads to, so that a chunk
that is added to the stream is sent at once.

* `Reached` — what has been sent, before and after the disconnect;
* `forwards_iff` — the data is complete before the disconnect, and none follows, if and only if nothing is
  buffered when `socket.done` completes.
-/

namespace FlutterZero.FlutterTools.ProxyDomain.Connect

open FlutterZero.Lib
open DebounceDataStream (StreamEvent)

variable {Error : Type}

/-! ## The source -/

/-- What `sendEvent` sends. -/
structure DaemonEvent where
  name : String
  binary : Option (List UInt8)
deriving DecidableEq, Repr

def dataEvent (id : String) (data : List UInt8) : DaemonEvent := ⟨"proxy.data." ++ id, some data⟩

def disconnectedEvent (id : String) : DaemonEvent := ⟨"proxy.disconnected." ++ id, none⟩

structure Connection (Error : Type) where
  id : String
  stream : DebounceDataStream.State Error
  /-- `socket.done` has completed. -/
  isDone : Bool
  sent : List DaemonEvent
deriving DecidableEq, Repr

/-- The connection once the socket is connected; `counter` is `_id`. -/
def connect (targetPort counter : Nat) : Connection Error :=
  ⟨"portForwarder_" ++ toString targetPort ++ "_" ++ toString counter, DebounceDataStream.initial, false, []⟩

def listener (id : String) : StreamEvent Error → List DaemonEvent
  | .data data => [dataEvent id data]
  | .error _ => []

inductive SocketEvent (Error : Type) where
  | stream (event : DebounceDataStream.Event Error)
  | done
deriving DecidableEq, Repr

def step (s : Connection Error) : SocketEvent Error → Except DebounceDataStream.StateError (Unit × Connection Error)
  | .stream event => do
    let (_, stream) ← DebounceDataStream.step s.stream event
    let added := stream.controller.events.drop s.stream.controller.events.length
    return ((), { s with stream := stream, sent := s.sent ++ added.flatMap (listener s.id) })
  | .done => .ok ((), { s with isDone := true, sent := s.sent ++ [disconnectedEvent s.id] })

/-- `socket.done` completes once, after the input has ended. -/
def Possible (s : Connection Error) : SocketEvent Error → Prop
  | .stream event => DebounceDataStream.Possible s.stream event
  | .done => s.stream.isDone = true ∧ s.isDone = false

/-! ## What is forwarded -/

/-- Nothing is buffered when `socket.done` completes. -/
def Flushed (s : Connection Error) (event : SocketEvent Error) : Prop := event = .done → s.stream.buffer = []

abbrev Log (Error : Type) : Type := List (SocketEvent Error × Unit)

def SocketEvent.bytes : SocketEvent Error → List UInt8
  | .stream event => event.bytes
  | .done => []

def received (log : Log Error) : List UInt8 := log.flatMap fun entry => entry.1.bytes

/-- The bytes of the `proxy.data` events of a connection. -/
def dataBytes (id : String) (sent : List DaemonEvent) : List UInt8 :=
  sent.flatMap fun event => if event.name = "proxy.data." ++ id then event.binary.getD [] else []

def Forwards (log : Log Error) (s : Connection Error) : Prop :=
  ∀ before after, s.sent = before ++ disconnectedEvent s.id :: after →
    dataBytes s.id before = received log ∧ ∀ event ∈ after, event.name ≠ "proxy.data." ++ s.id

theorem name_ne (id other : String) : "proxy.disconnected." ++ id ≠ "proxy.data." ++ other := by
  intro same
  have letters := congrArg String.toList same
  simp [String.toList_append] at letters

theorem dataBytes_flatMap (id : String) (events : List (StreamEvent Error)) :
    dataBytes id (events.flatMap (listener id)) = events.flatMap StreamEvent.bytes := by
  rw [dataBytes, List.flatMap_assoc]
  refine List.flatMap_congr fun event _ => ?_
  cases event <;> simp [listener, dataEvent, StreamEvent.bytes]

theorem not_mem_listener (id : String) (events : List (StreamEvent Error)) :
    disconnectedEvent id ∉ events.flatMap (listener id) := by
  intro member
  obtain ⟨event, -, sent⟩ := List.mem_flatMap.mp member
  cases event with
  | data data => exact name_ne id id (congrArg DaemonEvent.name (List.mem_singleton.mp sent))
  | error => cases sent

/-! ## Runs -/

section Runs

variable {s s' : Connection Error} {log : Log Error} {targetPort counter : Nat}

section Stream

open DebounceDataStream (State Event StreamController)

variable {stream stream' : State Error} {event : Event Error} {out : Unit}

theorem events_of_addEvent {added : StreamEvent Error} {controller next : StreamController Error}
    (isAdded : controller.addEvent added = .ok next) : next.events = controller.events ++ [added] := by
  unfold StreamController.addEvent at isAdded
  split_ifs at isAdded
  cases isAdded
  rfl

theorem of_map_ok {handled : Except DebounceDataStream.StateError (State Error)}
    (stepped : handled.map ((), ·) = .ok (out, stream')) : handled = .ok stream' := by
  cases handled with
  | error => cases stepped
  | ok => cases stepped; rfl

theorem of_timer (stepped : DebounceDataStream.step stream .timer = .ok (out, stream')) :
    stream'.isDone = stream.isDone ∧ ∃ added, stream'.controller.events = stream.controller.events ++ added ∧
      (stream.buffer = [] → added = []) := by
  have handled := of_map_ok stepped
  unfold DebounceDataStream.onTimer at handled
  split_ifs at handled with buffered isDone
  iterate 2
    obtain ⟨controller, sent, same⟩ := bind_eq_ok.mp handled
    have events := events_of_addEvent sent
    cases same
    exact ⟨rfl, _, events, fun empty => absurd empty buffered⟩
  cases handled
  exact ⟨rfl, [], (List.append_nil _).symm, fun _ => rfl⟩

theorem exists_added (stepped : DebounceDataStream.step stream event = .ok (out, stream')) :
    ∃ added, stream'.controller.events = stream.controller.events ++ added := by
  cases event with
  | data data =>
    have handled := of_map_ok stepped
    unfold DebounceDataStream.onData at handled
    split_ifs at handled
    · obtain ⟨controller, sent, same⟩ := bind_eq_ok.mp handled
      cases same
      exact ⟨_, events_of_addEvent sent⟩
    · cases handled
      exact ⟨[], (List.append_nil _).symm⟩
  | error error =>
    obtain ⟨controller, sent, same⟩ := bind_eq_ok.mp (of_map_ok stepped)
    cases same
    exact ⟨_, events_of_addEvent sent⟩
  | done =>
    cases stepped
    refine ⟨[], ?_⟩
    rw [DebounceDataStream.onDone, List.append_nil]
    split_ifs <;> rfl
  | timer =>
    obtain ⟨-, added, events, -⟩ := of_timer stepped
    exact ⟨added, events⟩

end Stream

/-- A run in which nothing is buffered when `socket.done` completes. -/
abbrev FlushedRun (targetPort counter : Nat) (log : Log Error) (s : Connection Error) : Prop :=
  Runs step (fun s event => Possible s event ∧ Flushed s event) (connect targetPort counter) log s

inductive Reached (targetPort counter : Nat) (log : Log Error) (s : Connection Error) : Prop where
  | connected (connected : s.isDone = false)
    (sent : s.sent = s.stream.controller.events.flatMap (listener s.id)) (flushed : FlushedRun targetPort counter log s)
  | disconnected (before after : List (StreamEvent Error)) (isDone : s.isDone = true)
    (ended : s.stream.isDone = true) (events : s.stream.controller.events = before ++ after)
    (sent : s.sent = before.flatMap (listener s.id) ++ disconnectedEvent s.id :: after.flatMap (listener s.id))
    (complete : before.flatMap StreamEvent.bytes = received log → after = [])
    (flushed : FlushedRun targetPort counter log s ↔ before.flatMap StreamEvent.bytes = received log)

theorem kept_of_runs (runs : Runs step Possible (connect targetPort counter) log s) :
    s.stream.emitted ++ s.stream.buffer = received log := by
  suffices projected : ∃ streamLog, Runs DebounceDataStream.step DebounceDataStream.Possible
      DebounceDataStream.initial streamLog s.stream ∧ DebounceDataStream.received streamLog = received log by
    obtain ⟨streamLog, streamRuns, same⟩ := projected
    rw [← same]
    exact (DebounceDataStream.inPhase_of_runs streamRuns).1
  induction runs with
  | start => exact ⟨[], .start, rfl⟩
  | @next log s s' event out _ possible stepped ih =>
    obtain ⟨streamLog, streamRuns, same⟩ := ih
    cases event with
    | done =>
      cases stepped
      exact ⟨streamLog, streamRuns, by simp [received, SocketEvent.bytes, same]⟩
    | stream event =>
      obtain ⟨⟨_, stream⟩, streamed, taken⟩ := bind_eq_ok.mp stepped
      cases taken
      refine ⟨streamLog ++ [(event, ())], .next streamRuns possible streamed, ?_⟩
      rw [DebounceDataStream.received, received, List.flatMap_append, List.flatMap_append]
      exact congrArg₂ (· ++ ·) same (by simp [SocketEvent.bytes])

theorem flushedRun_next_iff {event : SocketEvent Error} (runs : Runs step Possible (connect targetPort counter) log s)
    (possible : Possible s event) (stepped : step s event = .ok ((), s')) :
    FlushedRun targetPort counter (log ++ [(event, ())]) s' ↔
      FlushedRun targetPort counter log s ∧ Flushed s event := by
  constructor
  · intro flushed
    obtain ⟨before, earlier, met, -⟩ := flushed.last
    obtain rfl := runs.unique earlier
    exact ⟨earlier, met.2⟩
  · intro ⟨flushed, last⟩
    exact .next flushed ⟨possible, last⟩ stepped

theorem reached_of_runs (runs : Runs step Possible (connect targetPort counter) log s) :
    Reached targetPort counter log s := by
  induction runs with
  | start => exact .connected rfl rfl .start
  | @next log s s' event out before possible stepped ih =>
    have kept := kept_of_runs before
    have next := flushedRun_next_iff before possible stepped
    cases event with
    | done =>
      cases stepped
      cases ih with
      | disconnected _ _ isDone => cases isDone.symm.trans possible.2
      | connected _ sent flushed =>
        have same : received (log ++ [(SocketEvent.done, ())]) = received log := by simp [received, SocketEvent.bytes]
        refine .disconnected _ [] rfl possible.1 (List.append_nil _).symm (by rw [sent]; rfl) (fun _ => rfl) ?_
        rw [next, same, ← kept, DebounceDataStream.State.emitted, List.self_eq_append_right]
        exact ⟨fun flushed => flushed.2 rfl, fun empty => ⟨flushed, fun _ => empty⟩⟩
    | stream event =>
      obtain ⟨⟨_, stream⟩, streamed, taken⟩ := bind_eq_ok.mp stepped
      cases taken
      cases ih with
      | connected connected sent flushed =>
        obtain ⟨added, events⟩ := exists_added streamed
        refine .connected connected ?_ (next.mpr ⟨flushed, fun done => by cases done⟩)
        simp [events, sent]
      | disconnected before after isDone ended events sent complete flushed =>
        -- The source is silent, and the timer sends nothing if all has been sent.
        obtain rfl : event = .timer := by
          cases event with
          | timer => rfl
          | _ => cases ended.symm.trans possible
        obtain ⟨stillEnded, added, grown, flushes⟩ := of_timer streamed
        have same : received (log ++ [(SocketEvent.stream .timer, ())]) = received log := by
          simp [received, SocketEvent.bytes, DebounceDataStream.Event.bytes]
        refine .disconnected before (after ++ added) isDone (stillEnded.trans ended) ?_ ?_ (fun all => ?_) ?_
        · rw [grown, events, List.append_assoc]
        · simp [grown, sent]
        · rw [same] at all
          obtain rfl := complete all
          refine (List.nil_append _).trans (flushes ?_)
          rw [← kept, DebounceDataStream.State.emitted, events, List.append_nil, List.self_eq_append_right] at all
          exact all
        · rw [next, same, ← flushed]
          exact and_iff_left fun done => by cases done

/-- All data is forwarded before the disconnect, and none after it, if and only if nothing is buffered when
`socket.done` completes. -/
theorem forwards_iff (runs : Runs step Possible (connect targetPort counter) log s) :
    Forwards log s ↔ FlushedRun targetPort counter log s := by
  cases reached_of_runs runs with
  | connected _ sent flushed =>
    refine iff_of_true (fun before after split => ?_) flushed
    refine absurd ?_ (not_mem_listener s.id s.stream.controller.events)
    rw [← sent, split]
    exact List.mem_append_right _ List.mem_cons_self
  | disconnected before after _ _ _ sent complete flushed =>
    rw [flushed]
    constructor
    · intro forwards
      rw [← (forwards _ _ sent).1, dataBytes_flatMap]
    · intro all other rest split
      -- There is only one such event.
      rw [sent, List.append_cons_inj_of_notMem (not_mem_listener s.id before) (not_mem_listener s.id after)] at split
      obtain ⟨rfl, -, rfl⟩ := split
      rw [dataBytes_flatMap, complete all]
      exact ⟨all, nofun⟩

/-- The second chunk is sent by the timer, before `socket.done` completes. -/
theorem forwards_iff_two_chunks : ∃ (log : Log Unit) (s : Connection Unit),
    log.map Prod.fst = [.stream (.data [1]), .stream (.data [2]), .stream .timer, .stream .done, .done] ∧
      s.sent.map DaemonEvent.binary = [some [1], some [2], none] ∧ Forwards log s := by
  have runs : Runs step Possible (connect 80 0 : Connection Unit) [(.stream (.data [1]), ()), (.stream (.data [2]), ()),
      (.stream .timer, ()), (.stream .done, ()), (.done, ())] _ :=
    .cons rfl rfl (.cons rfl rfl (.cons Nat.one_pos rfl (.cons rfl rfl (.cons ⟨rfl, rfl⟩ rfl .start))))
  refine ⟨_, _, rfl, rfl, (forwards_iff runs).mpr ?_⟩
  exact .cons ⟨rfl, nofun⟩ rfl (.cons ⟨rfl, nofun⟩ rfl (.cons ⟨Nat.one_pos, nofun⟩ rfl (.cons ⟨rfl, nofun⟩ rfl
    (.cons ⟨⟨rfl, rfl⟩, fun _ => rfl⟩ rfl .start))))

/-- The input ends, and `socket.done` completes, before the timer fires: the second chunk is sent behind the
disconnect. -/
theorem not_forwards : ∃ (log : Log Unit) (s : Connection Unit), Runs step Possible (connect 80 0) log s ∧
    log.map Prod.fst = [.stream (.data [1]), .stream (.data [2]), .stream .done, .done, .stream .timer] ∧
      s.sent = [dataEvent s.id [1], disconnectedEvent s.id, dataEvent s.id [2]] ∧ ¬ Forwards log s := by
  have runs : Runs step Possible (connect 80 0 : Connection Unit) [(.stream (.data [1]), ()), (.stream (.data [2]), ()),
      (.stream .done, ()), (.done, ()), (.stream .timer, ())] _ :=
    .cons rfl rfl (.cons rfl rfl (.cons rfl rfl (.cons ⟨rfl, rfl⟩ rfl (.cons Nat.one_pos rfl .start))))
  refine ⟨_, _, runs, rfl, rfl, fun forwards => ?_⟩
  exact (forwards [_] [_] rfl).2 _ List.mem_cons_self rfl

end Runs

end FlutterZero.FlutterTools.ProxyDomain.Connect
