import FlutterZero.Lib.Machine

/-! # Debounced data streams

`debounceDataStream` (`proxied_devices/debounce_data_stream.dart`) sends the first chunk after a pause
at once and merges what arrives while the timer runs.

* `step` — what the source does, and the timer;
* `Phase` — the four kinds of states that are reached;
* `delivers_iff` — the stream is closed unless the timer fires when the source is done and the buffer
  is empty.
-/

namespace FlutterZero.FlutterTools.DebounceDataStream

open FlutterZero.Lib

variable {Error : Type}

inductive StreamEvent (Error : Type) where
  | data (chunk : List UInt8)
  | error (error : Error)
deriving DecidableEq, Repr

structure StreamController (Error : Type) where
  events : List (StreamEvent Error)
  isClosed : Bool
deriving DecidableEq, Repr

inductive StateError where
  | cannotAddAfterClose
deriving DecidableEq, Repr

namespace StreamController

def addEvent (event : StreamEvent Error) (controller : StreamController Error) :
    Except StateError (StreamController Error) :=
  if controller.isClosed then .error .cannotAddAfterClose
  else .ok { controller with events := controller.events ++ [event] }

def add (chunk : List UInt8) : StreamController Error → Except StateError (StreamController Error) :=
  addEvent (.data chunk)

def addError (error : Error) : StreamController Error → Except StateError (StreamController Error) :=
  addEvent (.error error)

def close (controller : StreamController Error) : StreamController Error := { controller with isClosed := true }

end StreamController

structure State (Error : Type) where
  controller : StreamController Error
  buffer : List UInt8
  isDone : Bool
  /-- `timer` is not null. -/
  timer : Bool
  /-- The timers that were created and have not fired. -/
  outstanding : Nat
deriving DecidableEq, Repr

def initial : State Error := ⟨⟨[], false⟩, [], false, false, 0⟩

def startTimer (s : State Error) : State Error := { s with timer := true, outstanding := s.outstanding + 1 }

def onTimer (s : State Error) : Except StateError (State Error) :=
  if s.buffer ≠ [] then do
    let controller ← s.controller.add s.buffer
    if s.isDone then return { s with controller := controller.close, buffer := [] }
    else return startTimer { s with controller := controller, buffer := [] }
  else return { s with timer := false }

def onData (data : List UInt8) (s : State Error) : Except StateError (State Error) :=
  if s.timer = false then do
    let controller ← s.controller.add data
    return startTimer { s with controller := controller }
  else return { s with buffer := s.buffer ++ data }

def onError (error : Error) (s : State Error) : Except StateError (State Error) := do
  let controller ← s.controller.addError error
  return { s with controller := controller }

def onDone (s : State Error) : State Error :=
  { s with isDone := true, controller := if s.timer = false then s.controller.close else s.controller }

inductive Event (Error : Type) where
  | data (data : List UInt8)
  | error (error : Error)
  | done
  | timer
deriving DecidableEq, Repr

def step (s : State Error) : Event Error → Except StateError (Unit × State Error)
  | .data data => (onData data s).map ((), ·)
  | .error error => (onError error s).map ((), ·)
  | .done => .ok ((), onDone s)
  | .timer => (onTimer { s with outstanding := s.outstanding - 1 }).map ((), ·)

/-- After done the source is silent, and a timer fires once. -/
def Possible (s : State Error) : Event Error → Prop
  | .timer => 0 < s.outstanding
  | _ => s.isDone = false

/-- The timer does not fire when the source is done and the buffer is empty. -/
def Timely (s : State Error) (event : Event Error) : Prop := event = .timer → s.isDone = true → s.buffer ≠ []

def Event.bytes : Event Error → List UInt8
  | .data bytes => bytes
  | _ => []

def StreamEvent.bytes : StreamEvent Error → List UInt8
  | .data chunk => chunk
  | .error _ => []

def received (log : List (Event Error × Unit)) : List UInt8 := log.flatMap fun entry => entry.1.bytes

def State.emitted (s : State Error) : List UInt8 := s.controller.events.flatMap StreamEvent.bytes

/-- Nothing is lost, and the stream is closed when the source is done and no timer is left. -/
structure Delivers (log : List (Event Error × Unit)) (s : State Error) : Prop where
  kept : s.emitted ++ s.buffer = received log
  finished : s.isDone = true → s.outstanding = 0 → s.controller.isClosed = true ∧ s.buffer = []

/-! ## Phases -/

/-- `Hung` waits for a timer that does not exist. -/
inductive Phase where
  | idle
  | waiting
  | closed
  | hung

def InPhase (s : State Error) : Phase → Prop
  | .idle => s.timer = false ∧ s.outstanding = 0 ∧ s.buffer = [] ∧ s.isDone = false ∧ s.controller.isClosed = false
  | .waiting => s.timer = true ∧ s.outstanding = 1 ∧ s.controller.isClosed = false
  | .closed => s.outstanding = 0 ∧ s.buffer = [] ∧ s.isDone = true ∧ s.controller.isClosed = true
  | .hung => s.outstanding = 0 ∧ s.buffer = [] ∧ s.isDone = true ∧ s.controller.isClosed = false

variable {s s' : State Error} {event : Event Error}

structure Handled (s : State Error) (event : Event Error) (s' : State Error) (phase : Phase) : Prop where
  stepped : step s event = .ok ((), s')
  inPhase : InPhase s' phase
  kept : s'.emitted ++ s'.buffer = s.emitted ++ s.buffer ++ event.bytes

theorem addEvent_of_open {controller : StreamController Error} (isOpen : controller.isClosed = false)
    (event : StreamEvent Error) :
    controller.addEvent event = .ok { controller with events := controller.events ++ [event] } := by
  rw [StreamController.addEvent, isOpen]
  rfl

theorem handled_idle (idle : InPhase s .idle) (possible : Possible s event) :
    ∃ s' phase, Handled s event s' phase ∧ phase ≠ .hung := by
  obtain ⟨controller, buffer, isDone, timer, outstanding⟩ := s
  obtain ⟨rfl, rfl, rfl, rfl, isOpen⟩ := idle
  cases event with
  | data chunk =>
    refine ⟨⟨⟨controller.events ++ [.data chunk], controller.isClosed⟩, [], false, true, 1⟩, .waiting,
      ⟨?_, ⟨rfl, rfl, isOpen⟩, ?_⟩, nofun⟩
    · simp only [step, onData, StreamController.add, addEvent_of_open isOpen, ok_bind]
      rfl
    · simp [State.emitted, StreamEvent.bytes, Event.bytes]
  | error error =>
    refine ⟨⟨⟨controller.events ++ [.error error], controller.isClosed⟩, [], false, false, 0⟩, .idle,
      ⟨?_, ⟨rfl, rfl, rfl, rfl, isOpen⟩, ?_⟩, nofun⟩
    · simp only [step, onError, StreamController.addError, addEvent_of_open isOpen, ok_bind]
      rfl
    · simp [State.emitted, StreamEvent.bytes, Event.bytes]
  | done =>
    refine ⟨⟨⟨controller.events, true⟩, [], true, false, 0⟩, .closed, ⟨rfl, ⟨rfl, rfl, rfl, rfl⟩, ?_⟩, nofun⟩
    simp [State.emitted, Event.bytes]
  | timer => cases possible

theorem handled_waiting (waiting : InPhase s .waiting) (possible : Possible s event) :
    ∃ s' phase, Handled s event s' phase ∧ (phase = .hung ↔ ¬ Timely s event) := by
  obtain ⟨controller, buffer, isDone, timer, outstanding⟩ := s
  obtain ⟨rfl, rfl, isOpen⟩ := waiting
  have timely (other : event ≠ .timer) : Timely ⟨controller, buffer, isDone, true, 1⟩ event :=
    fun timer => absurd timer other
  cases event with
  | data chunk =>
    refine ⟨⟨controller, buffer ++ chunk, isDone, true, 1⟩, .waiting, ⟨rfl, ⟨rfl, rfl, isOpen⟩, ?_⟩, ?_⟩
    · simp [State.emitted, Event.bytes]
    · exact iff_of_false nofun (not_not_intro (timely nofun))
  | error error =>
    refine ⟨⟨⟨controller.events ++ [.error error], controller.isClosed⟩, buffer, isDone, true, 1⟩, .waiting,
      ⟨?_, ⟨rfl, rfl, isOpen⟩, ?_⟩, ?_⟩
    · simp only [step, onError, StreamController.addError, addEvent_of_open isOpen, ok_bind]
      rfl
    · simp [State.emitted, StreamEvent.bytes, Event.bytes]
    · exact iff_of_false nofun (not_not_intro (timely nofun))
  | done =>
    refine ⟨⟨controller, buffer, true, true, 1⟩, .waiting, ⟨rfl, ⟨rfl, rfl, isOpen⟩, ?_⟩, ?_⟩
    · simp [State.emitted, Event.bytes]
    · exact iff_of_false nofun (not_not_intro (timely nofun))
  | timer =>
    by_cases empty : buffer = []
    · subst empty
      cases isDone with
      | false =>
        refine ⟨⟨controller, [], false, false, 0⟩, .idle, ⟨rfl, ⟨rfl, rfl, rfl, rfl, isOpen⟩, ?_⟩, ?_⟩
        · simp [State.emitted, Event.bytes]
        · exact iff_of_false nofun (not_not_intro nofun)
      | true =>
        -- the timer is gone, and the stream stays open
        refine ⟨⟨controller, [], true, false, 0⟩, .hung, ⟨rfl, ⟨rfl, rfl, rfl, isOpen⟩, ?_⟩, ?_⟩
        · simp [State.emitted, Event.bytes]
        · exact iff_of_true rfl fun timely => timely rfl rfl rfl
    · have isTimely : Timely ⟨controller, buffer, isDone, true, 1⟩ (.timer : Event Error) := fun _ _ => empty
      have sent : controller.add buffer = .ok ⟨controller.events ++ [.data buffer], controller.isClosed⟩ :=
        addEvent_of_open isOpen _
      cases isDone with
      | false =>
        refine ⟨⟨⟨controller.events ++ [.data buffer], controller.isClosed⟩, [], false, true, 1⟩, .waiting,
          ⟨?_, ⟨rfl, rfl, isOpen⟩, ?_⟩, iff_of_false nofun (not_not_intro isTimely)⟩
        · simp only [step, onTimer, if_pos empty, sent, ok_bind]
          rfl
        · simp [State.emitted, StreamEvent.bytes, Event.bytes]
      | true =>
        refine ⟨⟨⟨controller.events ++ [.data buffer], true⟩, [], true, true, 0⟩, .closed,
          ⟨?_, ⟨rfl, rfl, rfl, rfl⟩, ?_⟩, iff_of_false nofun (not_not_intro isTimely)⟩
        · simp only [step, onTimer, if_pos empty, sent, ok_bind]
          rfl
        · simp [State.emitted, StreamEvent.bytes, Event.bytes]

theorem not_possible_of_end {phase : Phase} (inPhase : InPhase s phase) (ended : phase = .closed ∨ phase = .hung) :
    ¬ Possible s event := by
  have stopped : s.outstanding = 0 ∧ s.isDone = true := by
    obtain rfl | rfl := ended
    · exact ⟨inPhase.1, inPhase.2.2.1⟩
    · exact ⟨inPhase.1, inPhase.2.2.1⟩
  cases event with
  | timer => exact (Nat.ne_of_gt · stopped.1)
  | _ => simp [Possible, stopped.2]

theorem handled {phase : Phase} (inPhase : InPhase s phase) (possible : Possible s event) :
    ∃ s' phase', Handled s event s' phase' ∧ (phase' = .hung ↔ ¬ Timely s event) := by
  cases phase with
  | idle =>
    obtain ⟨s', phase', done, ne⟩ := handled_idle inPhase possible
    refine ⟨s', phase', done, iff_of_false ne (not_not_intro fun timer => ?_)⟩
    subst timer
    exact absurd inPhase.2.1 (Nat.ne_of_gt possible)
  | waiting => exact handled_waiting inPhase possible
  | closed => exact absurd possible (not_possible_of_end inPhase (.inl rfl))
  | hung => exact absurd possible (not_possible_of_end inPhase (.inr rfl))

/-! ## Runs -/

variable {log : List (Event Error × Unit)}

theorem inPhase_initial : InPhase (initial : State Error) .idle := ⟨rfl, rfl, rfl, rfl, rfl⟩

/-- What was sent and what is in the buffer is what came from the source, and the stream does not hang unless
    the timer fired at the wrong moment. -/
theorem inPhase_of_runs (runs : Runs step Possible initial log s) :
    s.emitted ++ s.buffer = received log ∧ ∃ phase, InPhase s phase ∧
      (phase ≠ .hung → Runs step (fun s event => Possible s event ∧ Timely s event) initial log s) := by
  induction runs with
  | start => exact ⟨rfl, .idle, inPhase_initial, fun _ => .start⟩
  | @next log s s' event out before possible stepped ih =>
    obtain ⟨kept, phase, inPhase, timely⟩ := ih
    obtain ⟨next, phase', done, hangs⟩ := handled inPhase possible
    cases stepped.symm.trans done.stepped
    have running : phase ≠ .hung := by
      rintro rfl
      exact not_possible_of_end inPhase (.inr rfl) possible
    refine ⟨by rw [done.kept, kept]; simp [received], phase', done.inPhase, fun ne => ?_⟩
    exact .next (timely running) ⟨possible, not_not.mp (mt hangs.mpr ne)⟩ stepped

theorem not_hung_of_timely (runs : Runs step (fun s event => Possible s event ∧ Timely s event) initial log s) :
    ¬ InPhase s .hung := by
  suffices phased : ∃ phase, InPhase s phase ∧ phase ≠ .hung by
    obtain ⟨phase, inPhase, ne⟩ := phased
    intro hung
    cases phase with
    | idle => cases hung.2.2.1.symm.trans inPhase.2.2.2.1
    | waiting => cases hung.1.symm.trans inPhase.2.1
    | closed => cases hung.2.2.2.symm.trans inPhase.2.2.2
    | hung => exact ne rfl
  refine runs.preserves (P := fun s => ∃ phase, InPhase s phase ∧ phase ≠ .hung) ⟨.idle, inPhase_initial, nofun⟩ ?_
  rintro s event out s' ⟨phase, inPhase, -⟩ ⟨possible, timely⟩ stepped
  obtain ⟨next, phase', done, hangs⟩ := handled inPhase possible
  cases stepped.symm.trans done.stepped
  exact ⟨phase', done.inPhase, fun hung => hangs.mp hung timely⟩

/-- In every run nothing is lost and the stream is closed in the end, if and only if the timer never fires
    when the source is done and the buffer is empty. -/
theorem delivers_iff (runs : Runs step Possible initial log s) :
    Delivers log s ↔ Runs step (fun s event => Possible s event ∧ Timely s event) initial log s := by
  obtain ⟨kept, phase, inPhase, timely⟩ := inPhase_of_runs runs
  constructor
  · intro delivers
    apply timely
    rintro rfl
    cases (delivers.finished inPhase.2.2.1 inPhase.1).1.symm.trans inPhase.2.2.2
  · intro timelyRuns
    refine ⟨kept, fun isDone stopped => ?_⟩
    cases phase with
    | idle => cases isDone.symm.trans inPhase.2.2.2.1
    | waiting => cases stopped.symm.trans inPhase.2.1
    | closed => exact ⟨inPhase.2.2.2, inPhase.2.1⟩
    | hung => exact absurd inPhase (not_hung_of_timely timelyRuns)

/-- Two chunks, the second of which is sent by the timer after the source is done. -/
theorem delivers_iff_two_chunks :
    ∃ log s, Runs step Possible (initial : State Unit) log s ∧
      log.map Prod.fst = [.data [1], .data [2], .done, .timer] ∧
      (Delivers log s ↔ Runs step (fun s event => Possible s event ∧ Timely s event) initial log s) := by
  have runs : Runs step Possible (initial : State Unit) [(.data [1], ()), (.data [2], ()), (.done, ()), (.timer, ())]
      ⟨⟨[.data [1], .data [2]], true⟩, [], true, true, 0⟩ :=
    .cons rfl rfl (.cons rfl rfl (.cons rfl rfl (.cons Nat.one_pos rfl .start)))
  exact ⟨_, _, runs, rfl, delivers_iff runs⟩

/-- After one chunk the source is done and the timer fires: nothing is left that could close the stream. -/
theorem not_delivers_one_chunk :
    ∃ log s, Runs step Possible (initial : State Unit) log s ∧ log.map Prod.fst = [.data [1], .done, .timer] ∧
      s.isDone = true ∧ s.outstanding = 0 ∧ s.controller.isClosed = false ∧ ¬ Delivers log s := by
  have runs : Runs step Possible (initial : State Unit) [(.data [1], ()), (.done, ()), (.timer, ())]
      ⟨⟨[.data [1]], false⟩, [], true, false, 0⟩ :=
    .cons rfl rfl (.cons rfl rfl (.cons Nat.one_pos rfl .start))
  exact ⟨_, _, runs, rfl, rfl, rfl, rfl, fun delivers => nomatch (delivers.finished rfl rfl).1⟩

end FlutterZero.FlutterTools.DebounceDataStream
