import FlutterZero.Ui.ChannelBuffers.ControlMessages
import FlutterZero.Ui.ChannelBuffers.Delivery

/-! # A listener that throws

One channel together with the zones its code runs in.  A microtask runs in the zone
it was scheduled in, and `_invoke2` calls a listener directly when that is the zone the
listener was set in, and through `runGuarded` otherwise.  An exception of a listener that
was called directly goes on through `_drainStep`, which has then popped its message and
not yet scheduled itself again.

* `Attended.step` — what every other step keeps.
* `Wedged.step` — a channel whose drain step was left stays draining forever.
* `unwedged_iff_contained` — in which runs a channel is not wedged.
-/

namespace FlutterZero.Ui

open FlutterZero.Lib

variable {α : Type}

abbrev Zone := Nat

inductive ZonedFrame where
  | push
  /-- Runs in the zone; `guarded` if it invoked the listener through `runGuarded`. -/
  | drainStep (zone : Zone) (guarded : Bool)
deriving DecidableEq, Repr

def ZonedFrame.isDrainStep : ZonedFrame → Bool
  | .push => false
  | .drainStep _ _ => true

structure ZonedChannel (α : Type) where
  channel : Channel α
  listenerZone : Zone
  /-- The zones of the microtasks that are queued to call `_drainStep`. -/
  microtasks : List Zone
  stack : List ZonedFrame
deriving DecidableEq, Repr

inductive ZonedOp (α : Type) where
  | push (message : α)
  /-- `setListener`, called in the zone. -/
  | setListener (callback : ListenerId) (zone : Zone)
  | clearListener
  | resize (newSize : Int)
  | setDiscardWarnings (enabled : Bool)
  /-- The event loop runs the first microtask. -/
  | runMicrotask
  | listenerReturns
  | listenerThrows
deriving DecidableEq, Repr

namespace ZonedChannel

def create (capacity : Int) : ZonedChannel α := ⟨.create capacity, 0, [], []⟩

def push (s : ZonedChannel α) (message : α) : Except DartFault (List α × ZonedChannel α) := do
  let (outcome, channel) ← s.channel.push message
  match outcome with
  | .invokes _ => return ([message], { s with channel := channel, stack := .push :: s.stack })
  | .returns _ _ => return ([], { s with channel := channel })

def setListener (s : ZonedChannel α) (callback : ListenerId) (zone : Zone) :
    Except DartFault (List α × ZonedChannel α) := do
  let channel ← s.channel.setListener callback
  return ([], { s with
    channel := channel
    listenerZone := zone
    microtasks := s.microtasks ++ List.replicate (channel.scheduled - s.channel.scheduled) zone })

/-- The setter of `capacity`, also where it throws. -/
def resize (s : ZonedChannel α) (newSize : Int) : ZonedChannel α :=
  let (_, kept, _) := ChannelBuffers.dropLoop s.channel.queue newSize
  { s with channel := { s.channel with capacity := newSize, queue := kept } }

def runMicrotask (s : ZonedChannel α) : Except DartFault (List α × ZonedChannel α) :=
  match s.stack, s.microtasks with
  | [], zone :: microtasks => do
    let (invoked, channel) ← { s.channel with scheduled := s.channel.scheduled - 1 }.drainStep
    let s := { s with channel := channel, microtasks := microtasks }
    match invoked with
    | some (_, message) =>
      -- `identical(zone, Zone.current)`
      return ([message], { s with stack := [.drainStep zone (decide (s.listenerZone ≠ zone))] })
    | none => return ([], s)
  | _, _ => .error .notEnabled

/-- The `scheduleMicrotask(_drainStep)` behind the invocation. -/
def reschedule (s : ZonedChannel α) (zone : Zone) (stack : List ZonedFrame) : ZonedChannel α :=
  { s with
    channel := { s.channel with scheduled := s.channel.scheduled + 1 }
    microtasks := s.microtasks ++ [zone]
    stack := stack }

def listenerReturns (s : ZonedChannel α) : Except DartFault (List α × ZonedChannel α) :=
  match s.stack with
  | [] => .error .notEnabled
  | .push :: stack => .ok ([], { s with stack := stack })
  | .drainStep zone _ :: stack => .ok ([], s.reschedule zone stack)

def listenerThrows (s : ZonedChannel α) : Except DartFault (List α × ZonedChannel α) :=
  match s.stack with
  | [] => .error .notEnabled
  -- nothing is left to do in `push`, whether or not its caller sees the exception
  | .push :: stack => .ok ([], { s with stack := stack })
  -- the zone's error handler takes the exception
  | .drainStep zone true :: stack => .ok ([], s.reschedule zone stack)
  | .drainStep _ false :: stack => .ok ([], { s with stack := stack })

def step (s : ZonedChannel α) : ZonedOp α → Except DartFault (List α × ZonedChannel α)
  | .push message => s.push message
  | .setListener callback zone => s.setListener callback zone
  | .clearListener => .ok ([], { s with channel := s.channel.clearListener })
  | .resize newSize => .ok ([], s.resize newSize)
  | .setDiscardWarnings enabled =>
    .ok ([], { s with channel := { s.channel with debugEnableDiscardWarnings := enabled } })
  | .runMicrotask => s.runMicrotask
  | .listenerReturns => s.listenerReturns
  | .listenerThrows => s.listenerThrows

/-! ## Channels that are not wedged -/

/-- The `_drainStep` calls that are queued or waiting for a listener. -/
def outstanding (s : ZonedChannel α) : Nat :=
  s.microtasks.length + s.stack.countP ZonedFrame.isDrainStep

/-- The channel is draining only while a drain step is outstanding, a message that is pushed while
    none is goes to the listener, and a message that is queued while there is a listener is the
    next one a drain step hands over. -/
structure Unwedged (s : ZonedChannel α) : Prop where
  settled : s.outstanding = 0 → s.channel.draining = false
  delivers : s.channel.channelCallbackRecord ≠ none → s.outstanding = 0 →
    ∀ message, ∃ s', s.push message = .ok ([message], s')
  drains : s.channel.channelCallbackRecord ≠ none →
    ∀ message rest, s.channel.queue = message :: rest →
      0 < s.outstanding ∧
      (s.stack = [] → s.microtasks ≠ [] → ∃ s', s.runMicrotask = .ok ([message], s'))

/-- A listener throws that a drain step called directly, in the zone they share. -/
def Escapes (s : ZonedChannel α) (op : ZonedOp α) : Prop :=
  match op, s.stack with
  | .listenerThrows, .drainStep _ false :: _ => True
  | _, _ => False

instance (s : ZonedChannel α) (op : ZonedOp α) : Decidable (s.Escapes op) := by
  unfold Escapes
  split <;> infer_instance

/-! ## What a step can do -/

variable {s s' : ZonedChannel α} {out : List α}

theorem push_cases {message : α} (h : s.push message = .ok (out, s')) :
    (s.channel.draining = false ∧ out = [message] ∧ s' = { s with stack := .push :: s.stack }) ∨
      (s.channel.Buffers ∧ ∃ queue, s' = { s with channel := { s.channel with queue := queue } }) := by
  obtain ⟨⟨outcome, channel⟩, pushed, h⟩ := bind_eq_ok.mp h
  have move := Channel.push_move 0 pushed
  cases outcome with
  | invokes listener =>
    cases h
    simp only [Channel.PushOutcome.moved] at move
    cases move with
    | handedOver idle _ _ => exact .inl ⟨idle, rfl, rfl⟩
  | returns discarded result =>
    cases h
    simp only [Channel.PushOutcome.moved] at move
    cases move with
    | forgotten forgets => exact .inr ⟨forgets.1, _, rfl⟩
    | stored buffers _ _ _ => exact .inr ⟨buffers, _, rfl⟩

theorem setListener_cases {callback : ListenerId} {zone : Zone}
    (h : s.setListener callback zone = .ok (out, s')) :
    ((s.channel.draining = true ∨ s.channel.channelCallbackRecord ≠ none) ∧
        s' = { s with
          channel := { s.channel with channelCallbackRecord := some callback }
          listenerZone := zone }) ∨
      (s.channel.draining = false ∧
        s' = { s with
          channel := { s.channel with
            channelCallbackRecord := some callback
            draining := true
            scheduled := s.channel.scheduled + 1 }
          listenerZone := zone
          microtasks := s.microtasks ++ [zone] }) := by
  obtain ⟨channel, set, h⟩ := bind_eq_ok.mp h
  have move := Channel.setListener_move 0 set
  cases h
  unfold Channel.setListener at set
  simp only at set
  split at set
  · -- a drain starts
    rename_i needs
    obtain ⟨_, _, set⟩ := bind_eq_ok.mp set
    cases set
    simp only [Bool.and_eq_true, Bool.not_eq_true'] at needs
    exact .inr ⟨needs.2, by simp⟩
  · rename_i needs
    cases set
    refine .inl ⟨?_, by simp⟩
    cases draining : s.channel.draining with
    | true => exact .inl rfl
    | false => exact .inr fun silent => needs (by simp [silent, draining])

theorem resize_eq (s : ZonedChannel α) (newSize : Int) :
    ∃ queue, (s.channel.queue = [] → queue = []) ∧
      s.resize newSize = { s with channel := { s.channel with capacity := newSize, queue := queue } } := by
  refine ⟨(ChannelBuffers.dropLoop s.channel.queue newSize).2.1, fun none => ?_, rfl⟩
  rw [none]
  rfl

theorem runMicrotask_cases (h : s.runMicrotask = .ok (out, s')) :
    s.stack = [] ∧ ∃ zone microtasks, s.microtasks = zone :: microtasks ∧ s.channel.draining = true ∧
      ((∃ rest guarded, s' =
          { s with
            channel := { s.channel with queue := rest, scheduled := s.channel.scheduled - 1 }
            microtasks := microtasks
            stack := [.drainStep zone guarded] }) ∨
        ((s.channel.queue = [] ∨ s.channel.channelCallbackRecord = none) ∧ s' =
          { s with
            channel := { s.channel with draining := false, scheduled := s.channel.scheduled - 1 }
            microtasks := microtasks })) := by
  unfold runMicrotask at h
  split at h
  · rename_i zone microtasks empty queued
    obtain ⟨⟨invoked, channel⟩, stepped, h⟩ := bind_eq_ok.mp h
    obtain ⟨_, draining, stepped⟩ := bind_eq_ok.mp stepped
    refine ⟨empty, zone, microtasks, queued, dartAssert_eq_ok.mp draining, ?_⟩
    cases waiting : s.channel.queue with
    | nil =>
      simp only [waiting] at stepped
      cases stepped
      cases h
      exact .inr ⟨.inl rfl, by simp [empty, waiting]⟩
    | cons message rest =>
      cases listening : s.channel.channelCallbackRecord with
      | none =>
        simp only [waiting, listening] at stepped
        cases stepped
        cases h
        exact .inr ⟨.inr rfl, by simp [empty, waiting, listening]⟩
      | some listener =>
        simp only [waiting, listening] at stepped
        cases stepped
        cases h
        exact .inl ⟨rest, decide (s.listenerZone ≠ zone), by simp [listening]⟩
  · cases h

variable {op : ZonedOp α}

theorem finished_cases (finished : op = .listenerReturns ∨ op = .listenerThrows)
    (contained : ¬ s.Escapes op) (h : s.step op = .ok (out, s')) : ∃ frame stack, s.stack = frame :: stack ∧
      ((frame = .push ∧ s' = { s with stack := stack }) ∨
        ∃ zone guarded, frame = .drainStep zone guarded ∧ s' = s.reschedule zone stack) := by
  obtain rfl | rfl := finished
  · simp only [step, listenerReturns] at h
    split at h
    · cases h
    · rename_i stack waiting
      cases h
      exact ⟨_, stack, waiting, .inl ⟨rfl, rfl⟩⟩
    · rename_i zone guarded stack waiting
      cases h
      exact ⟨_, stack, waiting, .inr ⟨zone, guarded, rfl, rfl⟩⟩
  · simp only [step, listenerThrows] at h
    split at h
    · cases h
    · rename_i stack waiting
      cases h
      exact ⟨_, stack, waiting, .inl ⟨rfl, rfl⟩⟩
    · rename_i zone stack waiting
      cases h
      exact ⟨_, stack, waiting, .inr ⟨zone, true, rfl, rfl⟩⟩
    · rename_i zone stack waiting
      exact absurd (by simp [Escapes, waiting]) contained

theorem escape_inv (escapes : s.Escapes op) (h : s.step op = .ok (out, s')) :
    ∃ zone stack, s.stack = .drainStep zone false :: stack ∧ s' = { s with stack := stack } := by
  unfold Escapes at escapes
  split at escapes
  · rename_i zone stack waiting
    simp only [step, listenerThrows, waiting, Except.ok.injEq, Prod.mk.injEq] at h
    exact ⟨zone, stack, waiting, h.2.symm⟩
  · cases escapes

/-! ## A drain step is outstanding while the channel is draining -/

/-- As `Channel.Steady`, for a channel whose size may be negative. -/
structure Attended (s : ZonedChannel α) : Prop where
  empty : s.channel.draining = false → s.channel.channelCallbackRecord ≠ none → s.channel.queue = []
  outstanding : s.outstanding = if s.channel.draining then 1 else 0

structure Wedged (s : ZonedChannel α) : Prop where
  draining : s.channel.draining = true
  abandoned : s.outstanding = 0

theorem attended_create (capacity : Int) : (create capacity : ZonedChannel α).Attended where
  empty := fun _ _ => rfl
  outstanding := rfl

@[simp] theorem outstanding_push (stack : List ZonedFrame) :
    { s with stack := .push :: stack }.outstanding = { s with stack := stack }.outstanding := by
  simp [outstanding, ZonedFrame.isDrainStep]

theorem outstanding_reschedule {zone : Zone} {guarded : Bool} {stack : List ZonedFrame}
    (waiting : s.stack = .drainStep zone guarded :: stack) :
    (s.reschedule zone stack).outstanding = s.outstanding := by
  simp only [outstanding, reschedule, waiting, List.length_append, List.length_singleton, List.countP_cons,
    ZonedFrame.isDrainStep, if_true]
  omega

theorem Attended.step (attended : s.Attended) (contained : ¬ s.Escapes op)
    (h : s.step op = .ok (out, s')) : s'.Attended := by
  obtain ⟨empty, outstanding⟩ := attended
  have finished (op : ZonedOp α) (finished : op = .listenerReturns ∨ op = .listenerThrows)
      (contained : ¬ s.Escapes op) (h : s.step op = .ok (out, s')) : s'.Attended := by
    obtain ⟨frame, stack, waiting, ⟨rfl, rfl⟩ | ⟨zone, guarded, rfl, rfl⟩⟩ := finished_cases finished contained h
    · refine ⟨empty, ?_⟩
      rw [← outstanding_push]
      show { s with stack := .push :: stack }.outstanding = if s.channel.draining then 1 else 0
      rw [← waiting, ← outstanding]
    · refine ⟨empty, ?_⟩
      rw [outstanding_reschedule waiting]
      exact outstanding
  cases op with
  | push message =>
    obtain ⟨_, _, rfl⟩ | ⟨buffers, queue, rfl⟩ := push_cases h
    · refine ⟨empty, ?_⟩
      rw [outstanding_push]
      exact outstanding
    · refine ⟨fun idle listening => ?_, outstanding⟩
      -- a channel that buffers is draining or does not listen
      obtain draining | silent := buffers
      · exact absurd draining (by simpa using idle)
      · exact absurd silent listening
  | setListener callback zone =>
    obtain ⟨why, rfl⟩ | ⟨idle, rfl⟩ := setListener_cases h
    · refine ⟨fun idle _ => ?_, outstanding⟩
      obtain draining | listening := why
      · exact absurd draining (by simpa using idle)
      · exact empty idle listening
    · -- nothing was outstanding, so the new microtask is the only one
      refine ⟨nofun, ?_⟩
      rw [idle] at outstanding
      simp only [ZonedChannel.outstanding, Bool.false_eq_true, if_false] at outstanding
      simp only [ZonedChannel.outstanding, List.length_append, List.length_singleton, if_true]
      omega
  | clearListener =>
    cases h
    exact ⟨fun _ listening => absurd rfl listening, outstanding⟩
  | resize newSize =>
    cases h
    obtain ⟨queue, kept, resized⟩ := resize_eq s newSize
    rw [resized]
    exact ⟨fun idle listening => kept (empty idle listening), outstanding⟩
  | setDiscardWarnings enabled =>
    cases h
    exact ⟨empty, outstanding⟩
  | runMicrotask =>
    obtain ⟨noFrames, zone, microtasks, queued, draining, ⟨rest, guarded, rfl⟩ | ⟨why, rfl⟩⟩ := runMicrotask_cases h
    · -- the microtask that was queued is the step that is running now
      refine ⟨fun idle => absurd draining (by simpa using idle), ?_⟩
      rw [← outstanding]
      simp [ZonedChannel.outstanding, queued, noFrames, ZonedFrame.isDrainStep]
    · refine ⟨fun _ listening => ?_, ?_⟩
      · obtain none | silent := why
        · exact none
        · exact absurd silent listening
      · rw [draining, if_pos rfl] at outstanding
        simp only [ZonedChannel.outstanding, queued, noFrames, List.length_cons, List.countP_nil] at outstanding ⊢
        simpa using outstanding
  | listenerReturns => exact finished _ (.inl rfl) contained h
  | listenerThrows => exact finished _ (.inr rfl) contained h

theorem Attended.escape (attended : s.Attended) (escapes : s.Escapes op)
    (h : s.step op = .ok (out, s')) : s'.Wedged := by
  obtain ⟨zone, stack, waiting, rfl⟩ := escape_inv escapes h
  have outstanding := attended.outstanding
  simp only [ZonedChannel.outstanding, waiting, List.countP_cons, ZonedFrame.isDrainStep, if_true] at outstanding
  cases draining : s.channel.draining with
  | true =>
    refine ⟨draining, ?_⟩
    rw [draining, if_pos rfl] at outstanding
    show s.microtasks.length + stack.countP ZonedFrame.isDrainStep = 0
    omega
  | false =>
    rw [draining] at outstanding
    simp only [Bool.false_eq_true, if_false] at outstanding
    omega

theorem Wedged.step (wedged : s.Wedged) (h : s.step op = .ok (out, s')) : s'.Wedged := by
  obtain ⟨draining, abandoned⟩ := wedged
  have noMicrotasks : s.microtasks = [] := List.length_eq_zero_iff.mp (Nat.eq_zero_of_add_eq_zero_right abandoned)
  have noFrame {zone : Zone} {guarded : Bool} {stack : List ZonedFrame}
      (waiting : s.stack = .drainStep zone guarded :: stack) : False := by
    simp [outstanding, waiting, ZonedFrame.isDrainStep] at abandoned
  have contained : ¬ s.Escapes op := fun escapes => by
    obtain ⟨zone, stack, waiting, _⟩ := escape_inv escapes h
    exact noFrame waiting
  have finished (op : ZonedOp α) (finished : op = .listenerReturns ∨ op = .listenerThrows)
      (contained : ¬ s.Escapes op) (h : s.step op = .ok (out, s')) : s'.Wedged := by
    obtain ⟨frame, stack, waiting, ⟨rfl, rfl⟩ | ⟨zone, guarded, rfl, rfl⟩⟩ := finished_cases finished contained h
    · refine ⟨draining, ?_⟩
      rw [← outstanding_push, ← abandoned]
      show { s with stack := .push :: stack }.outstanding = _
      rw [← waiting]
    · exact (noFrame waiting).elim
  cases op with
  | push message =>
    obtain ⟨idle, _⟩ | ⟨_, queue, rfl⟩ := push_cases h
    · exact absurd draining (by simp [idle])
    · exact ⟨draining, abandoned⟩
  | setListener callback zone =>
    obtain ⟨_, rfl⟩ | ⟨idle, _⟩ := setListener_cases h
    · exact ⟨draining, abandoned⟩
    · exact absurd draining (by simp [idle])
  | clearListener =>
    cases h
    exact ⟨draining, abandoned⟩
  | resize newSize =>
    cases h
    obtain ⟨queue, _, resized⟩ := resize_eq s newSize
    rw [resized]
    exact ⟨draining, abandoned⟩
  | setDiscardWarnings enabled =>
    cases h
    exact ⟨draining, abandoned⟩
  | runMicrotask =>
    obtain ⟨_, zone, microtasks, queued, _⟩ := runMicrotask_cases h
    rw [noMicrotasks] at queued
    cases queued
  | listenerReturns => exact finished _ (.inl rfl) contained h
  | listenerThrows => exact finished _ (.inr rfl) contained h

/-! ## Runs -/

theorem Wedged.not_unwedged (wedged : s.Wedged) : ¬ s.Unwedged := by
  intro unwedged
  have settled := unwedged.settled wedged.abandoned
  rw [wedged.draining] at settled
  cases settled

theorem Attended.unwedged (attended : s.Attended) : s.Unwedged where
  settled := fun none => by
    have outstanding := attended.outstanding
    cases draining : s.channel.draining with
    | true =>
      rw [none, draining] at outstanding
      cases outstanding
    | false => rfl
  delivers := fun listening none message => by
    have outstanding := attended.outstanding
    cases draining : s.channel.draining with
    | true =>
      rw [none, draining] at outstanding
      cases outstanding
    | false =>
      have empty := attended.empty draining listening
      cases record : s.channel.channelCallbackRecord with
      | none => exact absurd record listening
      | some listener =>
        refine ⟨{ s with stack := .push :: s.stack }, ?_⟩
        simp [push, Channel.push, draining, record, empty, dartAssert]
  drains := fun listening message rest queued => by
    have outstanding := attended.outstanding
    have draining : s.channel.draining = true := by
      cases draining : s.channel.draining with
      | true => rfl
      | false => simp [attended.empty draining listening] at queued
    rw [draining, if_pos rfl] at outstanding
    refine ⟨by omega, fun noFrames scheduled => ?_⟩
    cases record : s.channel.channelCallbackRecord with
    | none => exact absurd record listening
    | some listener =>
      cases microtasks : s.microtasks with
      | nil => exact absurd microtasks scheduled
      | cons zone later =>
        simp [runMicrotask, Channel.drainStep, noFrames, microtasks, draining, queued, record, dartAssert]

theorem Wedged.not_attended (wedged : s.Wedged) : ¬ s.Attended := fun attended =>
  wedged.not_unwedged attended.unwedged

/-- A channel is not wedged if and only if no listener has thrown through a drain step. -/
theorem unwedged_iff_contained {capacity : Int} {log : List (ZonedOp α × List α)}
    (runs : Runs step (fun _ _ => True) (create capacity) log s) :
    s.Unwedged ↔ Runs step (fun s op => ¬ s.Escapes op) (create capacity) log s := by
  have whole : (Runs step (fun s op => ¬ s.Escapes op) (create capacity) log s ∧ s.Attended) ∨ s.Wedged := by
    induction runs with
    | start => exact .inl ⟨.start, attended_create capacity⟩
    | @next log s s' op out _ _ stepped ih =>
      obtain ⟨contained, attended⟩ | wedged := ih
      · by_cases escapes : s.Escapes op
        · exact .inr (attended.escape escapes stepped)
        · exact .inl ⟨.next contained escapes stepped, attended.step escapes stepped⟩
      · exact .inr (wedged.step stepped)
  obtain ⟨contained, attended⟩ | wedged := whole
  · exact iff_of_true attended.unwedged contained
  · refine iff_of_false wedged.not_unwedged fun contained => ?_
    -- a run without escapes leaves the channel attended
    have attended : s.Attended := contained.preserves (attended_create capacity)
      fun s op out s' attended contained stepped => attended.step contained stepped
    exact wedged.not_attended attended

/-- The drain was started in zone 1, and the listener that throws belongs to zone 0. -/
theorem unwedged_iff_contained_guarded :
    ∃ (log : List (ZonedOp Nat × List Nat)) (s : ZonedChannel Nat),
      log.map Prod.snd = [[], [], [], [7], [], []] ∧
      (s.Unwedged ↔ Runs step (fun s op => ¬ s.Escapes op) (create 2) log s) := by
  have ran : ∃ log s, run step (create 2) [.push 7, .setListener 4 1, .setListener 5 0, .runMicrotask,
      .listenerThrows, .runMicrotask] = .ok (log, s) ∧
      log.map Prod.snd = [[], [], [], [7], [], []] := ⟨_, _, rfl, rfl⟩
  obtain ⟨log, s, ran, outputs⟩ := ran
  exact ⟨log, s, outputs, unwedged_iff_contained (runs_of_run (fun _ _ _ => trivial) ran)⟩

/-- One listener that throws in the first drain step. -/
theorem wedged_by_throw :
    ¬ ∀ (log : List (ZonedOp Nat × List Nat)) (s : ZonedChannel Nat),
      Runs step (fun _ _ => True) (create 1) log s → s.Unwedged := by
  intro always
  have ran : ∃ log s, run step (create 1) [.push 7, .setListener 4 0, .runMicrotask, .listenerThrows] = .ok (log, s) ∧
      s.outstanding = 0 ∧ s.channel.draining = true := ⟨_, _, rfl, rfl, rfl⟩
  obtain ⟨log, s, ran, none, draining⟩ := ran
  have idle := (always log s (runs_of_run (fun _ _ _ => trivial) ran)).settled none
  rw [draining] at idle
  cases idle

end ZonedChannel

end FlutterZero.Ui
