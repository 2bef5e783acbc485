import FlutterZero.Ui.ChannelBuffers.ControlMessages
import FlutterZero.Ui.ChannelBuffers.Delivery

/-! # When a discarded message is warned about

Without a listener a push stores its message and may discard older ones, or, at a
capacity that is not positive, forgets the message itself.  Whether `push` prints its
warning is decided in two places, and only one of them looks at the flag that
`allowOverflow` sets.

* `flag_after` — the flag of a channel is what the last call of `allowOverflow` says.
* `warns_iff_discards_iff` — in which states the warning obeys it.
-/

namespace FlutterZero.Ui

open FlutterZero.Lib

variable {α : Type}

inductive BufferCall (α : Type) where
  | push (name : String) (message : α)
  | resize (name : String) (newSize : Int)
  | allowOverflow (name : String) (allowed : Bool)

def BufferCall.name : BufferCall α → String
  | .push name _ => name
  | .resize name _ => name
  | .allowOverflow name _ => name

def BufferCall.flag (before : Bool) : BufferCall α → Bool
  | .allowOverflow _ allowed => !allowed
  | _ => before

namespace ChannelBuffers

/-- `push` throws before it changes anything. -/
def pushEffect (s : ChannelBuffers α) (name : String) (message : α) : Handled α :=
  match s.push name message with
  | .ok (events, s') => ⟨none, events, s'⟩
  | .error fault => ⟨some (.fault fault), [], s⟩

def perform (s : ChannelBuffers α) : BufferCall α → Handled α
  | .push name message => s.pushEffect name message
  | .resize name newSize => s.resizeEffect name newSize
  | .allowOverflow name allowed => s.allowOverflowEffect name allowed

def after (calls : List (BufferCall α)) : ChannelBuffers α :=
  calls.foldl (fun s call => (s.perform call).buffers) create

/-- What the last call of `allowOverflow` on the channel said. -/
def overflowAllowed (name : String) (calls : List (BufferCall α)) : Bool :=
  calls.foldl (fun before call =>
    match call with
    | .allowOverflow name' allowed => if name' = name then allowed else before
    | _ => before) false

/-! ## Warnings and discarded messages -/

def Warns (name : String) (h : Handled α) : Prop := ∃ capacity, Event.discardWarning name capacity ∈ h.events

/-- The push went through, and the queue is not the one before with the message behind it:
    an older message or the new one is gone. -/
def Discards (s : ChannelBuffers α) (name : String) (message : α) (h : Handled α) : Prop :=
  h.thrown = none ∧ (h.buffers.putIfAbsent name).queue ≠ (s.putIfAbsent name).queue ++ [message]

/-- The push discards no message although overflow is allowed, or forgets its own. -/
def ObeysFlag (c : Channel α) : Prop :=
  c.debugEnableDiscardWarnings = true ∨ c.capacity ≤ 0 ∨ (c.queue.length : Int) < c.capacity

/-! ## One push -/

theorem dropOverflow_of_le {queue : List α} {lengthLimit : Int} (short : (queue.length : Int) ≤ lengthLimit) :
    Channel.dropOverflow queue lengthLimit = .ok ([], queue) := by
  cases queue with
  | nil =>
    have nonneg : ¬ (0 : Int) > lengthLimit := by simpa using short
    rw [Channel.dropOverflow, if_neg nonneg]
  | cons message rest => rw [Channel.dropOverflow, if_neg (not_lt.mpr short)]

theorem push_stores {c : Channel α} (silent : c.channelCallbackRecord = none) (positive : 0 < c.capacity)
    (message : α) :
    ∃ dropped kept, c.queue = dropped ++ kept ∧ (dropped = [] ↔ (c.queue.length : Int) < c.capacity) ∧
      c.push message = .ok (.returns dropped !dropped.isEmpty, { c with queue := kept ++ [message] }) := by
  obtain ⟨dropped, kept, returned⟩ := Channel.dropOverflow_returns c.queue (show 0 ≤ c.capacity - 1 by omega)
  obtain ⟨split, short⟩ := Channel.dropOverflow_inv returned
  refine ⟨dropped, kept, split, ?_, ?_⟩
  · constructor
    · intro none
      rw [split, none, List.nil_append]
      omega
    · intro room
      rw [dropOverflow_of_le (show (c.queue.length : Int) ≤ c.capacity - 1 by omega)] at returned
      cases returned
      rfl
  · have notSmall : ¬ c.capacity ≤ 0 := by omega
    have stored : c.dropOverflowMessages (c.capacity - 1) = .ok (dropped, !dropped.isEmpty, { c with queue := kept }) := by
      rw [Channel.dropOverflowMessages, returned]
      rfl
    cases draining : c.draining <;>
      simp only [Channel.push, silent, draining, if_neg notSmall, stored, ok_bind, pure_eq_ok]

theorem push_forgets {c : Channel α} (silent : c.channelCallbackRecord = none) (small : c.capacity ≤ 0)
    (message : α) : c.push message = .ok (.returns [] c.debugEnableDiscardWarnings, c) := by
  cases draining : c.draining <;> simp only [Channel.push, silent, draining, if_pos small]

section Push

variable {s : ChannelBuffers α} {name : String}

theorem pushEffect_hasNull (null : hasNull name = true) (message : α) :
    s.pushEffect name message = ⟨some (.fault .assertion), [], s⟩ := by
  simp [pushEffect, push, dartAssert, null]

theorem pushEffect_eq {message : α} {discarded : List α} {result : Bool} {channel : Channel α}
    (noNull : hasNull name = false)
    (pushed : (s.putIfAbsent name).push message = .ok (.returns discarded result, channel)) :
    s.pushEffect name message =
      ⟨none, discarded.map (.repliedNull name) ++ (if result then [.discardWarning name channel.capacity] else []),
        s.setChannel name channel⟩ := by
  simp [pushEffect, push, dartAssert, noNull, pushed]

theorem warns_iff_of_events {discarded : List α} {result : Bool} {capacity : Int} {h : Handled α}
    (events : h.events = discarded.map (.repliedNull name) ++ (if result then [.discardWarning name capacity] else [])) :
    Warns name h ↔ result = true := by
  rw [Warns, events]
  cases result <;> simp

/-- The warning obeys the flag on a channel that nothing listens to exactly when
    `ObeysFlag` holds of it. -/
theorem pushEffect_obeys_iff (silent : (s.putIfAbsent name).channelCallbackRecord = none)
    (noNull : hasNull name = false) (message : α) :
    (Warns name (s.pushEffect name message) ↔
        Discards s name message (s.pushEffect name message) ∧
          (s.putIfAbsent name).debugEnableDiscardWarnings = true) ↔
      ObeysFlag (s.putIfAbsent name) := by
  by_cases small : (s.putIfAbsent name).capacity ≤ 0
  · have effect := pushEffect_eq noNull (push_forgets silent small message)
    have warns := warns_iff_of_events (congrArg Handled.events effect)
    have discards : Discards s name message (s.pushEffect name message) := by
      rw [effect]
      refine ⟨rfl, ?_⟩
      rw [putIfAbsent_setChannel, if_pos rfl]
      simp
    simp only [warns, discards, true_and]
    exact iff_of_true trivial (.inr (.inl small))
  · obtain ⟨dropped, kept, split, room, pushed⟩ := push_stores silent (not_le.mp small) message
    have effect := pushEffect_eq noNull pushed
    have warns : Warns name (s.pushEffect name message) ↔ dropped ≠ [] := by
      rw [warns_iff_of_events (congrArg Handled.events effect)]
      cases dropped <;> simp
    have discards : Discards s name message (s.pushEffect name message) ↔ dropped ≠ [] := by
      rw [effect, Discards, putIfAbsent_setChannel, if_pos rfl, split]
      simp
    rw [warns, discards, ObeysFlag, ← room]
    tauto

end Push

/-! ## Sequences of calls -/

structure Listenerless (s : ChannelBuffers α) : Prop where
  silent : ∀ name, (s.putIfAbsent name).channelCallbackRecord = none
  named : ∀ name, hasNull name = true → s.channels[name]? = none

structure Follows (s s' : ChannelBuffers α) (name : String) (flag : Bool) : Prop where
  others : ∀ other, other ≠ name → s'.channels[other]? = s.channels[other]?
  silent : (s'.putIfAbsent name).channelCallbackRecord = none
  flag : hasNull name = false → (s'.putIfAbsent name).debugEnableDiscardWarnings = flag
  named : hasNull name = true → s'.channels[name]? = none

section Calls

variable {s : ChannelBuffers α} {name : String}

theorem follows_refl (listenerless : s.Listenerless) {flag : Bool}
    (same : hasNull name = false → (s.putIfAbsent name).debugEnableDiscardWarnings = flag) :
    Follows s s name flag where
  others := fun _ _ => rfl
  silent := listenerless.silent name
  flag := same
  named := listenerless.named name

theorem follows_setChannel {channel : Channel α} (silent : channel.channelCallbackRecord = none)
    (noNull : hasNull name = false) :
    Follows s (s.setChannel name channel) name channel.debugEnableDiscardWarnings where
  others := fun other different => by simp [setChannel, Std.TreeMap.getElem?_insert, different.symm]
  silent := by rw [putIfAbsent_setChannel, if_pos rfl, silent]
  flag := fun _ => by rw [putIfAbsent_setChannel, if_pos rfl]
  named := fun null => by simp [noNull] at null

theorem noNull_of_found (listenerless : s.Listenerless) {channel : Channel α}
    (found : s.channels[name]? = some channel) : hasNull name = false := by
  cases null : hasNull name with
  | false => rfl
  | true =>
    rw [listenerless.named name null] at found
    cases found

theorem pushEffect_follows (listenerless : s.Listenerless) (message : α) :
    Follows s (s.pushEffect name message).buffers name (s.putIfAbsent name).debugEnableDiscardWarnings := by
  have silent := listenerless.silent name
  cases null : hasNull name with
  | true =>
    rw [pushEffect_hasNull null]
    exact follows_refl listenerless fun _ => rfl
  | false =>
    by_cases small : (s.putIfAbsent name).capacity ≤ 0
    · rw [pushEffect_eq null (push_forgets silent small message)]
      exact follows_setChannel silent null
    · obtain ⟨dropped, kept, _, _, pushed⟩ := push_stores silent (not_le.mp small) message
      rw [pushEffect_eq null pushed]
      exact follows_setChannel silent null

theorem resizeEffect_follows (listenerless : s.Listenerless) (newSize : Int) :
    Follows s (s.resizeEffect name newSize).buffers name (s.putIfAbsent name).debugEnableDiscardWarnings := by
  unfold resizeEffect
  cases found : s.channels[name]? with
  | none =>
    dsimp only
    rw [putIfAbsent_of_absent found]
    cases null : hasNull name with
    | true => exact follows_refl listenerless fun noNull => by simp [null] at noNull
    | false => exact follows_setChannel rfl null
  | some channel =>
    have same := putIfAbsent_of_found found
    have silent := listenerless.silent name
    rw [same] at silent ⊢
    exact follows_setChannel silent (noNull_of_found listenerless found)

theorem allowOverflowEffect_follows (listenerless : s.Listenerless) (allowed : Bool) :
    Follows s (s.allowOverflowEffect name allowed).buffers name !allowed := by
  unfold allowOverflowEffect allowOverflow
  cases found : s.channels[name]? with
  | some channel =>
    have same := putIfAbsent_of_found found
    have silent := listenerless.silent name
    rw [same] at silent
    exact follows_setChannel silent (noNull_of_found listenerless found)
  | none =>
    cases allowed with
    | false => exact follows_refl listenerless fun _ => by rw [putIfAbsent_of_absent found]; rfl
    | true =>
      cases null : hasNull name with
      | true => exact follows_refl listenerless fun noNull => by simp [null] at noNull
      | false => exact follows_setChannel rfl null

theorem perform_follows (listenerless : s.Listenerless) (call : BufferCall α) :
    Follows s (s.perform call).buffers call.name
      (call.flag (s.putIfAbsent call.name).debugEnableDiscardWarnings) := by
  cases call with
  | push name message => exact pushEffect_follows listenerless message
  | resize name newSize => exact resizeEffect_follows listenerless newSize
  | allowOverflow name allowed => exact allowOverflowEffect_follows listenerless allowed

theorem Follows.putIfAbsent_of_ne {s' : ChannelBuffers α} {flag : Bool} (follows : Follows s s' name flag)
    {other : String} (different : other ≠ name) : s'.putIfAbsent other = s.putIfAbsent other := by
  have same := follows.others other different
  cases found : s.channels[other]? with
  | none => rw [putIfAbsent_of_absent found, putIfAbsent_of_absent (same.trans found)]
  | some channel => rw [putIfAbsent_of_found found, putIfAbsent_of_found (same.trans found)]

theorem Follows.listenerless {s' : ChannelBuffers α} {flag : Bool} (follows : Follows s s' name flag)
    (listenerless : s.Listenerless) : s'.Listenerless where
  silent := fun other => by
    by_cases same : other = name
    · rw [same]
      exact follows.silent
    · rw [follows.putIfAbsent_of_ne same]
      exact listenerless.silent other
  named := fun other null => by
    by_cases same : other = name
    · rw [same] at null ⊢
      exact follows.named null
    · rw [follows.others other same]
      exact listenerless.named other null

end Calls

theorem after_append (calls : List (BufferCall α)) (call : BufferCall α) :
    after (calls ++ [call]) = ((after calls).perform call).buffers := by
  rw [after, after, List.foldl_append]
  rfl

theorem overflowAllowed_append (name : String) (calls : List (BufferCall α)) (call : BufferCall α) :
    (!overflowAllowed name (calls ++ [call])) =
      if call.name = name then call.flag !overflowAllowed name calls else !overflowAllowed name calls := by
  rw [overflowAllowed, List.foldl_append]
  show (!match call with
    | .allowOverflow name' allowed => if name' = name then allowed else overflowAllowed name calls
    | _ => overflowAllowed name calls) = _
  cases call with
  | allowOverflow name' allowed => by_cases same : name' = name <;> simp [BufferCall.name, BufferCall.flag, same]
  | _ => simp [BufferCall.flag]

theorem after_listenerless (calls : List (BufferCall α)) : (after calls).Listenerless := by
  induction calls using List.reverseRecOn with
  | nil => exact ⟨fun name => by simp [after, create, putIfAbsent, Channel.create], fun name _ => by simp [after, create]⟩
  | append_singleton calls call ih =>
    rw [after_append]
    exact (perform_follows ih call).listenerless ih

theorem flag_after (name : String) (noNull : hasNull name = false) (calls : List (BufferCall α)) :
    ((after calls).putIfAbsent name).debugEnableDiscardWarnings = !overflowAllowed name calls := by
  induction calls using List.reverseRecOn with
  | nil => simp [after, create, putIfAbsent, Channel.create, overflowAllowed]
  | append_singleton calls call ih =>
    have follows := perform_follows (after_listenerless calls) call
    rw [after_append, overflowAllowed_append]
    by_cases same : call.name = name
    · subst same
      rw [if_pos rfl, follows.flag noNull, ih]
    · rw [if_neg same, follows.putIfAbsent_of_ne (Ne.symm same), ih]

/-- After any calls, a push prints the warning exactly when it discards a message and
    overflow is not allowed, if and only if the channel obeys its flag. -/
theorem warns_iff_discards_iff (calls : List (BufferCall α)) (name : String) (message : α) :
    (Warns name ((after calls).perform (.push name message)) ↔
        Discards (after calls) name message ((after calls).perform (.push name message)) ∧
          overflowAllowed name calls = false) ↔
      ObeysFlag ((after calls).putIfAbsent name) := by
  have listenerless := after_listenerless calls
  show (Warns name ((after calls).pushEffect name message) ↔ _) ↔ _
  cases null : hasNull name with
  | true =>
    -- the assertion fails: nothing is printed, and there is no such channel
    have absent := putIfAbsent_of_absent (listenerless.named name null)
    have quiet : ¬ Warns name ((after calls).pushEffect name message) := by
      rw [pushEffect_hasNull null]
      simp [Warns]
    have nothing : ¬ Discards (after calls) name message ((after calls).pushEffect name message) := by
      rw [pushEffect_hasNull null]
      simp [Discards]
    rw [absent]
    exact iff_of_true (iff_of_false quiet fun warned => nothing warned.1) (.inl rfl)
  | false =>
    have flag := flag_after name null calls
    rw [← pushEffect_obeys_iff (listenerless.silent name) null message, flag, Bool.not_eq_true']
    rfl

/-- Overflow is allowed on a channel that has no room left. -/
theorem warns_although_allowed :
    ¬ ∀ (calls : List (BufferCall Nat)) (name : String) (message : Nat),
      Warns name ((after calls).perform (.push name message)) ↔
        Discards (after calls) name message ((after calls).perform (.push name message)) ∧
          overflowAllowed name calls = false := by
  intro always
  have warns : Warns "a" ((after [.allowOverflow "a" true, .push "a" 1]).perform (.push "a" 2)) :=
    ⟨1, by decide +kernel⟩
  have forbidden := ((always [.allowOverflow "a" true, .push "a" 1] "a" 2).mp warns).2
  have allowed : overflowAllowed "a" [.allowOverflow "a" true, .push "a" 1] = true := by decide
  rw [allowed] at forbidden
  cases forbidden

end ChannelBuffers

end FlutterZero.Ui
