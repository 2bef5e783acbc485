import FlutterZero.Ui.ChannelBuffers

/-! # What becomes of a pushed message

Every step of the channel buffers is, for each channel, one of a few moves
(`Move`), which say what was pushed, handed to a listener and discarded.  From
the moves follow the invariants of a channel (`Steady`), the order of delivery
and the account of its messages.  The account has one gap: a channel of capacity
zero that cannot hand a message over forgets it (`Loses`).
-/

namespace FlutterZero.Ui

open FlutterZero.Lib

variable {α : Type}

theorem dartAssert_eq_ok {condition : Bool} {u : Unit} :
    dartAssert condition = .ok u ↔ condition = true := by
  cases condition <;> simp [dartAssert]

namespace Channel

variable {c c' : Channel α}

/-! ## Dropping messages -/

theorem dropOverflow_inv {queue dropped kept : List α} {lengthLimit : Int}
    (h : dropOverflow queue lengthLimit = .ok (dropped, kept)) :
    queue = dropped ++ kept ∧ (kept.length : Int) ≤ lengthLimit := by
  induction queue generalizing dropped with
  | nil =>
    simp only [dropOverflow] at h
    split at h
    · cases h
    · rename_i nonneg
      cases h
      simp only [List.append_nil, List.length_nil, true_and]
      omega
  | cons message rest ih =>
    simp only [dropOverflow] at h
    split at h
    · obtain ⟨⟨dropped', kept'⟩, rest_dropped, h⟩ := bind_eq_ok.mp h
      cases h
      obtain ⟨split, short⟩ := ih rest_dropped
      exact ⟨by rw [split, List.cons_append], short⟩
    · rename_i short
      cases h
      exact ⟨rfl, by omega⟩

theorem dropOverflow_returns (queue : List α) {lengthLimit : Int} (nonneg : 0 ≤ lengthLimit) :
    ∃ dropped kept, dropOverflow queue lengthLimit = .ok (dropped, kept) := by
  induction queue with
  | nil => exact ⟨[], [], by simp [dropOverflow, not_lt.mpr nonneg]⟩
  | cons message rest ih =>
    obtain ⟨dropped, kept, returned⟩ := ih
    by_cases long : ((message :: rest).length : Int) > lengthLimit
    · exact ⟨message :: dropped, kept, by simp only [dropOverflow, if_pos long, returned]; rfl⟩
    · exact ⟨[], message :: rest, by simp only [dropOverflow, if_neg long]⟩

/-! ## Moves -/

def Buffers (c : Channel α) : Prop := c.draining = true ∨ c.channelCallbackRecord = none

instance (c : Channel α) : Decidable c.Buffers := inferInstanceAs (Decidable (_ ∨ _))

/-- A message that is pushed now is neither handed over nor stored. -/
def Forgets (c : Channel α) : Prop := c.Buffers ∧ c.capacity ≤ 0

instance (c : Channel α) : Decidable c.Forgets := inferInstanceAs (Decidable (_ ∧ _))

/-- What a step does to a channel with so many `_drainStep` calls on the stack, given what it
    pushed, handed over and discarded. -/
inductive Move : Channel α → Nat → List α → List α → List α → Channel α → Nat → Prop where
  | same {c : Channel α} {running : Nat} : Move c running [] [] [] c running
  | handedOver {c : Channel α} {running : Nat} {listener : ListenerId} {message : α} :
      c.draining = false → c.channelCallbackRecord = some listener → c.queue = [] →
      Move c running [message] [message] [] c running
  | forgotten {c : Channel α} {running : Nat} {message : α} : c.Forgets →
      Move c running [message] [] [] c running
  | stored {c : Channel α} {running : Nat} {message : α} {dropped kept : List α} :
      c.Buffers → 0 < c.capacity → c.queue = dropped ++ kept → (kept.length : Int) ≤ c.capacity - 1 →
      Move c running [message] [] dropped { c with queue := kept ++ [message] } running
  | replaced {c : Channel α} {running : Nat} {callback : ListenerId} :
      (c.draining = true ∨ c.channelCallbackRecord ≠ none) →
      Move c running [] [] [] { c with channelCallbackRecord := some callback } running
  | drains {c : Channel α} {running : Nat} {callback : ListenerId} : c.draining = false →
      Move c running [] [] []
        { c with
          channelCallbackRecord := some callback
          draining := true
          scheduled := c.scheduled + 1 } running
  | cleared {c : Channel α} {running : Nat} :
      Move c running [] [] [] { c with channelCallbackRecord := none } running
  | resized {c : Channel α} {running : Nat} {newSize : Int} {dropped kept : List α} :
      c.queue = dropped ++ kept → (kept.length : Int) ≤ newSize →
      Move c running [] [] dropped { c with capacity := newSize, queue := kept } running
  | warns {c : Channel α} {running : Nat} {enabled : Bool} :
      Move c running [] [] [] { c with debugEnableDiscardWarnings := enabled } running
  | drained {c : Channel α} {running : Nat} {listener : ListenerId} {message : α} {rest : List α} :
      c.draining = true → 0 < c.scheduled → c.queue = message :: rest →
      c.channelCallbackRecord = some listener →
      Move c running [] [message] [] { c with queue := rest, scheduled := c.scheduled - 1 } (running + 1)
  | drainEnds {c : Channel α} {running : Nat} : c.draining = true → 0 < c.scheduled →
      (c.queue = [] ∨ c.channelCallbackRecord = none) →
      Move c running [] [] [] { c with draining := false, scheduled := c.scheduled - 1 } running
  | reschedules {c : Channel α} {running : Nat} :
      Move c (running + 1) [] [] [] { c with scheduled := c.scheduled + 1 } running

/-- A channel that listens and is not draining has nothing queued, a `_drainStep` is queued or on
    the stack exactly while it is draining, and the queue keeps to the capacity. -/
structure Steady (c : Channel α) (running : Nat) : Prop where
  empty : c.draining = false → c.channelCallbackRecord ≠ none → c.queue = []
  outstanding : c.scheduled + running = if c.draining then 1 else 0
  bounded : (c.queue.length : Int) ≤ c.capacity

theorem steady_create {capacity : Int} (nonneg : 0 ≤ capacity) :
    (create capacity : Channel α).Steady 0 where
  empty := fun _ _ => rfl
  outstanding := rfl
  bounded := nonneg

theorem Move.steady {running running' : Nat} {pushed handed discarded : List α}
    (move : Move c running pushed handed discarded c' running') (steady : c.Steady running) :
    c'.Steady running' := by
  obtain ⟨empty, outstanding, bounded⟩ := steady
  cases move with
  | same => exact ⟨empty, outstanding, bounded⟩
  | handedOver => exact ⟨empty, outstanding, bounded⟩
  | forgotten => exact ⟨empty, outstanding, bounded⟩
  | stored buffers _ _ short =>
    refine ⟨fun idle listening => ?_, outstanding, ?_⟩
    · -- a channel that buffers is draining or does not listen
      rcases buffers with draining | silent
      · rw [draining] at idle
        cases idle
      · exact absurd silent listening
    · rw [List.length_append, List.length_singleton]
      push_cast
      omega
  | replaced why =>
    refine ⟨fun idle _ => ?_, outstanding, bounded⟩
    rcases why with draining | listening
    · rw [draining] at idle
      cases idle
    · exact empty idle listening
  | drains idle =>
    -- nothing was outstanding, so the new microtask is the only one
    rw [idle, if_neg Bool.false_ne_true] at outstanding
    refine ⟨nofun, ?_, bounded⟩
    show c.scheduled + 1 + running = 1
    omega
  | cleared => exact ⟨fun _ listening => absurd rfl listening, outstanding, bounded⟩
  | resized split short =>
    refine ⟨fun idle listening => ?_, outstanding, short⟩
    have none := empty idle listening
    rw [split, List.append_eq_nil_iff] at none
    exact none.2
  | warns => exact ⟨empty, outstanding, bounded⟩
  | drained draining scheduled split _ =>
    -- the microtask that was queued is the step that is running now
    rw [draining, if_pos rfl] at outstanding
    refine ⟨fun idle => ?_, ?_, ?_⟩
    · rw [draining] at idle
      cases idle
    · show c.scheduled - 1 + (running + 1) = if c.draining then 1 else 0
      rw [draining, if_pos rfl]
      omega
    · rw [split, List.length_cons] at bounded
      push_cast at bounded
      exact le_of_lt (Int.lt_of_add_one_le bounded)
  | drainEnds draining scheduled why =>
    -- either nothing is queued or nobody listens
    rw [draining, if_pos rfl] at outstanding
    refine ⟨fun _ listening => ?_, ?_, bounded⟩
    · rcases why with none | silent
      · exact none
      · exact absurd silent listening
    · show c.scheduled - 1 + running = 0
      omega
  | reschedules =>
    refine ⟨empty, ?_, bounded⟩
    show c.scheduled + 1 + running' = if c.draining then 1 else 0
    rw [← outstanding]
    omega

theorem Steady.push_returns {running : Nat} (steady : c.Steady running) (message : α) :
    ∃ outcome c', c.push message = .ok (outcome, c') := by
  unfold push
  split
  · rename_i listener idle listening
    have none : c.queue = [] := steady.empty idle (by simp [listening])
    exact ⟨.invokes listener, c, by simp [none, dartAssert]⟩
  · split
    · exact ⟨_, _, rfl⟩
    · rename_i positive
      have nonneg : 0 ≤ c.capacity - 1 := by omega
      obtain ⟨dropped, kept, returned⟩ := dropOverflow_returns c.queue nonneg
      exact ⟨.returns dropped !dropped.isEmpty, { c with queue := kept ++ [message] },
        by simp [dropOverflowMessages, returned]⟩

theorem Steady.drainStep_returns {running : Nat} (steady : c.Steady running) (scheduled : 0 < c.scheduled) :
    ∃ result c', { c with scheduled := c.scheduled - 1 }.drainStep = .ok (result, c') := by
  have draining : c.draining = true := by
    have outstanding := steady.outstanding
    cases draining : c.draining with
    | true => rfl
    | false =>
      rw [draining, if_neg Bool.false_ne_true] at outstanding
      omega
  simp only [drainStep, draining, dartAssert, if_true, ok_bind]
  split
  · exact ⟨_, _, rfl⟩
  · exact ⟨_, _, rfl⟩

theorem Move.sublist {running running' : Nat} {pushed handed discarded before given : List α}
    (move : Move c running pushed handed discarded c' running')
    (ordered : (given ++ c.queue).Sublist before) :
    (given ++ handed ++ c'.queue).Sublist (before ++ pushed) := by
  cases move with
  | handedOver _ _ none =>
    rw [none, List.append_nil] at ordered ⊢
    exact ordered.append (List.Sublist.refl _)
  | forgotten =>
    rw [List.append_nil]
    exact ordered.trans (List.sublist_append_left _ _)
  | stored _ _ split _ =>
    -- the oldest messages are dropped and the new one is last
    rw [List.append_nil, ← List.append_assoc]
    refine List.Sublist.append (List.Sublist.trans ?_ ordered) (List.Sublist.refl _)
    rw [split]
    exact (List.sublist_append_right _ _).append_left _
  | resized split _ =>
    rw [List.append_nil, List.append_nil]
    refine List.Sublist.trans ?_ ordered
    rw [split]
    exact (List.sublist_append_right _ _).append_left _
  | drained _ _ split _ =>
    rw [split] at ordered
    rw [List.append_nil, List.append_assoc]
    exact ordered
  | _ => simpa using ordered

/-- What was queued and what is pushed is queued, handed over or discarded, except for a message
    that is forgotten. -/
theorem Move.conserves {running running' : Nat} {pushed handed discarded : List α}
    (move : Move c running pushed handed discarded c' running') :
    ∃ lost : Multiset α,
      (c.queue + pushed : Multiset α) = (c'.queue + handed + discarded : Multiset α) + lost ∧
      (lost = 0 ↔ ¬ (pushed ≠ [] ∧ c.Forgets)) := by
  cases move with
  | handedOver idle listening _ =>
    refine ⟨0, by simp, iff_of_true rfl ?_⟩
    -- a channel that listens and is not draining does not hold on to the message
    intro ⟨_, buffers, _⟩
    simp [Buffers, idle, listening] at buffers
  | @forgotten _ message forgets =>
    exact ⟨{message}, by simp, iff_of_false (Multiset.singleton_ne_zero message) (by simp [forgets])⟩
  | stored _ positive split _ =>
    refine ⟨0, ?_, iff_of_true rfl fun ⟨_, forgets⟩ => absurd forgets.2 (not_le.mpr positive)⟩
    simp only [split, ← Multiset.coe_add, Multiset.coe_nil, add_zero]
    abel
  | resized split _ =>
    refine ⟨0, ?_, by simp⟩
    simp only [split, ← Multiset.coe_add, Multiset.coe_nil, add_zero]
    abel
  | drained _ _ split _ =>
    refine ⟨0, ?_, by simp⟩
    rw [split, ← List.singleton_append]
    simp only [← Multiset.coe_add, Multiset.coe_nil, add_zero]
    abel
  | _ => exact ⟨0, by simp, by simp⟩

/-! ## The calls as moves -/

theorem dropOverflowMessages_inv {lengthLimit : Int} {dropped : List α} {result : Bool}
    (h : c.dropOverflowMessages lengthLimit = .ok (dropped, result, c')) :
    ∃ kept, c.queue = dropped ++ kept ∧ (kept.length : Int) ≤ lengthLimit ∧ c' = { c with queue := kept } := by
  obtain ⟨⟨dropped', kept⟩, droppedQueue, h⟩ := bind_eq_ok.mp h
  cases h
  obtain ⟨split, short⟩ := dropOverflow_inv droppedQueue
  exact ⟨kept, split, short, rfl⟩

def PushOutcome.moved (message : α) : PushOutcome α → List α × List α
  | .invokes _ => ([message], [])
  | .returns discarded _ => ([], discarded)

theorem push_move (running : Nat) {message : α} {outcome : PushOutcome α}
    (h : c.push message = .ok (outcome, c')) :
    Move c running [message] (outcome.moved message).1 (outcome.moved message).2 c' running := by
  unfold push at h
  split at h
  · rename_i idle listening
    obtain ⟨_, empty, h⟩ := bind_eq_ok.mp h
    cases h
    exact .handedOver idle listening (List.isEmpty_iff.mp (dartAssert_eq_ok.mp empty))
  · rename_i notListening
    have buffers : c.Buffers := by
      unfold Buffers
      cases draining : c.draining with
      | true => exact .inl rfl
      | false =>
        cases listening : c.channelCallbackRecord with
        | none => exact .inr rfl
        | some listener => exact absurd listening (notListening listener draining)
    split at h
    · rename_i small
      cases h
      exact .forgotten ⟨buffers, small⟩
    · rename_i positive
      obtain ⟨⟨dropped, result, c₁⟩, droppedMessages, h⟩ := bind_eq_ok.mp h
      cases h
      obtain ⟨kept, split, short, rfl⟩ := dropOverflowMessages_inv droppedMessages
      exact .stored buffers (not_le.mp positive) split short

theorem setListener_move (running : Nat) {callback : ListenerId}
    (h : c.setListener callback = .ok c') : Move c running [] [] [] c' running := by
  unfold setListener at h
  simp only at h
  split at h
  · rename_i needs
    obtain ⟨_, _, h⟩ := bind_eq_ok.mp h
    cases h
    simp only [Bool.and_eq_true, Bool.not_eq_true'] at needs
    exact .drains needs.2
  · rename_i needs
    cases h
    refine .replaced ?_
    cases draining : c.draining with
    | true => exact .inl rfl
    | false =>
      refine .inr fun silent => needs ?_
      simp [silent, draining]

theorem setCapacity_move (running : Nat) {newSize : Int} {dropped : List α}
    (h : c.setCapacity newSize = .ok (dropped, c')) : Move c running [] [] dropped c' running := by
  obtain ⟨⟨dropped', result, c₁⟩, droppedMessages, h⟩ := bind_eq_ok.mp h
  cases h
  obtain ⟨kept, split, short, rfl⟩ := dropOverflowMessages_inv droppedMessages
  exact .resized split short

/-- The message that a `_drainStep` hands over. -/
def invoked (result : Option (ListenerId × α)) : List α := (result.map Prod.snd).toList

theorem drainStep_move (running : Nat) {result : Option (ListenerId × α)} (scheduled : 0 < c.scheduled)
    (h : { c with scheduled := c.scheduled - 1 }.drainStep = .ok (result, c')) :
    Move c running [] (invoked result) [] c' (running + (invoked result).length) := by
  obtain ⟨_, draining, h⟩ := bind_eq_ok.mp h
  have draining : c.draining = true := dartAssert_eq_ok.mp draining
  split at h
  · rename_i message rest listener queued listening
    cases h
    exact .drained draining scheduled queued listening
  · rename_i queue record notBoth
    cases h
    refine .drainEnds draining scheduled ?_
    cases queued : c.queue with
    | nil => exact .inl rfl
    | cons message rest =>
      cases listening : c.channelCallbackRecord with
      | none => exact .inr rfl
      | some listener => exact (notBoth message rest listener queued listening).elim

end Channel

namespace ChannelBuffers

variable {s s' : ChannelBuffers α} {name : String} {log : List (Op α × List (Event α))}

/-! ## Steps as moves -/

def Op.pushedOn (name : String) : Op α → List α
  | .push name' message => if name' = name then [message] else []
  | _ => []

def handedOn (name : String) (events : List (Event α)) : List α :=
  events.filterMap fun
    | .handed name' _ message => if name' = name then some message else none
    | _ => none

def discardedOn (name : String) (events : List (Event α)) : List α :=
  events.filterMap fun
    | .repliedNull name' message => if name' = name then some message else none
    | _ => none

/-- The `_drainStep` calls of a channel that are on the stack. -/
def running (s : ChannelBuffers α) (name : String) : Nat := s.stack.count (.drainStep name)

def Op.Sized : Op α → Prop
  | .resize _ newSize => 0 ≤ newSize
  | _ => True

instance : (op : Op α) → Decidable op.Sized
  | .resize _ newSize => inferInstanceAs (Decidable (0 ≤ newSize))
  | .push .. | .setListener .. | .clearListener .. | .allowOverflow .. | .runMicrotask ..
  | .listenerReturns => .isTrue trivial

theorem putIfAbsent_setChannel (s : ChannelBuffers α) (name name' : String) (channel : Channel α) :
    (s.setChannel name channel).putIfAbsent name' =
      if name = name' then channel else s.putIfAbsent name' := by
  by_cases eq : name = name'
  · subst eq
    simp [putIfAbsent, setChannel]
  · simp [putIfAbsent, setChannel, Std.TreeMap.getD_insert, eq]

theorem putIfAbsent_of_found {channel : Channel α} (found : s.channels[name]? = some channel) :
    s.putIfAbsent name = channel := by
  simp [putIfAbsent, Std.TreeMap.getD_eq_getD_getElem?, found]

theorem putIfAbsent_of_absent (absent : s.channels[name]? = none) :
    s.putIfAbsent name = .create kDefaultBufferSize := by
  simp [putIfAbsent, Std.TreeMap.getD_eq_getD_getElem?, absent]

/-- A step as seen from the channel `name`. -/
def MovesOn (s : ChannelBuffers α) (op : Op α) (events : List (Event α)) (s' : ChannelBuffers α)
    (name : String) : Prop :=
  Channel.Move (s.putIfAbsent name) (s.running name) (op.pushedOn name) (handedOn name events)
    (discardedOn name events) (s'.putIfAbsent name) (s'.running name)

theorem movesOn_of_setChannel (name : String) (channel : Channel α) {op : Op α}
    {events : List (Event α)}
    (own : Channel.Move (s.putIfAbsent name) (s.running name) (op.pushedOn name)
      (handedOn name events) (discardedOn name events) channel (s'.running name))
    (channels : s'.channels = (s.setChannel name channel).channels)
    (others : ∀ name', name ≠ name' → op.pushedOn name' = [] ∧ handedOn name' events = [] ∧
      discardedOn name' events = [] ∧ s'.running name' = s.running name') (name' : String) :
    s.MovesOn op events s' name' := by
  have updated : s'.putIfAbsent name' = if name = name' then channel else s.putIfAbsent name' := by
    rw [← putIfAbsent_setChannel, putIfAbsent, channels, putIfAbsent]
  unfold MovesOn
  rw [updated]
  by_cases eq : name = name'
  · subst eq
    rw [if_pos rfl]
    exact own
  · obtain ⟨pushed, handed, discarded, running⟩ := others name' eq
    rw [if_neg eq, pushed, handed, discarded, running]
    exact .same

theorem handedOn_repliedNull (name name' : String) (messages : List α) :
    handedOn name (messages.map (.repliedNull name')) = [] := by
  simp [handedOn]

theorem discardedOn_repliedNull (name name' : String) (messages : List α) :
    discardedOn name (messages.map (.repliedNull name')) = if name' = name then messages else [] := by
  by_cases eq : name' = name
  · simp [discardedOn, eq, List.filterMap_map]
  · simp [discardedOn, eq]

theorem handedOn_append_warning (name name' : String) (events : List (Event α)) (result : Bool)
    (capacity : Int) :
    handedOn name (events ++ if result then [.discardWarning name' capacity] else []) =
      handedOn name events := by
  cases result <;> simp [handedOn]

theorem discardedOn_append_warning (name name' : String) (events : List (Event α)) (result : Bool)
    (capacity : Int) :
    discardedOn name (events ++ if result then [.discardWarning name' capacity] else []) =
      discardedOn name events := by
  cases result <;> simp [discardedOn]

theorem push_movesOn {message : α} {events : List (Event α)}
    (h : s.push name message = .ok (events, s')) (name' : String) :
    s.MovesOn (.push name message) events s' name' := by
  obtain ⟨_, _, h⟩ := bind_eq_ok.mp h
  obtain ⟨⟨outcome, channel⟩, pushed, h⟩ := bind_eq_ok.mp h
  have move := Channel.push_move (s.running name) pushed
  cases outcome with
  | invokes listener =>
    cases h
    refine movesOn_of_setChannel name channel ?_ rfl (fun other ne => ?_) name'
    · simpa [Op.pushedOn, handedOn, discardedOn, running, setChannel, Channel.PushOutcome.moved] using move
    · simp [Op.pushedOn, handedOn, discardedOn, running, setChannel, ne]
  | returns discarded result =>
    cases h
    refine movesOn_of_setChannel name channel ?_ rfl (fun other ne => ?_) name'
    · rw [handedOn_append_warning, discardedOn_append_warning, handedOn_repliedNull,
        discardedOn_repliedNull, if_pos rfl, Op.pushedOn, if_pos rfl]
      exact move
    · rw [handedOn_append_warning, discardedOn_append_warning, handedOn_repliedNull,
        discardedOn_repliedNull, if_neg ne, Op.pushedOn, if_neg ne]
      exact ⟨rfl, rfl, rfl, rfl⟩

theorem setListener_movesOn {callback : ListenerId} {events : List (Event α)}
    (h : s.setListener name callback = .ok (events, s')) (name' : String) :
    s.MovesOn (.setListener name callback) events s' name' := by
  obtain ⟨_, _, h⟩ := bind_eq_ok.mp h
  obtain ⟨channel, set, h⟩ := bind_eq_ok.mp h
  cases h
  exact movesOn_of_setChannel name channel (Channel.setListener_move _ set) rfl
    (fun _ _ => ⟨rfl, rfl, rfl, rfl⟩) name'

theorem clearListener_movesOn (s : ChannelBuffers α) (name name' : String) :
    s.MovesOn (.clearListener name) (s.clearListener name).1 (s.clearListener name).2 name' := by
  cases found : s.channels[name]? with
  | none =>
    simp only [clearListener, found]
    exact .same
  | some channel =>
    simp only [clearListener, found]
    refine movesOn_of_setChannel name channel.clearListener ?_ rfl (fun _ _ => ⟨rfl, rfl, rfl, rfl⟩) name'
    rw [putIfAbsent_of_found found]
    exact .cleared

theorem resize_movesOn {newSize : Int} {events : List (Event α)} (nonneg : 0 ≤ newSize)
    (h : s.resize name newSize = .ok (events, s')) (name' : String) :
    s.MovesOn (.resize name newSize) events s' name' := by
  unfold resize at h
  split at h
  · rename_i absent
    obtain ⟨_, _, h⟩ := bind_eq_ok.mp h
    cases h
    refine movesOn_of_setChannel name (.create newSize) ?_ rfl (fun _ _ => ⟨rfl, rfl, rfl, rfl⟩) name'
    -- a new channel is one of the default size that is resized while it is empty
    rw [putIfAbsent_of_absent absent]
    exact @Channel.Move.resized α _ _ newSize [] [] rfl nonneg
  · rename_i channel found
    obtain ⟨⟨dropped, channel'⟩, resized, h⟩ := bind_eq_ok.mp h
    cases h
    refine movesOn_of_setChannel name channel' ?_ rfl (fun other ne => ?_) name'
    · rw [handedOn_repliedNull, discardedOn_repliedNull, if_pos rfl, putIfAbsent_of_found found]
      exact Channel.setCapacity_move _ resized
    · rw [handedOn_repliedNull, discardedOn_repliedNull, if_neg ne]
      exact ⟨rfl, rfl, rfl, rfl⟩

theorem allowOverflow_movesOn {allowed : Bool} {events : List (Event α)}
    (h : s.allowOverflow name allowed = .ok (events, s')) (name' : String) :
    s.MovesOn (.allowOverflow name allowed) events s' name' := by
  unfold allowOverflow at h
  split at h
  · rename_i channel found
    cases h
    refine movesOn_of_setChannel name _ ?_ rfl (fun _ _ => ⟨rfl, rfl, rfl, rfl⟩) name'
    rw [putIfAbsent_of_found found]
    exact .warns
  · rename_i absent
    split at h
    · obtain ⟨_, _, h⟩ := bind_eq_ok.mp h
      cases h
      refine movesOn_of_setChannel name _ ?_ rfl (fun _ _ => ⟨rfl, rfl, rfl, rfl⟩) name'
      rw [putIfAbsent_of_absent absent]
      exact .warns
    · cases h
      exact .same

theorem runMicrotask_movesOn {events : List (Event α)} (h : s.runMicrotask name = .ok (events, s'))
    (name' : String) : s.MovesOn (.runMicrotask name) events s' name' := by
  unfold runMicrotask at h
  split at h
  · rename_i channel idle found
    split at h
    · cases h
    · rename_i scheduled
      obtain ⟨⟨result, channel'⟩, drained, h⟩ := bind_eq_ok.mp h
      have move := Channel.drainStep_move (s.running name) (Nat.pos_of_ne_zero scheduled) drained
      rw [← putIfAbsent_of_found found] at move
      cases result with
      | none =>
        cases h
        exact movesOn_of_setChannel name channel' move rfl (fun _ _ => ⟨rfl, rfl, rfl, rfl⟩) name'
      | some invocation =>
        obtain ⟨listener, message⟩ := invocation
        cases h
        refine movesOn_of_setChannel name channel' ?_ (by rfl) (fun other ne => ?_) name'
        · simpa [Op.pushedOn, handedOn, discardedOn, running, setChannel, Channel.invoked] using move
        · simp [Op.pushedOn, handedOn, discardedOn, running, setChannel, ne]
  · cases h

theorem listenerReturns_movesOn {events : List (Event α)} (h : s.listenerReturns = .ok (events, s'))
    (name' : String) : s.MovesOn .listenerReturns events s' name' := by
  unfold listenerReturns at h
  split at h
  · cases h
  · rename_i name stack shape
    cases h
    have running : s.running name' = stack.count (.drainStep name') := by
      simp [ChannelBuffers.running, shape]
    unfold MovesOn
    rw [running]
    exact .same
  · rename_i name stack shape
    split at h
    · rename_i channel found
      cases h
      refine movesOn_of_setChannel name { channel with scheduled := channel.scheduled + 1 } ?_
        (by rfl) (fun other ne => ?_) name'
      · have running : s.running name = stack.count (.drainStep name) + 1 := by
          simp [ChannelBuffers.running, shape]
        rw [putIfAbsent_of_found found, running]
        exact .reschedules
      · refine ⟨rfl, rfl, rfl, ?_⟩
        simp [ChannelBuffers.running, shape, ne]
    · cases h

theorem step_movesOn {op : Op α} {events : List (Event α)} (sized : op.Sized)
    (h : s.step op = .ok (events, s')) (name : String) : s.MovesOn op events s' name := by
  cases op with
  | push name' message => exact push_movesOn h name
  | setListener name' callback => exact setListener_movesOn h name
  | clearListener name' =>
    have moves := clearListener_movesOn s name' name
    rw [Except.ok.inj h] at moves
    exact moves
  | resize name' newSize => exact resize_movesOn sized h name
  | allowOverflow name' allowed => exact allowOverflow_movesOn h name
  | runMicrotask name' => exact runMicrotask_movesOn h name
  | listenerReturns => exact listenerReturns_movesOn h name

/-! ## Runs -/

def pushedBy (name : String) (log : List (Op α × List (Event α))) : List α :=
  log.flatMap fun entry => entry.1.pushedOn name

def handedBy (name : String) (log : List (Op α × List (Event α))) : List α :=
  log.flatMap fun entry => handedOn name entry.2

def discardedBy (name : String) (log : List (Op α × List (Event α))) : List α :=
  log.flatMap fun entry => discardedOn name entry.2

@[simp] theorem pushedBy_append_singleton (name : String) (entry : Op α × List (Event α)) :
    pushedBy name (log ++ [entry]) = pushedBy name log ++ entry.1.pushedOn name := by
  simp [pushedBy]

@[simp] theorem handedBy_append_singleton (name : String) (entry : Op α × List (Event α)) :
    handedBy name (log ++ [entry]) = handedBy name log ++ handedOn name entry.2 := by
  simp [handedBy]

@[simp] theorem discardedBy_append_singleton (name : String) (entry : Op α × List (Event α)) :
    discardedBy name (log ++ [entry]) = discardedBy name log ++ discardedOn name entry.2 := by
  simp [discardedBy]

theorem steady_initial (name : String) :
    ((create : ChannelBuffers α).putIfAbsent name).Steady ((create : ChannelBuffers α).running name) :=
  Channel.steady_create (by decide)

theorem runs_steady (runs : Runs step (fun _ op => op.Sized) create log s) (name : String) :
    (s.putIfAbsent name).Steady (s.running name) :=
  runs.preserves (steady_initial name) fun _ _ _ _ steady sized stepped =>
    (step_movesOn sized stepped name).steady steady

theorem runs_sublist (runs : Runs step (fun _ op => op.Sized) create log s) (name : String) :
    (handedBy name log ++ (s.putIfAbsent name).queue).Sublist (pushedBy name log) := by
  induction runs with
  | start => exact List.Sublist.refl []
  | next _ sized stepped ih =>
    rw [handedBy_append_singleton, pushedBy_append_singleton]
    exact (step_movesOn sized stepped name).sublist ih

/-! ## The account of a run -/

def kept (s : ChannelBuffers α) (log : List (Op α × List (Event α))) (name : String) : List α :=
  (s.putIfAbsent name).queue ++ handedBy name log ++ discardedBy name log

/-- Every message that was pushed is queued, was handed to a listener or was discarded with a
    reply, and only one of these, once. -/
def Accounted (s : ChannelBuffers α) (log : List (Op α × List (Event α))) : Prop :=
  ∀ name, (pushedBy name log).Perm (s.kept log name)

/-- The call pushes a message that its channel neither hands over nor stores. -/
def Loses (s : ChannelBuffers α) : Op α → Prop
  | .push name _ => (s.putIfAbsent name).Forgets
  | _ => False

instance (s : ChannelBuffers α) : (op : Op α) → Decidable (s.Loses op)
  | .push name _ => inferInstanceAs (Decidable (s.putIfAbsent name).Forgets)
  | .setListener .. | .clearListener .. | .resize .. | .allowOverflow .. | .runMicrotask ..
  | .listenerReturns => .isFalse id

theorem loses_iff {op : Op α} : s.Loses op ↔ ∃ name, op.pushedOn name ≠ [] ∧ (s.putIfAbsent name).Forgets := by
  cases op with
  | push name message => simp [Loses, Op.pushedOn]
  | _ => simp [Loses, Op.pushedOn]

theorem MovesOn.account {op : Op α} {events : List (Event α)} (moves : s.MovesOn op events s' name)
    (log : List (Op α × List (Event α))) :
    ∃ lost : Multiset α,
      (s.kept log name + op.pushedOn name : Multiset α) =
        (s'.kept (log ++ [(op, events)]) name : Multiset α) + lost ∧
      (lost = 0 ↔ ¬ (op.pushedOn name ≠ [] ∧ (s.putIfAbsent name).Forgets)) := by
  obtain ⟨lost, conserved, lostNone⟩ := Channel.Move.conserves moves
  refine ⟨lost, ?_, lostNone⟩
  simp only [kept, handedBy_append_singleton, discardedBy_append_singleton, ← Multiset.coe_add]
  calc (↑(s.putIfAbsent name).queue + ↑(handedBy name log) + ↑(discardedBy name log) +
        ↑(op.pushedOn name) : Multiset α)
      = (↑(s.putIfAbsent name).queue + ↑(op.pushedOn name)) +
          (↑(handedBy name log) + ↑(discardedBy name log)) := by abel
    _ = _ := by rw [conserved]; abel

theorem runs_kept_le (runs : Runs step (fun _ op => op.Sized) create log s) (name : String) :
    (s.kept log name : Multiset α) ≤ pushedBy name log := by
  induction runs with
  | start => exact le_refl _
  | @next log s s' op events _ sized stepped ih =>
    obtain ⟨lost, conserved, -⟩ := (step_movesOn sized stepped name).account log
    rw [pushedBy_append_singleton, ← Multiset.coe_add]
    calc (s'.kept (log ++ [(op, events)]) name : Multiset α)
        ≤ s'.kept (log ++ [(op, events)]) name + lost := le_add_of_nonneg_right (Multiset.zero_le _)
      _ = s.kept log name + op.pushedOn name := conserved.symm
      _ ≤ pushedBy name log + op.pushedOn name := by gcongr

theorem accounted_next {op : Op α} {events : List (Event α)}
    (runs : Runs step (fun _ op => op.Sized) create log s) (sized : op.Sized)
    (stepped : s.step op = .ok (events, s')) :
    s'.Accounted (log ++ [(op, events)]) ↔ s.Accounted log ∧ ¬ s.Loses op := by
  simp only [Accounted, loses_iff, not_exists, ← forall_and]
  refine forall_congr' fun name => ?_
  -- channel by channel: what is kept and lost now is what was kept and is pushed
  obtain ⟨lost, conserved, lostNone⟩ := (step_movesOn sized stepped name).account log
  have missing := runs_kept_le runs name
  rw [← lostNone, pushedBy_append_singleton, ← Multiset.coe_eq_coe, ← Multiset.coe_eq_coe,
    ← Multiset.coe_add]
  constructor
  · intro complete
    -- what is kept now, with what is lost, is at most what is kept now
    have within : (s'.kept (log ++ [(op, events)]) name : Multiset α) + lost ≤
        s'.kept (log ++ [(op, events)]) name := by
      rw [← conserved, ← complete]
      gcongr
    have lostZero : lost = 0 := Multiset.le_zero.mp (le_of_add_le_add_left (by rwa [add_zero]))
    rw [lostZero, add_zero, ← complete] at conserved
    exact ⟨(add_right_cancel conserved).symm, lostZero⟩
  · intro ⟨complete, lostZero⟩
    rw [complete, conserved, lostZero, add_zero]

theorem runs_accounted (runs : Runs step (fun s op => op.Sized ∧ ¬ s.Loses op) create log s) :
    s.Accounted log := by
  induction runs with
  | start => exact fun _ => List.Perm.refl []
  | next before met stepped ih =>
    have sizedBefore : Runs step (fun _ op => op.Sized) create _ _ := before.mono fun _ _ met => met.1
    exact (accounted_next sizedBefore met.1 stepped).mpr ⟨ih, met.2⟩

theorem neverLoses_of_accounted (runs : Runs step (fun _ op => op.Sized) create log s)
    (accounted : s.Accounted log) : Runs step (fun s op => op.Sized ∧ ¬ s.Loses op) create log s := by
  induction runs with
  | start => exact .start
  | next before sized stepped ih =>
    obtain ⟨accountedBefore, notLost⟩ := (accounted_next before sized stepped).mp accounted
    exact .next (ih accountedBefore) ⟨sized, notLost⟩ stepped

/-- The queue of a channel never exceeds its capacity, and no message is lost without a reply
    exactly when every push found its channel with room for a message or ready to hand it over. -/
theorem accounted_iff_never_loses (runs : Runs step (fun _ op => op.Sized) create log s) :
    (∀ name, ((s.putIfAbsent name).queue.length : Int) ≤ (s.putIfAbsent name).capacity) ∧
    (s.Accounted log ↔ Runs step (fun s op => op.Sized ∧ ¬ s.Loses op) create log s) :=
  ⟨fun name => (runs_steady runs name).bounded, neverLoses_of_accounted runs, runs_accounted⟩

/-- Messages arrive before the listener is set and while it is being served, one too many of them
    and one after the queue has run dry. -/
def overlappingDrain : List (Op Nat) :=
  [.push "a" 10, .push "a" 20, .setListener "a" 7, .runMicrotask "a", .push "a" 30, .listenerReturns,
    .runMicrotask "a", .listenerReturns, .runMicrotask "a", .push "a" 40]

/-- `step` where sizes are not negative and no message is lost. -/
def checkedStep (s : ChannelBuffers α) (op : Op α) :
    Except DartFault (List (Event α) × ChannelBuffers α) :=
  guarded step .notEnabled (fun s op => decide (op.Sized ∧ ¬ s.Loses op)) s op

theorem accounted_iff_never_loses_overlappingDrain :
    ∃ log s, run checkedStep create overlappingDrain = .ok (log, s) ∧ s.Accounted log ∧
      discardedBy "a" log = [10] ∧ handedBy "a" log = [20, 30, 40] := by
  have returned : (run checkedStep create overlappingDrain).isOk = true := by decide +kernel
  obtain ⟨⟨log, s⟩, ran⟩ := exists_ok_of_isOk returned
  have events : (run checkedStep create overlappingDrain).map
      (fun r => (discardedBy "a" r.1, handedBy "a" r.1)) = .ok ([10], [20, 30, 40]) := by
    decide +kernel
  rw [ran] at events
  simp only [Except.map, Except.ok.injEq, Prod.mk.injEq] at events
  have runs := runs_of_run_guarded (fun _ _ => of_decide_eq_true) ran
  have accounted := (accounted_iff_never_loses (runs.mono fun _ _ met => met.1)).2.mpr runs
  exact ⟨log, s, ran, accounted, events⟩

/-- The message is in no queue, no listener has got it and nobody has replied to it. -/
theorem push_loses_message :
    ∃ log s, Runs step (fun _ op => op.Sized) (create : ChannelBuffers Nat) log s ∧
      pushedBy "a" log = [10] ∧ s.kept log "a" = [] ∧ ¬ s.Accounted log := by
  have returned : (run step create [.resize "a" 0, .push "a" 10]).isOk = true := by decide +kernel
  obtain ⟨⟨log, s⟩, ran⟩ := exists_ok_of_isOk returned
  have account : (run step create [.resize "a" 0, .push "a" 10]).map
      (fun r => (pushedBy "a" r.1, r.2.kept r.1 "a")) = .ok ([10], []) := by decide +kernel
  rw [ran] at account
  simp only [Except.map, Except.ok.injEq, Prod.mk.injEq] at account
  obtain ⟨pushed, kept⟩ := account
  refine ⟨log, s, runs_of_run (by simp [Op.Sized]) ran, pushed, kept, fun accounted => ?_⟩
  have complete := (accounted "a").length_eq
  rw [pushed, kept] at complete
  cases complete

/-! ## The order of delivery -/

/-- A channel that listens and is not draining has nothing queued, so that the assertion of `push`
    holds; a `_drainStep` is queued or running exactly while the channel is draining, and its
    assertion holds; and messages are handed over in the order in which they were pushed. -/
theorem delivered_in_order (runs : Runs step (fun _ op => op.Sized) create log s) (name : String) :
    ((s.putIfAbsent name).channelCallbackRecord ≠ none → (s.putIfAbsent name).draining = false →
      (s.putIfAbsent name).queue = []) ∧
    (∀ message, ∃ outcome channel, (s.putIfAbsent name).push message = .ok (outcome, channel)) ∧
    (s.putIfAbsent name).scheduled + s.running name = (if (s.putIfAbsent name).draining then 1 else 0) ∧
    (0 < (s.putIfAbsent name).scheduled → ∃ result channel,
      { s.putIfAbsent name with scheduled := (s.putIfAbsent name).scheduled - 1 }.drainStep =
        .ok (result, channel)) ∧
    (handedBy name log).Sublist (pushedBy name log) := by
  have steady := runs_steady runs name
  have ordered := runs_sublist runs name
  exact ⟨fun listening idle => steady.empty idle listening, steady.push_returns, steady.outstanding,
    steady.drainStep_returns, (List.sublist_append_left _ _).trans ordered⟩

theorem delivered_in_order_overlappingDrain :
    ∃ log s, run step create overlappingDrain = .ok (log, s) ∧
      handedBy "a" log = [20, 30, 40] ∧ (handedBy "a" log).Sublist (pushedBy "a" log) := by
  have returned : (run step create overlappingDrain).isOk = true := by decide +kernel
  obtain ⟨⟨log, s⟩, ran⟩ := exists_ok_of_isOk returned
  have handed : (run step create overlappingDrain).map (fun r => handedBy "a" r.1) =
      .ok [20, 30, 40] := by decide +kernel
  rw [ran] at handed
  simp only [Except.map, Except.ok.injEq] at handed
  have runs : Runs step (fun _ op => op.Sized) create log s :=
    runs_of_run (by simp [overlappingDrain, Op.Sized]) ran
  exact ⟨log, s, ran, handed, (delivered_in_order runs "a").2.2.2.2⟩

end ChannelBuffers

end FlutterZero.Ui
