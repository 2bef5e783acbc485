import FlutterZero.Platform.Android.DartMessenger

/-! # The order of the messages of a channel

Messages are buffered in the order in which they arrive, and handed out in this order; but
they are handed out after the lock has been released, when a message that arrives finds the
handler and is dispatched at once.  It then overtakes those that are still being handed out.

The messages of a channel keep their order in a task queue as long as no call overtakes another
that left its critical section earlier.  What carries the proof is that the messages that have
reached the queue, those that the calls still have to dispatch to it, in the order in which the
calls left their critical sections, and those in the buffer are, one after another, in the order
of their arrival.
-/

namespace FlutterZero.Platform.Android

open FlutterZero.Lib

namespace Call

variable {α : Type} (channel : String) (taskQueue : DartMessengerTaskQueue)

def pending : Call α → List (Incoming α)
  | .handling handlerInfo incoming =>
    if incoming.1 = channel ∧ nonnullTaskQueue handlerInfo = taskQueue then [incoming] else []
  | .settingHandler name list => if name = channel then list.map fun info => (channel, info) else []
  | .disabling pendingMessages =>
    if taskQueue = .platformTaskQueue then pendingMessages.filter fun incoming => incoming.1 = channel else []

/-- Whether the next step of a call dispatches a message of the channel to the task queue of its handler. -/
def dispatches : Call α → Bool
  | .handling handlerInfo incoming => incoming.1 = channel ∧ nonnullTaskQueue handlerInfo = taskQueue
  | .settingHandler name list => name = channel ∧ list ≠ []
  | .disabling [] => false
  | .disabling (incoming :: _) => incoming.1 = channel ∧ taskQueue = .platformTaskQueue

def handles : Call α → Bool
  | .handling _ incoming => incoming.1 = channel
  | _ => false

def sets : Call α → Bool
  | .settingHandler _ _ => true
  | _ => false

end Call

namespace DartMessenger

variable {α : Type}

def waiting (s : DartMessenger α) (channel : String) : List (Incoming α) :=
  ((s.bufferedMessages.lookup channel).getD []).map fun info => (channel, info)

def arrived (s : DartMessenger α) (channel : String) : List (Incoming α) :=
  s.received.filter fun incoming => incoming.1 = channel

def reached (s : DartMessenger α) (channel : String) (taskQueue : DartMessengerTaskQueue) : List (Incoming α) :=
  (s.dispatched.filter fun dispatch => dispatch.taskQueue = taskQueue ∧ dispatch.incoming.1 = channel).map
    Dispatch.incoming

/-- Dart sends the messages of the channel one after another, handlers are set on one thread, and one
    handler is installed for the channel, once, with the given task queue. -/
def OneHandler (channel : String) (taskQueue : DartMessengerTaskQueue) (s : DartMessenger α) : Op α → Prop
  | .handleMessageFromDart name _ _ _ => name = channel → ∀ call ∈ s.calls, call.handles channel = false
  | .setMessageHandler name handler token =>
    (∀ call ∈ s.calls, call.sets = false) ∧
      (name = channel → s.messageHandlers.lookup channel = none ∧ handler ≠ none ∧
        ∀ queue ∈ (s.findTaskQueue token).toOption, queue.getD .platformTaskQueue = taskQueue)
  | _ => True

/-- A call that dispatches a message of the channel to the task queue finds that no call which left its
    critical section earlier still has to do so. -/
def NotOvertaking (channel : String) (taskQueue : DartMessengerTaskQueue) (s : DartMessenger α) : Op α → Prop
  | .advance i => ∀ call ∈ s.calls[i]?, call.dispatches channel taskQueue = true →
      ∀ earlier ∈ s.calls.take i, earlier.pending channel taskQueue = []
  | _ => True

instance (channel : String) (taskQueue : DartMessengerTaskQueue) (s : DartMessenger α) (op : Op α) :
    Decidable (OneHandler channel taskQueue s op) :=
  match op with
  | .handleMessageFromDart name _ _ _ =>
    inferInstanceAs (Decidable (name = channel → ∀ call ∈ s.calls, call.handles channel = false))
  | .setMessageHandler name handler token =>
    inferInstanceAs (Decidable ((∀ call ∈ s.calls, call.sets = false) ∧
      (name = channel → s.messageHandlers.lookup channel = none ∧ handler ≠ none ∧
        ∀ queue ∈ (s.findTaskQueue token).toOption, queue.getD .platformTaskQueue = taskQueue)))
  | .makeBackgroundTaskQueue => isTrue trivial
  | .enableBufferingIncomingMessages => isTrue trivial
  | .disableBufferingIncomingMessages _ => isTrue trivial
  | .advance _ => isTrue trivial

instance [DecidableEq α] (channel : String) (taskQueue : DartMessengerTaskQueue) (s : DartMessenger α) (op : Op α) :
    Decidable (NotOvertaking channel taskQueue s op) :=
  match op with
  | .advance i =>
    inferInstanceAs (Decidable (∀ call ∈ s.calls[i]?, call.dispatches channel taskQueue = true →
      ∀ earlier ∈ s.calls.take i, earlier.pending channel taskQueue = []))
  | .handleMessageFromDart _ _ _ _ => isTrue trivial
  | .setMessageHandler _ _ _ => isTrue trivial
  | .makeBackgroundTaskQueue => isTrue trivial
  | .enableBufferingIncomingMessages => isTrue trivial
  | .disableBufferingIncomingMessages _ => isTrue trivial

/-! ## The invariant -/

structure Ordered (channel : String) (taskQueue : DartMessengerTaskQueue) (s : DartMessenger α) : Prop where
  order : List.Sublist (s.reached channel taskQueue ++ s.calls.flatMap (Call.pending channel taskQueue) ++
    s.waiting channel) (s.arrived channel)
  installed : ∀ info, s.messageHandlers.lookup channel = some info →
    nonnullTaskQueue (some info) = taskQueue ∧ s.waiting channel = []
  setting : ∀ list, Call.settingHandler channel list ∈ s.calls → s.messageHandlers.lookup channel ≠ none
  off : s.enableBufferingIncomingMessages = false → s.waiting channel = []

variable {channel : String} {taskQueue : DartMessengerTaskQueue}

theorem filter_flatten {entries : List (Σ _ : String, List (BufferedMessageInfo α))} (distinct : entries.NodupKeys) :
    (flatten entries).filter (fun incoming => incoming.1 = channel) =
      ((entries.dlookup channel).getD []).map fun info => (channel, info) := by
  induction entries with
  | nil => rfl
  | cons entry entries ih =>
    obtain ⟨name, list⟩ := entry
    obtain ⟨absent, distinct⟩ := List.nodupKeys_cons.mp distinct
    have split : flatten (⟨name, list⟩ :: entries) = (list.map fun info => (name, info)) ++ flatten entries := rfl
    rw [split, List.filter_append, ih distinct]
    by_cases same : channel = name
    · subst same
      -- The key occurs once.
      simp [List.filter_map, Function.comp_def, List.dlookup_eq_none.mpr absent]
    · rw [List.dlookup_cons_ne _ _ same]
      simp [List.filter_map, Function.comp_def, Ne.symm same]

variable {s : DartMessenger α}

theorem pending_disabling {entrySet : List (Σ _ : String, List (BufferedMessageInfo α))}
    (enumerated : entrySet.Perm s.bufferedMessages.entries) :
    List.Sublist (Call.pending channel taskQueue (.disabling (flatten entrySet))) (s.waiting channel) := by
  have distinct : entrySet.NodupKeys := (List.perm_nodupKeys enumerated).mpr s.bufferedMessages.nodupKeys
  simp only [Call.pending, filter_flatten distinct, List.perm_dlookup channel distinct enumerated]
  split
  · exact List.Sublist.refl _
  · exact List.nil_sublist _

theorem reached_dispatch (s : DartMessenger α) (handlerInfo : Option HandlerInfo) (incoming : Incoming α) :
    (s.dispatchMessageToQueue handlerInfo incoming).reached channel taskQueue =
      s.reached channel taskQueue ++
        if nonnullTaskQueue handlerInfo = taskQueue ∧ incoming.1 = channel then [incoming] else [] := by
  simp only [reached, dispatchMessageToQueue, List.filter_append, List.map_append]
  split
  · rename_i both
    simp [both]
  · rename_i other
    simp [other]

theorem pending_eq_nil_of_notOvertaking {before after : List (Call α)} {call : Call α}
    (fair : NotOvertaking channel taskQueue s (.advance before.length)) (calls : s.calls = before ++ call :: after)
    (dispatches : call.dispatches channel taskQueue = true) :
    before.flatMap (Call.pending channel taskQueue) = [] := by
  have idle := fair call (by simp [calls]) dispatches
  simpa [calls] using idle

theorem order_of_dispatch {before after calls' : List (Call α)} {call : Call α}
    (rest : List (Incoming α)) {handlerInfo : Option HandlerInfo} {incoming : Incoming α}
    (order : List.Sublist (s.reached channel taskQueue ++ s.calls.flatMap (Call.pending channel taskQueue) ++
      s.waiting channel) (s.arrived channel)) (calls : s.calls = before ++ call :: after)
    (moved : call.pending channel taskQueue =
      (if nonnullTaskQueue handlerInfo = taskQueue ∧ incoming.1 = channel then [incoming] else []) ++ rest)
    (left : calls'.flatMap (Call.pending channel taskQueue) = before.flatMap (Call.pending channel taskQueue) ++
      (rest ++ after.flatMap (Call.pending channel taskQueue)))
    (idle : nonnullTaskQueue handlerInfo = taskQueue ∧ incoming.1 = channel →
      before.flatMap (Call.pending channel taskQueue) = []) :
    List.Sublist (({ s with calls := calls' }.dispatchMessageToQueue handlerInfo incoming).reached channel taskQueue ++
      calls'.flatMap (Call.pending channel taskQueue) ++ s.waiting channel) (s.arrived channel) := by
  have same : ({ s with calls := calls' } : DartMessenger α).reached channel taskQueue =
      s.reached channel taskQueue := rfl
  rw [reached_dispatch, left, same]
  simp only [calls, List.flatMap_append, List.flatMap_cons, moved] at order
  split
  · rename_i both
    simpa [idle both, both] using order
  · rename_i other
    simpa [other] using order

theorem nonnullTaskQueue_of_resolved {token : Option Nat} {handler : Nat}
    {queue : Option DartMessengerTaskQueue} (found : s.findTaskQueue token = .ok queue)
    (resolved : ∀ queue ∈ (s.findTaskQueue token).toOption, queue.getD .platformTaskQueue = taskQueue) :
    nonnullTaskQueue (some ⟨handler, queue⟩) = taskQueue := by
  rw [← resolved queue (by rw [found]; rfl)]
  cases queue <;> rfl

theorem Ordered.step {s' : DartMessenger α} {op : Op α} (inv : Ordered channel taskQueue s)
    (one : OneHandler channel taskQueue s op) (fair : NotOvertaking channel taskQueue s op) (steps : Steps s op s') :
    Ordered channel taskQueue s' := by
  obtain ⟨order, installed, setting, off⟩ := inv
  cases steps with
  | madeTaskQueue => exact ⟨order, installed, setting, off⟩
  | enabled => exact ⟨order, installed, setting, fun disabled => by cases disabled⟩
  | threw => exact ⟨order, installed, setting, off⟩
  | @removed name taskQueue =>
    -- The handler of the channel is not removed, so this is another one.
    have other : channel ≠ name := by
      rintro rfl
      exact (one.2 rfl).2.1 rfl
    have same : (s.messageHandlers.erase name).lookup channel = s.messageHandlers.lookup channel :=
      AList.lookup_erase_ne other
    exact ⟨order, fun info known => installed info (same.symm.trans known), by simpa only [same] using setting, off⟩
  | @set name handler token queue found nothing =>
    by_cases same : channel = name
    · subst same
      obtain ⟨_, _, resolved⟩ := one.2 rfl
      have empty : s.waiting channel = [] := by simp [waiting, nothing]
      refine ⟨order, ?_, ?_, off⟩
      · intro info known
        rw [AList.lookup_insert, Option.some.injEq] at known
        exact ⟨known ▸ nonnullTaskQueue_of_resolved found resolved, empty⟩
      · intro list member
        simp
    · have kept : (s.messageHandlers.insert name ⟨handler, queue⟩).lookup channel =
          s.messageHandlers.lookup channel := AList.lookup_insert_ne same
      exact ⟨order, fun info known => installed info (kept.symm.trans known),
        by simpa only [kept] using setting, off⟩
  | @took name handler token queue list found buffered =>
    by_cases same : channel = name
    · subst same
      obtain ⟨_, _, resolved⟩ := one.2 rfl
      -- What waited in the buffer is what the new call has to dispatch.
      have moved : s.waiting channel = list.map fun info => (channel, info) := by simp [waiting, buffered]
      have empty : ((s.bufferedMessages.erase channel).lookup channel) = none := AList.lookup_erase _ _
      refine ⟨?_, ?_, ?_, ?_⟩
      · simpa [waiting, empty, Call.pending, ← moved, arrived, reached] using order
      · intro info known
        rw [AList.lookup_insert, Option.some.injEq] at known
        exact ⟨known ▸ nonnullTaskQueue_of_resolved found resolved, by simp [waiting, empty]⟩
      · intro list member
        simp
      · intro _
        simp [waiting, empty]
    · have kept : (s.messageHandlers.insert name ⟨handler, queue⟩).lookup channel =
          s.messageHandlers.lookup channel := AList.lookup_insert_ne same
      have stays : (s.bufferedMessages.erase name).lookup channel = s.bufferedMessages.lookup channel :=
        AList.lookup_erase_ne same
      refine ⟨?_, ?_, ?_, ?_⟩
      · simpa [waiting, stays, Call.pending, Ne.symm same, arrived, reached] using order
      · simpa only [kept, waiting, stays] using installed
      · simpa [kept, same] using setting
      · simpa only [waiting, stays] using off
  | @disabled entrySet enumerated =>
    have empty : (s.disableBuffering entrySet).waiting channel = [] := rfl
    refine ⟨?_, fun info known => ⟨(installed info known).1, empty⟩, ?_, fun _ => empty⟩
    · rw [empty, List.append_nil]
      apply List.Sublist.trans _ order
      simp only [disableBuffering, List.flatMap_append, List.flatMap_cons, List.flatMap_nil, List.append_nil,
        ← List.append_assoc]
      exact (List.Sublist.refl _).append (pending_disabling enumerated)
    · simpa [disableBuffering] using setting
  | @deferred name message replyId messageData info made buffering none =>
    by_cases same : channel = name
    · subst same
      refine ⟨?_, ?_, setting, ?_⟩
      · simpa [waiting, arrived, reached] using order.append (List.Sublist.refl [(channel, info)])
      · intro info known
        cases none.symm.trans known
      · intro disabled
        cases buffering.symm.trans disabled
    · have stays (list : List (BufferedMessageInfo α)) :
          (s.bufferedMessages.insert name list).lookup channel = s.bufferedMessages.lookup channel :=
        AList.lookup_insert_ne same
      refine ⟨?_, ?_, setting, ?_⟩
      · simpa [waiting, stays, arrived, reached, Ne.symm same] using order
      · simpa only [waiting, stays] using installed
      · simpa only [waiting, stays] using off
  | @accepted name message replyId messageData info made direct =>
    refine ⟨?_, installed, ?_, off⟩
    · by_cases same : channel = name
      · subst same
        -- Nothing of the channel is in the buffer when a message is not deferred.
        have empty : s.waiting channel = [] := by
          cases direct with
          | inl disabled => exact off disabled
          | inr some =>
            obtain ⟨info, known⟩ := Option.ne_none_iff_exists'.mp some
            exact (installed info known).2
        have last : List.Sublist
            (Call.pending channel taskQueue (.handling (s.messageHandlers.lookup channel) (channel, info)))
            [(channel, info)] := by
          simp only [Call.pending]
          split
          · exact List.Sublist.refl _
          · exact List.nil_sublist _
        have nothing : (s.bufferedMessages.lookup channel).getD [] = [] := List.map_eq_nil_iff.mp empty
        rw [empty, List.append_nil] at order
        simpa [waiting, nothing, arrived, reached] using order.append last
      · simpa [waiting, arrived, reached, Call.pending, Ne.symm same] using order
    · simpa using setting
  | @handed before after handlerInfo incoming calls =>
    refine ⟨?_, installed, ?_, off⟩
    · apply order_of_dispatch [] order calls
      · simp [Call.pending, and_comm]
      · simp
      · intro both
        exact pending_eq_nil_of_notOvertaking fair calls (by simp [Call.dispatches, both])
    · intro list member
      apply setting list
      rw [calls]
      simpa [dispatchMessageToQueue] using member
  | @handedSet before after name info list calls =>
    refine ⟨?_, installed, ?_, off⟩
    · -- The handler that the call has set is still there, so its task queue is the given one.
      have target : name = channel → nonnullTaskQueue (s.messageHandlers.lookup name) = taskQueue := by
        rintro rfl
        have known := setting (info :: list) (by simp [calls])
        obtain ⟨handlerInfo, known⟩ := Option.ne_none_iff_exists'.mp known
        rw [known]
        exact (installed handlerInfo known).1
      apply order_of_dispatch (Call.pending channel taskQueue (.settingHandler name list)) order calls
      · by_cases same : name = channel
        · simp [Call.pending, same, ← target same]
        · simp [Call.pending, same]
      · simp
      · intro both
        exact pending_eq_nil_of_notOvertaking fair calls (by simpa [Call.dispatches] using both.2)
    · intro list' member
      simp only [dispatchMessageToQueue, List.mem_append, List.mem_cons, Call.settingHandler.injEq] at member
      obtain inside | ⟨rfl, rfl⟩ | inside := member
      · exact setting list' (by simp [calls, inside])
      · exact setting (info :: list') (by simp [calls])
      · exact setting list' (by simp [calls, inside])
  | @handedDisabled before after incoming pendingMessages calls =>
    refine ⟨?_, installed, ?_, off⟩
    · apply order_of_dispatch (Call.pending channel taskQueue (.disabling pendingMessages)) order calls
      · by_cases platform : taskQueue = .platformTaskQueue
        · by_cases same : incoming.1 = channel <;> simp [Call.pending, platform, nonnullTaskQueue, same]
        · simp [Call.pending, platform, nonnullTaskQueue, Ne.symm platform]
      · simp
      · intro both
        exact pending_eq_nil_of_notOvertaking fair calls
          (by simp [Call.dispatches, both.2, ← both.1, nonnullTaskQueue])
    · intro list member
      apply setting list
      rw [calls]
      simpa [dispatchMessageToQueue] using member
  | @returned before after call nothing calls =>
    have idle : call.pending channel taskQueue = [] := by
      obtain ⟨name, rfl⟩ | rfl := nothing <;> simp [Call.pending]
    refine ⟨by simpa [calls, idle, waiting, arrived, reached] using order, installed, ?_, off⟩
    intro list member
    apply setting list
    rw [calls]
    cases List.mem_append.mp member with
    | inl inside => simp [inside]
    | inr inside => simp [inside]

/-! ## Channel messages stay in order -/

variable [DecidableEq α] {log : List (Op α × Option String)} {s : DartMessenger α}

/-- The messages of a channel reach the task queue of its handler in the order in which they arrived, if
    no call overtakes another one. -/
theorem reached_sublist_arrived (runs : Runs DartMessenger.step
      (fun s op => OneHandler channel taskQueue s op ∧ NotOvertaking channel taskQueue s op) create log s) :
    List.Sublist (s.reached channel taskQueue) (s.arrived channel) := by
  have inv : Ordered channel taskQueue s := by
    apply runs.preserves (P := Ordered channel taskQueue)
    · -- Nothing has been installed, received or buffered.
      exact ⟨List.Sublist.refl _, by simp [create], by simp [create], fun _ => rfl⟩
    · intro s op out s' inv met stepped
      exact inv.step met.1 met.2 (steps_of_step stepped)
  have inFront := (List.sublist_append_left (s.reached channel taskQueue)
    (s.calls.flatMap (Call.pending channel taskQueue))).trans (List.sublist_append_left _ (s.waiting channel))
  exact inFront.trans inv.order

/-- A handler is set while two messages wait for it, and a third one arrives when they have been handed out. -/
theorem reached_sublist_arrived_buffered : ∃ (log : _) (s : DartMessenger Nat),
    Runs DartMessenger.step (fun s op => OneHandler "c" .platformTaskQueue s op ∧
      NotOvertaking "c" .platformTaskQueue s op) create log s ∧
    (s.reached "c" .platformTaskQueue).length = 3 ∧
    List.Sublist (s.reached "c" .platformTaskQueue) (s.arrived "c") := by
  have ran : ∃ log s, run (guarded DartMessenger.step .notEnabled
        fun s op => decide (OneHandler "c" .platformTaskQueue s op ∧ NotOvertaking "c" .platformTaskQueue s op))
      (create (α := Nat))
      [.enableBufferingIncomingMessages, .handleMessageFromDart "c" 5 1 0, .handleMessageFromDart "c" 6 2 0,
        .setMessageHandler "c" (some 0) none, .advance 0, .advance 0, .handleMessageFromDart "c" 7 3 0,
        .advance 1] = .ok (log, s) ∧
      (s.reached "c" .platformTaskQueue).length = 3 := ⟨_, _, rfl, rfl⟩
  obtain ⟨log, s, ran, reached⟩ := ran
  have runs : Runs DartMessenger.step (fun s op => OneHandler "c" .platformTaskQueue s op ∧
      NotOvertaking "c" .platformTaskQueue s op) create log s :=
    runs_of_run_guarded (fun _ _ met => of_decide_eq_true met) ran
  exact ⟨log, s, runs, reached, reached_sublist_arrived runs⟩

/-- A message that arrives while `setMessageHandler` is still handing out the buffered ones overtakes them. -/
theorem not_reached_sublist_arrived : ¬ ∀ (channel : String) (taskQueue : DartMessengerTaskQueue) (log : _)
    (s : DartMessenger Nat), Runs DartMessenger.step (OneHandler channel taskQueue) create log s →
      List.Sublist (s.reached channel taskQueue) (s.arrived channel) := by
  intro always
  have ran : ∃ log s, run (guarded DartMessenger.step .notEnabled
        fun s op => decide (OneHandler "c" .platformTaskQueue s op)) (create (α := Nat))
      [.enableBufferingIncomingMessages, .handleMessageFromDart "c" 5 1 0, .setMessageHandler "c" (some 0) none,
        .handleMessageFromDart "c" 6 2 0, .advance 1, .advance 0] = .ok (log, s) ∧
      s.reached "c" .platformTaskQueue = [("c", ⟨6, 2, 0, 1⟩), ("c", ⟨5, 1, 0, 0⟩)] ∧
      s.arrived "c" = [("c", ⟨5, 1, 0, 0⟩), ("c", ⟨6, 2, 0, 1⟩)] := ⟨_, _, rfl, rfl, rfl⟩
  obtain ⟨log, s, ran, reached, arrived⟩ := ran
  have inOrder := always "c" .platformTaskQueue log s
    (runs_of_run_guarded (fun _ _ met => of_decide_eq_true met) ran)
  rw [reached, arrived] at inOrder
  have same := inOrder.eq_of_length rfl
  simp at same

end DartMessenger

end FlutterZero.Platform.Android
