import FlutterZero.Platform.Android.DartMessenger

/-! # Where the messages are

No message is lost or handed out twice.  A message that has arrived is in the buffer, in a list
that a call took out of the buffer and is still handing out, in the hands of the
`handleMessageFromDart` call that brought it, or in exactly one task queue.
-/

namespace FlutterZero.Platform.Android

open FlutterZero.Lib

namespace Call

variable {α : Type}

/-- What was taken out of the buffer and has not been dispatched yet. -/
@[simp] def takenOut : Call α → List (Incoming α)
  | .handling _ _ => []
  | .settingHandler channel list => list.map fun info => (channel, info)
  | .disabling pendingMessages => pendingMessages

/-- What never was in the buffer and has not been dispatched yet. -/
@[simp] def inHand : Call α → List (Incoming α)
  | .handling _ incoming => [incoming]
  | .settingHandler _ _ => []
  | .disabling _ => []

end Call

namespace DartMessenger

variable {α : Type}

def buffered (s : DartMessenger α) : List (Incoming α) := flatten s.bufferedMessages.entries

def takenOut (s : DartMessenger α) : List (Incoming α) := s.calls.flatMap Call.takenOut

def inHand (s : DartMessenger α) : List (Incoming α) := s.calls.flatMap Call.inHand

def inTaskQueues (s : DartMessenger α) : List (Incoming α) := s.dispatched.map Dispatch.incoming

/-! ## The buffer -/

@[simp] theorem flatten_nil : flatten ([] : List (Σ _ : String, List (BufferedMessageInfo α))) = [] := rfl

@[simp] theorem flatten_cons (channel : String) (list : List (BufferedMessageInfo α))
    (entries : List (Σ _ : String, List (BufferedMessageInfo α))) :
    flatten (⟨channel, list⟩ :: entries) = (list.map fun info => (channel, info)) ++ flatten entries := rfl

theorem flatten_erase {m : AList fun _ : String => List (BufferedMessageInfo α)} {channel : String}
    {list : List (BufferedMessageInfo α)} (found : m.lookup channel = some list) :
    (flatten m.entries).Perm ((list.map fun info => (channel, info)) ++ flatten (m.erase channel).entries) := by
  have known : channel ∈ m.entries.keys := AList.lookup_isSome.mp (by rw [found]; rfl)
  obtain ⟨list', before, after, absent, split, erased⟩ := List.exists_of_kerase known
  -- The list at the position of the key is the one that `lookup` finds.
  have same : list' = list := by
    have : m.lookup channel = some list' := by
      simp [AList.lookup, split, List.dlookup_append, List.dlookup_eq_none.mpr absent]
    exact Option.some.inj (this.symm.trans found)
  have entries : (m.erase channel).entries = before ++ after := erased
  rw [entries, split, same]
  simp only [flatten, List.flatMap_append, List.flatMap_cons]
  exact List.perm_append_comm_assoc _ _ _

theorem flatten_buffer (m : AList fun _ : String => List (BufferedMessageInfo α)) (channel : String)
    (info : BufferedMessageInfo α) :
    (flatten (m.insert channel ((m.lookup channel).getD [] ++ [info])).entries).Perm
      ((channel, info) :: flatten m.entries) := by
  rw [AList.entries_insert, flatten_cons, List.map_append]
  cases found : m.lookup channel with
  | none =>
    have absent : channel ∉ m.entries.keys := AList.lookup_eq_none.mp found
    rw [List.kerase_of_notMem_keys absent]
    simp
  | some list =>
    have taken := (flatten_erase found).symm.cons (channel, info)
    refine List.Perm.trans ?_ taken
    simp only [Option.getD_some, List.map_cons, List.map_nil, List.append_assoc, List.cons_append, List.nil_append]
    exact List.perm_middle

/-! ## The invariant -/

def Numbered (s : DartMessenger α) : Prop :=
  s.received.map (fun incoming => incoming.2.arrival) = List.range s.received.length

variable {s : DartMessenger α}

theorem Numbered.step {s' : DartMessenger α} {op : Op α} (numbered : s.Numbered) (steps : Steps s op s') :
    s'.Numbered := by
  cases steps with
  | deferred made => simpa [Numbered, List.range_succ, made] using numbered
  | accepted made => simpa [Numbered, List.range_succ, made] using numbered
  | _ => exact numbered

theorem Numbered.nodup (numbered : s.Numbered) : s.received.Nodup := by
  apply List.Nodup.of_map fun incoming : Incoming α => incoming.2.arrival
  rw [numbered]
  exact List.nodup_range

variable [DecidableEq α]

def Accounted (s : DartMessenger α) : Prop :=
  ∀ incoming, s.received.count incoming =
    s.buffered.count incoming + s.takenOut.count incoming + s.inHand.count incoming +
      s.inTaskQueues.count incoming

theorem Accounted.step {s' : DartMessenger α} {op : Op α} (accounted : s.Accounted) (steps : Steps s op s') :
    s'.Accounted := by
  intro incoming
  have before := accounted incoming
  simp only [buffered, takenOut, inHand, inTaskQueues] at before ⊢
  cases steps with
  | madeTaskQueue => exact before
  | enabled => exact before
  | threw => exact before
  | removed => exact before
  | set => exact before
  | took found waiting =>
    -- The list moves from the buffer to the call.
    have moved := (flatten_erase waiting).count_eq incoming
    simp only [List.count_append, List.flatMap_append, List.flatMap_cons, List.flatMap_nil, Call.takenOut,
      Call.inHand, List.append_nil] at moved ⊢
    omega
  | @disabled entrySet enumerated =>
    have moved : (flatten entrySet).count incoming = (flatten s.bufferedMessages.entries).count incoming :=
      (enumerated.flatMap_right _).count_eq incoming
    have empty : (∅ : AList fun _ : String => List (BufferedMessageInfo α)).entries = [] := rfl
    simp only [disableBuffering, List.count_append, List.flatMap_append, List.flatMap_cons, List.flatMap_nil,
      Call.takenOut, Call.inHand, List.append_nil, empty, flatten_nil, List.count_nil]
    omega
  | @deferred channel message replyId messageData info =>
    have added := (flatten_buffer s.bufferedMessages channel info).count_eq incoming
    simp only [List.count_append, List.count_cons, List.count_nil] at added ⊢
    omega
  | accepted =>
    simp only [List.count_append, List.flatMap_append, List.flatMap_cons, List.flatMap_nil, Call.takenOut,
      Call.inHand, List.append_nil]
    omega
  | handed calls =>
    simp only [calls, dispatchMessageToQueue, List.count_append, List.flatMap_append, List.flatMap_cons,
      Call.takenOut, Call.inHand, List.map_append, List.map_cons, List.map_nil, List.nil_append] at before ⊢
    omega
  | handedSet calls =>
    simp only [calls, dispatchMessageToQueue, List.count_append, List.count_cons, List.flatMap_append,
      List.flatMap_cons, Call.takenOut, Call.inHand, List.map_append, List.map_cons, List.map_nil,
      List.count_nil] at before ⊢
    omega
  | handedDisabled calls =>
    simp only [calls, dispatchMessageToQueue, List.count_append, List.count_cons, List.flatMap_append,
      List.flatMap_cons, Call.takenOut, Call.inHand, List.map_append, List.map_cons, List.map_nil,
      List.count_nil] at before ⊢
    omega
  | returned nothing calls =>
    -- A call that returns has nothing in any list.
    obtain ⟨channel, rfl⟩ | rfl := nothing <;> simpa [calls] using before

variable {log : List (Op α × Option String)} {s : DartMessenger α}

theorem accounted_of_runs (runs : Runs DartMessenger.step (fun _ _ => True) create log s) :
    s.Numbered ∧ s.Accounted := by
  refine runs.preserves (P := fun s => s.Numbered ∧ s.Accounted) ⟨rfl, fun _ => rfl⟩ ?_
  intro s op out s' inv _ stepped
  have steps := steps_of_step stepped
  exact ⟨inv.1.step steps, inv.2.step steps⟩

/-! ## Buffering that has been disabled -/

theorem buffer_empty_of_runs (runs : Runs DartMessenger.step (fun _ _ => True) create log s) :
    s.enableBufferingIncomingMessages = false → s.bufferedMessages = ∅ := by
  refine runs.preserves (P := fun s => s.enableBufferingIncomingMessages = false → s.bufferedMessages = ∅)
    (fun _ => rfl) ?_
  intro s op out s' before _ stepped off
  cases steps_of_step stepped with
  | enabled => cases off
  | disabled => rfl
  | deferred made buffering => exact absurd (buffering.symm.trans off) (by simp)
  | took found waiting =>
    have empty := before off
    rw [empty] at waiting
    cases waiting
  | _ => exact before off

theorem enabled_last_of_runs (runs : Runs DartMessenger.step (fun _ _ => True) create log s)
    (on : s.enableBufferingIncomingMessages = true) :
    ∃ before out after, log = before ++ (.enableBufferingIncomingMessages, out) :: after ∧
      ∀ entry ∈ after, ∀ entrySet, entry.1 ≠ .disableBufferingIncomingMessages entrySet := by
  induction runs with
  | start => cases on
  | @next log s s' op out _ _ stepped ih =>
    by_cases enabling : op = .enableBufferingIncomingMessages
    · exact ⟨log, out, [], by rw [enabling], by simp⟩
    · have earlier : s.enableBufferingIncomingMessages = true ∧
          ∀ entrySet, op ≠ .disableBufferingIncomingMessages entrySet := by
        cases steps_of_step stepped with
        | enabled => exact absurd rfl enabling
        | disabled => cases on
        | _ => exact ⟨on, by simp⟩
      obtain ⟨before, out', after, split, none⟩ := ih earlier.1
      refine ⟨before, out', after ++ [(op, out)], by simp [split], ?_⟩
      intro entry member
      cases List.mem_append.mp member with
      | inl inside => exact none entry inside
      | inr last =>
        rw [List.mem_singleton.mp last]
        exact earlier.2

/-! ## No message is lost or duplicated -/

/-- A message that has arrived is at all times in exactly one place, once, and when every enabling of the
    buffering was followed by a disabling nothing is left in the buffer. -/
theorem places_of_runs (runs : Runs DartMessenger.step (fun _ _ => True) create log s) :
    (∀ incoming, s.buffered.count incoming + s.takenOut.count incoming + s.inHand.count incoming +
        s.inTaskQueues.count incoming = if incoming ∈ s.received then 1 else 0) ∧
      ((∀ before out after, log = before ++ (.enableBufferingIncomingMessages, out) :: after →
          ∃ entry ∈ after, ∃ entrySet, entry.1 = .disableBufferingIncomingMessages entrySet) →
        s.bufferedMessages = ∅) := by
  constructor
  · intro incoming
    obtain ⟨numbered, accounted⟩ := accounted_of_runs runs
    rw [← accounted incoming, numbered.nodup.count]
  · intro followed
    apply buffer_empty_of_runs runs
    by_contra on
    obtain ⟨before, out, after, split, none⟩ := enabled_last_of_runs runs (by simpa using on)
    obtain ⟨entry, member, entrySet, disabling⟩ := followed before out after split
    exact none entry member entrySet disabling

/-- A message is buffered, taken out by the call that sets the handler, and handed out. -/
theorem places_of_handler_set : ∃ (log : _) (s : DartMessenger Nat),
    Runs DartMessenger.step (fun _ _ => True) create log s ∧ s.received.length = 2 ∧ s.inTaskQueues.length = 1 ∧
      (∀ incoming, s.buffered.count incoming + s.takenOut.count incoming + s.inHand.count incoming +
        s.inTaskQueues.count incoming = if incoming ∈ s.received then 1 else 0) := by
  have ran : ∃ log s, run DartMessenger.step (create (α := Nat))
      [.enableBufferingIncomingMessages, .handleMessageFromDart "c" 5 1 0, .handleMessageFromDart "c" 6 2 0,
        .setMessageHandler "c" (some 0) none, .advance 0] = .ok (log, s) ∧
      s.received.length = 2 ∧ s.inTaskQueues.length = 1 := ⟨_, _, rfl, rfl, rfl⟩
  obtain ⟨log, s, ran, received, handed⟩ := ran
  have runs : Runs DartMessenger.step (fun _ _ => True) create log s := runs_of_run (fun _ _ _ => trivial) ran
  exact ⟨log, s, runs, received, handed, (places_of_runs runs).1⟩

/-- Between the critical section of `handleMessageFromDart` and its dispatch, a message that is not
    deferred is neither buffered nor taken out nor dispatched. -/
theorem not_places_without_in_hand : ¬ ∀ (log : _) (s : DartMessenger Nat),
    Runs DartMessenger.step (fun _ _ => True) create log s → ∀ incoming ∈ s.received,
      s.buffered.count incoming + s.takenOut.count incoming + s.inTaskQueues.count incoming = 1 := by
  intro always
  have ran : ∃ log s,
      run DartMessenger.step (create (α := Nat)) [.handleMessageFromDart "c" 5 1 0] = .ok (log, s) ∧
      s.received = [("c", ⟨5, 1, 0, 0⟩)] ∧ s.buffered = [] ∧ s.takenOut = [] ∧ s.inTaskQueues = [] :=
    ⟨_, _, rfl, rfl, rfl, rfl, rfl⟩
  obtain ⟨log, s, ran, received, buffered, takenOut, inTaskQueues⟩ := ran
  have nowhere := always log s (runs_of_run (fun _ _ _ => trivial) ran) ("c", ⟨5, 1, 0, 0⟩) (by simp [received])
  simp [buffered, takenOut, inTaskQueues] at nowhere

end DartMessenger

end FlutterZero.Platform.Android
