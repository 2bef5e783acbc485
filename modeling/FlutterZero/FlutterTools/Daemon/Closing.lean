import FlutterZero.FlutterTools.Daemon.Reader

/-! # The ends of binary streams

A binary stream is closed by the round of the loop that sends its last byte.  A binary without
bytes has no last byte: its stream is closed by a round of its own, which runs only when the chunk
goes on behind the line of the message.  Where the chunk ends with this line the stream stays open
until the next message begins to arrive.  And a message that is not legible is never received.
-/

namespace FlutterZero.FlutterTools

open FlutterZero.Lib DaemonInputStreamConverter

variable {Double : Type} {format : DoubleFormat Double}

def written (messages : List (OutgoingMessage format)) : List UInt8 := ((sendAll format messages).getD []).flatten

/-- However much was processed, the binaries that are complete by then are closed. -/
def ClosesInTime (messages : List (OutgoingMessage format)) (chunks : List (List UInt8)) : Prop :=
  ∀ k i message bytes, messages[i]? = some message → message.binary = some bytes →
    (written (messages.take (i + 1))).length ≤ (chunks.take k).flatten.length →
    ∃ stream, ((listen format (chunks.take k)).messages[i]?).bind DaemonMessage.binary = some stream ∧
      stream.closed = true

def NotCutBehindEmpty (messages : List (OutgoingMessage format)) (chunks : List (List UInt8)) : Prop :=
  ∀ k i message, messages[i]? = some message → message.binary = some [] →
    (chunks.take k).flatten.length ≠ (written (messages.take (i + 1))).length

/-- Every message up to one with a binary is legible. -/
def LegibleUpToBinaries (messages : List (OutgoingMessage format)) : Prop :=
  ∀ i message, messages[i]? = some message → message.binary ≠ none →
    ∀ earlier ∈ messages.take (i + 1), earlier.Legible

/-! ## What is written -/

variable {bytes : List UInt8}

theorem DaemonInputStreamConverter.Frames.append {messages rest : List (OutgoingMessage format)} {more : List UInt8}
    (frames : Frames messages bytes) (frames' : Frames rest more) : Frames (messages ++ rest) (bytes ++ more) := by
  induction frames with
  | nil => exact frames'
  | cons encoded tail ih =>
    rw [List.append_assoc, List.append_assoc]
    exact .cons encoded ih

theorem DaemonInputStreamConverter.Frames.unique {messages : List (OutgoingMessage format)} {bytes' : List UInt8}
    (frames : Frames messages bytes) (frames' : Frames messages bytes') : bytes = bytes' := by
  induction frames generalizing bytes' with
  | nil => cases frames'; rfl
  | cons encoded tail ih =>
    cases frames' with
    | cons encoded' tail' =>
      cases encoded.symm.trans encoded'
      rw [ih tail']

theorem frames_written (messages : List (OutgoingMessage format)) : Frames messages (written messages) := by
  obtain ⟨pieces, sent, frames⟩ := sendAll_frames messages
  rw [written, sent]
  exact frames

theorem written_append (messages rest : List (OutgoingMessage format)) :
    written (messages ++ rest) = written messages ++ written rest :=
  (frames_written _).unique ((frames_written messages).append (frames_written rest))

/-! ## Reading what is written -/

variable {messages : List (OutgoingMessage format)}

def OutgoingMessage.view (closed : Bool) (message : OutgoingMessage format) : ReaderMessage Double :=
  (message.entries, message.binary.map fun bytes => ⟨bytes, closed⟩)

/-- The reader behind some messages: all binaries are closed, but for one without bytes at the end. -/
inductive ReadTo (messages : List (OutgoingMessage format)) : Reader Double → Prop where
  | closed (last : ∀ message, messages.getLast? = some message → message.binary ≠ some []) :
      ReadTo messages ⟨messages.map (OutgoingMessage.view true), .line []⟩
  | open {before : List (OutgoingMessage format)} {message : OutgoingMessage format}
      (split : messages = before ++ [message]) (empty : message.binary = some []) :
      ReadTo messages ⟨before.map (OutgoingMessage.view true) ++ [message.view false], .binary 0⟩

theorem readLine_lineOf {message : OutgoingMessage format} {text : Utf16}
    (encoded : (Json.object message.entries).encode format = some text) (legible : message.Legible) :
    readLine format (lineOf text) = .ok (some (message.entries, message.binary.map fun bytes => bytes.length)) := by
  have processed := processLine_lineOf encoded legible initial
  rw [processLine_eq] at processed
  generalize readLine format (lineOf text) = said at processed ⊢
  cases binary : message.binary with
  | none =>
    rw [addMessage_without_binary message binary] at processed
    obtain error | _ | ⟨value, _ | length⟩ := said
    all_goals simp [Except.map, accept, initial] at processed
    simp [processed]
  | some bytes =>
    rw [addMessage_with_binary message binary] at processed
    obtain error | _ | ⟨value, _ | length⟩ := said
    all_goals simp [Except.map, accept, initial] at processed
    simp [processed]

theorem readLine_illegible {message : OutgoingMessage format} {text : Utf16}
    (encoded : (Json.object message.entries).encode format = some text) (illegible : ¬ message.Legible) :
    readLine format (lineOf text) = .error .toolExit := by
  have processed := processLine_illegible encoded illegible initial
  rw [processLine_eq] at processed
  cases said : readLine format (lineOf text) with
  | error error =>
    rw [said] at processed
    cases processed
    rfl
  | ok message =>
    rw [said] at processed
    cases processed

theorem read_lineOf {message : OutgoingMessage format} {text : Utf16}
    (encoded : (Json.object message.entries).encode format = some text) (legible : message.Legible)
    (before : List (ReaderMessage Double)) :
    (lineOf text).foldlM (Reader.byteStep format) ⟨before, .line []⟩ =
      .ok ⟨before ++ [(message.entries, message.binary.map fun _ => ⟨[], false⟩)],
        match message.binary with
        | none => .line []
        | some bytes => .binary bytes.length⟩ := by
  obtain ⟨body, ends, unfinished⟩ := lineOf_eq (oneLine_encode format encoded)
  have said := readLine_lineOf encoded legible
  rw [ends] at said
  rw [ends, List.foldlM_append, read_line unfinished, ok_bind, List.nil_append, List.foldlM_cons, Reader.byteStep_line,
    Reader.lineStep, if_pos rfl, said]
  cases message.binary <;> rfl

theorem read_message {message : OutgoingMessage format} (legible : message.Legible)
    (before : List (ReaderMessage Double)) :
    ∃ reader, (written [message]).foldlM (Reader.byteStep format) ⟨before, .line []⟩ = .ok reader ∧
      (message.binary ≠ some [] → reader = ⟨before ++ [message.view true], .line []⟩) ∧
      (message.binary = some [] → reader = ⟨before ++ [message.view false], .binary 0⟩) := by
  have frames := frames_written [message]
  generalize written [message] = bytes at frames
  obtain _ | ⟨encoded, tail⟩ := frames
  cases tail
  rw [List.append_nil, List.foldlM_append, read_lineOf encoded legible, ok_bind]
  cases binary : message.binary with
  | none => exact ⟨_, rfl, fun _ => by simp [OutgoingMessage.view, binary], nofun⟩
  | some bytes =>
    by_cases empty : bytes = []
    · subst empty
      exact ⟨_, rfl, fun some => absurd rfl some, fun _ => by simp [OutgoingMessage.view, binary]⟩
    · rw [Option.getD_some, read_whole_binary empty]
      refine ⟨_, rfl, fun _ => ?_, fun none_left => absurd (Option.some.inj none_left) empty⟩
      have last : modifyLast .close (modifyLast (.append bytes) (before ++ [(message.entries, some ⟨[], false⟩)])) =
          before ++ [(message.entries, some ⟨bytes, true⟩)] := by
        rw [modifyLast_concat, modifyLast_concat]
        simp [ReceivedStream.append, ReceivedStream.close]
      simp [OutgoingMessage.view, binary, last]

theorem ReadTo.byteStep_eq {reader : Reader Double} (readTo : ReadTo messages reader) (byte : UInt8) :
    Reader.byteStep format reader byte =
      Reader.byteStep format ⟨messages.map (OutgoingMessage.view true), .line []⟩ byte := by
  cases readTo with
  | closed => rfl
  | @«open» before message split empty =>
    have closed : modifyLast .close (before.map (OutgoingMessage.view true) ++ [message.view false]) =
        messages.map (OutgoingMessage.view true) := by
      rw [split, modifyLast_concat, List.map_append]
      simp [OutgoingMessage.view, empty, ReceivedStream.close]
    rw [Reader.byteStep_zero, closed]

theorem written_ne_nil (message : OutgoingMessage format) : written [message] ≠ [] := by
  have frames := frames_written [message]
  generalize written [message] = bytes at frames ⊢
  obtain _ | ⟨encoded, tail⟩ := frames
  obtain ⟨body, ends, -⟩ := lineOf_eq (oneLine_encode format encoded)
  simp [ends]

theorem read_written (legible : ∀ message ∈ messages, message.Legible) :
    ∃ reader, (written messages).foldlM (Reader.byteStep format) Reader.initial = .ok reader ∧
      ReadTo messages reader := by
  induction messages using List.reverseRecOn with
  | nil => exact ⟨Reader.initial, rfl, .closed nofun⟩
  | append_singleton before message ih =>
    rw [List.forall_mem_append, List.forall_mem_singleton] at legible
    obtain ⟨reader, read, readTo⟩ := ih legible.1
    obtain ⟨reader', read', closed, opened⟩ := read_message legible.2 (before.map (OutgoingMessage.view true))
    refine ⟨reader', ?_, ?_⟩
    · obtain ⟨byte, bytes, line⟩ := List.exists_cons_of_ne_nil (written_ne_nil message)
      rw [line, List.foldlM_cons] at read'
      rw [written_append, List.foldlM_append, read, ok_bind, line, List.foldlM_cons, readTo.byteStep_eq]
      exact read'
    · by_cases empty : message.binary = some []
      · rw [opened empty]
        exact .open rfl empty
      · rw [closed empty]
        have all : before.map (OutgoingMessage.view true) ++ [message.view true] =
            (before ++ [message]).map (OutgoingMessage.view true) := by simp
        rw [all]
        refine .closed fun last isLast => ?_
        rw [List.getLast?_concat, Option.some.injEq] at isLast
        rwa [← isLast]

/-! ## Closed streams -/

def ClosedAt (i : Nat) (reader : Reader Double) : Prop :=
  ∃ stream, (reader.messages[i]?).bind Prod.snd = some stream ∧ stream.closed = true

theorem closedAt_view (converter : DaemonInputStreamConverter Double) (i : Nat) :
    ClosedAt i converter.view ↔
      ∃ stream, (converter.messages[i]?).bind DaemonMessage.binary = some stream ∧ stream.closed = true := by
  have viewed : (converter.view.messages[i]?).bind Prod.snd =
      ((converter.messages[i]?).bind DaemonMessage.binary).map fun stream => ⟨stream.chunks.flatten, stream.closed⟩ := by
    rw [view, List.getElem?_map]
    cases converter.messages[i]? <;> rfl
  rw [ClosedAt, viewed]
  cases (converter.messages[i]?).bind DaemonMessage.binary <;> simp

section

variable {i : Nat} {received : List (ReaderMessage Double)} {mode mode' : ReaderMode} {reader reader' : Reader Double}

theorem ClosedAt.modifyLast {change : ReceivedStream → ReceivedStream}
    (keeps : ∀ stream : ReceivedStream, stream.closed = true → (change stream).closed = true)
    (closedAt : ClosedAt i ⟨received, mode⟩) : ClosedAt i ⟨FlutterTools.modifyLast change received, mode'⟩ := by
  obtain ⟨stream, at_index, closed⟩ := closedAt
  obtain ⟨message, found, binary⟩ := Option.bind_eq_some_iff.mp at_index
  by_cases last : received.length - 1 = i
  · refine ⟨change stream, ?_, keeps stream closed⟩
    rw [FlutterTools.modifyLast, List.getElem?_modify, show received[i]? = some message from found]
    simp [last, binary]
  · refine ⟨stream, ?_, closed⟩
    rw [FlutterTools.modifyLast, List.getElem?_modify, show received[i]? = some message from found]
    simp [last, binary]

theorem ClosedAt.concat (closedAt : ClosedAt i ⟨received, mode⟩) (message : ReaderMessage Double) :
    ClosedAt i ⟨received ++ [message], mode'⟩ := by
  obtain ⟨stream, at_index, closed⟩ := closedAt
  obtain ⟨found, here, binary⟩ := Option.bind_eq_some_iff.mp at_index
  have inside : i < received.length := (List.getElem?_eq_some_iff.mp here).1
  refine ⟨stream, ?_, closed⟩
  rw [List.getElem?_append_left inside]
  exact at_index

theorem ClosedAt.lineStep {buffer : List UInt8} {byte : UInt8} (closedAt : ClosedAt i ⟨received, mode⟩)
    (stepped : Reader.lineStep format received buffer byte = .ok reader' ∨
      Reader.lineStep format received buffer byte = .error reader') : ClosedAt i reader' := by
  unfold Reader.lineStep at stepped
  split at stepped
  · generalize readLine format (buffer ++ [10]) = said at stepped
    obtain error | _ | ⟨value, _ | length⟩ := said <;> obtain stepped | stepped := stepped <;> cases stepped
    · exact closedAt
    · exact closedAt
    · exact closedAt.concat _
    · exact closedAt.concat _
  · obtain stepped | stepped := stepped <;> cases stepped
    exact closedAt

theorem ClosedAt.byteStep {byte : UInt8} (closedAt : ClosedAt i reader)
    (stepped : Reader.byteStep format reader byte = .ok reader' ∨
      Reader.byteStep format reader byte = .error reader') : ClosedAt i reader' := by
  have close_keeps (stream : ReceivedStream) (_ : stream.closed = true) : stream.close.closed = true := rfl
  have append_keeps (more : List UInt8) (stream : ReceivedStream) (closed : stream.closed = true) :
      (stream.append more).closed = true := closed
  obtain ⟨received, buffer | remaining⟩ := reader
  · exact closedAt.lineStep stepped
  · simp only [Reader.byteStep] at stepped
    split at stepped
    · obtain stepped | stepped := stepped <;> cases stepped
      exact closedAt
    · split at stepped
      · have closed : ClosedAt i ⟨FlutterTools.modifyLast .close received, .line []⟩ := closedAt.modifyLast close_keeps
        exact closed.lineStep stepped
      · split at stepped
        · have appended : ClosedAt i ⟨FlutterTools.modifyLast (.append [byte]) received, .line []⟩ :=
            closedAt.modifyLast (append_keeps [byte])
          obtain stepped | stepped := stepped <;> cases stepped
          exact appended.modifyLast close_keeps
        · obtain stepped | stepped := stepped <;> cases stepped
          exact closedAt.modifyLast (append_keeps [byte])

theorem ClosedAt.readChunks (closedAt : ClosedAt i reader) (chunks : List (List UInt8)) :
    ClosedAt i (Lib.readChunks (Reader.byteStep format) reader chunks) :=
  readChunks_preserves (fun _ _ _ sofar stepped => sofar.byteStep (.inl stepped))
    (fun _ _ _ sofar thrown => sofar.byteStep (.inr thrown)) chunks closedAt

end

/-! ## Closed in time -/

theorem closedAt_map_view {i : Nat} {message : OutgoingMessage format}
    (here : messages[i]? = some message) (binary : message.binary = some bytes) (mode : ReaderMode) :
    ClosedAt i ⟨messages.map (OutgoingMessage.view true), mode⟩ :=
  ⟨⟨bytes, true⟩, by simp [here, OutgoingMessage.view, binary], rfl⟩

theorem ReadTo.closedAt_iff {i : Nat} {message : OutgoingMessage format} {reader : Reader Double}
    (readTo : ReadTo (messages.take (i + 1)) reader) (here : messages[i]? = some message)
    (binary : message.binary = some bytes) : ClosedAt i reader ↔ bytes ≠ [] := by
  have taken : messages.take (i + 1) = messages.take i ++ [message] := by rw [List.take_add_one, here]; rfl
  have length : (messages.take i).length = i := by
    have inside : i < messages.length := (List.getElem?_eq_some_iff.mp here).1
    rw [List.length_take]
    omega
  cases readTo with
  | closed last =>
    have nonempty : bytes ≠ [] := by
      rintro rfl
      exact last message (by rw [taken, List.getLast?_concat]) binary
    have there : (messages.take (i + 1))[i]? = some message := by rw [List.getElem?_take_of_succ, here]
    exact ⟨fun _ => nonempty, fun _ => closedAt_map_view there binary _⟩
  | @«open» before last split empty =>
    obtain ⟨same, last_eq⟩ := List.append_inj' (taken.symm.trans split) rfl
    obtain rfl : message = last := (List.cons.inj last_eq).1
    obtain rfl : bytes = [] := Option.some.inj (binary.symm.trans empty)
    refine ⟨?_, fun nonempty => absurd rfl nonempty⟩
    rintro ⟨stream, at_index, closed⟩
    rw [List.getElem?_append_right (by rw [List.length_map, ← same, length]), List.length_map, ← same, length,
      Nat.sub_self] at at_index
    obtain rfl : ⟨[], false⟩ = stream := by simpa [OutgoingMessage.view, empty] using at_index
    cases closed

section

variable {chunks : List (List UInt8)}

theorem read_processed (cut : chunks.flatten = written messages) {k i : Nat}
    (legible : ∀ message ∈ messages.take (i + 1), message.Legible)
    (complete : (written (messages.take (i + 1))).length ≤ (chunks.take k).flatten.length) :
    ∃ later reader, (chunks.take k).flatten = written (messages.take (i + 1)) ++ later.flatten ∧
      ReadTo (messages.take (i + 1)) reader ∧
      (listen format (chunks.take k)).view = readChunks (Reader.byteStep format) reader later := by
  have split : (chunks.take k).flatten ++ (chunks.drop k).flatten =
      written (messages.take (i + 1)) ++ written (messages.drop (i + 1)) := by
    rw [← List.flatten_append, List.take_append_drop, cut, ← written_append, List.take_append_drop]
  obtain ⟨more, behind⟩ : written (messages.take (i + 1)) <+: (chunks.take k).flatten :=
    List.prefix_of_prefix_length_le (split.symm ▸ List.prefix_append ..) (List.prefix_append ..) complete
  obtain ⟨reader, read, readTo⟩ := read_written legible
  obtain ⟨later, rfl, same⟩ := readChunks_append_of_ok behind.symm read
  exact ⟨later, reader, behind.symm, readTo, (view_listen _).trans same⟩

theorem notCutBehindEmpty_of_closes (legible : LegibleUpToBinaries messages) (cut : chunks.flatten = written messages)
    (inTime : ClosesInTime messages chunks) : NotCutBehindEmpty messages chunks := by
  intro k i message here empty sameLength
  have upTo := legible i message here (by simp [empty])
  obtain ⟨later, reader, split, readTo, same⟩ := read_processed cut upTo (le_of_eq sameLength.symm)
  have none_more : later.flatten = [] := by
    rw [split, List.length_append] at sameLength
    exact List.length_eq_zero_iff.mp (by omega)
  have closed := (closedAt_view _ i).mpr (inTime k i message [] here empty (le_of_eq sameLength.symm))
  rw [same, readChunks_of_flatten_nil none_more] at closed
  exact (readTo.closedAt_iff here empty).mp closed rfl

theorem closes_of_notCutBehindEmpty (legible : LegibleUpToBinaries messages) (cut : chunks.flatten = written messages)
    (notCut : NotCutBehindEmpty messages chunks) : ClosesInTime messages chunks := by
  intro k i message bytes here binary complete
  have upTo := legible i message here (by simp [binary])
  obtain ⟨later, reader, split, readTo, same⟩ := read_processed cut upTo complete
  apply (closedAt_view _ i).mp
  rw [same]
  by_cases none_more : later.flatten = []
  · rw [readChunks_of_flatten_nil none_more]
    apply (readTo.closedAt_iff here binary).mpr
    rintro rfl
    exact notCut k i message here binary (by rw [split, none_more, List.append_nil])
  · -- the byte behind the message closes what is still open, whatever becomes of it
    rw [readChunks_congr readTo.byteStep_eq none_more]
    have there : (messages.take (i + 1))[i]? = some message := by rw [List.getElem?_take_of_succ, here]
    exact (closedAt_map_view there binary _).readChunks later

/-- Where everything comes in one chunk, a line that is not legible is the last that is looked at. -/
theorem listen_illegible {before after : List (OutgoingMessage format)} {message : OutgoingMessage format}
    (legible : ∀ earlier ∈ before, earlier.Legible) (illegible : ¬ message.Legible) :
    (listen format [written (before ++ message :: after)]).messages.length = before.length := by
  obtain ⟨reader, read, readTo⟩ := read_written legible
  have frames := frames_written (message :: after)
  have behind := written_append before (message :: after)
  generalize written (message :: after) = bytes at frames behind
  obtain _ | ⟨encoded, tail⟩ := frames
  obtain ⟨body, ends, unfinished⟩ := lineOf_eq (oneLine_encode format encoded)
  have said := readLine_illegible encoded illegible
  rw [ends] at said behind
  rw [List.append_assoc, List.singleton_append] at behind
  have thrown : Reader.byteStep format ⟨before.map (OutgoingMessage.view true), .line ([] ++ body)⟩ 10 =
      .error ⟨before.map (OutgoingMessage.view true), .line []⟩ := by
    rw [Reader.byteStep_line, Reader.lineStep, if_pos rfl, List.nil_append, said]
  have viewed : (listen format [written (before ++ message :: after)]).view = _ := view_listen _
  have first : readChunk (Reader.byteStep format) Reader.initial (written (before ++ message :: after)) =
      ⟨before.map (OutgoingMessage.view true), .line []⟩ := by
    rw [behind, readChunk_append_of_ok read]
    change readChunks _ reader [_] = _
    rw [readChunks_congr readTo.byteStep_eq (by simp)]
    exact readChunks_lose (read_line unfinished) thrown _ []
  rw [readChunks_cons, first, readChunks_nil] at viewed
  have lengths := congrArg (fun reader => reader.messages.length) viewed
  simpa [view] using lengths

theorem not_closesInTime_of_illegible (illegible : ¬ LegibleUpToBinaries messages) :
    ¬ ClosesInTime messages [written messages] := by
  intro inTime
  apply illegible
  intro i message here binary earlier inside
  by_contra hidden
  obtain ⟨bytes, binary⟩ := Option.ne_none_iff_exists'.mp binary
  have inMessages : earlier ∈ messages := List.mem_of_mem_take inside
  cases found : messages.find? fun message => decide ¬ message.Legible with
  | none => exact hidden (by simpa using List.find?_eq_none.mp found earlier inMessages)
  | some first =>
    obtain ⟨notLegible, before, after, split, legible⟩ := List.find?_eq_some_iff_append.mp found
    have legible : ∀ message ∈ before, message.Legible := by simpa using legible
    have noneThere : (listen format [written (before ++ first :: after)]).messages.length = before.length :=
      listen_illegible legible (by simpa using notLegible)
    rw [← split] at noneThere
    -- the message is not in front of the first one that is not legible
    have notBefore : before.length ≤ i := by
      by_contra later
      rw [split, List.take_append_of_le_length (by omega)] at inside
      exact hidden (legible earlier (List.mem_of_mem_take inside))
    have complete : (written (messages.take (i + 1))).length ≤ (([written messages].take 1).flatten).length := by
      have split := written_append (messages.take (i + 1)) (messages.drop (i + 1))
      rw [List.take_append_drop] at split
      simp [split]
    obtain ⟨stream, received, -⟩ := inTime 1 i message bytes here binary complete
    rw [List.take_of_length_le (by simp), List.getElem?_eq_none (by omega)] at received
    cases received

/-- If all messages up to the last binary are legible then, however their bytes are cut, every binary stream is
    closed as soon as its data was processed if and only if no chunk ends behind a message with a binary of no
    bytes; and otherwise one is not where the bytes are not cut at all. -/
theorem closesInTime_iff (messages : List (OutgoingMessage format)) :
    (LegibleUpToBinaries messages → ∀ chunks : List (List UInt8), chunks.flatten = written messages →
      (ClosesInTime messages chunks ↔ NotCutBehindEmpty messages chunks)) ∧
    (¬ LegibleUpToBinaries messages → ¬ ClosesInTime messages [written messages]) :=
  ⟨fun legible _ cut => ⟨notCutBehindEmpty_of_closes legible cut, closes_of_notCutBehindEmpty legible cut⟩,
    not_closesInTime_of_illegible⟩

end

/-- `{}` with a binary of no bytes. -/
def emptyBinaryMessage : OutgoingMessage halfFormat :=
  ⟨[], some [], emptyMessage.distinct, emptyMessage.finite, emptyMessage.unreserved, by simp⟩

theorem legibleUpToBinaries_of_all (legible : ∀ message ∈ messages, message.Legible) : LegibleUpToBinaries messages :=
  fun _ _ _ _ earlier inside => legible earlier (List.mem_of_mem_take inside)

def illegibleBinaryMessage : OutgoingMessage halfFormat :=
  ⟨illegibleMessage.data, some [0], illegibleMessage.distinct, illegibleMessage.finite, illegibleMessage.unreserved,
    by simp⟩

theorem closesInTime_iff_binaryMessage :
    (ClosesInTime [binaryMessage, emptyMessage] [written [binaryMessage], written [emptyMessage]] ↔
        NotCutBehindEmpty [binaryMessage, emptyMessage] [written [binaryMessage], written [emptyMessage]]) ∧
      ¬ ClosesInTime [illegibleBinaryMessage] [written [illegibleBinaryMessage]] := by
  have legible : LegibleUpToBinaries [binaryMessage, emptyMessage] := legibleUpToBinaries_of_all (by decide)
  have illegible : ¬ LegibleUpToBinaries [illegibleBinaryMessage] := by
    intro upTo
    have hidden : ¬ illegibleBinaryMessage.Legible := by decide
    exact hidden (upTo 0 illegibleBinaryMessage rfl (by simp [illegibleBinaryMessage]) illegibleBinaryMessage (by simp))
  have cut : [written [binaryMessage], written [emptyMessage]].flatten = written [binaryMessage, emptyMessage] := by
    rw [List.flatten_cons, List.flatten_singleton, ← written_append]
    rfl
  exact ⟨(closesInTime_iff [binaryMessage, emptyMessage]).1 legible _ cut,
    (closesInTime_iff [illegibleBinaryMessage]).2 illegible⟩

/-- The stream of the only message stays open. -/
theorem not_closesInTime_emptyBinary :
    [written [emptyBinaryMessage]].flatten = written [emptyBinaryMessage] ∧
      ¬ ClosesInTime [emptyBinaryMessage] [written [emptyBinaryMessage]] := by
  have cut : [written [emptyBinaryMessage]].flatten = written [emptyBinaryMessage] := List.flatten_singleton
  have legible : LegibleUpToBinaries [emptyBinaryMessage] := legibleUpToBinaries_of_all (by decide)
  refine ⟨cut, fun inTime => ?_⟩
  exact notCutBehindEmpty_of_closes legible cut inTime 1 0 emptyBinaryMessage rfl rfl (congrArg List.length cut)

end FlutterZero.FlutterTools
