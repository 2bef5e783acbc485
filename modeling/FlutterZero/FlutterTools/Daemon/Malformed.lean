import FlutterZero.FlutterTools.Daemon.Reader

/-! # Malformed lines

A line that looks like a message and cannot be decoded is taken out of the buffer, and what it throws
ends the loop over the chunk.  So what follows the line in its chunk is lost, and nothing of what
comes in the next chunk: where the bytes are cut decides which of the later messages are received.
-/

namespace FlutterZero.FlutterTools

open FlutterZero.Lib DaemonInputStreamConverter

variable {Double : Type} (format : DoubleFormat Double)

/-- However the bytes are cut into chunks, the same messages are received. -/
def ChunkingInvisible (bytes : List UInt8) : Prop :=
  ∀ chunks chunks' : List (List UInt8), chunks.flatten = bytes → chunks'.flatten = bytes →
    (listen format chunks).received = (listen format chunks').received

def Means (line : List UInt8) (message : Option (List (Utf16 × Json Double) × Option Int)) : Prop :=
  10 ∉ line ∧ readLine format (line ++ [10]) = .ok message

def IsMalformed (line : List UInt8) : Prop := 10 ∉ line ∧ ∃ error, readLine format (line ++ [10]) = .error error

inductive WellFormed : List UInt8 → Prop where
  | nil : WellFormed []
  | ignored {good line : List UInt8} (before : WellFormed good) (decoded : Means format line none) :
      WellFormed (good ++ (line ++ [10]))
  | message {good line : List UInt8} {value : List (Utf16 × Json Double)} (before : WellFormed good)
      (decoded : Means format line (some (value, none))) : WellFormed (good ++ (line ++ [10]))
  | binary {good line bytes : List UInt8} {value : List (Utf16 × Json Double)} (before : WellFormed good)
      (decoded : Means format line (some (value, some bytes.length))) : WellFormed (good ++ (line ++ 10 :: bytes))

def HasMessage (bytes : List UInt8) : Prop :=
  ∃ before line after message, bytes = before ++ (line ++ 10 :: after) ∧ Means format line (some message)

def MalformedBeforeMessage (bytes : List UInt8) : Prop :=
  ∃ good line rest, bytes = good ++ (line ++ 10 :: rest) ∧ WellFormed format good ∧ IsMalformed format line ∧
    HasMessage format rest

variable {format}

/-! ## What the reader received -/

def Reader.received (reader : Reader Double) : List (ReceivedMessage Double) :=
  reader.messages.map fun message => (message.1, message.2.map ReceivedStream.bytes)

theorem received_view (converter : DaemonInputStreamConverter Double) :
    converter.view.received = converter.received := by
  rw [Reader.received, DaemonInputStreamConverter.received, view, List.map_map]
  refine List.map_congr_left fun message _ => ?_
  simp [DaemonMessage.view, DaemonMessage.received, Function.comp_def]

theorem received_listen (chunks : List (List UInt8)) :
    (listen format chunks).received = (readChunks (Reader.byteStep format) Reader.initial chunks).received := by
  rw [← view_listen, received_view]

variable {messages : List (ReaderMessage Double)} {reader left : Reader Double} {buffer bytes line : List UInt8}
  {byte : UInt8}

/-! ## Throws -/

theorem lineStep_throws (thrown : Reader.lineStep format messages buffer byte = .error left) :
    byte = 10 ∧ (∃ error, readLine format (buffer ++ [10]) = .error error) ∧ left = ⟨messages, .line []⟩ := by
  unfold Reader.lineStep at thrown
  split at thrown
  · rename_i newline
    generalize said_eq : readLine format (buffer ++ [10]) = said at thrown
    obtain error | _ | ⟨value, _ | length⟩ := said
    · cases thrown
      exact ⟨newline, ⟨error, rfl⟩, rfl⟩
    all_goals cases thrown
  · cases thrown

theorem byteStep_throws (thrown : Reader.byteStep format reader byte = .error left) :
    (∃ messages buffer, (reader.mode = .line buffer ∨ reader.mode = .binary 0 ∧ buffer = []) ∧ byte = 10 ∧
      (∃ error, readLine format (buffer ++ [10]) = .error error) ∧ left = ⟨messages, .line []⟩) ∨
    ∃ remaining < 0, reader.mode = .binary remaining ∧ left = reader := by
  obtain ⟨messages, buffer | remaining⟩ := reader
  · obtain ⟨newline, failed, rest⟩ := lineStep_throws thrown
    exact .inl ⟨messages, buffer, .inl rfl, newline, failed, rest⟩
  · simp only [Reader.byteStep] at thrown
    split at thrown
    · rename_i negative
      cases thrown
      exact .inr ⟨remaining, negative, rfl, rfl⟩
    · split at thrown
      · rename_i zero
        obtain ⟨newline, failed, rest⟩ := lineStep_throws thrown
        exact .inl ⟨_, [], .inr ⟨congrArg _ zero, rfl⟩, newline, failed, rest⟩
      · split at thrown <;> cases thrown

theorem readChunks_of_negative {remaining : Int} (negative : remaining < 0) (chunks : List (List UInt8)) :
    readChunks (Reader.byteStep format) ⟨messages, .binary remaining⟩ chunks = ⟨messages, .binary remaining⟩ := by
  refine readChunks_preserves (P := fun reader : Reader Double => reader = ⟨messages, .binary remaining⟩) ?_ ?_ chunks rfl
  · rintro _ byte next rfl stepped
    rw [Reader.byteStep_negative format _ _ negative] at stepped
    cases stepped
  · rintro _ byte left rfl thrown
    rw [Reader.byteStep_negative format _ _ negative] at thrown
    cases thrown
    rfl

/-! ## Where the reader is -/

def ReadSoFar (format : DoubleFormat Double) (done : List UInt8) (reader : Reader Double) : Prop :=
  match reader.mode with
  | .line buffer => ∃ good, done = good ++ buffer ∧ WellFormed format good ∧ 10 ∉ buffer
  | .binary remaining => 0 ≤ remaining → ∃ good line sent value length, done = good ++ (line ++ 10 :: sent) ∧
      WellFormed format good ∧ Means format line (some (value, some length)) ∧ length = sent.length + remaining

theorem readSoFar_lineStep {done : List UInt8} (before : WellFormed format done) (unfinished : 10 ∉ buffer)
    (stepped : Reader.lineStep format messages buffer byte = .ok reader) :
    ReadSoFar format (done ++ (buffer ++ [byte])) reader := by
  unfold Reader.lineStep at stepped
  split at stepped
  · rename_i newline
    subst newline
    generalize said_eq : readLine format (buffer ++ [10]) = said at stepped
    obtain error | _ | ⟨value, _ | length⟩ := said
    · cases stepped
    · cases stepped
      exact ⟨_, (List.append_nil _).symm, .ignored before ⟨unfinished, said_eq⟩, List.not_mem_nil⟩
    · cases stepped
      exact ⟨_, (List.append_nil _).symm, .message before ⟨unfinished, said_eq⟩, List.not_mem_nil⟩
    · cases stepped
      exact fun _ => ⟨done, buffer, [], value, length, rfl, before, ⟨unfinished, said_eq⟩, by simp⟩
  · rename_i other
    cases stepped
    exact ⟨done, rfl, before, by simp [unfinished, Ne.symm other]⟩

theorem readSoFar_byteStep {done : List UInt8} {next : Reader Double} (sofar : ReadSoFar format done reader)
    (stepped : Reader.byteStep format reader byte = .ok next) : ReadSoFar format (done ++ [byte]) next := by
  obtain ⟨messages, buffer | remaining⟩ := reader
  · obtain ⟨good, rfl, before, unfinished⟩ := sofar
    rw [List.append_assoc]
    exact readSoFar_lineStep before unfinished stepped
  · simp only [Reader.byteStep] at stepped
    split at stepped
    · cases stepped
    · rename_i nonnegative
      obtain ⟨good, line, sent, value, length, rfl, before, decoded, total⟩ := sofar (not_lt.mp nonnegative)
      split at stepped
      · -- all bytes of the binary were read
        rename_i zero
        rw [zero, Int.add_zero] at total
        rw [total] at decoded
        exact readSoFar_lineStep (.binary before decoded) List.not_mem_nil stepped
      · have more : good ++ (line ++ 10 :: sent) ++ [byte] = good ++ (line ++ 10 :: (sent ++ [byte])) := by simp
        split at stepped
        · rename_i one
          have whole : length = ((sent ++ [byte]).length : Int) := by simp [total, one]
          rw [whole] at decoded
          cases stepped
          exact ⟨_, (List.append_nil _).symm, more ▸ .binary before decoded, List.not_mem_nil⟩
        · cases stepped
          refine fun _ => ⟨good, line, sent ++ [byte], value, length, more, before, decoded, ?_⟩
          rw [List.length_append, List.length_singleton]
          omega

theorem readSoFar_of_read (read : bytes.foldlM (Reader.byteStep format) Reader.initial = .ok reader) :
    ReadSoFar format bytes reader := by
  have start : ReadSoFar format [] Reader.initial := ⟨[], rfl, .nil, List.not_mem_nil⟩
  exact foldlM_preserves (fun _ _ _ _ _ sofar stepped => readSoFar_byteStep sofar stepped) start read

def Between (reader : Reader Double) : Prop := reader.mode = .line [] ∨ reader.mode = .binary 0

variable (format) in
theorem byteStep_between (between : Between reader) :
    ∃ messages, ∀ byte, Reader.byteStep format reader byte = Reader.lineStep format messages [] byte := by
  obtain ⟨messages, mode⟩ := reader
  obtain line | binary := between
  · exact ⟨messages, fun byte => by rw [show mode = .line [] from line]; rfl⟩
  · exact ⟨modifyLast .close messages, fun byte => by rw [show mode = .binary 0 from binary]; rfl⟩

variable (format) in
theorem read_to_newline (between : Between reader) (unfinished : 10 ∉ line) :
    ∃ messages reader', line.foldlM (Reader.byteStep format) reader = .ok reader' ∧
      Reader.byteStep format reader' 10 = Reader.lineStep format messages line 10 := by
  obtain ⟨messages, first⟩ := byteStep_between format between
  cases line with
  | nil => exact ⟨messages, reader, rfl, first 10⟩
  | cons byte line =>
    have read : (byte :: line).foldlM (Reader.byteStep format) ⟨messages, .line []⟩ =
        .ok ⟨messages, .line ([] ++ byte :: line)⟩ := read_line unfinished
    rw [List.foldlM_cons, Reader.byteStep_line, ← first, ← List.foldlM_cons] at read
    exact ⟨messages, _, read, rfl⟩

theorem read_whole_line (between : Between reader) (unfinished : 10 ∉ line) :
    ∃ messages, (line ++ [10]).foldlM (Reader.byteStep format) reader = Reader.lineStep format messages line 10 := by
  obtain ⟨messages, reader', read, newline⟩ := read_to_newline format between unfinished
  refine ⟨messages, ?_⟩
  rw [List.foldlM_append, read, ok_bind, List.foldlM_cons, newline]
  exact bind_pure _

theorem WellFormed.read (wellFormed : WellFormed format bytes) :
    ∃ reader, bytes.foldlM (Reader.byteStep format) Reader.initial = .ok reader ∧ Between reader := by
  induction wellFormed with
  | nil => exact ⟨_, rfl, .inl rfl⟩
  | ignored before decoded ih | message before decoded ih =>
    obtain ⟨reader, read, between⟩ := ih
    obtain ⟨messages, line⟩ := read_whole_line between decoded.1
    rw [Reader.lineStep, if_pos rfl, decoded.2] at line
    exact ⟨_, by rw [List.foldlM_append, read]; exact line, .inl rfl⟩
  | @binary good _ sent value before decoded ih =>
    obtain ⟨reader, read, between⟩ := ih
    obtain ⟨messages, line⟩ := read_whole_line between decoded.1
    rw [Reader.lineStep, if_pos rfl, decoded.2] at line
    rw [List.append_cons, List.foldlM_append, read, ok_bind, List.foldlM_append, line]
    by_cases empty : sent = []
    · subst empty
      exact ⟨_, rfl, .inr rfl⟩
    · exact ⟨_, read_whole_binary empty, .inl rfl⟩

/-! ## What is left behind a throw -/

variable {rest : List UInt8}

theorem HasMessage.of_suffix (suffix : rest <:+ bytes) (has : HasMessage format rest) : HasMessage format bytes := by
  obtain ⟨start, rfl⟩ := suffix
  obtain ⟨before, line, after, message, rfl, decoded⟩ := has
  exact ⟨start ++ before, line, after, message, (List.append_assoc ..).symm, decoded⟩

/-- Behind some bytes of a line, nothing is received. -/
def Silent (format : DoubleFormat Double) (messages : List (ReaderMessage Double)) (rest : List UInt8)
    (reader : Reader Double) : Prop :=
  ∃ buffer, reader = ⟨messages, .line buffer⟩ ∧ 10 ∉ buffer ∧ ¬ HasMessage format (buffer ++ rest)

theorem silent_readChunk (silent : Silent format messages (bytes ++ rest) reader) :
    Silent format messages rest (readChunk (Reader.byteStep format) reader bytes) := by
  induction bytes generalizing reader with
  | nil => exact silent
  | cons byte bytes ih =>
    obtain ⟨buffer, rfl, unfinished, none_there⟩ := silent
    have later : ¬ HasMessage format (bytes ++ rest) := fun has =>
      none_there (has.of_suffix ⟨buffer ++ [byte], by simp⟩)
    have last : ¬ HasMessage format rest := fun has => later (has.of_suffix ⟨bytes, rfl⟩)
    by_cases newline : byte = 10
    · subst newline
      cases decoded : readLine format (buffer ++ [10]) with
      | error error =>
        have thrown : Reader.byteStep format ⟨messages, .line buffer⟩ 10 = .error ⟨messages, .line []⟩ := by
          rw [Reader.byteStep_line, Reader.lineStep, if_pos rfl, decoded]
        rw [readChunk_cons_of_throw thrown]
        exact ⟨[], rfl, List.not_mem_nil, last⟩
      | ok message =>
        cases message with
        | none =>
          have stepped : Reader.byteStep format ⟨messages, .line buffer⟩ 10 = .ok ⟨messages, .line []⟩ := by
            rw [Reader.byteStep_line, Reader.lineStep, if_pos rfl, decoded]
          rw [readChunk_cons_of_ok stepped]
          exact ih ⟨[], rfl, List.not_mem_nil, later⟩
        | some message =>
          exact absurd ⟨[], buffer, bytes ++ rest, message, rfl, unfinished, decoded⟩ none_there
    · have stepped : Reader.byteStep format ⟨messages, .line buffer⟩ byte = .ok ⟨messages, .line (buffer ++ [byte])⟩ :=
        if_neg newline
      rw [readChunk_cons_of_ok stepped]
      refine ih ⟨buffer ++ [byte], rfl, by simp [unfinished, Ne.symm newline], ?_⟩
      rwa [List.append_assoc]

theorem silent_readChunks {chunks : List (List UInt8)} (silent : Silent format messages chunks.flatten reader) :
    Silent format messages [] (readChunks (Reader.byteStep format) reader chunks) := by
  induction chunks generalizing reader with
  | nil => exact silent
  | cons chunk chunks ih => exact ih (silent_readChunk silent)

theorem readChunks_of_silent (none_there : ¬ HasMessage format rest) {chunks : List (List UInt8)}
    (suffix : chunks.flatten <:+ rest) :
    (readChunks (Reader.byteStep format) ⟨messages, .line []⟩ chunks).messages = messages := by
  have silent : Silent format messages chunks.flatten ⟨messages, .line []⟩ :=
    ⟨[], rfl, List.not_mem_nil, fun has => none_there (has.of_suffix suffix)⟩
  obtain ⟨buffer, read, -⟩ := silent_readChunks silent
  rw [read]

/-! ## Lost messages -/

theorem length_le_byteStep {messages : List (ReaderMessage Double)} {mode : ReaderMode} {reader : Reader Double}
    (stepped : Reader.byteStep format ⟨messages, mode⟩ byte = .ok reader ∨
      Reader.byteStep format ⟨messages, mode⟩ byte = .error reader) : messages.length ≤ reader.messages.length := by
  have line (messages : List (ReaderMessage Double)) (buffer : List UInt8)
      (stepped : Reader.lineStep format messages buffer byte = .ok reader ∨
        Reader.lineStep format messages buffer byte = .error reader) : messages.length ≤ reader.messages.length := by
    unfold Reader.lineStep at stepped
    split at stepped
    · generalize readLine format (buffer ++ [10]) = decoded at stepped
      obtain error | _ | ⟨value, _ | length⟩ := decoded <;> obtain stepped | stepped := stepped <;> cases stepped <;> simp
    · obtain stepped | stepped := stepped <;> cases stepped
      exact le_rfl
  obtain buffer | remaining := mode
  · exact line messages buffer stepped
  · simp only [Reader.byteStep] at stepped
    split at stepped
    · obtain stepped | stepped := stepped <;> cases stepped
      exact le_rfl
    · split at stepped
      · rw [← length_modifyLast .close]
        exact line _ [] stepped
      · split at stepped <;> obtain stepped | stepped := stepped <;> cases stepped <;> simp

theorem length_le_readChunks (chunks : List (List UInt8)) :
    reader.messages.length ≤ (readChunks (Reader.byteStep format) reader chunks).messages.length :=
  readChunks_preserves (P := fun next : Reader Double => reader.messages.length ≤ next.messages.length)
    (fun _ _ _ sofar stepped => sofar.trans (length_le_byteStep (.inl stepped)))
    (fun _ _ _ sofar thrown => sofar.trans (length_le_byteStep (.inr thrown))) chunks le_rfl

theorem length_lt_of_means {message : List (Utf16 × Json Double) × Option Int}
    (decoded : Means format line (some message)) (after : List UInt8) :
    messages.length < (readChunk (Reader.byteStep format) ⟨messages, .line []⟩ (line ++ 10 :: after)).messages.length := by
  obtain ⟨value, binary⟩ := message
  obtain ⟨next, stepped, longer⟩ : ∃ next, Reader.byteStep format ⟨messages, .line line⟩ 10 = .ok next ∧
      messages.length < next.messages.length := by
    rw [Reader.byteStep_line, Reader.lineStep, if_pos rfl, decoded.2]
    cases binary <;> exact ⟨_, rfl, by simp⟩
  rw [readChunk_append_of_ok (read_line decoded.1), List.nil_append, readChunk_cons_of_ok stepped]
  exact longer.trans_le (length_le_readChunks [after])

theorem malformed_visible {bytes : List UInt8} (malformed : MalformedBeforeMessage format bytes) :
    ¬ ChunkingInvisible format bytes := by
  obtain ⟨good, line, rest, rfl, wellFormed, ⟨unfinished, error, failed⟩, before, line', after, message, rfl, decoded⟩ :=
    malformed
  obtain ⟨reader, read, between⟩ := wellFormed.read
  obtain ⟨messages, reader', read', newline⟩ := read_to_newline format between unfinished
  have read_all : (good ++ line).foldlM (Reader.byteStep format) Reader.initial = .ok reader' := by
    rw [List.foldlM_append, read]
    exact read'
  have thrown : Reader.byteStep format reader' 10 = .error ⟨messages, .line []⟩ := by
    rw [newline, Reader.lineStep, if_pos rfl, failed]
  -- all that is left is in the chunk of the malformed line, or the message is in the next one
  have lost := readChunks_lose read_all thrown (before ++ (line' ++ 10 :: after)) []
  have kept := readChunks_lose read_all thrown before [line' ++ 10 :: after]
  intro invisible
  have same := invisible [good ++ line ++ 10 :: (before ++ (line' ++ 10 :: after))]
    [good ++ line ++ 10 :: before, line' ++ 10 :: after] (by simp) (by simp)
  rw [received_listen, received_listen, lost, kept, readChunks_nil, readChunks_cons, readChunks_nil] at same
  have lengths := congrArg List.length same
  rw [Reader.received, Reader.received, List.length_map, List.length_map] at lengths
  exact absurd lengths (Nat.ne_of_lt (length_lt_of_means decoded after))

theorem chunkingInvisible_of_not {bytes : List UInt8} (never : ¬ MalformedBeforeMessage format bytes) :
    ChunkingInvisible format bytes := by
  suffices fixed : ∃ received, ∀ chunks : List (List UInt8), chunks.flatten = bytes →
      (readChunks (Reader.byteStep format) Reader.initial chunks).received = received by
    obtain ⟨received, same⟩ := fixed
    intro chunks chunks' cut cut'
    rw [received_listen, received_listen, same chunks cut, same chunks' cut']
  obtain ⟨reader, read⟩ | ⟨good, byte, rest, reader, left, rfl, read, thrown⟩ :=
    read_cases (Reader.byteStep format) Reader.initial bytes
  · exact ⟨reader.received, fun chunks cut => by rw [readChunks_of_ok (cut ▸ read)]⟩
  · refine ⟨left.received, fun chunks cut => ?_⟩
    obtain ⟨lost, later, rfl, same⟩ := readChunks_of_throw cut read thrown
    rw [same]
    have sofar := readSoFar_of_read read
    obtain ⟨messages, buffer, mode, rfl, failed, rfl⟩ | ⟨remaining, negative, mode, rfl⟩ := byteStep_throws thrown
    · -- the malformed line is behind what is well-formed
      obtain ⟨before, split, wellFormed, unfinished⟩ : ∃ before, good = before ++ buffer ∧ WellFormed format before ∧
          10 ∉ buffer := by
        obtain ⟨received, mode'⟩ := reader
        obtain line | ⟨zero, rfl⟩ := mode
        · obtain rfl : mode' = .line buffer := line
          exact sofar
        · obtain rfl : mode' = .binary 0 := zero
          obtain ⟨before, line, sent, value, length, rfl, wellFormed, decoded, total⟩ := sofar le_rfl
          rw [Int.add_zero] at total
          rw [total] at decoded
          exact ⟨_, (List.append_nil _).symm, .binary wellFormed decoded, List.not_mem_nil⟩
      have none_there : ¬ HasMessage format (lost ++ later.flatten) := fun has =>
        never ⟨before, buffer, _, by rw [split, List.append_assoc], wellFormed, ⟨unfinished, failed⟩, has⟩
      rw [Reader.received, Reader.received, readChunks_of_silent none_there ⟨lost, rfl⟩]
    · obtain ⟨messages, mode'⟩ := left
      obtain rfl : mode' = .binary remaining := mode
      rw [readChunks_of_negative negative]

/-- Chunking is invisible if and only if the first malformed line has no message behind it. -/
theorem chunkingInvisible_iff (bytes : List UInt8) :
    ChunkingInvisible format bytes ↔ ¬ MalformedBeforeMessage format bytes :=
  ⟨fun invisible malformed => malformed_visible malformed invisible, chunkingInvisible_of_not⟩

/-- `[{x}]` and `[{}]`: where both lines come in one chunk, the message is lost. -/
theorem not_chunkingInvisible_two_lines :
    ¬ ChunkingInvisible halfFormat [0x5B, 0x7B, 0x78, 0x7D, 0x5D, 10, 0x5B, 0x7B, 0x7D, 0x5D, 10] := by
  have malformed : IsMalformed halfFormat [0x5B, 0x7B, 0x78, 0x7D, 0x5D] := by
    have failed : (readLine halfFormat [0x5B, 0x7B, 0x78, 0x7D, 0x5D, 10]).isOk = false := by decide +kernel
    refine ⟨by decide, ?_⟩
    cases read : readLine halfFormat [0x5B, 0x7B, 0x78, 0x7D, 0x5D, 10] with
    | error error => exact ⟨error, read⟩
    | ok message =>
      rw [read] at failed
      cases failed
  have decoded : Means halfFormat [0x5B, 0x7B, 0x7D, 0x5D] (some ([], none)) := ⟨by decide, rfl⟩
  exact malformed_visible ⟨[], _, _, rfl, .nil, malformed, [], _, [], _, rfl, decoded⟩

end FlutterZero.FlutterTools
