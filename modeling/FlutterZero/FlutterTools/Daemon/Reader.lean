import FlutterZero.FlutterTools.Daemon.Framing
import FlutterZero.Lib.Chunks

/-! # The converter byte by byte

What `_processChunk` throws leaves the listener of the input stream: what is left of the chunk is
not processed, and the next chunk is, from the state in which the throw left the converter.

At the ends of chunks the converter (`onData`) is where a reader is that takes one byte after
another (`byteStep`), and that closes a binary stream without bytes only when another byte comes.
-/

namespace FlutterZero.FlutterTools

open FlutterZero.Lib

variable {Double : Type} (format : DoubleFormat Double)

def readLine (line : List UInt8) : Except DaemonError (Option (List (Utf16 × Json Double) × Option Int)) := do
  let decoded ← utf8Decode line
  let jsonString := trim decoded
  if units ['[', '{'] <+: jsonString ∧ units ['}', ']'] <:+ jsonString then
    match Json.decode format ((jsonString.drop 1).take (jsonString.length - 2)) with
    | none => .error .format
    | some json =>
      match ← castStringKeyedMap json with
      | none => return none
      | some value =>
        match value.lookup binaryLengthKey with
        | none | some .null => return some (value, none)
        | some (.int length) => return some (value, some length.toInt)
        | some _ => .error .type
  else return none

namespace DaemonInputStreamConverter

variable {converter converter' : DaemonInputStreamConverter Double}

def accept (converter : DaemonInputStreamConverter Double) :
    Option (List (Utf16 × Json Double) × Option Int) → DaemonInputStreamConverter Double
  | none => converter
  | some (value, none) => { converter with messages := converter.messages ++ [⟨value, none⟩] }
  | some (value, some length) =>
    { converter with
      remainingBinaryLength := length
      currentBinaryStream := some converter.messages.length
      state := .binary
      messages := converter.messages ++ [⟨value, some ⟨[], false⟩⟩] }

theorem processLine_eq (line : List UInt8) (converter : DaemonInputStreamConverter Double) :
    processLine format line converter = (readLine format line).map converter.accept := by
  unfold processLine readLine
  cases utf8Decode line with
  | error error => rfl
  | ok decoded =>
    dsimp only [ok_bind]
    split
    · cases Json.decode format (((trim decoded).drop 1).take ((trim decoded).length - 2)) with
      | none => rfl
      | some json =>
        dsimp only
        cases castStringKeyedMap json with
        | error error => rfl
        | ok value =>
          cases value with
          | none => rfl
          | some value =>
            simp only [ok_bind, addMessage]
            generalize value.lookup binaryLengthKey = length
            cases length with
            | none => rfl
            | some json => cases json <;> rfl
    · rfl

/-! ## What is thrown -/

/-- The line was taken out of the buffer before it was decoded; a range that does not exist is found
    before anything is sent. -/
def leftByThrow (converter : DaemonInputStreamConverter Double) : DaemonInputStreamConverter Double :=
  match converter.state with
  | .json => { converter with bytesBuilder := [] }
  | .binary => converter

/-- The loop of `_processChunk`, and what is thrown. -/
def onDataFrom (chunk : List UInt8) (start : Nat) (converter : DaemonInputStreamConverter Double) :
    DaemonInputStreamConverter Double × Option DaemonError :=
  if _inside : start < chunk.length then
    match _ran : processRound format chunk start converter with
    | .error error => (converter.leftByThrow, some error)
    | .ok (processed, converter') => onDataFrom chunk (start + processed) converter'
  else (converter, none)
termination_by 2 * (chunk.length - start) + if converter.state = .binary then 1 else 0
decreasing_by
  rcases processRound_progress format _inside _ran with positive | ⟨before, after⟩
  · split <;> split <;> omega
  · rw [if_pos before, after, if_neg (by decide)]
    omega

def onData (converter : DaemonInputStreamConverter Double) (chunk : List UInt8) : DaemonInputStreamConverter Double :=
  (onDataFrom format chunk 0 converter).1

def listen (chunks : List (List UInt8)) : DaemonInputStreamConverter Double := chunks.foldl (onData format) initial

end DaemonInputStreamConverter

/-! ## The reader -/

structure ReceivedStream where
  bytes : List UInt8
  closed : Bool
deriving DecidableEq, Repr

namespace ReceivedStream

def append (more : List UInt8) (stream : ReceivedStream) : ReceivedStream := ⟨stream.bytes ++ more, stream.closed⟩

def close (stream : ReceivedStream) : ReceivedStream := ⟨stream.bytes, true⟩

end ReceivedStream

/-- A message as a receiver sees it: the chunks of the binary make no difference. -/
abbrev ReaderMessage (Double : Type) : Type := List (Utf16 × Json Double) × Option ReceivedStream

/-- A line of which the given bytes were read, or a binary of which as many bytes are missing. -/
inductive ReaderMode where
  | line (buffer : List UInt8)
  | binary (remaining : Int)
deriving DecidableEq, Repr

structure Reader (Double : Type) where
  messages : List (ReaderMessage Double)
  mode : ReaderMode

def modifyLast (change : ReceivedStream → ReceivedStream) (messages : List (ReaderMessage Double)) :
    List (ReaderMessage Double) :=
  messages.modify (messages.length - 1) fun message => (message.1, message.2.map change)

namespace Reader

def initial : Reader Double := ⟨[], .line []⟩

def lineStep (messages : List (ReaderMessage Double)) (buffer : List UInt8) (byte : UInt8) :
    Except (Reader Double) (Reader Double) :=
  if byte = 10 then
    match readLine format (buffer ++ [10]) with
    | .error _ => .error ⟨messages, .line []⟩
    | .ok none => .ok ⟨messages, .line []⟩
    | .ok (some (value, none)) => .ok ⟨messages ++ [(value, none)], .line []⟩
    | .ok (some (value, some length)) => .ok ⟨messages ++ [(value, some ⟨[], false⟩)], .binary length⟩
  else .ok ⟨messages, .line (buffer ++ [byte])⟩

/-- One byte.  A negative length is never read off. -/
def byteStep (reader : Reader Double) (byte : UInt8) : Except (Reader Double) (Reader Double) :=
  match reader.mode with
  | .line buffer => lineStep format reader.messages buffer byte
  | .binary remaining =>
    if remaining < 0 then .error reader
    else if remaining = 0 then lineStep format (modifyLast .close reader.messages) [] byte
    else if remaining = 1 then
      .ok ⟨modifyLast .close (modifyLast (.append [byte]) reader.messages), .line []⟩
    else .ok ⟨modifyLast (.append [byte]) reader.messages, .binary (remaining - 1)⟩

variable (messages : List (ReaderMessage Double)) (byte : UInt8)

theorem byteStep_line (buffer : List UInt8) :
    byteStep format ⟨messages, .line buffer⟩ byte = lineStep format messages buffer byte := rfl

theorem byteStep_negative {remaining : Int} (negative : remaining < 0) :
    byteStep format ⟨messages, .binary remaining⟩ byte = .error ⟨messages, .binary remaining⟩ := if_pos negative

theorem byteStep_zero : byteStep format ⟨messages, .binary 0⟩ byte =
    byteStep format ⟨modifyLast .close messages, .line []⟩ byte := rfl

end Reader

/-! ## A chunk, byte by byte -/

section

variable {format} {messages : List (ReaderMessage Double)} {buffer bytes : List UInt8}

@[simp] theorem length_modifyLast (change : ReceivedStream → ReceivedStream) :
    (modifyLast change messages).length = messages.length := List.length_modify ..

theorem modifyLast_concat (change : ReceivedStream → ReceivedStream) (message : ReaderMessage Double) :
    modifyLast change (messages ++ [message]) = messages ++ [(message.1, message.2.map change)] := by
  have last : (messages ++ [message]).length - 1 = messages.length := by simp
  rw [modifyLast, last, modify_length_append]

theorem modifyLast_modifyLast (first second : ReceivedStream → ReceivedStream) :
    modifyLast second (modifyLast first messages) = modifyLast (second ∘ first) messages := by
  rw [modifyLast, length_modifyLast, modifyLast, List.modify_modify_eq, modifyLast]
  congr 1
  funext message
  simp

theorem modifyLast_append_nil : modifyLast (.append []) messages = messages := by
  have same : (fun message : ReaderMessage Double => (message.1, message.2.map (ReceivedStream.append []))) = id := by
    funext message
    have unchanged : ReceivedStream.append [] = id := by
      funext stream
      simp [ReceivedStream.append]
    simp [unchanged]
  rw [modifyLast, same, List.modify_id]

theorem append_comp (first second : List UInt8) :
    ReceivedStream.append second ∘ ReceivedStream.append first = ReceivedStream.append (first ++ second) := by
  funext stream
  simp [ReceivedStream.append]

theorem read_line (unfinished : 10 ∉ bytes) :
    bytes.foldlM (Reader.byteStep format) ⟨messages, .line buffer⟩ = .ok ⟨messages, .line (buffer ++ bytes)⟩ := by
  induction bytes generalizing buffer with
  | nil => simp
  | cons byte bytes ih =>
    rw [List.mem_cons, not_or] at unfinished
    have stepped : Reader.byteStep format ⟨messages, .line buffer⟩ byte = .ok ⟨messages, .line (buffer ++ [byte])⟩ :=
      if_neg (Ne.symm unfinished.1)
    rw [List.foldlM_cons, stepped, ok_bind, ih unfinished.2, List.append_assoc, List.singleton_append]

theorem read_binary {remaining : Int} (less : bytes.length < remaining) :
    bytes.foldlM (Reader.byteStep format) ⟨messages, .binary remaining⟩ =
      .ok ⟨modifyLast (.append bytes) messages, .binary (remaining - bytes.length)⟩ := by
  induction bytes generalizing messages remaining with
  | nil => simp [modifyLast_append_nil]
  | cons byte bytes ih =>
    rw [List.length_cons, Nat.cast_succ] at less
    have stepped : Reader.byteStep format ⟨messages, .binary remaining⟩ byte =
        .ok ⟨modifyLast (.append [byte]) messages, .binary (remaining - 1)⟩ := by
      simp only [Reader.byteStep]
      rw [if_neg (by omega), if_neg (by omega), if_neg (by omega)]
    rw [List.foldlM_cons, stepped, ok_bind, ih (by omega), modifyLast_modifyLast, append_comp, List.singleton_append,
      List.length_cons, Nat.cast_succ, Int.sub_sub, Int.add_comm 1]

theorem read_whole_binary (nonempty : bytes ≠ []) :
    bytes.foldlM (Reader.byteStep format) ⟨messages, .binary bytes.length⟩ =
      .ok ⟨modifyLast .close (modifyLast (.append bytes) messages), .line []⟩ := by
  obtain ⟨start, last, rfl⟩ : ∃ start last, bytes = start ++ [last] :=
    ⟨bytes.dropLast, bytes.getLast nonempty, (List.dropLast_append_getLast nonempty).symm⟩
  have length : ((start ++ [last]).length : Int) = start.length + 1 := by simp
  have final (messages : List (ReaderMessage Double)) : Reader.byteStep format ⟨messages, .binary 1⟩ last =
      .ok ⟨modifyLast .close (modifyLast (.append [last]) messages), .line []⟩ := rfl
  have joined : modifyLast (.append [last]) (modifyLast (.append start) messages) =
      modifyLast (.append (start ++ [last])) messages := by rw [modifyLast_modifyLast, append_comp]
  rw [length, List.foldlM_append, read_binary (by omega), ok_bind, add_sub_cancel_left, List.foldlM_cons, final,
    ok_bind, joined]
  rfl

end

/-! ## The converter is the reader -/

def DaemonMessage.view (message : DaemonMessage Double) : ReaderMessage Double :=
  (message.data, message.binary.map fun stream => ⟨stream.chunks.flatten, stream.closed⟩)

namespace DaemonInputStreamConverter

def view (converter : DaemonInputStreamConverter Double) : Reader Double :=
  ⟨converter.messages.map DaemonMessage.view,
    match converter.state with
    | .json => .line converter.bytesBuilder
    | .binary => .binary converter.remainingBinaryLength⟩

/-- A binary that is being transferred is that of the last message. -/
def Current (converter : DaemonInputStreamConverter Double) : Prop :=
  converter.state = .binary →
    converter.bytesBuilder = [] ∧ converter.currentBinaryStream = some (converter.messages.length - 1)

variable {format} {chunk : List UInt8} {start : Nat} {converter : DaemonInputStreamConverter Double}

def RoundReads (format : DoubleFormat Double) (chunk : List UInt8) (start : Nat)
    (converter : DaemonInputStreamConverter Double) :
    Except DaemonError (Nat × DaemonInputStreamConverter Double) → Prop
  | .error _ => readChunk (Reader.byteStep format) converter.view (chunk.drop start) = converter.leftByThrow.view
  | .ok (processed, converter') => Current converter' ∧
      readChunk (Reader.byteStep format) converter.view (chunk.drop start) =
        readChunk (Reader.byteStep format) converter'.view (chunk.drop (start + processed))

theorem map_modify_view (messages : List (DaemonMessage Double)) {change : BinaryStream → BinaryStream}
    {change' : ReceivedStream → ReceivedStream}
    (agrees : ∀ stream : BinaryStream, (⟨(change stream).chunks.flatten, (change stream).closed⟩ : ReceivedStream) =
      change' ⟨stream.chunks.flatten, stream.closed⟩) :
    (messages.modify (messages.length - 1) fun message => { message with binary := message.binary.map change }).map
        DaemonMessage.view = modifyLast change' (messages.map DaemonMessage.view) := by
  apply List.ext_getElem?
  intro index
  simp only [modifyLast, List.length_map, List.getElem?_map, List.getElem?_modify]
  cases messages[index]? with
  | none => rfl
  | some message =>
    by_cases last : messages.length - 1 = index
    · simp [last, DaemonMessage.view, Function.comp_def, agrees]
    · simp [last]

theorem agrees_add (bytes : List UInt8) (stream : BinaryStream) :
    (⟨(addToBinaryStream bytes stream).chunks.flatten, (addToBinaryStream bytes stream).closed⟩ : ReceivedStream) =
      ReceivedStream.append bytes ⟨stream.chunks.flatten, stream.closed⟩ := by
  simp [addToBinaryStream, ReceivedStream.append]

theorem lineStep_newline (converter : DaemonInputStreamConverter Double) (mode : converter.state = .json)
    (empty : converter.bytesBuilder = []) (buffer : List UInt8) :
    Reader.lineStep format (converter.messages.map DaemonMessage.view) buffer 10 =
      match readLine format (buffer ++ [10]) with
      | .error _ => .error converter.view
      | .ok message => .ok (converter.accept message).view := by
  rw [Reader.lineStep, if_pos rfl]
  cases readLine format (buffer ++ [10]) with
  | error error => simp [view, mode, empty]
  | ok message =>
    obtain _ | ⟨value, _ | length⟩ := message
    · simp [view, accept, mode, empty]
    · simp [view, accept, mode, empty, DaemonMessage.view]
    · simp [view, accept, DaemonMessage.view]

theorem current_accept (converter : DaemonInputStreamConverter Double) (mode : converter.state = .json)
    (empty : converter.bytesBuilder = []) (message : Option (List (Utf16 × Json Double) × Option Int)) :
    Current (converter.accept message) := by
  intro binary
  obtain _ | ⟨value, _ | length⟩ := message
  · rw [accept, mode] at binary
    cases binary
  · simp only [accept, mode] at binary
    cases binary
  · simp [accept, empty]

theorem processChunkInJsonMode_reads (mode : converter.state = .json) :
    RoundReads format chunk start converter (processChunkInJsonMode format chunk start converter) := by
  have viewed : converter.view = ⟨converter.messages.map DaemonMessage.view, .line converter.bytesBuilder⟩ := by
    rw [view, mode]
  unfold processChunkInJsonMode
  cases newline : (chunk.drop start).findIdx? (· == 10) with
  | none =>
    have unfinished : 10 ∉ chunk.drop start := by
      intro member
      have := List.findIdx?_eq_none_iff.mp newline 10 member
      simp at this
    have ends : chunk.drop (start + (chunk.length - start)) = [] := List.drop_of_length_le (by omega)
    refine ⟨fun binary => ?_, ?_⟩
    · rw [mode] at binary
      cases binary
    · rw [ends, viewed, readChunk_of_ok (read_line unfinished), readChunk_nil, view, mode]
  | some offset =>
    obtain ⟨bound, found, earlier⟩ := List.findIdx?_eq_some_iff_getElem.mp newline
    have at_offset : (chunk.drop start)[offset] = 10 := by simpa using found
    have split : chunk.drop start = (chunk.drop start).take offset ++ 10 :: chunk.drop (start + (offset + 1)) := by
      rw [← List.drop_drop, ← at_offset, ← List.drop_eq_getElem_cons bound, List.take_append_drop]
    have unfinished : 10 ∉ (chunk.drop start).take offset := by
      intro member
      obtain ⟨index, inside, equal⟩ := List.mem_take_iff_getElem.mp member
      have := earlier index (by omega)
      simp [equal] at this
    have line : converter.bytesBuilder ++ (chunk.drop start).take (offset + 1) =
        converter.bytesBuilder ++ (chunk.drop start).take offset ++ [10] := by
      rw [List.take_succ_eq_append_getElem bound, at_offset, List.append_assoc]
    have stepped : Reader.byteStep format ⟨converter.messages.map DaemonMessage.view,
        .line (converter.bytesBuilder ++ (chunk.drop start).take offset)⟩ 10 = _ :=
      lineStep_newline { converter with bytesBuilder := [] } mode rfl _
    simp only [line, processLine_eq]
    cases said : readLine format (converter.bytesBuilder ++ (chunk.drop start).take offset ++ [10]) with
    | error error =>
      rw [said] at stepped
      show readChunk (Reader.byteStep format) converter.view (chunk.drop start) = converter.leftByThrow.view
      rw [viewed, split, readChunk_append_of_ok (read_line unfinished), readChunk_cons_of_throw stepped, leftByThrow,
        mode]
    | ok message =>
      rw [said] at stepped
      refine ⟨current_accept { converter with bytesBuilder := [] } mode rfl message, ?_⟩
      rw [viewed, split, readChunk_append_of_ok (read_line unfinished), readChunk_cons_of_ok stepped]

theorem processChunkInBinaryMode_of_negative (inside : start < chunk.length)
    (negative : converter.remainingBinaryLength < 0) :
    converter.processChunkInBinaryMode chunk start = .error .range := by
  have missing : sublist chunk start (start + converter.remainingBinaryLength) = .error .range := if_neg (by omega)
  rw [processChunkInBinaryMode, addBinaryChunk, if_neg (by omega)]
  dsimp only
  rw [if_neg (by omega), missing]
  rfl

theorem processChunkInBinaryMode_reads (inside : start < chunk.length) (mode : converter.state = .binary)
    (current : Current converter) :
    RoundReads format chunk start converter (converter.processChunkInBinaryMode chunk start) := by
  obtain ⟨empty, index⟩ := current mode
  have viewed : converter.view =
      ⟨converter.messages.map DaemonMessage.view, .binary converter.remainingBinaryLength⟩ := by rw [view, mode]
  have first : chunk.drop start = chunk[start] :: chunk.drop (start + 1) := List.drop_eq_getElem_cons inside
  by_cases negative : converter.remainingBinaryLength < 0
  · have thrown : Reader.byteStep format converter.view chunk[start] = .error converter.view := by
      rw [viewed, Reader.byteStep_negative format _ _ negative]
    rw [processChunkInBinaryMode_of_negative inside negative]
    show readChunk (Reader.byteStep format) converter.view (chunk.drop start) = converter.leftByThrow.view
    rw [first, readChunk_cons_of_throw thrown, leftByThrow, mode]
  · obtain ⟨left, remaining⟩ := Int.eq_ofNat_of_zero_le (not_lt.mp negative)
    rw [remaining] at viewed
    have added := addBinaryChunk_eq inside index remaining
    have split : chunk.drop start = (chunk.drop start).take (min (chunk.length - start) left) ++
        chunk.drop (start + min (chunk.length - start) left) := by
      rw [← List.drop_drop, List.take_append_drop]
    have length : ((chunk.drop start).take (min (chunk.length - start) left)).length =
        min (chunk.length - start) left := by
      rw [List.length_take, List.length_drop]
      omega
    generalize min_eq : min (chunk.length - start) left = sent at added split length
    generalize (chunk.drop start).take sent = bytes at added split length
    unfold processChunkInBinaryMode
    rw [added]
    simp only [ok_bind]
    by_cases finished : left ≤ chunk.length - start
    · obtain rfl : sent = left := by omega
      have closes (messages : List (DaemonMessage Double)) : (messages.modify (messages.length - 1) fun message =>
          { message with binary := message.binary.map fun stream => { stream with closed := true } }).map
            DaemonMessage.view = modifyLast .close (messages.map DaemonMessage.view) :=
        map_modify_view messages fun _ => rfl
      have closed := closes (converter.messages.modify (converter.messages.length - 1) fun message =>
        { message with binary := message.binary.map (addToBinaryStream bytes) })
      rw [map_modify_view converter.messages (agrees_add bytes), List.length_modify] at closed
      rw [if_pos (by omega), if_pos (by omega)]
      simp only [modifyBinaryStream, index, ok_bind]
      refine ⟨(fun binary => by cases binary), ?_⟩
      rw [viewed, view, closed, empty]
      by_cases none_left : bytes = []
      · -- a binary without bytes ends with the next byte
        obtain rfl : sent = 0 := by rw [← length, none_left]; rfl
        rw [none_left, modifyLast_append_nil, Nat.add_zero, first, readChunk, readChunk, Int.natCast_zero,
          Reader.byteStep_zero]
      · rw [split, ← length, readChunk_append_of_ok (read_whole_binary none_left), length]
    · have less : (bytes.length : Int) < left := by omega
      rw [if_neg (by omega)]
      refine ⟨fun _ => ⟨empty, by rw [List.length_modify]; exact index⟩, ?_⟩
      rw [viewed, view, map_modify_view converter.messages (agrees_add bytes), mode, split,
        readChunk_append_of_ok (read_binary less), length, remaining]

theorem processRound_reads (inside : start < chunk.length) (current : Current converter) :
    RoundReads format chunk start converter (processRound format chunk start converter) := by
  unfold processRound
  split
  · rename_i mode
    exact processChunkInJsonMode_reads mode
  · rename_i mode
    exact processChunkInBinaryMode_reads inside mode current

theorem current_leftByThrow (current : Current converter) : Current converter.leftByThrow := by
  unfold leftByThrow
  split
  · rename_i mode
    intro binary
    cases mode.symm.trans binary
  · exact current

theorem onDataFrom_reads (chunk : List UInt8) (start : Nat) (converter : DaemonInputStreamConverter Double)
    (current : Current converter) :
    Current (onDataFrom format chunk start converter).1 ∧ (onDataFrom format chunk start converter).1.view =
      readChunk (Reader.byteStep format) converter.view (chunk.drop start) := by
  fun_induction onDataFrom format chunk start converter with
  | case1 start converter inside error failed =>
    have reads : RoundReads format chunk start converter _ := processRound_reads inside current
    rw [failed] at reads
    exact ⟨current_leftByThrow current, reads.symm⟩
  | case2 start converter inside processed converter' ran ih =>
    have reads : RoundReads format chunk start converter _ := processRound_reads inside current
    rw [ran] at reads
    obtain ⟨current', same⟩ := reads
    rw [same]
    exact ih current'
  | case3 start converter outside =>
    rw [List.drop_of_length_le (not_lt.mp outside)]
    exact ⟨current, rfl⟩

theorem view_listen (chunks : List (List UInt8)) :
    (listen format chunks).view = readChunks (Reader.byteStep format) Reader.initial chunks := by
  suffices general : ∀ converter : DaemonInputStreamConverter Double, Current converter →
      (chunks.foldl (onData format) converter).view = readChunks (Reader.byteStep format) converter.view chunks from
    general initial nofun
  intro converter current
  induction chunks generalizing converter with
  | nil => rfl
  | cons chunk chunks ih =>
    obtain ⟨current', viewed⟩ : Current (onData format converter chunk) ∧ (onData format converter chunk).view =
        readChunk (Reader.byteStep format) converter.view (chunk.drop 0) := onDataFrom_reads chunk 0 converter current
    rw [List.drop_zero] at viewed
    rw [List.foldl_cons, readChunks_cons, ← viewed]
    exact ih _ current'

end DaemonInputStreamConverter

end FlutterZero.FlutterTools
