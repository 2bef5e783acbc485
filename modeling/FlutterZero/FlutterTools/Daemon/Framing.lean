import FlutterZero.Lib.AssociationLists
import FlutterZero.FlutterTools.Daemon
import FlutterZero.Lib.Json.RoundTrip

/-! # What is sent is received

The converter reads back what `send` wrote, however the bytes are cut into chunks, unless
there is a replacement character in a message: the decoder takes it for a malformed byte.
`Awaits` relates a converter in the middle of a stream to the bytes that are still
to come; every round of its loop keeps it, or exits.
-/

namespace FlutterZero.FlutterTools

open FlutterZero.Lib

variable {Double : Type}

/-- A message that may be sent: a JSON object without the reserved key, and a binary that a list can hold. -/
structure OutgoingMessage (format : DoubleFormat Double) where
  data : List (Utf16 × Json Double)
  binary : Option (List UInt8)
  distinct : (Json.object data).all Json.hasDistinctKeys = true
  finite : (Json.object data).all (Json.isFinite format) = true
  unreserved : binaryLengthKey ∉ data.map Prod.fst
  fits : ∀ bytes ∈ binary, bytes.length < 2 ^ 63

abbrev ReceivedMessage (Double : Type) : Type := List (Utf16 × Json Double) × Option (List UInt8)

def DaemonMessage.received (message : DaemonMessage Double) : ReceivedMessage Double :=
  (message.data, message.binary.map fun stream => stream.chunks.flatten)

def DaemonInputStreamConverter.received (converter : DaemonInputStreamConverter Double) :
    List (ReceivedMessage Double) :=
  converter.messages.map DaemonMessage.received

variable {format : DoubleFormat Double}

namespace OutgoingMessage

/-- The data with the added `_binaryLength`. -/
def entries (message : OutgoingMessage format) : List (Utf16 × Json Double) :=
  match message.binary with
  | none => message.data
  | some bytes => message.data ++ [(binaryLengthKey, .int (Int64.ofNat bytes.length))]

def received (message : OutgoingMessage format) : ReceivedMessage Double := (message.entries, message.binary)

/-- No string and no key, at any depth, has a replacement character in it. -/
def Legible (message : OutgoingMessage format) : Prop := (Json.object message.data).all (Json.lacks 0xFFFD) = true

instance (message : OutgoingMessage format) : Decidable message.Legible := inferInstanceAs (Decidable (_ = true))

end OutgoingMessage

def sendAll (format : DoubleFormat Double) (messages : List (OutgoingMessage format)) : Option (List (List UInt8)) :=
  (messages.mapM fun message => send format message.data message.binary).map List.flatten

/-! ## One message -/

def lineOf (text : Utf16) : List UInt8 := encodeUtf8 (0x5B :: (text ++ [0x5D, 0x0A]))

theorem allEntries_append (p : Json Double → Bool) (entries rest : List (Utf16 × Json Double)) :
    Json.allEntries p (entries ++ rest) = (Json.allEntries p entries && Json.allEntries p rest) := by
  induction entries with
  | nil => simp [Json.allEntries]
  | cons entry entries ih => simp [Json.allEntries, ih, Bool.and_assoc]

namespace OutgoingMessage

variable (message : OutgoingMessage format)

theorem entries_distinct : (Json.object message.entries).all Json.hasDistinctKeys = true := by
  have distinct := message.distinct
  unfold entries
  split
  · exact distinct
  · simp only [Json.all, Json.hasDistinctKeys, Bool.and_eq_true, decide_eq_true_eq, allEntries_append] at distinct ⊢
    refine ⟨?_, distinct.2, rfl⟩
    rw [List.map_append]
    refine List.nodup_append.mpr ⟨distinct.1, List.nodup_singleton _, ?_⟩
    intro key member key' last equal
    rw [List.map_cons, List.map_nil, List.mem_singleton] at last
    rw [equal, last] at member
    exact message.unreserved member

theorem entries_finite : (Json.object message.entries).all (Json.isFinite format) = true := by
  have finite := message.finite
  unfold entries
  split
  · exact finite
  · simp only [Json.all, Json.isFinite, Bool.true_and, allEntries_append, Bool.and_eq_true] at finite ⊢
    exact ⟨finite, rfl⟩

theorem entries_legible : (Json.object message.entries).all (Json.lacks 0xFFFD) = true ↔ message.Legible := by
  unfold Legible entries
  split
  · rfl
  · have key : 0xFFFD ∉ binaryLengthKey := by decide
    simp [Json.all, Json.lacks, allEntries_append, Json.allEntries, key]

theorem send_eq : ∃ text, (Json.object message.entries).encode format = some text ∧
    send format message.data message.binary = some (lineOf text :: message.binary.toList) := by
  obtain ⟨text, encoded⟩ := exists_encode_of_isFinite format message.entries_finite
  refine ⟨text, encoded, ?_⟩
  unfold entries at encoded
  unfold send
  cases binary : message.binary with
  | none =>
    rw [binary] at encoded
    simp only [encoded, Option.bind_eq_bind, Option.bind_some]
    rfl
  | some bytes =>
    rw [binary] at encoded
    simp only [insert_of_not_mem message.unreserved, encoded, Option.bind_eq_bind, Option.bind_some]
    rfl

end OutgoingMessage

theorem oneLine_brackets {text : Utf16} (line : OneLine text) : OneLine (0x5B :: (text ++ [0x5D])) :=
  .cons (by decide) (line.append (.cons (by decide) .nil))

theorem lineOf_eq {text : Utf16} (line : OneLine text) :
    ∃ body, lineOf text = body ++ [10] ∧ 10 ∉ body := by
  have brackets := oneLine_brackets line
  refine ⟨encodeUtf8 (0x5B :: (text ++ [0x5D])), ?_, fun member => ?_⟩
  · have split : 0x5B :: (text ++ [0x5D, 0x0A]) = 0x5B :: (text ++ [0x5D]) ++ [0x0A] := by simp
    have newline : encodeUtf8 [0x0A] = [10] := rfl
    rw [lineOf, split, encodeUtf8_append brackets.paired, newline]
  · exact brackets.no_newline (mem_of_mem_encodeUtf8 brackets.paired (by decide) member)

theorem trim_line (text : Utf16) :
    trim (0x5B :: (text ++ [0x5D, 0x0A])) = 0x5B :: (text ++ [0x5D]) := by
  have bracket : isWhitespaceUnit 0x5B = false := by decide
  have close : isWhitespaceUnit 0x5D = false := by decide
  have newline : isWhitespaceUnit 0x0A = true := by decide
  simp [trim, trimBy, bracket, close, newline]

theorem utf8Decode_lineOf {value : Json Double} {text : Utf16} (encoded : value.encode format = some text) :
    utf8Decode (lineOf text) =
      if value.all (Json.lacks 0xFFFD) = true then .ok (0x5B :: (text ++ [0x5D, 0x0A])) else .error .toolExit := by
  have line := oneLine_encode format encoded
  have decoded : decodeUtf8 (lineOf text) = some (0x5B :: (text ++ [0x5D, 0x0A])) := by
    refine decodeUtf8_encodeUtf8 (.unit (by decide) (line.paired.append ?_)) (by simp)
    exact .unit (by decide) (.unit (by decide) .nil)
  have plain : Unescaped 0xFFFD := ⟨by decide, by decide⟩
  have inside : 0xFFFD ∈ 0x5B :: (text ++ [0x5D, 0x0A]) ↔ ¬ value.all (Json.lacks 0xFFFD) = true := by
    rw [← not_mem_encode_iff format plain encoded]
    simp
  rw [utf8Decode, decoded]
  simp only [inside, ite_not]

namespace DaemonInputStreamConverter

theorem processLine_illegible {message : OutgoingMessage format} {text : Utf16}
    (encoded : (Json.object message.entries).encode format = some text) (illegible : ¬ message.Legible)
    (converter : DaemonInputStreamConverter Double) :
    processLine format (lineOf text) converter = .error .toolExit := by
  rw [processLine, utf8Decode_lineOf encoded, if_neg (mt message.entries_legible.mp illegible)]
  rfl

theorem processLine_lineOf {message : OutgoingMessage format} {text : Utf16}
    (encoded : (Json.object message.entries).encode format = some text) (legible : message.Legible)
    (converter : DaemonInputStreamConverter Double) :
    processLine format (lineOf text) converter = converter.addMessage message.entries := by
  have decoded := utf8Decode_lineOf encoded
  rw [if_pos (message.entries_legible.mpr legible)] at decoded
  obtain ⟨inner, -, closed⟩ := Option.bind_eq_some_iff.mp encoded
  have braces : text = 0x7B :: (inner ++ [0x7D]) := (Option.some.inj closed).symm
  have bracketed : units ['[', '{'] <+: 0x5B :: (text ++ [0x5D]) ∧ units ['}', ']'] <:+ 0x5B :: (text ++ [0x5D]) := by
    constructor
    · exact ⟨inner ++ [0x7D, 0x5D], by simp [braces, units]⟩
    · exact ⟨0x5B :: 0x7B :: inner, by simp [braces, units]⟩
  have object : ((0x5B :: (text ++ [0x5D])).drop 1).take ((0x5B :: (text ++ [0x5D])).length - 2) = text := by
    simp
  simp only [processLine, decoded, ok_bind, trim_line, if_pos bracketed, object,
    decode_encode format encoded message.entries_distinct]
  rfl

theorem addMessage_without_binary (message : OutgoingMessage format) (alone : message.binary = none)
    (converter : DaemonInputStreamConverter Double) :
    converter.addMessage message.entries =
      .ok { converter with messages := converter.messages ++ [⟨message.entries, none⟩] } := by
  have missing : message.entries.lookup binaryLengthKey = none := by
    rw [OutgoingMessage.entries, alone, ← List.append_nil message.data,
      lookup_append_of_not_mem message.unreserved]
    rfl
  rw [addMessage, missing]

variable {bytes : List UInt8}

theorem addMessage_with_binary (message : OutgoingMessage format)
    (some_bytes : message.binary = some bytes) (converter : DaemonInputStreamConverter Double) :
    converter.addMessage message.entries =
      .ok { converter with
        remainingBinaryLength := bytes.length
        currentBinaryStream := some converter.messages.length
        state := .binary
        messages := converter.messages ++ [⟨message.entries, some ⟨[], false⟩⟩] } := by
  have found : message.entries.lookup binaryLengthKey = some (.int (Int64.ofNat bytes.length)) := by
    rw [OutgoingMessage.entries, some_bytes]
    simp only
    rw [lookup_append_of_not_mem message.unreserved, List.lookup_cons, beq_self_eq_true]
  have length : (Int64.ofNat bytes.length).toInt = bytes.length :=
    Int64.toInt_ofNat_of_lt (message.fits bytes some_bytes)
  rw [addMessage, found]
  simp only [length]

/-! ## The bytes of a stream -/

inductive Frames : List (OutgoingMessage format) → List UInt8 → Prop where
  | nil : Frames [] []
  | cons {message : OutgoingMessage format} {messages : List (OutgoingMessage format)} {text : Utf16}
      {bytes : List UInt8} (encoded : (Json.object message.entries).encode format = some text)
      (tail : Frames messages bytes) :
      Frames (message :: messages) (lineOf text ++ (message.binary.getD [] ++ bytes))

/-- A converter in the middle of a stream, with `rest` still to come, that will have received `target` if
    all messages are legible. -/
inductive Awaits (format : DoubleFormat Double) (target : List (ReceivedMessage Double)) (allLegible : Prop)
    (converter : DaemonInputStreamConverter Double) (rest : List UInt8) : Prop where
  | json {pending : List (OutgoingMessage format)} (mode : converter.state = .json)
      (unfinished : 10 ∉ converter.bytesBuilder) (frames : Frames pending (converter.bytesBuilder ++ rest))
      (total : converter.received ++ pending.map OutgoingMessage.received = target)
      (readable : (∀ message ∈ pending, message.Legible) ↔ allLegible)
  | binary {pending : List (OutgoingMessage format)} {before : List (DaemonMessage Double)}
      {data : List (Utf16 × Json Double)} {stream : BinaryStream} {left bytes : List UInt8}
      (mode : converter.state = .binary) (empty : converter.bytesBuilder = [])
      (messages : converter.messages = before ++ [⟨data, some stream⟩])
      (current : converter.currentBinaryStream = some before.length)
      (remaining : converter.remainingBinaryLength = left.length) (frames : Frames pending bytes)
      (follows : rest = left ++ bytes)
      (total : before.map DaemonMessage.received ++ (data, some (stream.chunks.flatten ++ left)) ::
        pending.map OutgoingMessage.received = target)
      (readable : (∀ message ∈ pending, message.Legible) ↔ allLegible)

variable {rest : List UInt8}

theorem append_newline_inj {line line' rest' : List UInt8} (unfinished : 10 ∉ line) (unfinished' : 10 ∉ line')
    (equal : line ++ 10 :: rest = line' ++ 10 :: rest') : line = line' ∧ rest = rest' := by
  induction line generalizing line' with
  | nil =>
    cases line' with
    | nil => exact ⟨rfl, (List.cons.inj equal).2⟩
    | cons byte line' =>
      have first := (List.cons.inj equal).1
      exact absurd (first ▸ List.mem_cons_self ..) unfinished'
  | cons byte line ih =>
    cases line' with
    | nil =>
      have first := (List.cons.inj equal).1
      exact absurd (first ▸ List.mem_cons_self ..) unfinished
    | cons byte' line' =>
      obtain ⟨first, equal⟩ := List.cons.inj equal
      obtain ⟨rfl, rfl⟩ := ih (fun member => unfinished (List.mem_cons_of_mem _ member))
        (fun member => unfinished' (List.mem_cons_of_mem _ member)) equal
      exact ⟨congrArg (· :: line) first, rfl⟩

variable {pending : List (OutgoingMessage format)}

theorem Frames.split {line : List UInt8} (unfinished : 10 ∉ line) (frames : Frames pending (line ++ 10 :: rest)) :
    ∃ message messages text bytes, pending = message :: messages ∧
      (Json.object message.entries).encode format = some text ∧ lineOf text = line ++ [10] ∧
      Frames messages bytes ∧ rest = message.binary.getD [] ++ bytes := by
  generalize whole : line ++ 10 :: rest = written at frames
  cases frames with
  | nil => exact absurd whole (by simp)
  | @cons message messages text bytes encoded tail =>
    obtain ⟨body, ends, unfinished'⟩ := lineOf_eq (oneLine_encode format encoded)
    rw [ends, List.append_assoc, List.singleton_append] at whole
    obtain ⟨rfl, rfl⟩ := append_newline_inj unfinished unfinished' whole
    exact ⟨message, messages, text, bytes, rfl, encoded, ends, tail, rfl⟩

theorem Frames.eq_nil (unfinished : 10 ∉ bytes) (frames : Frames pending bytes) : pending = [] ∧ bytes = [] := by
  cases frames with
  | nil => exact ⟨rfl, rfl⟩
  | cons encoded tail =>
    obtain ⟨body, ends, -⟩ := lineOf_eq (oneLine_encode format encoded)
    rw [ends] at unfinished
    simp at unfinished

/-! ## One round of the loop -/

variable {target : List (ReceivedMessage Double)} {allLegible : Prop} {converter : DaemonInputStreamConverter Double}

theorem addMessage_awaits (converter : DaemonInputStreamConverter Double) {message : OutgoingMessage format}
    {messages : List (OutgoingMessage format)} (mode : converter.state = .json) (empty : converter.bytesBuilder = [])
    (frames : Frames messages bytes) (follows : rest = message.binary.getD [] ++ bytes)
    (total : converter.received ++ (message :: messages).map OutgoingMessage.received = target)
    (readable : (∀ message ∈ messages, message.Legible) ↔ allLegible) :
    ∃ converter', converter.addMessage message.entries = .ok converter' ∧
      Awaits format target allLegible converter' rest := by
  rw [List.map_cons] at total
  cases binary : message.binary with
  | none =>
    have frames' : Frames messages (converter.bytesBuilder ++ rest) := by
      rw [empty, follows, binary]
      exact frames
    refine ⟨_, addMessage_without_binary message binary converter, .json mode (by simp [empty]) frames' ?_ readable⟩
    rw [← total]
    simp [DaemonInputStreamConverter.received, DaemonMessage.received, OutgoingMessage.received, binary]
  | some sent =>
    rw [binary] at follows
    refine ⟨_, addMessage_with_binary message binary converter, .binary rfl empty rfl rfl rfl frames follows ?_ readable⟩
    rw [← total]
    simp [DaemonInputStreamConverter.received, OutgoingMessage.received, binary]

variable {chunk later : List UInt8} {start : Nat}

/-- A round leads to a converter that awaits the rest, or exits at a message that is not legible. -/
def RoundAwaits (format : DoubleFormat Double) (target : List (ReceivedMessage Double)) (allLegible : Prop)
    (chunk later : List UInt8) (start : Nat) : Except DaemonError (Nat × DaemonInputStreamConverter Double) → Prop
  | .error error => error = .toolExit ∧ ¬ allLegible
  | .ok (processed, converter) => start + processed ≤ chunk.length ∧
      Awaits format target allLegible converter (chunk.drop (start + processed) ++ later)

theorem processChunkInJsonMode_awaits (inside : start < chunk.length) (mode : converter.state = .json)
    (unfinished : 10 ∉ converter.bytesBuilder)
    (frames : Frames pending (converter.bytesBuilder ++ (chunk.drop start ++ later)))
    (total : converter.received ++ pending.map OutgoingMessage.received = target)
    (readable : (∀ message ∈ pending, message.Legible) ↔ allLegible) :
    RoundAwaits format target allLegible chunk later start (processChunkInJsonMode format chunk start converter) := by
  unfold processChunkInJsonMode
  cases newline : (chunk.drop start).findIdx? (· == 10) with
  | none =>
    have none_left : 10 ∉ chunk.drop start := by
      intro member
      have := List.findIdx?_eq_none_iff.mp newline 10 member
      simp at this
    have ends : chunk.drop (start + (chunk.length - start)) = [] := List.drop_of_length_le (by omega)
    refine ⟨by omega, .json mode ?_ ?_ total readable⟩
    · simp [unfinished, none_left]
    · rw [ends, List.nil_append, List.append_assoc]
      exact frames
  | some offset =>
    obtain ⟨bound, found, earlier⟩ := List.findIdx?_eq_some_iff_getElem.mp newline
    have split : chunk.drop start = (chunk.drop start).take offset ++ 10 :: (chunk.drop start).drop (offset + 1) := by
      have at_offset : (chunk.drop start)[offset] = 10 := by simpa using found
      rw [← at_offset, ← List.drop_eq_getElem_cons bound, List.take_append_drop]
    have before : 10 ∉ (chunk.drop start).take offset := by
      intro member
      obtain ⟨index, inside, equal⟩ := List.mem_take_iff_getElem.mp member
      have := earlier index (by omega)
      simp [equal] at this
    rw [split, List.append_assoc, List.cons_append, ← List.append_assoc] at frames
    obtain ⟨message, messages, text, bytes, rfl, encoded, line, tail, follows⟩ :=
      frames.split (by simp [unfinished, before])
    have combined : converter.bytesBuilder ++ (chunk.drop start).take (offset + 1) = lineOf text := by
      have at_offset : (chunk.drop start)[offset] = 10 := by simpa using found
      rw [line, List.append_assoc, List.take_succ_eq_append_getElem bound, at_offset]
    rw [List.forall_mem_cons] at readable
    by_cases legible : message.Legible
    · rw [and_iff_right legible] at readable
      obtain ⟨converter', added, awaits⟩ := addMessage_awaits { converter with bytesBuilder := [] }
        mode rfl tail follows total readable
      rw [List.length_drop] at bound
      rw [List.drop_drop] at awaits
      simp only [combined, processLine_lineOf encoded legible, added]
      exact ⟨by omega, awaits⟩
    · simp only [combined, processLine_illegible encoded legible]
      exact ⟨rfl, fun all => legible (readable.mpr all).1⟩

theorem addBinaryChunk_eq {left index : Nat} (inside : start < chunk.length)
    (current : converter.currentBinaryStream = some index) (remaining : converter.remainingBinaryLength = left) :
    converter.addBinaryChunk chunk start = .ok (min (chunk.length - start) left, { converter with
      messages := converter.messages.modify index fun message => { message with
        binary := message.binary.map (addToBinaryStream ((chunk.drop start).take (min (chunk.length - start) left))) } }) := by
  obtain ⟨messages, state, _, length, bytesBuilder⟩ := converter
  obtain rfl : length = left := remaining
  cases current
  simp only [addBinaryChunk]
  split
  · rename_i whole
    obtain ⟨rfl, short⟩ := whole
    have size : min (chunk.length - 0) left = chunk.length := by omega
    rw [size, List.drop_zero, List.take_length]
    rfl
  · have size : (if (chunk.length : Int) - start < left then (chunk.length : Int) - start else left)
        = (min (chunk.length - start) left : Nat) := by
      split <;> omega
    have exists_ : sublist chunk start (start + (min (chunk.length - start) left : Nat)) =
        .ok ((chunk.drop start).take (min (chunk.length - start) left)) := by
      have size' : ((start : Int) + (min (chunk.length - start) left : Nat) - start).toNat =
          min (chunk.length - start) left := by omega
      rw [sublist, if_pos (by omega), size']
      rfl
    simp only [size, exists_, ok_bind, modifyBinaryStream, Int.toNat_natCast]
    rfl

theorem processChunkInBinaryMode_awaits (inside : start < chunk.length) {before : List (DaemonMessage Double)}
    {data : List (Utf16 × Json Double)} {stream : BinaryStream} {left : List UInt8}
    (mode : converter.state = .binary) (empty : converter.bytesBuilder = [])
    (messages : converter.messages = before ++ [⟨data, some stream⟩])
    (current : converter.currentBinaryStream = some before.length)
    (remaining : converter.remainingBinaryLength = left.length) (frames : Frames pending bytes)
    (follows : chunk.drop start ++ later = left ++ bytes)
    (total : before.map DaemonMessage.received ++ (data, some (stream.chunks.flatten ++ left)) ::
      pending.map OutgoingMessage.received = target)
    (readable : (∀ message ∈ pending, message.Legible) ↔ allLegible) :
    RoundAwaits format target allLegible chunk later start (converter.processChunkInBinaryMode chunk start) := by
  have added := addBinaryChunk_eq inside current remaining
  rw [messages, modify_length_append] at added
  have length : (chunk.drop start).length = chunk.length - start := List.length_drop
  generalize size : min (chunk.length - start) left.length = sent at added
  -- the part that is sent is the start of what is left
  have sent_part : (chunk.drop start).take sent = left.take sent := by
    have taken := congrArg (List.take sent) follows
    rwa [List.take_append_of_le_length (by omega), List.take_append_of_le_length (by omega)] at taken
  have rest_part : chunk.drop (start + sent) ++ later = left.drop sent ++ bytes := by
    have dropped := congrArg (List.drop sent) follows
    rwa [List.drop_append_of_le_length (by omega), List.drop_append_of_le_length (by omega), List.drop_drop] at dropped
  have total' : before.map DaemonMessage.received ++
      (data, some ((addToBinaryStream ((chunk.drop start).take sent) stream).chunks.flatten ++ left.drop sent)) ::
        pending.map OutgoingMessage.received = target := by
    rw [← total, sent_part]
    simp [addToBinaryStream]
  unfold processChunkInBinaryMode
  rw [added]
  simp only [ok_bind, remaining]
  split
  · rename_i finished
    have all : sent = left.length := by omega
    rw [if_pos (by omega : (left.length : Int) - (sent : Int) = 0)]
    simp only [modifyBinaryStream, current, ok_bind, modify_length_append]
    have frames' : Frames pending (converter.bytesBuilder ++ (chunk.drop (start + sent) ++ later)) := by
      rw [empty, List.nil_append, rest_part, all, List.drop_length, List.nil_append]
      exact frames
    refine ⟨by omega, .json rfl (by simp [empty]) frames' ?_ readable⟩
    rw [all, List.drop_length, List.append_nil] at total'
    rw [← total', all]
    simp [DaemonInputStreamConverter.received, DaemonMessage.received]
  · refine ⟨by omega, .binary mode empty rfl current ?_ frames rest_part total' readable⟩
    rw [List.length_drop]
    dsimp only
    omega

theorem processRound_awaits (inside : start < chunk.length)
    (awaits : Awaits format target allLegible converter (chunk.drop start ++ later)) :
    RoundAwaits format target allLegible chunk later start (processRound format chunk start converter) := by
  unfold processRound
  cases awaits with
  | json mode unfinished frames total readable =>
    rw [mode]
    exact processChunkInJsonMode_awaits inside mode unfinished frames total readable
  | binary mode empty messages current remaining frames follows total readable =>
    rw [mode]
    exact processChunkInBinaryMode_awaits inside mode empty messages current remaining frames follows total readable

/-! ## Whole chunks -/

def ChunksAwait (format : DoubleFormat Double) (target : List (ReceivedMessage Double)) (allLegible : Prop)
    (later : List UInt8) : Except DaemonError (DaemonInputStreamConverter Double) → Prop
  | .error error => error = .toolExit ∧ ¬ allLegible
  | .ok converter => Awaits format target allLegible converter later

theorem processChunkFrom_awaits (chunk later : List UInt8) (start : Nat)
    (converter : DaemonInputStreamConverter Double) (bound : start ≤ chunk.length)
    (awaits : Awaits format target allLegible converter (chunk.drop start ++ later)) :
    ChunksAwait format target allLegible later (processChunkFrom format chunk start converter) := by
  fun_induction processChunkFrom format chunk start converter with
  | case1 start converter inside error failed =>
    have round := processRound_awaits inside awaits
    rw [failed] at round
    exact round
  | case2 start converter inside processed converter' ran ih =>
    have round := processRound_awaits inside awaits
    rw [ran] at round
    exact ih round.1 round.2
  | case3 start converter outside =>
    rw [List.drop_of_length_le (by omega), List.nil_append] at awaits
    exact awaits

theorem foldlM_processChunk_awaits (chunks : List (List UInt8)) (converter : DaemonInputStreamConverter Double)
    (awaits : Awaits format target allLegible converter chunks.flatten) :
    ChunksAwait format target allLegible [] (chunks.foldlM (processChunk format) converter) := by
  induction chunks generalizing converter with
  | nil => exact awaits
  | cons chunk chunks ih =>
    have first := processChunkFrom_awaits chunk chunks.flatten 0 converter (Nat.zero_le _) awaits
    rw [List.foldlM_cons, processChunk]
    cases ran : processChunkFrom format chunk 0 converter with
    | error error =>
      rw [ran] at first
      exact first
    | ok converter' =>
      rw [ran] at first
      exact ih converter' first

theorem Awaits.received_eq (awaits : Awaits format target allLegible converter []) :
    converter.received = target ∧ allLegible := by
  cases awaits with
  | json mode unfinished frames total readable =>
    rw [List.append_nil] at frames
    obtain ⟨rfl, -⟩ := frames.eq_nil unfinished
    rw [List.map_nil, List.append_nil] at total
    exact ⟨total, readable.mp (by simp)⟩
  | binary mode empty messages current remaining frames follows total readable =>
    obtain ⟨rfl, rfl⟩ := List.append_eq_nil_iff.mp follows.symm
    obtain ⟨rfl, -⟩ := frames.eq_nil List.not_mem_nil
    refine ⟨?_, readable.mp (by simp)⟩
    rw [← total, DaemonInputStreamConverter.received, messages]
    simp [DaemonMessage.received]

end DaemonInputStreamConverter

open DaemonInputStreamConverter

theorem sendAll_frames (messages : List (OutgoingMessage format)) :
    ∃ written, sendAll format messages = some written ∧ Frames messages written.flatten := by
  induction messages with
  | nil => exact ⟨[], rfl, .nil⟩
  | cons message messages ih =>
    obtain ⟨written, sent, frames⟩ := ih
    obtain ⟨text, encoded, first⟩ := message.send_eq
    unfold sendAll at sent ⊢
    obtain ⟨pieces, mapped, rfl⟩ := Option.map_eq_some_iff.mp sent
    refine ⟨_, by rw [List.mapM_cons, first, mapped]; rfl, ?_⟩
    have bytes : message.binary.toList.flatten = message.binary.getD [] := by
      cases message.binary <;> simp
    rw [List.flatten_cons, List.flatten_append, List.flatten_cons, bytes, List.append_assoc]
    exact .cons encoded frames

theorem processChunks_awaits {messages : List (OutgoingMessage format)} {bytes : List UInt8}
    (frames : Frames messages bytes) {chunks : List (List UInt8)} (cut : chunks.flatten = bytes) :
    ChunksAwait format (messages.map OutgoingMessage.received) (∀ message ∈ messages, message.Legible) []
      (processChunks format chunks) := by
  refine foldlM_processChunk_awaits chunks initial (.json rfl List.not_mem_nil ?_ rfl Iff.rfl)
  rw [cut]
  exact frames

/-- However the bytes that were sent are cut into chunks, the messages are received as they were sent if and
    only if all of them are legible. -/
theorem received_eq_sent_iff (format : DoubleFormat Double) (messages : List (OutgoingMessage format)) :
    ∃ written, sendAll format messages = some written ∧
      ∀ chunks : List (List UInt8), chunks.flatten = written.flatten →
        ((∃ converter, processChunks format chunks = .ok converter ∧
          converter.received = messages.map OutgoingMessage.received) ↔ ∀ message ∈ messages, message.Legible) := by
  obtain ⟨written, sent, frames⟩ := sendAll_frames messages
  refine ⟨written, sent, fun chunks cut => ?_⟩
  have awaits := processChunks_awaits frames cut
  cases ran : processChunks format chunks with
  | error error =>
    rw [ran] at awaits
    exact iff_of_false (by rintro ⟨_, returned, -⟩; cases returned) awaits.2
  | ok converter =>
    rw [ran] at awaits
    obtain ⟨same, legible⟩ := Awaits.received_eq awaits
    exact iff_of_true ⟨converter, rfl, same⟩ legible

def halfFormat : DoubleFormat Bool where
  toLiteral half := if half then some .half else none
  parse literal := decide (literal.negative = false ∧ literal.integer = NumberLiteral.half.integer ∧
    literal.fraction = NumberLiteral.half.fraction ∧ literal.exponent = none)
  isDouble_of_toLiteral half literal written := by
    cases half <;> cases written
    rfl
  parse_of_toLiteral half literal written := by
    cases half <;> cases written
    rfl

/-- `{"id":0.5}` with a binary that looks like the start of another message. -/
def binaryMessage : OutgoingMessage halfFormat :=
  ⟨[(units ['i', 'd'], .double true)], some [0x0A, 0x5B, 0x7B], by decide, by decide, by decide, by simp⟩

def emptyMessage : OutgoingMessage halfFormat := ⟨[], none, by decide, by decide, by decide, by simp⟩

/-- A replacement character under the key `a`. -/
def illegibleMessage : OutgoingMessage halfFormat :=
  ⟨[(units ['a'], .string [0xFFFD])], none, by decide, by decide, by decide, by simp⟩

theorem not_received_illegibleMessage :
    ¬ ∀ messages : List (OutgoingMessage halfFormat), ∃ written, sendAll halfFormat messages = some written ∧
      ∀ chunks : List (List UInt8), chunks.flatten = written.flatten →
        ∃ converter, processChunks halfFormat chunks = .ok converter ∧
          converter.received = messages.map OutgoingMessage.received := by
  intro always
  obtain ⟨written, sent, received⟩ := always [illegibleMessage]
  obtain ⟨_, sent', frames⟩ := sendAll_frames [illegibleMessage]
  cases sent.symm.trans sent'
  obtain ⟨converter, ran, -⟩ := received written rfl
  have awaits := processChunks_awaits frames rfl
  rw [ran] at awaits
  have illegible : ¬ illegibleMessage.Legible := by decide
  exact illegible ((Awaits.received_eq awaits).2 illegibleMessage (by simp))

end FlutterZero.FlutterTools
