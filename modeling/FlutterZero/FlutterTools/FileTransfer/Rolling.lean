import FlutterZero.FlutterTools.FileTransfer.Hashing

/-! # The rolling hash over whole runs

`adler32Hash` is Adler-32 as it is defined, without large numbers on the way
(`adler32Hash_eq_plain`, `adler32Values_lt`), and `RollingAdler32` gives it for the last bytes that
were pushed.  `reset` leaves `_cur` where it is: the bytes that are pushed afterwards are written from
there on, and `currentBlock` reads them from the beginning of the buffer as long as there are fewer
than `blockSize` of them.
-/

namespace FlutterZero.FlutterTools

/-! ## Adler-32 -/

/-- Adler-32: one more than the sum of the bytes, and the sum of these values over all non-empty
    prefixes. -/
def plainAdler32 (bytes : List UInt8) : Nat :=
  let sumOf (bytes : List UInt8) := 1 + (bytes.map UInt8.toNat).sum
  let a := sumOf bytes % 65521
  let b := ((List.range bytes.length).map fun i => sumOf (bytes.take (i + 1))).sum % 65521
  b * 65536 + a

/-- The values that the inner loop of `adler32Hash` gives to `a` and `b`. -/
def adler32SumsValues (a b : Nat) : List UInt8 → List Nat
  | [] => []
  | byte :: rest =>
    (a + byte.toNat) :: (b + (a + byte.toNat)) :: adler32SumsValues (a + byte.toNat) (b + (a + byte.toNat)) rest

/-- The values that `adler32Hash` gives to `a` and `b`, but for the remainders. -/
def adler32LoopValues (a b : Nat) (binary : List UInt8) : List Nat :=
  if _empty : binary = [] then []
  else
    let (a', b') := adler32Sums a b (binary.take maxChunkSize)
    adler32SumsValues a b (binary.take maxChunkSize) ++
      adler32LoopValues (a' % adler32Prime) (b' % adler32Prime) (binary.drop maxChunkSize)
termination_by binary.length
decreasing_by
  have positive : 0 < maxChunkSize := by decide +kernel
  have nonempty := List.length_pos_iff.mpr _empty
  rw [List.length_drop]
  omega

def adler32Values (binary : List UInt8) : List Nat := adler32LoopValues 1 0 binary

theorem adler32Sums_fst (a b : Nat) (bytes : List UInt8) :
    (adler32Sums a b bytes).1 = a + (bytes.map UInt8.toNat).sum := by
  induction bytes generalizing a b with
  | nil => simp [adler32Sums]
  | cons byte bytes ih => simp [adler32Sums, ih, Nat.add_assoc]

theorem adler32Sums_snd (bytes : List UInt8) :
    (adler32Sums 1 0 bytes).2 =
      ((List.range bytes.length).map fun i => 1 + ((bytes.take (i + 1)).map UInt8.toNat).sum).sum := by
  induction bytes using List.reverseRecOn with
  | nil => simp [adler32Sums]
  | append_singleton bytes byte ih =>
    have before : (List.range bytes.length).map
          (fun i => 1 + (((bytes ++ [byte]).take (i + 1)).map UInt8.toNat).sum) =
        (List.range bytes.length).map fun i => 1 + ((bytes.take (i + 1)).map UInt8.toNat).sum := by
      apply List.map_congr_left
      intro i member
      have inside : i + 1 ≤ bytes.length := List.mem_range.mp member
      rw [List.take_append_of_le_length inside]
    rw [adler32Sums_append, List.length_append, List.length_singleton, List.range_succ, List.map_append,
      before, List.sum_append, ← ih]
    simp [adler32Sums, adler32Sums_fst, Nat.add_assoc]

theorem adler32Value_of_lt {a b : Nat} (smallA : a < 65536) (smallB : b < 65536) :
    adler32Value a b = b * 65536 + a := by
  have masked (n : Nat) (small : n < 65536) : n &&& 0xffff = n := by
    rw [show (0xffff : Nat) = 2 ^ 16 - 1 from rfl, Nat.and_two_pow_sub_one_eq_mod]
    exact Nat.mod_eq_of_lt small
  rw [adler32Value, masked a smallA, masked b smallB, ← Nat.shiftLeft_add_eq_or_of_lt smallA,
    Nat.shiftLeft_eq]

theorem adler32Hash_eq_plain (binary : List UInt8) : adler32Hash binary = plainAdler32 binary := by
  have small (n : Nat) : n % 65521 < 65536 := by omega
  rw [adler32Hash_eq, adler32Sums_snd, adler32Sums_fst]
  exact adler32Value_of_lt (small _) (small _)

theorem adler32Hash_lt (binary : List UInt8) : adler32Hash binary < 2 ^ 32 := by
  rw [adler32Hash_eq_plain, plainAdler32]
  omega

theorem adler32SumsValues_le (a b : Nat) (bytes : List UInt8) :
    ∀ value ∈ adler32SumsValues a b bytes,
      2 * value ≤ 2 * b + 2 * (bytes.length * a) + 255 * (bytes.length * (bytes.length + 1)) := by
  induction bytes generalizing a b with
  | nil => simp [adler32SumsValues]
  | cons byte bytes ih =>
    have small : byte.toNat ≤ 255 := by
      have := byte.toNat_lt
      omega
    intro value member
    simp only [adler32SumsValues, List.mem_cons, List.length_cons] at member ⊢
    generalize byte.toNat = x at small member
    generalize bytes.length = m at ih ⊢
    rcases member with rfl | rfl | later
    · nlinarith [Nat.zero_le (m * a), Nat.zero_le (m * m)]
    · nlinarith [Nat.zero_le (m * a), Nat.zero_le (m * m)]
    · -- the byte counts once for each of the values of `b` that follow
      have bound := ih _ _ value later
      have weighted : m * x ≤ m * 255 := Nat.mul_le_mul_left m small
      nlinarith [bound, weighted]

theorem maxChunkSize_eq : maxChunkSize = 5943259 := by decide +kernel

theorem adler32LoopValues_lt {a b : Nat} (smallA : a < adler32Prime) (smallB : b < adler32Prime)
    (binary : List UInt8) : ∀ value ∈ adler32LoopValues a b binary, value < 2 ^ 53 := by
  have positive : 0 < adler32Prime := by decide
  fun_induction adler32LoopValues a b binary with
  | case1 a b => simp
  | case2 a b binary nonempty a' b' sums ih =>
    intro value member
    rcases List.mem_append.mp member with chunk | later
    · have bound := adler32SumsValues_le a b _ value chunk
      have length : (binary.take maxChunkSize).length ≤ 5943259 := by
        rw [List.length_take, maxChunkSize_eq]
        exact min_le_left _ _
      generalize (binary.take maxChunkSize).length = m at bound length
      have linear : m * a ≤ 5943259 * 65520 := Nat.mul_le_mul length (Nat.le_of_lt_succ smallA)
      have square : m * (m + 1) ≤ 5943259 * (5943259 + 1) := Nat.mul_le_mul length (Nat.succ_le_succ length)
      rw [adler32Prime] at smallB
      omega
    · exact ih (Nat.mod_lt _ positive) (Nat.mod_lt _ positive) value later

theorem adler32Values_lt (binary : List UInt8) : ∀ value ∈ adler32Values binary, value < 2 ^ 53 :=
  adler32LoopValues_lt (by decide) (by decide) binary

/-! ## Pushes and resets -/

namespace RollingAdler32

/-- `_cur` and the buffer stay as they are. -/
def reset (adler32 : RollingAdler32) : RollingAdler32 := { adler32 with a := 1, b := 0, processedBytes := 0 }

inductive Event where
  | push (char : UInt8)
  | reset
deriving DecidableEq, Repr

def apply (adler32 : RollingAdler32) : Event → RollingAdler32
  | .push char => adler32.push char
  | .reset => adler32.reset

def applyAll (adler32 : RollingAdler32) (events : List Event) : RollingAdler32 := events.foldl apply adler32

def pushAll (adler32 : RollingAdler32) (chars : List UInt8) : RollingAdler32 := chars.foldl push adler32

def pushed (events : List Event) : Nat := events.countP (· ≠ .reset)

def observe (adler32 : RollingAdler32) : Nat × Nat × List UInt8 :=
  (adler32.processedBytes, adler32.hash, adler32.currentBlock)

section

variable {blockSize : Nat} {adler32 fresh : RollingAdler32}

theorem pushAll_append (adler32 : RollingAdler32) (first second : List UInt8) :
    adler32.pushAll (first ++ second) = (adler32.pushAll first).pushAll second :=
  List.foldl_append

theorem rolls_pushAll (positive : 0 < blockSize) (read : List UInt8) :
    Rolls blockSize read ((create blockSize).pushAll read) := by
  induction read using List.reverseRecOn with
  | nil => exact rolls_create positive
  | append_singleton read char ih =>
    rw [pushAll_append]
    exact ih.push char

/-- Where the next byte goes, after so many bytes. -/
structure Aligned (blockSize count : Nat) (adler32 : RollingAdler32) : Prop where
  size : adler32.blockSize = blockSize
  length : adler32.buffer.length = blockSize
  cur : adler32.cur = count % blockSize

theorem aligned_create (blockSize : Nat) : Aligned blockSize 0 (create blockSize) :=
  ⟨rfl, List.length_replicate, (Nat.zero_mod _).symm⟩

variable {count : Nat}

theorem Aligned.push (positive : 0 < blockSize) (aligned : Aligned blockSize count adler32)
    (char : UInt8) : Aligned blockSize (count + 1) (adler32.push char) := by
  refine ⟨aligned.size, (List.length_set ..).trans aligned.length, ?_⟩
  have inside := Nat.mod_lt count positive
  show (if adler32.cur + 1 = adler32.blockSize then 0 else adler32.cur + 1) = (count + 1) % blockSize
  rw [aligned.size, aligned.cur, ← Nat.mod_add_mod count blockSize 1]
  split
  · rename_i last
    rw [last, Nat.mod_self]
  · exact (Nat.mod_eq_of_lt (by omega)).symm

theorem Aligned.reset (aligned : Aligned blockSize count adler32) : Aligned blockSize count adler32.reset :=
  ⟨aligned.size, aligned.length, aligned.cur⟩

theorem aligned_applyAll (positive : 0 < blockSize) (events : List Event) :
    Aligned blockSize (pushed events) ((create blockSize).applyAll events) := by
  induction events using List.reverseRecOn with
  | nil => exact aligned_create blockSize
  | append_singleton events event ih =>
    rw [applyAll, List.foldl_append, ← applyAll, pushed, List.countP_append, ← pushed]
    cases event with
    | push char => exact ih.push positive char
    | reset => exact ih.reset

theorem aligned_pushAll (positive : 0 < blockSize) (read : List UInt8) :
    Aligned blockSize read.length ((create blockSize).pushAll read) := by
  induction read using List.reverseRecOn with
  | nil => exact aligned_create blockSize
  | append_singleton read char ih =>
    rw [pushAll_append, List.length_append]
    exact ih.push positive char

theorem currentBlock_pushAll (positive : 0 < blockSize) (read : List UInt8) :
    ((create blockSize).pushAll read).currentBlock = window blockSize read := by
  have rolls := rolls_pushAll positive read
  by_cases enough : blockSize ≤ read.length
  · exact (rolls.currentBlock enough).1
  · have aligned := aligned_pushAll positive read
    have short : read.length < blockSize := not_le.mp enough
    have cur : ((create blockSize).pushAll read).cur = read.length := by
      rw [aligned.cur, Nat.mod_eq_of_lt short]
    have ring := rolls.ring
    rw [RollingAdler32.ring, cur] at ring
    -- the buffer has not been filled: behind the cursor is what it was made with
    have behind : (List.replicate blockSize (0 : UInt8) ++ read).drop read.length =
        List.replicate (blockSize - read.length) 0 ++ read := by
      rw [List.drop_append_of_le_length (by simpa using short.le), List.drop_replicate]
    have lengths : (((create blockSize).pushAll read).buffer.take read.length).length = read.length := by
      rw [List.length_take, rolls.length]
      omega
    have written := List.append_inj_right' (ring.trans behind) lengths
    rw [currentBlock, rolls.processed, rolls.size, if_pos short, written, window,
      Nat.sub_eq_zero_of_le short.le, List.drop_zero]

/-! ### After a reset -/

/-- Two rolling hashes with the same cursor, whose buffers agree where bytes were written since the
    last reset. -/
structure Agrees (adler32 fresh : RollingAdler32) : Prop where
  size : adler32.blockSize = fresh.blockSize
  processed : adler32.processedBytes = fresh.processedBytes
  cur : adler32.cur = fresh.cur
  a : adler32.a = fresh.a
  b : adler32.b = fresh.b
  written : ∀ j, j < min fresh.processedBytes fresh.blockSize → adler32.buffer[j]? = fresh.buffer[j]?
  lengths : adler32.buffer.length = fresh.blockSize ∧ fresh.buffer.length = fresh.blockSize

/-- Both sums are changed alike: once the ring is full, the byte that leaves it was written since the
    reset. -/
theorem Agrees.push_sums (agrees : Agrees adler32 fresh)
    (aligned : Aligned blockSize fresh.processedBytes fresh) (positive : 0 < blockSize) (char : UInt8) :
    (adler32.push char).a = (fresh.push char).a ∧ (adler32.push char).b = (fresh.push char).b := by
  have processed := agrees.processed
  have size := agrees.size
  by_cases full : fresh.blockSize ≤ fresh.processedBytes
  · have full' : adler32.blockSize ≤ adler32.processedBytes := by omega
    have inside : fresh.cur < min fresh.processedBytes fresh.blockSize := by
      have := Nat.mod_lt fresh.processedBytes positive
      rw [aligned.cur, Nat.min_eq_right full, aligned.size]
      exact this
    have prev : adler32.buffer.getD adler32.cur 0 = fresh.buffer.getD fresh.cur 0 := by
      rw [List.getD_eq_getElem?_getD, List.getD_eq_getElem?_getD, agrees.cur, agrees.written _ inside]
    obtain ⟨a, b⟩ := push_of_full full' char
    obtain ⟨a', b'⟩ := push_of_full full char
    rw [prev, agrees.a] at a
    rw [prev, agrees.a, agrees.b, size] at b
    exact ⟨a.trans a'.symm, b.trans b'.symm⟩
  · have room : fresh.processedBytes < fresh.blockSize := not_le.mp full
    have room' : adler32.processedBytes < adler32.blockSize := by omega
    obtain ⟨a, b⟩ := push_of_not_full room' char
    obtain ⟨a', b'⟩ := push_of_not_full room char
    rw [agrees.a] at a
    rw [agrees.a, agrees.b] at b
    exact ⟨a.trans a'.symm, b.trans b'.symm⟩

theorem Agrees.push (agrees : Agrees adler32 fresh) (aligned : Aligned blockSize fresh.processedBytes fresh)
    (positive : 0 < blockSize) (char : UInt8) : Agrees (adler32.push char) (fresh.push char) := by
  obtain ⟨a, b⟩ := agrees.push_sums aligned positive char
  refine ⟨agrees.size, ?_, ?_, a, b, ?_, ?_⟩
  · show adler32.processedBytes + 1 = fresh.processedBytes + 1
    rw [agrees.processed]
  · show (if adler32.cur + 1 = adler32.blockSize then 0 else adler32.cur + 1) =
      (if fresh.cur + 1 = fresh.blockSize then 0 else fresh.cur + 1)
    rw [agrees.cur, agrees.size]
  · intro j inside
    show (adler32.buffer.set adler32.cur char)[j]? = (fresh.buffer.set fresh.cur char)[j]?
    have inside : j < min (fresh.processedBytes + 1) fresh.blockSize := inside
    rw [List.getElem?_set, List.getElem?_set, agrees.cur, agrees.lengths.1, agrees.lengths.2]
    split
    · rfl
    · rename_i other
      apply agrees.written
      -- while the ring is not full, the cursor is behind what was written
      have cur := aligned.cur
      have size := aligned.size
      by_cases room : fresh.processedBytes < fresh.blockSize
      · rw [Nat.mod_eq_of_lt (by omega)] at cur
        omega
      · omega
  · exact ⟨(List.length_set ..).trans agrees.lengths.1, (List.length_set ..).trans agrees.lengths.2⟩

theorem Agrees.observe_eq (agrees : Agrees adler32 fresh) : adler32.observe = fresh.observe := by
  have processed := agrees.processed
  have hash : adler32.hash = fresh.hash := by rw [hash, hash, agrees.a, agrees.b]
  have take : ∀ k, k ≤ min fresh.processedBytes fresh.blockSize → adler32.buffer.take k = fresh.buffer.take k := by
    intro k bounded
    apply List.ext_getElem?
    intro j
    rw [List.getElem?_take, List.getElem?_take]
    split
    · exact agrees.written j (by omega)
    · rfl
  have block : adler32.currentBlock = fresh.currentBlock := by
    rw [currentBlock, currentBlock, processed, agrees.size, agrees.cur]
    split
    · rename_i room
      exact take _ (by omega)
    · rename_i full
      have whole := take fresh.blockSize (by omega)
      rw [List.take_of_length_le agrees.lengths.1.le, List.take_of_length_le agrees.lengths.2.le] at whole
      rw [whole]
  rw [observe, observe, processed, hash, block]

theorem Agrees.pushAll (positive : 0 < blockSize) (agrees : Agrees adler32 (create blockSize))
    (chars : List UInt8) : Agrees (adler32.pushAll chars) ((create blockSize).pushAll chars) := by
  induction chars using List.reverseRecOn with
  | nil => exact agrees
  | append_singleton chars char ih =>
    rw [pushAll_append, pushAll_append]
    refine ih.push ?_ positive char
    rw [(rolls_pushAll positive chars).processed]
    exact aligned_pushAll positive chars

theorem agrees_reset (aligned : Aligned blockSize count adler32) (whole : blockSize ∣ count) :
    Agrees adler32.reset (create blockSize) := by
  have cur : adler32.cur = 0 := by rw [aligned.cur, Nat.mod_eq_zero_of_dvd whole]
  refine ⟨aligned.size, rfl, cur, rfl, rfl, fun j inside => ?_, aligned.length, List.length_replicate⟩
  have inside : j < min 0 blockSize := inside
  omega

theorem observe_reset_ne (positive : 0 < blockSize) (aligned : Aligned blockSize count adler32)
    (broken : ¬ blockSize ∣ count) :
    ∃ char, (adler32.reset.push char).observe ≠ ((create blockSize).push char).observe := by
  have cur : adler32.cur ≠ 0 := by
    rw [aligned.cur]
    exact fun zero => broken (Nat.dvd_of_mod_eq_zero zero)
  have long : 1 < blockSize := by
    have := Nat.mod_lt count positive
    have := aligned.cur
    omega
  obtain ⟨first, rest, buffer⟩ : ∃ first rest, adler32.buffer = first :: rest :=
    List.exists_cons_of_length_pos (by rw [aligned.length]; exact positive)
  refine ⟨first + 1, fun same => ?_⟩
  have block := congrArg (fun seen => seen.2.2) same
  have left : (adler32.reset.push (first + 1)).currentBlock = [first] := by
    obtain ⟨position, at_⟩ := Nat.exists_eq_succ_of_ne_zero cur
    show (if 0 + 1 < adler32.blockSize then (adler32.buffer.set adler32.cur (first + 1)).take (0 + 1) else _) = _
    rw [aligned.size, if_pos long, buffer, at_]
    rfl
  have right : ((create blockSize).push (first + 1)).currentBlock = [first + 1] := by
    have pushed := currentBlock_pushAll positive [first + 1]
    rwa [window, List.length_singleton, Nat.sub_eq_zero_of_le positive, List.drop_zero] at pushed
  have equal : [first] = [first + 1] := left.symm.trans (block.trans right)
  simp at equal

end

/-- What is to be expected of Adler-32, of a rolling hash, and of one that was used as in `events` and
    is reset. -/
structure Correct (blockSize : Nat) (events : List Event) : Prop where
  hash : ∀ read char, blockSize ≤ (read ++ [char]).length →
    (((create blockSize).pushAll read).push char).hash = adler32Hash (window blockSize (read ++ [char]))
  currentBlock : ∀ read, ((create blockSize).pushAll read).currentBlock = window blockSize read
  plain : ∀ binary, adler32Hash binary = plainAdler32 binary
  bounded : ∀ binary, (∀ value ∈ adler32Values binary, value < 2 ^ 53) ∧ adler32Hash binary < 2 ^ 53
  reset : ∀ chars, (((create blockSize).applyAll events).reset.pushAll chars).observe =
    ((create blockSize).pushAll chars).observe

/-- All of it is as expected exactly when whole blocks were pushed before the reset. -/
theorem correct_iff_dvd_pushed (blockSize : Nat) (positive : 1 ≤ blockSize) (events : List Event) :
    Correct blockSize events ↔ blockSize ∣ pushed events := by
  have aligned := aligned_applyAll positive events
  constructor
  · intro correct
    by_contra broken
    obtain ⟨char, differs⟩ := observe_reset_ne positive aligned broken
    exact differs (correct.reset [char])
  · intro whole
    refine ⟨?_, currentBlock_pushAll positive, adler32Hash_eq_plain, fun binary => ?_, fun chars => ?_⟩
    · intro read char enough
      have rolls := (rolls_pushAll positive read).push char
      exact (rolls.currentBlock enough).2
    · exact ⟨adler32Values_lt binary, (adler32Hash_lt binary).trans (by decide)⟩
    · exact ((agrees_reset aligned whole).pushAll positive chars).observe_eq

theorem correct_iff_dvd_pushed_seven :
    Correct 7 [.push 1, .push 2, .reset, .push 3, .push 4, .push 5, .push 6, .push 7] ↔
      7 ∣ pushed [.push 1, .push 2, .reset, .push 3, .push 4, .push 5, .push 6, .push 7] :=
  correct_iff_dvd_pushed 7 (by decide) _

/-- One byte in a ring of two, a reset, and another byte: the current block is the old byte. -/
theorem not_correct_of_one_pushed : ¬ Correct 2 [.push 1] := by
  intro correct
  have seen := correct.reset [2]
  revert seen
  decide

end RollingAdler32

end FlutterZero.FlutterTools
