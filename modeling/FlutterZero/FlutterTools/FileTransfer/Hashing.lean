import FlutterZero.FlutterTools.FileTransfer

/-! # The hashes of blocks

What the two sides of a transfer agree on: `calculateBlockHashesOfFile` hashes the
consecutive blocks of the file however it is read, and the rolling hash is at
every position the hash of the block that ends there.
-/

namespace FlutterZero.FlutterTools

open FlutterZero.Lib

/-! ## Blocks -/

/-- The consecutive blocks, of which only the last may be shorter. -/
def blocksOf (blockSize : Nat) (bytes : List UInt8) : List (List UInt8) :=
  if _stop : bytes = [] ∨ blockSize = 0 then []
  else bytes.take blockSize :: blocksOf blockSize (bytes.drop blockSize)
termination_by bytes.length
decreasing_by
  have nonempty := List.length_pos_iff.mpr (not_or.mp _stop).1
  have positive := (not_or.mp _stop).2
  rw [List.length_drop]
  omega

theorem blocksOf_nil (blockSize : Nat) : blocksOf blockSize [] = [] := by
  rw [blocksOf, dif_pos (.inl rfl)]

variable {blockSize : Nat}

theorem blocksOf_of_ne_nil (positive : 0 < blockSize) {bytes : List UInt8} (nonempty : bytes ≠ []) :
    blocksOf blockSize bytes = bytes.take blockSize :: blocksOf blockSize (bytes.drop blockSize) := by
  rw [blocksOf, dif_neg (by simp [nonempty, positive.ne'])]

theorem blocksOf_append (positive : 0 < blockSize) {block : List UInt8}
    (full : block.length = blockSize) (rest : List UInt8) :
    blocksOf blockSize (block ++ rest) = block :: blocksOf blockSize rest := by
  have nonempty : block ++ rest ≠ [] := by
    intro empty
    simp only [List.append_eq_nil_iff] at empty
    rw [empty.1] at full
    simp only [List.length_nil] at full
    omega
  rw [blocksOf_of_ne_nil positive nonempty, List.take_left' full, List.drop_left' full]

theorem blocksOf_flatten_append (positive : 0 < blockSize) {blocks : List (List UInt8)}
    (full : ∀ block ∈ blocks, block.length = blockSize) (rest : List UInt8) :
    blocksOf blockSize (blocks.flatten ++ rest) = blocks ++ blocksOf blockSize rest := by
  induction blocks with
  | nil => rfl
  | cons block blocks ih =>
    obtain ⟨first, others⟩ := List.forall_mem_cons.mp full
    rw [List.flatten_cons, List.append_assoc, blocksOf_append positive first, ih others, List.cons_append]

theorem getElem?_blocksOf (positive : 0 < blockSize) (bytes : List UInt8) (index : Nat) :
    (blocksOf blockSize bytes)[index]? =
      if index * blockSize < bytes.length then some ((bytes.drop (index * blockSize)).take blockSize)
      else none := by
  induction index generalizing bytes with
  | zero =>
    by_cases empty : bytes = []
    · simp [empty, blocksOf_nil]
    · simp [blocksOf_of_ne_nil positive empty, List.length_pos_iff.mpr empty]
  | succ index ih =>
    by_cases empty : bytes = []
    · simp [empty, blocksOf_nil]
    · rw [blocksOf_of_ne_nil positive empty, List.getElem?_cons_succ, ih, List.length_drop, List.drop_drop,
        Nat.succ_mul, Nat.add_comm blockSize]
      have same : index * blockSize < bytes.length - blockSize ↔ index * blockSize + blockSize < bytes.length := by
        omega
      simp only [same]

/-! ## Cutting a stream into blocks -/

theorem addSublist_spec (blockSize : Nat) (builder sublist : List UInt8)
    (fits : builder.length + sublist.length ≤ blockSize) (positive : 0 < sublist.length) :
    (addSublist blockSize builder sublist).1.length < blockSize ∧
    (∀ block ∈ (addSublist blockSize builder sublist).2, block.length = blockSize) ∧
    (addSublist blockSize builder sublist).2.flatten ++ (addSublist blockSize builder sublist).1 =
      builder ++ sublist := by
  unfold addSublist
  split
  · rename_i whole
    obtain ⟨empty, full⟩ := whole
    rw [List.isEmpty_iff.mp empty]
    refine ⟨by simp only [List.length_nil]; omega, ?_, by simp⟩
    intro block member
    rw [List.mem_singleton.mp member]
    exact full
  · simp only
    split
    · rename_i full
      refine ⟨by simp only [List.length_nil]; omega, ?_, by simp⟩
      intro block member
      rw [List.mem_singleton.mp member]
      exact full
    · rename_i short
      rw [List.length_append] at short
      refine ⟨by rw [List.length_append]; omega, nofun, rfl⟩

theorem convertChunk_spec {builder : List UInt8} (room : builder.length < blockSize) (chunk : List UInt8) :
    ∃ builder' added, convertChunk blockSize builder chunk = .ok (builder', added) ∧
      builder'.length < blockSize ∧ (∀ block ∈ added, block.length = blockSize) ∧
      added.flatten ++ builder' = builder ++ chunk := by
  fun_induction convertChunk blockSize builder chunk with
  | case1 builder chunk empty =>
    refine ⟨builder, [], rfl, room, nofun, ?_⟩
    rw [List.isEmpty_iff.mp empty, List.append_nil]
    rfl
  | case2 builder chunk nonempty sizeToTake positive builder₁ added₁ step ih =>
    have taken : (chunk.take sizeToTake).length = sizeToTake := by
      rw [List.length_take]
      omega
    obtain ⟨room₁, full₁, contents₁⟩ := addSublist_spec blockSize builder (chunk.take sizeToTake)
      (by omega) (by omega)
    rw [step] at room₁ full₁ contents₁
    obtain ⟨builder₂, added₂, converted, room₂, full₂, contents₂⟩ := ih room₁
    refine ⟨builder₂, added₁ ++ added₂, by rw [converted]; rfl, room₂, ?_, ?_⟩
    · exact fun block member => (List.mem_append.mp member).elim (full₁ block) (full₂ block)
    · rw [List.flatten_append, List.append_assoc, contents₂, ← List.append_assoc, contents₁,
        List.append_assoc, List.take_append_drop]
  | case3 builder chunk nonempty sizeToTake none_taken =>
    have := List.length_pos_iff.mpr (mt List.isEmpty_iff.mpr nonempty)
    omega

theorem convertToChunks_spec (blockSize : Nat) (builder : List UInt8) (room : builder.length < blockSize)
    (source : List (List UInt8)) :
    convertToChunks blockSize builder source = .ok (blocksOf blockSize (builder ++ source.flatten)) := by
  induction source generalizing builder with
  | nil =>
    rw [convertToChunks, List.flatten_nil, List.append_nil]
    split
    · rename_i empty
      rw [List.isEmpty_iff.mp empty, blocksOf_nil]
    · rename_i nonempty
      rw [blocksOf_of_ne_nil (by omega) (mt List.isEmpty_iff.mpr nonempty), List.take_of_length_le room.le,
        List.drop_of_length_le room.le, blocksOf_nil]
  | cons chunk source ih =>
    obtain ⟨builder', added, converted, room', full, contents⟩ := convertChunk_spec room chunk
    simp only [convertToChunks, converted, ok_bind, ih _ room', pure_eq_ok]
    rw [List.flatten_cons, ← List.append_assoc, ← contents, List.append_assoc,
      blocksOf_flatten_append (by omega) full]

/-! ## Adler-32 -/

theorem adler32Sums_append (a b : Nat) (xs ys : List UInt8) :
    adler32Sums a b (xs ++ ys) = adler32Sums (adler32Sums a b xs).1 (adler32Sums a b xs).2 ys := by
  induction xs generalizing a b with
  | nil => rfl
  | cons x xs ih => exact ih _ _

theorem adler32Sums_add (a b a' b' : Nat) (xs : List UInt8) :
    adler32Sums (a + a') (b + b') xs =
      ((adler32Sums a b xs).1 + a', (adler32Sums a b xs).2 + b' + xs.length * a') := by
  induction xs generalizing a b b' with
  | nil => simp [adler32Sums]
  | cons x xs ih =>
    have first : a + a' + x.toNat = a + x.toNat + a' := by omega
    have second : b + b' + (a + x.toNat + a') = b + (a + x.toNat) + (b' + a') := by omega
    rw [adler32Sums, first, second, ih, adler32Sums, List.length_cons]
    simp only [Prod.mk.injEq, true_and]
    ring

theorem adler32Sums_mod (a b : Nat) (xs : List UInt8) :
    (adler32Sums (a % adler32Prime) (b % adler32Prime) xs).1 % adler32Prime =
      (adler32Sums a b xs).1 % adler32Prime ∧
    (adler32Sums (a % adler32Prime) (b % adler32Prime) xs).2 % adler32Prime =
      (adler32Sums a b xs).2 % adler32Prime := by
  have split : adler32Sums a b xs = adler32Sums (a % adler32Prime + adler32Prime * (a / adler32Prime))
      (b % adler32Prime + adler32Prime * (b / adler32Prime)) xs := by
    rw [Nat.mod_add_div, Nat.mod_add_div]
  rw [split, adler32Sums_add]
  constructor
  · rw [Nat.add_mul_mod_self_left]
  · simp only
    rw [Nat.mul_left_comm, Nat.add_mul_mod_self_left, Nat.add_mul_mod_self_left]

theorem adler32Loop_eq {a b : Nat} (smallA : a < adler32Prime) (smallB : b < adler32Prime)
    (binary : List UInt8) :
    adler32Loop a b binary =
      ((adler32Sums a b binary).1 % adler32Prime, (adler32Sums a b binary).2 % adler32Prime) := by
  have positive : 0 < adler32Prime := by decide
  fun_induction adler32Loop a b binary with
  | case1 a b => simp [adler32Sums, Nat.mod_eq_of_lt smallA, Nat.mod_eq_of_lt smallB]
  | case2 a b binary nonempty a' b' sums ih =>
    obtain ⟨first, second⟩ := adler32Sums_mod a' b' (binary.drop maxChunkSize)
    rw [ih (Nat.mod_lt _ positive) (Nat.mod_lt _ positive), first, second]
    conv_rhs => rw [← List.take_append_drop maxChunkSize binary, adler32Sums_append, sums]

theorem adler32Hash_eq (binary : List UInt8) :
    adler32Hash binary = adler32Value ((adler32Sums 1 0 binary).1 % adler32Prime)
      ((adler32Sums 1 0 binary).2 % adler32Prime) := by
  rw [adler32Hash, adler32Loop_eq (by decide) (by decide)]

/-! ## The rolling hash -/

/-- The last bytes that were read, at most `blockSize` of them. -/
def window (blockSize : Nat) (read : List UInt8) : List UInt8 := read.drop (read.length - blockSize)

namespace RollingAdler32

def ring (adler32 : RollingAdler32) : List UInt8 :=
  adler32.buffer.drop adler32.cur ++ adler32.buffer.take adler32.cur

/-- What holds of the rolling hash after the given bytes were pushed. -/
structure Rolls (blockSize : Nat) (read : List UInt8) (adler32 : RollingAdler32) : Prop where
  size : adler32.blockSize = blockSize
  processed : adler32.processedBytes = read.length
  length : adler32.buffer.length = blockSize
  cur : adler32.cur < blockSize
  ring : adler32.ring = (List.replicate blockSize 0 ++ read).drop read.length
  a : adler32.a = ((adler32Sums 1 0 (window blockSize read)).1 : Int) % adler32Prime
  b : adler32.b = ((adler32Sums 1 0 (window blockSize read)).2 : Int) % adler32Prime

theorem rolls_create {blockSize : Nat} (positive : 0 < blockSize) : Rolls blockSize [] (create blockSize) where
  size := rfl
  processed := rfl
  length := List.length_replicate
  cur := positive
  ring := by simp [create, RollingAdler32.ring]
  a := by simp [create, window, adler32Sums, adler32Prime]
  b := by simp [create, window, adler32Sums]

variable {blockSize : Nat} {read : List UInt8} {adler32 : RollingAdler32}

theorem Rolls.ring_eq (rolls : Rolls blockSize read adler32) :
    adler32.ring = adler32.buffer.getD adler32.cur 0 :: adler32.ring.tail := by
  have inside : adler32.cur < adler32.buffer.length := rolls.length.symm ▸ rolls.cur
  rw [RollingAdler32.ring, List.drop_eq_getElem_cons inside, List.getD_eq_getElem?_getD,
    List.getElem?_eq_getElem inside]
  rfl

theorem Rolls.ring_push (rolls : Rolls blockSize read adler32) (char : UInt8) :
    (adler32.push char).ring = adler32.ring.tail ++ [char] := by
  have inside : adler32.cur < adler32.buffer.length := rolls.length.symm ▸ rolls.cur
  have tail : adler32.ring.tail = adler32.buffer.drop (adler32.cur + 1) ++ adler32.buffer.take adler32.cur := by
    rw [RollingAdler32.ring, List.drop_eq_getElem_cons inside]
    rfl
  have set : adler32.buffer.set adler32.cur char =
      adler32.buffer.take adler32.cur ++ char :: adler32.buffer.drop (adler32.cur + 1) :=
    List.set_eq_take_append_cons_drop.trans (if_pos inside)
  have taken : (adler32.buffer.take adler32.cur ++ [char]).length = adler32.cur + 1 := by
    rw [List.length_append, List.length_take_of_le inside.le]
    rfl
  rw [tail, RollingAdler32.ring, push]
  simp only [set, rolls.size]
  split
  · rename_i last
    have nothing : adler32.buffer.drop (adler32.cur + 1) = [] := by
      rw [List.drop_eq_nil_iff, rolls.length]
      omega
    rw [nothing, List.drop_zero, List.take_zero, List.append_nil, List.nil_append]
  · rw [List.append_cons, List.drop_left' taken, List.take_left' taken, List.append_assoc]

theorem Rolls.ring_eq_window (rolls : Rolls blockSize read adler32) (enough : blockSize ≤ read.length) :
    adler32.ring = window blockSize read := by
  rw [rolls.ring, window, List.drop_append, List.length_replicate,
    List.drop_of_length_le (by rw [List.length_replicate]; exact enough), List.nil_append]

theorem window_concat_of_lt (short : read.length < blockSize) (char : UInt8) :
    window blockSize (read ++ [char]) = window blockSize read ++ [char] := by
  have none : read.length - blockSize = 0 := by omega
  have none' : (read ++ [char]).length - blockSize = 0 := by
    rw [List.length_append, List.length_singleton]
    omega
  rw [window, window, none, none', List.drop_zero, List.drop_zero]

theorem window_concat_of_le (positive : 0 < blockSize) (enough : blockSize ≤ read.length) (char : UInt8) :
    window blockSize (read ++ [char]) = (window blockSize read).tail ++ [char] := by
  have one : (read ++ [char]).length - blockSize = read.length - blockSize + 1 := by
    rw [List.length_append, List.length_singleton]
    omega
  rw [window, window, one, List.tail_drop, List.drop_append_of_le_length (by omega)]

theorem adler32Sums_roll (oldest char : UInt8) (rest : List UInt8) :
    (adler32Sums 1 0 (oldest :: rest)).1 + char.toNat =
      (adler32Sums 1 0 (rest ++ [char])).1 + oldest.toNat ∧
    (adler32Sums 1 0 (oldest :: rest)).2 + (adler32Sums 1 0 (rest ++ [char])).1 =
      (adler32Sums 1 0 (rest ++ [char])).2 + (oldest.toNat * (oldest :: rest).length + 1) := by
  have first : adler32Sums 1 0 (oldest :: rest) =
      ((adler32Sums 1 0 rest).1 + oldest.toNat,
        (adler32Sums 1 0 rest).2 + (1 + oldest.toNat) + rest.length * oldest.toNat) := by
    rw [adler32Sums, Nat.zero_add, ← adler32Sums_add, Nat.zero_add]
  rw [first, adler32Sums_append]
  simp only [adler32Sums, List.length_cons]
  constructor
  · omega
  · ring

theorem push_of_full (full : adler32.blockSize ≤ adler32.processedBytes) (char : UInt8) :
    let prev := (adler32.buffer.getD adler32.cur 0).toNat
    (adler32.push char).a = (adler32.a - prev + char.toNat) % adler32Prime ∧
    (adler32.push char).b =
      (adler32.b - (prev * adler32.blockSize + 1) + (adler32.a - prev + char.toNat)) % adler32Prime := by
  have moved : adler32.processedBytes + 1 > adler32.blockSize := by omega
  simp only [push, gt_iff_lt] at moved ⊢
  rw [if_pos moved]
  exact ⟨rfl, rfl⟩

theorem push_of_not_full (room : adler32.processedBytes < adler32.blockSize) (char : UInt8) :
    (adler32.push char).a = (adler32.a + char.toNat) % adler32Prime ∧
    (adler32.push char).b = (adler32.b + (adler32.a + char.toNat)) % adler32Prime := by
  have unmoved : ¬ adler32.processedBytes + 1 > adler32.blockSize := by omega
  simp only [push, gt_iff_lt] at unmoved ⊢
  rw [if_neg unmoved]
  exact ⟨rfl, rfl⟩

theorem Rolls.push_sums (rolls : Rolls blockSize read adler32) (char : UInt8) :
    (adler32.push char).a = ((adler32Sums 1 0 (window blockSize (read ++ [char]))).1 : Int) % adler32Prime ∧
    (adler32.push char).b = ((adler32Sums 1 0 (window blockSize (read ++ [char]))).2 : Int) % adler32Prime := by
  have positive : 0 < blockSize := by
    have := rolls.cur
    omega
  have reducedA := Int.mod_modEq ((adler32Sums 1 0 (window blockSize read)).1 : Int) adler32Prime
  have reducedB := Int.mod_modEq ((adler32Sums 1 0 (window blockSize read)).2 : Int) adler32Prime
  rw [← rolls.a] at reducedA
  rw [← rolls.b] at reducedB
  by_cases enough : blockSize ≤ read.length
  · have full : adler32.blockSize ≤ adler32.processedBytes := by
      rw [rolls.processed, rolls.size]
      exact enough
    have pushed := push_of_full full char
    rw [rolls.size] at pushed
    have oldest := rolls.ring_eq
    rw [rolls.ring_eq_window enough] at oldest
    have length : (window blockSize read).length = blockSize := by
      rw [window, List.length_drop]
      omega
    have rolled := adler32Sums_roll (adler32.buffer.getD adler32.cur 0) char (window blockSize read).tail
    rw [← oldest, ← window_concat_of_le positive enough, length] at rolled
    generalize adler32Sums 1 0 (window blockSize read) = old at *
    generalize adler32Sums 1 0 (window blockSize (read ++ [char])) = new at *
    generalize (adler32.buffer.getD adler32.cur 0).toNat = prev at *
    have newA : (new.1 : Int) = old.1 - prev + char.toNat := by omega
    have newB : (new.2 : Int) = old.2 - (prev * blockSize + 1) + (old.1 - prev + char.toNat) := by
      rw [← newA]
      zify at rolled
      linarith [rolled.2]
    rw [pushed.1, pushed.2, newA, newB]
    have movedA : adler32.a - prev + char.toNat ≡ old.1 - prev + char.toNat [ZMOD adler32Prime] :=
      (reducedA.sub_right _).add_right _
    exact ⟨movedA, (reducedB.sub_right _).add movedA⟩
  · have room : adler32.processedBytes < adler32.blockSize := by
      rw [rolls.processed, rolls.size]
      exact not_le.mp enough
    have pushed := push_of_not_full room char
    rw [window_concat_of_lt (not_le.mp enough), adler32Sums_append, pushed.1, pushed.2]
    simp only [adler32Sums]
    push_cast
    exact ⟨reducedA.add_right _, reducedB.add (reducedA.add_right _)⟩

theorem Rolls.push (rolls : Rolls blockSize read adler32) (char : UInt8) :
    Rolls blockSize (read ++ [char]) (adler32.push char) := by
  obtain ⟨a, b⟩ := rolls.push_sums char
  have inside := rolls.cur
  refine ⟨rolls.size, ?_, ?_, ?_, ?_, a, b⟩
  · rw [List.length_append, ← rolls.processed]
    rfl
  · exact (List.length_set ..).trans rolls.length
  · simp only [RollingAdler32.push, rolls.size]
    split <;> omega
  · -- the oldest byte is dropped, and the new one is the last
    have room : read.length + 1 ≤ (List.replicate blockSize 0 ++ read).length := by
      rw [List.length_append, List.length_replicate]
      omega
    rw [rolls.ring_push, rolls.ring, List.tail_drop, ← List.append_assoc, List.length_append,
      List.length_singleton, List.drop_append_of_le_length room]

/-- Once enough bytes were read, the current block is the last of them, and its hash is the hash of
    the ring. -/
theorem Rolls.currentBlock (rolls : Rolls blockSize read adler32) (enough : blockSize ≤ read.length) :
    adler32.currentBlock = window blockSize read ∧ adler32.hash = adler32Hash (window blockSize read) := by
  constructor
  · rw [← rolls.ring_eq_window enough, RollingAdler32.currentBlock, RollingAdler32.ring, rolls.processed,
      rolls.size, if_neg (not_lt.mpr enough)]
    split
    · rename_i atStart
      rw [atStart, List.drop_zero, List.take_zero, List.append_nil]
    · rfl
  · rw [adler32Hash_eq, RollingAdler32.hash, rolls.a, rolls.b]
    congr 1

end RollingAdler32

end FlutterZero.FlutterTools
