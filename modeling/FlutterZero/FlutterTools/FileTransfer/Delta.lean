import FlutterZero.FlutterTools.FileTransfer.Hashing

/-! # What a delta describes

The instructions of `computeDelta` cover the source file from its beginning to
its end, each with a range of one of the two files (`Tiles`).  From that follow
what the pieces add up to, where they are, and what `rebuildFile` writes.
-/

namespace FlutterZero.FlutterTools

open FlutterZero.Lib

def FileDeltaBlock.piece (source destination : List UInt8) (block : FileDeltaBlock) : List UInt8 :=
  if block.copyFromDestination then (destination.drop block.start).take block.size
  else (source.drop block.start).take block.size

/-- The instructions describe the source from one offset to another, in whole blocks where they
    read from the destination. -/
inductive Tiles (blockSize : Nat) (source destination : List UInt8) :
    Nat → List FileDeltaBlock → Nat → Prop where
  | nil (offset : Nat) : Tiles blockSize source destination offset [] offset
  | source {offset size stop : Nat} {rest : List FileDeltaBlock} (inside : offset + size ≤ source.length)
      (tail : Tiles blockSize source destination (offset + size) rest stop) :
      Tiles blockSize source destination offset (.fromSource offset size :: rest) stop
  | destination {offset index count stop : Nat} {rest : List FileDeltaBlock}
      (inside : index * blockSize + count * blockSize ≤ destination.length)
      (fits : offset + count * blockSize ≤ source.length)
      (same : (destination.drop (index * blockSize)).take (count * blockSize) =
        (source.drop offset).take (count * blockSize))
      (tail : Tiles blockSize source destination (offset + count * blockSize) rest stop) :
      Tiles blockSize source destination offset
        (.fromDestination (index * blockSize) (count * blockSize) :: rest) stop

namespace Tiles

variable {blockSize offset middle stop : Nat} {source destination : List UInt8}
  {blocks before after : List FileDeltaBlock}

theorem append (first : Tiles blockSize source destination offset before middle)
    (second : Tiles blockSize source destination middle after stop) :
    Tiles blockSize source destination offset (before ++ after) stop := by
  induction first with
  | nil => exact second
  | source inside _ ih => exact .source inside (ih second)
  | destination inside fits same _ ih => exact .destination inside fits same (ih second)

theorem split (tiles : Tiles blockSize source destination offset (before ++ after) stop) :
    ∃ middle, Tiles blockSize source destination offset before middle ∧
      Tiles blockSize source destination middle after stop := by
  induction before generalizing offset with
  | nil => exact ⟨offset, .nil offset, tiles⟩
  | cons block before ih =>
    cases tiles with
    | source inside tail =>
      obtain ⟨middle, first, second⟩ := ih tail
      exact ⟨middle, .source inside first, second⟩
    | destination inside fits same tail =>
      obtain ⟨middle, first, second⟩ := ih tail
      exact ⟨middle, .destination inside fits same first, second⟩

theorem stop_eq (tiles : Tiles blockSize source destination offset blocks stop) :
    stop = offset + (blocks.map FileDeltaBlock.size).sum := by
  induction tiles with
  | nil => rfl
  | source _ _ ih =>
    rw [ih, List.map_cons, List.sum_cons, ← Nat.add_assoc]
    rfl
  | destination _ _ _ _ ih =>
    rw [ih, List.map_cons, List.sum_cons, ← Nat.add_assoc]
    rfl

theorem take_append_take {size : Nat} (tail : Tiles blockSize source destination (offset + size) blocks stop) :
    (source.drop offset).take size ++ (source.drop (offset + size)).take (stop - (offset + size)) =
      (source.drop offset).take (stop - offset) := by
  have := tail.stop_eq
  rw [← List.drop_drop, ← List.take_add]
  congr 1
  omega

theorem pieces (tiles : Tiles blockSize source destination offset blocks stop) :
    blocks.flatMap (FileDeltaBlock.piece source destination) =
      (source.drop offset).take (stop - offset) := by
  induction tiles with
  | nil => simp
  | source _ tail ih =>
    rw [List.flatMap_cons, ih, ← tail.take_append_take]
    rfl
  | destination _ _ same tail ih =>
    rw [List.flatMap_cons, ih, ← tail.take_append_take, ← same]
    rfl

theorem length_piece (tiles : Tiles blockSize source destination offset blocks stop) :
    ∀ block ∈ blocks, (block.piece source destination).length = block.size := by
  induction tiles with
  | nil => exact nofun
  | source inside _ ih =>
    refine List.forall_mem_cons.mpr ⟨?_, ih⟩
    simp only [FileDeltaBlock.piece, FileDeltaBlock.fromSource, Bool.false_eq_true, if_false,
      List.length_take, List.length_drop]
    omega
  | destination inside _ _ _ ih =>
    refine List.forall_mem_cons.mpr ⟨?_, ih⟩
    simp only [FileDeltaBlock.piece, FileDeltaBlock.fromDestination, if_true, List.length_take,
      List.length_drop]
    omega

theorem destination_inside (tiles : Tiles blockSize source destination offset blocks stop) :
    ∀ block ∈ blocks, block.copyFromDestination = true → block.start + block.size ≤ destination.length := by
  induction tiles with
  | nil => exact nofun
  | source _ _ ih => exact List.forall_mem_cons.mpr ⟨nofun, ih⟩
  | destination inside _ _ _ ih => exact List.forall_mem_cons.mpr ⟨fun _ => inside, ih⟩

end Tiles

def FileDeltaBlock.Transfers (offset : Nat) (block : FileDeltaBlock) : Prop :=
  block.copyFromDestination = false ∧ block.start ≤ offset ∧ offset < block.start + block.size

theorem FileDeltaBlock.transfers_fromSource {start size offset : Nat} :
    (fromSource start size).Transfers offset ↔ start ≤ offset ∧ offset < start + size := by
  simp [Transfers, fromSource]

theorem FileDeltaBlock.not_transfers_fromDestination (start size offset : Nat) :
    ¬ (fromDestination start size).Transfers offset := by
  simp [Transfers, fromDestination]

/-- An offset of the source is covered by a block that was found: the pieces before it end at or
    before the offset, and it ends behind it. -/
def Matched (blocks : List FileDeltaBlock) (offset : Nat) : Prop :=
  ∃ before block after, blocks = before ++ block :: after ∧ block.copyFromDestination = true ∧
    (before.map FileDeltaBlock.size).sum ≤ offset ∧
    offset < (before.map FileDeltaBlock.size).sum + block.size

theorem matched_cons {block : FileDeltaBlock} {blocks : List FileDeltaBlock} {offset : Nat} :
    Matched (block :: blocks) offset ↔
      (block.copyFromDestination = true ∧ offset < block.size) ∨
      (block.size ≤ offset ∧ Matched blocks (offset - block.size)) := by
  constructor
  · rintro ⟨before, found, after, split, copied, starts, ends⟩
    cases before with
    | nil =>
      cases split
      exact .inl ⟨copied, by simpa using ends⟩
    | cons first before =>
      cases split
      simp only [List.map_cons, List.sum_cons] at starts ends
      exact .inr ⟨by omega, before, found, after, rfl, copied, by omega, by omega⟩
  · rintro (⟨copied, ends⟩ | ⟨behind, before, found, after, rfl, copied, starts, ends⟩)
    · exact ⟨[], block, blocks, rfl, copied, Nat.zero_le _, by simpa using ends⟩
    · refine ⟨block :: before, found, after, rfl, copied, ?_, ?_⟩ <;>
        simp only [List.map_cons, List.sum_cons] <;> omega

namespace Tiles

variable {blockSize offset stop : Nat} {source destination : List UInt8} {blocks : List FileDeltaBlock}

theorem start_le_of_source (tiles : Tiles blockSize source destination offset blocks stop) :
    ∀ block ∈ blocks, block.copyFromDestination = false → offset ≤ block.start := by
  induction tiles with
  | nil => exact nofun
  | source _ _ ih =>
    refine List.forall_mem_cons.mpr ⟨fun _ => le_refl _, fun block member copied => ?_⟩
    exact (Nat.le_add_right _ _).trans (ih block member copied)
  | destination _ _ _ _ ih =>
    refine List.forall_mem_cons.mpr ⟨nofun, fun block member copied => ?_⟩
    exact (Nat.le_add_right _ _).trans (ih block member copied)

theorem increasing (tiles : Tiles blockSize source destination offset blocks stop) :
    (blocks.filter fun block => !block.copyFromDestination).Pairwise
      fun block block' => block.start + block.size ≤ block'.start := by
  induction tiles with
  | nil => exact .nil
  | source _ tail ih =>
    refine List.Pairwise.cons (fun block member => ?_) ih
    rw [List.mem_filter] at member
    exact tail.start_le_of_source block member.1 (by simpa using member.2)
  | destination _ _ _ _ ih => exact ih

theorem transfers_iff (tiles : Tiles blockSize source destination offset blocks stop) (position : Nat)
    (behind : offset ≤ position) :
    (∃ block ∈ blocks, block.Transfers position) ↔ position < stop ∧ ¬ Matched blocks (position - offset) := by
  induction tiles with
  | nil =>
    simp only [List.not_mem_nil, false_and, exists_false, false_iff, not_and]
    omega
  | @source offset size stop rest inside tail ih =>
    have ends := tail.stop_eq
    rw [List.exists_mem_cons_iff, matched_cons, FileDeltaBlock.transfers_fromSource]
    simp only [FileDeltaBlock.fromSource, Bool.false_eq_true, false_and, false_or]
    by_cases first : position < offset + size
    · exact iff_of_true (.inl ⟨behind, first⟩) (by omega)
    · have relative : position - offset - size = position - (offset + size) := by omega
      have later : size ≤ position - offset := by omega
      simp only [first, and_false, false_or, later, true_and, relative]
      exact ih (by omega)
  | @destination offset index count stop rest inside fits same tail ih =>
    have ends := tail.stop_eq
    rw [List.exists_mem_cons_iff, matched_cons]
    simp only [FileDeltaBlock.not_transfers_fromDestination, false_or]
    simp only [FileDeltaBlock.fromDestination, true_and]
    by_cases first : position < offset + count * blockSize
    · refine iff_of_false ?_ (by omega)
      -- what is transferred later starts behind the block
      rintro ⟨block, member, transferred, starts, -⟩
      have := tail.start_le_of_source block member transferred
      omega
    · have relative : position - offset - count * blockSize = position - (offset + count * blockSize) := by omega
      have uncovered : ¬ position - offset < count * blockSize := by omega
      have later : count * blockSize ≤ position - offset := by omega
      simp only [uncovered, false_or, later, true_and, relative]
      exact ih (by omega)

theorem found {index : Nat} (tiles : Tiles blockSize source destination 0 blocks offset)
    (inside : index * blockSize + blockSize ≤ destination.length)
    (fits : offset + blockSize ≤ source.length)
    (same : (destination.drop (index * blockSize)).take blockSize = (source.drop offset).take blockSize) :
    Tiles blockSize source destination 0 (blocks ++ [.fromDestination (index * blockSize) blockSize])
      (offset + blockSize) := by
  have block : Tiles blockSize source destination offset [.fromDestination (index * blockSize) (1 * blockSize)]
      (offset + 1 * blockSize) := by
    apply Tiles.destination
    · rwa [Nat.one_mul]
    · rwa [Nat.one_mul]
    · rwa [Nat.one_mul]
    · exact .nil _
  rw [Nat.one_mul] at block
  exact tiles.append block

theorem extended {last : FileDeltaBlock} (positive : 0 < blockSize)
    (tiles : Tiles blockSize source destination 0 (blocks ++ [last]) offset)
    (copied : last.copyFromDestination = true)
    (inside : (last.start + last.size) / blockSize * blockSize + blockSize ≤ destination.length)
    (fits : offset + blockSize ≤ source.length)
    (same : (destination.drop ((last.start + last.size) / blockSize * blockSize)).take blockSize =
      (source.drop offset).take blockSize) :
    Tiles blockSize source destination 0
      (blocks ++ [.fromDestination last.start (last.size + blockSize)]) (offset + blockSize) := by
  obtain ⟨middle, before, final⟩ := tiles.split
  cases final with
  | source => cases copied
  | @destination _ index count _ _ _ _ same' tail =>
    cases tail
    have following : (index * blockSize + count * blockSize) / blockSize * blockSize =
        index * blockSize + count * blockSize := by
      rw [← Nat.add_mul, Nat.mul_div_cancel _ positive]
    simp only [FileDeltaBlock.fromDestination, following] at inside same ⊢
    have longer : count * blockSize + blockSize = (count + 1) * blockSize := (Nat.succ_mul _ _).symm
    have block : Tiles blockSize source destination middle
        [.fromDestination (index * blockSize) ((count + 1) * blockSize)]
        (middle + (count + 1) * blockSize) := by
      apply Tiles.destination
      · omega
      · omega
      · -- the range so far, and the block behind it
        rw [← longer, List.take_add, List.take_add, same', List.drop_drop, List.drop_drop, same]
      · exact .nil _
    rw [← longer, ← Nat.add_assoc] at block
    exact before.append block

theorem transferred (size : Nat) (tiles : Tiles blockSize source destination 0 blocks offset)
    (inside : offset + size ≤ source.length) :
    Tiles blockSize source destination 0 (blocks ++ [.fromSource offset size]) (offset + size) :=
  tiles.append (.source inside (.nil _))

end Tiles

/-! ## The instructions describe the source -/

section

variable {Hash : Type} {md5 : List UInt8 → Hash} {blockSize : Nat} {source destination : List UInt8}
  {hashes : BlockHashes Hash}

structure HashesOf (md5 : List UInt8 → Hash) (blockSize : Nat) (destination : List UInt8)
    (hashes : BlockHashes Hash) : Prop where
  size_eq : hashes.blockSize = blockSize
  adler32_eq : hashes.adler32 = (blocksOf blockSize destination).map adler32Hash
  md5_eq : hashes.md5 = (blocksOf blockSize destination).map md5

/-- MD5 tells the blocks of the destination from all blocks of the source that they are compared
    with. -/
def InjectiveOnBlocks (md5 : List UInt8 → Hash) (blockSize : Nat) (source destination : List UInt8) : Prop :=
  ∀ block ∈ blocksOf blockSize destination, ∀ offset, offset + blockSize ≤ source.length →
    md5 ((source.drop offset).take blockSize) = md5 block → (source.drop offset).take blockSize = block

variable {index : Nat}

theorem HashesOf.md5At_eq_ok (of : HashesOf md5 blockSize destination hashes) {hash : Hash} :
    FileTransfer.md5At hashes index = .ok hash ↔
      ∃ block, (blocksOf blockSize destination)[index]? = some block ∧ md5 block = hash := by
  unfold FileTransfer.md5At
  rw [of.md5_eq, List.getElem?_map]
  cases (blocksOf blockSize destination)[index]? with
  | none => simp
  | some block => simp

theorem HashesOf.range_of_md5 (of : HashesOf md5 blockSize destination hashes) (positive : 0 < blockSize)
    (injective : InjectiveOnBlocks md5 blockSize source destination) {offset : Nat}
    (fits : offset + blockSize ≤ source.length)
    (same : FileTransfer.md5At hashes index = .ok (md5 ((source.drop offset).take blockSize))) :
    index * blockSize + blockSize ≤ destination.length ∧
    (destination.drop (index * blockSize)).take blockSize = (source.drop offset).take blockSize := by
  obtain ⟨block, found, hashed⟩ := of.md5At_eq_ok.mp same
  have equal := injective block (List.mem_of_getElem? found) offset fits hashed.symm
  rw [getElem?_blocksOf positive] at found
  split at found
  · rename_i inside
    rw [Option.some.injEq] at found
    rw [← equal] at found
    refine ⟨?_, found⟩
    -- a block that is a range of the source has full length
    have lengths := congrArg List.length found
    rw [List.length_take, List.length_take, List.length_drop, List.length_drop] at lengths
    omega
  · cases found

theorem calculateBlockHashesOfFile_hashesOf (md5 : List UInt8 → Hash) (md5OfFile : File → Hash)
    (positive : 0 < blockSize) (file : File) :
    ∃ hashes, FileTransfer.calculateBlockHashesOfFile md5 md5OfFile file (some blockSize) = .ok hashes ∧
      HashesOf md5 blockSize file.content hashes := by
  have converted := convertToChunks_spec blockSize [] positive file.chunks
  refine ⟨⟨blockSize, file.length, (blocksOf blockSize file.content).map adler32Hash,
    (blocksOf blockSize file.content).map md5, md5OfFile file⟩, ?_, ⟨rfl, rfl, rfl⟩⟩
  simp only [FileTransfer.calculateBlockHashesOfFile, Option.getD_some, converted, ok_bind]
  rfl

variable {md5OfFile : File → Hash} {file : File}

theorem HashesOf.of_calculated (positive : 0 < blockSize)
    (hashed : FileTransfer.calculateBlockHashesOfFile md5 md5OfFile file (some blockSize) = .ok hashes) :
    HashesOf md5 blockSize file.content hashes := by
  obtain ⟨hashes', hashed', of⟩ := calculateBlockHashesOfFile_hashesOf md5 md5OfFile positive file
  cases hashed.symm.trans hashed'
  exact of

variable [DecidableEq Hash]

theorem findMatch_eq_some {md5Hash : Hash} {candidates : List Nat}
    (found : FileTransfer.findMatch hashes md5Hash candidates = .ok (some index)) :
    FileTransfer.md5At hashes index = .ok md5Hash := by
  induction candidates with
  | nil => cases found
  | cons candidate candidates ih =>
    obtain ⟨hash, hashed, found⟩ := bind_eq_ok.mp found
    split at found
    · rename_i same
      cases found
      rwa [← same]
    · exact ih found

theorem addBlock_tiles (of : HashesOf md5 blockSize destination hashes) (positive : 0 < blockSize)
    (injective : InjectiveOnBlocks md5 blockSize source destination) {offset : Nat}
    (fits : offset + blockSize ≤ source.length)
    (same : FileTransfer.md5At hashes index = .ok (md5 ((source.drop offset).take blockSize)))
    {blocks blocks' : List FileDeltaBlock} (tiles : Tiles blockSize source destination 0 blocks offset)
    (added : FileTransfer.addBlock hashes (md5 ((source.drop offset).take blockSize)) index blocks =
      .ok blocks') : Tiles blockSize source destination 0 blocks' (offset + blockSize) := by
  obtain ⟨inside, range⟩ := of.range_of_md5 positive injective fits same
  have new := tiles.found inside fits range
  simp only [FileTransfer.addBlock, of.size_eq] at added
  cases ends : blocks.getLast? with
  | none =>
    simp only [ends] at added
    cases added
    exact new
  | some last =>
    simp only [ends] at added
    split at added
    · rename_i copied
      obtain ⟨next, hashed, added⟩ := bind_eq_ok.mp added
      split at added
      · rename_i equal
        cases added
        rw [equal] at hashed
        obtain ⟨inside', range'⟩ := of.range_of_md5 positive injective fits hashed
        rw [← List.dropLast_append_getLast? last ends] at tiles
        exact tiles.extended positive copied inside' fits range'
      · cases added
        exact new
    · cases added
      exact new

/-- What holds after the given bytes of the source were read. -/
structure Describes (blockSize : Nat) (source destination read : List UInt8)
    (state : FileTransfer.DeltaState) : Prop where
  rolls : state.adler32.Rolls blockSize read
  size : state.size = read.length
  start : state.start ≤ state.size
  tiles : Tiles blockSize source destination 0 state.blocks state.start

/-- What `readChar` can do: nothing but counting the byte, or adding what is known of the block
    that ends with it. -/
theorem readChar_cases {state state' : FileTransfer.DeltaState} {c : UInt8}
    (stepped : FileTransfer.readChar md5 hashes state c = .ok state') :
    let adler32 := state.adler32.push c
    let size := state.size + 1
    let md5Hash := md5 adler32.currentBlock
    state' = { state with adler32, size } ∧
      (size - state.start < hashes.blockSize ∨
        FileTransfer.findMatch hashes md5Hash (FileTransfer.blockIndices hashes adler32.hash) = .ok none) ∨
    ∃ index blocks, hashes.blockSize ≤ size - state.start ∧
      FileTransfer.findMatch hashes md5Hash (FileTransfer.blockIndices hashes adler32.hash) = .ok (some index) ∧
      FileTransfer.addBlock hashes md5Hash index
        (if size - state.start > hashes.blockSize then
          state.blocks ++ [.fromSource state.start (size - state.start - hashes.blockSize)]
        else state.blocks) = .ok blocks ∧
      state' = { adler32, size, start := size, blocks } := by
  simp only [FileTransfer.readChar] at stepped
  split at stepped
  · rename_i early
    cases stepped
    exact .inl ⟨rfl, .inl early⟩
  · rename_i enough
    obtain ⟨found, search, stepped⟩ := bind_eq_ok.mp stepped
    cases found with
    | none =>
      cases stepped
      exact .inl ⟨rfl, .inr search⟩
    | some index =>
      obtain ⟨blocks, added, stepped⟩ := bind_eq_ok.mp stepped
      cases stepped
      exact .inr ⟨index, blocks, not_lt.mp enough, search, added, rfl⟩

theorem readChar_describes (of : HashesOf md5 blockSize destination hashes) (positive : 0 < blockSize)
    (injective : InjectiveOnBlocks md5 blockSize source destination) {read : List UInt8} {c : UInt8}
    {state state' : FileTransfer.DeltaState} (within : read ++ [c] <+: source)
    (describes : Describes blockSize source destination read state)
    (stepped : FileTransfer.readChar md5 hashes state c = .ok state') :
    Describes blockSize source destination (read ++ [c]) state' := by
  have rolls := describes.rolls.push c
  have size : state.size + 1 = (read ++ [c]).length := by
    rw [describes.size, List.length_append, List.length_singleton]
  have start := describes.start
  have longest := within.length_le
  rcases readChar_cases stepped with ⟨rfl, -⟩ | ⟨index, blocks, enough, search, added, rfl⟩
  · exact ⟨rolls, size, by simp only; omega, describes.tiles⟩
  · rw [of.size_eq] at enough added
    -- the block that ends with the byte, as a range of the source
    have block : (state.adler32.push c).currentBlock =
        (source.drop (state.size + 1 - blockSize)).take blockSize := by
      rw [(rolls.currentBlock (by omega)).1, window, List.prefix_iff_eq_take.mp within, List.drop_take,
        List.length_take_of_le longest, ← size]
      congr 1
      omega
    rw [block] at search added
    have fits : state.size + 1 - blockSize + blockSize ≤ source.length := by omega
    have before : Tiles blockSize source destination 0
        (if state.size + 1 - state.start > blockSize then
          state.blocks ++ [.fromSource state.start (state.size + 1 - state.start - blockSize)]
        else state.blocks) (state.size + 1 - blockSize) := by
      split
      · have tiles := describes.tiles.transferred (state.size + 1 - state.start - blockSize) (by omega)
        rwa [show state.start + (state.size + 1 - state.start - blockSize) = state.size + 1 - blockSize by omega]
          at tiles
      · rw [show state.size + 1 - blockSize = state.start by omega]
        exact describes.tiles
    have tiles := addBlock_tiles of positive injective fits (findMatch_eq_some search) before added
    rw [show state.size + 1 - blockSize + blockSize = state.size + 1 by omega] at tiles
    exact ⟨rolls, size, le_refl _, tiles⟩

variable {delta : List FileDeltaBlock}

theorem differ_of_nonempty
    (computed : FileTransfer.computeDelta md5 md5OfFile file hashes = .ok delta) (nonempty : delta ≠ []) :
    ¬ (file.length = hashes.totalSize ∧ md5OfFile file = hashes.fileMd5) := by
  intro equal
  rw [FileTransfer.computeDelta, if_pos equal, Except.ok.injEq] at computed
  exact nonempty computed.symm

theorem computeDelta_inv (computed : FileTransfer.computeDelta md5 md5OfFile file hashes = .ok delta)
    (differ : ¬ (file.length = hashes.totalSize ∧ md5OfFile file = hashes.fileMd5)) :
    ∃ state, file.content.foldlM (FileTransfer.readChar md5 hashes) ⟨.create hashes.blockSize, 0, 0, []⟩ =
        .ok state ∧
      delta = if state.start < state.size then
          state.blocks ++ [.fromSource state.start (state.size - state.start)]
        else state.blocks := by
  rw [FileTransfer.computeDelta, if_neg differ] at computed
  obtain ⟨state, folded, computed⟩ := bind_eq_ok.mp computed
  refine ⟨state, (foldlM_flatten ..).trans folded, ?_⟩
  split at computed
  · rename_i unfinished
    cases computed
    rw [if_pos unfinished]
  · rename_i finished
    cases computed
    rw [if_neg finished]

theorem computeDelta_tiles (of : HashesOf md5 blockSize destination hashes) (positive : 0 < blockSize)
    (injective : InjectiveOnBlocks md5 blockSize file.content destination)
    (computed : FileTransfer.computeDelta md5 md5OfFile file hashes = .ok delta)
    (differ : ¬ (file.length = hashes.totalSize ∧ md5OfFile file = hashes.fileMd5)) :
    Tiles blockSize file.content destination 0 delta file.length := by
  obtain ⟨state, folded, rfl⟩ := computeDelta_inv computed differ
  have initial : Describes blockSize file.content destination [] ⟨.create hashes.blockSize, 0, 0, []⟩ := by
    rw [of.size_eq]
    exact ⟨RollingAdler32.rolls_create positive, rfl, le_refl _, .nil 0⟩
  have describes : Describes blockSize file.content destination file.content state :=
    foldlM_preserves (fun _ _ _ _ within => readChar_describes of positive injective within) initial folded
  have size : state.size = file.length := describes.size
  have start := describes.start
  split
  · have tiles := describes.tiles.transferred (state.size - state.start)
      (by rw [Nat.add_sub_cancel' start]; exact size.le)
    rw [Nat.add_sub_cancel' start] at tiles
    exact size ▸ tiles
  · have whole : state.start = file.length := by omega
    rw [← whole]
    exact describes.tiles

end

end FlutterZero.FlutterTools
