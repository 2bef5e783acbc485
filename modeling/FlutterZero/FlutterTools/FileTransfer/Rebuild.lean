import FlutterZero.FlutterTools.FileTransfer.Delta

/-! # Rebuilding the source

The destination machine rebuilds the file from instructions that no longer say
where in the source the transferred bytes were, and from a stream of these bytes
that is cut anywhere.  `binaryForRebuilding` fails on instructions that transfer
nothing, which is the case for the sources that are made of whole blocks of the
destination.
-/

namespace FlutterZero.FlutterTools

open FlutterZero.Lib

/-! ## The transferred bytes -/

def transferred (source : List UInt8) (delta : List FileDeltaBlock) : List UInt8 :=
  (delta.filter fun block => !block.copyFromDestination).flatMap fun block =>
    (source.drop block.start).take block.size

section

variable {blockSize offset stop : Nat} {source destination : List UInt8} {delta : List FileDeltaBlock}

theorem readInto_append (done bytes : List UInt8) (room : Nat) :
    FileTransfer.readInto (done ++ List.replicate room 0) done.length bytes =
      done ++ bytes ++ List.replicate (room - bytes.length) 0 := by
  rw [FileTransfer.readInto, List.take_left' rfl, ← List.drop_drop, List.drop_left' rfl, List.drop_replicate]

theorem foldl_readInto (file : File) {blocks : List FileDeltaBlock}
    (inside : ∀ block ∈ blocks, (file.readAt block.start block.size).length = block.size)
    (done : List UInt8) :
    blocks.foldl (fun (buffer, start) current =>
        (FileTransfer.readInto buffer start (file.readAt current.start current.size), start + current.size))
        (done ++ List.replicate (blocks.map FileDeltaBlock.size).sum 0, done.length) =
      (done ++ blocks.flatMap (fun block => file.readAt block.start block.size),
        done.length + (blocks.map FileDeltaBlock.size).sum) := by
  induction blocks generalizing done with
  | nil => simp
  | cons block blocks ih =>
    obtain ⟨first, others⟩ := List.forall_mem_cons.mp inside
    have ih := ih others (done ++ file.readAt block.start block.size)
    rw [List.length_append, first] at ih
    rw [List.foldl_cons, List.map_cons, List.sum_cons]
    simp only
    rw [readInto_append, first, Nat.add_sub_cancel_left, ih,
      List.flatMap_cons, List.append_assoc, Nat.add_assoc]

theorem binaryForRebuilding_of_transfers {file : File} {block : FileDeltaBlock}
    (tiles : Tiles blockSize file.content destination 0 delta stop) (member : block ∈ delta)
    (transfers : block.copyFromDestination = false) :
    FileTransfer.binaryForRebuilding file delta = .ok (transferred file.content delta) := by
  have inside : ∀ block ∈ delta.filter fun block => !block.copyFromDestination,
      (file.readAt block.start block.size).length = block.size := by
    intro block member
    obtain ⟨member, copied⟩ := List.mem_filter.mp member
    have length := tiles.length_piece block member
    rw [FileDeltaBlock.piece, if_neg (by simpa using copied)] at length
    exact length
  have filled := foldl_readInto file inside []
  have kept : block ∈ delta.filter fun block => !block.copyFromDestination :=
    List.mem_filter.mpr ⟨member, by simp [transfers]⟩
  simp only [FileTransfer.binaryForRebuilding]
  cases sizes : (delta.filter fun block => !block.copyFromDestination).map FileDeltaBlock.size with
  | nil =>
    rw [List.map_eq_nil_iff] at sizes
    rw [sizes] at kept
    cases kept
  | cons first rest =>
    have total : rest.foldl (· + ·) first =
        ((delta.filter fun block => !block.copyFromDestination).map FileDeltaBlock.size).sum := by
      rw [sizes, List.sum_eq_foldl_nat, List.foldl_cons, Nat.zero_add]
    have length : (transferred file.content delta).length =
        ((delta.filter fun block => !block.copyFromDestination).map FileDeltaBlock.size).sum := by
      rw [transferred, List.length_flatMap]
      exact congrArg List.sum (List.map_congr_left inside)
    simp only [List.nil_append, List.length_nil, Nat.zero_add] at filled
    simp only [total, filled]
    exact if_pos length.symm

theorem binaryForRebuilding_of_all_found {file : File}
    (found : ∀ block ∈ delta, block.copyFromDestination = true) :
    FileTransfer.binaryForRebuilding file delta = .error .noElement := by
  have none : (delta.filter fun block => !block.copyFromDestination) = [] := by
    rw [List.filter_eq_nil_iff]
    intro block member
    simp [found block member]
  simp only [FileTransfer.binaryForRebuilding, none, List.map_nil]

end

/-! ## The stream of transferred bytes -/

def FileTransfer.BinaryIterator.available (iterator : FileTransfer.BinaryIterator) : List UInt8 :=
  (iterator.current.getD ([], 0)).1.drop (iterator.current.getD ([], 0)).2 ++ iterator.rest.flatten

theorem readBinary_spec (toRead : Nat) (iterator : FileTransfer.BinaryIterator)
    (enough : toRead ≤ iterator.available.length) :
    ∃ iterator', FileTransfer.readBinary toRead iterator = .ok (iterator.available.take toRead, iterator') ∧
      iterator'.available = iterator.available.drop toRead := by
  fun_induction FileTransfer.readBinary toRead iterator with
  | case1 iterator => exact ⟨iterator, by simp, by simp⟩
  | case2 toRead iterator unread current start at_ inside sizeToRead bytes iterator₁ ih =>
    have available : iterator.available = current.drop start ++ iterator.rest.flatten := by
      rw [FileTransfer.BinaryIterator.available, at_]
    have short : sizeToRead ≤ (current.drop start).length := by
      rw [List.length_drop]
      exact min_le_right _ _
    have available₁ : iterator₁.available = iterator.available.drop sizeToRead := by
      rw [available, List.drop_append_of_le_length short, List.drop_drop]
      rfl
    have first : bytes = iterator.available.take sizeToRead := by
      rw [available, List.take_append_of_le_length short]
    have whole : toRead = sizeToRead + (toRead - sizeToRead) := by
      have : sizeToRead ≤ toRead := min_le_left _ _
      omega
    obtain ⟨iterator', read, rest⟩ := ih (by rw [available₁, List.length_drop]; omega)
    refine ⟨iterator', ?_, ?_⟩
    · rw [read, available₁, ok_bind, first]
      conv_rhs => rw [whole, List.take_add]
      rfl
    · rw [rest, available₁, List.drop_drop, ← whole]
  | case3 toRead iterator unread current start at_ exhausted last =>
    have empty : iterator.available = [] := by
      rw [FileTransfer.BinaryIterator.available, at_, last, List.flatten_nil, List.append_nil,
        List.drop_of_length_le (not_lt.mp exhausted)]
    rw [empty, List.length_nil] at enough
    omega
  | case4 toRead iterator unread current start at_ exhausted next rest more ih =>
    have available : iterator.available = FileTransfer.BinaryIterator.available ⟨some (next, 0), rest⟩ := by
      simp only [FileTransfer.BinaryIterator.available, at_, more, List.flatten_cons, Option.getD_some,
        List.drop_zero, List.drop_of_length_le (not_lt.mp exhausted), List.nil_append]
    rw [available] at enough ⊢
    exact ih enough

def FileDeltaBlock.received (block : FileDeltaBlock) : FileDeltaBlock :=
  if block.copyFromDestination then block else .fromSource 0 block.size

theorem fromJson_toJson (block : FileDeltaBlock) : FileDeltaBlock.fromJson block.toJson = some block.received := by
  obtain ⟨copied, start, size⟩ := block
  cases copied <;> rfl

theorem fromJsonList_toJson (delta : List FileDeltaBlock) :
    FileDeltaBlock.fromJsonList (delta.map FileDeltaBlock.toJson) =
      some (delta.map FileDeltaBlock.received) := by
  induction delta with
  | nil => rfl
  | cons block delta ih =>
    rw [FileDeltaBlock.fromJsonList] at ih
    rw [FileDeltaBlock.fromJsonList, List.map_cons, List.mapM_cons, fromJson_toJson, ih]
    rfl

variable {blockSize offset : Nat} {source : List UInt8} {delta : List FileDeltaBlock}

/-- The instructions as they are received, and a stream of what they transfer, give back what they
    describe. -/
theorem rebuildBlocks_of_tiles {stop : Nat} {file : File}
    (tiles : Tiles blockSize source file.content offset delta stop)
    (iterator : FileTransfer.BinaryIterator) (streamed : iterator.available = transferred source delta) :
    FileTransfer.rebuildBlocks file (delta.map FileDeltaBlock.received) iterator =
      .ok ((source.drop offset).take (stop - offset)) := by
  induction tiles generalizing iterator with
  | nil => simp [FileTransfer.rebuildBlocks]
  | @source offset size stop rest inside tail ih =>
    have length : ((source.drop offset).take size).length = size := by
      rw [List.length_take, List.length_drop]
      omega
    have split : iterator.available = (source.drop offset).take size ++ transferred source rest := streamed
    obtain ⟨iterator', read, left⟩ := readBinary_spec size iterator
      (by rw [split, List.length_append, length]; exact Nat.le_add_right _ _)
    rw [split, List.take_left' length] at read
    rw [split, List.drop_left' length] at left
    rw [← tail.take_append_take, List.map_cons, FileTransfer.rebuildBlocks]
    simp only [FileDeltaBlock.received, FileDeltaBlock.fromSource, Bool.false_eq_true, if_false, read, ok_bind,
      ih iterator' left]
    rfl
  | destination inside fits same tail ih =>
    rw [← tail.take_append_take, List.map_cons, FileTransfer.rebuildBlocks]
    simp only [FileDeltaBlock.received, FileDeltaBlock.fromDestination, if_true, ih iterator streamed, ok_bind,
      File.readAt, same]
    rfl

/-! ## Sources made of blocks of the destination -/

/-- The source is nothing but blocks of the destination, one after another. -/
def MadeOfBlocks (blockSize : Nat) (source destination : List UInt8) : Prop :=
  blockSize ∣ source.length ∧ ∀ block ∈ blocksOf blockSize source, block ∈ blocksOf blockSize destination

instance (blockSize : Nat) (source destination : List UInt8) :
    Decidable (MadeOfBlocks blockSize source destination) :=
  inferInstanceAs (Decidable (_ ∧ _))

theorem take_drop_take {bytes : List UInt8} {size count : Nat} (inside : offset + size ≤ count) :
    ((bytes.take count).drop offset).take size = (bytes.drop offset).take size := by
  rw [List.drop_take, List.take_take, min_eq_left (by omega)]

variable {destination : List UInt8}

theorem mem_blocksOf_of_all_found {stop : Nat} (positive : 0 < blockSize)
    (tiles : Tiles blockSize source destination offset delta stop) (aligned : blockSize ∣ offset)
    (found : ∀ block ∈ delta, block.copyFromDestination = true) :
    blockSize ∣ stop ∧ ∀ index, offset ≤ index * blockSize → index * blockSize < stop →
      (source.drop (index * blockSize)).take blockSize ∈ blocksOf blockSize destination := by
  induction tiles with
  | nil => exact ⟨aligned, fun index behind before => absurd before (by omega)⟩
  | source => cases (List.forall_mem_cons.mp found).1
  | @destination offset first count stop rest inside fits same tail ih =>
    obtain ⟨stopAligned, later⟩ := ih (dvd_add aligned (dvd_mul_left blockSize count))
      (List.forall_mem_cons.mp found).2
    refine ⟨stopAligned, fun index behind before => ?_⟩
    by_cases within : index * blockSize < offset + count * blockSize
    · obtain ⟨quotient, rfl⟩ := aligned
      -- the block is one of those that the first instruction copies
      have order : quotient ≤ index ∧ index < quotient + count := by
        rw [Nat.mul_comm blockSize quotient] at behind within
        rw [← Nat.add_mul] at within
        exact ⟨Nat.le_of_mul_le_mul_right behind positive, Nat.lt_of_mul_lt_mul_right within⟩
      obtain ⟨step, rfl⟩ := Nat.exists_eq_add_of_le order.1
      have last : step * blockSize + blockSize ≤ count * blockSize := by
        rw [← Nat.succ_mul]
        exact Nat.mul_le_mul_right blockSize (by omega)
      have copied : (source.drop ((quotient + step) * blockSize)).take blockSize =
          (destination.drop ((first + step) * blockSize)).take blockSize := by
        rw [Nat.add_mul, Nat.mul_comm quotient, ← List.drop_drop, ← take_drop_take last, ← same,
          take_drop_take last, List.drop_drop, ← Nat.add_mul]
      have present := getElem?_blocksOf positive destination (first + step)
      rw [Nat.add_mul, if_pos (by omega), ← Nat.add_mul, ← copied] at present
      exact List.mem_of_getElem? present
    · exact later index (by omega) before

theorem madeOfBlocks_of_all_found (positive : 0 < blockSize)
    (tiles : Tiles blockSize source destination 0 delta source.length)
    (found : ∀ block ∈ delta, block.copyFromDestination = true) : MadeOfBlocks blockSize source destination := by
  obtain ⟨aligned, blocks⟩ := mem_blocksOf_of_all_found positive tiles (dvd_zero _) found
  refine ⟨aligned, fun block member => ?_⟩
  obtain ⟨index, at_⟩ := List.mem_iff_getElem?.mp member
  rw [getElem?_blocksOf positive] at at_
  split at at_
  · rename_i inside
    rw [Option.some.injEq] at at_
    rw [← at_]
    exact blocks index (Nat.zero_le _) inside
  · cases at_

theorem exists_transfers_of_unmade (positive : 0 < blockSize)
    (tiles : Tiles blockSize source destination 0 delta source.length)
    (unmade : ¬ MadeOfBlocks blockSize source destination) : ∃ block ∈ delta, block.copyFromDestination = false := by
  by_contra none
  simp only [not_exists, not_and, Bool.not_eq_false] at none
  exact unmade (madeOfBlocks_of_all_found positive tiles none)

/-- Where something is transferred, the instructions as they are received and the binary for
    rebuilding, however it is cut, give back the source. -/
theorem rebuilt_of_transfers {source destination : File}
    (tiles : Tiles blockSize source.content destination.content 0 delta source.length)
    (transfers : ∃ block ∈ delta, block.copyFromDestination = false) :
    ∃ binary received, FileTransfer.binaryForRebuilding source delta = .ok binary ∧
      FileDeltaBlock.fromJsonList (delta.map FileDeltaBlock.toJson) = some received ∧
      ∀ chunks : List (List UInt8), chunks.flatten = binary →
        FileTransfer.rebuildFile destination received chunks = .ok source.content := by
  obtain ⟨block, member, transfers⟩ := transfers
  refine ⟨_, _, binaryForRebuilding_of_transfers tiles member transfers, fromJsonList_toJson delta, ?_⟩
  intro chunks streamed
  have whole : (source.content.drop 0).take (source.length - 0) = source.content := List.take_length
  have rebuilt := rebuildBlocks_of_tiles tiles ⟨none, chunks⟩ streamed
  rw [whole] at rebuilt
  exact rebuilt

section

variable {Hash : Type} [DecidableEq Hash] {md5 : List UInt8 → Hash} {blockSize : Nat}
  {source destination : List UInt8} {hashes : BlockHashes Hash}

theorem findMatch_eq_none {md5Hash : Hash} {candidates : List Nat}
    (search : FileTransfer.findMatch hashes md5Hash candidates = .ok none) :
    ∀ index ∈ candidates, FileTransfer.md5At hashes index ≠ .ok md5Hash := by
  induction candidates with
  | nil => exact nofun
  | cons candidate candidates ih =>
    obtain ⟨hash, hashed, search⟩ := bind_eq_ok.mp search
    split at search
    · cases search
    · rename_i different
      refine List.forall_mem_cons.mpr ⟨?_, ih search⟩
      rw [hashed]
      exact fun same => different (Except.ok.inj same)

theorem findMatch_ne_none (of : HashesOf md5 blockSize destination hashes) {block : List UInt8}
    (member : block ∈ blocksOf blockSize destination) :
    FileTransfer.findMatch hashes (md5 block) (FileTransfer.blockIndices hashes (adler32Hash block)) ≠
      .ok none := by
  intro search
  obtain ⟨index, at_⟩ := List.mem_iff_getElem?.mp member
  have candidate : index ∈ FileTransfer.blockIndices hashes (adler32Hash block) := by
    rw [FileTransfer.blockIndices, of.adler32_eq, List.mem_filter, List.mem_range, List.length_map]
    exact ⟨(List.getElem?_eq_some_iff.mp at_).1, by simp [at_]⟩
  exact findMatch_eq_none search index candidate (of.md5At_eq_ok.mpr ⟨block, at_, rfl⟩)

theorem addBlock_found {md5Hash : Hash} {index : Nat} {blocks blocks' : List FileDeltaBlock}
    (added : FileTransfer.addBlock hashes md5Hash index blocks = .ok blocks')
    (found : ∀ block ∈ blocks, block.copyFromDestination = true) :
    ∀ block ∈ blocks', block.copyFromDestination = true := by
  have new (size : Nat) {others : List FileDeltaBlock} (start : Nat)
      (found : ∀ block ∈ others, block.copyFromDestination = true) :
      ∀ block ∈ others ++ [FileDeltaBlock.fromDestination start size], block.copyFromDestination = true := by
    intro block member
    rcases List.mem_append.mp member with member | member
    · exact found block member
    · rw [List.mem_singleton.mp member]
      rfl
  simp only [FileTransfer.addBlock] at added
  split at added
  · split at added
    · obtain ⟨next, -, added⟩ := bind_eq_ok.mp added
      split at added
      · cases added
        exact new _ _ fun block member => found block (List.mem_of_mem_dropLast member)
      · cases added
        exact new _ _ found
    · cases added
      exact new _ _ found
  · cases added
    exact new _ _ found

/-- What holds besides after some bytes of a source made of blocks: the last block that was
    completed was found. -/
structure AllFound (blockSize : Nat) (read : List UInt8) (state : FileTransfer.DeltaState) : Prop where
  rolls : state.adler32.Rolls blockSize read
  size : state.size = read.length
  start : state.start = read.length / blockSize * blockSize
  found : ∀ block ∈ state.blocks, block.copyFromDestination = true

theorem readChar_allFound (of : HashesOf md5 blockSize destination hashes) (positive : 0 < blockSize)
    (made : MadeOfBlocks blockSize source destination) {read : List UInt8} {c : UInt8}
    {state state' : FileTransfer.DeltaState} (within : read ++ [c] <+: source)
    (allFound : AllFound blockSize read state)
    (stepped : FileTransfer.readChar md5 hashes state c = .ok state') :
    AllFound blockSize (read ++ [c]) state' := by
  have rolls := allFound.rolls.push c
  have length : (read ++ [c]).length = read.length + 1 := by
    rw [List.length_append, List.length_singleton]
  have size : state.size + 1 = (read ++ [c]).length := by rw [allFound.size, length]
  have start := allFound.start
  have quotient := Nat.div_add_mod' read.length blockSize
  have remainder := Nat.mod_lt read.length positive
  have cases := readChar_cases stepped
  simp only [of.size_eq] at cases
  by_cases complete : blockSize ∣ read.length + 1
  · have last : (read.length + 1) / blockSize * blockSize = read.length + 1 := Nat.div_mul_cancel complete
    have previous : read.length / blockSize * blockSize + blockSize = read.length + 1 := by
      rw [← Nat.add_one_mul, ← Nat.succ_div_of_dvd complete, last]
    rcases cases with ⟨rfl, early | search⟩ | ⟨index, blocks, enough, search, added, rfl⟩
    · omega
    · -- the block that is complete now is one of the source, so of the destination
      have longest := within.length_le
      obtain ⟨current, hashed⟩ := rolls.currentBlock (by omega)
      have block : window blockSize (read ++ [c]) =
          (source.drop (read.length / blockSize * blockSize)).take blockSize := by
        rw [window, List.prefix_iff_eq_take.mp within, List.drop_take, List.length_take_of_le longest]
        congr 1
        · omega
        · congr 1
          omega
      have present := getElem?_blocksOf positive source (read.length / blockSize)
      rw [if_pos (by omega), ← block] at present
      rw [current, hashed] at search
      exact absurd search (findMatch_ne_none of (made.2 _ (List.mem_of_getElem? present)))
    · rw [if_neg (by omega)] at added
      exact ⟨rolls, size, by rw [length, last]; exact size.trans length, addBlock_found added allFound.found⟩
  · have same : (read.length + 1) / blockSize = read.length / blockSize := Nat.succ_div_of_not_dvd complete
    rcases cases with ⟨rfl, -⟩ | ⟨index, blocks, enough, -⟩
    · exact ⟨rolls, size, by rw [length, same]; exact start, allFound.found⟩
    · -- so many bytes since the last block would be a block
      refine absurd ⟨read.length / blockSize + 1, ?_⟩ complete
      rw [Nat.mul_add, Nat.mul_comm]
      omega

theorem all_found_of_madeOfBlocks {md5OfFile : File → Hash} {file : File}
    (of : HashesOf md5 blockSize destination hashes) (positive : 0 < blockSize)
    (made : MadeOfBlocks blockSize file.content destination) {delta : List FileDeltaBlock}
    (computed : FileTransfer.computeDelta md5 md5OfFile file hashes = .ok delta) (nonempty : delta ≠ []) :
    ∀ block ∈ delta, block.copyFromDestination = true := by
  obtain ⟨state, folded, rfl⟩ := computeDelta_inv computed (differ_of_nonempty computed nonempty)
  have initial : AllFound blockSize [] ⟨.create hashes.blockSize, 0, 0, []⟩ := by
    rw [of.size_eq]
    exact ⟨RollingAdler32.rolls_create positive, rfl, by simp, nofun⟩
  have allFound : AllFound blockSize file.content state :=
    foldlM_preserves (fun _ _ _ _ within => readChar_allFound of positive made within) initial folded
  have start : state.start = state.size := by
    rw [allFound.start, allFound.size, Nat.div_mul_cancel made.1]
  rw [if_neg (by omega)]
  exact allFound.found

end

/-! ## The transfer as a whole -/

structure Reconstructs (source destination : File) (delta : List FileDeltaBlock) : Prop where
  pieces : delta.flatMap (FileDeltaBlock.piece source.content destination.content) = source.content
  inside : ∀ block ∈ delta, block.copyFromDestination = true → block.start + block.size ≤ destination.length
  increasing : (delta.filter fun block => !block.copyFromDestination).Pairwise
    fun block block' => block.start + block.size ≤ block'.start
  exactly : ∀ offset, (∃ block ∈ delta, block.Transfers offset) ↔
    offset < source.length ∧ ¬ Matched delta offset
  /-- The binary for rebuilding, however it is cut, and the instructions as they are received. -/
  rebuilt : ∃ binary received, FileTransfer.binaryForRebuilding source delta = .ok binary ∧
    FileDeltaBlock.fromJsonList (delta.map FileDeltaBlock.toJson) = some received ∧
    ∀ chunks : List (List UInt8), chunks.flatten = binary →
      FileTransfer.rebuildFile destination received chunks = .ok source.content

/-- Whenever instructions are returned, they reconstruct the source if and only if it is not made
    of blocks of the destination; in that case nothing is left to transfer, and there is no binary. -/
theorem reconstructs_iff_not_madeOfBlocks {Hash : Type} [DecidableEq Hash] (md5 : List UInt8 → Hash)
    (md5OfFile : File → Hash) (source destination : File) (blockSize : Nat) (positive : 1 ≤ blockSize)
    (injective : InjectiveOnBlocks md5 blockSize source.content destination.content)
    (hashes : BlockHashes Hash)
    (hashed : FileTransfer.calculateBlockHashesOfFile md5 md5OfFile destination (some blockSize) = .ok hashes)
    (delta : List FileDeltaBlock)
    (computed : FileTransfer.computeDelta md5 md5OfFile source hashes = .ok delta) (nonempty : delta ≠ []) :
    Reconstructs source destination delta ↔
      ¬ MadeOfBlocks blockSize source.content destination.content := by
  have of := HashesOf.of_calculated positive hashed
  have tiles := computeDelta_tiles of positive injective computed (differ_of_nonempty computed nonempty)
  constructor
  · intro reconstructs made
    obtain ⟨binary, -, rebuilding, -⟩ := reconstructs.rebuilt
    rw [binaryForRebuilding_of_all_found (all_found_of_madeOfBlocks of positive made computed nonempty)]
      at rebuilding
    cases rebuilding
  · intro unmade
    have whole : (source.content.drop 0).take (source.length - 0) = source.content := List.take_length
    refine ⟨tiles.pieces.trans whole, tiles.destination_inside, tiles.increasing, ?_, ?_⟩
    · exact fun offset => tiles.transfers_iff offset (Nat.zero_le _)
    · exact rebuilt_of_transfers tiles (exists_transfers_of_unmade positive tiles unmade)

/-- Two files of which the second has blocks of the first, one of them at its end. -/
def olderFile : File := ⟨[[1, 2, 3], [4]]⟩

def newerFile : File := ⟨[[3, 4, 9], [1, 2]]⟩

theorem reconstructs_iff_not_madeOfBlocks_newerFile :
    Reconstructs newerFile olderFile [.fromDestination 2 2, .fromSource 2 1, .fromDestination 0 2] := by
  have injective : InjectiveOnBlocks (id : List UInt8 → List UInt8) 2 newerFile.content olderFile.content :=
    fun _ _ _ _ same => same
  refine (reconstructs_iff_not_madeOfBlocks id File.content newerFile olderFile 2 (by decide) injective
    ⟨2, 4, [393220, 786440], [[1, 2], [3, 4]], [1, 2, 3, 4]⟩ ?_ _ ?_ (by decide)).mpr ?_
  · decide +kernel
  · decide +kernel
  · decide

def swappedFile : File := ⟨[[2, 1]]⟩

/-- Both blocks are found, and the binary for rebuilding cannot be computed. -/
theorem binaryForRebuilding_throws :
    ∃ hashes, FileTransfer.calculateBlockHashesOfFile id File.content ⟨[[1, 2, 3]]⟩ (some 1) = .ok hashes ∧
      FileTransfer.computeDelta id File.content swappedFile hashes =
        .ok [.fromDestination 1 1, .fromDestination 0 1] ∧
      FileTransfer.binaryForRebuilding swappedFile [.fromDestination 1 1, .fromDestination 0 1] =
        .error .noElement ∧
      ¬ Reconstructs swappedFile ⟨[[1, 2, 3]]⟩ [.fromDestination 1 1, .fromDestination 0 1] := by
  refine ⟨⟨1, 3, [131074, 196611, 262148], [[1], [2], [3]], [1, 2, 3]⟩, ?_, ?_, rfl, ?_⟩
  · decide +kernel
  · decide +kernel
  · rintro ⟨-, -, -, -, binary, -, rebuilding, -⟩
    cases rebuilding

end FlutterZero.FlutterTools
