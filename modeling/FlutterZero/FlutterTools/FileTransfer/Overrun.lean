import FlutterZero.FlutterTools.FileTransfer.Delta

/-! # When `computeDelta` fails

A block that is found directly behind another one is compared with the block that follows that one in
the destination, which there need not be: behind the last block there is no hash to compare with
(`computeDelta_ok_iff`).
-/

namespace FlutterZero.FlutterTools

open FlutterZero.Lib

structure Comparison (Hash : Type) where
  md5 : List UInt8 → Hash
  blockSize : Nat
  source : List UInt8
  destination : List UInt8

namespace Comparison

variable {Hash : Type} (files : Comparison Hash)

def blocks : List (List UInt8) := blocksOf files.blockSize files.destination

/-- The block of the source that begins at `offset`. -/
def range (offset : Nat) : List UInt8 := (files.source.drop offset).take files.blockSize

def SameMd5 (offset index : Nat) : Prop :=
  (files.blocks[index]?).map files.md5 = some (files.md5 (files.range offset))

instance [DecidableEq Hash] (offset index : Nat) : Decidable (files.SameMd5 offset index) :=
  inferInstanceAs (Decidable (_ = _))

def Resembles (offset index : Nat) : Prop :=
  (files.blocks[index]?).map adler32Hash = some (adler32Hash (files.range offset)) ∧ files.SameMd5 offset index

/-- The source has a whole block at `offset`, and the first block of the destination that it resembles
    is the one at `index`. -/
structure Found (offset index : Nat) : Prop where
  whole : offset + files.blockSize ≤ files.source.length
  resembles : files.Resembles offset index
  first : ∀ earlier, earlier < index → ¬ files.Resembles offset earlier

/-- The first block that is found from `start` on. -/
structure FirstFound (start offset index : Nat) : Prop where
  behind : start ≤ offset
  found : files.Found offset index
  first : ∀ earlier, start ≤ earlier → earlier < offset → ∀ index, ¬ files.Found earlier index

section

variable {files : Comparison Hash} {start offset index : Nat} {next : Option Nat}

theorem Found.eq {index' : Nat} (found : files.Found offset index) (found' : files.Found offset index') :
    index = index' := by
  rcases Nat.lt_trichotomy index index' with less | eq | greater
  · exact absurd found.resembles (found'.first index less)
  · exact eq
  · exact absurd found'.resembles (found.first index' greater)

theorem FirstFound.eq {offset' index' : Nat} (first : files.FirstFound start offset index)
    (first' : files.FirstFound start offset' index') : offset = offset' ∧ index = index' := by
  rcases Nat.lt_trichotomy offset offset' with less | rfl | greater
  · exact absurd first.found (first'.first offset first.behind less index)
  · exact ⟨rfl, first.found.eq first'.found⟩
  · exact absurd first'.found (first.first offset' first'.behind greater index')

end

variable [DecidableEq Hash]

/-- Which block of the destination is copied for the one that was found: directly behind another one
    that is followed by `next`, it is `next` if that has the same MD5. -/
def copied (next : Option Nat) (start offset index : Nat) : Nat :=
  match next with
  | some next =>
    if start = offset ∧ files.SameMd5 offset next then next else index
  | none => index

/-- From `start` on, where the last block that was copied is followed by `next` (`none` at the
    beginning), there is a block that is found directly behind one that is copied from the last block
    of the destination. -/
inductive Overruns : Nat → Option Nat → Prop
  | behindLast {start index : Nat} (found : files.Found start index) :
      Overruns start (some files.blocks.length)
  | later {start offset index : Nat} {next : Option Nat} (first : files.FirstFound start offset index)
      (rest : Overruns (offset + files.blockSize) (some (files.copied next start offset index + 1))) :
      Overruns start next

section

variable {files : Comparison Hash} {start offset index : Nat} {next : Option Nat}

theorem overruns_iff (first : files.FirstFound start offset index)
    (inside : ¬ (start = offset ∧ next = some files.blocks.length)) :
    files.Overruns start next ↔
      files.Overruns (offset + files.blockSize) (some (files.copied next start offset index + 1)) := by
  constructor
  · intro overruns
    cases overruns with
    | @behindLast _ index' found =>
      have self : files.FirstFound start start index' := ⟨le_refl _, found, by omega⟩
      exact absurd ⟨(self.eq first).1, rfl⟩ inside
    | later first' rest =>
      obtain ⟨rfl, rfl⟩ := first.eq first'
      exact rest
  · exact .later first

theorem not_overruns (nothing : ∀ offset, start ≤ offset → ∀ index, ¬ files.Found offset index) :
    ¬ files.Overruns start next := by
  intro overruns
  cases overruns with
  | behindLast found => exact nothing _ (le_refl _) _ found
  | later first _ => exact nothing _ first.behind _ first.found

end

end Comparison

/-! ## One block -/

section

variable {Hash : Type} {files : Comparison Hash} {hashes : BlockHashes Hash}

abbrev Comparison.Hashed (files : Comparison Hash) (hashes : BlockHashes Hash) : Prop :=
  HashesOf files.md5 files.blockSize files.destination hashes

variable {index : Nat}

theorem md5At_of_lt (hashed : files.Hashed hashes) (inside : index < files.blocks.length) :
    FileTransfer.md5At hashes index = .ok (files.md5 files.blocks[index]) := by
  rw [hashed.md5At_eq_ok]
  exact ⟨files.blocks[index], List.getElem?_eq_getElem inside, rfl⟩

theorem md5At_of_le (hashed : files.Hashed hashes) (outside : files.blocks.length ≤ index) :
    FileTransfer.md5At hashes index = .error (.range index) := by
  have absent : hashes.md5[index]? = none := by
    rw [List.getElem?_eq_none_iff, hashed.md5_eq, List.length_map]
    exact outside
  rw [FileTransfer.md5At, absent]

variable {offset : Nat}

theorem Comparison.Found.lt (found : files.Found offset index) : index < files.blocks.length := by
  obtain ⟨block, at_, -⟩ := Option.map_eq_some_iff.mp found.resembles.1
  exact (List.getElem?_eq_some_iff.mp at_).1

theorem calculateBlockHashesOfFile_whole {md5 : List UInt8 → Hash} {md5OfFile : File → Hash} {file : File}
    {blockSize : Option Nat}
    (hashed : FileTransfer.calculateBlockHashesOfFile md5 md5OfFile file blockSize = .ok hashes) :
    hashes.totalSize = file.length ∧ hashes.fileMd5 = md5OfFile file := by
  simp only [FileTransfer.calculateBlockHashesOfFile] at hashed
  obtain ⟨chunks, -, hashed⟩ := bind_eq_ok.mp hashed
  cases hashed
  exact ⟨rfl, rfl⟩

variable {read : List UInt8}

theorem currentBlock_eq_range (within : read <+: files.source)
    (whole : files.blockSize ≤ read.length) {adler32 : RollingAdler32} (rolls : adler32.Rolls files.blockSize read) :
    adler32.currentBlock = files.range (read.length - files.blockSize) ∧
    adler32.hash = adler32Hash (files.range (read.length - files.blockSize)) := by
  obtain ⟨block, hash⟩ := rolls.currentBlock whole
  have longest := within.length_le
  have range : window files.blockSize read = files.range (read.length - files.blockSize) := by
    rw [window, Comparison.range, List.prefix_iff_eq_take.mp within, List.drop_take,
      List.length_take_of_le longest]
    congr 1
    omega
  exact ⟨block.trans range, hash.trans (congrArg adler32Hash range)⟩

variable [DecidableEq Hash] {md5Hash : Hash}

theorem findMatch_eq_find? {candidates : List Nat} (inside : ∀ index ∈ candidates, index < hashes.md5.length) :
    FileTransfer.findMatch hashes md5Hash candidates =
      .ok (candidates.find? fun index => decide (hashes.md5[index]? = some md5Hash)) := by
  induction candidates with
  | nil => rfl
  | cons candidate candidates ih =>
    obtain ⟨first, others⟩ := List.forall_mem_cons.mp inside
    have present := List.getElem?_eq_getElem first
    rw [FileTransfer.findMatch, FileTransfer.md5At, present, List.find?_cons]
    by_cases same : hashes.md5[candidate] = md5Hash
    · simp [present, same]
    · simp [present, same, ih others]

theorem findMatch_spec (hashed : files.Hashed hashes) (whole : offset + files.blockSize ≤ files.source.length) :
    ∃ found, FileTransfer.findMatch hashes (files.md5 (files.range offset))
        (FileTransfer.blockIndices hashes (adler32Hash (files.range offset))) = .ok found ∧
      (∀ index, found = some index → files.Found offset index) ∧
      (found = none → ∀ index, ¬ files.Found offset index) := by
  have lengths : hashes.adler32.length = files.blocks.length ∧ hashes.md5.length = files.blocks.length := by
    rw [hashed.adler32_eq, hashed.md5_eq, List.length_map, List.length_map]
    exact ⟨rfl, rfl⟩
  have resembles (index : Nat) : files.Resembles offset index ↔
      hashes.adler32[index]? = some (adler32Hash (files.range offset)) ∧
      hashes.md5[index]? = some (files.md5 (files.range offset)) := by
    rw [hashed.adler32_eq, hashed.md5_eq, List.getElem?_map, List.getElem?_map]
    rfl
  have inside : ∀ index ∈ FileTransfer.blockIndices hashes (adler32Hash (files.range offset)),
      index < hashes.md5.length := by
    intro index member
    rw [FileTransfer.blockIndices, List.mem_filter, List.mem_range] at member
    omega
  refine ⟨_, findMatch_eq_find? inside, fun index found => ?_, fun none index found => ?_⟩
  · rw [FileTransfer.blockIndices, List.find?_filter, List.find?_range_eq_some] at found
    obtain ⟨same, -, first⟩ := found
    refine ⟨whole, (resembles index).mpr (by simpa using same), fun earlier before again => ?_⟩
    have differs := first earlier before
    rw [resembles] at again
    simp [again.1, again.2] at differs
  · rw [FileTransfer.blockIndices, List.find?_filter, List.find?_range_eq_none] at none
    have same := (resembles index).mp found.resembles
    have within : index < hashes.adler32.length := (List.getElem?_eq_some_iff.mp same.1).1
    have differs := none index within
    simp [same.1, same.2] at differs

/-- Which block of the destination follows the last one that was copied, where the last instruction
    copies any. -/
def nextOf (blockSize : Nat) (blocks : List FileDeltaBlock) : Option Nat :=
  match blocks.getLast? with
  | some last => if last.copyFromDestination then some ((last.start + last.size) / blockSize) else none
  | none => none

variable {blockSize : Nat}

theorem nextOf_fromDestination (blocks : List FileDeltaBlock) (start size : Nat) :
    nextOf blockSize (blocks ++ [.fromDestination start size]) = some ((start + size) / blockSize) := by
  simp [nextOf, FileDeltaBlock.fromDestination]

theorem nextOf_fromSource (blocks : List FileDeltaBlock) (start size : Nat) :
    nextOf blockSize (blocks ++ [.fromSource start size]) = none := by
  simp [nextOf, FileDeltaBlock.fromSource]

theorem Comparison.copied_lt (next : Option Nat) (start : Nat)
    (found : files.Found offset index) : files.copied next start offset index < files.blocks.length := by
  cases next with
  | none => exact found.lt
  | some next =>
    rw [Comparison.copied]
    split
    · rename_i same
      obtain ⟨block, at_, -⟩ := Option.map_eq_some_iff.mp same.2
      exact (List.getElem?_eq_some_iff.mp at_).1
    · exact found.lt

theorem addBlock_of_nextOf_none {blocks : List FileDeltaBlock} (next : nextOf hashes.blockSize blocks = none) :
    FileTransfer.addBlock hashes md5Hash index blocks =
      .ok (blocks ++ [.fromDestination (index * hashes.blockSize) hashes.blockSize]) := by
  cases ends : blocks.getLast? with
  | none => simp [FileTransfer.addBlock, ends]
  | some last =>
    have kept : last.copyFromDestination = false := by simpa [nextOf, ends] using next
    simp [FileTransfer.addBlock, ends, kept]

theorem addBlock_of_nextOf_some {next : Nat} {blocks : List FileDeltaBlock}
    (following : nextOf hashes.blockSize blocks = some next) :
    ∃ last : FileDeltaBlock, (last.start + last.size) / hashes.blockSize = next ∧
      FileTransfer.addBlock hashes md5Hash index blocks = (FileTransfer.md5At hashes next).map fun nextMd5 =>
        if nextMd5 = md5Hash then blocks.dropLast ++ [.fromDestination last.start (last.size + hashes.blockSize)]
        else blocks ++ [.fromDestination (index * hashes.blockSize) hashes.blockSize] := by
  cases ends : blocks.getLast? with
  | none => simp [nextOf, ends] at following
  | some last =>
    cases copies : last.copyFromDestination with
    | false => simp [nextOf, ends, copies] at following
    | true =>
      have isNext : (last.start + last.size) / hashes.blockSize = next := by
        simpa [nextOf, ends, copies] using following
      refine ⟨last, isNext, ?_⟩
      simp only [FileTransfer.addBlock, ends, copies, if_true, isNext]
      cases FileTransfer.md5At hashes next with
      | error error => rfl
      | ok nextMd5 =>
        simp only [ok_bind, Except.map]
        split <;> rfl

/-- The instruction for a block that was found ends where the copied block ends, and none can be added
    only where nothing follows the last block. -/
theorem addBlock_spec (hashed : files.Hashed hashes) (positive : 0 < files.blockSize) (blocks : List FileDeltaBlock) :
    (∃ blocks', FileTransfer.addBlock hashes (files.md5 (files.range offset)) index blocks = .ok blocks' ∧
      nextOf files.blockSize blocks' =
        some (files.copied (nextOf files.blockSize blocks) offset offset index + 1) ∧
      ∀ next, nextOf files.blockSize blocks = some next → next < files.blocks.length) ∨
    ∃ next, FileTransfer.addBlock hashes (files.md5 (files.range offset)) index blocks = .error (.range next) ∧
      nextOf files.blockSize blocks = some next ∧ files.blocks.length ≤ next := by
  have added : nextOf files.blockSize
      (blocks ++ [.fromDestination (index * files.blockSize) files.blockSize]) = some (index + 1) := by
    rw [nextOf_fromDestination, ← Nat.succ_mul, Nat.mul_div_cancel _ positive]
  rw [← hashed.size_eq] at added ⊢
  cases next : nextOf hashes.blockSize blocks with
  | none => exact .inl ⟨_, addBlock_of_nextOf_none next, added, nofun⟩
  | some k =>
    obtain ⟨last, following, computed⟩ := addBlock_of_nextOf_some next
    rw [computed]
    rcases Nat.lt_or_ge k files.blocks.length with inside | outside
    · left
      have same : files.SameMd5 offset k ↔ files.md5 files.blocks[k] = files.md5 (files.range offset) := by
        rw [Comparison.SameMd5, List.getElem?_eq_getElem inside, Option.map_some, Option.some.injEq]
      rw [md5At_of_lt hashed inside, Except.map, Comparison.copied]
      by_cases equal : files.SameMd5 offset k
      · -- one more block is copied by the last instruction
        refine ⟨_, rfl, ?_, fun next isNext => Option.some.inj isNext ▸ inside⟩
        rw [if_pos (same.mp equal), nextOf_fromDestination, ← Nat.add_assoc,
          Nat.add_div_right _ (hashed.size_eq ▸ positive), following]
        simp [equal]
      · refine ⟨_, rfl, ?_, fun next isNext => Option.some.inj isNext ▸ inside⟩
        rw [if_neg fun eq => equal (same.mpr eq), added]
        simp [equal]
    · right
      exact ⟨k, by rw [md5At_of_le hashed outside]; rfl, rfl, outside⟩

/-! ## The whole file -/

/-- What holds after the given bytes of the source were read without a failure. -/
structure Scanned (files : Comparison Hash) (read : List UInt8) (state : FileTransfer.DeltaState) : Prop where
  rolls : state.adler32.Rolls files.blockSize read
  size : state.size = read.length
  start : state.start ≤ state.size
  next : ∀ next, nextOf files.blockSize state.blocks = some next → next ≤ files.blocks.length
  nothing : ∀ offset, state.start ≤ offset → offset + files.blockSize ≤ read.length →
    ∀ index, ¬ files.Found offset index
  overruns : files.Overruns 0 none ↔ files.Overruns state.start (nextOf files.blockSize state.blocks)

/-- The instructions to which the one for the block at `offset` is added. -/
def blocksBefore (blockSize offset : Nat) (state : FileTransfer.DeltaState) : List FileDeltaBlock :=
  if offset + blockSize - state.start > blockSize then
    state.blocks ++ [.fromSource state.start (offset + blockSize - state.start - blockSize)]
  else state.blocks

variable {state : FileTransfer.DeltaState}

theorem nextOf_blocksBefore (behind : state.start ≤ offset) : nextOf blockSize (blocksBefore blockSize offset state) =
      if state.start = offset then nextOf blockSize state.blocks else none := by
  rw [blocksBefore]
  by_cases gap : state.start = offset
  · rw [if_neg (by omega), if_pos gap]
  · rw [if_pos (by omega), if_neg gap, nextOf_fromSource]

theorem Scanned.pass (scanned : Scanned files read state)
    (c : UInt8) (nothing : ∀ offset, state.start ≤ offset → offset + files.blockSize = state.size + 1 →
      ∀ index, ¬ files.Found offset index) :
    Scanned files (read ++ [c]) { state with adler32 := state.adler32.push c, size := state.size + 1 } where
  rolls := scanned.rolls.push c
  size := by rw [scanned.size, List.length_append, List.length_singleton]
  start := scanned.start.trans (Nat.le_succ _)
  next := scanned.next
  nothing := fun offset behind inside => by
    rw [List.length_append, List.length_singleton, ← scanned.size] at inside
    by_cases last : offset + files.blockSize = state.size + 1
    · exact nothing offset behind last
    · refine scanned.nothing offset behind ?_
      rw [← scanned.size]
      omega
  overruns := scanned.overruns

theorem Scanned.add (hashed : files.Hashed hashes) (positive : 0 < files.blockSize)
    (scanned : Scanned files read state) (c : UInt8)
    (ends : offset + files.blockSize = state.size + 1) (first : files.FirstFound state.start offset index) :
    (∃ blocks, FileTransfer.addBlock hashes (files.md5 (files.range offset)) index
        (blocksBefore files.blockSize offset state) = .ok blocks ∧
      Scanned files (read ++ [c]) ⟨state.adler32.push c, state.size + 1, state.size + 1, blocks⟩) ∨
    ∃ error, FileTransfer.addBlock hashes (files.md5 (files.range offset)) index
        (blocksBefore files.blockSize offset state) = .error error ∧ files.Overruns 0 none := by
  have next : nextOf files.blockSize (blocksBefore files.blockSize offset state) =
      if state.start = offset then nextOf files.blockSize state.blocks else none := nextOf_blocksBefore first.behind
  rcases addBlock_spec hashed positive (blocksBefore files.blockSize offset state) with
    ⟨blocks, added, following, inside⟩ | ⟨k, failed, atEnd, outside⟩
  · left
    refine ⟨blocks, added, ?_⟩
    have same : files.copied (nextOf files.blockSize (blocksBefore files.blockSize offset state))
        offset offset index = files.copied (nextOf files.blockSize state.blocks) state.start offset index := by
      rw [next]
      split
      · rename_i gapless
        rw [gapless]
      · rename_i gap
        cases nextOf files.blockSize state.blocks with
        | none => rfl
        | some k => simp [Comparison.copied, gap]
    have compared : ¬ (state.start = offset ∧
        nextOf files.blockSize state.blocks = some files.blocks.length) := by
      rintro ⟨gapless, last⟩
      rw [if_pos gapless] at next
      exact absurd (inside _ (next.trans last)) (lt_irrefl _)
    have size : state.size + 1 = (read ++ [c]).length := by
      rw [scanned.size, List.length_append, List.length_singleton]
    rw [same] at following
    refine ⟨scanned.rolls.push c, size, le_refl _, fun k eq => ?_, fun earlier behind inside => ?_, ?_⟩
    · have copied := Comparison.copied_lt (nextOf files.blockSize state.blocks) state.start first.found
      rw [following, Option.some.injEq] at eq
      omega
    · have behind : state.size + 1 ≤ earlier := behind
      omega
    · rw [scanned.overruns, Comparison.overruns_iff first compared, following, ends]
  · right
    refine ⟨.range k, failed, ?_⟩
    -- only an instruction that copies is followed by a block
    have gapless : state.start = offset := by
      by_contra gap
      rw [atEnd, if_neg gap] at next
      cases next
    rw [atEnd, if_pos gapless] at next
    have last : k = files.blocks.length := le_antisymm (scanned.next k next.symm) outside
    rw [scanned.overruns, ← next, last, gapless]
    exact .behindLast first.found

theorem readChar_scanned (hashed : files.Hashed hashes) (positive : 0 < files.blockSize)
    {c : UInt8} (within : read ++ [c] <+: files.source) (scanned : Scanned files read state) :
    (∃ state', FileTransfer.readChar files.md5 hashes state c = .ok state' ∧
      Scanned files (read ++ [c]) state') ∨
    ∃ error, FileTransfer.readChar files.md5 hashes state c = .error error ∧ files.Overruns 0 none := by
  have size : state.size + 1 = (read ++ [c]).length := by
    rw [scanned.size, List.length_append, List.length_singleton]
  have start := scanned.start
  have longest := within.length_le
  by_cases early : state.size + 1 - state.start < files.blockSize
  · left
    refine ⟨{ state with adler32 := state.adler32.push c, size := state.size + 1 }, ?_, ?_⟩
    · simp [FileTransfer.readChar, hashed.size_eq, early]
    · exact scanned.pass c fun offset behind ends => by omega
  · obtain ⟨offset, ends⟩ : ∃ offset, offset + files.blockSize = state.size + 1 :=
      ⟨state.size + 1 - files.blockSize, by omega⟩
    obtain ⟨block, hash⟩ := currentBlock_eq_range within (by omega) (scanned.rolls.push c)
    rw [← size, ← ends, Nat.add_sub_cancel] at block hash
    have whole : offset + files.blockSize ≤ files.source.length := by omega
    obtain ⟨found, search, isFound, notFound⟩ := findMatch_spec hashed whole
    cases found with
    | none =>
      left
      refine ⟨{ state with adler32 := state.adler32.push c, size := state.size + 1 }, ?_, ?_⟩
      · simp [FileTransfer.readChar, hashed.size_eq, early, block, hash, search]
      · refine scanned.pass c fun last _ ends' => ?_
        obtain rfl : last = offset := by omega
        exact notFound rfl
    | some index =>
      have first : files.FirstFound state.start offset index :=
        ⟨by omega, isFound index rfl, fun earlier behind before => scanned.nothing earlier behind (by
          rw [← scanned.size]
          omega)⟩
      have stepped : FileTransfer.readChar files.md5 hashes state c =
          FileTransfer.addBlock hashes (files.md5 (files.range offset)) index
            (blocksBefore files.blockSize offset state) >>= fun blocks =>
              pure { adler32 := state.adler32.push c, size := state.size + 1, start := state.size + 1, blocks } := by
        simp [FileTransfer.readChar, hashed.size_eq, early, block, hash, search, blocksBefore, ends]
      rw [stepped]
      rcases scanned.add hashed positive c ends first with ⟨blocks, added, next⟩ | ⟨error, failed, overruns⟩
      · rw [added]
        exact .inl ⟨_, rfl, next⟩
      · rw [failed]
        exact .inr ⟨error, rfl, overruns⟩

theorem computeDelta_scanned (hashed : files.Hashed hashes) (positive : 0 < files.blockSize)
    {rest : List UInt8} : ∀ {read : List UInt8} {state : FileTransfer.DeltaState},
    read ++ rest = files.source → Scanned files read state →
    (∃ state', rest.foldlM (FileTransfer.readChar files.md5 hashes) state = .ok state' ∧
      Scanned files files.source state') ∨
    ∃ error, rest.foldlM (FileTransfer.readChar files.md5 hashes) state = .error error ∧
      files.Overruns 0 none := by
  induction rest with
  | nil =>
    intro read state split scanned
    rw [List.append_nil] at split
    exact .inl ⟨state, rfl, split ▸ scanned⟩
  | cons c rest ih =>
    intro read state split scanned
    have split' : read ++ [c] ++ rest = files.source := by rw [List.append_assoc]; exact split
    rw [List.foldlM_cons]
    rcases readChar_scanned hashed positive ⟨rest, split'⟩ scanned with
      ⟨state', stepped, scanned'⟩ | ⟨error, failed, overruns⟩
    · rw [stepped]
      exact ih split' scanned'
    · rw [failed]
      exact .inr ⟨error, rfl, overruns⟩

def TakenForEqual (md5OfFile : File → Hash) (source destination : File) : Prop :=
  source.length = destination.length ∧ md5OfFile source = md5OfFile destination

theorem computeDelta_cases (md5 : List UInt8 → Hash) (md5OfFile : File → Hash) (source : File)
    {destination : File} (positive : 0 < blockSize)
    (hashed : FileTransfer.calculateBlockHashesOfFile md5 md5OfFile destination (some blockSize) = .ok hashes) :
    let files : Comparison Hash := ⟨md5, blockSize, source.content, destination.content⟩
    (TakenForEqual md5OfFile source destination ∧
      FileTransfer.computeDelta md5 md5OfFile source hashes = .ok []) ∨
    (¬ TakenForEqual md5OfFile source destination ∧
      (∃ delta, FileTransfer.computeDelta md5 md5OfFile source hashes = .ok delta) ∧ ¬ files.Overruns 0 none) ∨
    (¬ TakenForEqual md5OfFile source destination ∧
      (∃ error, FileTransfer.computeDelta md5 md5OfFile source hashes = .error error) ∧ files.Overruns 0 none) := by
  intro files
  have of := HashesOf.of_calculated positive hashed
  obtain ⟨total, fileMd5⟩ := calculateBlockHashesOfFile_whole hashed
  have hashed : files.Hashed hashes := of
  rw [TakenForEqual, ← total, ← fileMd5, FileTransfer.computeDelta]
  by_cases equal : source.length = hashes.totalSize ∧ md5OfFile source = hashes.fileMd5
  · exact .inl ⟨equal, if_pos equal⟩
  · right
    rw [if_neg equal]
    have initial : Scanned files [] ⟨.create hashes.blockSize, 0, 0, []⟩ := by
      rw [hashed.size_eq]
      refine ⟨RollingAdler32.rolls_create positive, rfl, le_refl _, (fun _ next => by cases next),
        fun offset _ inside => ?_, Iff.rfl⟩
      have positive : 0 < files.blockSize := positive
      simp only [List.length_nil] at inside
      omega
    have all : ([] : List UInt8) ++ source.chunks.flatten = files.source := rfl
    rcases computeDelta_scanned hashed positive all initial with
      ⟨state, folded, scanned⟩ | ⟨error, folded, overruns⟩
    · left
      rw [foldlM_flatten] at folded
      have nothing : ¬ files.Overruns 0 none := by
        rw [scanned.overruns]
        exact Comparison.not_overruns fun offset behind index found =>
          scanned.nothing offset behind found.whole index found
      refine ⟨equal, ?_, nothing⟩
      have folded : source.chunks.foldlM
          (fun state chunk => chunk.foldlM (FileTransfer.readChar md5 hashes) state)
          ⟨.create hashes.blockSize, 0, 0, []⟩ = .ok state := folded
      simp only [folded, ok_bind]
      split
      · exact ⟨_, rfl⟩
      · exact ⟨_, rfl⟩
    · right
      rw [foldlM_flatten] at folded
      refine ⟨equal, ⟨error, ?_⟩, overruns⟩
      have folded : source.chunks.foldlM
          (fun state chunk => chunk.foldlM (FileTransfer.readChar md5 hashes) state)
          ⟨.create hashes.blockSize, 0, 0, []⟩ = .error error := folded
      simp only [folded, error_bind]

end

/-- The delta is computed unless a block of the source is found directly behind one that is copied
    from the last block of the destination, in files that are not taken for equal. -/
theorem computeDelta_ok_iff {Hash : Type} [DecidableEq Hash] (md5 : List UInt8 → Hash)
    (md5OfFile : File → Hash) (source destination : File) (blockSize : Nat) (positive : 1 ≤ blockSize)
    (hashes : BlockHashes Hash)
    (hashed : FileTransfer.calculateBlockHashesOfFile md5 md5OfFile destination (some blockSize) = .ok hashes) :
    (∃ delta, FileTransfer.computeDelta md5 md5OfFile source hashes = .ok delta) ↔
      TakenForEqual md5OfFile source destination ∨
      ¬ (Comparison.mk md5 blockSize source.content destination.content).Overruns 0 none := by
  rcases computeDelta_cases md5 md5OfFile source positive hashed with
    ⟨equal, computed⟩ | ⟨-, computed, inside⟩ | ⟨differ, ⟨error, failed⟩, overruns⟩
  · exact iff_of_true ⟨[], computed⟩ (.inl equal)
  · exact iff_of_true computed (.inr inside)
  · refine iff_of_false ?_ (not_or.mpr ⟨differ, not_not.mpr overruns⟩)
    rintro ⟨delta, computed⟩
    rw [failed] at computed
    cases computed

theorem computeDelta_ok_iff_lastByte :
    (∃ delta, FileTransfer.computeDelta id File.content ⟨[[7, 2]]⟩
      ⟨1, 2, [131074, 196611], [[1], [2]], [1, 2]⟩ = .ok delta) ↔
      TakenForEqual File.content ⟨[[7, 2]]⟩ ⟨[[1, 2]]⟩ ∨
      ¬ (Comparison.mk id 1 [7, 2] [1, 2]).Overruns 0 none := by
  refine computeDelta_ok_iff id File.content ⟨[[7, 2]]⟩ ⟨[[1, 2]]⟩ 1 (by decide) _ ?_
  decide +kernel

/-- The block that was copied is the last of the destination, and the next one is found again. -/
theorem computeDelta_throws :
    ∃ hashes, FileTransfer.calculateBlockHashesOfFile id File.content ⟨[[1]]⟩ (some 1) = .ok hashes ∧
      FileTransfer.computeDelta id File.content ⟨[[1, 1]]⟩ hashes = .error (.range 1) := by
  refine ⟨⟨1, 1, [131074], [[1]], [1]⟩, ?_, ?_⟩
  · decide +kernel
  · decide +kernel

end FlutterZero.FlutterTools
