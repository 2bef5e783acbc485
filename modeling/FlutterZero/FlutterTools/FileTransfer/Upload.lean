import FlutterZero.FlutterTools.FileTransfer.Overrun
import FlutterZero.FlutterTools.FileTransfer.Rebuild

/-! # Updating a remote file

The steps of `ProxiedDevice.applicationPackageId` (`devices.dart`) for a file that is on the remote
end already: its blocks are hashed there, and unless the delta is empty, the instructions and what
they transfer are sent, from which the remote end rebuilds the file.
-/

namespace FlutterZero.FlutterTools

open FlutterZero.Lib

variable {Hash : Type} [DecidableEq Hash]

/-- What is in the remote file in the end, or `none` where something is thrown.  The binary is sent as
    the stream `stream` makes of it. -/
def updateRemote (md5 : List UInt8 → Hash) (md5OfFile : File → Hash) (blockSize : Option Nat)
    (stream : List UInt8 → List (List UInt8)) (source destination : File) : Option (List UInt8) := do
  let rollingHashResult ←
    (FileTransfer.calculateBlockHashesOfFile md5 md5OfFile destination blockSize).toOption
  let delta ← (FileTransfer.computeDelta md5 md5OfFile source rollingHashResult).toOption
  if delta.isEmpty then return destination.content
  let buffer ← (FileTransfer.binaryForRebuilding source delta).toOption
  let received ← FileDeltaBlock.fromJsonList (delta.map FileDeltaBlock.toJson)
  (FileTransfer.rebuildFile destination received (stream buffer)).toOption

/-- The remote file becomes the source, and what leads to it is as it should be. -/
structure Updates (md5 : List UInt8 → Hash) (md5OfFile : File → Hash) (blockSize : Option Nat)
    (source destination : File) : Prop where
  updated : ∀ stream : List UInt8 → List (List UInt8), (∀ bytes, (stream bytes).flatten = bytes) →
    updateRemote md5 md5OfFile blockSize stream source destination = some source.content
  /-- No instructions are needed only for files that are equal. -/
  empty : ∀ hashes, FileTransfer.calculateBlockHashesOfFile md5 md5OfFile destination blockSize = .ok hashes →
    FileTransfer.computeDelta md5 md5OfFile source hashes = .ok [] → source.content = destination.content
  defined : ∀ hashes delta,
    FileTransfer.calculateBlockHashesOfFile md5 md5OfFile destination blockSize = .ok hashes →
    FileTransfer.computeDelta md5 md5OfFile source hashes = .ok delta → delta ≠ [] →
    ∃ binary, FileTransfer.binaryForRebuilding source delta = .ok binary

def usedBlockSize (blockSize : Option Nat) (file : File) : Nat :=
  blockSize.getD (max (ceilSqrt file.length) 2560)

theorem usedBlockSize_pos {blockSize : Option Nat} (positive : ∀ size ∈ blockSize, 1 ≤ size) (file : File) :
    0 < usedBlockSize blockSize file := by
  cases blockSize with
  | none =>
    show 0 < max (ceilSqrt file.length) 2560
    omega
  | some size => exact positive size rfl

section

variable {md5 : List UInt8 → Hash} {md5OfFile : File → Hash} {blockSize : Option Nat} {size : Nat}
  {source destination : File} {hashes : BlockHashes Hash} {delta : List FileDeltaBlock}

variable {stream : List UInt8 → List (List UInt8)}

theorem updateRemote_of_failed {error : TransferError}
    (hashed : FileTransfer.calculateBlockHashesOfFile md5 md5OfFile destination blockSize = .ok hashes)
    (failed : FileTransfer.computeDelta md5 md5OfFile source hashes = .error error) :
    updateRemote md5 md5OfFile blockSize stream source destination = none := by
  simp [updateRemote, hashed, failed, Except.toOption]

theorem updateRemote_of_empty
    (hashed : FileTransfer.calculateBlockHashesOfFile md5 md5OfFile destination blockSize = .ok hashes)
    (computed : FileTransfer.computeDelta md5 md5OfFile source hashes = .ok []) :
    updateRemote md5 md5OfFile blockSize stream source destination = some destination.content := by
  simp [updateRemote, hashed, computed, Except.toOption]

theorem updateRemote_of_rebuilt {received : List FileDeltaBlock} {binary content : List UInt8}
    (hashed : FileTransfer.calculateBlockHashesOfFile md5 md5OfFile destination blockSize = .ok hashes)
    (computed : FileTransfer.computeDelta md5 md5OfFile source hashes = .ok delta) (nonempty : delta ≠ [])
    (transferred : FileTransfer.binaryForRebuilding source delta = .ok binary)
    (sent : FileDeltaBlock.fromJsonList (delta.map FileDeltaBlock.toJson) = some received)
    (rebuilt : FileTransfer.rebuildFile destination received (stream binary) = .ok content) :
    updateRemote md5 md5OfFile blockSize stream source destination = some content := by
  simp [updateRemote, hashed, computed, Except.toOption, nonempty, transferred, sent, rebuilt]

theorem content_eq_nil_of_empty (positive : 0 < size)
    (of : HashesOf md5 size destination.content hashes)
    (injective : InjectiveOnBlocks md5 size source.content destination.content)
    (differ : ¬ (source.length = hashes.totalSize ∧ md5OfFile source = hashes.fileMd5))
    (computed : FileTransfer.computeDelta md5 md5OfFile source hashes = .ok []) : source.content = [] := by
  have tiles := computeDelta_tiles of positive injective computed differ
  have whole : source.content.length = 0 := tiles.stop_eq
  exact List.eq_nil_of_length_eq_zero whole

theorem computeDelta_of_content_eq_nil (empty : source.content = [])
    (computed : FileTransfer.computeDelta md5 md5OfFile source hashes = .ok delta)
    (differ : ¬ (source.length = hashes.totalSize ∧ md5OfFile source = hashes.fileMd5)) : delta = [] := by
  obtain ⟨state, folded, rfl⟩ := computeDelta_inv computed differ
  rw [empty, List.foldlM_nil, pure_eq_ok, Except.ok.injEq] at folded
  rw [← folded]
  rfl

theorem updates_iff_of_empty
    (hashed : FileTransfer.calculateBlockHashesOfFile md5 md5OfFile destination blockSize = .ok hashes)
    (computed : FileTransfer.computeDelta md5 md5OfFile source hashes = .ok []) :
    Updates md5 md5OfFile blockSize source destination ↔ source.content = destination.content := by
  constructor
  · intro updates
    exact updates.empty hashes hashed computed
  · intro same
    refine ⟨fun stream _ => ?_, fun _ _ _ => same, fun hashes' delta hashed' computed' nonempty => ?_⟩
    · rw [updateRemote_of_empty hashed computed, same]
    · cases hashed.symm.trans hashed'
      cases computed.symm.trans computed'
      exact absurd rfl nonempty

theorem not_updates_of_failed {error : TransferError}
    (hashed : FileTransfer.calculateBlockHashesOfFile md5 md5OfFile destination blockSize = .ok hashes)
    (failed : FileTransfer.computeDelta md5 md5OfFile source hashes = .error error) :
    ¬ Updates md5 md5OfFile blockSize source destination := by
  intro updates
  have updated := updates.updated (fun bytes => [bytes]) (fun bytes => by simp)
  rw [updateRemote_of_failed hashed failed] at updated
  cases updated

theorem updates_iff_of_nonempty (positive : 0 < size) (of : HashesOf md5 size destination.content hashes)
    (injective : InjectiveOnBlocks md5 size source.content destination.content)
    (differ : ¬ (source.length = hashes.totalSize ∧ md5OfFile source = hashes.fileMd5))
    (hashed : FileTransfer.calculateBlockHashesOfFile md5 md5OfFile destination blockSize = .ok hashes)
    (computed : FileTransfer.computeDelta md5 md5OfFile source hashes = .ok delta) (nonempty : delta ≠ []) :
    Updates md5 md5OfFile blockSize source destination ↔
      ¬ MadeOfBlocks size source.content destination.content := by
  constructor
  · intro updates made
    obtain ⟨binary, transferred⟩ := updates.defined hashes delta hashed computed nonempty
    rw [binaryForRebuilding_of_all_found (all_found_of_madeOfBlocks of positive made computed nonempty)]
      at transferred
    cases transferred
  · intro unmade
    have tiles := computeDelta_tiles of positive injective computed differ
    obtain ⟨binary, received, transferred, sent, rebuilt⟩ :=
      rebuilt_of_transfers tiles (exists_transfers_of_unmade positive tiles unmade)
    refine ⟨fun stream whole => ?_, fun hashes' hashed' computed' => ?_,
      fun hashes' delta' hashed' computed' _ => ?_⟩
    · exact updateRemote_of_rebuilt hashed computed nonempty transferred sent (rebuilt _ (whole binary))
    · cases hashed.symm.trans hashed'
      rw [computed, Except.ok.injEq] at computed'
      exact absurd computed' nonempty
    · cases hashed.symm.trans hashed'
      cases computed.symm.trans computed'
      exact ⟨binary, transferred⟩

end

/-- What the files have to be like: taken for equal only if they are, and otherwise such that no hash is
    looked for behind the last one, and something is transferred. -/
structure Updatable (md5 : List UInt8 → Hash) (md5OfFile : File → Hash) (blockSize : Nat)
    (source destination : File) : Prop where
  equal : TakenForEqual md5OfFile source destination → source.content = destination.content
  inside : ¬ TakenForEqual md5OfFile source destination →
    ¬ (Comparison.mk md5 blockSize source.content destination.content).Overruns 0 none
  unmade : ¬ TakenForEqual md5OfFile source destination →
    MadeOfBlocks blockSize source.content destination.content → source.content = [] ∧ destination.content = []

/-- The remote file is updated exactly for such files. -/
theorem updates_iff_updatable (md5 : List UInt8 → Hash) (md5OfFile : File → Hash) (blockSize : Option Nat)
    (positive : ∀ size ∈ blockSize, 1 ≤ size) (source destination : File)
    (injective : InjectiveOnBlocks md5 (usedBlockSize blockSize destination) source.content
      destination.content) :
    Updates md5 md5OfFile blockSize source destination ↔
      Updatable md5 md5OfFile (usedBlockSize blockSize destination) source destination := by
  have positive := usedBlockSize_pos positive destination
  obtain ⟨hashes, hashed, of⟩ := calculateBlockHashesOfFile_hashesOf md5 md5OfFile positive destination
  have hashed : FileTransfer.calculateBlockHashesOfFile md5 md5OfFile destination blockSize = .ok hashes := hashed
  obtain ⟨total, fileMd5⟩ := calculateBlockHashesOfFile_whole hashed
  have taken : TakenForEqual md5OfFile source destination ↔
      source.length = hashes.totalSize ∧ md5OfFile source = hashes.fileMd5 := by
    rw [total, fileMd5, TakenForEqual]
  have unmade_of_empty (empty : source.content = []) :
      MadeOfBlocks (usedBlockSize blockSize destination) source.content destination.content := by
    rw [empty]
    exact ⟨dvd_zero _, by simp [blocksOf_nil]⟩
  rcases computeDelta_cases md5 md5OfFile source positive hashed with
    ⟨equal, computed⟩ | ⟨differ, ⟨delta, computed⟩, inside⟩ | ⟨differ, ⟨error, failed⟩, overruns⟩
  · -- nothing is done, so the files have to be equal
    rw [updates_iff_of_empty hashed computed]
    constructor
    · intro same
      exact ⟨fun _ => same, fun differ => absurd equal differ, fun differ => absurd equal differ⟩
    · intro updatable
      exact updatable.equal equal
  · have unequal := fun equal => differ (taken.mpr equal)
    by_cases empty : delta = []
    · -- the source is empty, so the destination has to be
      rw [empty] at computed
      rw [updates_iff_of_empty hashed computed]
      have noSource := content_eq_nil_of_empty positive of injective unequal computed
      constructor
      · intro same
        exact ⟨fun equal => absurd equal differ, fun _ => inside, fun _ _ => ⟨noSource, same ▸ noSource⟩⟩
      · intro updatable
        exact noSource.trans (updatable.unmade differ (unmade_of_empty noSource)).2.symm
    · rw [updates_iff_of_nonempty positive of injective unequal hashed computed empty]
      constructor
      · intro unmade
        exact ⟨fun equal => absurd equal differ, fun _ => inside, fun _ made => absurd made unmade⟩
      · intro updatable made
        exact empty (computeDelta_of_content_eq_nil (updatable.unmade differ made).1 computed unequal)
  · exact iff_of_false (not_updates_of_failed hashed failed) fun updatable => updatable.inside differ overruns

/-- The last byte of the source is new. -/
theorem updates_iff_updatable_newByte :
    Updates id File.content none ⟨[[1, 2, 9]]⟩ ⟨[[1, 2]]⟩ ↔
      Updatable id File.content (usedBlockSize none ⟨[[1, 2]]⟩) ⟨[[1, 2, 9]]⟩ ⟨[[1, 2]]⟩ :=
  updates_iff_updatable id File.content none nofun ⟨[[1, 2, 9]]⟩ ⟨[[1, 2]]⟩ fun _ _ _ _ same => same

/-- An empty file needs no instructions, and the remote file stays as it is. -/
theorem not_updates_of_empty : ¬ Updates id File.content none ⟨[]⟩ ⟨[[1]]⟩ := by
  intro updates
  have computed : FileTransfer.computeDelta id File.content ⟨[]⟩ ⟨2560, 1, [131074], [[1]], [1]⟩ = .ok [] := by
    decide +kernel
  have same := updates.empty ⟨2560, 1, [131074], [[1]], [1]⟩ (by decide +kernel) computed
  exact absurd same (by decide)

end FlutterZero.FlutterTools
