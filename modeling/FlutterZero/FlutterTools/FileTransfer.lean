import FlutterZero.Lib.Machine

/-! # File transfer by deltas

`FileTransfer` (`file_transfer.dart`): one side hashes the blocks of the file it
has, the other finds these blocks in the file to be transferred with a rolling
hash, and sends what was not found.

A file is what `openRead` delivers, chunk by chunk.  MD5 is a parameter: `md5`
hashes a block, and `md5OfFile` a whole file as it is read.
-/

namespace FlutterZero.FlutterTools

open FlutterZero.Lib

structure File where
  chunks : List (List UInt8)

namespace File

def content (file : File) : List UInt8 := file.chunks.flatten

def length (file : File) : Nat := file.content.length

/-- What is read after `setPosition`; less at the end of the file. -/
def readAt (file : File) (position size : Nat) : List UInt8 := (file.content.drop position).take size

end File

/-- What is thrown. -/
inductive TransferError where
  /-- A failed `assert`. -/
  | assertion
  | range (index : Nat)
  | noElement
deriving DecidableEq, Repr

/-! ## Chunks of one size -/

def addSublist (chunkSize : Nat) (bytesBuilder sublist : List UInt8) : List UInt8 × List (List UInt8) :=
  if bytesBuilder.isEmpty ∧ sublist.length = chunkSize then (bytesBuilder, [sublist])
  else
    let bytesBuilder := bytesBuilder ++ sublist
    if bytesBuilder.length = chunkSize then ([], [bytesBuilder]) else (bytesBuilder, [])

/-- The loop over one chunk of `convertToChunks`. -/
def convertChunk (chunkSize : Nat) (bytesBuilder chunk : List UInt8) :
    Except TransferError (List UInt8 × List (List UInt8)) :=
  if chunk.isEmpty then .ok (bytesBuilder, [])
  else
    let sizeToTake := min (chunkSize - bytesBuilder.length) chunk.length
    if _positive : 0 < sizeToTake then do
      let (bytesBuilder, added) := addSublist chunkSize bytesBuilder (chunk.take sizeToTake)
      let (bytesBuilder, rest) ← convertChunk chunkSize bytesBuilder (chunk.drop sizeToTake)
      return (bytesBuilder, added ++ rest)
    else .error .assertion
termination_by chunk.length
decreasing_by
  rw [List.length_drop]
  omega

/-- All chunks of the source one after another, and at its end what is left in the builder. -/
def convertToChunks (chunkSize : Nat) : List UInt8 → List (List UInt8) →
    Except TransferError (List (List UInt8))
  | bytesBuilder, [] => .ok (if bytesBuilder.isEmpty then [] else [bytesBuilder])
  | bytesBuilder, chunk :: source => do
    let (bytesBuilder, added) ← convertChunk chunkSize bytesBuilder chunk
    let rest ← convertToChunks chunkSize bytesBuilder source
    return added ++ rest

/-! ## Adler-32 -/

def adler32Prime : Nat := 65521

def adler32Value (a b : Nat) : Nat := ((b &&& 0xffff) <<< 16) ||| (a &&& 0xffff)

def maxChunkSize : Nat := Nat.sqrt (0x1fffffffffffff / 255) - 1

def adler32Sums (a b : Nat) : List UInt8 → Nat × Nat
  | [] => (a, b)
  | byte :: rest => adler32Sums (a + byte.toNat) (b + (a + byte.toNat)) rest

def adler32Loop (a b : Nat) (binary : List UInt8) : Nat × Nat :=
  if _empty : binary = [] then (a, b)
  else
    let (a, b) := adler32Sums a b (binary.take maxChunkSize)
    adler32Loop (a % adler32Prime) (b % adler32Prime) (binary.drop maxChunkSize)
termination_by binary.length
decreasing_by
  have positive : 0 < maxChunkSize := by decide +kernel
  have nonempty := List.length_pos_iff.mpr _empty
  rw [List.length_drop]
  omega

def adler32Hash (binary : List UInt8) : Nat :=
  let (a, b) := adler32Loop 1 0 binary
  adler32Value a b

/-- The hash of the last `blockSize` bytes, which are kept in a ring. -/
structure RollingAdler32 where
  blockSize : Nat
  processedBytes : Nat
  buffer : List UInt8
  cur : Nat
  a : Int
  b : Int
deriving DecidableEq, Repr

namespace RollingAdler32

def create (blockSize : Nat) : RollingAdler32 := ⟨blockSize, 0, List.replicate blockSize 0, 0, 1, 0⟩

def hash (adler32 : RollingAdler32) : Nat := adler32Value adler32.a.toNat adler32.b.toNat

def push (adler32 : RollingAdler32) (char : UInt8) : RollingAdler32 :=
  let processedBytes := adler32.processedBytes + 1
  let prev := (adler32.buffer.getD adler32.cur 0).toNat
  let (a, b) :=
    if processedBytes > adler32.blockSize then
      (adler32.a - prev, adler32.b - (prev * adler32.blockSize + 1))
    else (adler32.a, adler32.b)
  let a := a + char.toNat
  let b := b + a
  let cur := adler32.cur + 1
  { adler32 with
    processedBytes
    buffer := adler32.buffer.set adler32.cur char
    cur := if cur = adler32.blockSize then 0 else cur
    a := a % adler32Prime
    b := b % adler32Prime }

def currentBlock (adler32 : RollingAdler32) : List UInt8 :=
  if adler32.processedBytes < adler32.blockSize then adler32.buffer.take adler32.processedBytes
  else if adler32.cur = 0 then adler32.buffer
  else adler32.buffer.drop adler32.cur ++ adler32.buffer.take adler32.cur

end RollingAdler32

/-! ## Hashes of blocks -/

structure BlockHashes (Hash : Type) where
  blockSize : Nat
  totalSize : Nat
  adler32 : List Nat
  md5 : List Hash
  fileMd5 : Hash
deriving DecidableEq, Repr

/-- `sqrt(n).ceil()`. -/
def ceilSqrt (n : Nat) : Nat := if n.sqrt * n.sqrt = n then n.sqrt else n.sqrt + 1

structure FileDeltaBlock where
  copyFromDestination : Bool
  start : Nat
  size : Nat
deriving DecidableEq, Repr

namespace FileDeltaBlock

def fromSource (start size : Nat) : FileDeltaBlock := ⟨false, start, size⟩

def fromDestination (start size : Nat) : FileDeltaBlock := ⟨true, start, size⟩

def toJson (block : FileDeltaBlock) : List (String × Nat) :=
  (if block.copyFromDestination then [("start", block.start)] else []) ++ [("size", block.size)]

/-- The start position does not matter on the destination machine. -/
def fromJson (json : List (String × Nat)) : Option FileDeltaBlock := do
  let size ← json.lookup "size"
  match json.lookup "start" with
  | some start => return fromDestination start size
  | none => return fromSource 0 size

def fromJsonList (jsonList : List (List (String × Nat))) : Option (List FileDeltaBlock) :=
  jsonList.mapM fromJson

end FileDeltaBlock

namespace FileTransfer

variable {Hash : Type} [DecidableEq Hash]

def calculateBlockHashesOfFile (md5 : List UInt8 → Hash) (md5OfFile : File → Hash) (file : File)
    (blockSize : Option Nat) : Except TransferError (BlockHashes Hash) := do
  let totalSize := file.length
  let blockSize := blockSize.getD (max (ceilSqrt totalSize) 2560)
  let chunks ← convertToChunks blockSize [] file.chunks
  return ⟨blockSize, totalSize, chunks.map adler32Hash, chunks.map md5, md5OfFile file⟩

/-! ## The delta -/

/-- What `computeDelta` keeps while it reads the source file. -/
structure DeltaState where
  adler32 : RollingAdler32
  size : Nat
  start : Nat
  blocks : List FileDeltaBlock
deriving DecidableEq, Repr

/-- `adler32ToBlockIndex[hash]`: the blocks with the given hash, in their order. -/
def blockIndices (hashes : BlockHashes Hash) (hash : Nat) : List Nat :=
  (List.range hashes.adler32.length).filter fun i => hashes.adler32[i]? = some hash

def md5At (hashes : BlockHashes Hash) (index : Nat) : Except TransferError Hash :=
  match hashes.md5[index]? with
  | some hash => .ok hash
  | none => .error (.range index)

def findMatch (hashes : BlockHashes Hash) (md5Hash : Hash) : List Nat → Except TransferError (Option Nat)
  | [] => .ok none
  | blockIndex :: rest => do
    let blockMd5 ← md5At hashes blockIndex
    if blockMd5 = md5Hash then return some blockIndex else findMatch hashes md5Hash rest

/-- The instruction for a block that was found, where the last instruction may be extended. -/
def addBlock (hashes : BlockHashes Hash) (md5Hash : Hash) (blockIndex : Nat)
    (blocks : List FileDeltaBlock) : Except TransferError (List FileDeltaBlock) := do
  let blockSize := hashes.blockSize
  let added := blocks ++ [.fromDestination (blockIndex * blockSize) blockSize]
  match blocks.getLast? with
  | some last =>
    if last.copyFromDestination then
      let lastBlockIndex := (last.start + last.size) / blockSize
      let nextMd5 ← md5At hashes lastBlockIndex
      if nextMd5 = md5Hash then
        return blocks.dropLast ++ [.fromDestination last.start (last.size + blockSize)]
      else return added
    else return added
  | none => return added

/-- One byte of the source file. -/
def readChar (md5 : List UInt8 → Hash) (hashes : BlockHashes Hash) (state : DeltaState) (c : UInt8) :
    Except TransferError DeltaState := do
  let blockSize := hashes.blockSize
  let adler32 := state.adler32.push c
  let size := state.size + 1
  let state := { state with adler32, size }
  if size - state.start < blockSize then return state
  let md5Hash := md5 adler32.currentBlock
  match ← findMatch hashes md5Hash (blockIndices hashes adler32.hash) with
  | none => return state
  | some blockIndex =>
    let blocks :=
      if size - state.start > blockSize then
        state.blocks ++ [.fromSource state.start (size - state.start - blockSize)]
      else state.blocks
    let blocks ← addBlock hashes md5Hash blockIndex blocks
    return { state with start := size, blocks }

def computeDelta (md5 : List UInt8 → Hash) (md5OfFile : File → Hash) (file : File)
    (hashes : BlockHashes Hash) : Except TransferError (List FileDeltaBlock) :=
  if file.length = hashes.totalSize ∧ md5OfFile file = hashes.fileMd5 then .ok []
  else do
    let initial : DeltaState := ⟨.create hashes.blockSize, 0, 0, []⟩
    let state ← file.chunks.foldlM (fun state chunk => chunk.foldlM (readChar md5 hashes) state) initial
    if state.start < state.size then
      return state.blocks ++ [.fromSource state.start (state.size - state.start)]
    else return state.blocks

/-! ## Rebuilding -/

/-- `readInto(buffer, start, start + size)`: less is overwritten at the end of the file. -/
def readInto (buffer : List UInt8) (start : Nat) (bytes : List UInt8) : List UInt8 :=
  buffer.take start ++ bytes ++ buffer.drop (start + bytes.length)

def binaryForRebuilding (file : File) (delta : List FileDeltaBlock) : Except TransferError (List UInt8) :=
  let toTransfer := delta.filter fun block => !block.copyFromDestination
  match toTransfer.map FileDeltaBlock.size with
  -- `reduce` of an iterable without elements
  | [] => .error .noElement
  | first :: rest =>
    let totalSize := rest.foldl (· + ·) first
    let (buffer, start) := toTransfer.foldl
      (fun (buffer, start) current =>
        (readInto buffer start (file.readAt current.start current.size), start + current.size))
      (List.replicate totalSize 0, 0)
    if start = buffer.length then .ok buffer else .error .assertion

/-- The iterator over the binary stream: the current element with how much of it was read, none
    before the first one, and the elements to come. -/
structure BinaryIterator where
  current : Option (List UInt8 × Nat)
  rest : List (List UInt8)
deriving DecidableEq, Repr

def readBinary (toRead : Nat) (iterator : BinaryIterator) :
    Except TransferError (List UInt8 × BinaryIterator) :=
  if toRead = 0 then .ok ([], iterator)
  else
    let (current, currentIteratorStart) := iterator.current.getD ([], 0)
    if _available : currentIteratorStart < current.length then do
      let sizeToRead := min toRead (current.length - currentIteratorStart)
      let read := (current.drop currentIteratorStart).take sizeToRead
      let iterator := { iterator with current := some (current, currentIteratorStart + sizeToRead) }
      let (bytes, iterator) ← readBinary (toRead - sizeToRead) iterator
      return (read ++ bytes, iterator)
    else
      match _left : iterator.rest with
      | [] => .error .noElement
      | next :: rest => readBinary toRead ⟨some (next, 0), rest⟩
termination_by (iterator.rest.length, toRead)
decreasing_by
  · right
    omega
  · left
    rw [_left]
    exact Nat.lt_succ_self _

def rebuildBlocks (file : File) : List FileDeltaBlock → BinaryIterator → Except TransferError (List UInt8)
  | [], _ => .ok []
  | current :: delta, iterator => do
    if current.copyFromDestination then
      let rest ← rebuildBlocks file delta iterator
      return file.readAt current.start current.size ++ rest
    else
      let (bytes, iterator) ← readBinary current.size iterator
      let rest ← rebuildBlocks file delta iterator
      return bytes ++ rest

def rebuildFile (file : File) (delta : List FileDeltaBlock) (binary : List (List UInt8)) :
    Except TransferError (List UInt8) :=
  rebuildBlocks file delta ⟨none, binary⟩

end FileTransfer

end FlutterZero.FlutterTools
