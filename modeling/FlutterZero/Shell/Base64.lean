import FlutterZero.Lib.Machine

/-! # Base64

`Base64::Encode` and `Base64::Decode` (`base64.cc`).  The source of `Decode` is a whole
buffer, of which `srcLength` bytes are to be read; a read behind the buffer's end is a
fault, and so is an overflow of the `int` that counts the output.
-/

namespace FlutterZero.Shell.Base64

open FlutterZero.Lib

inductive Error where
  | none
  | badPadding
  | badChar
deriving DecidableEq, Repr

/-- `ABCDEFGHIJKLMNOPQRSTUVWXYZabcdefghijklmnopqrstuvwxyz0123456789+/=`. -/
def kDefaultEncode : List UInt8 :=
  [65, 66, 67, 68, 69, 70, 71, 72, 73, 74, 75, 76, 77, 78, 79, 80, 81, 82, 83, 84, 85, 86, 87, 88, 89, 90,
    97, 98, 99, 100, 101, 102, 103, 104, 105, 106, 107, 108, 109, 110, 111, 112, 113, 114, 115, 116, 117,
    118, 119, 120, 121, 122, 48, 49, 50, 51, 52, 53, 54, 55, 56, 57, 43, 47, 61]

def decodePad : Int := -2

def encodePad : Nat := 64

/-- From `'+'` on. -/
def kDecodeData : List Int :=
  [62, -1, -1,        -1, 63, 52, 53, 54, 55, 56, 57, 58, 59, 60, 61, -1,
    -1, -1, decodePad, -1, -1, -1, 0,  1,  2,  3,  4,  5,  6,  7,  8,  9,
    10, 11, 12,        13, 14, 15, 16, 17, 18, 19, 20, 21, 22, 23, 24, 25,
    -1, -1, -1,        -1, -1, -1, 26, 27, 28, 29, 30, 31, 32, 33, 34, 35,
    36, 37, 38,        39, 40, 41, 42, 43, 44, 45, 46, 47, 48, 49, 50, 51]

/-! ## Encoding -/

def encodedSize (srcDataLength : Nat) : Nat := (srcDataLength + 2) / 3 * 4

/-- `encode[index]`; every index is at most `encodePad`. -/
def encodeChar (index : Nat) : UInt8 := kDefaultEncode.getD index 0

/-- What is written to `dst`: the groups of three bytes, and what remains behind them. -/
def encodeGroups : List UInt8 → List UInt8
  | a :: b :: c :: src =>
    let a := a.toNat
    let b := b.toNat
    let c := c.toNat
    [encodeChar (a >>> 2), encodeChar ((b >>> 4 ||| a <<< 4) &&& 0x3F),
      encodeChar ((c >>> 6 ||| b <<< 2) &&& 0x3F), encodeChar (c &&& 0x3F)] ++ encodeGroups src
  | [a, b] =>
    let a := a.toNat
    let b := b.toNat
    [encodeChar (a >>> 2), encodeChar ((b >>> 4 ||| a <<< 4) &&& 0x3F),
      encodeChar ((b <<< 2) &&& 0x3F), encodeChar encodePad]
  | [a] =>
    let a := a.toNat
    [encodeChar (a >>> 2), encodeChar ((0 ||| a <<< 4) &&& 0x3F), encodeChar encodePad, encodeChar encodePad]
  | [] => []

def encode (src : List UInt8) : List UInt8 × Nat := (encodeGroups src, encodedSize src.length)

/-! ## Decoding -/

inductive Fault where
  | readPastBuffer
  | overflow
deriving DecidableEq, Repr

/-- How the body of the inner loop ends for one source byte. -/
inductive Round where
  /-- `continue`, with `byte < 4`. -/
  | goOn (bytes : List UInt8) (byte : Nat)
  | group (bytes : List UInt8) (padTwo padThree : Bool)
  | returned (error : Error)
deriving DecidableEq, Repr

def pad (bytes : List UInt8) (byte : Nat) : Round :=
  if byte < 2 then .returned .badPadding else .group bytes (byte = 2) true

/-- `next` is what `*src` reads after `srcByte` has been taken. -/
def decodeRound (bytes : List UInt8) (byte : Nat) (srcByte : UInt8) (next : Option UInt8) :
    Except Fault Round :=
  if srcByte = 0 then
    .ok (.returned .none)
  else if srcByte ≤ 32 then
    .ok (.goOn bytes byte)
  else if srcByte < 43 ∨ 122 < srcByte then
    .ok (.returned .badChar)
  else
    let decoded := kDecodeData.getD (srcByte.toNat - 43) (-1)
    let bytes := bytes.set byte (UInt8.ofInt decoded)
    if decoded ≠ decodePad then
      if decoded < 0 then
        .ok (.returned .badChar)
      else
        let byte := byte + 1
        match next with
        | none => .error .readPastBuffer
        | some next =>
          if next ≠ 0 then .ok (if byte < 4 then .goOn bytes byte else .group bytes false false)
          else if byte = 0 then .ok (.returned .none)
          else if byte = 4 then .ok (.group bytes false false)
          else .ok (pad bytes byte)
    else
      .ok (pad bytes byte)

/-- What `dst` points at, or `nullptr`. -/
abbrev Dst := Option (List UInt8)

/-- `if (dst) dst[i] = byte; i++;`. -/
def store (i : Nat) (dst : Dst) (byte : Nat) : Except Fault (Nat × Dst) :=
  if i + 1 < 2 ^ 31 then
    .ok (i + 1, dst.map fun written => written.take i ++ UInt8.ofNat byte :: written.drop (i + 1))
  else
    .error .overflow

/-- The three bytes of a group, the last of them left out as the padding says. -/
def storeGroup (i : Nat) (dst : Dst) (bytes : List UInt8) (padTwo padThree : Bool) :
    Except Fault (Nat × Dst) := do
  let byteAt (index : Nat) : Nat := (bytes.getD index 0).toNat
  let one := (byteAt 0 <<< 2) % 256 ||| byteAt 1 >>> 4
  let two := (byteAt 1 <<< 4) &&& 0xFF ||| byteAt 2 >>> 2
  let three := (byteAt 2 <<< 6) &&& 0xFF ||| byteAt 3
  let (i, dst) ← store i dst one
  if padTwo then .ok (i, dst)
  else
    let (i, dst) ← store i dst two
    if padThree then .ok (i, dst)
    else store i dst three

structure DecodeResult where
  error : Error
  /-- `*dstLength` after the call. -/
  dstLength : Nat
  dst : Dst
deriving DecidableEq, Repr

/-- Both loops, from the next source byte on: `src` is the rest of the buffer and
    `left` is how far it is to `end`.  Only the outer loop looks at `left`. -/
def decodeLoop (left i : Nat) (bytes : List UInt8) (byte : Nat) (dst : Dst) (dstLength : Nat) :
    List UInt8 → Except Fault DecodeResult
  | [] => .error .readPastBuffer
  | srcByte :: src => do
    match ← decodeRound bytes byte srcByte src.head? with
    | .goOn bytes byte => decodeLoop (left - 1) i bytes byte dst dstLength src
    | .returned .none => .ok ⟨.none, i, dst⟩
    -- `*dstLength` is not assigned
    | .returned error => .ok ⟨error, dstLength, dst⟩
    | .group bytes padTwo padThree =>
      let (i, dst) ← storeGroup i dst bytes padTwo padThree
      if padTwo ∨ padThree ∨ left - 1 = 0 then .ok ⟨.none, i, dst⟩
      else decodeLoop (left - 1) i [0, 0, 0, 0] 0 dst dstLength src

/-- `dstLength` is what `*dstLength` holds before the call. -/
def decode (src : List UInt8) (srcLength : Nat) (dst : Dst) (dstLength : Nat) : Except Fault DecodeResult :=
  if srcLength = 0 then .ok ⟨.none, 0, dst⟩
  else decodeLoop srcLength 0 [0, 0, 0, 0] 0 dst dstLength src

end FlutterZero.Shell.Base64
