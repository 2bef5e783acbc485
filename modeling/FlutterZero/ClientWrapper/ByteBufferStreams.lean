import FlutterZero.Lib.Bytes
import FlutterZero.Lib.Machine

/-! # Byte streams over a buffer

`ByteBufferStreamReader` and `ByteBufferStreamWriter` (`byte_buffer_streams.h`)
with what they inherit from `byte_streams.h`.  A read past the end of the buffer
moves nothing and leaves what is read into as it was.  Numbers are stored in the
byte order of the host, which is little-endian on every platform of the wrapper.
-/

namespace FlutterZero.ClientWrapper

open FlutterZero.Lib

inductive Assertion where
  /-- `assert(length > 0)` of `WriteBytes`. -/
  | emptyWrite
  /-- `assert(false)` of `EncodedTypeForValue`. -/
  | unhandledType
deriving DecidableEq, Repr

/-! ## Reading -/

structure ByteBufferStreamReader where
  bytes : List UInt8
  location : Nat
deriving DecidableEq, Repr

namespace ByteBufferStreamReader

def readByte (stream : ByteBufferStreamReader) : UInt8 × ByteBufferStreamReader :=
  match stream.bytes[stream.location]? with
  | some byte => (byte, { stream with location := stream.location + 1 })
  | none => (0, stream)

def readBytes (stream : ByteBufferStreamReader) (buffer : List UInt8) :
    List UInt8 × ByteBufferStreamReader :=
  if stream.location + buffer.length > stream.bytes.length then (buffer, stream)
  else ((stream.bytes.drop stream.location).take buffer.length,
    { stream with location := stream.location + buffer.length })

def readAlignment (stream : ByteBufferStreamReader) (alignment : Nat) : ByteBufferStreamReader :=
  let mod := stream.location % alignment
  if mod ≠ 0 then { stream with location := stream.location + (alignment - mod) } else stream

/-- Reads a number of `w` bits into a variable that was set to zero. -/
def readNumber (w : Nat) (stream : ByteBufferStreamReader) : BitVec w × ByteBufferStreamReader :=
  let (buffer, stream) := stream.readBytes (List.replicate (w / 8) 0)
  (ofBytes w buffer, stream)

def readInt32 : ByteBufferStreamReader → BitVec 32 × ByteBufferStreamReader := readNumber 32

def readInt64 : ByteBufferStreamReader → BitVec 64 × ByteBufferStreamReader := readNumber 64

def readDouble : ByteBufferStreamReader → BitVec 64 × ByteBufferStreamReader := readNumber 64

def Advances (stream stream' : ByteBufferStreamReader) : Prop :=
  stream'.bytes = stream.bytes ∧ stream.location ≤ stream'.location

theorem Advances.refl (stream : ByteBufferStreamReader) : stream.Advances stream := ⟨rfl, le_refl _⟩

theorem Advances.trans {stream stream' stream'' : ByteBufferStreamReader}
    (first : stream.Advances stream') (second : stream'.Advances stream'') : stream.Advances stream'' :=
  ⟨second.1.trans first.1, first.2.trans second.2⟩

theorem readByte_advances (stream : ByteBufferStreamReader) : stream.Advances stream.readByte.2 := by
  unfold readByte
  split
  · exact ⟨rfl, Nat.le_succ _⟩
  · exact .refl stream

theorem readBytes_advances (stream : ByteBufferStreamReader) (buffer : List UInt8) :
    stream.Advances (stream.readBytes buffer).2 := by
  unfold readBytes
  split
  · exact .refl stream
  · exact ⟨rfl, Nat.le_add_right _ _⟩

theorem readAlignment_advances (stream : ByteBufferStreamReader) (alignment : Nat) :
    stream.Advances (stream.readAlignment alignment) := by
  unfold readAlignment
  simp only
  split
  · exact ⟨rfl, Nat.le_add_right _ _⟩
  · exact .refl stream

theorem readNumber_advances (w : Nat) (stream : ByteBufferStreamReader) :
    stream.Advances (stream.readNumber w).2 := readBytes_advances stream _

end ByteBufferStreamReader

/-! ## Writing -/

structure ByteBufferStreamWriter where
  bytes : List UInt8
deriving DecidableEq, Repr

namespace ByteBufferStreamWriter

def length (stream : ByteBufferStreamWriter) : Nat := stream.bytes.length

def writeByte (stream : ByteBufferStreamWriter) (byte : UInt8) : ByteBufferStreamWriter :=
  ⟨stream.bytes ++ [byte]⟩

def writeBytes (stream : ByteBufferStreamWriter) (bytes : List UInt8) :
    Except Assertion ByteBufferStreamWriter :=
  if bytes.length > 0 then .ok ⟨stream.bytes ++ bytes⟩ else .error .emptyWrite

def writeAlignment (stream : ByteBufferStreamWriter) (alignment : Nat) : ByteBufferStreamWriter :=
  let mod := stream.length % alignment
  if mod ≠ 0 then ⟨stream.bytes ++ List.replicate (alignment - mod) 0⟩ else stream

def writeNumber {w : Nat} (stream : ByteBufferStreamWriter) (value : BitVec w) :
    Except Assertion ByteBufferStreamWriter :=
  stream.writeBytes (bytesOf value)

def writeInt32 (stream : ByteBufferStreamWriter) (value : BitVec 32) :
    Except Assertion ByteBufferStreamWriter := stream.writeNumber value

def writeInt64 (stream : ByteBufferStreamWriter) (value : BitVec 64) :
    Except Assertion ByteBufferStreamWriter := stream.writeNumber value

def writeDouble (stream : ByteBufferStreamWriter) (value : BitVec 64) :
    Except Assertion ByteBufferStreamWriter := stream.writeNumber value

end ByteBufferStreamWriter

end FlutterZero.ClientWrapper
