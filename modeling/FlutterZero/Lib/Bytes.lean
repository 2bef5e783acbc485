import Mathlib

/-! # Fixed-width numbers as bytes

Numbers of a fixed number of bytes in little-endian order, and byte strings that are
cut into pieces of one length.
-/

namespace FlutterZero.Lib

/-! ## Little-endian numbers -/

/-- The lowest `length` bytes of a number, the lowest first. -/
def toLittleEndian : Nat → Nat → List UInt8
  | 0, _ => []
  | length + 1, number => UInt8.ofNat number :: toLittleEndian length (number / 256)

def ofLittleEndian : List UInt8 → Nat
  | [] => 0
  | byte :: rest => byte.toNat + 256 * ofLittleEndian rest

@[simp] theorem length_toLittleEndian (length number : Nat) :
    (toLittleEndian length number).length = length := by
  induction length generalizing number with
  | zero => rfl
  | succ length ih => simp [toLittleEndian, ih]

variable {length : Nat}

theorem ofLittleEndian_toLittleEndian {number : Nat} (bound : number < 256 ^ length) :
    ofLittleEndian (toLittleEndian length number) = number := by
  induction length generalizing number with
  | zero =>
    rw [pow_zero, Nat.lt_one_iff] at bound
    exact bound.symm
  | succ length ih =>
    have quotient : number / 256 < 256 ^ length := by
      rw [pow_succ] at bound
      exact Nat.div_lt_of_lt_mul (by rwa [mul_comm] at bound)
    simp only [toLittleEndian, ofLittleEndian, ih quotient, UInt8.toNat_ofNat']
    exact Nat.mod_add_div number 256

/-- The bytes of a number of `w` bits. -/
def bytesOf {w : Nat} (x : BitVec w) : List UInt8 := toLittleEndian (w / 8) x.toNat

def ofBytes (w : Nat) (bytes : List UInt8) : BitVec w := BitVec.ofNat w (ofLittleEndian bytes)

variable {w : Nat}

@[simp] theorem length_bytesOf (x : BitVec w) : (bytesOf x).length = w / 8 := by
  simp [bytesOf]

theorem ofBytes_bytesOf (whole : 8 ∣ w) (x : BitVec w) : ofBytes w (bytesOf x) = x := by
  have bound : x.toNat < 256 ^ (w / 8) := by
    calc x.toNat < 2 ^ w := x.isLt
      _ = 2 ^ (8 * (w / 8)) := by rw [Nat.mul_div_cancel' whole]
      _ = 256 ^ (w / 8) := by rw [pow_mul]; norm_num
  rw [ofBytes, bytesOf, ofLittleEndian_toLittleEndian bound, BitVec.ofNat_toNat, BitVec.setWidth_eq]

theorem map_ofBytes_bytesOf (whole : 8 ∣ w) (xs : List (BitVec w)) : (xs.map bytesOf).map (ofBytes w) = xs := by
  simp [Function.comp_def, ofBytes_bytesOf whole]

/-! ## Pieces of one length -/

/-- The first `count` pieces of a list. -/
def pieces {α : Type*} (length : Nat) : Nat → List α → List (List α)
  | 0, _ => []
  | count + 1, xs => xs.take length :: pieces length count (xs.drop length)

theorem pieces_flatMap {α β : Type*} {f : α → List β} (uniform : ∀ x, (f x).length = length)
    (xs : List α) : pieces length xs.length (xs.flatMap f) = xs.map f := by
  induction xs with
  | nil => rfl
  | cons x xs ih =>
    rw [List.flatMap_cons, List.length_cons, pieces, List.take_left' (uniform x),
      List.drop_left' (uniform x), ih, List.map_cons]

theorem length_flatMap_uniform {α β : Type*} {f : α → List β} (uniform : ∀ x, (f x).length = length) (xs : List α) :
    (xs.flatMap f).length = xs.length * length := by
  simp [List.length_flatMap, uniform]

end FlutterZero.Lib
