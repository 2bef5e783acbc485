import Mathlib.Data.List.TakeWhile
import Mathlib.Data.Nat.Digits.Defs
import Mathlib.Data.Nat.Digits.Lemmas

/-! # Hexadecimal numerals

Texts are bytes, and numbers have 64 bits.  `std::stoull` with base 16 skips blanks, takes a sign and a
prefix if there is one, and reads digits as far as they go; `std::hex` prints a number without a prefix.

* `stoull_ok_iff` — the texts that are converted;
* `stoull_printed` — a number that is printed behind a prefix is read again.
-/

namespace FlutterZero.Lib

def asciiBytes (text : String) : List UInt8 := text.toList.map fun c => c.toNat.toUInt8

/-! ## Digits -/

/-- `isspace` -/
def isSpace (byte : UInt8) : Bool := byte = 0x20 || (0x09 ≤ byte && byte ≤ 0x0D)

def hexDigitValue (byte : UInt8) : Option Nat :=
  if 0x30 ≤ byte ∧ byte ≤ 0x39 then some (byte.toNat - 0x30)
  else if 0x61 ≤ byte ∧ byte ≤ 0x66 then some (byte.toNat - 0x61 + 10)
  else if 0x41 ≤ byte ∧ byte ≤ 0x46 then some (byte.toNat - 0x41 + 10)
  else none

def lowerHexDigit (value : Nat) : UInt8 := (if value < 10 then 0x30 + value else 0x61 + (value - 10)).toUInt8

theorem hexDigitValue_lower {value : Nat} (small : value < 16) : hexDigitValue (lowerHexDigit value) = some value := by
  interval_cases value <;> rfl

def takeHexDigits : List UInt8 → List Nat
  | [] => []
  | byte :: rest =>
    match hexDigitValue byte with
    | some value => value :: takeHexDigits rest
    | none => []

theorem takeHexDigits_digits {values : List Nat} (small : ∀ value ∈ values, value < 16) :
    takeHexDigits (values.map lowerHexDigit) = values := by
  induction values with
  | nil => rfl
  | cons value values ih =>
    obtain ⟨here, small⟩ := List.forall_mem_cons.mp small
    rw [List.map_cons, takeHexDigits, hexDigitValue_lower here, ih small]

/-! ## Conversion -/

inductive ConversionFault where
  /-- `std::invalid_argument` -/
  | invalidArgument
  /-- `std::out_of_range` -/
  | outOfRange
deriving DecidableEq, Repr

def takeSign : List UInt8 → Bool × List UInt8
  | 0x2D :: rest => (true, rest)
  | 0x2B :: rest => (false, rest)
  | text => (false, text)

def dropPrefix : List UInt8 → List UInt8
  | 0x30 :: x :: digit :: rest =>
    if (x = 0x78 ∨ x = 0x58) ∧ (hexDigitValue digit).isSome then digit :: rest else 0x30 :: x :: digit :: rest
  | text => text

def numeral (text : List UInt8) : Bool × List Nat :=
  let (negative, text) := takeSign (text.dropWhile isSpace)
  (negative, takeHexDigits (dropPrefix text))

def ofHexDigits (digits : List Nat) : Nat := Nat.ofDigits 16 digits.reverse

/-- `std::stoull(text, nullptr, 16)`: a sign negates modulo 2^64. -/
def stoull (text : List UInt8) : Except ConversionFault (BitVec 64) :=
  let (negative, digits) := numeral text
  if digits = [] then .error .invalidArgument
  else if 2 ^ 64 ≤ ofHexDigits digits then .error .outOfRange
  else .ok (if negative then - BitVec.ofNat 64 (ofHexDigits digits) else BitVec.ofNat 64 (ofHexDigits digits))

def Convertible (text : List UInt8) : Prop :=
  (numeral text).2 ≠ [] ∧ ofHexDigits (numeral text).2 < 2 ^ 64

theorem stoull_ok_iff {text : List UInt8} : (∃ value, stoull text = .ok value) ↔ Convertible text := by
  unfold stoull Convertible
  obtain ⟨negative, digits⟩ := numeral text
  dsimp only
  by_cases none : digits = []
  · simp [none]
  · rw [if_neg none]
    by_cases large : 2 ^ 64 ≤ ofHexDigits digits
    · rw [if_pos large]
      exact iff_of_false (fun ⟨_, converted⟩ => nomatch converted) fun fits => Nat.not_lt.mpr large fits.2
    · rw [if_neg large]
      exact iff_of_true ⟨_, rfl⟩ ⟨none, Nat.lt_of_not_le large⟩

/-! ## Printing -/

/-- `std::hex` for a number of 64 bits. -/
def printHex (number : BitVec 64) : List UInt8 :=
  if number = 0 then [0x30] else (Nat.digits 16 number.toNat).reverse.map lowerHexDigit

theorem printHex_eq (number : BitVec 64) : ∃ digits, printHex number = digits.map lowerHexDigit ∧ digits ≠ [] ∧
    (∀ digit ∈ digits, digit < 16) ∧ ofHexDigits digits = number.toNat := by
  unfold printHex ofHexDigits
  by_cases zero : number = 0
  · refine ⟨[0], ?_⟩
    simp [zero, lowerHexDigit]
  · refine ⟨(Nat.digits 16 number.toNat).reverse, by rw [if_neg zero], ?_, ?_, ?_⟩
    · have positive : number.toNat ≠ 0 := fun none => zero (BitVec.eq_of_toNat_eq none)
      simpa [Nat.digits_eq_nil_iff_eq_zero] using positive
    · intro digit inside
      exact Nat.digits_lt_base (by omega) (List.mem_reverse.mp inside)
    · rw [List.reverse_reverse, Nat.ofDigits_digits]

theorem stoull_printed (number : BitVec 64) : stoull (0x30 :: 0x78 :: printHex number) = .ok number := by
  obtain ⟨digits, printed, some, small, value⟩ := printHex_eq number
  obtain ⟨first, rest, rfl⟩ := List.exists_cons_of_ne_nil some
  have digit : (hexDigitValue (lowerHexDigit first)).isSome = true := by
    rw [hexDigitValue_lower (small first List.mem_cons_self)]
    rfl
  have behind : dropPrefix (0x30 :: 0x78 :: lowerHexDigit first :: rest.map lowerHexDigit) =
      (first :: rest).map lowerHexDigit := by
    rw [dropPrefix, if_pos ⟨.inl rfl, digit⟩, List.map_cons]
  have read : numeral (0x30 :: 0x78 :: printHex number) = (false, first :: rest) := by
    rw [printed]
    change (false, takeHexDigits (dropPrefix (0x30 :: 0x78 :: lowerHexDigit first :: rest.map lowerHexDigit))) = _
    rw [behind, takeHexDigits_digits small]
  unfold stoull
  rw [read]
  simp only [List.cons_ne_nil, if_false, value, Nat.not_le.mpr number.isLt, Bool.false_eq_true, BitVec.ofNat_toNat,
    BitVec.setWidth_eq]

end FlutterZero.Lib
