import FlutterZero.Lib.Trim

/-! # Reading integers

Integers of 64 bits in a text, as languages with a lenient `int.parse` read them:
white space around the number is skipped, a sign may precede it, and digits after
`0x` are hexadecimal.

* `intParse` — the number in a text;
* `intParse_toDigits` — the decimal digits of a number are read as the number.
-/

namespace FlutterZero.Lib.IntParse

def parseDecimal (digits : List Char) : Option Nat :=
  if digits ≠ [] ∧ digits.all Char.isDigit = true then some (Nat.ofDigitChars 10 digits 0) else none

def hexDigit (c : Char) : Option Nat :=
  if c.isDigit then some (c.toNat - 0x30)
  else if 'a' ≤ c ∧ c ≤ 'f' then some (c.toNat - 0x61 + 10)
  else if 'A' ≤ c ∧ c ≤ 'F' then some (c.toNat - 0x41 + 10)
  else none

def parseHex (digits : List Char) : Option Nat :=
  match digits.mapM hexDigit with
  | none | some [] => none
  | some values => some (values.foldl (fun number digit => 16 * number + digit) 0)

/-- A number between the smallest and the largest `int`. -/
def signed (negative : Bool) (magnitude : Nat) : Option Int :=
  if negative then if magnitude ≤ 2 ^ 63 then some (-(magnitude : Int)) else none
  else if magnitude < 2 ^ 63 then some magnitude else none

def parseMagnitude (negative : Bool) (source : List Char) : Option Int :=
  let decimal := parseDecimal source >>= signed negative
  match source with
  | '0' :: x :: digits =>
    if x = 'x' ∨ x = 'X' then do
      let magnitude ← parseHex digits
      if negative then signed true magnitude
      -- an unsigned number of 64 bits is read as a signed one
      else if magnitude < 2 ^ 64 then return (BitVec.ofNat 64 magnitude).toInt
      else none
    else decimal
  | _ => decimal

def intParse (source : List Char) : Option Int :=
  match trim source with
  | '-' :: source => parseMagnitude true source
  | '+' :: source => parseMagnitude false source
  | source => parseMagnitude false source

/-! ## Decimal digits -/

theorem isDigit_bounds {c : Char} (digit : c.isDigit = true) : 0x30 ≤ c.toNat ∧ c.toNat ≤ 0x39 := by
  simpa [Char.isDigit, UInt32.le_iff_toNat_le] using digit

theorem not_isWhitespace_of_isDigit {c : Char} (digit : c.isDigit = true) : isWhitespace c = false := by
  obtain ⟨low, high⟩ := isDigit_bounds digit
  simp only [isWhitespace, isWhitespaceCode, Bool.or_eq_false_iff, Bool.and_eq_false_iff, decide_eq_false_iff_not]
  omega

variable {digits : List Char}

theorem trim_digits (all : ∀ c ∈ digits, c.isDigit = true) : trim digits = digits :=
  trimBy_of_ends (fun c first => not_isWhitespace_of_isDigit (all c (List.mem_of_mem_head? first)))
    fun c last => not_isWhitespace_of_isDigit (all c (List.mem_of_mem_getLast? last))

theorem parseMagnitude_digits (all : ∀ c ∈ digits, c.isDigit = true) (nonempty : digits ≠ []) (negative : Bool) :
    parseMagnitude negative digits = signed negative (Nat.ofDigitChars 10 digits 0) := by
  have decimal : parseDecimal digits = some (Nat.ofDigitChars 10 digits 0) := by
    rw [parseDecimal, if_pos ⟨nonempty, by simpa using all⟩]
  unfold parseMagnitude
  rw [decimal]
  split
  · rename_i x rest
    have digit : x.isDigit = true := all x (by simp)
    have notHex : ¬ (x = 'x' ∨ x = 'X') := by
      rintro (rfl | rfl)
      · exact absurd digit (by decide)
      · exact absurd digit (by decide)
    rw [if_neg notHex]
    rfl
  · rfl

theorem intParse_toDigits {number : Nat} (small : number < 2 ^ 63) :
    intParse (Nat.toDigits 10 number) = some (number : Int) := by
  have all : ∀ c ∈ Nat.toDigits 10 number, c.isDigit = true :=
    fun c inside => Nat.isDigit_of_mem_toDigits (by decide) (by decide) inside
  have magnitude : parseMagnitude false (Nat.toDigits 10 number) = some (number : Int) := by
    rw [parseMagnitude_digits all Nat.toDigits_ne_nil, Nat.ofDigitChars_toDigits (by decide) (by decide), signed,
      if_neg Bool.false_ne_true, if_pos small]
  rw [intParse, trim_digits all]
  split
  · rename_i rest eq
    exact absurd (all '-' (by simp [eq])) (by decide)
  · rename_i rest eq
    exact absurd (all '+' (by simp [eq])) (by decide)
  · exact magnitude

end FlutterZero.Lib.IntParse
