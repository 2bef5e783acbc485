import FlutterZero.Lib.Text

/-! # JSON

JSON values, the text they are written as, and a decoder of that text.  An object
keeps the order in which its keys were first added, a later value of a key
replaces an earlier one, and a number without fraction and exponent is an integer
as long as it fits into 64 bits.

How a floating-point number is written and read back is given by a
`DoubleFormat`: whatever literal it writes, it reads back.

-/

namespace FlutterZero.Lib

/-! ## Number literals -/

structure NumberLiteral where
  negative : Bool
  integer : List (Fin 10)
  fraction : List (Fin 10)
  exponent : Option (Bool × List (Fin 10))
  integer_digits : integer ≠ [] ∧ (integer.head? = some 0 → integer = [0])
  exponent_digits : ∀ digits ∈ exponent, digits.2 ≠ []

namespace NumberLiteral

def isDouble (literal : NumberLiteral) : Bool := !literal.fraction.isEmpty || literal.exponent.isSome

def intValue (literal : NumberLiteral) : Int :=
  let value : Nat := Nat.ofDigits 10 (literal.integer.reverse.map Fin.val)
  if literal.negative then -(value : Int) else value

end NumberLiteral

def digit (d : Fin 10) : UInt16 := UInt16.ofNat (0x30 + d)

def digitValue (unit : UInt16) : Option (Fin 10) :=
  if h : 0x30 ≤ unit.toNat ∧ unit.toNat < 0x3A then some ⟨unit.toNat - 0x30, by omega⟩ else none

def NumberLiteral.exponentText : Option (Bool × List (Fin 10)) → Utf16
  | none => []
  | some (negative, digits) => 0x65 :: (if negative then 0x2D else 0x2B) :: digits.map digit

def NumberLiteral.fractionText : List (Fin 10) → Utf16
  | [] => []
  | digits => 0x2E :: digits.map digit

def NumberLiteral.text (literal : NumberLiteral) : Utf16 :=
  (if literal.negative then [0x2D] else []) ++ literal.integer.map digit ++ fractionText literal.fraction ++
    exponentText literal.exponent

def decimalDigits (n : Nat) : List (Fin 10) :=
  if n = 0 then [0] else (Nat.digits 10 n).reverse.map (Fin.ofNat 10)

theorem decimalDigits_spec (n : Nat) :
    decimalDigits n ≠ [] ∧ ((decimalDigits n).head? = some 0 → decimalDigits n = [0]) := by
  unfold decimalDigits
  split
  · exact ⟨List.cons_ne_nil _ _, fun _ => rfl⟩
  · rename_i positive
    have nonempty : Nat.digits 10 n ≠ [] := Nat.digits_ne_nil_iff_ne_zero.mpr positive
    refine ⟨by simpa using nonempty, fun leading => ?_⟩
    rw [List.head?_map, List.head?_reverse, List.getLast?_eq_getLast_of_ne_nil nonempty] at leading
    have last := Nat.getLast_digit_ne_zero 10 positive
    have bound := Nat.digits_lt_base (by omega : 1 < 10) (List.getLast_mem nonempty)
    simp only [Option.map_some, Option.some.injEq, Fin.ext_iff, Fin.val_ofNat, Fin.val_zero] at leading
    omega

def NumberLiteral.ofInt (n : Int) : NumberLiteral where
  negative := decide (n < 0)
  integer := decimalDigits n.natAbs
  fraction := []
  exponent := none
  integer_digits := decimalDigits_spec n.natAbs
  exponent_digits := by simp

/-- `0.5` -/
def NumberLiteral.half : NumberLiteral where
  negative := false
  integer := [0]
  fraction := [5]
  exponent := none
  integer_digits := by decide
  exponent_digits := (NumberLiteral.ofInt 0).exponent_digits

/-- How floating-point numbers are written and read: a number that is not finite has no literal. -/
structure DoubleFormat (Double : Type) where
  toLiteral : Double → Option NumberLiteral
  parse : NumberLiteral → Double
  isDouble_of_toLiteral : ∀ d literal, toLiteral d = some literal → literal.isDouble = true
  parse_of_toLiteral : ∀ d literal, toLiteral d = some literal → parse literal = d

/-! ## Values and their text -/

inductive Json (Double : Type) where
  | null
  | bool (value : Bool)
  | int (value : Int64)
  | double (value : Double)
  | string (value : Utf16)
  | list (elements : List (Json Double))
  | object (entries : List (Utf16 × Json Double))

variable {Double : Type}

def hexDigit (d : Nat) : UInt16 := if d < 10 then UInt16.ofNat (0x30 + d) else UInt16.ofNat (0x61 + (d - 10))

/-- A code unit as `\uXXXX`. -/
def hexEscape (unit : UInt16) : Utf16 :=
  [0x5C, 0x75, hexDigit (unit.toNat / 0x1000), hexDigit (unit.toNat / 0x100 % 0x10),
    hexDigit (unit.toNat / 0x10 % 0x10), hexDigit (unit.toNat % 0x10)]

/-- One code unit that is not half of a pair of surrogates. -/
def escapeUnit (unit : UInt16) : Utf16 :=
  if unit = 0x08 then units ['\\', 'b']
  else if unit = 0x09 then units ['\\', 't']
  else if unit = 0x0A then units ['\\', 'n']
  else if unit = 0x0C then units ['\\', 'f']
  else if unit = 0x0D then units ['\\', 'r']
  else if unit = 0x22 then units ['\\', '"']
  else if unit = 0x5C then units ['\\', '\\']
  else if unit < 0x20 || isSurrogate unit then hexEscape unit
  else [unit]

def stringContent : Utf16 → Utf16
  | [] => []
  | [unit] => escapeUnit unit
  | unit :: next :: rest =>
    if isLeadSurrogate unit && isTrailSurrogate next then unit :: next :: stringContent rest
    else escapeUnit unit ++ stringContent (next :: rest)

def stringText (value : Utf16) : Utf16 := 0x22 :: (stringContent value ++ [0x22])

namespace Json

mutual

/-- The text of a value; there is none for a floating-point number that is not finite. -/
def encode (format : DoubleFormat Double) : Json Double → Option Utf16
  | null => some (units ['n', 'u', 'l', 'l'])
  | bool value => some (if value then units ['t', 'r', 'u', 'e'] else units ['f', 'a', 'l', 's', 'e'])
  | int value => some (NumberLiteral.ofInt value.toInt).text
  | double value => (format.toLiteral value).map NumberLiteral.text
  | string value => some (stringText value)
  | list elements => do
    let text ← encodeElements format elements
    return 0x5B :: (text ++ [0x5D])
  | object entries => do
    let text ← encodeEntries format entries
    return 0x7B :: (text ++ [0x7D])

def encodeElements (format : DoubleFormat Double) : List (Json Double) → Option Utf16
  | [] => some []
  | element :: rest => do
    let text ← encode format element
    let following ← encodeElements format rest
    return text ++ if rest.isEmpty then [] else 0x2C :: following

def encodeEntries (format : DoubleFormat Double) : List (Utf16 × Json Double) → Option Utf16
  | [] => some []
  | (key, value) :: rest => do
    let text ← encode format value
    let following ← encodeEntries format rest
    return stringText key ++ 0x3A :: (text ++ if rest.isEmpty then [] else 0x2C :: following)

end

/-! ## Values inside a value -/

mutual

/-- Whether `p` holds of a value and of every value inside it. -/
def all (p : Json Double → Bool) : Json Double → Bool
  | list elements => p (list elements) && allElements p elements
  | object entries => p (object entries) && allEntries p entries
  | value => p value

def allElements (p : Json Double → Bool) : List (Json Double) → Bool
  | [] => true
  | element :: rest => all p element && allElements p rest

def allEntries (p : Json Double → Bool) : List (Utf16 × Json Double) → Bool
  | [] => true
  | entry :: rest => all p entry.2 && allEntries p rest

end

def hasDistinctKeys : Json Double → Bool
  | object entries => decide (entries.map Prod.fst).Nodup
  | _ => true

def isFinite (format : DoubleFormat Double) : Json Double → Bool
  | double value => (format.toLiteral value).isSome
  | _ => true

/-- Neither the string nor a key of the object has the code unit in it. -/
def lacks (unit : UInt16) : Json Double → Bool
  | string value => !value.contains unit
  | object entries => entries.all fun entry => !entry.1.contains unit
  | _ => true

/-! ## Decoding -/

def isJsonWhitespace (unit : UInt16) : Bool := unit == 0x20 || unit == 0x09 || unit == 0x0A || unit == 0x0D

def skipWhitespace (text : Utf16) : Utf16 := text.dropWhile isJsonWhitespace

def hexValue (unit : UInt16) : Option Nat :=
  if 0x30 ≤ unit.toNat ∧ unit.toNat ≤ 0x39 then some (unit.toNat - 0x30)
  else if 0x61 ≤ unit.toNat ∧ unit.toNat ≤ 0x66 then some (unit.toNat - 0x61 + 10)
  else if 0x41 ≤ unit.toNat ∧ unit.toNat ≤ 0x46 then some (unit.toNat - 0x41 + 10)
  else none

def unescape (unit : UInt16) : Option UInt16 :=
  if unit = 0x62 then some 0x08
  else if unit = 0x74 then some 0x09
  else if unit = 0x6E then some 0x0A
  else if unit = 0x66 then some 0x0C
  else if unit = 0x72 then some 0x0D
  else if unit = 0x22 ∨ unit = 0x5C ∨ unit = 0x2F then some unit
  else none

def decodeString : Utf16 → Option (Utf16 × Utf16)
  | [] => none
  | unit :: text =>
    if unit = 0x22 then some ([], text)
    else if unit < 0x20 then none
    else if unit = 0x5C then
      match text with
      | [] => none
      | escaped :: text =>
        if escaped = 0x75 then
          match text with
          | a :: b :: c :: d :: text => do
            let a ← hexValue a
            let b ← hexValue b
            let c ← hexValue c
            let d ← hexValue d
            let (value, text) ← decodeString text
            return (UInt16.ofNat (a * 0x1000 + b * 0x100 + c * 0x10 + d) :: value, text)
          | _ => none
        else do
          let unit ← unescape escaped
          let (value, text) ← decodeString text
          return (unit :: value, text)
    else do
      let (value, text) ← decodeString text
      return (unit :: value, text)

def scanDigits : Utf16 → List (Fin 10) × Utf16
  | [] => ([], [])
  | unit :: text =>
    match digitValue unit with
    | some d => (d :: (scanDigits text).1, (scanDigits text).2)
    | none => ([], unit :: text)

def scanFraction : Utf16 → Option (List (Fin 10) × Utf16)
  | [] => some ([], [])
  | unit :: text =>
    if unit = 0x2E then
      let (digits, text) := scanDigits text
      if digits.isEmpty then none else some (digits, text)
    else some ([], unit :: text)

def scanExponent : Utf16 → Option (Option (Bool × List (Fin 10)) × Utf16)
  | [] => some (none, [])
  | unit :: text =>
    if unit = 0x65 ∨ unit = 0x45 then
      let (negative, text) :=
        match text with
        | [] => (false, [])
        | sign :: rest => if sign = 0x2D then (true, rest) else if sign = 0x2B then (false, rest) else (false, text)
      let (digits, text) := scanDigits text
      if digits.isEmpty then none else some (some (negative, digits), text)
    else some (none, unit :: text)

def scanNumber (text : Utf16) : Option (NumberLiteral × Utf16) := do
  let (negative, text) := if text.head? = some 0x2D then (true, text.tail) else (false, text)
  let (integer, text) := scanDigits text
  let (fraction, text) ← scanFraction text
  let (exponent, text) ← scanExponent text
  if h : (integer ≠ [] ∧ (integer.head? = some 0 → integer = [0])) ∧ ∀ digits ∈ exponent, digits.2 ≠ [] then
    return (⟨negative, integer, fraction, exponent, h.1, h.2⟩, text)
  else none

def ofLiteral (format : DoubleFormat Double) (literal : NumberLiteral) : Json Double :=
  if !literal.isDouble ∧ -2 ^ 63 ≤ literal.intValue ∧ literal.intValue < 2 ^ 63 then
    .int (Int64.ofInt literal.intValue)
  else .double (format.parse literal)

def insert (key : Utf16) (value : Json Double) : List (Utf16 × Json Double) → List (Utf16 × Json Double)
  | [] => [(key, value)]
  | entry :: rest => if entry.1 = key then (key, value) :: rest else entry :: insert key value rest

mutual

/-- The value at the start of a text, and what follows it.  No value nests deeper than the text is long. -/
def decodeValue (format : DoubleFormat Double) : Nat → Utf16 → Option (Json Double × Utf16)
  | 0, _ => none
  | depth + 1, text =>
    match skipWhitespace text with
    | [] => none
    | unit :: text =>
      if unit = 0x7B then
        if (skipWhitespace text).head? = some 0x7D then some (object [], (skipWhitespace text).tail)
        else decodeEntries format depth [] text
      else if unit = 0x5B then
        if (skipWhitespace text).head? = some 0x5D then some (list [], (skipWhitespace text).tail)
        else decodeElements format depth [] text
      else if unit = 0x22 then (decodeString text).map fun (value, text) => (string value, text)
      else if units ['n', 'u', 'l', 'l'] <+: unit :: text then some (null, text.drop 3)
      else if units ['t', 'r', 'u', 'e'] <+: unit :: text then some (bool true, text.drop 3)
      else if units ['f', 'a', 'l', 's', 'e'] <+: unit :: text then some (bool false, text.drop 4)
      else (scanNumber (unit :: text)).map fun (literal, text) => (ofLiteral format literal, text)

def decodeElements (format : DoubleFormat Double) :
    Nat → List (Json Double) → Utf16 → Option (Json Double × Utf16)
  | 0, _, _ => none
  | depth + 1, elements, text => do
    let (value, text) ← decodeValue format depth text
    match skipWhitespace text with
    | [] => none
    | unit :: text =>
      if unit = 0x2C then decodeElements format depth (elements ++ [value]) text
      else if unit = 0x5D then some (list (elements ++ [value]), text)
      else none

def decodeEntries (format : DoubleFormat Double) :
    Nat → List (Utf16 × Json Double) → Utf16 → Option (Json Double × Utf16)
  | 0, _, _ => none
  | depth + 1, entries, text =>
    match skipWhitespace text with
    | [] => none
    | unit :: text =>
      if unit = 0x22 then do
        let (key, text) ← decodeString text
        match skipWhitespace text with
        | [] => none
        | unit :: text =>
          if unit = 0x3A then do
            let (value, text) ← decodeValue format depth text
            match skipWhitespace text with
            | [] => none
            | unit :: text =>
              if unit = 0x2C then decodeEntries format depth (insert key value entries) text
              else if unit = 0x7D then some (object (insert key value entries), text)
              else none
          else none
      else none

end

def decode (format : DoubleFormat Double) (text : Utf16) : Option (Json Double) := do
  let (value, rest) ← decodeValue format (text.length + 1) text
  if (skipWhitespace rest).isEmpty then return value else none

end Json

theorem decodeString_quote (rest : Utf16) : Json.decodeString (0x22 :: rest) = some ([], rest) := by
  rw [Json.decodeString.eq_def]
  rfl

end FlutterZero.Lib
