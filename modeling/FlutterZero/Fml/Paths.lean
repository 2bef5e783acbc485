import FlutterZero.Lib.Hexadecimal
import Mathlib.Data.List.Infix
import Mathlib.Tactic.IntervalCases

/-! # Escapes in paths

`SanitizeURIEscapedCharacters` (`paths.cc`) goes over a string by index.  Sizes are machine words, so
`size() - 3` wraps around for short strings, and the character at the size is the terminating NUL.

* `unescape` — what is read, as a function of the text;
* `sanitizeURIEscapedCharacters_eq` — the loop computes it, and reads no index above the size;
* `unescape_of_escapes`, `unescape_of_refused` — the escaped forms of a string, and what is no such form;
* `sanitizeURIEscapedCharacters_ok` — the three together.
-/

namespace FlutterZero.Fml.Paths

open FlutterZero.Lib

/-- A `std::string`. -/
structure StdString where
  bytes : List UInt8
  fits : bytes.length < 2 ^ 64

inductive StringFault where
  /-- `operator[]` with an index above the size. -/
  | indexAboveSize
deriving DecidableEq, Repr

namespace StdString

def size (str : StdString) : Nat := str.bytes.length

/-- `operator[]` -/
def charAt (str : StdString) (i : Nat) : Except StringFault UInt8 :=
  if inside : i < str.bytes.length then .ok str.bytes[i]
  else if i = str.size then .ok 0
  else .error .indexAboveSize

def substr (str : StdString) (start count : Nat) : List UInt8 := (str.bytes.drop start).take count

end StdString

/-! ## The source -/

/-- A difference of `size_type`. -/
def sizeSub (size count : Nat) : Nat := (size + (2 ^ 64 - count)) % 2 ^ 64

def isxdigit (c : UInt8) : Bool := (hexDigitValue c).isSome

/-- `strtoul(text, nullptr, 16)`, where `unsigned long` has 64 bits. -/
def strtoul (text : List UInt8) : BitVec 64 :=
  match stoull text with
  | .ok value => value
  | .error .invalidArgument => 0
  | .error .outOfRange => BitVec.allOnes 64

/-- `i > str.size() - 3 || !isxdigit(str[i + 1]) || !isxdigit(str[i + 2])` -/
def isMalformed (str : StdString) (i : Nat) : Except StringFault Bool := do
  if i > sizeSub str.size 3 then return true
  let first ← str.charAt (i + 1)
  if !isxdigit first then return true
  let second ← str.charAt (i + 2)
  return !isxdigit second

/-- The loop, from the index `i` on. -/
def sanitizeFrom (str : StdString) (i : Nat) (result : List UInt8) : Except StringFault (List UInt8) :=
  if i < str.size then do
    let here ← str.charAt i
    if here = 0x25 then
      if ← isMalformed str i then return []
      let c : UInt8 := ⟨(strtoul (str.substr (i + 1) 2)).setWidth 8⟩
      if c = 0 then return []
      sanitizeFrom str (i + 3) (result ++ [c])
    else
      sanitizeFrom str (i + 1) (result ++ [here])
  else
    return result
termination_by str.size - i

def sanitizeURIEscapedCharacters (str : StdString) : Except StringFault (List UInt8) := sanitizeFrom str 0 []

/-! ## What is read -/

def escapedByte (high low : UInt8) : Option UInt8 :=
  match hexDigitValue high, hexDigitValue low with
  | some high, some low => some (16 * high + low).toUInt8
  | _, _ => none

/-- `none` for a text that is refused. -/
def unescape : List UInt8 → Option (List UInt8)
  | [] => some []
  | c :: rest =>
    if c = 0x25 then
      match rest with
      | high :: low :: rest =>
        match escapedByte high low with
        | some byte => if byte = 0 then none else (unescape rest).map (byte :: ·)
        | none => none
      | _ => none
    else (unescape rest).map (c :: ·)

/-- `text` is `bytes` where every `%` and any other bytes are escaped. -/
inductive Escapes : (bytes text : List UInt8) → Prop
  | nil : Escapes [] []
  | keep {c : UInt8} {bytes text : List UInt8} :
    c ≠ 0x25 → Escapes bytes text → Escapes (c :: bytes) (c :: text)
  | escape {c high low : UInt8} {bytes text : List UInt8} :
    escapedByte high low = some c → Escapes bytes text → Escapes (c :: bytes) (0x25 :: high :: low :: text)

/-- The text does not begin with two hexadecimal digits. -/
def lacksDigits : List UInt8 → Bool
  | high :: low :: _ => !(isxdigit high && isxdigit low)
  | _ => true

/-- There is a `%` that is not followed by two hexadecimal digits. -/
def HasBareSign (text : List UInt8) : Prop := ∃ before rest, text = before ++ 0x25 :: rest ∧ lacksDigits rest = true

/-- There is a `%00`. -/
def EscapesZero (text : List UInt8) : Prop := [0x25, 0x30, 0x30] <:+: text

variable {c : UInt8}

theorem isxdigit_iff : isxdigit c = true ↔ ∃ value, hexDigitValue c = some value :=
  Option.isSome_iff_exists

theorem hexDigitValue_cases {value : Nat} (digit : hexDigitValue c = some value) : value < 16 ∧ 0x30 ≤ c.toNat := by
  simp only [hexDigitValue, UInt8.le_iff_toNat_le, UInt8.reduceToNat] at digit
  split_ifs at digit <;> simp only [Option.some.injEq] at digit <;> omega

variable {high low : UInt8}

theorem escapedByte_of_digits {a b : Nat} (first : hexDigitValue high = some a)
    (second : hexDigitValue low = some b) : escapedByte high low = some (16 * a + b).toUInt8 := by
  rw [escapedByte, first, second]

theorem escapedByte_isSome_iff :
    (escapedByte high low).isSome = true ↔ isxdigit high = true ∧ isxdigit low = true := by
  unfold escapedByte isxdigit
  cases hexDigitValue high <;> cases hexDigitValue low <;> simp

variable {rest : List UInt8}

theorem lacksDigits_eq_true :
    lacksDigits rest = true ↔ ∀ high low after, rest = high :: low :: after → escapedByte high low = none := by
  match rest with
  | [] | [_] => simp [lacksDigits]
  | high :: low :: after =>
    rw [lacksDigits, Bool.not_eq_true', Bool.eq_false_iff, Ne, Bool.and_eq_true, ← escapedByte_isSome_iff]
    simp

@[simp] theorem unescape_nil : unescape [] = some [] := rfl

theorem unescape_plain (plain : c ≠ 0x25) : unescape (c :: rest) = (unescape rest).map (c :: ·) := by
  match rest with
  | [] | [_] | _ :: _ :: _ => simp [unescape, plain]

theorem unescape_escape {byte : UInt8} (escaped : escapedByte high low = some byte) :
    unescape (0x25 :: high :: low :: rest) = if byte = 0 then none else (unescape rest).map (byte :: ·) := by
  simp [unescape, escaped]

theorem unescape_of_lacksDigits (bare : lacksDigits rest = true) : unescape (0x25 :: rest) = none := by
  match rest with
  | [] | [_] => simp [unescape]
  | high :: low :: after =>
    have unescaped : escapedByte high low = none := lacksDigits_eq_true.mp bare _ _ _ rfl
    simp [unescape, unescaped]

theorem numeral_digits {a b : Nat} (first : hexDigitValue high = some a)
    (second : hexDigitValue low = some b) : numeral [high, low] = (false, [a, b]) := by
  have large : 0x30 ≤ high.toNat := (hexDigitValue_cases first).2
  have notSpace : isSpace high = false := by
    simp only [isSpace, UInt8.le_iff_toNat_le, UInt8.reduceToNat, Bool.or_eq_false_iff, decide_eq_false_iff_not,
      Bool.and_eq_false_iff]
    refine ⟨fun same => ?_, ?_⟩
    · subst same
      contradiction
    · omega
  have unsigned : takeSign [high, low] = (false, [high, low]) := by
    unfold takeSign
    split
    case h_1 same | h_2 same =>
      obtain ⟨rfl, -⟩ := List.cons.inj same
      contradiction
    case h_3 => rfl
  have whole : dropPrefix [high, low] = [high, low] := by
    unfold dropPrefix
    split
    case h_1 same => cases same
    case h_2 => rfl
  simp [numeral, notSpace, unsigned, whole, takeHexDigits, first, second]

theorem strtoul_digits {a b : Nat} (first : hexDigitValue high = some a)
    (second : hexDigitValue low = some b) : strtoul [high, low] = BitVec.ofNat 64 (16 * a + b) := by
  have value : ofHexDigits [a, b] = 16 * a + b := by
    simp [ofHexDigits, Nat.ofDigits_cons]
    omega
  have small : 16 * a + b < 2 ^ 64 := by
    have := (hexDigitValue_cases first).1
    have := (hexDigitValue_cases second).1
    omega
  have converted : stoull [high, low] = .ok (BitVec.ofNat 64 (16 * a + b)) := by
    rw [stoull, numeral_digits first second]
    simpa [value] using small
  rw [strtoul, converted]

/-! ## The loop -/

section Loop

variable {str : StdString} {before rest : List UInt8}

theorem charAt_split (split : str.bytes = before ++ rest) (k : Nat) (inside : k ≤ rest.length) :
    str.charAt (before.length + k) = .ok (rest[k]?.getD 0) := by
  have size : str.bytes.length = before.length + rest.length := by rw [split, List.length_append]
  unfold StdString.charAt StdString.size
  rcases Nat.lt_or_eq_of_le inside with less | same
  · have below : before.length + k < str.bytes.length := by omega
    rw [dif_pos below, List.getElem?_eq_getElem less, Option.getD_some]
    simp [split]
  · have atSize : before.length + k = str.bytes.length := by omega
    rw [dif_neg (Nat.not_lt.mpr atSize.ge), if_pos atSize, List.getElem?_eq_none same.ge, Option.getD_none]

theorem isMalformed_eq (split : str.bytes = before ++ 0x25 :: rest) :
    isMalformed str before.length = .ok (lacksDigits rest) := by
  have first := charAt_split split 1
  have second := charAt_split split 2
  unfold isMalformed
  cases rest with
  | nil =>
    -- The difference is the last index but two, or it wraps around.
    split_ifs
    · rfl
    · rw [first (by simp)]
      rfl
  | cons high rest =>
    cases rest with
    | nil =>
      split_ifs
      · rfl
      · rw [first (by simp), second (by simp)]
        cases digit : isxdigit high <;>
          simp [digit, lacksDigits, bind, Except.bind, pure, Except.pure, show isxdigit 0 = false from rfl]
    | cons low rest =>
      have size : str.size = before.length + (rest.length + 3) := by
        rw [StdString.size, split, List.length_append]
        rfl
      have fits : str.size < 2 ^ 64 := str.fits
      have within : ¬ before.length > sizeSub str.size 3 := by
        unfold sizeSub
        omega
      rw [if_neg within, first (by simp), second (by simp)]
      cases digit : isxdigit high <;> simp [digit, lacksDigits, bind, Except.bind, pure, Except.pure]

theorem sanitizeFrom_end (split : str.bytes = before) (result : List UInt8) :
    sanitizeFrom str before.length result = .ok result := by
  rw [sanitizeFrom, if_neg (by simp [StdString.size, split])]
  rfl

theorem sanitizeFrom_plain {c : UInt8} (split : str.bytes = before ++ c :: rest) (plain : c ≠ 0x25)
    (result : List UInt8) :
    sanitizeFrom str before.length result = sanitizeFrom str (before ++ [c]).length (result ++ [c]) := by
  have here : str.charAt before.length = .ok c := charAt_split split 0 (Nat.zero_le _)
  have inside : before.length < str.size := by simp [StdString.size, split]
  rw [sanitizeFrom, if_pos inside, here, List.length_append]
  exact if_neg plain

theorem sanitizeFrom_sign (split : str.bytes = before ++ 0x25 :: rest) {malformed : Bool}
    (checked : isMalformed str before.length = .ok malformed) (result : List UInt8) :
    sanitizeFrom str before.length result =
      if malformed then .ok []
      else
        let c : UInt8 := ⟨(strtoul (str.substr (before.length + 1) 2)).setWidth 8⟩
        if c = 0 then .ok [] else sanitizeFrom str (before.length + 3) (result ++ [c]) := by
  have here : str.charAt before.length = .ok 0x25 := charAt_split split 0 (Nat.zero_le _)
  have inside : before.length < str.size := by simp [StdString.size, split]
  rw [sanitizeFrom, if_pos inside, here, checked]
  rfl

theorem sanitizeFrom_escape {high low c : UInt8} (split : str.bytes = before ++ 0x25 :: high :: low :: rest)
    (escaped : escapedByte high low = some c) (result : List UInt8) :
    sanitizeFrom str before.length result =
      if c = 0 then .ok [] else sanitizeFrom str (before ++ [0x25, high, low]).length (result ++ [c]) := by
  have digits : isxdigit high = true ∧ isxdigit low = true :=
    escapedByte_isSome_iff.mp (Option.isSome_iff_exists.mpr ⟨c, escaped⟩)
  have wellFormed : isMalformed str before.length = .ok false := by
    simp [isMalformed_eq split, lacksDigits, digits]
  have hex : str.substr (before.length + 1) 2 = [high, low] := by
    simp [StdString.substr, split, ← List.drop_drop]
  obtain ⟨a, first⟩ := isxdigit_iff.mp digits.1
  obtain ⟨b, second⟩ := isxdigit_iff.mp digits.2
  have byte : (⟨(strtoul [high, low]).setWidth 8⟩ : UInt8) = c := by
    rw [escapedByte_of_digits first second] at escaped
    rw [strtoul_digits first second, ← Option.some.inj escaped]
    apply UInt8.toBitVec_inj.mp
    exact BitVec.setWidth_ofNat_of_le (by decide : 8 ≤ 64) _
  rw [sanitizeFrom_sign split wellFormed, hex, byte, List.length_append]
  rfl

theorem sanitizeFrom_eq (split : str.bytes = before ++ rest) (result : List UInt8) :
    sanitizeFrom str before.length result = .ok ((unescape rest).elim [] (result ++ ·)) := by
  induction rest using unescape.induct generalizing before result with
  | case1 =>
    rw [sanitizeFrom_end (split.trans (List.append_nil before)), unescape]
    simp
  | case2 high low rest escaped =>
    rw [sanitizeFrom_escape split escaped, if_pos rfl]
    simp [unescape, escaped]
  | case3 high low rest c escaped nonzero ih =>
    have next : str.bytes = (before ++ [0x25, high, low]) ++ rest := by simp [split]
    rw [sanitizeFrom_escape split escaped, if_neg nonzero, ih next]
    cases read : unescape rest <;> simp [unescape, escaped, nonzero, read]
  | case4 high low rest unescaped =>
    have malformed : isMalformed str before.length = .ok true := by
      rw [isMalformed_eq split, lacksDigits_eq_true.mpr fun _ _ _ same => ?_]
      cases same
      exact unescaped
    simp [sanitizeFrom_sign split malformed, unescape, unescaped]
  | case5 rest short =>
    have malformed : isMalformed str before.length = .ok true := by
      rw [isMalformed_eq split, lacksDigits_eq_true.mpr fun _ _ _ same => (short _ _ _ same).elim]
    rw [sanitizeFrom_sign split malformed, unescape_of_lacksDigits (lacksDigits_eq_true.mpr fun _ _ _ same =>
      (short _ _ _ same).elim)]
    simp
  | case6 c rest plain ih =>
    have next : str.bytes = (before ++ [c]) ++ rest := by simp [split]
    rw [sanitizeFrom_plain split plain, ih next, unescape_plain plain]
    cases unescape rest <;> simp

theorem sanitizeURIEscapedCharacters_eq (str : StdString) :
    sanitizeURIEscapedCharacters str = .ok ((unescape str.bytes).getD []) := by
  have read := sanitizeFrom_eq (List.nil_append str.bytes).symm []
  rw [List.length_nil] at read
  rw [sanitizeURIEscapedCharacters, read]
  cases unescape str.bytes <;> rfl

end Loop

/-! ## Escaped forms -/

variable {text : List UInt8}

theorem unescape_of_escapes {bytes : List UInt8} (nulFree : 0 ∉ bytes) (escapes : Escapes bytes text) :
    unescape text = some bytes := by
  induction escapes with
  | nil => rfl
  | keep plain _ ih =>
    rw [unescape_plain plain, ih fun inside => nulFree (List.mem_cons_of_mem _ inside), Option.map_some]
  | escape escaped _ ih =>
    rw [List.mem_cons, not_or] at nulFree
    rw [unescape_escape escaped, if_neg (Ne.symm nulFree.1), ih nulFree.2, Option.map_some]

/-- What the loop refuses behind a `%`. -/
def IsRefused (rest : List UInt8) : Prop := lacksDigits rest = true ∨ [0x30, 0x30] <+: rest

def HasRefused (text : List UInt8) : Prop := ∃ before rest, text = before ++ 0x25 :: rest ∧ IsRefused rest

theorem hasRefused_of_faulty (faulty : HasBareSign text ∨ EscapesZero text) : HasRefused text := by
  rcases faulty with ⟨before, rest, split, bare⟩ | ⟨before, after, split⟩
  · exact ⟨before, rest, split, .inl bare⟩
  · exact ⟨before, 0x30 :: 0x30 :: after, by simp [← split], .inr ⟨after, rfl⟩⟩

theorem hasRefused_cons (refused : HasRefused (c :: rest)) : (c = 0x25 ∧ IsRefused rest) ∨ HasRefused rest := by
  obtain ⟨before, after, split, isRefused⟩ := refused
  cases before with
  | nil =>
    obtain ⟨rfl, rfl⟩ := List.cons.inj split
    exact .inl ⟨rfl, isRefused⟩
  | cons d before => exact .inr ⟨before, after, (List.cons.inj split).2, isRefused⟩

theorem unescape_of_refused (refused : HasRefused text) : unescape text = none := by
  induction text using unescape.induct with
  | case1 =>
    obtain ⟨before, rest, split, -⟩ := refused
    simp at split
  | case2 high low rest escaped => rw [unescape_escape escaped, if_pos rfl]
  | case3 high low rest c escaped nonzero ih =>
    -- The digits are no signs themselves, so that the next sign is behind them.
    have digits : isxdigit high = true ∧ isxdigit low = true :=
      escapedByte_isSome_iff.mp (Option.isSome_iff_exists.mpr ⟨c, escaped⟩)
    have notSign : ∀ {digit : UInt8}, isxdigit digit = true → digit ≠ 0x25 := by
      rintro _ isDigit rfl
      cases isDigit
    have behind : HasRefused rest := by
      rcases hasRefused_cons refused with ⟨-, bare | ⟨after, zero⟩⟩ | refused
      · cases (lacksDigits_eq_true.mp bare _ _ _ rfl).symm.trans escaped
      · simp only [List.cons_append, List.nil_append, List.cons.injEq] at zero
        obtain ⟨rfl, rfl, -⟩ := zero
        exact absurd (Option.some.inj escaped).symm nonzero
      · have refused := (hasRefused_cons refused).resolve_left fun sign => notSign digits.1 sign.1
        exact (hasRefused_cons refused).resolve_left fun sign => notSign digits.2 sign.1
    rw [unescape_escape escaped, if_neg nonzero, ih behind, Option.map_none]
  | case4 high low rest unescaped => simp [unescape, unescaped]
  | case5 rest short =>
    exact unescape_of_lacksDigits (lacksDigits_eq_true.mpr fun _ _ _ same => (short _ _ _ same).elim)
  | case6 c rest plain ih =>
    have behind : HasRefused rest := (hasRefused_cons refused).resolve_left fun sign => plain sign.1
    rw [unescape_plain plain, ih behind, Option.map_none]

/-- No index above the size is read; every escaped form of a string without NUL is read as that string; and a
text with a bare `%` or an escaped NUL is read as the empty one. -/
theorem sanitizeURIEscapedCharacters_ok (text : StdString) :
    (∃ result, sanitizeURIEscapedCharacters text = .ok result) ∧
      (∀ bytes, 0 ∉ bytes → Escapes bytes text.bytes → sanitizeURIEscapedCharacters text = .ok bytes) ∧
      (HasBareSign text.bytes ∨ EscapesZero text.bytes → sanitizeURIEscapedCharacters text = .ok []) := by
  rw [sanitizeURIEscapedCharacters_eq]
  refine ⟨⟨_, rfl⟩, fun bytes nulFree escapes => ?_, fun faulty => ?_⟩
  · rw [unescape_of_escapes nulFree escapes, Option.getD_some]
  · rw [unescape_of_refused (hasRefused_of_faulty faulty), Option.getD_none]

/-- `%2f` is a slash, and `%` alone is refused. -/
theorem sanitizeURIEscapedCharacters_ok_slash :
    sanitizeURIEscapedCharacters ⟨[0x61, 0x25, 0x32, 0x66], by decide⟩ = .ok [0x61, 0x2F] ∧
      sanitizeURIEscapedCharacters ⟨[0x25], by decide⟩ = .ok [] :=
  ⟨(sanitizeURIEscapedCharacters_ok ⟨[0x61, 0x25, 0x32, 0x66], by decide⟩).2.1 _ (by decide)
      (.keep (by decide) (.escape rfl .nil)),
    (sanitizeURIEscapedCharacters_ok ⟨[0x25], by decide⟩).2.2 (.inl ⟨[], [], rfl, rfl⟩)⟩

end FlutterZero.Fml.Paths
