import Mathlib

/-! # Strings of UTF-16 code units

Strings as languages with UTF-16 strings have them: any list of code units, with
surrogates that need not come in pairs.

* `toCodePoints` — the characters of a string, a lone surrogate read as the
  replacement character;
* `encodeUtf8`, `decodeUtf8` — UTF-8, with the decoder refusing what is not UTF-8;
* `decodeUtf8_encodeUtf8` — a string without lone surrogates is read back.
-/

namespace FlutterZero.Lib

abbrev Utf16 : Type := List UInt16

def units (characters : List Char) : Utf16 := characters.map fun c => UInt16.ofNat c.toNat

/-! ## Surrogates -/

def isLeadSurrogate (unit : UInt16) : Bool := 0xD800 ≤ unit && unit ≤ 0xDBFF

def isTrailSurrogate (unit : UInt16) : Bool := 0xDC00 ≤ unit && unit ≤ 0xDFFF

def isSurrogate (unit : UInt16) : Bool := 0xD800 ≤ unit && unit ≤ 0xDFFF

def combineSurrogates (lead trail : UInt16) : Char :=
  Char.ofNat (0x10000 + (lead.toNat - 0xD800) * 0x400 + (trail.toNat - 0xDC00))

def toCodePoint (unit : UInt16) : Char :=
  if isSurrogate unit then Char.ofNat 0xFFFD else Char.ofNat unit.toNat

def toCodePoints : Utf16 → List Char
  | [] => []
  | [unit] => [toCodePoint unit]
  | unit :: next :: rest =>
    if isLeadSurrogate unit && isTrailSurrogate next then combineSurrogates unit next :: toCodePoints rest
    else toCodePoint unit :: toCodePoints (next :: rest)

def ofCodePoint (c : Char) : Utf16 :=
  if c.toNat < 0x10000 then [UInt16.ofNat c.toNat]
  else
    [UInt16.ofNat (0xD800 + (c.toNat - 0x10000) / 0x400), UInt16.ofNat (0xDC00 + (c.toNat - 0x10000) % 0x400)]

def ofCodePoints (characters : List Char) : Utf16 := characters.flatMap ofCodePoint

inductive Paired : Utf16 → Prop where
  | nil : Paired []
  | unit {unit : UInt16} {rest : Utf16} (alone : isSurrogate unit = false) (tail : Paired rest) :
      Paired (unit :: rest)
  | pair {lead trail : UInt16} {rest : Utf16} (leads : isLeadSurrogate lead = true)
      (trails : isTrailSurrogate trail = true) (tail : Paired rest) : Paired (lead :: trail :: rest)

variable {text : Utf16}

theorem Paired.append {rest : Utf16} (first : Paired text) (second : Paired rest) : Paired (text ++ rest) := by
  induction first with
  | nil => exact second
  | unit alone _ ih => exact .unit alone ih
  | pair leads trails _ ih => exact .pair leads trails ih

variable {unit : UInt16}

theorem isLeadSurrogate_iff : isLeadSurrogate unit = true ↔ 0xD800 ≤ unit.toNat ∧ unit.toNat ≤ 0xDBFF := by
  simp [isLeadSurrogate, UInt16.le_iff_toNat_le]

theorem isTrailSurrogate_iff : isTrailSurrogate unit = true ↔ 0xDC00 ≤ unit.toNat ∧ unit.toNat ≤ 0xDFFF := by
  simp [isTrailSurrogate, UInt16.le_iff_toNat_le]

theorem isSurrogate_iff : isSurrogate unit = true ↔ 0xD800 ≤ unit.toNat ∧ unit.toNat ≤ 0xDFFF := by
  simp [isSurrogate, UInt16.le_iff_toNat_le]

theorem isLeadSurrogate_of_not_surrogate (alone : isSurrogate unit = false) : isLeadSurrogate unit = false := by
  rw [Bool.eq_false_iff, Ne, isSurrogate_iff] at alone
  rw [Bool.eq_false_iff, Ne, isLeadSurrogate_iff]
  omega

theorem toNat_ofNat_char {code : Nat} (valid : code.isValidChar) : (Char.ofNat code).toNat = code := by
  rw [Char.ofNat, dif_pos valid]
  rfl

theorem ofCodePoint_toCodePoint (alone : isSurrogate unit = false) : ofCodePoint (toCodePoint unit) = [unit] := by
  have bound := unit.toNat_lt
  have valid : unit.toNat.isValidChar := by
    rw [Bool.eq_false_iff, Ne, isSurrogate_iff] at alone
    rw [Nat.isValidChar]
    omega
  rw [ofCodePoint, toCodePoint, alone, if_neg Bool.false_ne_true, toNat_ofNat_char valid, if_pos bound]
  rw [UInt16.ofNat_toNat]

theorem ofCodePoint_combineSurrogates {lead trail : UInt16} (leads : isLeadSurrogate lead = true)
    (trails : isTrailSurrogate trail = true) :
    ofCodePoint (combineSurrogates lead trail) = [lead, trail] := by
  rw [isLeadSurrogate_iff] at leads
  rw [isTrailSurrogate_iff] at trails
  have valid : (0x10000 + (lead.toNat - 0xD800) * 0x400 + (trail.toNat - 0xDC00)).isValidChar := by
    rw [Nat.isValidChar]
    omega
  have high : 0xD800 + (0x10000 + (lead.toNat - 0xD800) * 0x400 + (trail.toNat - 0xDC00) - 0x10000) / 0x400
      = lead.toNat := by omega
  have low : 0xDC00 + (0x10000 + (lead.toNat - 0xD800) * 0x400 + (trail.toNat - 0xDC00) - 0x10000) % 0x400
      = trail.toNat := by omega
  rw [ofCodePoint, combineSurrogates, toNat_ofNat_char valid, if_neg (by omega), high, low]
  rw [UInt16.ofNat_toNat, UInt16.ofNat_toNat]

theorem toCodePoints_cons_of_not_surrogate (alone : isSurrogate unit = false) (rest : Utf16) :
    toCodePoints (unit :: rest) = toCodePoint unit :: toCodePoints rest := by
  cases rest with
  | nil => rfl
  | cons next rest => simp [toCodePoints, isLeadSurrogate_of_not_surrogate alone]

theorem ofCodePoints_toCodePoints (paired : Paired text) : ofCodePoints (toCodePoints text) = text := by
  induction paired with
  | nil => rfl
  | unit alone _ ih =>
    rw [toCodePoints_cons_of_not_surrogate alone, ofCodePoints, List.flatMap_cons, ofCodePoint_toCodePoint alone]
    exact congrArg _ ih
  | pair leads trails _ ih =>
    rw [toCodePoints, leads, trails, Bool.and_true, if_pos rfl, ofCodePoints, List.flatMap_cons,
      ofCodePoint_combineSurrogates leads trails]
    exact congrArg _ ih

/-! ## UTF-8 -/

def encodeUtf8 (text : Utf16) : List UInt8 := (toCodePoints text).flatMap String.utf8EncodeChar

/-- Refuses what is not UTF-8, and drops a byte order mark at the start. -/
def decodeUtf8 (bytes : List UInt8) : Option Utf16 := do
  let characters ← bytes.toByteArray.utf8Decode?
  let text := ofCodePoints characters.toList
  if text.head? = some 0xFEFF then return text.tail else return text

theorem decodeUtf8_encodeUtf8 (paired : Paired text) (unmarked : text.head? ≠ some 0xFEFF) :
    decodeUtf8 (encodeUtf8 text) = some text := by
  have decoded : (encodeUtf8 text).toByteArray.utf8Decode? = some (toCodePoints text).toArray :=
    List.utf8Decode?_utf8Encode
  rw [decodeUtf8, decoded]
  simp only [Option.bind_eq_bind, Option.bind_some, ofCodePoints_toCodePoints paired, if_neg unmarked]
  rfl

theorem toCodePoints_append (paired : Paired text) (rest : Utf16) :
    toCodePoints (text ++ rest) = toCodePoints text ++ toCodePoints rest := by
  induction paired with
  | nil => rfl
  | unit alone _ ih =>
    rw [List.cons_append, toCodePoints_cons_of_not_surrogate alone, toCodePoints_cons_of_not_surrogate alone, ih]
    rfl
  | pair leads trails _ ih =>
    simp only [List.cons_append, toCodePoints, leads, trails, Bool.and_true, if_true, ih]

theorem encodeUtf8_append (paired : Paired text) (rest : Utf16) :
    encodeUtf8 (text ++ rest) = encodeUtf8 text ++ encodeUtf8 rest := by
  rw [encodeUtf8, toCodePoints_append paired, List.flatMap_append]
  rfl

theorem toNat_eq_of_mem_utf8EncodeChar {c : Char} {byte : UInt8} (ascii : byte.toNat < 0x80)
    (member : byte ∈ String.utf8EncodeChar c) : c.toNat = byte.toNat := by
  have code : c.toNat = c.val.toNat := rfl
  revert member
  fun_cases String.utf8EncodeChar c with
  | case1 v small =>
    intro member
    rw [List.mem_singleton] at member
    rw [member, code, UInt8.toNat_ofNat']
    omega
  | case2 v =>
    intro member
    simp only [List.mem_cons, List.not_mem_nil, or_false] at member
    rcases member with rfl | rfl <;> rw [UInt8.toNat_ofNat'] at ascii <;> omega
  | case3 v =>
    intro member
    simp only [List.mem_cons, List.not_mem_nil, or_false] at member
    rcases member with rfl | rfl | rfl <;> rw [UInt8.toNat_ofNat'] at ascii <;> omega
  | case4 v =>
    intro member
    simp only [List.mem_cons, List.not_mem_nil, or_false] at member
    rcases member with rfl | rfl | rfl | rfl <;> rw [UInt8.toNat_ofNat'] at ascii <;> omega

theorem mem_of_mem_encodeUtf8 (paired : Paired text) {byte : UInt8} (ascii : byte.toNat < 0x80)
    (member : byte ∈ encodeUtf8 text) : UInt16.ofNat byte.toNat ∈ text := by
  obtain ⟨c, inside, encoded⟩ := List.mem_flatMap.mp member
  have code := toNat_eq_of_mem_utf8EncodeChar ascii encoded
  rw [← ofCodePoints_toCodePoints paired]
  refine List.mem_flatMap.mpr ⟨c, inside, ?_⟩
  rw [ofCodePoint, if_pos (by omega), code]
  exact List.mem_singleton_self _

end FlutterZero.Lib
