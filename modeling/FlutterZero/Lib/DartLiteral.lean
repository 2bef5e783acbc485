import FlutterZero.Lib.Json

/-! # Single-quoted literals of Dart

What stands between the quotes of a literal: characters, escape sequences, and interpolations, which
begin with a dollar sign.

* `escapeSequence` — what stands behind a backslash, and its length;
* `readFrom` — the value, given what is to be made of a dollar sign; `none` where a quote or the end of the
  line would end the literal, or an escape sequence is malformed;
* `value` — the value of a literal without interpolation;
* `readFrom_append` — what stands behind such a literal is read as if it stood alone.
-/

namespace FlutterZero.Lib.DartLiteral

open FlutterZero.Lib.Json (hexValue)

/-! ## Escape sequences -/

def hexNumber (digits : Utf16) : Option Nat :=
  digits.foldlM (fun number unit => (hexValue unit).map (16 * number + ·)) 0

def ofScalar (code : Nat) : Utf16 :=
  if code < 0x10000 then [UInt16.ofNat code]
  else [UInt16.ofNat (0xD800 + (code - 0x10000) / 0x400), UInt16.ofNat (0xDC00 + (code - 0x10000) % 0x400)]

def fixedEscape (count : Nat) (rest : Utf16) : Option (Utf16 × Nat) :=
  if count ≤ rest.length then (hexNumber (rest.take count)).map fun code => (ofScalar code, 1 + count) else none

def bracedEscape (rest : Utf16) : Option (Utf16 × Nat) :=
  let digits := rest.takeWhile fun unit => (hexValue unit).isSome
  if 1 ≤ digits.length ∧ digits.length ≤ 6 ∧ rest[digits.length]? = some 0x7D then
    match hexNumber digits with
    | some code => if code ≤ 0x10FFFF then some (ofScalar code, digits.length + 3) else none
    | none => none
  else none

def controlCharacter (letter : UInt16) : Option UInt16 :=
  if letter = 0x6E then some 0x0A
  else if letter = 0x72 then some 0x0D
  else if letter = 0x66 then some 0x0C
  else if letter = 0x62 then some 0x08
  else if letter = 0x74 then some 0x09
  else if letter = 0x76 then some 0x0B
  else none

def escapeSequence : Utf16 → Option (Utf16 × Nat)
  | [] => none
  | unit :: rest =>
    match controlCharacter unit with
    | some control => some ([control], 1)
    | none =>
      if unit = 0x78 then fixedEscape 2 rest
      else if unit = 0x75 then if rest.head? = some 0x7B then bracedEscape rest.tail else fixedEscape 4 rest
      else if unit = 0x0A ∨ unit = 0x0D then none
      else some ([unit], 1)

/-! ## Values -/

def isSpecial (unit : UInt16) : Bool := unit == 0x5C || unit == 0x24 || unit == 0x27 || unit == 0x0A || unit == 0x0D

/-- Behind the units that belong to an escape sequence or an interpolation. -/
def readFrom (interpolation : Utf16 → Option (Utf16 × Nat)) : Nat → Utf16 → Option Utf16
  | _, [] => some []
  | skipped + 1, _ :: rest => readFrom interpolation skipped rest
  | 0, unit :: rest =>
    if unit = 0x5C then
      match escapeSequence rest with
      | none => none
      | some (value, length) => (readFrom interpolation length rest).map (value ++ ·)
    else if unit = 0x24 then
      match interpolation rest with
      | none => none
      | some (value, length) => (readFrom interpolation length rest).map (value ++ ·)
    else if isSpecial unit then none
    else (readFrom interpolation 0 rest).map (unit :: ·)

def value (literal : Utf16) : Option Utf16 := readFrom (fun _ => none) 0 literal

example : value (units ['a', '\\', 'n', '\\', 'x', '4', '1']) = some [0x61, 0x0A, 0x41] := by decide

/-! ## Lemmas -/

variable {interpolation : Utf16 → Option (Utf16 × Nat)} {unit : UInt16} {rest text result : Utf16} {length : Nat}

@[simp] theorem readFrom_nil : readFrom interpolation length [] = some [] := by
  cases length <;> rfl

theorem readFrom_plain (plain : isSpecial unit = false) :
    readFrom interpolation 0 (unit :: rest) = (readFrom interpolation 0 rest).map (unit :: ·) := by
  have other := plain
  simp only [isSpecial, Bool.or_eq_false_iff, beq_eq_false_iff_ne] at other
  rw [readFrom, if_neg other.1.1.1.1, if_neg other.1.1.1.2, plain]
  rfl

theorem readFrom_escape (sequence : escapeSequence rest = some (result, length)) :
    readFrom interpolation 0 (0x5C :: rest) = (readFrom interpolation length rest).map (result ++ ·) := by
  rw [readFrom, if_pos rfl, sequence]

theorem readFrom_dollar (found : interpolation rest = some (result, length)) :
    readFrom interpolation 0 (0x24 :: rest) = (readFrom interpolation length rest).map (result ++ ·) := by
  rw [readFrom, if_neg (by decide), if_pos rfl, found]

theorem readFrom_skip (skipped : Utf16) :
    readFrom interpolation skipped.length (skipped ++ rest) = readFrom interpolation 0 rest := by
  induction skipped with
  | nil => rfl
  | cons unit skipped ih => exact ih

theorem fixedEscape_append {count : Nat} (more : Utf16) (found : fixedEscape count rest = some (result, length)) :
    fixedEscape count (rest ++ more) = some (result, length) ∧ length ≤ 1 + rest.length := by
  unfold fixedEscape at found ⊢
  split at found
  · rename_i enough
    rw [List.take_append_of_le_length enough, if_pos (by rw [List.length_append]; omega)]
    refine ⟨found, ?_⟩
    obtain ⟨code, -, equal⟩ := Option.map_eq_some_iff.mp found
    cases equal
    omega
  · cases found

theorem bracedEscape_append (more : Utf16) (found : bracedEscape rest = some (result, length)) :
    bracedEscape (rest ++ more) = some (result, length) ∧ length ≤ 2 + rest.length := by
  unfold bracedEscape at found
  dsimp only at found
  split at found
  · rename_i shape
    obtain ⟨atLeast, atMost, closing⟩ := shape
    have inside := (List.getElem?_eq_some_iff.mp closing).1
    have same : (rest ++ more).takeWhile (fun unit => (hexValue unit).isSome) =
        rest.takeWhile fun unit => (hexValue unit).isSome := by
      rw [List.takeWhile_append, if_neg (Nat.ne_of_lt inside)]
    unfold bracedEscape
    dsimp only
    rw [same, List.getElem?_append_left inside, if_pos ⟨atLeast, atMost, closing⟩]
    refine ⟨found, ?_⟩
    cases number : hexNumber (rest.takeWhile fun unit => (hexValue unit).isSome) with
    | none =>
      rw [number] at found
      cases found
    | some code =>
      rw [number] at found
      dsimp only at found
      split at found
      · cases found
        omega
      · cases found
  · cases found

theorem escapeSequence_append (more : Utf16) (found : escapeSequence rest = some (result, length)) :
    escapeSequence (rest ++ more) = some (result, length) ∧ length ≤ rest.length := by
  cases rest with
  | nil => cases found
  | cons unit rest =>
    rw [List.cons_append, List.length_cons]
    rw [escapeSequence] at found ⊢
    cases control : controlCharacter unit with
    | some control =>
      rw [control] at found
      cases found
      exact ⟨rfl, Nat.le_add_left ..⟩
    | none =>
      rw [control] at found
      dsimp only at found ⊢
      split at found
      · rename_i hexadecimal
        rw [if_pos hexadecimal, Nat.add_comm rest.length]
        exact fixedEscape_append more found
      · rename_i notX
        rw [if_neg notX]
        split at found
        · rename_i unicode
          rw [if_pos unicode]
          cases rest with
          | nil => cases found
          | cons next rest =>
            rw [List.head?_cons] at found
            rw [List.cons_append, List.head?_cons, List.length_cons]
            split at found
            · rename_i brace
              rw [if_pos brace]
              obtain ⟨same, bound⟩ := bracedEscape_append more found
              exact ⟨same, by rw [List.tail_cons] at bound; omega⟩
            · rename_i noBrace
              rw [if_neg noBrace]
              obtain ⟨same, bound⟩ := fixedEscape_append more found
              exact ⟨same, by rw [List.length_cons] at bound; omega⟩
        · rename_i notU
          rw [if_neg notU]
          split at found
          · cases found
          · rename_i inLine
            rw [if_neg inLine]
            cases found
            exact ⟨rfl, Nat.le_add_left ..⟩

theorem readFrom_append {skipped : Nat} (read : readFrom (fun _ => none) skipped text = some result)
    (inside : skipped ≤ text.length) :
    readFrom interpolation skipped (text ++ rest) = (readFrom interpolation 0 rest).map (result ++ ·) := by
  induction text generalizing skipped result with
  | nil =>
    obtain rfl := Nat.le_zero.mp inside
    cases read
    simp
  | cons unit text ih =>
    cases skipped with
    | succ skipped => exact ih read (Nat.le_of_succ_le_succ inside)
    | zero =>
      rw [List.cons_append]
      rw [readFrom] at read
      split at read
      · rename_i backslash
        cases sequence : escapeSequence text with
        | none =>
          rw [sequence] at read
          cases read
        | some found =>
          obtain ⟨first, length⟩ := found
          rw [sequence] at read
          obtain ⟨later, read_later, rfl⟩ := Option.map_eq_some_iff.mp read
          obtain ⟨sequence', bound⟩ := escapeSequence_append rest sequence
          rw [backslash, readFrom_escape sequence', ih read_later bound, Option.map_map]
          congr 1
          funext more
          exact (List.append_assoc ..).symm
      · split at read
        · cases read
        · split at read
          · cases read
          · rename_i plain
            obtain ⟨later, read_later, rfl⟩ := Option.map_eq_some_iff.mp read
            rw [readFrom_plain (Bool.eq_false_iff.mpr plain), ih read_later (Nat.zero_le _), Option.map_map]
            rfl

end FlutterZero.Lib.DartLiteral
