import FlutterZero.Lib.DartLiteral
import FlutterZero.Lib.ReplaceAll

/-! # Strings for generated code

`generateString` (`localizations_utils.dart`) escapes a text for a literal in single quotes.  Backslashes
are replaced by a marker first, so that the passes after it do not see the backslashes of one another,
and the marker by escaped backslashes in the end.
-/

namespace FlutterZero.FlutterTools.Localizations

open FlutterZero.Lib DartLiteral

/-- `__BACKSLASH__` -/
def backslash : Utf16 := units ['_', '_', 'B', 'A', 'C', 'K', 'S', 'L', 'A', 'S', 'H', '_', '_']

def generateString (value : Utf16) : Utf16 :=
  let value := replaceAll [0x5C] backslash value
  let value := replaceAll [0x24] [0x5C, 0x24] value
  let value := replaceAll [0x27] [0x5C, 0x27] value
  let value := replaceAll [0x22] [0x5C, 0x22] value
  let value := replaceAll [0x0A] [0x5C, 0x6E] value
  let value := replaceAll [0x0C] [0x5C, 0x66] value
  let value := replaceAll [0x09] [0x5C, 0x74] value
  let value := replaceAll [0x0D] [0x5C, 0x72] value
  let value := replaceAll [0x08] [0x5C, 0x62] value
  replaceAll backslash [0x5C, 0x5C] value

/-- The literal is well-formed, has no interpolation, and means the text. -/
def IsUndone (value : Utf16) : Prop := DartLiteral.value (generateString value) = some value

/-- `__BACKSLASH` -/
def markerStart : Utf16 := units ['_', '_', 'B', 'A', 'C', 'K', 'S', 'L', 'A', 'S', 'H']

/-- The marker of a backslash completes another one, of which `__BACKSLASH` or `__BACKSLASH_` stands in front
    of it. -/
def CompletesMarker (value : Utf16) : Prop :=
  markerStart ++ [0x5C] <:+: value ∨ markerStart ++ [0x5F, 0x5C] <:+: value

example : generateString (units ['a', '\\', '\'', '\n']) = units ['a', '\\', '\\', '\\', '\'', '\\', 'n'] := by decide

/-! ## The passes -/

variable {rest text value : Utf16} {unit : UInt16}

/-- What the passes before the last make of a unit. -/
def escapeUnit (unit : UInt16) : Utf16 :=
  if unit = 0x5C then backslash
  else if unit = 0x24 ∨ unit = 0x27 ∨ unit = 0x22 then [0x5C, unit]
  else if unit = 0x0A then [0x5C, 0x6E]
  else if unit = 0x0C then [0x5C, 0x66]
  else if unit = 0x09 then [0x5C, 0x74]
  else if unit = 0x0D then [0x5C, 0x72]
  else if unit = 0x08 then [0x5C, 0x62]
  else [unit]

theorem generateString_eq (value : Utf16) :
    generateString value = replaceAll backslash [0x5C, 0x5C] (value.flatMap escapeUnit) := by
  simp only [generateString, replaceAll_singleton, List.flatMap_assoc]
  congr 1
  refine List.flatMap_congr fun unit _ => ?_
  by_cases special : unit ∈ [0x5C, 0x24, 0x27, 0x22, 0x0A, 0x0C, 0x09, 0x0D, 0x08]
  · simp only [List.mem_cons, List.not_mem_nil, or_false] at special
    obtain rfl | rfl | rfl | rfl | rfl | rfl | rfl | rfl | rfl := special <;> rfl
  · simp only [List.mem_cons, List.not_mem_nil, or_false, not_or] at special
    simp [escapeUnit, special]

/-! ## The last pass -/

def escapedUnit (unit : UInt16) : Utf16 := if unit = 0x5C then [0x5C, 0x5C] else escapeUnit unit

theorem escapedUnit_cases (unit : UInt16) :
    (∃ letter, escapedUnit unit = [0x5C, letter] ∧ ∀ rest, escapeSequence (letter :: rest) = some ([unit], 1)) ∨
      escapedUnit unit = [unit] ∧ isSpecial unit = false := by
  by_cases special : unit ∈ [0x5C, 0x24, 0x27, 0x22, 0x0A, 0x0C, 0x09, 0x0D, 0x08]
  · simp only [List.mem_cons, List.not_mem_nil, or_false] at special
    obtain rfl | rfl | rfl | rfl | rfl | rfl | rfl | rfl | rfl := special <;> exact .inl ⟨_, rfl, fun _ => rfl⟩
  · simp only [List.mem_cons, List.not_mem_nil, or_false, not_or] at special
    exact .inr ⟨by simp [escapedUnit, escapeUnit, special], by simp [isSpecial, special]⟩

theorem value_escapedUnit (unit : UInt16) (rest : Utf16) :
    DartLiteral.value (escapedUnit unit ++ rest) = (DartLiteral.value rest).map (unit :: ·) := by
  obtain ⟨letter, escaped, sequence⟩ | ⟨alone, plain⟩ := escapedUnit_cases unit
  · rw [escaped]
    exact readFrom_escape (sequence rest)
  · rw [alone]
    exact readFrom_plain plain

theorem escapeUnit_cases (unit : UInt16) :
    unit = 0x5C ∨ (∃ letter, escapeUnit unit = [0x5C, letter] ∧ letter ≠ 0x5F) ∨
      escapeUnit unit = [unit] ∧ unit ≠ 0x5C := by
  by_cases special : unit ∈ [0x5C, 0x24, 0x27, 0x22, 0x0A, 0x0C, 0x09, 0x0D, 0x08]
  · simp only [List.mem_cons, List.not_mem_nil, or_false] at special
    obtain rfl | special := special
    · exact .inl rfl
    · obtain rfl | rfl | rfl | rfl | rfl | rfl | rfl | rfl := special <;>
        exact .inr (.inl ⟨_, rfl, by decide⟩)
  · simp only [List.mem_cons, List.not_mem_nil, or_false, not_or] at special
    exact .inr (.inr ⟨by simp [escapeUnit, special], special.1⟩)

theorem prefix_flatMap (letter : unit ≠ 0x5C) (found : unit :: text <+: value.flatMap escapeUnit) :
    (∃ value', value = unit :: value' ∧ text <+: value'.flatMap escapeUnit) ∨
      unit = 0x5F ∧ ∃ value', value = 0x5C :: value' ∧ text <+: backslash.tail ++ value'.flatMap escapeUnit := by
  cases value with
  | nil => simp at found
  | cons first value =>
    rw [List.flatMap_cons] at found
    obtain rfl | ⟨letter', escaped, -⟩ | ⟨escaped, -⟩ := escapeUnit_cases first
    · obtain ⟨same, rest⟩ := List.cons_prefix_cons.mp
        (show unit :: text <+: 0x5F :: (backslash.tail ++ value.flatMap escapeUnit) from found)
      exact .inr ⟨same, value, rfl, rest⟩
    · rw [escaped] at found
      exact absurd (List.cons_prefix_cons.mp found).1 letter
    · rw [escaped] at found
      obtain ⟨rfl, rest⟩ := List.cons_prefix_cons.mp found
      exact .inl ⟨value, rfl, rest⟩

theorem prefix_flatMap_append {letters : Utf16} (plain : ∀ letter ∈ letters, letter ≠ 0x5C ∧ letter ≠ 0x5F)
    (found : letters ++ text <+: value.flatMap escapeUnit) :
    ∃ value', value = letters ++ value' ∧ text <+: value'.flatMap escapeUnit := by
  induction letters generalizing value with
  | nil => exact ⟨value, rfl, found⟩
  | cons letter letters ih =>
    rw [List.forall_mem_cons] at plain
    obtain ⟨value', rfl, rest⟩ | ⟨underscore, -⟩ := prefix_flatMap plain.1.1 found
    · obtain ⟨value'', rfl, rest'⟩ := ih plain.2 rest
      exact ⟨value'', rfl, rest'⟩
    · exact absurd underscore plain.1.2

theorem completes_of_marked (found : backslash <+: 0x5F :: value.flatMap escapeUnit)
    (unmarked : ¬ backslash <+: 0x5F :: value) :
    markerStart ++ [0x5C] <+: 0x5F :: value ∨ markerStart ++ [0x5F, 0x5C] <+: 0x5F :: value := by
  have first : 0x5F :: (units ['B', 'A', 'C', 'K', 'S', 'L', 'A', 'S', 'H'] ++ [0x5F, 0x5F]) <+:
      value.flatMap escapeUnit := (List.cons_prefix_cons.mp found).2
  obtain ⟨value, rfl, second⟩ | ⟨-, value, rfl, second⟩ := prefix_flatMap (by decide) first
  · obtain ⟨value, rfl, underscores⟩ := prefix_flatMap_append (by simp [units]) second
    obtain ⟨value, rfl, underscore⟩ | ⟨-, value, rfl, -⟩ := prefix_flatMap (by decide) underscores
    · obtain ⟨value, rfl, -⟩ | ⟨-, value, rfl, -⟩ := prefix_flatMap (by decide) underscore
      · exact absurd ⟨value, rfl⟩ unmarked
      · exact .inr ⟨value, rfl⟩
    · exact .inl ⟨value, rfl⟩
  · -- the marker has no third underscore at its start
    have head : (0x42 : UInt16) :: _ <+: 0x5F :: _ := second
    exact absurd (List.cons_prefix_cons.mp head).1 (by decide)

theorem prefix_of_completes
    (completes : markerStart ++ [0x5C] <+: value ∨ markerStart ++ [0x5F, 0x5C] <+: value) :
    ∃ value' rest, value = 0x5F :: value' ∧ value.flatMap escapeUnit = backslash ++ rest := by
  obtain ⟨value, rfl⟩ | ⟨value, rfl⟩ := completes
  · exact ⟨_, _, rfl, by rw [List.flatMap_append]; exact List.append_assoc backslash _ _⟩
  · exact ⟨_, _, rfl, by rw [List.flatMap_append]; exact List.append_assoc backslash _ _⟩

theorem backslash_ne_nil : backslash ≠ [] := List.cons_ne_nil 0x5F _

theorem not_isPrefix_backslash (differs : unit ≠ 0x5F) : ¬ backslash <+: unit :: rest :=
  fun found => differs (List.cons_prefix_cons.mp (show 0x5F :: _ <+: unit :: rest from found)).1.symm

theorem replaceAll_escapeUnit (unmarked : ¬ backslash <+: unit :: value)
    (free : ¬ (markerStart ++ [0x5C] <+: unit :: value ∨ markerStart ++ [0x5F, 0x5C] <+: unit :: value)) :
    replaceAll backslash [0x5C, 0x5C] (escapeUnit unit ++ value.flatMap escapeUnit) =
      escapedUnit unit ++ replaceAll backslash [0x5C, 0x5C] (value.flatMap escapeUnit) := by
  obtain rfl | ⟨letter, escaped, other⟩ | ⟨alone, other⟩ := escapeUnit_cases unit
  · exact replaceAll_of_match backslash_ne_nil _
  · have notBackslash : unit ≠ 0x5C := by
      rintro rfl
      cases escaped
    rw [escapedUnit, if_neg notBackslash, escaped, List.cons_append, List.singleton_append,
      replaceAll_cons (not_isPrefix_backslash (by decide)), replaceAll_cons (not_isPrefix_backslash other)]
    rfl
  · rw [escapedUnit, if_neg other, alone, List.singleton_append]
    apply replaceAll_cons
    by_cases underscore : unit = 0x5F
    · subst underscore
      exact fun found => free (completes_of_marked found unmarked)
    · exact not_isPrefix_backslash underscore

theorem last_pass (unmarked : ¬ backslash <:+: value) :
    DartLiteral.value (replaceAll backslash [0x5C, 0x5C] (value.flatMap escapeUnit)) = some value ↔
      ¬ CompletesMarker value := by
  induction value with
  | nil => exact iff_of_true rfl (by simp [CompletesMarker])
  | cons unit value ih =>
    rw [List.infix_cons_iff, not_or] at unmarked
    by_cases completes : markerStart ++ [0x5C] <+: unit :: value ∨ markerStart ++ [0x5F, 0x5C] <+: unit :: value
    · -- a backslash is read where an underscore was
      obtain ⟨value', rest, same, marked⟩ := prefix_of_completes completes
      obtain ⟨rfl, rfl⟩ := List.cons.inj same
      refine iff_of_false ?_ (not_not_intro (completes.imp List.IsPrefix.isInfix List.IsPrefix.isInfix))
      rw [marked, replaceAll_of_match backslash_ne_nil]
      intro undone
      obtain ⟨later, -, equal⟩ := Option.map_eq_some_iff.mp ((value_escapedUnit 0x5C _).symm.trans undone)
      exact absurd (List.cons.inj equal).1 (by decide)
    · have later : CompletesMarker (unit :: value) ↔ CompletesMarker value := by
        rw [CompletesMarker, List.infix_cons_iff, List.infix_cons_iff, CompletesMarker]
        rw [not_or] at completes
        simp only [completes.1, completes.2, false_or]
      rw [List.flatMap_cons, replaceAll_escapeUnit unmarked.1 completes, value_escapedUnit, later, ← ih unmarked.2]
      simp

/-- The literal means the text if and only if no backslash of the text completes the marker. -/
theorem isUndone_iff (unmarked : ¬ backslash <:+: value) : IsUndone value ↔ ¬ CompletesMarker value := by
  rw [IsUndone, generateString_eq]
  exact last_pass unmarked

/-- `a\b'$` -/
theorem isUndone_iff_backslash :
    ¬ backslash <:+: units ['a', '\\', 'b', '\'', '$'] ∧
      (IsUndone (units ['a', '\\', 'b', '\'', '$']) ↔ ¬ CompletesMarker (units ['a', '\\', 'b', '\'', '$'])) := by
  have unmarked : ¬ backslash <:+: units ['a', '\\', 'b', '\'', '$'] := by decide
  exact ⟨unmarked, isUndone_iff unmarked⟩

/-- `__BACKSLASH` and a backslash become a backslash and `BACKSLASH__`. -/
theorem not_isUndone_overlap :
    ¬ backslash <:+: units ['_', '_', 'B', 'A', 'C', 'K', 'S', 'L', 'A', 'S', 'H', '\\'] ∧
      DartLiteral.value (generateString (units ['_', '_', 'B', 'A', 'C', 'K', 'S', 'L', 'A', 'S', 'H', '\\'])) =
        some (units ['\\', 'B', 'A', 'C', 'K', 'S', 'L', 'A', 'S', 'H', '_', '_']) ∧
      ¬ IsUndone (units ['_', '_', 'B', 'A', 'C', 'K', 'S', 'L', 'A', 'S', 'H', '\\']) := by
  have unmarked : ¬ backslash <:+: units ['_', '_', 'B', 'A', 'C', 'K', 'S', 'L', 'A', 'S', 'H', '\\'] := by decide
  have read : DartLiteral.value (generateString
      (units ['_', '_', 'B', 'A', 'C', 'K', 'S', 'L', 'A', 'S', 'H', '\\'])) =
      some (units ['\\', 'B', 'A', 'C', 'K', 'S', 'L', 'A', 'S', 'H', '_', '_']) := by decide
  refine ⟨unmarked, read, fun undone => ?_⟩
  have same := undone.symm.trans read
  exact absurd (Option.some.inj same) (by decide)

end FlutterZero.FlutterTools.Localizations
