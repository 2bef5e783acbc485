import FlutterZero.Lib.DartLiteral

/-! # Concatenated expressions

`generateReturnExpr` (`localizations_utils.dart`) puts literal texts and interpolated expressions into one
literal in single quotes.  The braces of an interpolation are left out where it is a name and the text
behind it cannot be taken for a part of the name.
-/

namespace FlutterZero.FlutterTools.Localizations

open FlutterZero.Lib DartLiteral

/-! ## Interpolation -/

def isLetter (unit : UInt16) : Bool := (0x61 ≤ unit && unit ≤ 0x7A) || (0x41 ≤ unit && unit ≤ 0x5A) || unit == 0x5F

/-- `[0-9a-zA-Z]|_` -/
def isAlphanumeric (unit : UInt16) : Bool := isLetter unit || (0x30 ≤ unit && unit ≤ 0x39)

/-- The words that are no identifiers, without `this`, which can be interpolated as an identifier can. -/
def reservedWords : List Utf16 :=
  [units ['a', 's', 's', 'e', 'r', 't'], units ['b', 'r', 'e', 'a', 'k'], units ['c', 'a', 's', 'e'],
    units ['c', 'a', 't', 'c', 'h'], units ['c', 'l', 'a', 's', 's'], units ['c', 'o', 'n', 's', 't'],
    units ['c', 'o', 'n', 't', 'i', 'n', 'u', 'e'], units ['d', 'e', 'f', 'a', 'u', 'l', 't'], units ['d', 'o'],
    units ['e', 'l', 's', 'e'], units ['e', 'n', 'u', 'm'], units ['e', 'x', 't', 'e', 'n', 'd', 's'],
    units ['f', 'a', 'l', 's', 'e'], units ['f', 'i', 'n', 'a', 'l'], units ['f', 'i', 'n', 'a', 'l', 'l', 'y'],
    units ['f', 'o', 'r'], units ['i', 'f'], units ['i', 'n'], units ['i', 's'], units ['n', 'e', 'w'],
    units ['n', 'u', 'l', 'l'], units ['r', 'e', 't', 'h', 'r', 'o', 'w'], units ['r', 'e', 't', 'u', 'r', 'n'],
    units ['s', 'u', 'p', 'e', 'r'], units ['s', 'w', 'i', 't', 'c', 'h'], units ['t', 'h', 'r', 'o', 'w'],
    units ['t', 'r', 'u', 'e'], units ['t', 'r', 'y'], units ['v', 'a', 'r'], units ['v', 'o', 'i', 'd'],
    units ['w', 'h', 'i', 'l', 'e'], units ['w', 'i', 't', 'h']]

structure IsName (name : Utf16) : Prop where
  letter : name.head?.any isLetter = true
  alphanumeric : ∀ unit ∈ name, isAlphanumeric unit = true
  notReserved : name ∉ reservedWords

/-- The expressions of Dart: which ones there are, which one stands in front of a closing brace, and what
    they mean where the variables mean the given texts. -/
structure Expressions where
  IsExpression : Utf16 → Prop
  scan : Utf16 → Option Utf16
  valueOf : (Utf16 → Utf16) → Utf16 → Utf16
  scan_append : ∀ code rest, IsExpression code → scan (code ++ 0x7D :: rest) = some code
  isExpression_name : ∀ name, IsName name → IsExpression name
  valueOf_name : ∀ assigned name, IsName name → valueOf assigned name = assigned name

section

theorem lawfulBEq_utf16 : LawfulBEq Utf16 := inferInstance

attribute [local instance] lawfulBEq_utf16

/-- What stands behind a dollar sign: an expression in braces, or as long a name as possible. -/
def interpolation (dart : Expressions) (assigned : Utf16 → Utf16) : Utf16 → Option (Utf16 × Nat)
  | [] => none
  | unit :: rest =>
    if unit = 0x7B then (dart.scan rest).map fun code => (dart.valueOf assigned code, code.length + 2)
    else if isLetter unit then
      let name := (unit :: rest).takeWhile isAlphanumeric
      if name ∈ reservedWords then none else some (assigned name, name.length)
    else none

end

def evaluate (dart : Expressions) (assigned : Utf16 → Utf16) (literal : Utf16) : Option Utf16 :=
  if literal.head? = some 0x27 ∧ literal.getLast? = some 0x27 ∧ 2 ≤ literal.length then
    readFrom (interpolation dart assigned) 0 literal.tail.dropLast
  else none

/-! ## The generated literal -/

/-- `^([0-9a-zA-Z]|_)+$` -/
def matchesAlphanumeric (text : Utf16) : Bool := !text.isEmpty && text.all isAlphanumeric

/-- One expression in front of the text that was generated for those behind it; there is no first unit of an
    empty expression. -/
def prependExpression (string expression : Utf16) : Option Utf16 :=
  match expression with
  | [] => none
  | unit :: rest =>
    if unit ≠ 0x24 then some (expression ++ string)
    else if matchesAlphanumeric rest && !(!string.isEmpty && matchesAlphanumeric (string.take 1)) then
      some (expression ++ string)
    else some ([0x24, 0x7B] ++ rest ++ [0x7D] ++ string)

def generateReturnExpr (expressions : List Utf16) (isSingleStringVar : Bool) : Option Utf16 :=
  match expressions with
  | [] => some [0x27, 0x27]
  | first :: _ =>
    if isSingleStringVar then if first = [] then none else some (first.drop 1)
    else (expressions.reverse.foldlM prependExpression []).map fun string => [0x27] ++ string ++ [0x27]

inductive Part (dart : Expressions) where
  | name (name : Utf16) (isName : IsName name)
  | code (code : Utf16) (isExpression : dart.IsExpression code) (notAlphanumeric : code.all isAlphanumeric = false)
  | text (text value : Utf16) (nonempty : text ≠ []) (wellFormed : DartLiteral.value text = some value)

namespace Part

variable {dart : Expressions}

def expression : Part dart → Utf16
  | .name id _ => 0x24 :: id
  | .code expr _ _ => 0x24 :: expr
  | .text literal _ _ _ => literal

def value (assigned : Utf16 → Utf16) : Part dart → Utf16
  | .name id _ => assigned id
  | .code expr _ _ => dart.valueOf assigned expr
  | .text _ read _ _ => read

end Part

/-! ## One part -/

variable {dart : Expressions} {assigned : Utf16 → Utf16} {string name code : Utf16}

theorem takeWhile_name (isName : IsName name) (ends : string.head?.any isAlphanumeric = false) :
    (name ++ string).takeWhile isAlphanumeric = name := by
  rw [List.takeWhile_append_of_pos isName.alphanumeric]
  cases string with
  | nil => rw [List.takeWhile_nil, List.append_nil]
  | cons unit string =>
    have stops : isAlphanumeric unit = false := ends
    rw [List.takeWhile_cons_of_neg (by simp [stops]), List.append_nil]

theorem readFrom_name (isName : IsName name) (ends : string.head?.any isAlphanumeric = false) :
    readFrom (interpolation dart assigned) 0 (0x24 :: (name ++ string)) =
      (readFrom (interpolation dart assigned) 0 string).map (assigned name ++ ·) := by
  have found : interpolation dart assigned (name ++ string) = some (assigned name, name.length) := by
    have taken := takeWhile_name isName ends
    cases first : name with
    | nil =>
      have letter := isName.letter
      rw [first] at letter
      cases letter
    | cons unit rest =>
      have letter := isName.letter
      have notReserved := isName.notReserved
      rw [first] at letter taken notReserved
      have notBrace : unit ≠ 0x7B := by
        rintro rfl
        cases letter
      rw [List.cons_append, interpolation, if_neg notBrace, if_pos (show isLetter unit = true from letter),
        ← List.cons_append, taken, if_neg notReserved]
  rw [readFrom_dollar found, readFrom_skip]

theorem readFrom_braces (assigned : Utf16 → Utf16) (string : Utf16) (isExpression : dart.IsExpression code) :
    readFrom (interpolation dart assigned) 0 ([0x24, 0x7B] ++ code ++ [0x7D] ++ string) =
      (readFrom (interpolation dart assigned) 0 string).map (dart.valueOf assigned code ++ ·) := by
  have split : [0x24, 0x7B] ++ code ++ [0x7D] ++ string = 0x24 :: (0x7B :: (code ++ [0x7D]) ++ string) := by simp
  have length : code.length + 2 = (0x7B :: (code ++ [0x7D])).length := by simp
  have found : interpolation dart assigned (0x7B :: (code ++ [0x7D]) ++ string) =
      some (dart.valueOf assigned code, (0x7B :: (code ++ [0x7D])).length) := by
    rw [List.cons_append, List.append_assoc, List.singleton_append, interpolation, if_pos rfl,
      dart.scan_append code string isExpression, Option.map_some, length]
  rw [split, readFrom_dollar found, readFrom_skip]

theorem matchesAlphanumeric_of_isName (isName : IsName name) : matchesAlphanumeric name = true := by
  have nonempty : name.isEmpty = false := by
    cases name with
    | nil => cases isName.letter
    | cons unit rest => rfl
  rw [matchesAlphanumeric, nonempty, List.all_eq_true.mpr isName.alphanumeric]
  rfl

theorem matchesAlphanumeric_head (string : Utf16) :
    (!string.isEmpty && matchesAlphanumeric (string.take 1)) = string.head?.any isAlphanumeric := by
  cases string with
  | nil => rfl
  | cons unit string => simp [matchesAlphanumeric]

theorem prependExpression_part (assigned : Utf16 → Utf16) (part : Part dart) (string : Utf16) :
    ∃ string', prependExpression string part.expression = some string' ∧
      readFrom (interpolation dart assigned) 0 string' =
        (readFrom (interpolation dart assigned) 0 string).map (part.value assigned ++ ·) := by
  cases part with
  | name name isName =>
    have alphanumeric := matchesAlphanumeric_of_isName isName
    cases ends : string.head?.any isAlphanumeric with
    | true =>
      have braces := readFrom_braces assigned string (dart.isExpression_name name isName)
      refine ⟨_, ?_, braces.trans ?_⟩
      · rw [Part.expression, prependExpression, if_neg (by decide), alphanumeric, matchesAlphanumeric_head, ends]
        rfl
      · rw [dart.valueOf_name assigned name isName]
        rfl
    | false =>
      refine ⟨_, ?_, readFrom_name isName ends⟩
      rw [Part.expression, prependExpression, if_neg (by decide), alphanumeric, matchesAlphanumeric_head, ends]
      rfl
  | code code isExpression notAlphanumeric =>
    refine ⟨_, ?_, readFrom_braces assigned string isExpression⟩
    rw [Part.expression, prependExpression, if_neg (by decide), matchesAlphanumeric, notAlphanumeric, Bool.and_false,
      Bool.false_and]
    rfl
  | text text value nonempty wellFormed =>
    refine ⟨text ++ string, ?_, readFrom_append wellFormed (Nat.zero_le _)⟩
    obtain ⟨unit, rest, rfl⟩ := List.exists_cons_of_ne_nil nonempty
    have notDollar : unit ≠ 0x24 := by
      rintro rfl
      cases wellFormed
    rw [Part.expression, prependExpression, if_pos notDollar]

/-! ## All parts -/

theorem foldlM_prependExpression (assigned : Utf16 → Utf16) (parts : List (Part dart)) :
    ∃ string, (parts.map Part.expression).reverse.foldlM prependExpression [] = some string ∧
      readFrom (interpolation dart assigned) 0 string = some (parts.flatMap (Part.value assigned)) := by
  induction parts with
  | nil => exact ⟨[], rfl, rfl⟩
  | cons part parts ih =>
    obtain ⟨string, folded, read⟩ := ih
    obtain ⟨string', prepended, read'⟩ := prependExpression_part assigned part string
    refine ⟨string', ?_, ?_⟩
    · rw [List.map_cons, List.reverse_cons, List.foldlM_append, folded]
      simp [prepended]
    · rw [read', read]
      rfl

/-- The generated literal means the values of its parts, one behind the other. -/
theorem evaluate_generateReturnExpr (dart : Expressions) (assigned : Utf16 → Utf16) (parts : List (Part dart)) :
    ∃ literal, generateReturnExpr (parts.map Part.expression) false = some literal ∧
      evaluate dart assigned literal = some (parts.flatMap (Part.value assigned)) := by
  obtain ⟨string, folded, read⟩ := foldlM_prependExpression assigned parts
  refine ⟨[0x27] ++ string ++ [0x27], ?_, ?_⟩
  · cases parts with
    | nil =>
      cases folded
      rfl
    | cons part parts =>
      rw [List.map_cons] at folded ⊢
      simp only [generateReturnExpr, folded]
      rfl
  · have quoted : [0x27] ++ string ++ [0x27] = 0x27 :: (string ++ [0x27]) := rfl
    have last : (0x27 :: (string ++ [0x27])).getLast? = some 0x27 := by rw [← List.cons_append, List.getLast?_concat]
    rw [evaluate, quoted, List.tail_cons, List.dropLast_concat, if_pos ⟨rfl, last, by simp⟩, read]

def simpleExpressions : Expressions where
  IsExpression code := code ≠ [] ∧ ∀ unit ∈ code, isAlphanumeric unit = true ∨ unit = 0x2E
  scan rest :=
    let code := rest.takeWhile (· != 0x7D)
    if rest[code.length]? = some 0x7D then some code else none
  valueOf assigned code := if code.head?.any isLetter then assigned code else code
  scan_append := by
    intro code rest isExpression
    have inside : ∀ unit ∈ code, (unit != 0x7D) = true := by
      intro unit member
      apply bne_iff_ne.mpr
      rintro rfl
      exact absurd (isExpression.2 0x7D member) (by decide)
    have taken : (code ++ 0x7D :: rest).takeWhile (· != 0x7D) = code := by
      rw [List.takeWhile_append_of_pos inside, List.takeWhile_cons_of_neg (by decide), List.append_nil]
    dsimp only
    rw [taken, List.getElem?_append_right le_rfl, Nat.sub_self]
    rfl
  isExpression_name name isName := by
    refine ⟨?_, fun unit member => .inl (isName.alphanumeric unit member)⟩
    rintro rfl
    cases isName.letter
  valueOf_name assigned name isName := if_pos isName.letter

theorem isName_a : IsName (units ['a']) :=
  ⟨by decide, by simp [units, isAlphanumeric, isLetter], by simp [reservedWords, units]⟩

/-- `$a`, `b` and `$a.b` -/
theorem evaluate_generateReturnExpr_simple :
    ∃ literal, generateReturnExpr [units ['$', 'a'], units ['b'], units ['$', 'a', '.', 'b']] false = some literal ∧
      evaluate simpleExpressions (fun name => name ++ name) literal =
        some (units ['a', 'a', 'b', 'a', '.', 'b', 'a', '.', 'b']) :=
  evaluate_generateReturnExpr simpleExpressions _ [.name (units ['a']) isName_a,
    .text (units ['b']) (units ['b']) (by decide) (by decide),
    .code (units ['a', '.', 'b']) ⟨by decide, by simp [units, isAlphanumeric, isLetter]⟩ (by decide)]

/-- The number `123` is interpolated without braces, and a dollar sign in a text takes what is behind the text. -/
theorem not_evaluate_generateReturnExpr_digits :
    simpleExpressions.IsExpression (units ['1', '2', '3']) ∧
      generateReturnExpr [units ['$', '1', '2', '3']] false = some (units ['\'', '$', '1', '2', '3', '\'']) ∧
      evaluate simpleExpressions (fun name => name) (units ['\'', '$', '1', '2', '3', '\'']) = none ∧
      generateReturnExpr [units ['a', '$', 'b'], units ['c']] false = some (units ['\'', 'a', '$', 'b', 'c', '\'']) ∧
      evaluate simpleExpressions (fun name => if name = units ['b'] then units ['b'] else [])
        (units ['\'', 'a', '$', 'b', 'c', '\'']) = some (units ['a']) := by
  exact ⟨⟨by decide, by simp [units, isAlphanumeric]⟩, by decide, by decide, by decide, by decide⟩

end FlutterZero.FlutterTools.Localizations
