import FlutterZero.Lib.Json

/-! # The text of a JSON value decodes to the value

Numbers and strings first, each with any text after them; then values, by the
recursion of `encode`.  `Delimited` is what the text after a value looks like: a
number goes on as long as it can, so what follows it matters.
-/

namespace FlutterZero.Lib

/-- A text that is empty or starts with the end of a value. -/
def Delimited (rest : Utf16) : Prop := ∀ unit ∈ rest.head?, unit = 0x2C ∨ unit = 0x5D ∨ unit = 0x7D

/-! ## Numbers -/

theorem digitValue_digit (d : Fin 10) : digitValue (digit d) = some d := by
  revert d
  decide

variable {rest : Utf16}

theorem scanDigits_append (digits : List (Fin 10)) (stops : ∀ unit ∈ rest.head?, digitValue unit = none) :
    Json.scanDigits (digits.map digit ++ rest) = (digits, rest) := by
  induction digits with
  | nil =>
    cases rest with
    | nil => rfl
    | cons unit rest => simp [Json.scanDigits, stops unit rfl]
  | cons d digits ih =>
    simp only [List.map_cons, List.cons_append, Json.scanDigits, digitValue_digit, ih]

variable {unit : UInt16}

theorem Delimited.head?_ne (delimited : Delimited rest)
    (other : unit ≠ 0x2C ∧ unit ≠ 0x5D ∧ unit ≠ 0x7D) : ∀ head ∈ rest.head?, head ≠ unit := by
  rintro head first rfl
  have := delimited head first
  tauto

theorem Delimited.digitValue_eq_none (delimited : Delimited rest) : ∀ unit ∈ rest.head?, digitValue unit = none := by
  intro unit first
  rcases delimited unit first with rfl | rfl | rfl <;> rfl

theorem scanExponent_append (exponent : Option (Bool × List (Fin 10)))
    (digits : ∀ e ∈ exponent, e.2 ≠ []) (delimited : Delimited rest) :
    Json.scanExponent (NumberLiteral.exponentText exponent ++ rest) = some (exponent, rest) := by
  cases exponent with
  | none =>
    cases rest with
    | nil => rfl
    | cons unit rest =>
      have lower := delimited.head?_ne (by decide : (0x65 : UInt16) ≠ 0x2C ∧ _ ∧ _) unit rfl
      have upper := delimited.head?_ne (by decide : (0x45 : UInt16) ≠ 0x2C ∧ _ ∧ _) unit rfl
      simp [NumberLiteral.exponentText, Json.scanExponent, lower, upper]
  | some e =>
    obtain ⟨negative, ds⟩ := e
    have nonempty : ds.isEmpty = false := List.isEmpty_eq_false_iff.mpr (digits _ rfl)
    have scanned := scanDigits_append ds delimited.digitValue_eq_none
    cases negative with
    | false => simp [NumberLiteral.exponentText, Json.scanExponent, scanned, nonempty]
    | true => simp [NumberLiteral.exponentText, Json.scanExponent, scanned, nonempty]

theorem scanFraction_append (fraction : List (Fin 10))
    (stops : ∀ unit ∈ rest.head?, digitValue unit = none ∧ unit ≠ 0x2E) :
    Json.scanFraction (NumberLiteral.fractionText fraction ++ rest) = some (fraction, rest) := by
  cases fraction with
  | nil =>
    cases rest with
    | nil => rfl
    | cons unit rest => simp [NumberLiteral.fractionText, Json.scanFraction, (stops unit rfl).2]
  | cons d ds =>
    have scanned := scanDigits_append (d :: ds) fun unit first => (stops unit first).1
    rw [NumberLiteral.fractionText, List.cons_append, Json.scanFraction, if_pos rfl, scanned]
    · rfl
    · exact List.cons_ne_nil _ _

theorem exponentText_stops (exponent : Option (Bool × List (Fin 10))) (delimited : Delimited rest) :
    ∀ unit ∈ (NumberLiteral.exponentText exponent ++ rest).head?, digitValue unit = none ∧ unit ≠ 0x2E := by
  cases exponent with
  | none =>
    exact fun unit first => ⟨delimited.digitValue_eq_none unit first,
      delimited.head?_ne (by decide) unit first⟩
  | some e =>
    rintro unit ⟨⟩
    decide

theorem fractionText_stops (fraction : List (Fin 10))
    (stops : ∀ unit ∈ rest.head?, digitValue unit = none ∧ unit ≠ 0x2E) :
    ∀ unit ∈ (NumberLiteral.fractionText fraction ++ rest).head?, digitValue unit = none := by
  cases fraction with
  | nil => exact fun unit first => (stops unit first).1
  | cons d ds =>
    rintro unit ⟨⟩
    decide

theorem head?_integer_ne_minus (literal : NumberLiteral) (rest : Utf16) :
    (literal.integer.map digit ++ rest).head? ≠ some 0x2D := by
  obtain ⟨nonempty, -⟩ := literal.integer_digits
  obtain ⟨d, ds, split⟩ := List.exists_cons_of_ne_nil nonempty
  have other : ∀ d : Fin 10, digit d ≠ 0x2D := by decide
  rw [split, List.map_cons, List.cons_append, List.head?_cons, Ne, Option.some.injEq]
  exact other d

theorem scanNumber_text (literal : NumberLiteral) (delimited : Delimited rest) :
    Json.scanNumber (literal.text ++ rest) = some (literal, rest) := by
  have stops := exponentText_stops literal.exponent delimited
  have integer := scanDigits_append literal.integer (fractionText_stops literal.fraction stops)
  have fraction := scanFraction_append literal.fraction stops
  have exponent := scanExponent_append literal.exponent literal.exponent_digits delimited
  have sign : (if (literal.text ++ rest).head? = some 0x2D then (true, (literal.text ++ rest).tail)
      else (false, literal.text ++ rest)) = (literal.negative, literal.integer.map digit ++
        (NumberLiteral.fractionText literal.fraction ++ (NumberLiteral.exponentText literal.exponent ++ rest))) := by
    have unsigned := head?_integer_ne_minus literal
    cases negative : literal.negative with
    | false =>
      simp only [NumberLiteral.text, negative, Bool.false_eq_true, if_false, List.nil_append, List.append_assoc,
        if_neg (unsigned _)]
    | true => simp [NumberLiteral.text, negative]
  unfold Json.scanNumber
  simp only [sign, integer, fraction, exponent, Option.bind_eq_bind, Option.bind_some]
  rw [dif_pos ⟨literal.integer_digits, literal.exponent_digits⟩]
  rfl

/-! ## Integers -/

theorem ofDigits_decimalDigits (n : Nat) :
    Nat.ofDigits 10 ((decimalDigits n).reverse.map Fin.val) = n := by
  unfold decimalDigits
  split
  · rename_i zero
    rw [zero]
    rfl
  · have digits : ((Nat.digits 10 n).reverse.map (Fin.ofNat 10)).reverse.map Fin.val = Nat.digits 10 n := by
      rw [List.map_reverse, List.map_reverse, List.map_reverse, List.reverse_reverse, List.map_map]
      refine List.map_congr_left (fun d member => ?_) |>.trans (List.map_id _)
      exact Nat.mod_eq_of_lt (Nat.digits_lt_base (by omega) member)
    rw [digits, Nat.ofDigits_digits]

theorem intValue_ofInt (n : Int) : (NumberLiteral.ofInt n).intValue = n := by
  simp only [NumberLiteral.intValue, NumberLiteral.ofInt, ofDigits_decimalDigits, decide_eq_true_eq]
  split <;> omega

variable {Double : Type} (format : DoubleFormat Double)

theorem ofLiteral_ofInt (n : Int64) : Json.ofLiteral format (NumberLiteral.ofInt n.toInt) = .int n := by
  have inside : -2 ^ 63 ≤ n.toInt ∧ n.toInt < 2 ^ 63 := ⟨n.le_toInt, n.toInt_lt⟩
  rw [Json.ofLiteral, intValue_ofInt, if_pos ⟨rfl, inside⟩, Int64.ofInt_toInt]

theorem ofLiteral_of_toLiteral {d : Double} {literal : NumberLiteral} (written : format.toLiteral d = some literal) :
    Json.ofLiteral format literal = .double d := by
  rw [Json.ofLiteral, format.isDouble_of_toLiteral d literal written, format.parse_of_toLiteral d literal written]
  rfl

/-! ## Strings -/

theorem hexValue_hexDigit {d : Nat} (bound : d < 16) : Json.hexValue (hexDigit d) = some d := by
  revert d
  decide

theorem decodeString_hexEscape (unit : UInt16) (text : Utf16) :
    Json.decodeString (hexEscape unit ++ text) =
      (Json.decodeString text).map fun (value, text) => (unit :: value, text) := by
  have bound := unit.toNat_lt
  have digits : unit.toNat / 0x1000 * 0x1000 + unit.toNat / 0x100 % 0x10 * 0x100 + unit.toNat / 0x10 % 0x10 * 0x10
      + unit.toNat % 0x10 = unit.toNat := by omega
  simp only [hexEscape, List.cons_append, List.nil_append]
  rw [Json.decodeString, if_neg (by decide), if_neg (by decide), if_pos rfl]
  simp only [if_true, hexValue_hexDigit (by omega : unit.toNat / 0x1000 < 16),
    hexValue_hexDigit (by omega : unit.toNat / 0x100 % 0x10 < 16),
    hexValue_hexDigit (by omega : unit.toNat / 0x10 % 0x10 < 16),
    hexValue_hexDigit (by omega : unit.toNat % 0x10 < 16), Option.bind_eq_bind, Option.bind_some, digits,
    UInt16.ofNat_toNat]
  cases Json.decodeString text <;> rfl

theorem decodeString_unescape {escaped : UInt16} (known : Json.unescape escaped = some unit)
    (simple : escaped ≠ 0x75) (text : Utf16) : Json.decodeString (0x5C :: escaped :: text) =
      (Json.decodeString text).map fun (value, text) => (unit :: value, text) := by
  rw [Json.decodeString.eq_def]
  simp only
  rw [if_neg (by decide), if_neg (by decide), if_pos trivial]
  simp only [if_neg simple, known, Option.bind_eq_bind, Option.bind_some]
  cases Json.decodeString text <;> rfl

theorem decodeString_cons (plain : unit ≠ 0x22 ∧ ¬ unit < 0x20 ∧ unit ≠ 0x5C) (text : Utf16) :
    Json.decodeString (unit :: text) =
      (Json.decodeString text).map fun (value, text) => (unit :: value, text) := by
  rw [Json.decodeString.eq_def]
  simp only
  rw [if_neg plain.1, if_neg plain.2.1, if_neg plain.2.2]
  cases Json.decodeString text <;> rfl

theorem decodeString_escapeUnit (unit : UInt16) (text : Utf16) :
    Json.decodeString (escapeUnit unit ++ text) =
      (Json.decodeString text).map fun (value, text) => (unit :: value, text) := by
  fun_cases escapeUnit unit with
  | case8 => exact decodeString_hexEscape unit text
  | case9 _ _ _ _ _ quote backslash other =>
    simp only [Bool.or_eq_true, decide_eq_true_eq, not_or] at other
    exact decodeString_cons ⟨quote, other.1, backslash⟩ text
  | _ => subst_vars; exact decodeString_unescape rfl (by decide) text

theorem plain_of_isSurrogate (surrogate : isSurrogate unit = true) : unit ≠ 0x22 ∧ ¬ unit < 0x20 ∧ unit ≠ 0x5C := by
  rw [isSurrogate_iff] at surrogate
  rw [Ne, Ne, ← UInt16.toNat_inj, ← UInt16.toNat_inj, UInt16.lt_iff_toNat_lt]
  simp only [UInt16.reduceToNat]
  omega

theorem isSurrogate_of_pair {lead trail : UInt16}
    (pair : (isLeadSurrogate lead && isTrailSurrogate trail) = true) :
    isSurrogate lead = true ∧ isSurrogate trail = true := by
  rw [Bool.and_eq_true, isLeadSurrogate_iff, isTrailSurrogate_iff] at pair
  rw [isSurrogate_iff, isSurrogate_iff]
  omega

theorem decodeString_stringContent (value rest : Utf16) :
    Json.decodeString (stringContent value ++ 0x22 :: rest) = some (value, rest) := by
  fun_induction stringContent value with
  | case1 => exact decodeString_quote rest
  | case2 unit =>
    rw [decodeString_escapeUnit, decodeString_quote]
    rfl
  | case3 unit next value pair ih =>
    obtain ⟨lead, trail⟩ := isSurrogate_of_pair pair
    rw [List.cons_append, List.cons_append, decodeString_cons (plain_of_isSurrogate lead),
      decodeString_cons (plain_of_isSurrogate trail), ih]
    rfl
  | case4 unit next value pair ih =>
    rw [List.append_assoc, decodeString_escapeUnit, ih]
    rfl

/-! ## Values -/

theorem skipWhitespace_cons (visible : Json.isJsonWhitespace unit = false) (text : Utf16) :
    Json.skipWhitespace (unit :: text) = unit :: text := by
  rw [Json.skipWhitespace, List.dropWhile_cons_of_neg (by simp [visible])]

theorem exists_text_eq_cons (literal : NumberLiteral) :
    ∃ unit tail, literal.text = unit :: tail ∧ (unit = 0x2D ∨ ∃ d, unit = digit d) := by
  obtain ⟨d, ds, split⟩ := List.exists_cons_of_ne_nil literal.integer_digits.1
  cases negative : literal.negative with
  | true =>
    rw [NumberLiteral.text, negative, if_pos rfl]
    exact ⟨0x2D, _, rfl, Or.inl rfl⟩
  | false =>
    rw [NumberLiteral.text, negative, if_neg Bool.false_ne_true, split]
    exact ⟨digit d, _, rfl, Or.inr ⟨d, rfl⟩⟩

theorem digit_other : ∀ d : Fin 10, Json.isJsonWhitespace (digit d) = false ∧ digit d ≠ 0x7B ∧ digit d ≠ 0x5B ∧
    digit d ≠ 0x22 ∧ digit d ≠ 0x6E ∧ digit d ≠ 0x74 ∧ digit d ≠ 0x66 ∧ digit d ≠ 0x5D ∧ digit d ≠ 0x7D := by
  decide

theorem decodeValue_text (literal : NumberLiteral) (delimited : Delimited rest) (depth : Nat) :
    Json.decodeValue format (depth + 1) (literal.text ++ rest) = some (Json.ofLiteral format literal, rest) := by
  have scanned := scanNumber_text literal delimited
  obtain ⟨unit, tail, starts, first⟩ := exists_text_eq_cons literal
  have other : Json.isJsonWhitespace unit = false ∧ unit ≠ 0x7B ∧ unit ≠ 0x5B ∧ unit ≠ 0x22 ∧ unit ≠ 0x6E ∧
      unit ≠ 0x74 ∧ unit ≠ 0x66 ∧ unit ≠ 0x5D ∧ unit ≠ 0x7D := by
    rcases first with rfl | ⟨d, rfl⟩
    · decide
    · exact digit_other d
  obtain ⟨visible, brace, bracket, quote, n, t, f, -⟩ := other
  rw [starts, List.cons_append] at scanned ⊢
  have not_word : ∀ (c : Char) (word : List Char), UInt16.ofNat c.toNat ≠ unit →
      ¬ units (c :: word) <+: unit :: (tail ++ rest) := by
    rintro c word differs ⟨_, equal⟩
    exact differs (List.cons.inj equal).1
  rw [Json.decodeValue, skipWhitespace_cons visible]
  simp only [if_neg brace, if_neg bracket, if_neg quote, if_neg (not_word 'n' _ n.symm),
    if_neg (not_word 't' _ t.symm), if_neg (not_word 'f' _ f.symm), scanned, Option.map_some]

variable {value : Json Double} {text : Utf16}

theorem exists_encode_eq_cons (encoded : value.encode format = some text) :
    ∃ unit tail, text = unit :: tail ∧ Json.isJsonWhitespace unit = false ∧ unit ≠ 0x5D ∧ unit ≠ 0x7D := by
  have number : ∀ literal : NumberLiteral, literal.text = text →
      ∃ unit tail, text = unit :: tail ∧ Json.isJsonWhitespace unit = false ∧ unit ≠ 0x5D ∧ unit ≠ 0x7D := by
    rintro literal rfl
    obtain ⟨unit, tail, starts, rfl | ⟨d, rfl⟩⟩ := exists_text_eq_cons literal
    · exact ⟨_, tail, starts, by decide⟩
    · obtain ⟨visible, -, -, -, -, -, -, others⟩ := digit_other d
      exact ⟨_, tail, starts, visible, others⟩
  cases value with
  | null => cases encoded; exact ⟨_, _, rfl, by decide⟩
  | bool value => cases value <;> cases encoded <;> exact ⟨_, _, rfl, by decide⟩
  | int value =>
    rw [Json.encode, Option.some.injEq] at encoded
    exact number _ encoded
  | double value =>
    rw [Json.encode, Option.map_eq_some_iff] at encoded
    obtain ⟨literal, -, text⟩ := encoded
    exact number literal text
  | string value => cases encoded; exact ⟨_, _, rfl, by decide⟩
  | list elements =>
    obtain ⟨inner, -, written⟩ := Option.bind_eq_some_iff.mp encoded
    cases written
    exact ⟨_, _, rfl, by decide⟩
  | object entries =>
    obtain ⟨inner, -, written⟩ := Option.bind_eq_some_iff.mp encoded
    cases written
    exact ⟨_, _, rfl, by decide⟩

theorem insert_of_not_mem {key : Utf16} {entries : List (Utf16 × Json Double)}
    (fresh : key ∉ entries.map Prod.fst) : Json.insert key value entries = entries ++ [(key, value)] := by
  induction entries with
  | nil => rfl
  | cons entry rest ih =>
    rw [List.map_cons, List.mem_cons, not_or] at fresh
    rw [Json.insert, if_neg (Ne.symm fresh.1), ih fresh.2]
    rfl

theorem delimited_of_head (ends : unit = 0x2C ∨ unit = 0x5D ∨ unit = 0x7D) (rest : Utf16) :
    Delimited (unit :: rest) := by
  rintro head ⟨⟩
  exact ends

theorem decodeString_stringText (value rest : Utf16) :
    Json.decodeString (stringContent value ++ [0x22] ++ rest) = some (value, rest) := by
  rw [List.append_assoc]
  exact decodeString_stringContent value rest

theorem decodeElements_succ {depth : Nat} (ends : UInt16)
    (decoded : Json.decodeValue format depth (text ++ ends :: rest) = some (value, ends :: rest))
    (visible : Json.isJsonWhitespace ends = false) (elements : List (Json Double)) :
    Json.decodeElements format (depth + 1) elements (text ++ ends :: rest) =
      if ends = 0x2C then Json.decodeElements format depth (elements ++ [value]) rest
      else if ends = 0x5D then some (.list (elements ++ [value]), rest)
      else none := by
  rw [Json.decodeElements, decoded]
  simp only [Option.bind_eq_bind, Option.bind_some, skipWhitespace_cons visible]

theorem decodeEntries_succ {key : Utf16} {depth : Nat} (ends : UInt16)
    (decoded : Json.decodeValue format depth (text ++ ends :: rest) = some (value, ends :: rest))
    (visible : Json.isJsonWhitespace ends = false) (entries : List (Utf16 × Json Double)) :
    Json.decodeEntries format (depth + 1) entries (stringText key ++ 0x3A :: (text ++ ends :: rest)) =
      if ends = 0x2C then Json.decodeEntries format depth (Json.insert key value entries) rest
      else if ends = 0x7D then some (.object (Json.insert key value entries), rest)
      else none := by
  rw [Json.decodeEntries, stringText, List.cons_append, skipWhitespace_cons (by decide)]
  simp only [if_true, decodeString_stringText, Option.bind_eq_bind, Option.bind_some,
    skipWhitespace_cons (by decide : Json.isJsonWhitespace 0x3A = false), decoded, skipWhitespace_cons visible]

mutual

theorem decodeValue_encode : ∀ (value : Json Double) {text rest : Utf16} {depth : Nat},
    value.encode format = some text → value.all Json.hasDistinctKeys = true → Delimited rest →
    text.length ≤ depth → Json.decodeValue format depth (text ++ rest) = some (value, rest)
  | .null, _, rest, depth, encoded, _, _, deep => by
    cases encoded
    obtain ⟨depth, rfl⟩ := Nat.exists_eq_succ_of_ne_zero (Nat.ne_zero_of_lt deep)
    rfl
  | .bool value, _, rest, depth, encoded, _, _, deep => by
    cases value with
    | false =>
      cases encoded
      obtain ⟨depth, rfl⟩ := Nat.exists_eq_succ_of_ne_zero (Nat.ne_zero_of_lt deep)
      rfl
    | true =>
      cases encoded
      obtain ⟨depth, rfl⟩ := Nat.exists_eq_succ_of_ne_zero (Nat.ne_zero_of_lt deep)
      rfl
  | .int value, text, rest, depth, encoded, _, delimited, deep => by
    obtain ⟨_, _, rfl, -⟩ := exists_encode_eq_cons format encoded
    obtain ⟨depth, rfl⟩ := Nat.exists_eq_succ_of_ne_zero (Nat.ne_zero_of_lt deep)
    rw [Json.encode, Option.some.injEq] at encoded
    rw [← encoded, decodeValue_text format _ delimited, ofLiteral_ofInt]
  | .double value, text, rest, depth, encoded, _, delimited, deep => by
    obtain ⟨_, _, rfl, -⟩ := exists_encode_eq_cons format encoded
    obtain ⟨depth, rfl⟩ := Nat.exists_eq_succ_of_ne_zero (Nat.ne_zero_of_lt deep)
    rw [Json.encode, Option.map_eq_some_iff] at encoded
    obtain ⟨literal, written, text⟩ := encoded
    rw [← text, decodeValue_text format _ delimited, ofLiteral_of_toLiteral format written]
  | .string value, _, rest, depth, encoded, _, _, deep => by
    cases encoded
    obtain ⟨depth, rfl⟩ := Nat.exists_eq_succ_of_ne_zero (Nat.ne_zero_of_lt deep)
    rw [Json.decodeValue, stringText, List.cons_append, skipWhitespace_cons (by decide)]
    simp only [if_neg (by decide : (0x22 : UInt16) ≠ 0x7B), if_neg (by decide : (0x22 : UInt16) ≠ 0x5B), if_true,
      decodeString_stringText, Option.map_some]
  | .list elements, _, rest, depth, encoded, distinct, _, deep => by
    obtain ⟨inner, written, closed⟩ := Option.bind_eq_some_iff.mp encoded
    cases closed
    obtain ⟨depth, rfl⟩ := Nat.exists_eq_succ_of_ne_zero (Nat.ne_zero_of_lt deep)
    rw [Json.all, Bool.and_eq_true] at distinct
    simp only [List.length_cons, List.length_append, List.length_nil] at deep
    rw [Json.decodeValue, List.cons_append, skipWhitespace_cons (by decide), List.append_assoc]
    simp only [if_neg (by decide : (0x5B : UInt16) ≠ 0x7B), if_true, List.singleton_append]
    cases elements with
    | nil =>
      cases written
      rfl
    | cons element elements =>
      have open_ : (Json.skipWhitespace (inner ++ 0x5D :: rest)).head? ≠ some 0x5D := by
        obtain ⟨text, first, following⟩ := Option.bind_eq_some_iff.mp written
        obtain ⟨unit, tail, rfl, visible, other, -⟩ := exists_encode_eq_cons format first
        obtain ⟨_, -, written⟩ := Option.bind_eq_some_iff.mp following
        cases written
        rw [List.cons_append, List.cons_append, skipWhitespace_cons visible, List.head?_cons]
        simpa using other
      rw [if_neg open_]
      exact decodeElements_encode (element :: elements) [] rest (List.cons_ne_nil _ _) written distinct.2 (by omega)
  | .object entries, _, rest, depth, encoded, distinct, _, deep => by
    obtain ⟨inner, written, closed⟩ := Option.bind_eq_some_iff.mp encoded
    cases closed
    obtain ⟨depth, rfl⟩ := Nat.exists_eq_succ_of_ne_zero (Nat.ne_zero_of_lt deep)
    rw [Json.all, Bool.and_eq_true] at distinct
    simp only [List.length_cons, List.length_append, List.length_nil] at deep
    rw [Json.decodeValue, List.cons_append, skipWhitespace_cons (by decide), List.append_assoc]
    simp only [if_true, List.singleton_append]
    cases entries with
    | nil =>
      cases written
      rfl
    | cons entry entries =>
      have open_ : (Json.skipWhitespace (inner ++ 0x7D :: rest)).head? ≠ some 0x7D := by
        obtain ⟨key, value⟩ := entry
        obtain ⟨text, -, following⟩ := Option.bind_eq_some_iff.mp written
        obtain ⟨_, -, written⟩ := Option.bind_eq_some_iff.mp following
        cases written
        rw [stringText, List.cons_append, List.cons_append, skipWhitespace_cons (by decide), List.head?_cons]
        decide
      rw [if_neg open_]
      exact decodeEntries_encode (entry :: entries) [] rest (List.cons_ne_nil _ _) written distinct.2
        (of_decide_eq_true distinct.1) (by omega)

theorem decodeElements_encode : ∀ (elements done : List (Json Double)) (rest : Utf16) {text : Utf16} {depth : Nat},
    elements ≠ [] → Json.encodeElements format elements = some text →
    Json.allElements Json.hasDistinctKeys elements = true → text.length + 1 ≤ depth →
    Json.decodeElements format depth done (text ++ 0x5D :: rest) = some (.list (done ++ elements), rest)
  | [], _, _, _, _, nonempty, _, _, _ => absurd rfl nonempty
  | element :: elements, done, rest, _, depth, _, encoded, distinct, deep => by
    obtain ⟨text, first, following⟩ := Option.bind_eq_some_iff.mp encoded
    obtain ⟨more, others, written⟩ := Option.bind_eq_some_iff.mp following
    cases written
    rw [Json.allElements, Bool.and_eq_true] at distinct
    obtain ⟨depth, rfl⟩ := Nat.exists_eq_succ_of_ne_zero (Nat.ne_zero_of_lt deep)
    rw [List.length_append] at deep
    have short : text.length ≤ depth := by omega
    by_cases last : elements = []
    · have decoded := decodeValue_encode element first distinct.1
        (delimited_of_head (Or.inr (Or.inl rfl)) rest) short
      rw [last, List.isEmpty_nil, if_pos rfl, List.append_nil]
      exact decodeElements_succ format 0x5D decoded (by decide) done
    · have decoded := decodeValue_encode element first distinct.1
        (delimited_of_head (Or.inl rfl) (more ++ 0x5D :: rest)) short
      rw [if_neg (by simpa using last), List.length_cons] at deep
      have tail := decodeElements_encode elements (done ++ [element]) rest last others distinct.2
        (by omega : more.length + 1 ≤ depth)
      rw [if_neg (by simpa using last), List.append_assoc, List.cons_append,
        decodeElements_succ format 0x2C decoded (by decide), if_pos rfl, tail, List.append_assoc]
      rfl

theorem decodeEntries_encode : ∀ (entries done : List (Utf16 × Json Double)) (rest : Utf16) {text : Utf16} {depth : Nat},
    entries ≠ [] → Json.encodeEntries format entries = some text →
    Json.allEntries Json.hasDistinctKeys entries = true → ((done ++ entries).map Prod.fst).Nodup →
    text.length + 1 ≤ depth →
    Json.decodeEntries format depth done (text ++ 0x7D :: rest) = some (.object (done ++ entries), rest)
  | [], _, _, _, _, nonempty, _, _, _, _ => absurd rfl nonempty
  | (key, value) :: entries, done, rest, _, depth, _, encoded, distinct, keys, deep => by
    obtain ⟨text, first, following⟩ := Option.bind_eq_some_iff.mp encoded
    obtain ⟨more, others, written⟩ := Option.bind_eq_some_iff.mp following
    cases written
    rw [Json.allEntries, Bool.and_eq_true] at distinct
    obtain ⟨depth, rfl⟩ := Nat.exists_eq_succ_of_ne_zero (Nat.ne_zero_of_lt deep)
    rw [List.length_append, List.length_cons, List.length_append] at deep
    have short : text.length ≤ depth := by omega
    have fresh : key ∉ done.map Prod.fst := by
      rw [List.map_append, List.map_cons] at keys
      exact fun member => (List.nodup_append.mp keys).2.2 _ member _ (List.mem_cons_self ..) rfl
    by_cases last : entries = []
    · have decoded := decodeValue_encode value first distinct.1
        (delimited_of_head (Or.inr (Or.inr rfl)) rest) short
      rw [last, List.isEmpty_nil, if_pos rfl, List.append_nil, List.append_assoc, List.cons_append,
        decodeEntries_succ format 0x7D decoded (by decide), insert_of_not_mem fresh]
      rfl
    · have decoded := decodeValue_encode value first distinct.1
        (delimited_of_head (Or.inl rfl) (more ++ 0x7D :: rest)) short
      have assoc : done ++ (key, value) :: entries = done ++ [(key, value)] ++ entries := by
        rw [List.append_assoc]
        rfl
      rw [if_neg (by simpa using last), List.length_cons] at deep
      rw [assoc] at keys
      have tail := decodeEntries_encode entries (done ++ [(key, value)]) rest last others distinct.2 keys
        (by omega : more.length + 1 ≤ depth)
      rw [if_neg (by simpa using last), List.append_assoc, List.cons_append, List.append_assoc, List.cons_append,
        decodeEntries_succ format 0x2C decoded (by decide), if_pos rfl, insert_of_not_mem fresh, tail, assoc]

end

theorem decode_encode (encoded : value.encode format = some text)
    (distinct : value.all Json.hasDistinctKeys = true) : Json.decode format text = some value := by
  have ends : Delimited [] := by simp [Delimited]
  have decoded := decodeValue_encode format value encoded distinct ends (Nat.le_succ text.length)
  rw [List.append_nil] at decoded
  rw [Json.decode, decoded]
  rfl

/-! ## What the text is made of -/

mutual

theorem exists_encode_of_isFinite : ∀ {value : Json Double}, value.all (Json.isFinite format) = true →
    ∃ text, value.encode format = some text
  | .null, _ => ⟨_, rfl⟩
  | .bool _, _ => ⟨_, rfl⟩
  | .int _, _ => ⟨_, rfl⟩
  | .double value, finite => by
    obtain ⟨literal, written⟩ := Option.isSome_iff_exists.mp finite
    rw [Json.encode, written]
    exact ⟨_, rfl⟩
  | .string _, _ => ⟨_, rfl⟩
  | .list elements, finite => by
    rw [Json.all, Bool.and_eq_true] at finite
    obtain ⟨text, encoded⟩ := exists_encodeElements_of_isFinite finite.2
    rw [Json.encode, encoded]
    exact ⟨_, rfl⟩
  | .object entries, finite => by
    rw [Json.all, Bool.and_eq_true] at finite
    obtain ⟨text, encoded⟩ := exists_encodeEntries_of_isFinite finite.2
    rw [Json.encode, encoded]
    exact ⟨_, rfl⟩

theorem exists_encodeElements_of_isFinite : ∀ {elements : List (Json Double)},
    Json.allElements (Json.isFinite format) elements = true → ∃ text, Json.encodeElements format elements = some text
  | [], _ => ⟨_, rfl⟩
  | element :: elements, finite => by
    rw [Json.allElements, Bool.and_eq_true] at finite
    obtain ⟨text, first⟩ := exists_encode_of_isFinite finite.1
    obtain ⟨more, others⟩ := exists_encodeElements_of_isFinite finite.2
    rw [Json.encodeElements, first, others]
    exact ⟨_, rfl⟩

theorem exists_encodeEntries_of_isFinite : ∀ {entries : List (Utf16 × Json Double)},
    Json.allEntries (Json.isFinite format) entries = true → ∃ text, Json.encodeEntries format entries = some text
  | [], _ => ⟨_, rfl⟩
  | (key, value) :: entries, finite => by
    rw [Json.allEntries, Bool.and_eq_true] at finite
    obtain ⟨text, first⟩ := exists_encode_of_isFinite finite.1
    obtain ⟨more, others⟩ := exists_encodeEntries_of_isFinite finite.2
    rw [Json.encodeEntries, first, others]
    exact ⟨_, rfl⟩

end

structure OneLine (text : Utf16) : Prop where
  paired : Paired text
  no_newline : 0x0A ∉ text

theorem OneLine.append (first : OneLine text) (second : OneLine rest) : OneLine (text ++ rest) :=
  ⟨first.paired.append second.paired, by simp [first.no_newline, second.no_newline]⟩

theorem OneLine.nil : OneLine [] := ⟨.nil, List.not_mem_nil⟩

theorem OneLine.cons (plain : isSurrogate unit = false ∧ unit ≠ 0x0A)
    (tail : OneLine rest) : OneLine (unit :: rest) :=
  ⟨.unit plain.1 tail.paired, List.not_mem_cons_of_ne_of_not_mem plain.2.symm tail.no_newline⟩

/-- A text without lone surrogates and without control characters. -/
structure Printable (text : Utf16) : Prop where
  paired : Paired text
  visible : ∀ unit ∈ text, 0x20 ≤ unit

theorem Printable.append (first : Printable text) (second : Printable rest) : Printable (text ++ rest) :=
  ⟨first.paired.append second.paired, List.forall_mem_append.mpr ⟨first.visible, second.visible⟩⟩

theorem Printable.nil : Printable [] := ⟨.nil, by simp⟩

theorem Printable.cons (plain : isSurrogate unit = false ∧ 0x20 ≤ unit)
    (tail : Printable rest) : Printable (unit :: rest) :=
  ⟨.unit plain.1 tail.paired, List.forall_mem_cons.mpr ⟨plain.2, tail.visible⟩⟩

theorem Printable.oneLine (printable : Printable text) : OneLine text :=
  ⟨printable.paired, fun newline => absurd (printable.visible 0x0A newline) (by decide)⟩

theorem printable_digits (digits : List (Fin 10)) : Printable (digits.map digit) := by
  have plain : ∀ d : Fin 10, isSurrogate (digit d) = false ∧ 0x20 ≤ digit d := by decide
  induction digits with
  | nil => exact .nil
  | cons d digits ih => exact .cons (plain d) ih

theorem printable_text (literal : NumberLiteral) : Printable literal.text := by
  have sign : Printable (if literal.negative then [0x2D] else []) := by
    split
    · exact .cons (by decide) .nil
    · exact .nil
  have fraction : Printable (NumberLiteral.fractionText literal.fraction) := by
    unfold NumberLiteral.fractionText
    split
    · exact .nil
    · exact .cons (by decide) (printable_digits _)
  have exponent : Printable (NumberLiteral.exponentText literal.exponent) := by
    unfold NumberLiteral.exponentText
    split
    · exact .nil
    · refine .cons (by decide) (.cons ?_ (printable_digits _))
      split <;> decide
  exact ((sign.append (printable_digits _)).append fraction).append exponent

theorem printable_hexEscape (unit : UInt16) : Printable (hexEscape unit) := by
  have bound := unit.toNat_lt
  have plain : ∀ d < 16, isSurrogate (hexDigit d) = false ∧ 0x20 ≤ hexDigit d := by decide
  refine .cons (by decide) (.cons (by decide) (.cons (plain _ ?_) (.cons (plain _ ?_) (.cons (plain _ ?_)
    (.cons (plain _ ?_) .nil)))))
  all_goals omega

theorem printable_escapeUnit (unit : UInt16) : Printable (escapeUnit unit) := by
  fun_cases escapeUnit unit with
  | case8 => exact printable_hexEscape unit
  | case9 _ _ _ _ _ _ _ other =>
    simp only [Bool.or_eq_true, decide_eq_true_eq, not_or, Bool.not_eq_true, UInt16.not_lt] at other
    exact .cons ⟨other.2, other.1⟩ .nil
  | _ => exact .cons (by decide) (.cons (by decide) .nil)

theorem printable_stringContent (value : Utf16) : Printable (stringContent value) := by
  fun_induction stringContent value with
  | case1 => exact .nil
  | case2 unit => exact printable_escapeUnit unit
  | case3 unit next value pair ih =>
    obtain ⟨lead, trail⟩ := isSurrogate_of_pair pair
    rw [Bool.and_eq_true] at pair
    refine ⟨.pair pair.1 pair.2 ih.paired, ?_⟩
    have visible : ∀ {surrogate : UInt16}, isSurrogate surrogate = true → 0x20 ≤ surrogate := by
      intro surrogate holds
      rw [isSurrogate_iff] at holds
      exact UInt16.le_iff_toNat_le.mpr (le_trans (by decide) holds.1)
    exact List.forall_mem_cons.mpr ⟨visible lead, List.forall_mem_cons.mpr ⟨visible trail, ih.visible⟩⟩
  | case4 unit next value pair ih => exact (printable_escapeUnit unit).append ih

theorem printable_stringText (value : Utf16) : Printable (stringText value) :=
  .cons (by decide) ((printable_stringContent value).append (.cons (by decide) .nil))

theorem printable_separated {more : Utf16} (others : Printable more) (last : Bool) :
    Printable (if last then [] else 0x2C :: more) := by
  split
  · exact .nil
  · exact .cons (by decide) others

mutual

theorem printable_encode : ∀ {value : Json Double} {text : Utf16}, value.encode format = some text → Printable text
  | .null, _, encoded => by
    cases encoded
    exact .cons (by decide) (.cons (by decide) (.cons (by decide) (.cons (by decide) .nil)))
  | .bool value, _, encoded => by
    cases value <;> cases encoded
    · exact .cons (by decide) (.cons (by decide) (.cons (by decide) (.cons (by decide) (.cons (by decide) .nil))))
    · exact .cons (by decide) (.cons (by decide) (.cons (by decide) (.cons (by decide) .nil)))
  | .int value, _, encoded => by
    rw [Json.encode, Option.some.injEq] at encoded
    exact encoded ▸ printable_text _
  | .double value, _, encoded => by
    rw [Json.encode, Option.map_eq_some_iff] at encoded
    obtain ⟨literal, -, rfl⟩ := encoded
    exact printable_text literal
  | .string value, _, encoded => by
    rw [Json.encode, Option.some.injEq] at encoded
    exact encoded ▸ printable_stringText value
  | .list elements, _, encoded => by
    obtain ⟨inner, written, closed⟩ := Option.bind_eq_some_iff.mp encoded
    cases closed
    exact .cons (by decide) ((printable_encodeElements written).append (.cons (by decide) .nil))
  | .object entries, _, encoded => by
    obtain ⟨inner, written, closed⟩ := Option.bind_eq_some_iff.mp encoded
    cases closed
    exact .cons (by decide) ((printable_encodeEntries written).append (.cons (by decide) .nil))

theorem printable_encodeElements : ∀ {elements : List (Json Double)} {text : Utf16},
    Json.encodeElements format elements = some text → Printable text
  | [], _, encoded => by
    cases encoded
    exact .nil
  | element :: elements, _, encoded => by
    obtain ⟨text, first, following⟩ := Option.bind_eq_some_iff.mp encoded
    obtain ⟨more, others, written⟩ := Option.bind_eq_some_iff.mp following
    cases written
    exact (printable_encode first).append (printable_separated (printable_encodeElements others) _)

theorem printable_encodeEntries : ∀ {entries : List (Utf16 × Json Double)} {text : Utf16},
    Json.encodeEntries format entries = some text → Printable text
  | [], _, encoded => by
    cases encoded
    exact .nil
  | (key, value) :: entries, _, encoded => by
    obtain ⟨text, first, following⟩ := Option.bind_eq_some_iff.mp encoded
    obtain ⟨more, others, written⟩ := Option.bind_eq_some_iff.mp following
    cases written
    exact (printable_stringText key).append (.cons (by decide)
      ((printable_encode first).append (printable_separated (printable_encodeEntries others) _)))

end

theorem oneLine_encode (encoded : value.encode format = some text) :
    OneLine text := (printable_encode format encoded).oneLine

/-! ## Units that are written as they are -/

/-- Neither ASCII nor a surrogate: in the text of a value there is such a unit only for one in a string. -/
def Unescaped (unit : UInt16) : Prop := 0x80 ≤ unit ∧ isSurrogate unit = false

theorem Unescaped.ne (plain : Unescaped unit) {c : UInt16} (ascii : c < 0x80) : unit ≠ c := by
  rintro rfl
  exact UInt16.not_lt.mpr plain.1 ascii

theorem Unescaped.not_mem (plain : Unescaped unit) {text : Utf16} (ascii : (text.all fun c => c < 0x80) = true) :
    unit ∉ text :=
  fun member => plain.ne (of_decide_eq_true (List.all_eq_true.mp ascii unit member)) rfl

theorem Unescaped.not_mem_digits (plain : Unescaped unit) (digits : List (Fin 10)) : unit ∉ digits.map digit := by
  have ascii : ∀ d : Fin 10, digit d < 0x80 := by decide
  refine plain.not_mem (List.all_eq_true.mpr fun c member => ?_)
  obtain ⟨d, -, rfl⟩ := List.mem_map.mp member
  exact decide_eq_true (ascii d)

theorem Unescaped.not_mem_text (plain : Unescaped unit) (literal : NumberLiteral) : unit ∉ literal.text := by
  have sign : unit ∉ (if literal.negative then [0x2D] else []) := by
    split
    · exact plain.not_mem rfl
    · exact List.not_mem_nil
  have fraction : unit ∉ NumberLiteral.fractionText literal.fraction := by
    unfold NumberLiteral.fractionText
    split
    · exact List.not_mem_nil
    · exact List.not_mem_cons_of_ne_of_not_mem (plain.ne (by decide)) (plain.not_mem_digits _)
  have exponent : unit ∉ NumberLiteral.exponentText literal.exponent := by
    unfold NumberLiteral.exponentText
    split
    · exact List.not_mem_nil
    · refine List.not_mem_cons_of_ne_of_not_mem (plain.ne (by decide))
        (List.not_mem_cons_of_ne_of_not_mem (plain.ne ?_) (plain.not_mem_digits _))
      split <;> decide
  rw [NumberLiteral.text, List.mem_append, List.mem_append, List.mem_append]
  exact not_or.mpr ⟨not_or.mpr ⟨not_or.mpr ⟨sign, plain.not_mem_digits _⟩, fraction⟩, exponent⟩

theorem Unescaped.not_mem_hexEscape (plain : Unescaped unit) (c : UInt16) : unit ∉ hexEscape c := by
  have bound := c.toNat_lt
  have ascii : ∀ d < 16, hexDigit d < 0x80 := by decide
  refine plain.not_mem ?_
  simp only [hexEscape, List.all_cons, List.all_nil, Bool.and_eq_true, decide_eq_true_eq]
  exact ⟨by decide, by decide, ascii _ (by omega), ascii _ (by omega), ascii _ (by omega), ascii _ (by omega),
    trivial⟩

theorem Unescaped.mem_escapeUnit_iff (plain : Unescaped unit) (c : UInt16) : unit ∈ escapeUnit c ↔ unit = c := by
  fun_cases escapeUnit c with
  | case8 _ _ _ _ _ _ _ escaped =>
    refine iff_of_false (plain.not_mem_hexEscape c) ?_
    rintro rfl
    rw [plain.2, Bool.or_false, decide_eq_true_eq] at escaped
    exact plain.ne (escaped.trans (show 0x20 < 0x80 by decide)) rfl
  | case9 => exact List.mem_singleton
  | _ => subst_vars; exact iff_of_false (plain.not_mem rfl) (plain.ne (by decide))

theorem Unescaped.mem_stringContent_iff (plain : Unescaped unit) (value : Utf16) :
    unit ∈ stringContent value ↔ unit ∈ value := by
  fun_induction stringContent value with
  | case1 => rfl
  | case2 c => rw [plain.mem_escapeUnit_iff, List.mem_singleton]
  | case3 c next value pair ih => rw [List.mem_cons, List.mem_cons, ih, List.mem_cons, List.mem_cons]
  | case4 c next value pair ih => rw [List.mem_append, plain.mem_escapeUnit_iff, ih, ← List.mem_cons]

theorem Unescaped.mem_stringText_iff (plain : Unescaped unit) (value : Utf16) :
    unit ∈ stringText value ↔ unit ∈ value := by
  simp [stringText, plain.ne (show 0x22 < 0x80 by decide), plain.mem_stringContent_iff]

mutual

theorem not_mem_encode_iff (plain : Unescaped unit) : ∀ {value : Json Double} {text : Utf16},
    value.encode format = some text → (unit ∉ text ↔ value.all (Json.lacks unit) = true)
  | .null, _, encoded => by
    cases encoded
    exact iff_of_true (plain.not_mem rfl) rfl
  | .bool value, _, encoded => by
    cases value <;> cases encoded <;> exact iff_of_true (plain.not_mem rfl) rfl
  | .int value, _, encoded => by
    rw [Json.encode, Option.some.injEq] at encoded
    exact iff_of_true (encoded ▸ plain.not_mem_text _) rfl
  | .double value, _, encoded => by
    rw [Json.encode, Option.map_eq_some_iff] at encoded
    obtain ⟨literal, -, rfl⟩ := encoded
    exact iff_of_true (plain.not_mem_text literal) rfl
  | .string value, _, encoded => by
    cases encoded
    simp [plain.mem_stringText_iff, Json.all, Json.lacks]
  | .list elements, _, encoded => by
    obtain ⟨inner, written, closed⟩ := Option.bind_eq_some_iff.mp encoded
    cases closed
    have inside := not_mem_encodeElements_iff plain written
    simpa [Json.all, Json.lacks, plain.ne (show 0x5B < 0x80 by decide), plain.ne (show 0x5D < 0x80 by decide)] using inside
  | .object entries, _, encoded => by
    obtain ⟨inner, written, closed⟩ := Option.bind_eq_some_iff.mp encoded
    cases closed
    have inside := not_mem_encodeEntries_iff plain written
    simpa [Json.all, Json.lacks, plain.ne (show 0x7B < 0x80 by decide), plain.ne (show 0x7D < 0x80 by decide)] using inside

theorem not_mem_encodeElements_iff (plain : Unescaped unit) : ∀ {elements : List (Json Double)} {text : Utf16},
    Json.encodeElements format elements = some text →
    (unit ∉ text ↔ Json.allElements (Json.lacks unit) elements = true)
  | [], _, encoded => by
    cases encoded
    exact iff_of_true List.not_mem_nil rfl
  | element :: elements, _, encoded => by
    obtain ⟨text, first, following⟩ := Option.bind_eq_some_iff.mp encoded
    obtain ⟨more, others, written⟩ := Option.bind_eq_some_iff.mp following
    cases written
    have inside := not_mem_encode_iff plain first
    have behind := not_mem_encodeElements_iff plain others
    cases elements with
    | nil => simpa [Json.allElements] using inside
    | cons next elements =>
      rw [Json.allElements, Bool.and_eq_true, ← inside, ← behind]
      simp [plain.ne (show 0x2C < 0x80 by decide)]

theorem not_mem_encodeEntries_iff (plain : Unescaped unit) : ∀ {entries : List (Utf16 × Json Double)} {text : Utf16},
    Json.encodeEntries format entries = some text →
    (unit ∉ text ↔ (entries.all fun entry => !entry.1.contains unit) = true ∧
      Json.allEntries (Json.lacks unit) entries = true)
  | [], _, encoded => by
    cases encoded
    exact iff_of_true List.not_mem_nil ⟨rfl, rfl⟩
  | (key, value) :: entries, _, encoded => by
    obtain ⟨text, first, following⟩ := Option.bind_eq_some_iff.mp encoded
    obtain ⟨more, others, written⟩ := Option.bind_eq_some_iff.mp following
    cases written
    have inside := not_mem_encode_iff plain first
    have behind := not_mem_encodeEntries_iff plain others
    have colon := plain.ne (show 0x3A < 0x80 by decide)
    rw [Json.allEntries, Bool.and_eq_true, ← inside, List.all_cons, Bool.and_eq_true]
    cases entries with
    | nil => simp [plain.mem_stringText_iff, colon, Json.allEntries]
    | cons next entries =>
      rw [and_and_and_comm, ← behind]
      simp [plain.mem_stringText_iff, colon, plain.ne (show 0x2C < 0x80 by decide), and_assoc]

end

end FlutterZero.Lib
