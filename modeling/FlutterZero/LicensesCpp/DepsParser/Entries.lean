import FlutterZero.LicensesCpp.DepsParser.Comments

/-! # Entries of a deps block

* `Entry`, `IsBlock` — the texts of the entries of a block;
* `keys_block` — the keys that are found in such a text;
* `clean_eq` — a block without comment lines loses the blanks at the starts of its lines;
* `parse_block` — the keys that are found in a file, each of them without such blanks;
* `ignoresComments_iff` — the comment lines and the keys for which the parser is right.
-/

namespace FlutterZero.LicensesCpp.DepsParser

open FlutterZero.Lib

/-! ## The texts -/

def isPlain (c : Char) : Bool := c ∉ ['\'', '"', '{', '}', '[', ']', ',']

inductive IsValue : List Char → Prop
  | string {quote text} (isQuote : quote = '\'' ∨ quote = '"') (plain : ∀ c ∈ text, isPlain c) :
    IsValue (quote :: (text ++ [quote]))
  | dictionary {inner} (braces : Balanced '{' '}' inner) (brackets : Balanced '[' ']' inner) :
    IsValue ('{' :: (inner ++ ['}']))

structure Entry where
  key : List Char
  value : List Char
  plain : ∀ c ∈ key, isPlain c
  isValue : IsValue value

def IsSpaces (text : List Char) : Prop := ∀ c ∈ text, isSpace c

/-- `'key': value` with white space. -/
inductive IsEntry (entry : Entry) : List Char → Prop
  | mk {before first second after} (spaces : IsSpaces before ∧ IsSpaces first ∧ IsSpaces second ∧ IsSpaces after) :
    IsEntry entry (before ++ '\'' :: (entry.key ++ '\'' :: (first ++ ':' :: (second ++ (entry.value ++ after)))))

/-- Entries with commas between them, and perhaps one behind the last. -/
inductive IsBlock : List Entry → List Char → Prop
  | empty {spaces} (isSpaces : IsSpaces spaces) : IsBlock [] spaces
  | last {entry text} (isEntry : IsEntry entry text) : IsBlock [entry] text
  | cons {entry text entries rest} (isEntry : IsEntry entry text) (isBlock : IsBlock entries rest) :
    IsBlock (entry :: entries) (text ++ ',' :: rest)

def Entry.IsCipd (entry : Entry) : Prop := cipd <:+: entry.value

instance : DecidablePred Entry.IsCipd := fun _ => inferInstanceAs (Decidable (_ <:+: _))

/-! ## Where the block ends -/

variable {text : List Char} {c : Char}

theorem not_mem_of_isPlain (plain : ∀ c ∈ text, isPlain c) (sign : isPlain c = false) :
    c ∉ text := fun inText => by simp [plain c inText] at sign

theorem not_mem_of_isSpaces (spaces : IsSpaces text) (sign : isSpace c = false) :
    c ∉ text := fun inText => by simp [spaces c inText] at sign

theorem balanced_append {first second : List Char} (left : Balanced '{' '}' first) (right : Balanced '{' '}' second) :
    Balanced '{' '}' (first ++ second) := (nesting_append_of_some left second).trans right

theorem balanced_cons (notOpening : c ≠ '{') (notClosing : c ≠ '}')
    (balanced : Balanced '{' '}' text) : Balanced '{' '}' (c :: text) :=
  (nesting_cons_of_ne notOpening notClosing 0 text).trans balanced

theorem IsSpaces.balanced (spaces : IsSpaces text) : Balanced '{' '}' text :=
  balanced_of_free (not_mem_of_isSpaces spaces (by decide)) (not_mem_of_isSpaces spaces (by decide))

theorem balanced_of_plain (plain : ∀ c ∈ text, isPlain c) : Balanced '{' '}' text :=
  balanced_of_free (not_mem_of_isPlain plain (by decide)) (not_mem_of_isPlain plain (by decide))

variable {value : List Char}

theorem IsValue.balanced (isValue : IsValue value) : Balanced '{' '}' value := by
  cases isValue with
  | string isQuote plain =>
    have quoted : ∀ quote, quote = '\'' ∨ quote = '"' → quote ≠ '{' ∧ quote ≠ '}' := by
      rintro quote (rfl | rfl) <;> decide
    obtain ⟨notOpening, notClosing⟩ := quoted _ isQuote
    exact balanced_cons notOpening notClosing
      (balanced_append (balanced_of_plain plain) (balanced_cons notOpening notClosing rfl))
  | dictionary braces brackets =>
    rw [Lib.Balanced, nesting_cons, nest_opening, Option.bind_some, nesting_append_of_some (braces.nesting 1),
      nesting_cons, nest_closing (by decide)]
    rfl

variable {entry : Entry}

theorem IsEntry.balanced (isEntry : IsEntry entry text) : Balanced '{' '}' text := by
  obtain ⟨before, first, second, after⟩ := isEntry
  have inColon := balanced_append second.balanced (balanced_append entry.isValue.balanced after.balanced)
  have inKey := balanced_append first.balanced (balanced_cons (c := ':') (by decide) (by decide) inColon)
  have inQuote := balanced_append (balanced_of_plain entry.plain)
    (balanced_cons (c := '\'') (by decide) (by decide) inKey)
  exact balanced_append before.balanced (balanced_cons (by decide) (by decide) inQuote)

variable {entries : List Entry}

theorem IsBlock.balanced (isBlock : IsBlock entries text) : Balanced '{' '}' text := by
  induction isBlock with
  | empty spaces => exact spaces.balanced
  | last isEntry => exact isEntry.balanced
  | cons isEntry _ ih => exact balanced_append isEntry.balanced (balanced_cons (by decide) (by decide) ih)

/-! ## The loop over the entries -/

variable {rest : List Char}

theorem length_of_behind (found : behind c text = some rest) : rest.length < text.length := by
  induction text with
  | nil => nomatch found
  | cons d text ih =>
    rw [behind] at found
    split at found
    · cases found
      exact Nat.lt_succ_self _
    · exact Nat.lt_succ_of_lt (ih found)

def braceChange (c : Char) : Int := if c = '{' then 1 else if c = '}' then -1 else 0

def bracketChange (c : Char) : Int := if c = '[' then 1 else if c = ']' then -1 else 0

def prepend (first : List Char) (taken : List Char × List Char) : List Char × List Char := (first ++ taken.1, taken.2)

theorem prepend_prepend (first second : List Char) (taken : List Char × List Char) :
    prepend first (prepend second taken) = prepend (first ++ second) taken := by
  rw [prepend, prepend, prepend, List.append_assoc]

theorem takeValue_cons (brace bracket : Int) (c : Char) (rest : List Char) :
    takeValue brace bracket (c :: rest) =
      if c = ',' ∧ brace = 0 ∧ bracket = 0 then ([], rest)
      else prepend [c] (takeValue (brace + braceChange c) (bracket + bracketChange c) rest) := by
  rw [takeValue]
  refine ite_congr rfl (fun _ => rfl) fun _ => ?_
  unfold braceChange bracketChange
  split_ifs <;> simp_all [prepend, Int.sub_eq_add_neg]

theorem length_takeValue (brace bracket : Int) (text : List Char) :
    (takeValue brace bracket text).2.length ≤ text.length := by
  induction text generalizing brace bracket with
  | nil => exact Nat.le_refl 0
  | cons c rest ih =>
    rw [takeValue_cons]
    split
    · exact Nat.le_succ _
    · exact Nat.le_succ_of_le (ih ..)

theorem length_of_parseEntry {key : List Char} (parsed : parseEntry text = some (key, value, rest)) :
    rest.length < text.length := by
  unfold parseEntry at parsed
  obtain ⟨keyStart, first, parsed⟩ := Option.bind_eq_some_iff.mp parsed
  obtain ⟨keyEnd, second, parsed⟩ := Option.bind_eq_some_iff.mp parsed
  obtain ⟨colon, third, parsed⟩ := Option.bind_eq_some_iff.mp parsed
  dsimp only at parsed
  split at parsed
  · nomatch parsed
  · cases parsed
    calc (takeValue 0 0 (colon.dropWhile isValueBlank)).2.length
      _ ≤ (colon.dropWhile isValueBlank).length := length_takeValue ..
      _ ≤ colon.length := (List.dropWhile_suffix _).length_le
      _ < keyEnd.length := length_of_behind third
      _ < keyStart.length := length_of_behind second
      _ < text.length := length_of_behind first

theorem parseEntries_eq {fuel more : Nat} (enough : text.length ≤ fuel)
    (enoughToo : text.length ≤ more) : parseEntries fuel text = parseEntries more text := by
  induction fuel generalizing more text with
  | zero =>
    obtain rfl := List.eq_nil_of_length_eq_zero (Nat.le_zero.mp enough)
    cases more <;> rfl
  | succ fuel ih =>
    cases more with
    | zero =>
      obtain rfl := List.eq_nil_of_length_eq_zero (Nat.le_zero.mp enoughToo)
      rfl
    | succ more =>
      rw [parseEntries, parseEntries]
      cases parsed : parseEntry text with
      | none => rfl
      | some entry =>
        obtain ⟨key, value, rest⟩ := entry
        have shorter := length_of_parseEntry parsed
        dsimp only
        have enoughLeft : rest.length ≤ fuel := by omega
        have enoughMore : rest.length ≤ more := by omega
        rw [ih enoughLeft enoughMore]

theorem keys_none (unparsed : parseEntry text = none) : keys text = [] := by
  rw [keys, parseEntries_eq (Nat.le_refl _) (Nat.le_succ _), parseEntries, unparsed]

theorem keys_some {key : List Char} (parsed : parseEntry text = some (key, value, rest)) :
    keys text = if cipd <:+: value then key :: keys rest else keys rest := by
  have shorter := length_of_parseEntry parsed
  rw [keys, parseEntries_eq (Nat.le_refl _) (Nat.le_succ _), parseEntries, parsed]
  dsimp only
  rw [parseEntries_eq (Nat.le_of_lt shorter) (Nat.le_refl _)]
  rfl

/-! ## One entry -/

def Passes (value : List Char) : Prop :=
  ∀ rest, takeValue 0 0 (value ++ rest) = prepend value (takeValue 0 0 rest)

theorem Passes.append {first second : List Char} (left : Passes first) (right : Passes second) :
    Passes (first ++ second) := by
  intro rest
  rw [List.append_assoc, left, right, prepend_prepend]

theorem passes_of_free (free : ∀ c ∈ text, c ∉ ['{', '}', '[', ']', ',']) : Passes text := by
  induction text with
  | nil => exact fun rest => rfl
  | cons c text ih =>
    obtain ⟨here, free⟩ := List.forall_mem_cons.mp free
    intro rest
    simp only [List.mem_cons, not_or] at here
    obtain ⟨noOpening, noClosing, noBracket, noClosingBracket, noComma, _⟩ := here
    rw [List.cons_append, takeValue_cons, if_neg fun ends => noComma ends.1, braceChange, if_neg noOpening,
      if_neg noClosing, bracketChange, if_neg noBracket, if_neg noClosingBracket]
    simp only [Int.add_zero]
    rw [ih free, prepend_prepend, List.singleton_append]

theorem nest_change {opening closing : Char} {level next : Nat} (step : nest opening closing level c = some next) :
    (next : Int) = level + if c = opening then 1 else if c = closing then -1 else 0 := by
  unfold nest at step
  split_ifs at step with isOpening isClosing atZero
  · cases step
    rw [if_pos isOpening, Int.natCast_succ]
  · cases step
    rw [if_neg isOpening, if_pos isClosing]
    omega
  · cases step
    rw [if_neg isOpening, if_neg isClosing, Int.add_zero]

theorem takeValue_inside {inner : List Char} {level after bracketLevel bracketAfter : Nat}
    (braces : nesting '{' '}' level inner = some after)
    (brackets : nesting '[' ']' bracketLevel inner = some bracketAfter) (rest : List Char) :
    takeValue (level + 1) bracketLevel (inner ++ rest) = prepend inner (takeValue (after + 1) bracketAfter rest) := by
  induction inner generalizing level bracketLevel with
  | nil =>
    cases braces
    cases brackets
    rfl
  | cons c inner ih =>
    obtain ⟨next, step, braces⟩ := Option.bind_eq_some_iff.mp braces
    obtain ⟨bracketNext, bracketStep, brackets⟩ := Option.bind_eq_some_iff.mp brackets
    rw [List.cons_append, takeValue_cons, if_neg fun ends => by omega]
    have brace : (level : Int) + 1 + braceChange c = next + 1 := by
      rw [nest_change step, braceChange, Int.add_right_comm]
    have bracket : (bracketLevel : Int) + bracketChange c = bracketNext := (nest_change bracketStep).symm
    rw [brace, bracket, ih braces brackets, prepend_prepend, List.singleton_append]

theorem IsValue.passes (isValue : IsValue value) : Passes value := by
  cases isValue with
  | string isQuote plain =>
    refine passes_of_free fun c inValue => ?_
    rw [List.mem_cons, List.mem_append, List.mem_singleton] at inValue
    obtain isQuoted | inText | isQuoted := inValue
    · obtain rfl | rfl := isQuote <;> rw [isQuoted] <;> decide
    · intro sign
      have := plain c inText
      simp only [List.mem_cons, List.not_mem_nil, or_false] at sign
      obtain rfl | rfl | rfl | rfl | rfl := sign <;> simp [isPlain] at this
    · obtain rfl | rfl := isQuote <;> rw [isQuoted] <;> decide
  | @dictionary inner braces brackets =>
    intro rest
    have inside := takeValue_inside (braces.nesting 0) (brackets.nesting 0) ('}' :: rest)
    have opened : takeValue 0 0 ('{' :: (inner ++ '}' :: rest)) =
        prepend ['{'] (takeValue ((0 : Nat) + 1) (0 : Nat) (inner ++ '}' :: rest)) := by
      rw [takeValue_cons, if_neg (by decide)]
      rfl
    have closed : takeValue ((0 : Nat) + 1) (0 : Nat) ('}' :: rest) = prepend ['}'] (takeValue 0 0 rest) := by
      rw [takeValue_cons, if_neg (by decide)]
      rfl
    rw [List.cons_append, List.append_assoc, List.singleton_append, opened, inside, closed, prepend_prepend,
      prepend_prepend]
    rfl

theorem IsSpaces.passes (spaces : IsSpaces text) : Passes text := by
  refine passes_of_free fun c inText sign => ?_
  have := spaces c inText
  simp only [List.mem_cons, List.not_mem_nil, or_false] at sign
  obtain rfl | rfl | rfl | rfl | rfl := sign <;> simp [isSpace] at this

theorem behind_append (away : c ∉ text) (rest : List Char) : behind c (text ++ c :: rest) = some rest := by
  induction text with
  | nil => exact if_pos rfl
  | cons d text ih =>
    rw [List.mem_cons, not_or] at away
    rw [List.cons_append, behind, if_neg (Ne.symm away.1), ih away.2]

theorem IsValue.cons (isValue : IsValue value) : ∃ c rest, value = c :: rest ∧ isValueBlank c = false := by
  cases isValue with
  | string isQuote plain => obtain rfl | rfl := isQuote <;> exact ⟨_, _, rfl, rfl⟩
  | dictionary => exact ⟨_, _, rfl, rfl⟩

theorem parseEntry_of_isEntry (isEntry : IsEntry entry text) (rest : List Char) :
    ∃ spaces after, IsSpaces spaces ∧ IsSpaces after ∧
      parseEntry (text ++ rest) =
        some (entry.key, prepend (spaces ++ (entry.value ++ after)) (takeValue 0 0 rest)) := by
  obtain ⟨before, first, second, after⟩ := isEntry
  rename_i beforeText firstText secondText afterText
  obtain ⟨c, valueRest, starts, visible⟩ := entry.isValue.cons
  have skipped : ∃ spaces, IsSpaces spaces ∧
      (secondText ++ (entry.value ++ (afterText ++ rest))).dropWhile isValueBlank =
        spaces ++ (entry.value ++ (afterText ++ rest)) := by
    refine ⟨secondText.dropWhile isValueBlank, fun c here => second c (List.dropWhile_subset _ here), ?_⟩
    rw [starts, List.dropWhile_append]
    split
    case isTrue none =>
      rw [List.isEmpty_iff.mp none, List.cons_append, List.dropWhile_cons_of_neg (by simp [visible])]
      rfl
    case isFalse some => rfl
  obtain ⟨spaces, areSpaces, skipped⟩ := skipped
  refine ⟨spaces, afterText, areSpaces, after, ?_⟩
  have passes := areSpaces.passes.append (entry.isValue.passes.append after.passes)
  have nonempty : spaces ++ (entry.value ++ (afterText ++ rest)) ≠ [] := by simp [starts]
  unfold parseEntry
  simp only [List.append_assoc, List.cons_append]
  rw [behind_append (not_mem_of_isSpaces before (by decide))]
  dsimp only [Option.bind_eq_bind, Option.bind_some]
  rw [behind_append (not_mem_of_isPlain entry.plain (by decide)), Option.bind_some,
    behind_append (not_mem_of_isSpaces first (by decide)), Option.bind_some, skipped, if_neg nonempty]
  have key : ∀ behindKey, (entry.key ++ '\'' :: behindKey).takeWhile (· ≠ '\'') = entry.key := by
    intro behindKey
    rw [List.takeWhile_append_of_pos, List.takeWhile_cons_of_neg (by simp), List.append_nil]
    intro c inKey
    exact decide_eq_true fun quote => not_mem_of_isPlain entry.plain (c := '\'') (by decide) (quote ▸ inKey)
  have taken := passes rest
  simp only [List.append_assoc] at taken
  rw [key, taken]
  rfl

variable {spaces : List Char}

theorem cipd_infix_iff {after : List Char} (areSpaces : IsSpaces spaces) (areSpacesToo : IsSpaces after)
    (value : List Char) : cipd <:+: spaces ++ (value ++ after) ↔ cipd <:+: value := by
  have quoted : cipd = '\'' :: ("dep_type': 'cip".toList ++ ['d', '\'']) := by decide
  have ends : cipd = "'dep_type': 'cipd".toList ++ ['\''] := by decide
  rw [quoted, infix_append_left_iff (not_mem_of_isSpaces areSpaces (by decide)), ← quoted, ends,
    infix_append_right_iff (not_mem_of_isSpaces areSpacesToo (by decide))]

/-! ## A block -/

theorem keys_spaces (spaces : IsSpaces text) : keys text = [] := by
  refine keys_none ?_
  have none : behind '\'' text = none := by
    induction text with
    | nil => rfl
    | cons c text ih =>
      obtain ⟨here, spaces⟩ := List.forall_mem_cons.mp spaces
      rw [behind, if_neg (by rintro rfl; nomatch here), ih spaces]
  rw [parseEntry, none]
  rfl

theorem keys_isEntry (isEntry : IsEntry entry text) {taken : List Char} (ends : takeValue 0 0 rest = ([], taken)) :
    keys (text ++ rest) = if entry.IsCipd then entry.key :: keys taken else keys taken := by
  obtain ⟨spaces, after, areSpaces, areSpacesToo, parsed⟩ := parseEntry_of_isEntry isEntry rest
  rw [ends, prepend, List.append_nil] at parsed
  rw [keys_some parsed]
  exact if_congr (cipd_infix_iff areSpaces areSpacesToo _) rfl rfl

theorem keys_block (isBlock : IsBlock entries text) : keys text = (entries.filter Entry.IsCipd).map Entry.key := by
  induction isBlock with
  | empty spaces => exact keys_spaces spaces
  | @last entry text isEntry =>
    have ends : takeValue 0 0 [] = ([], []) := rfl
    have read := keys_isEntry isEntry ends
    have nothing : keys [] = [] := rfl
    rw [List.append_nil, nothing] at read
    rw [read, List.filter_singleton]
    by_cases isCipd : entry.IsCipd <;> simp [isCipd]
  | @cons entry text entries rest isEntry isBlock ih =>
    have ends : takeValue 0 0 (',' :: rest) = ([], rest) := rfl
    rw [keys_isEntry isEntry ends, ih, List.filter_cons]
    by_cases isCipd : entry.IsCipd <;> simp [isCipd]

/-! ## Blanks at the starts of lines -/

/-- A text without the blanks at the starts of its lines.  A line does or does not start where the text does. -/
def strip : Bool → List Char → List Char
  | _, [] => []
  | start, c :: rest => if start ∧ isBlank c then strip true rest else c :: strip (c = '\n') rest

def lineStart : Bool → List Char → Bool
  | start, [] => start
  | start, c :: rest => if start ∧ isBlank c then lineStart true rest else lineStart (c = '\n') rest

theorem strip_append (start : Bool) (first second : List Char) :
    strip start (first ++ second) = strip start first ++ strip (lineStart start first) second := by
  induction first generalizing start with
  | nil => rfl
  | cons c first ih =>
    rw [List.cons_append, strip, strip, lineStart]
    split
    · exact ih true
    · rw [ih, List.cons_append]

theorem strip_visible (visible : isBlank c = false) (start : Bool) (rest : List Char) :
    strip start (c :: rest) = c :: strip (c = '\n') rest := by
  rw [strip, if_neg]
  simp [visible]

theorem strip_sublist (start : Bool) (text : List Char) : (strip start text).Sublist text := by
  induction text generalizing start with
  | nil => exact List.Sublist.slnil
  | cons c text ih =>
    rw [strip]
    split
    · exact (ih true).cons c
    · exact (ih _).cons_cons c

theorem forall_strip {P : Char → Prop} (all : ∀ c ∈ text, P c) (start : Bool) :
    ∀ c ∈ strip start text, P c := fun c here => all c ((strip_sublist start text).subset here)

theorem nesting_strip {opening closing : Char} (opens : isBlank opening = false) (closes : isBlank closing = false)
    (level : Nat) (start : Bool) (text : List Char) :
    nesting opening closing level (strip start text) = nesting opening closing level text := by
  induction text generalizing level start with
  | nil => rfl
  | cons c text ih =>
    rw [strip]
    split
    case isTrue blank =>
      rw [ih, nesting_cons_of_ne]
      · rintro rfl
        exact absurd blank.2 (by simp [opens])
      · rintro rfl
        exact absurd blank.2 (by simp [closes])
    case isFalse =>
      rw [nesting_cons, nesting_cons]
      exact congrArg _ (funext fun next => ih next _)

theorem prefix_strip_iff {part : List Char} (oneLine : '\n' ∉ part) (text : List Char) :
    part <+: strip false text ↔ part <+: text := by
  induction part generalizing text with
  | nil => simp
  | cons letter part ih =>
    rw [List.mem_cons, not_or] at oneLine
    cases text with
    | nil => rfl
    | cons c text =>
      rw [strip, if_neg (by simp), List.cons_prefix_cons, List.cons_prefix_cons]
      refine and_congr_right fun same => ?_
      rw [← same, decide_eq_false (Ne.symm oneLine.1)]
      exact ih oneLine.2 text

theorem infix_strip_iff {first : Char} {part : List Char} (oneLine : '\n' ∉ first :: part)
    (visible : isBlank first = false) (start : Bool) (text : List Char) :
    (first :: part) <:+: strip start text ↔ (first :: part) <:+: text := by
  induction text generalizing start with
  | nil => rfl
  | cons c text ih =>
    rw [List.infix_cons_iff, strip]
    split
    case isTrue blank =>
      have away : ¬ (first :: part) <+: c :: text := by
        rw [List.cons_prefix_cons]
        rintro ⟨rfl, _⟩
        exact absurd blank.2 (by simp [visible])
      rw [ih, or_iff_right away]
    case isFalse =>
      rw [List.infix_cons_iff, ih, ← prefix_strip_iff oneLine (c :: text), strip, if_neg (by simp)]

theorem IsValue.strip_eq (isValue : IsValue value) (start : Bool) : strip start value = strip false value := by
  have visible : ∀ c rest, isBlank c = false → strip start (c :: rest) = strip false (c :: rest) :=
    fun c rest visible => (strip_visible visible start rest).trans (strip_visible visible false rest).symm
  cases isValue with
  | string isQuote plain => obtain rfl | rfl := isQuote <;> exact visible _ _ rfl
  | dictionary => exact visible _ _ rfl

theorem IsValue.strip (isValue : IsValue value) : IsValue (strip false value) := by
  cases isValue with
  | @string quote text isQuote plain =>
    have quoted : DepsParser.strip false (quote :: (text ++ [quote])) =
        quote :: (DepsParser.strip false text ++ [quote]) := by
      obtain rfl | rfl := isQuote <;>
        rw [strip_visible rfl, strip_append, strip_visible rfl] <;> rfl
    rw [quoted]
    exact .string isQuote (forall_strip plain false)
  | @dictionary inner braces brackets =>
    have braced : DepsParser.strip false ('{' :: (inner ++ ['}'])) =
        '{' :: (DepsParser.strip false inner ++ ['}']) := by
      rw [strip_visible rfl, strip_append, strip_visible rfl]
      rfl
    rw [braced]
    exact .dictionary ((nesting_strip rfl rfl 0 false inner).trans braces)
      ((nesting_strip rfl rfl 0 false inner).trans brackets)

def Entry.strip (entry : Entry) : Entry where
  key := DepsParser.strip false entry.key
  value := DepsParser.strip false entry.value
  plain := forall_strip entry.plain false
  isValue := entry.isValue.strip

theorem isCipd_strip_iff : entry.strip.IsCipd ↔ entry.IsCipd := by
  have oneLine : '\n' ∉ '\'' :: "dep_type': 'cipd'".toList := by decide
  exact infix_strip_iff oneLine rfl false entry.value

theorem IsEntry.strip (isEntry : IsEntry entry text) (start : Bool) : IsEntry entry.strip (strip start text) := by
  obtain ⟨before, first, second, after⟩ := isEntry
  rw [strip_append, strip_visible rfl, strip_append, strip_visible rfl, strip_append, strip_visible rfl, strip_append,
    strip_append, entry.isValue.strip_eq]
  exact .mk ⟨forall_strip before _, forall_strip first _, forall_strip second _, forall_strip after _⟩

theorem IsBlock.strip (isBlock : IsBlock entries text) (start : Bool) :
    IsBlock (entries.map Entry.strip) (strip start text) := by
  induction isBlock generalizing start with
  | empty spaces => exact .empty (forall_strip spaces start)
  | last isEntry => exact .last (isEntry.strip start)
  | cons isEntry isBlock ih =>
    rw [strip_append, strip_visible rfl]
    exact .cons (isEntry.strip start) (ih _)

theorem IsEntry.append (isEntry : IsEntry entry text)
    (areSpaces : IsSpaces spaces) : IsEntry entry (text ++ spaces) := by
  obtain ⟨before, first, second, after⟩ := isEntry
  simp only [List.append_assoc, List.cons_append]
  exact .mk ⟨before, first, second, List.forall_mem_append.mpr ⟨after, areSpaces⟩⟩

theorem IsBlock.append (isBlock : IsBlock entries text)
    (areSpaces : IsSpaces spaces) : IsBlock entries (text ++ spaces) := by
  induction isBlock with
  | empty before => exact .empty (List.forall_mem_append.mpr ⟨before, areSpaces⟩)
  | last isEntry => exact .last (isEntry.append areSpaces)
  | cons isEntry isBlock ih =>
    rw [List.append_assoc, List.cons_append]
    exact .cons isEntry ih

/-! ## A clean block -/

theorem lines_induction {P : List Char → Prop} (nil : P [])
    (last : ∀ line, '\n' ∉ line → line ≠ [] → P line)
    (append : ∀ line rest, '\n' ∉ line → P rest → P (line ++ '\n' :: rest)) (text : List Char) : P text := by
  suffices behindLine : ∀ line, '\n' ∉ line → P (line ++ text) from behindLine [] List.not_mem_nil
  induction text with
  | nil =>
    intro line noNewline
    rw [List.append_nil]
    by_cases empty : line = []
    · rw [empty]
      exact nil
    · exact last line noNewline empty
  | cons c text ih =>
    intro line noNewline
    by_cases newline : c = '\n'
    · rw [newline]
      exact append line text noNewline (ih [] List.not_mem_nil)
    · rw [List.append_cons]
      exact ih _ (by simpa [noNewline] using Ne.symm newline)

theorem strip_line {line : List Char} (noNewline : '\n' ∉ line) : strip true line = line.dropWhile isBlank := by
  have inside : ∀ {line : List Char}, '\n' ∉ line → strip false line = line := by
    intro line noNewline
    induction line with
    | nil => rfl
    | cons c line ih =>
      rw [List.mem_cons, not_or] at noNewline
      rw [strip, if_neg (by simp), decide_eq_false (Ne.symm noNewline.1), ih noNewline.2]
  induction line with
  | nil => rfl
  | cons c line ih =>
    rw [List.mem_cons, not_or] at noNewline
    rw [strip, List.dropWhile_cons]
    by_cases blank : isBlank c
    · rw [if_pos ⟨rfl, blank⟩, if_pos blank, ih noNewline.2]
    · rw [if_neg (blank ·.2), if_neg blank, decide_eq_false (Ne.symm noNewline.1), inside noNewline.2]

theorem clean_eq {content : List Char} (noComment : ∀ line ∈ lines content, ¬ IsCommentLine line) :
    ∃ newline, IsSpaces newline ∧ clean content = strip true content ++ newline := by
  induction content using lines_induction with
  | nil => exact ⟨[], nofun, rfl⟩
  | last line noNewline nonempty =>
    rw [lines_alone noNewline nonempty, List.forall_mem_singleton] at noComment
    refine ⟨['\n'], by simp [IsSpaces, isSpace], ?_⟩
    rw [clean, lines_alone noNewline nonempty, strip_line noNewline, List.flatMap_singleton]
    exact if_neg fun comment => noComment ⟨noNewline, comment⟩
  | append line rest noNewline ih =>
    rw [lines_append noNewline] at noComment
    obtain ⟨here, noComment⟩ := List.forall_mem_cons.mp noComment
    obtain ⟨newline, isSpaces, cleaned⟩ := ih noComment
    refine ⟨newline, isSpaces, ?_⟩
    have cleanedLine : cleanLine line = line.dropWhile isBlank ++ ['\n'] :=
      if_neg fun comment => here ⟨noNewline, comment⟩
    rw [clean_append noNewline, cleaned, cleanedLine, strip_append, strip_visible rfl, strip_line noNewline]
    simp

theorem parse_block {text content behind : List Char} {entries : List Entry}
    (found : findAndConsume text = some (content ++ '}' :: behind)) (isBlock : IsBlock entries content)
    (noComment : ∀ line ∈ lines content, ¬ IsCommentLine line) :
    parse text = (entries.filter Entry.IsCipd).map fun entry => strip false entry.key := by
  have closed : depsContent 1 (content ++ '}' :: behind) = some content := depsContent_closes isBlock.balanced behind
  obtain ⟨newline, isSpaces, cleaned⟩ := clean_eq noComment
  have read := keys_block ((isBlock.strip true).append isSpaces)
  rw [parse, found]
  dsimp only
  rw [closed]
  dsimp only
  rw [cleaned, read, List.filter_map, List.map_map]
  have same : (fun entry : Entry => decide entry.strip.IsCipd) = fun entry => decide entry.IsCipd :=
    funext fun entry => decide_eq_decide.mpr isCipd_strip_iff
  exact congrArg (fun test => (entries.filter test).map _) same

/-! ## Keys that keep their blanks -/

/-- A line of the text, other than the first, starts with a blank. -/
def BlankBehindNewline (text : List Char) : Prop := ['\n', ' '] <:+: text ∨ ['\n', '\t'] <:+: text

instance (text : List Char) : Decidable (BlankBehindNewline text) := inferInstanceAs (Decidable (_ ∨ _))

theorem pair_infix_cons {first second : Char} : [first, second] <:+: c :: text ↔
    (c = first ∧ ∃ rest, text = second :: rest) ∨ [first, second] <:+: text := by
  rw [List.infix_cons_iff, List.cons_prefix_cons]
  refine or_congr (and_congr eq_comm ⟨?_, ?_⟩) Iff.rfl
  · rintro ⟨rest, rfl⟩
    exact ⟨rest, rfl⟩
  · rintro ⟨rest, rfl⟩
    exact ⟨rest, rfl⟩

theorem blankBehindNewline_cons : BlankBehindNewline (c :: text) ↔
    (c = '\n' ∧ ∃ blank rest, text = blank :: rest ∧ isBlank blank) ∨ BlankBehindNewline text := by
  have blanks : (∃ blank rest, text = blank :: rest ∧ isBlank blank) ↔
      (∃ rest, text = ' ' :: rest) ∨ ∃ rest, text = '\t' :: rest := by
    simp only [isBlank, Bool.or_eq_true, decide_eq_true_eq]
    grind
  rw [BlankBehindNewline, pair_infix_cons, pair_infix_cons, blanks, and_or_left, or_or_or_comm]
  rfl

theorem strip_eq_self_iff {start : Bool} : strip start text = text ↔
    ¬ (start = true ∧ ∃ blank rest, text = blank :: rest ∧ isBlank blank) ∧ ¬ BlankBehindNewline text := by
  induction text generalizing start with
  | nil => simp [strip, BlankBehindNewline]
  | cons c text ih =>
    rw [strip, blankBehindNewline_cons]
    split
    case isTrue blank =>
      have shorter := (strip_sublist true text).length_le
      refine iff_of_false (fun same => ?_) fun both => both.1 ⟨blank.1, c, text, rfl, blank.2⟩
      have := congrArg List.length same
      rw [List.length_cons] at this
      omega
    case isFalse visible =>
      have first : ¬ (start = true ∧ ∃ blank rest, c :: text = blank :: rest ∧ isBlank blank) := by
        rintro ⟨atStart, blank, rest, same, isBlank⟩
        obtain ⟨rfl, rfl⟩ := List.cons.inj same
        exact visible ⟨atStart, isBlank⟩
      rw [List.cons_inj_right, ih, not_or, decide_eq_true_eq, and_iff_right first]

theorem map_strip_eq_iff : (entries.map fun entry => strip false entry.key) = entries.map Entry.key ↔
      ∀ entry ∈ entries, ¬ BlankBehindNewline entry.key := by
  rw [List.map_inj_left]
  refine forall₂_congr fun entry _ => strip_eq_self_iff.trans ?_
  simp

/-- The comment lines that no text depends on, and the blocks for which exactly the right keys are found. -/
theorem ignoresComments_iff (comments : List (List Char)) :
    ((∀ comment ∈ comments, IsCommentLine comment) →
      ((∀ text other, InsertedInDeps comments text other → parse other = parse text) ↔
        Balanced '{' '}' comments.flatten)) ∧
    ∀ (text content behind : List Char) (entries : List Entry), findAndConsume text = some (content ++ '}' :: behind) →
      IsBlock entries content → (∀ line ∈ lines content, ¬ IsCommentLine line) →
      (parse text = (entries.filter Entry.IsCipd).map Entry.key ↔
        ∀ entry ∈ entries, entry.IsCipd → ¬ BlankBehindNewline entry.key) := by
  refine ⟨fun areComments => parse_inserted_iff areComments, ?_⟩
  intro text content behind entries found isBlock noComment
  rw [parse_block found isBlock noComment, map_strip_eq_iff]
  simp only [List.mem_filter, decide_eq_true_eq, and_imp]

theorem isValue_cipd : IsValue "\x7b'dep_type': 'cipd'\x7d".toList :=
  have braces : Balanced '{' '}' "'dep_type': 'cipd'".toList := by decide
  .dictionary braces (by decide)

theorem isBlock_singleton (entry : Entry) : IsBlock [entry] ('\'' :: (entry.key ++ '\'' :: ':' :: entry.value)) := by
  have nothing : IsSpaces [] := nofun
  have isEntry : IsEntry entry _ := .mk ⟨nothing, nothing, nothing, nothing⟩
  simpa using IsBlock.last isEntry

/-- A dependency that is read behind a comment whose braces are balanced, and one key of two lines that is not. -/
theorem ignoresComments_iff_dependency :
    (∀ text other, InsertedInDeps ["# \x7b'b': 'c'\x7d,".toList] text other → parse other = parse text) ∧
    parse "deps=\x7b'a':\x7b'dep_type': 'cipd'\x7d\x7d".toList = [['a']] ∧
    parse "deps=\x7b'a\n b':\x7b'dep_type': 'cipd'\x7d\x7d".toList ≠ ["a\n b".toList] := by
  refine ⟨((ignoresComments_iff _).1 (by decide)).mpr (by decide), ?_, ?_⟩
  · exact ((ignoresComments_iff []).2 _ _ [] [⟨['a'], _, List.all_eq_true.mp rfl, isValue_cipd⟩] (by decide)
      (isBlock_singleton _) (by decide)).mpr (by decide)
  · intro same
    have kept := ((ignoresComments_iff []).2 "deps=\x7b'a\n b':\x7b'dep_type': 'cipd'\x7d\x7d".toList _ []
      [⟨"a\n b".toList, _, List.all_eq_true.mp rfl, isValue_cipd⟩] (by decide) (isBlock_singleton _) (by decide)).mp same
    exact absurd kept (by decide)

/-- A comment that closes a brace hides the dependencies behind it. -/
theorem not_ignoresComments : IsCommentLine "# \x7d".toList ∧
    InsertedInDeps ["# \x7d".toList] "deps=\x7b\n'a':\x7b'dep_type': 'cipd'\x7d\n\x7d".toList
      "deps=\x7b\n# \x7d\n'a':\x7b'dep_type': 'cipd'\x7d\n\x7d".toList ∧
    parse "deps=\x7b\n'a':\x7b'dep_type': 'cipd'\x7d\n\x7d".toList = [['a']] ∧
    parse "deps=\x7b\n# \x7d\n'a':\x7b'dep_type': 'cipd'\x7d\n\x7d".toList = [] :=
  ⟨by decide, insertedInDeps_dependency ["# \x7d".toList], parse_dependency, by decide⟩

end FlutterZero.LicensesCpp.DepsParser
