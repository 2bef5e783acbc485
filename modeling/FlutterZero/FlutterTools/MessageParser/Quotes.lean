import FlutterZero.FlutterTools.MessageParser.Lexer

/-! # Quotations

With escaping the lexer takes the quotes of a message in pairs: what stands between the first and the
second is a token, what stands between the third and the fourth, and so on.  A token that begins
right behind another quote gets a quote in front, as the two quotes stand for one.

Behind a quotation this is what the doubled quotes mean.  Behind a doubled quote outside a quotation
the quote that begins the token opens a quotation, and has no other quote to stand with.
-/

namespace FlutterZero.FlutterTools

open FlutterZero.Lib

/-- Two quotes stand for one, a quote alone opens or closes a quotation; `none` where a quotation is left
    open. -/
def unescapeFrom : Bool → Utf16 → Option Utf16
  | inside, [] => if inside then none else some []
  | inside, [unit] =>
    if isQuote unit then if inside then some [] else none
    else if inside then none else some [unit]
  | inside, unit :: next :: rest =>
    if isQuote unit then
      if isQuote next then (unescapeFrom inside rest).map (unit :: ·) else unescapeFrom (!inside) (next :: rest)
    else (unescapeFrom inside (next :: rest)).map (unit :: ·)

def unescape (message : Utf16) : Option Utf16 := unescapeFrom false message

def bracesQuotedFrom : Bool → Utf16 → Bool
  | _, [] => true
  | inside, [unit] => inside || !isBrace unit
  | inside, unit :: next :: rest =>
    if isQuote unit then
      if isQuote next then bracesQuotedFrom inside rest else bracesQuotedFrom (!inside) (next :: rest)
    else (inside || !isBrace unit) && bracesQuotedFrom inside (next :: rest)

def bracesQuoted (message : Utf16) : Bool := bracesQuotedFrom false message

/-- Where a message is read: outside a quotation, there right behind a doubled quote, or inside. -/
inductive QuoteMode where
  | outside
  | behindPair
  | inside
deriving DecidableEq, Repr

namespace QuoteMode

def isInside : QuoteMode → Bool
  | inside => true
  | _ => false

def afterUnit : QuoteMode → QuoteMode
  | inside => inside
  | _ => outside

def afterPair : QuoteMode → QuoteMode
  | inside => inside
  | _ => behindPair

def afterQuote : QuoteMode → QuoteMode
  | inside => outside
  | _ => inside

end QuoteMode

/-- A quotation is opened right behind a doubled quote that is outside a quotation. -/
def opensBehindPairFrom : QuoteMode → Utf16 → Bool
  | _, [] => false
  | mode, [unit] => isQuote unit && mode == .behindPair
  | mode, unit :: next :: rest =>
    if isQuote unit then
      if isQuote next then opensBehindPairFrom mode.afterPair rest
      else mode == .behindPair || opensBehindPairFrom mode.afterQuote (next :: rest)
    else opensBehindPairFrom mode.afterUnit (next :: rest)

def opensBehindPair (message : Utf16) : Bool := opensBehindPairFrom .outside message

def stringsOf (tokens : List Node) : Utf16 :=
  (tokens.filter fun token => token.type = .string).flatMap fun token => token.value.getD []

/-- The lexer reads the message as the reference does, and throws exactly where a quotation is left open. -/
def LexesAsUnescaped (message : Utf16) : Prop :=
  match unescape message with
  | none => ∃ error, Parser.lexIntoTokens ⟨message, true, none⟩ = .error error
  | some text => ∃ tokens, Parser.lexIntoTokens ⟨message, true, none⟩ = .ok tokens ∧ stringsOf tokens = text

example : unescape [0x27, 0x27, 0x27, 0x61, 0x27] = some [0x27, 0x61] := by decide

/-! ## The reference -/

variable {inside : Bool} {mode : QuoteMode} {unit : UInt16} {units rest message : Utf16}

theorem unescapeFrom_unit (plain : isQuote unit = false) :
    unescapeFrom inside (unit :: rest) = (unescapeFrom inside rest).map (unit :: ·) := by
  cases rest with
  | nil =>
    simp only [unescapeFrom, plain]
    cases inside <;> rfl
  | cons next rest =>
    rw [unescapeFrom, plain]
    rfl

theorem unescapeFrom_pair :
    unescapeFrom inside (0x27 :: 0x27 :: rest) = (unescapeFrom inside rest).map (0x27 :: ·) := rfl

theorem unescapeFrom_quote (alone : rest.head?.any isQuote = false) :
    unescapeFrom inside (0x27 :: rest) = unescapeFrom (!inside) rest := by
  cases rest with
  | nil => cases inside <;> rfl
  | cons next rest =>
    rw [unescapeFrom, if_pos (by rfl), show isQuote next = false from alone]
    rfl

theorem unescapeFrom_append (plain : ∀ unit ∈ units, isQuote unit = false) :
    unescapeFrom inside (units ++ rest) = (unescapeFrom inside rest).map (units ++ ·) := by
  induction units with
  | nil => simp
  | cons unit units ih =>
    rw [List.forall_mem_cons] at plain
    rw [List.cons_append, unescapeFrom_unit plain.1, ih plain.2, Option.map_map]
    rfl

theorem opensBehindPairFrom_unit (plain : isQuote unit = false) :
    opensBehindPairFrom mode (unit :: rest) = opensBehindPairFrom mode.afterUnit rest := by
  cases rest <;> simp [opensBehindPairFrom, plain]

theorem opensBehindPairFrom_pair :
    opensBehindPairFrom mode (0x27 :: 0x27 :: rest) = opensBehindPairFrom mode.afterPair rest := rfl

theorem opensBehindPairFrom_quote (alone : rest.head?.any isQuote = false) :
    opensBehindPairFrom mode (0x27 :: rest) = (mode == .behindPair || opensBehindPairFrom mode.afterQuote rest) := by
  cases rest with
  | nil => exact (Bool.or_false _).symm
  | cons next rest =>
    rw [opensBehindPairFrom, if_pos (by rfl), show isQuote next = false from alone]
    rfl

theorem opensBehindPairFrom_append (plain : ∀ unit ∈ units, isQuote unit = false) (nonempty : units ≠ []) :
    opensBehindPairFrom mode (units ++ rest) = opensBehindPairFrom mode.afterUnit rest := by
  induction units generalizing mode with
  | nil => exact absurd rfl nonempty
  | cons unit units ih =>
    rw [List.forall_mem_cons] at plain
    rw [List.cons_append, opensBehindPairFrom_unit plain.1]
    by_cases last : units = []
    · rw [last, List.nil_append]
    · rw [ih plain.2 last]
      cases mode <;> rfl

theorem bracesQuotedFrom_unit (plain : isQuote unit = false) :
    bracesQuotedFrom inside (unit :: rest) = ((inside || !isBrace unit) && bracesQuotedFrom inside rest) := by
  cases rest with
  | nil => exact (Bool.and_true _).symm
  | cons next rest =>
    rw [bracesQuotedFrom, plain]
    rfl

theorem bracesQuotedFrom_quote (alone : rest.head?.any isQuote = false) :
    bracesQuotedFrom inside (0x27 :: rest) = bracesQuotedFrom (!inside) rest := by
  cases rest with
  | nil => cases inside <;> rfl
  | cons next rest =>
    rw [bracesQuotedFrom, if_pos (by rfl), show isQuote next = false from alone]
    rfl

theorem bracesQuotedFrom_append (plain : ∀ unit ∈ units, isQuote unit = false)
    (quoted : bracesQuotedFrom inside (units ++ rest) = true) :
    bracesQuotedFrom inside rest = true ∧ (inside = false → ∀ unit ∈ units, isBrace unit = false) := by
  induction units with
  | nil => exact ⟨quoted, fun _ => nofun⟩
  | cons unit units ih =>
    rw [List.forall_mem_cons] at plain
    rw [List.cons_append, bracesQuotedFrom_unit plain.1, Bool.and_eq_true] at quoted
    obtain ⟨rest_quoted, unquoted⟩ := ih plain.2 quoted.2
    refine ⟨rest_quoted, ?_⟩
    rintro rfl
    exact List.forall_mem_cons.mpr ⟨by simpa using quoted.1, unquoted rfl⟩

theorem unescapeFrom_open (plain : ∀ unit ∈ units, isQuote unit = false) : unescapeFrom true units = none := by
  rw [← List.append_nil units, unescapeFrom_append plain]
  rfl

/-! ## Rounds of the lexer -/

namespace Parser

variable {before content : Utf16} {state : LexerState}

theorem substring_middle (middle : Utf16) :
    substring (before ++ (middle ++ rest)) before.length (before.length + middle.length) = middle := by
  rw [substring, List.drop_left, Nat.add_sub_cancel_left, List.take_left]

theorem getElem?_last (nonempty : before ≠ []) : (before ++ rest)[before.length - 1]? = before.getLast? := by
  have inside : before.length - 1 < before.length := Nat.sub_lt (List.length_pos_iff.mpr nonempty) Nat.one_pos
  rw [List.getElem?_append_left inside, List.getLast?_eq_getElem?]

theorem matchEscapedString_some (plain : ∀ unit ∈ content, isQuote unit = false) :
    matchEscapedString (before ++ 0x27 :: (content ++ 0x27 :: rest)) before.length =
      some (before.length + (content.length + 2)) := by
  have closing : (content ++ 0x27 :: rest).findIdx? isQuote = some content.length := by
    rw [List.findIdx?_append, List.findIdx?_eq_none_iff.mpr plain, List.findIdx?_cons, if_pos (by rfl)]
    simp
  have opening : (before ++ 0x27 :: (content ++ 0x27 :: rest))[before.length]? = some 0x27 := by simp
  have behind : (before ++ 0x27 :: (content ++ 0x27 :: rest)).drop (before.length + 1) = content ++ 0x27 :: rest := by
    simp
  rw [matchEscapedString, opening, if_pos (by rfl), behind, closing, Option.map_some]
  congr 1
  omega

theorem matchEscapedString_none (plain : ∀ unit ∈ units, isQuote unit = false) :
    matchEscapedString (before ++ 0x27 :: units) before.length = none := by
  have behind : (before ++ 0x27 :: units).drop (before.length + 1) = units := by simp
  rw [matchEscapedString, behind, List.findIdx?_eq_none_iff.mpr plain]
  split <;> rfl

theorem lexInString_quotation (before rest : Utf16) (start : state.startIndex = before.length)
    (plain : ∀ unit ∈ content, isQuote unit = false) :
    lexInString ⟨before ++ 0x27 :: (content ++ 0x27 :: rest), true, none⟩ state =
      .ok (addToken .string
        (if content = [] then [0x27] else if 1 < before.length ∧ before.getLast? = some 0x27 then 0x27 :: content
          else content) (before.length + (content.length + 2)) state) := by
  have string : substring (before ++ 0x27 :: (content ++ 0x27 :: rest)) before.length
      (before.length + (content.length + 2)) = 0x27 :: (content ++ [0x27]) := by
    have middle : substring (before ++ (0x27 :: (content ++ [0x27]) ++ rest)) _ _ = _ := substring_middle _
    simpa using middle
  unfold lexInString
  simp only [start, if_true, matchEscapedString_some plain, escapedValue, string]
  by_cases empty : content = []
  · subst empty
    rfl
  · have longer : (0x27 :: (content ++ [0x27]) : Utf16) ≠ [0x27, 0x27] := by simp [empty]
    rw [if_neg longer, if_neg empty]
    by_cases first : before = []
    · subst first
      rw [if_neg (by simp), if_neg (by simp), List.tail_cons, List.dropLast_concat]
    · rw [getElem?_last first]
      split
      · rw [← List.cons_append, List.dropLast_concat]
      · rw [List.tail_cons, List.dropLast_concat]

theorem lexInString_unmatched (before : Utf16) (start : state.startIndex = before.length)
    (plain : ∀ unit ∈ units, isQuote unit = false) :
    ∃ error, lexInString ⟨before ++ 0x27 :: units, true, none⟩ state = .error error := by
  have here : (before ++ 0x27 :: units)[before.length]? = some 0x27 := by simp
  have stuck : unescapedString.matchAsPrefix (before ++ 0x27 :: units) before.length = none := by
    rw [unescapedString, RegExp.matchAsPrefix, List.drop_left, List.takeWhile_cons_of_neg (by decide)]
    rfl
  refine ⟨.parser (text "ICU Lexing Error: Unmatched single quotes.") state.startIndex, ?_⟩
  unfold lexInString lexBrace
  simp only [start, if_true, matchEscapedString_none plain, stuck, here]
  rfl

theorem lexInString_text (before : Utf16) (start : state.startIndex = before.length) (nonempty : units ≠ [])
    (plain : ∀ unit ∈ units, isQuote unit = false) (noBrace : ∀ unit ∈ units, isBrace unit = false)
    (ends : rest.head?.all isQuote = true) :
    lexInString ⟨before ++ (units ++ rest), true, none⟩ state =
      .ok (addToken .string units (before.length + units.length) state) := by
  have positive : 0 < units.length := List.length_pos_iff.mpr nonempty
  have unquoted : matchEscapedString (before ++ (units ++ rest)) before.length = none := by
    obtain ⟨unit, units, rfl⟩ := List.exists_cons_of_ne_nil nonempty
    have here : (before ++ (unit :: units ++ rest))[before.length]? = some unit := by simp
    rw [matchEscapedString, here, if_neg (by simp [plain unit List.mem_cons_self])]
  have whole : (units ++ rest).takeWhile (fun unit => !isBrace unit && !isQuote unit) = units := by
    have all : ∀ unit ∈ units, (!isBrace unit && !isQuote unit) = true := fun unit member => by
      rw [plain unit member, noBrace unit member]
      rfl
    rw [List.takeWhile_append_of_pos all]
    cases rest with
    | nil => simp
    | cons next rest => rw [List.takeWhile_cons_of_neg (by simp [show isQuote next = true from ends]), List.append_nil]
  have matched : unescapedString.matchAsPrefix (before ++ (units ++ rest)) before.length =
      some (before.length + units.length) := by
    rw [unescapedString, RegExp.matchAsPrefix, List.drop_left, whole, if_pos positive]
  unfold lexInString
  simp only [start, if_true, unquoted, matched, substring_middle]

theorem lexFrom_inString {message : Utf16} {state' : LexerState} (inString : state.isString = true)
    (inside : state.startIndex < message.length) (ran : lexInString ⟨message, true, none⟩ state = .ok state') :
    lexFrom ⟨message, true, none⟩ state = lexFrom ⟨message, true, none⟩ state' := by
  refine lexFrom_next _ inside ?_
  rw [lexRound, inString]
  exact ran

theorem lexFrom_quotation (before rest : Utf16) (start : state.startIndex = before.length)
    (inString : state.isString = true) (plain : ∀ unit ∈ content, isQuote unit = false) :
    lexFrom ⟨before ++ 0x27 :: (content ++ 0x27 :: rest), true, none⟩ state =
      lexFrom ⟨before ++ 0x27 :: (content ++ [0x27]) ++ rest, true, none⟩ (addToken .string
        (if content = [] then [0x27] else if 1 < before.length ∧ before.getLast? = some 0x27 then 0x27 :: content
          else content) (before ++ 0x27 :: (content ++ [0x27])).length state) := by
  have message : before ++ 0x27 :: (content ++ [0x27]) ++ rest = before ++ 0x27 :: (content ++ 0x27 :: rest) := by simp
  have stop : (before ++ 0x27 :: (content ++ [0x27])).length = before.length + (content.length + 2) := by simp
  rw [message, stop]
  exact lexFrom_inString inString (by simp [start]) (lexInString_quotation before rest start plain)

theorem lexFrom_throws {message : Utf16} {error : ParserException} (inString : state.isString = true)
    (inside : state.startIndex < message.length) (threw : lexInString ⟨message, true, none⟩ state = .error error) :
    lexFrom ⟨message, true, none⟩ state = .error error := by
  have threw' : lexRound ⟨message, true, none⟩ state = .error error := by
    rw [lexRound, inString]
    exact threw
  rw [lexFrom.eq_def, dif_pos inside]
  split
  · rename_i failed
    cases threw'.symm.trans failed
    rfl
  · rename_i ran
    cases threw'.symm.trans ran

theorem stringsOf_addToken (value : Utf16) (stop : Nat) :
    stringsOf (addToken .string value stop state).tokens = stringsOf state.tokens ++ value := by
  simp [stringsOf, addToken, Node.token]

end Parser

/-! ## The lexer beside the reference -/

/-- Behind a quotation, a quote may still belong to the quote that ended it. -/
def pending : QuoteMode → Utf16 → Utf16
  | .inside, units => 0x27 :: units
  | _, units => units

def Behind (before : Utf16) : QuoteMode → Prop
  | .outside => before.getLast? ≠ some 0x27
  | _ => 1 < before.length ∧ before.getLast? = some 0x27

/-- The tokens say what the reference says, or more, where a quotation was opened behind a doubled quote. -/
def LexesTo (lexed : Except ParserException (List Node)) (sofar : Utf16) : Option Utf16 → Bool → Prop
  | none, _ => ∃ error, lexed = .error error
  | some text, more => ∃ tokens strings, lexed = .ok tokens ∧ stringsOf tokens = sofar ++ strings ∧
      if more then text.length < strings.length else strings = text

section

variable {lexed : Except ParserException (List Node)} {sofar emitted : Utf16} {reference : Option Utf16} {more : Bool}

theorem LexesTo.emit (reads : LexesTo lexed (sofar ++ emitted) reference more) :
    LexesTo lexed sofar (reference.map (emitted ++ ·)) more := by
  cases reference with
  | none => exact reads
  | some text =>
    obtain ⟨tokens, strings, lexed_eq, total, compared⟩ := reads
    refine ⟨tokens, emitted ++ strings, lexed_eq, by rw [total, List.append_assoc], ?_⟩
    cases more with
    | false => exact congrArg _ compared
    | true =>
      have longer : text.length < strings.length := compared
      simpa using longer

theorem LexesTo.extra (reads : LexesTo lexed (sofar ++ 0x27 :: emitted) reference more) :
    LexesTo lexed sofar (reference.map (emitted ++ ·)) true := by
  cases reference with
  | none => exact reads
  | some text =>
    obtain ⟨tokens, strings, lexed_eq, total, compared⟩ := reads
    refine ⟨tokens, 0x27 :: emitted ++ strings, lexed_eq, by rw [total, List.append_assoc], ?_⟩
    have atLeast : text.length ≤ strings.length := by
      cases more with
      | false => rw [show strings = text from compared]
      | true => exact Nat.le_of_lt compared
    simp
    omega

end

theorem eq_quote (quote : isQuote unit = true) : unit = 0x27 := by simpa [isQuote] using quote

theorem getLast?_ne_quote {before : Utf16} (plain : ∀ unit ∈ units, isQuote unit = false) (nonempty : units ≠ []) :
    (before ++ units).getLast? ≠ some 0x27 := by
  rw [List.getLast?_append_of_ne_nil _ nonempty, List.getLast?_eq_some_getLast nonempty]
  intro last
  have := plain _ (List.getLast_mem nonempty)
  rw [Option.some.inj last] at this
  cases this

theorem split_at_quote (units : Utf16) :
    ∃ text rest, units = text ++ rest ∧ (∀ unit ∈ text, isQuote unit = false) ∧
      (rest = [] ∨ ∃ rest', rest = 0x27 :: rest') := by
  induction units with
  | nil => exact ⟨[], [], rfl, nofun, .inl rfl⟩
  | cons unit units ih =>
    cases quote : isQuote unit with
    | true => exact ⟨[], unit :: units, rfl, nofun, .inr ⟨units, by rw [eq_quote quote]⟩⟩
    | false =>
      obtain ⟨text, rest, rfl, plain, ends⟩ := ih
      exact ⟨unit :: text, rest, rfl, List.forall_mem_cons.mpr ⟨quote, plain⟩, ends⟩

def ReadsFrom (before : Utf16) (mode : QuoteMode) (units : Utf16) : Prop :=
  ∀ state : LexerState, state.startIndex = before.length → state.isString = true →
    bracesQuotedFrom mode.isInside (pending mode units) = true →
      LexesTo (Parser.lexFrom ⟨before ++ units, true, none⟩ state) (stringsOf state.tokens)
        (unescapeFrom mode.isInside (pending mode units)) (opensBehindPairFrom mode (pending mode units))

section

variable {before text content : Utf16} (mode : QuoteMode)

theorem readsFrom_nil : ReadsFrom before mode [] := by
  intro state start inString quoted
  have lexed : Parser.lexFrom ⟨before ++ [], true, none⟩ state = .ok state.tokens :=
    Parser.lexFrom_end _ (by simp [start])
  cases mode <;> exact ⟨state.tokens, [], lexed, (List.append_nil _).symm, rfl⟩

theorem head?_append_plain (rest : Utf16) (plain : ∀ unit ∈ text, isQuote unit = false) (nonempty : text ≠ []) :
    (text ++ rest).head?.any isQuote = false := by
  obtain ⟨unit, text, rfl⟩ := List.exists_cons_of_ne_nil nonempty
  exact plain unit List.mem_cons_self

theorem readsFrom_text (nonempty : text ≠ []) (plain : ∀ unit ∈ text, isQuote unit = false)
    (ends : rest.head?.all isQuote = true) (next : ReadsFrom (before ++ text) .outside rest) :
    ReadsFrom before mode (text ++ rest) := by
  intro state start inString quoted
  have first := head?_append_plain rest plain nonempty
  have reference : unescapeFrom mode.isInside (pending mode (text ++ rest)) =
      (unescapeFrom false rest).map (text ++ ·) := by
    rw [← unescapeFrom_append plain]
    cases mode with
    | inside => exact unescapeFrom_quote first
    | _ => rfl
  have opens : opensBehindPairFrom mode (pending mode (text ++ rest)) = opensBehindPairFrom .outside rest := by
    cases mode with
    | inside =>
      rw [pending, opensBehindPairFrom_quote first]
      exact opensBehindPairFrom_append plain nonempty
    | _ => exact opensBehindPairFrom_append plain nonempty
  have quoted' : bracesQuotedFrom false (text ++ rest) = true := by
    cases mode with
    | inside =>
      rw [pending, bracesQuotedFrom_quote first] at quoted
      exact quoted
    | _ => exact quoted
  obtain ⟨rest_quoted, noBrace⟩ := bracesQuotedFrom_append plain quoted'
  have ran := Parser.lexInString_text before start nonempty plain (noBrace rfl) ends
  have inside : state.startIndex < (before ++ (text ++ rest)).length := by
    have := List.length_pos_iff.mpr nonempty
    simp only [start, List.length_append]
    omega
  rw [reference, opens, Parser.lexFrom_inString inString inside ran]
  apply LexesTo.emit
  rw [← Parser.stringsOf_addToken, ← List.append_assoc]
  exact next _ (List.length_append ..).symm inString rest_quoted

theorem readsFrom_open (plain : ∀ unit ∈ units, isQuote unit = false) : ReadsFrom before mode (0x27 :: units) := by
  intro state start inString quoted
  have reference : unescapeFrom mode.isInside (pending mode (0x27 :: units)) = none := by
    cases mode with
    | inside =>
      rw [pending, unescapeFrom_pair, QuoteMode.isInside, unescapeFrom_open plain]
      rfl
    | _ =>
      have alone : units.head?.any isQuote = false := by
        cases units with
        | nil => rfl
        | cons unit units => exact plain unit List.mem_cons_self
      exact (unescapeFrom_quote alone).trans (unescapeFrom_open plain)
  obtain ⟨error, threw⟩ := Parser.lexInString_unmatched before start plain
  rw [reference]
  exact ⟨error, Parser.lexFrom_throws inString (by simp [start]) threw⟩

theorem readsFrom_pair (next : ReadsFrom (before ++ [0x27, 0x27]) mode.afterPair rest) :
    ReadsFrom before mode (0x27 :: 0x27 :: rest) := by
  intro state start inString quoted
  have reference : unescapeFrom mode.isInside (pending mode (0x27 :: 0x27 :: rest)) =
      (unescapeFrom mode.afterPair.isInside (pending mode.afterPair rest)).map ([0x27] ++ ·) := by
    cases mode <;> rfl
  have opens : opensBehindPairFrom mode (pending mode (0x27 :: 0x27 :: rest)) =
      opensBehindPairFrom mode.afterPair (pending mode.afterPair rest) := by
    cases mode <;> rfl
  have quoted' : bracesQuotedFrom mode.afterPair.isInside (pending mode.afterPair rest) = true := by
    cases mode <;> exact quoted
  have lexed : Parser.lexFrom ⟨before ++ 0x27 :: ([] ++ 0x27 :: rest), true, none⟩ state = _ :=
    Parser.lexFrom_quotation before rest start inString nofun
  rw [if_pos rfl] at lexed
  rw [reference, opens, show 0x27 :: 0x27 :: rest = 0x27 :: ([] ++ 0x27 :: rest) from rfl, lexed]
  apply LexesTo.emit
  rw [← Parser.stringsOf_addToken]
  exact next _ rfl inString quoted'

theorem readsFrom_quotation (behind : Behind before mode) (nonempty : content ≠ [])
    (plain : ∀ unit ∈ content, isQuote unit = false)
    (next : ReadsFrom (before ++ 0x27 :: (content ++ [0x27])) .inside rest) :
    ReadsFrom before mode (0x27 :: (content ++ 0x27 :: rest)) := by
  intro state start inString quoted
  have first := head?_append_plain (0x27 :: rest) plain nonempty
  have quoted' : bracesQuotedFrom true (0x27 :: rest) = true := by
    refine (bracesQuotedFrom_append plain ?_).1
    cases mode with
    | inside => exact quoted
    | _ => exact (bracesQuotedFrom_quote first).symm.trans quoted
  have reference : unescapeFrom true (content ++ 0x27 :: rest) =
      (unescapeFrom true (0x27 :: rest)).map (content ++ ·) := unescapeFrom_append plain
  have opens : opensBehindPairFrom .inside (content ++ 0x27 :: rest) = opensBehindPairFrom .inside (0x27 :: rest) :=
    opensBehindPairFrom_append plain nonempty
  have lexed := Parser.lexFrom_quotation before rest start inString plain
  rw [if_neg nonempty] at lexed
  cases mode with
  | outside =>
    have single : ¬ (1 < before.length ∧ before.getLast? = some 0x27) := fun doubled => behind doubled.2
    have opened : opensBehindPairFrom .outside (0x27 :: (content ++ 0x27 :: rest)) =
        opensBehindPairFrom .inside (0x27 :: rest) := (opensBehindPairFrom_quote first).trans opens
    rw [if_neg single] at lexed
    show LexesTo _ _ (unescapeFrom false (0x27 :: (content ++ 0x27 :: rest)))
      (opensBehindPairFrom .outside (0x27 :: (content ++ 0x27 :: rest)))
    rw [lexed, opened, unescapeFrom_quote first, Bool.not_false, reference]
    apply LexesTo.emit
    rw [← Parser.stringsOf_addToken]
    exact next _ rfl inString quoted'
  | behindPair =>
    -- the quote in front of the token stands with none
    have opened : opensBehindPairFrom .behindPair (0x27 :: (content ++ 0x27 :: rest)) = true :=
      opensBehindPairFrom_quote first
    rw [if_pos (show 1 < before.length ∧ before.getLast? = some 0x27 from behind)] at lexed
    show LexesTo _ _ (unescapeFrom false (0x27 :: (content ++ 0x27 :: rest)))
      (opensBehindPairFrom .behindPair (0x27 :: (content ++ 0x27 :: rest)))
    rw [lexed, opened, unescapeFrom_quote first, Bool.not_false, reference]
    apply LexesTo.extra
    rw [← Parser.stringsOf_addToken]
    exact next _ rfl inString quoted'
  | inside =>
    have doubled : unescapeFrom true (0x27 :: 0x27 :: (content ++ 0x27 :: rest)) =
        (unescapeFrom true (0x27 :: rest)).map (0x27 :: content ++ ·) := by
      rw [unescapeFrom_pair, reference, Option.map_map]
      rfl
    have opened : opensBehindPairFrom .inside (0x27 :: 0x27 :: (content ++ 0x27 :: rest)) =
        opensBehindPairFrom .inside (0x27 :: rest) := opensBehindPairFrom_pair.trans opens
    rw [if_pos (show 1 < before.length ∧ before.getLast? = some 0x27 from behind)] at lexed
    show LexesTo _ _ (unescapeFrom true (0x27 :: 0x27 :: (content ++ 0x27 :: rest)))
      (opensBehindPairFrom .inside (0x27 :: 0x27 :: (content ++ 0x27 :: rest)))
    rw [lexed, opened, doubled]
    apply LexesTo.emit
    rw [← Parser.stringsOf_addToken]
    exact next _ rfl inString quoted'

theorem readsFrom (before units : Utf16) (mode : QuoteMode) (behind : Behind before mode) :
    ReadsFrom before mode units := by
  induction size : units.length using Nat.strong_induction_on generalizing before mode units with
  | _ length ih =>
    obtain ⟨text, rest, rfl, plain, ends⟩ := split_at_quote units
    by_cases no_text : text = []
    · subst no_text
      obtain rfl | ⟨units, rfl⟩ := ends
      · exact readsFrom_nil mode
      · obtain ⟨content, rest, rfl, plain, rfl | ⟨rest, rfl⟩⟩ := split_at_quote units
        · rw [List.append_nil]
          exact readsFrom_open mode plain
        · have shorter : rest.length < length := by
            rw [← size]
            simp only [List.nil_append, List.length_cons, List.length_append]
            omega
          by_cases empty : content = []
          · subst empty
            refine readsFrom_pair mode (ih _ shorter _ _ _ ?_ rfl)
            cases mode <;> exact ⟨by simp, by simp⟩
          · have last : (before ++ 0x27 :: (content ++ [0x27])).getLast? = some 0x27 := by
              rw [← List.cons_append, ← List.append_assoc, List.getLast?_concat]
            refine readsFrom_quotation mode behind empty plain (ih _ shorter _ _ _ ⟨?_, last⟩ rfl)
            simp only [List.length_append, List.length_cons]
            omega
    · have shorter : rest.length < length := by
        have := List.length_pos_iff.mpr no_text
        rw [← size, List.length_append]
        omega
      have head : rest.head?.all isQuote = true := by
        obtain rfl | ⟨rest, rfl⟩ := ends <;> rfl
      exact readsFrom_text mode no_text plain head (ih _ shorter _ _ _ (getLast?_ne_quote plain no_text) rfl)

end

/-- The lexer reads what the reference reads, if and only if a quotation is left open or none is opened right
    behind a doubled quote. -/
theorem lexesAsUnescaped_iff (message : Utf16) (quoted : bracesQuoted message = true) :
    LexesAsUnescaped message ↔ unescape message = none ∨ opensBehindPair message = false := by
  have reads : LexesTo (Parser.lexIntoTokens ⟨message, true, none⟩) [] (unescape message) (opensBehindPair message) :=
    readsFrom [] message .outside nofun _ rfl rfl quoted
  unfold LexesAsUnescaped
  cases reference : unescape message with
  | none =>
    rw [reference] at reads
    exact iff_of_true reads (.inl rfl)
  | some text =>
    rw [reference] at reads
    obtain ⟨tokens, strings, lexed, total, compared⟩ := reads
    rw [List.nil_append] at total
    cases opens : opensBehindPair message with
    | false =>
      rw [opens] at compared
      exact iff_of_true ⟨tokens, lexed, total.trans compared⟩ (.inr rfl)
    | true =>
      rw [opens] at compared
      refine iff_of_false ?_ (by simp)
      rintro ⟨tokens', lexed', total'⟩
      cases lexed.symm.trans lexed'
      have longer : text.length < strings.length := compared
      rw [← total, total'] at longer
      exact Nat.lt_irrefl _ longer

/-- `'{x}'''` -/
theorem lexesAsUnescaped_iff_quoted_braces :
    bracesQuoted [0x27, 0x7B, 0x78, 0x7D, 0x27, 0x27, 0x27] = true ∧
      (LexesAsUnescaped [0x27, 0x7B, 0x78, 0x7D, 0x27, 0x27, 0x27] ↔
        unescape [0x27, 0x7B, 0x78, 0x7D, 0x27, 0x27, 0x27] = none ∨
          opensBehindPair [0x27, 0x7B, 0x78, 0x7D, 0x27, 0x27, 0x27] = false) :=
  ⟨by decide, lexesAsUnescaped_iff _ (by decide)⟩

/-- `'''a'` stands for `'a`, and is lexed as `''a`. -/
theorem not_lexesAsUnescaped_three_quotes :
    bracesQuoted [0x27, 0x27, 0x27, 0x61, 0x27] = true ∧ unescape [0x27, 0x27, 0x27, 0x61, 0x27] = some [0x27, 0x61] ∧
      (Parser.lexIntoTokens ⟨[0x27, 0x27, 0x27, 0x61, 0x27], true, none⟩).map stringsOf = .ok [0x27, 0x27, 0x61] ∧
      ¬ LexesAsUnescaped [0x27, 0x27, 0x27, 0x61, 0x27] := by
  have lexed : Parser.lexIntoTokens ⟨[0x27, 0x27, 0x27, 0x61, 0x27], true, none⟩ =
      .ok [Node.token .string 0 [0x27], Node.token .string 2 [0x27, 0x61]] := by
    rw [Parser.lexIntoTokens, Parser.lexFrom_next _ (by decide) rfl, Parser.lexFrom_next _ (by decide) rfl,
      Parser.lexFrom_end _ (by decide)]
    rfl
  refine ⟨by decide, by decide, by rw [lexed]; rfl, ?_⟩
  rintro ⟨tokens, lexed', strings⟩
  cases lexed.symm.trans lexed'
  exact absurd strings (by decide)

end FlutterZero.FlutterTools
