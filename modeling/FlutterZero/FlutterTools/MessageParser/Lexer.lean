import FlutterZero.Lib.Text
import FlutterZero.Lib.Machine

/-! # Lexing ICU messages

`Parser.lexIntoTokens` (`message_parser.dart`): a lexer that is either inside a
string or inside braces, and that changes between the two at every brace.

The file name, the message's id and the message that an exception carries are
those of the parser, so an exception is its error text and position.
-/

namespace FlutterZero.FlutterTools

open FlutterZero.Lib

inductive ST where
  | openBrace
  | closeBrace
  | comma
  | equalSign
  | other
  | plural
  | select
  | string
  | number
  | identifier
  | empty
  | colon
  | date
  | time
  | message
  | placeholderExpr
  | argumentExpr
  | pluralExpr
  | pluralParts
  | pluralPart
  | selectExpr
  | selectParts
  | selectPart
  | argType
deriving DecidableEq, Repr

def ST.isNonterminal : ST → Bool
  | .message | .placeholderExpr | .argumentExpr | .pluralExpr | .pluralParts | .pluralPart | .selectExpr
  | .selectParts | .selectPart | .argType => true
  | _ => false

def grammar : ST → List (List ST)
  | .message =>
    [[.string, .message], [.placeholderExpr, .message], [.pluralExpr, .message], [.selectExpr, .message],
      [.argumentExpr, .message], [.empty]]
  | .placeholderExpr => [[.openBrace, .identifier, .closeBrace]]
  | .pluralExpr => [[.openBrace, .identifier, .comma, .plural, .comma, .pluralParts, .closeBrace]]
  | .pluralParts => [[.pluralPart, .pluralParts], [.empty]]
  | .pluralPart =>
    [[.identifier, .openBrace, .message, .closeBrace], [.equalSign, .number, .openBrace, .message, .closeBrace],
      [.other, .openBrace, .message, .closeBrace]]
  | .selectExpr =>
    [[.openBrace, .identifier, .comma, .select, .comma, .selectParts, .closeBrace],
      [.other, .openBrace, .message, .closeBrace]]
  | .selectParts => [[.selectPart, .selectParts], [.empty]]
  | .selectPart =>
    [[.identifier, .openBrace, .message, .closeBrace], [.number, .openBrace, .message, .closeBrace],
      [.other, .openBrace, .message, .closeBrace]]
  | .argumentExpr =>
    [[.openBrace, .identifier, .comma, .argType, .comma, .colon, .colon, .identifier, .closeBrace]]
  | .argType => [[.date], [.time]]
  | _ => []

structure Node where
  type : ST
  positionInMessage : Int
  expectedSymbolCount : Nat
  value : Option Utf16
  children : List Node
deriving Repr

namespace Node

def token (type : ST) (positionInMessage : Nat) (value : Utf16) : Node := ⟨type, positionInMessage, 0, some value, []⟩

end Node

/-- What is thrown. -/
inductive ParserException where
  /-- `L10nException`. -/
  | l10n (message : Utf16)
  /-- `L10nParserException`. -/
  | parser (error : Utf16) (charNumber : Int)
  /-- `StateError`: the last element of an empty list. -/
  | noElement
  /-- `RangeError`. -/
  | range
deriving DecidableEq, Repr

def text (error : String) : Utf16 := units error.toList

/-! ## Lexing -/

/-- The regular expressions of the lexer: one code unit, or as many as possible of a class. -/
inductive RegExp where
  | one (unit : UInt16 → Bool)
  | many (unit : UInt16 → Bool)

def RegExp.matchAsPrefix (messageString : Utf16) (start : Nat) : RegExp → Option Nat
  | one unit => if (messageString[start]?).any unit then some (start + 1) else none
  | many unit =>
    let length := ((messageString.drop start).takeWhile unit).length
    if 0 < length then some (start + length) else none

def isQuote (unit : UInt16) : Bool := unit == 0x27

def isBrace (unit : UInt16) : Bool := unit == 0x7B || unit == 0x7D

def unescapedString : RegExp := .many fun unit => !isBrace unit && !isQuote unit

def normalString : RegExp := .many fun unit => !isBrace unit

def whitespace : RegExp := .many fun unit =>
  (0x09 ≤ unit && unit ≤ 0x0D) || unit == 0x20 || unit == 0xA0 || unit == 0x1680 ||
    (0x2000 ≤ unit && unit ≤ 0x200A) || unit == 0x2028 || unit == 0x2029 || unit == 0x202F || unit == 0x205F ||
    unit == 0x3000 || unit == 0xFEFF

def isDigit (unit : UInt16) : Bool := 0x30 ≤ unit && unit ≤ 0x39

def numeric : RegExp := .many isDigit

def alphanumeric : RegExp := .many fun unit =>
  (0x61 ≤ unit && unit ≤ 0x7A) || (0x41 ≤ unit && unit ≤ 0x5A) || isDigit unit || unit == 0x7C || unit == 0x5F

def matchers : List (ST × RegExp) :=
  [(.empty, whitespace), (.number, numeric), (.comma, .one (· == 0x2C)), (.equalSign, .one (· == 0x3D)),
    (.colon, .one (· == 0x3A)), (.identifier, alphanumeric)]

/-- The match of `'[^']*'`. -/
def matchEscapedString (messageString : Utf16) (start : Nat) : Option Nat :=
  if (messageString[start]?).any isQuote then
    ((messageString.drop (start + 1)).findIdx? isQuote).map fun length => start + 1 + length + 1
  else none

def substring (messageString : Utf16) (start stop : Nat) : Utf16 := (messageString.drop start).take (stop - start)

structure LexerState where
  tokens : List Node
  isString : Bool
  startIndex : Nat
  depth : Int

/-- What a `Parser` is made with. -/
structure Parser where
  messageString : Utf16
  useEscaping : Bool
  placeholders : Option (List Utf16)

namespace Parser

variable (parser : Parser)

def addToken (type : ST) (value : Utf16) (stop : Nat) (state : LexerState) : LexerState :=
  { state with tokens := state.tokens ++ [Node.token type state.startIndex value], startIndex := stop }

def braceType (unit : UInt16) : ST := if unit = 0x7B then .openBrace else .closeBrace

/-- Whether the relaxed lexer takes a brace inside a string for a part of the string. -/
def isStringBrace (brace : UInt16) (state : LexerState) : Bool :=
  match parser.placeholders with
  | none => false
  | some placeholders =>
    let stop := state.startIndex + 1
    let endOfWhitespace := (whitespace.matchAsPrefix parser.messageString stop).getD stop
    (brace == 0x7D && state.depth == 0) ||
      (brace == 0x7B &&
        match alphanumeric.matchAsPrefix parser.messageString endOfWhitespace with
        | none => true
        | some stop => !placeholders.contains (substring parser.messageString endOfWhitespace stop))

def lexBrace (state : LexerState) : Except ParserException LexerState :=
  match parser.messageString[state.startIndex]? with
  | none => .error .range
  | some unit =>
    if isBrace unit then
      let stop := state.startIndex + 1
      if parser.isStringBrace unit state then .ok (addToken .string [unit] stop state)
      else .ok { addToken (braceType unit) [unit] stop state with isString := false, depth := state.depth + 1 }
    else .error (.parser (text "ICU Lexing Error: Unmatched single quotes.") state.startIndex)

def escapedValue (start stop : Nat) : Utf16 :=
  let string := substring parser.messageString start stop
  if string = [0x27, 0x27] then [0x27]
  else if 1 < start ∧ parser.messageString[start - 1]? = some 0x27 then string.dropLast
  else string.tail.dropLast

def lexInString (state : LexerState) : Except ParserException LexerState :=
  let start := state.startIndex
  if parser.useEscaping then
    match matchEscapedString parser.messageString start with
    | some stop => .ok (addToken .string (parser.escapedValue start stop) stop state)
    | none =>
      match unescapedString.matchAsPrefix parser.messageString start with
      | some stop => .ok (addToken .string (substring parser.messageString start stop) stop state)
      | none => parser.lexBrace state
  else
    match normalString.matchAsPrefix parser.messageString start with
    | some stop => .ok (addToken .string (substring parser.messageString start stop) stop state)
    | none => parser.lexBrace state

def keyword (tokenStr : Utf16) (matchedType : ST) : ST :=
  if tokenStr = units ['p', 'l', 'u', 'r', 'a', 'l'] then .plural
  else if tokenStr = units ['s', 'e', 'l', 'e', 'c', 't'] then .select
  else if tokenStr = units ['o', 't', 'h', 'e', 'r'] then .other
  else if tokenStr = units ['d', 'a', 't', 'e'] then .date
  else if tokenStr = units ['t', 'i', 'm', 'e'] then .time
  else matchedType

def matchToken (start : Nat) : Option (ST × Nat) :=
  matchers.findSome? fun (type, matcher) => (matcher.matchAsPrefix parser.messageString start).map fun stop => (type, stop)

def lexInBraces (state : LexerState) : Except ParserException LexerState :=
  let start := state.startIndex
  match parser.matchToken start with
  | none =>
    match parser.messageString[start]? with
    | none => .error .range
    | some unit =>
      if isBrace unit then
        .ok { addToken (braceType unit) [unit] (start + 1) state with
          isString := true
          depth := if unit = 0x7B then state.depth + 1 else state.depth - 1 }
      else .error (.parser (text "ICU Lexing Error: Unexpected character.") start)
  | some (matchedType, stop) =>
    let tokenStr := substring parser.messageString start stop
    if matchedType = .empty then .ok { state with startIndex := stop }
    else
      match state.tokens.getLast? with
      | none =>
        if matchedType = .identifier then .error .noElement
        else .ok (addToken (keyword tokenStr matchedType) tokenStr stop state)
      | some last =>
        if matchedType = .identifier ∧ last.type = .openBrace then .ok (addToken .identifier tokenStr stop state)
        else .ok (addToken (keyword tokenStr matchedType) tokenStr stop state)

def lexRound (state : LexerState) : Except ParserException LexerState :=
  if state.isString then parser.lexInString state else parser.lexInBraces state

theorem lt_of_matchAsPrefix {messageString : Utf16} {start stop : Nat} {matcher : RegExp}
    (matched : matcher.matchAsPrefix messageString start = some stop) : start < stop := by
  unfold RegExp.matchAsPrefix at matched
  split at matched
  · split at matched <;> cases matched
    exact Nat.lt_succ_self start
  · dsimp only at matched
    split at matched <;> cases matched
    omega

theorem lt_of_matchEscapedString {messageString : Utf16} {start stop : Nat}
    (matched : matchEscapedString messageString start = some stop) : start < stop := by
  unfold matchEscapedString at matched
  split at matched
  · obtain ⟨length, -, rfl⟩ := Option.map_eq_some_iff.mp matched
    omega
  · cases matched

theorem lt_of_matchToken {start stop : Nat} {type : ST} (matched : parser.matchToken start = some (type, stop)) :
    start < stop := by
  obtain ⟨⟨type', matcher⟩, -, found⟩ := List.exists_of_findSome?_eq_some matched
  obtain ⟨stop', prefix_matched, equal⟩ := Option.map_eq_some_iff.mp found
  cases equal
  exact lt_of_matchAsPrefix prefix_matched

/-- What one round of the lexer can do: nothing is added, or one token that fits the mode. -/
inductive LexStep (state : LexerState) : LexerState → Prop where
  | skip {stop : Nat} (inBraces : state.isString = false) (further : state.startIndex < stop) :
      LexStep state { state with startIndex := stop }
  | string {value : Utf16} {stop : Nat} (inString : state.isString = true) (further : state.startIndex < stop) :
      LexStep state (addToken .string value stop state)
  | brace {type : ST} {value : Utf16} {stop : Nat} {depth : Int} {isString : Bool}
      (braces : type = .openBrace ∨ type = .closeBrace) (toggled : isString = !state.isString)
      (further : state.startIndex < stop) :
      LexStep state { addToken type value stop state with isString := isString, depth := depth }
  | symbol {type : ST} {value : Utf16} {stop : Nat} (inBraces : state.isString = false)
      (terminal : type.isNonterminal = false)
      (other : type ≠ .string ∧ type ≠ .openBrace ∧ type ≠ .closeBrace ∧ type ≠ .empty)
      (further : state.startIndex < stop) : LexStep state (addToken type value stop state)

theorem braceType_eq (unit : UInt16) : braceType unit = .openBrace ∨ braceType unit = .closeBrace := by
  unfold braceType
  split
  · exact Or.inl rfl
  · exact Or.inr rfl

theorem lexBrace_step {state state' : LexerState} (inString : state.isString = true)
    (ran : parser.lexBrace state = .ok state') : LexStep state state' := by
  unfold lexBrace at ran
  split at ran
  · cases ran
  · split at ran
    · dsimp only at ran
      split at ran
      · cases ran
        exact .string inString (Nat.lt_succ_self _)
      · cases ran
        exact .brace (braceType_eq _) (by rw [inString]; rfl) (Nat.lt_succ_self _)
    · cases ran

theorem lexInString_step {state state' : LexerState} (inString : state.isString = true)
    (ran : parser.lexInString state = .ok state') : LexStep state state' := by
  unfold lexInString at ran
  dsimp only at ran
  split at ran
  · split at ran
    · rename_i matched
      cases ran
      exact .string inString (lt_of_matchEscapedString matched)
    · split at ran
      · rename_i matched
        cases ran
        exact .string inString (lt_of_matchAsPrefix matched)
      · exact parser.lexBrace_step inString ran
  · split at ran
    · rename_i matched
      cases ran
      exact .string inString (lt_of_matchAsPrefix matched)
    · exact parser.lexBrace_step inString ran

theorem matchToken_type {start stop : Nat} {type : ST} (matched : parser.matchToken start = some (type, stop)) :
    type ∈ matchers.map Prod.fst := by
  obtain ⟨⟨type', matcher⟩, member, found⟩ := List.exists_of_findSome?_eq_some matched
  obtain ⟨stop', -, equal⟩ := Option.map_eq_some_iff.mp found
  cases equal
  exact List.mem_map_of_mem member

theorem keyword_type {tokenStr : Utf16} {type : ST} (member : type ∈ matchers.map Prod.fst) (visible : type ≠ .empty) :
    (keyword tokenStr type).isNonterminal = false ∧ keyword tokenStr type ≠ .string ∧
      keyword tokenStr type ≠ .openBrace ∧ keyword tokenStr type ≠ .closeBrace ∧ keyword tokenStr type ≠ .empty := by
  unfold keyword
  split
  · decide
  split
  · decide
  split
  · decide
  split
  · decide
  split
  · decide
  simp only [matchers, List.map_cons, List.map_nil, List.mem_cons, List.not_mem_nil, or_false] at member
  rcases member with rfl | rfl | rfl | rfl | rfl | rfl
  · exact absurd rfl visible
  all_goals decide

theorem lexInBraces_step {state state' : LexerState} (inBraces : state.isString = false)
    (ran : parser.lexInBraces state = .ok state') : LexStep state state' := by
  unfold lexInBraces at ran
  dsimp only at ran
  split at ran
  · split at ran
    · cases ran
    · split at ran
      · cases ran
        exact .brace (braceType_eq _) (by rw [inBraces]; rfl) (Nat.lt_succ_self _)
      · cases ran
  · rename_i matched
    have further := parser.lt_of_matchToken matched
    have member := parser.matchToken_type matched
    split at ran
    · cases ran
      exact .skip inBraces further
    · rename_i visible
      obtain ⟨terminal, other⟩ := keyword_type member visible
      split at ran
      · split at ran
        · cases ran
        · cases ran
          exact .symbol inBraces terminal other further
      · split at ran
        · cases ran
          exact .symbol inBraces rfl (by decide) further
        · cases ran
          exact .symbol inBraces terminal other further

theorem lexRound_step {state state' : LexerState} (ran : parser.lexRound state = .ok state') : LexStep state state' := by
  unfold lexRound at ran
  split at ran
  · rename_i inString
    exact parser.lexInString_step inString ran
  · rename_i inBraces
    exact parser.lexInBraces_step (Bool.eq_false_iff.mpr inBraces) ran

theorem LexStep.further {state state' : LexerState} (step : LexStep state state') :
    state.startIndex < state'.startIndex := by
  cases step <;> assumption

/-- The loop of `lexIntoTokens`. -/
def lexFrom (state : LexerState) : Except ParserException (List Node) :=
  if _inside : state.startIndex < parser.messageString.length then
    match _ran : parser.lexRound state with
    | .error error => .error error
    | .ok state' => lexFrom state'
  else .ok state.tokens
termination_by parser.messageString.length - state.startIndex
decreasing_by
  have := (parser.lexRound_step _ran).further
  omega

def lexIntoTokens : Except ParserException (List Node) := parser.lexFrom ⟨[], true, 0, 0⟩

theorem lexFrom_next {state state' : LexerState} (inside : state.startIndex < parser.messageString.length)
    (ran : parser.lexRound state = .ok state') : parser.lexFrom state = parser.lexFrom state' := by
  rw [lexFrom.eq_def, dif_pos inside]
  split
  · rename_i failed
    cases ran.symm.trans failed
  · rename_i ran'
    cases ran.symm.trans ran'
    rfl

theorem lexFrom_end {state : LexerState} (outside : parser.messageString.length ≤ state.startIndex) :
    parser.lexFrom state = .ok state.tokens := by
  rw [lexFrom.eq_def, dif_neg (Nat.not_lt_of_le outside)]

end Parser

end FlutterZero.FlutterTools
