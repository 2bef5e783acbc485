import FlutterZero.FlutterTools.MessageParser.Lexer

/-! # Braces of the relaxed lexer

With placeholders a brace inside a string is a part of the string, unless it opens a placeholder or
closes what was opened.  The lexer knows the second by its depth, which it counts up at every brace
that ends a string, also where this brace closes a part of a plural or select.  So the depth is too
large by two from the end of the first part on, and no brace is literal any more.
-/

namespace FlutterZero.FlutterTools

open FlutterZero.Lib

def RegExp.unit : RegExp → UInt16 → Bool
  | one unit | many unit => unit

/-- Whether the name of a placeholder stands behind a brace. -/
def opensPlaceholder (placeholders : List Utf16) (rest : Utf16) : Bool :=
  let name := (rest.dropWhile whitespace.unit).takeWhile alphanumeric.unit
  !name.isEmpty && placeholders.contains name

/-- Reads the braces with their nesting, which is even in strings and odd elsewhere: whether a literal
    brace is met after the part of a plural or select was closed. -/
def literalAfterPartFrom (placeholders : List Utf16) : Nat → Bool → Utf16 → Bool
  | _, _, [] => false
  | nesting, partClosed, unit :: rest =>
    if nesting % 2 = 0 then
      if unit = 0x7D then
        if nesting = 0 then partClosed || literalAfterPartFrom placeholders nesting partClosed rest
        else literalAfterPartFrom placeholders (nesting - 1) true rest
      else if unit = 0x7B ∧ opensPlaceholder placeholders rest = true then
        literalAfterPartFrom placeholders (nesting + 1) partClosed rest
      else literalAfterPartFrom placeholders nesting partClosed rest
    else
      if unit = 0x7D then literalAfterPartFrom placeholders (nesting - 1) partClosed rest
      else if unit = 0x7B then literalAfterPartFrom placeholders (nesting + 1) partClosed rest
      else literalAfterPartFrom placeholders nesting partClosed rest

def literalAfterPart (placeholders : List Utf16) (message : Utf16) : Bool :=
  literalAfterPartFrom placeholders 0 false message

namespace Parser

variable (parser : Parser)

/-- The states that the loop of `lexIntoTokens` goes through. -/
inductive Visited : LexerState → Prop where
  | start : Visited ⟨[], true, 0, 0⟩
  | next {state state' : LexerState} (before : Visited state)
      (inside : state.startIndex < parser.messageString.length) (ran : parser.lexRound state = .ok state') :
      Visited state'

end Parser

def countOf (type : ST) (tokens : List Node) : Nat := tokens.countP fun token => token.type = type

/-- A closing brace that is met in a string is a part of the string if and only if all braces before it are
    closed. -/
def ConsistentBraces (parser : Parser) : Prop :=
  ∀ state state', parser.Visited state → state.isString = true → parser.messageString[state.startIndex]? = some 0x7D →
    parser.lexRound state = .ok state' →
    (state'.tokens = state.tokens ++ [Node.token .string state.startIndex [0x7D]] ↔
      countOf .openBrace state.tokens = countOf .closeBrace state.tokens)

/-! ## The rounds of the relaxed lexer -/

namespace Parser

variable {message : Utf16} {placeholders : List Utf16} {state state' : LexerState} {stop : Nat}

theorem split_of_matchAsPrefix {matcher : RegExp} {start : Nat}
    (matched : matcher.matchAsPrefix message start = some stop) :
    ∃ text, message.drop start = text ++ message.drop stop ∧ ∀ unit ∈ text, matcher.unit unit = true := by
  cases matcher with
  | one unit =>
    rw [RegExp.matchAsPrefix] at matched
    split at matched
    · rename_i first
      cases matched
      cases here : message[start]? with
      | none =>
        rw [here] at first
        cases first
      | some found =>
        obtain ⟨inside, rfl⟩ := List.getElem?_eq_some_iff.mp here
        rw [here] at first
        exact ⟨[message[start]], List.drop_eq_getElem_cons inside, List.forall_mem_singleton.mpr first⟩
    · cases matched
  | many unit =>
    rw [RegExp.matchAsPrefix] at matched
    split at matched
    · cases matched
      refine ⟨(message.drop start).takeWhile unit, ?_, fun unit member => List.mem_takeWhile_imp member⟩
      rw [← List.drop_drop]
      exact (List.prefix_iff_eq_append.mp (List.takeWhile_prefix unit)).symm
    · cases matched

theorem matchers_noBrace :
    ∀ matcher ∈ matchers.map Prod.snd, matcher.unit 0x7B = false ∧ matcher.unit 0x7D = false := by
  decide

theorem split_of_matchToken {parser : Parser} {start : Nat} {type : ST}
    (matched : parser.matchToken start = some (type, stop)) :
    ∃ text, parser.messageString.drop start = text ++ parser.messageString.drop stop ∧
      ∀ unit ∈ text, isBrace unit = false := by
  obtain ⟨⟨type', matcher⟩, member, found⟩ := List.exists_of_findSome?_eq_some matched
  obtain ⟨stop', prefix_matched, equal⟩ := Option.map_eq_some_iff.mp found
  cases equal
  obtain ⟨text, split, plain⟩ := split_of_matchAsPrefix prefix_matched
  obtain ⟨openBrace, closeBrace⟩ := matchers_noBrace matcher (List.mem_map_of_mem member)
  refine ⟨text, split, fun unit inText => ?_⟩
  have holds := plain unit inText
  by_contra brace
  obtain rfl | rfl : unit = 0x7B ∨ unit = 0x7D := by
    rw [Bool.not_eq_false, isBrace, Bool.or_eq_true, beq_iff_eq, beq_iff_eq] at brace
    exact brace
  · cases holds.symm.trans openBrace
  · cases holds.symm.trans closeBrace

structure Passed (message : Utf16) (state state' : LexerState) : Prop where
  sameMode : state'.isString = state.isString
  sameDepth : state'.depth = state.depth
  sameCounts : ∀ type, type = .openBrace ∨ type = .closeBrace → countOf type state'.tokens = countOf type state.tokens
  split : ∃ text, message.drop state.startIndex = text ++ message.drop state'.startIndex ∧
    ∀ unit ∈ text, isBrace unit = false

theorem countOf_addToken (type added : ST) (value : Utf16) (stop : Nat) :
    countOf type (addToken added value stop state).tokens =
      countOf type state.tokens + if added = type then 1 else 0 := by
  have one : countOf type [Node.token added state.startIndex value] = if added = type then 1 else 0 := by
    simp [countOf, Node.token, List.countP_singleton]
  rw [← one]
  exact List.countP_append

inductive BraceStep (parser : Parser) (unit : UInt16) (state : LexerState) : LexerState → Prop where
  | literal (inString : state.isString = true) (isLiteral : parser.isStringBrace unit state = true) :
      BraceStep parser unit state (addToken .string [unit] (state.startIndex + 1) state)
  | leave (inString : state.isString = true) (special : parser.isStringBrace unit state = false) :
      BraceStep parser unit state
        { addToken (braceType unit) [unit] (state.startIndex + 1) state with
          isString := false
          depth := state.depth + 1 }
  | enter (inBraces : state.isString = false) :
      BraceStep parser unit state
        { addToken (braceType unit) [unit] (state.startIndex + 1) state with
          isString := true
          depth := if unit = 0x7B then state.depth + 1 else state.depth - 1 }

theorem passed_addToken {type : ST} {value : Utf16} (other : type ≠ .openBrace ∧ type ≠ .closeBrace)
    (split : ∃ text, message.drop state.startIndex = text ++ message.drop stop ∧ ∀ unit ∈ text, isBrace unit = false) :
    Passed message state (addToken type value stop state) := by
  refine ⟨rfl, rfl, fun brace isBrace => ?_, split⟩
  have differs : type ≠ brace := by
    rintro rfl
    exact isBrace.elim other.1 other.2
  rw [countOf_addToken, if_neg differs, Nat.add_zero]

theorem lexRound_cases (ran : lexRound ⟨message, false, some placeholders⟩ state = .ok state') :
    Passed message state state' ∨ ∃ unit, message[state.startIndex]? = some unit ∧ isBrace unit = true ∧
      BraceStep ⟨message, false, some placeholders⟩ unit state state' := by
  unfold lexRound at ran
  split at ran
  · rename_i inString
    unfold lexInString at ran
    dsimp only at ran
    rw [if_neg Bool.false_ne_true] at ran
    split at ran
    · rename_i stop matched
      cases ran
      obtain ⟨text, split, plain⟩ := split_of_matchAsPrefix matched
      refine .inl (passed_addToken (by decide) ⟨text, split, fun unit member => ?_⟩)
      simpa [normalString, RegExp.unit] using plain unit member
    · unfold lexBrace at ran
      split at ran
      · cases ran
      · rename_i unit here
        split at ran
        · rename_i brace
          dsimp only at ran
          split at ran
          · rename_i isLiteral
            cases ran
            exact .inr ⟨unit, here, brace, .literal inString isLiteral⟩
          · rename_i special
            cases ran
            exact .inr ⟨unit, here, brace, .leave inString (Bool.eq_false_iff.mpr special)⟩
        · cases ran
  · rename_i inBraces
    unfold lexInBraces at ran
    dsimp only at ran
    split at ran
    · split at ran
      · cases ran
      · rename_i unit here
        split at ran
        · rename_i brace
          cases ran
          exact .inr ⟨unit, here, brace, .enter (Bool.eq_false_iff.mpr inBraces)⟩
        · cases ran
    · rename_i matchedType stop matched
      obtain ⟨text, split, plain⟩ := split_of_matchToken matched
      have member := matchToken_type _ matched
      split at ran
      · cases ran
        exact .inl ⟨rfl, rfl, fun _ _ => rfl, text, split, plain⟩
      · rename_i visible
        have keyword_other (tokenStr : Utf16) : keyword tokenStr matchedType ≠ .openBrace ∧
            keyword tokenStr matchedType ≠ .closeBrace ∧ keyword tokenStr matchedType ≠ .empty :=
          (keyword_type member visible).2.2
        split at ran
        · split at ran
          · cases ran
          · cases ran
            exact .inl (passed_addToken ⟨(keyword_other _).1, (keyword_other _).2.1⟩ ⟨text, split, plain⟩)
        · split at ran
          · cases ran
            exact .inl (passed_addToken (by decide) ⟨text, split, plain⟩)
          · cases ran
            exact .inl (passed_addToken ⟨(keyword_other _).1, (keyword_other _).2.1⟩ ⟨text, split, plain⟩)

theorem isStringBrace_close (state : LexerState) :
    isStringBrace ⟨message, false, some placeholders⟩ 0x7D state = decide (state.depth = 0) := by
  have other : ((0x7D : UInt16) == 0x7B) = false := by decide
  have same : ((0x7D : UInt16) == 0x7D) = true := by decide
  simp only [isStringBrace, other, same, Bool.false_and, Bool.or_false, Bool.true_and]
  exact beq_eq_decide ..

theorem drop_getD_matchAsPrefix (unit : UInt16 → Bool) (message : Utf16) (start : Nat) :
    message.drop (((RegExp.many unit).matchAsPrefix message start).getD start) =
      (message.drop start).dropWhile unit := by
  have behind : (message.drop start).drop ((message.drop start).takeWhile unit).length =
      (message.drop start).dropWhile unit := by
    have whole := List.prefix_iff_eq_append.mp (List.takeWhile_prefix unit (l := message.drop start))
    exact List.append_cancel_left (whole.trans List.takeWhile_append_dropWhile.symm)
  rw [← behind, List.drop_drop, RegExp.matchAsPrefix]
  split
  · rfl
  · rename_i empty
    rw [Nat.eq_zero_of_not_pos empty]
    rfl

theorem isStringBrace_open (state : LexerState) :
    isStringBrace ⟨message, false, some placeholders⟩ 0x7B state =
      !opensPlaceholder placeholders (message.drop (state.startIndex + 1)) := by
  have other : ((0x7B : UInt16) == 0x7D) = false := by decide
  have same : ((0x7B : UInt16) == 0x7B) = true := by decide
  have behind : message.drop ((whitespace.matchAsPrefix message (state.startIndex + 1)).getD (state.startIndex + 1)) =
      (message.drop (state.startIndex + 1)).dropWhile whitespace.unit := drop_getD_matchAsPrefix ..
  simp only [isStringBrace, other, same, Bool.false_and, Bool.false_or, Bool.true_and, opensPlaceholder, ← behind]
  generalize (whitespace.matchAsPrefix message (state.startIndex + 1)).getD (state.startIndex + 1) = start
  have name : alphanumeric.matchAsPrefix message start =
      if 0 < ((message.drop start).takeWhile alphanumeric.unit).length then
        some (start + ((message.drop start).takeWhile alphanumeric.unit).length) else none := rfl
  have taken : substring message start (start + ((message.drop start).takeWhile alphanumeric.unit).length) =
      (message.drop start).takeWhile alphanumeric.unit := by
    rw [substring, Nat.add_sub_cancel_left]
    exact (List.prefix_iff_eq_take.mp (List.takeWhile_prefix _)).symm
  rw [name]
  cases empty : (message.drop start).takeWhile alphanumeric.unit with
  | nil => simp
  | cons first rest =>
    rw [empty] at taken
    rw [if_pos (by simp)]
    simp only [taken, List.isEmpty_cons, Bool.not_false, Bool.true_and]

/-! ## The nesting -/

/-- The nesting of a state, and how many parts of plurals and selects were closed before. -/
structure Nested (message : Utf16) (placeholders : List Utf16) (state : LexerState) (nesting closed : Nat) : Prop where
  mode : state.isString = decide (nesting % 2 = 0)
  depth : state.depth = nesting + 2 * closed
  counts : countOf .openBrace state.tokens = countOf .closeBrace state.tokens + nesting
  later : literalAfterPart placeholders message =
    literalAfterPartFrom placeholders nesting (decide (0 < closed)) (message.drop state.startIndex)

variable {nesting : Nat}

theorem literalAfterPartFrom_append {partClosed : Bool} {text rest : Utf16}
    (plain : ∀ unit ∈ text, isBrace unit = false) :
    literalAfterPartFrom placeholders nesting partClosed (text ++ rest) =
      literalAfterPartFrom placeholders nesting partClosed rest := by
  induction text with
  | nil => rfl
  | cons unit text ih =>
    rw [List.forall_mem_cons, isBrace, Bool.or_eq_false_iff, beq_eq_false_iff_ne, beq_eq_false_iff_ne] at plain
    have noPlaceholder (rest : Utf16) : ¬ (unit = 0x7B ∧ opensPlaceholder placeholders rest = true) :=
      fun opens => plain.1.1 opens.1
    rw [List.cons_append, literalAfterPartFrom]
    simp only [if_neg plain.1.2, if_neg plain.1.1, if_neg (noPlaceholder _), ite_self]
    exact ih plain.2

theorem counts_open
    (counts : countOf .openBrace state.tokens = countOf .closeBrace state.tokens + nesting) (value : Utf16)
    (stop : Nat) : countOf .openBrace (addToken (braceType 0x7B) value stop state).tokens =
      countOf .closeBrace (addToken (braceType 0x7B) value stop state).tokens + (nesting + 1) := by
  rw [countOf_addToken, countOf_addToken, if_pos (by decide), if_neg (by decide), counts]
  rfl

theorem counts_close
    (counts : countOf .openBrace state.tokens = countOf .closeBrace state.tokens + nesting) (positive : nesting ≠ 0)
    (value : Utf16) (stop : Nat) : countOf .openBrace (addToken (braceType 0x7D) value stop state).tokens =
      countOf .closeBrace (addToken (braceType 0x7D) value stop state).tokens + (nesting - 1) := by
  rw [countOf_addToken, countOf_addToken, if_neg (by decide), if_pos (by decide), counts]
  omega

variable {closed : Nat}

theorem literalAfterPart_of_nested (nested : Nested message placeholders state 0 closed)
    (positive : 0 < closed) (here : message[state.startIndex]? = some 0x7D) :
    literalAfterPart placeholders message = true := by
  obtain ⟨inside, unit⟩ := List.getElem?_eq_some_iff.mp here
  rw [nested.later, List.drop_eq_getElem_cons inside, unit, literalAfterPartFrom, if_pos rfl, if_pos rfl, if_pos rfl,
    decide_eq_true positive, Bool.true_or]

theorem nested_lexRound (nested : Nested message placeholders state nesting closed)
    (ran : lexRound ⟨message, false, some placeholders⟩ state = .ok state') :
    (literalAfterPart placeholders message = true ∧ state.isString = true ∧
      message[state.startIndex]? = some 0x7D ∧ nesting = 0 ∧ 0 < closed) ∨
      ∃ nesting' closed', Nested message placeholders state' nesting' closed' := by
  obtain passed | ⟨unit, here, brace, step⟩ := lexRound_cases ran
  · obtain ⟨text, split, plain⟩ := passed.split
    refine .inr ⟨nesting, closed, passed.sameMode.trans nested.mode, passed.sameDepth.trans nested.depth, ?_, ?_⟩
    · rw [passed.sameCounts _ (.inl rfl), passed.sameCounts _ (.inr rfl)]
      exact nested.counts
    · rw [nested.later, split, literalAfterPartFrom_append plain]
  · obtain ⟨inside, rfl⟩ := List.getElem?_eq_some_iff.mp here
    have later := nested.later
    rw [List.drop_eq_getElem_cons inside] at later
    generalize message[state.startIndex] = unit at *
    obtain rfl | rfl : unit = 0x7B ∨ unit = 0x7D := by
      rw [isBrace, Bool.or_eq_true, beq_iff_eq, beq_iff_eq] at brace
      exact brace
    · cases step with
      | literal inString isLiteral =>
        have even : nesting % 2 = 0 := of_decide_eq_true (nested.mode.symm.trans inString)
        rw [isStringBrace_open, Bool.not_eq_true'] at isLiteral
        refine .inr ⟨nesting, closed, nested.mode, nested.depth, ?_, ?_⟩
        · rw [countOf_addToken, countOf_addToken, if_neg (by decide), if_neg (by decide)]
          exact nested.counts
        · rw [later, literalAfterPartFrom, if_pos even]
          simp [isLiteral, addToken]
      | leave inString special =>
        have even : nesting % 2 = 0 := of_decide_eq_true (nested.mode.symm.trans inString)
        rw [isStringBrace_open, Bool.not_eq_false'] at special
        refine .inr ⟨nesting + 1, closed, ?_, ?_, ?_, ?_⟩
        · exact (decide_eq_false (by omega)).symm
        · rw [nested.depth, Nat.cast_succ, Int.add_right_comm]
        · exact counts_open nested.counts [0x7B] (state.startIndex + 1)
        · rw [later, literalAfterPartFrom, if_pos even]
          simp [special, addToken]
      | enter inBraces =>
        have odd : nesting % 2 ≠ 0 := of_decide_eq_false (nested.mode.symm.trans inBraces)
        refine .inr ⟨nesting + 1, closed, ?_, ?_, ?_, ?_⟩
        · exact (decide_eq_true (by omega)).symm
        · rw [if_pos rfl, nested.depth, Nat.cast_succ, Int.add_right_comm]
        · exact counts_open nested.counts [0x7B] (state.startIndex + 1)
        · rw [later, literalAfterPartFrom, if_neg odd]
          simp [addToken]
    · cases step with
      | literal inString isLiteral =>
        rw [isStringBrace_close, decide_eq_true_eq, nested.depth] at isLiteral
        obtain ⟨rfl, rfl⟩ : nesting = 0 ∧ closed = 0 := by omega
        refine .inr ⟨0, 0, nested.mode, nested.depth, ?_, ?_⟩
        · rw [countOf_addToken, countOf_addToken, if_neg (by decide), if_neg (by decide)]
          exact nested.counts
        · rw [later, literalAfterPartFrom]
          simp [addToken]
      | leave inString special =>
        have even : nesting % 2 = 0 := of_decide_eq_true (nested.mode.symm.trans inString)
        rw [isStringBrace_close, decide_eq_false_iff_not, nested.depth] at special
        by_cases zero : nesting = 0
        · -- the depth is that of the parts that were closed
          subst zero
          have positive : 0 < closed := by omega
          exact .inl ⟨literalAfterPart_of_nested nested positive here, inString, here, rfl, positive⟩
        · refine .inr ⟨nesting - 1, closed + 1, ?_, ?_, ?_, ?_⟩
          · exact (decide_eq_false (by omega)).symm
          · dsimp only
            rw [nested.depth]
            omega
          · exact counts_close nested.counts zero [0x7D] (state.startIndex + 1)
          · rw [later, literalAfterPartFrom, if_pos even]
            simp [zero, addToken]
      | enter inBraces =>
        have odd : nesting % 2 ≠ 0 := of_decide_eq_false (nested.mode.symm.trans inBraces)
        refine .inr ⟨nesting - 1, closed, ?_, ?_, ?_, ?_⟩
        · exact (decide_eq_true (by omega)).symm
        · dsimp only
          rw [if_neg (by decide), nested.depth]
          omega
        · exact counts_close nested.counts (by omega) [0x7D] (state.startIndex + 1)
        · rw [later, literalAfterPartFrom, if_neg odd]
          simp [addToken]

theorem nested_start : Nested message placeholders ⟨[], true, 0, 0⟩ 0 0 := ⟨rfl, rfl, rfl, rfl⟩

theorem nested_visited (never : literalAfterPart placeholders message = false)
    (visited : Visited ⟨message, false, some placeholders⟩ state) :
    ∃ nesting closed, Nested message placeholders state nesting closed := by
  induction visited with
  | start => exact ⟨0, 0, nested_start⟩
  | next before inside ran ih =>
    obtain ⟨nesting, closed, nested⟩ := ih
    obtain ⟨met, -⟩ | next := nested_lexRound nested ran
    · cases never.symm.trans met
    · exact next

theorem literal_iff (nested : Nested message placeholders state nesting closed)
    (inString : state.isString = true) (here : message[state.startIndex]? = some 0x7D)
    (ran : lexRound ⟨message, false, some placeholders⟩ state = .ok state') :
    state'.tokens = state.tokens ++ [Node.token .string state.startIndex [0x7D]] ↔ nesting = 0 ∧ closed = 0 := by
  obtain passed | ⟨unit, here', brace, step⟩ := lexRound_cases ran
  · -- a round that meets no brace does not begin with one
    obtain ⟨text, split, plain⟩ := passed.split
    obtain ⟨inside, unit⟩ := List.getElem?_eq_some_iff.mp here
    have further := (lexRound_step _ ran).further
    cases text with
    | nil =>
      have lengths := congrArg List.length split
      rw [List.nil_append, List.length_drop, List.length_drop] at lengths
      omega
    | cons first text =>
      rw [List.drop_eq_getElem_cons inside, List.cons_append, unit] at split
      have closing := plain first List.mem_cons_self
      rw [← (List.cons.inj split).1] at closing
      cases closing
  · cases here.symm.trans here'
    cases step with
    | literal _ isLiteral =>
      rw [isStringBrace_close, decide_eq_true_eq, nested.depth] at isLiteral
      exact iff_of_true rfl (by omega)
    | leave _ special =>
      rw [isStringBrace_close, decide_eq_false_iff_not, nested.depth] at special
      refine iff_of_false (fun same => ?_) (by omega)
      have token := List.append_cancel_left same
      cases token
    | enter inBraces => cases inString.symm.trans inBraces

theorem not_consistent_of_literal {tokens : List Node} (literal : literalAfterPart placeholders message = true)
    (consistent : ConsistentBraces ⟨message, false, some placeholders⟩)
    (visited : Visited ⟨message, false, some placeholders⟩ state)
    (nested : Nested message placeholders state nesting closed) :
    lexFrom ⟨message, false, some placeholders⟩ state ≠ .ok tokens := by
  fun_induction lexFrom ⟨message, false, some placeholders⟩ state generalizing nesting closed with
  | case1 state inside error failed => nofun
  | case2 state inside state' ran ih =>
    obtain ⟨-, inString, here, rfl, positive⟩ | ⟨nesting', closed', nested'⟩ := nested_lexRound nested ran
    · have isString := (consistent state state' visited inString here ran).mpr nested.counts
      have never := ((literal_iff nested inString here ran).mp isString).2
      omega
    · exact ih (.next visited inside ran) nested'
  | case3 state outside =>
    have later := nested.later
    rw [literal, List.drop_of_length_le (not_lt.mp outside)] at later
    cases later

end Parser

/-- Where the lexer returns, its braces are consistent if and only if no literal brace follows a part of a plural
    or select that was closed. -/
theorem consistentBraces_iff {message : Utf16} {placeholders : List Utf16} {tokens : List Node}
    (returns : Parser.lexIntoTokens ⟨message, false, some placeholders⟩ = .ok tokens) :
    ConsistentBraces ⟨message, false, some placeholders⟩ ↔ literalAfterPart placeholders message = false := by
  constructor
  · intro consistent
    by_contra literal
    rw [Bool.not_eq_false] at literal
    exact Parser.not_consistent_of_literal literal consistent .start Parser.nested_start returns
  · intro never state state' visited inString here ran
    obtain ⟨nesting, closed, nested⟩ := Parser.nested_visited never visited
    rw [Parser.literal_iff nested inString here ran, nested.counts]
    constructor
    · exact fun none_open => by rw [none_open.1, Nat.add_zero]
    · intro balanced
      obtain rfl : nesting = 0 := by omega
      refine ⟨rfl, ?_⟩
      by_contra positive
      cases never.symm.trans (Parser.literalAfterPart_of_nested nested (Nat.pos_of_ne_zero positive) here)

/-- `{x}}` -/
theorem consistentBraces_iff_placeholder :
    ∃ tokens, Parser.lexIntoTokens ⟨text "\x7bx\x7d\x7d", false, some [text "x"]⟩ = .ok tokens ∧
      (ConsistentBraces ⟨text "\x7bx\x7d\x7d", false, some [text "x"]⟩ ↔
        literalAfterPart [text "x"] (text "\x7bx\x7d\x7d") = false) := by
  have returns : Parser.lexIntoTokens ⟨text "\x7bx\x7d\x7d", false, some [text "x"]⟩ =
      .ok [Node.token .openBrace 0 (text "\x7b"), Node.token .identifier 1 (text "x"),
        Node.token .closeBrace 2 (text "\x7d"), Node.token .string 3 (text "\x7d")] := by
    rw [Parser.lexIntoTokens, Parser.lexFrom_next _ (by decide) rfl, Parser.lexFrom_next _ (by decide) rfl,
      Parser.lexFrom_next _ (by decide) rfl, Parser.lexFrom_next _ (by decide) rfl, Parser.lexFrom_end _ (by decide)]
    rfl
  exact ⟨_, returns, consistentBraces_iff returns⟩

/-- `{x,plural,other{a}}}`: the last brace is not a part of the string. -/
theorem not_consistentBraces_after_plural :
    (∃ tokens, Parser.lexIntoTokens ⟨text "\x7bx,plural,other\x7ba\x7d\x7d\x7d", false, some [text "x"]⟩ = .ok tokens) ∧
      ¬ ConsistentBraces ⟨text "\x7bx,plural,other\x7ba\x7d\x7d\x7d", false, some [text "x"]⟩ := by
  obtain ⟨tokens, returns⟩ : ∃ tokens,
      Parser.lexIntoTokens ⟨text "\x7bx,plural,other\x7ba\x7d\x7d\x7d", false, some [text "x"]⟩ = .ok tokens := by
    rw [Parser.lexIntoTokens, Parser.lexFrom_next _ (by decide) rfl, Parser.lexFrom_next _ (by decide) rfl,
      Parser.lexFrom_next _ (by decide) rfl, Parser.lexFrom_next _ (by decide) rfl,
      Parser.lexFrom_next _ (by decide) rfl, Parser.lexFrom_next _ (by decide) rfl,
      Parser.lexFrom_next _ (by decide) rfl, Parser.lexFrom_next _ (by decide) rfl,
      Parser.lexFrom_next _ (by decide) rfl, Parser.lexFrom_next _ (by decide) rfl,
      Parser.lexFrom_next _ (by decide) rfl, Parser.lexFrom_end _ (by decide)]
    exact ⟨_, rfl⟩
  have literal : literalAfterPart [text "x"] (text "\x7bx,plural,other\x7ba\x7d\x7d\x7d") = true := by decide
  exact ⟨⟨tokens, returns⟩, fun consistent =>
    Parser.not_consistent_of_literal literal consistent .start Parser.nested_start returns⟩

end FlutterZero.FlutterTools
