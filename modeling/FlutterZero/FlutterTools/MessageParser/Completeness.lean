import FlutterZero.FlutterTools.MessageParser.Derivation

/-! # The message parser reads every derivation

The parser decides on a rule from the next four tokens.  That these decide is due
to the lexer: strings only stand outside of braces, everything else inside, and a
brace changes from one to the other.  So a message is read where the lexer is in a
string, and the parts of a plural or select where it is not.
-/

namespace FlutterZero.FlutterTools

open FlutterZero.Lib

/-! ## Modes -/

/-- Whether the lexer is in a string after a symbol, if the symbol can stand there. -/
def modeAfter (isString : Bool) : ST → Option Bool
  | .openBrace | .closeBrace => some !isString
  | .empty => some isString
  | .string | .message | .placeholderExpr | .argumentExpr | .pluralExpr | .selectExpr =>
    if isString then some true else none
  | _ => if isString then none else some false

def modeAfterAll (isString : Bool) (symbols : List ST) : Option Bool := symbols.foldlM modeAfter isString

theorem modeAfterAll_cons (isString : Bool) (symbol : ST) (symbols : List ST) :
    modeAfterAll isString (symbol :: symbols) = (modeAfter isString symbol).bind (modeAfterAll · symbols) :=
  List.foldlM_cons

theorem modeAfterAll_append (isString : Bool) (symbols symbols' : List ST) :
    modeAfterAll isString (symbols ++ symbols') =
      (modeAfterAll isString symbols).bind (modeAfterAll · symbols') :=
  List.foldlM_append

def Modal (isString : Bool) (tokens : List Node) : Prop := (modeAfterAll isString (tokens.map Node.type)).isSome = true

variable {isString mode : Bool} {tokens rest : List Node}

theorem Modal.of_append (modal : Modal isString (tokens ++ rest))
    (after : modeAfterAll isString (tokens.map Node.type) = some mode) : Modal mode rest := by
  unfold Modal at modal ⊢
  rwa [List.map_append, modeAfterAll_append, after, Option.bind_some] at modal

theorem Modal.cons {token : Node} (modal : Modal isString (token :: tokens)) :
    ∃ mode, modeAfter isString token.type = some mode ∧ Modal mode tokens := by
  unfold Modal at modal
  rw [List.map_cons, modeAfterAll_cons] at modal
  cases after : modeAfter isString token.type with
  | none => rw [after] at modal; cases modal
  | some mode =>
    rw [after] at modal
    exact ⟨mode, rfl, modal⟩

/-! ## What the lexer gives -/

structure LexedTo (tokens : List Node) (isString : Bool) : Prop where
  mode : modeAfterAll true (tokens.map Node.type) = some isString
  childless : ∀ token ∈ tokens, token.children = []

variable {state : LexerState} {type : ST}

theorem LexedTo.addToken (lexed : LexedTo state.tokens state.isString)
    (after : modeAfter state.isString type = some isString) (value : Utf16) (stop : Nat) :
    LexedTo (Parser.addToken type value stop state).tokens isString := by
  constructor
  · rw [Parser.addToken, List.map_append, modeAfterAll_append, lexed.mode, Option.bind_some, List.map_singleton,
      modeAfterAll_cons]
    show (modeAfter state.isString type).bind _ = _
    rw [after]
    rfl
  · intro token member
    rcases List.mem_append.mp member with before | last
    · exact lexed.childless token before
    · rw [List.mem_singleton.mp last]
      rfl

theorem modeAfter_symbol (terminal : type.isNonterminal = false)
    (other : type ≠ .string ∧ type ≠ .openBrace ∧ type ≠ .closeBrace ∧ type ≠ .empty) :
    modeAfter false type = some false := by
  revert terminal other
  cases type <;> decide

theorem LexedTo.step {state' : LexerState} (lexed : LexedTo state.tokens state.isString)
    (step : Parser.LexStep state state') : LexedTo state'.tokens state'.isString := by
  cases step with
  | skip => exact lexed
  | string inString =>
    refine lexed.addToken ?_ _ _
    rw [inString]
    exact (congrArg some inString).symm
  | @brace type value stop depth isString braces toggled further =>
    have after : modeAfter state.isString type = some isString := by
      rcases braces with rfl | rfl <;> exact congrArg some toggled.symm
    exact lexed.addToken after value stop
  | symbol inBraces terminal other =>
    refine lexed.addToken ?_ _ _
    rw [inBraces, modeAfter_symbol terminal other]
    exact (congrArg some inBraces).symm

theorem lexedTo_of_lexFrom (parser : Parser)
    (lexed : LexedTo state.tokens state.isString) (ran : parser.lexFrom state = .ok tokens) :
    ∃ isString, LexedTo tokens isString := by
  fun_induction parser.lexFrom state with
  | case1 => cases ran
  | case2 state inside state' stepped ih => exact ih (lexed.step (parser.lexRound_step stepped)) ran
  | case3 state =>
    cases ran
    exact ⟨state.isString, lexed⟩

theorem modal_of_lexIntoTokens {parser : Parser} (lexed : parser.lexIntoTokens = .ok tokens) :
    Modal true tokens ∧ ∀ token ∈ tokens, token.children = [] := by
  obtain ⟨isString, lexed⟩ := lexedTo_of_lexFrom parser ⟨rfl, by simp⟩ lexed
  exact ⟨by rw [Modal, lexed.mode]; rfl, lexed.childless⟩

/-! ## Which rule is chosen -/

def ST.isList : ST → Bool
  | .message | .pluralParts | .selectParts => true
  | _ => false

def Follows (symbol : ST) (rest : List Node) : Prop :=
  match symbol with
  | .message => rest = [] ∨ Parser.typeAt rest 0 = some .closeBrace
  | .pluralParts | .selectParts => Parser.typeAt rest 0 = some .closeBrace
  | _ => True

/-- In a rule such a symbol stands at the end or before a close brace. -/
def FollowsAll : List ST → List Node → Prop
  | [], _ => True
  | [symbol], rest => Follows symbol rest
  | symbol :: next :: symbols, rest => (symbol.isList = true → next = .closeBrace) ∧ FollowsAll (next :: symbols) rest

theorem follows_of_closeBrace (symbol : ST) (close : Parser.typeAt rest 0 = some .closeBrace) :
    Follows symbol rest := by
  unfold Follows
  split
  · exact Or.inr close
  · exact close
  · exact close
  · trivial

variable {symbol : ST}

theorem follows_of_not_isList (other : symbol.isList = false) (rest : List Node) : Follows symbol rest := by
  cases symbol <;> trivial

theorem followsAll_rule {rule : List ST} (member : rule ∈ grammar symbol)
    (follows : Follows symbol rest) : FollowsAll rule rest := by
  cases symbol <;> simp only [grammar, List.mem_cons, List.not_mem_nil, or_false] at member
  case message =>
    rcases member with rfl | rfl | rfl | rfl | rfl | rfl <;> simp [FollowsAll, ST.isList, follows]
    trivial
  case pluralParts => rcases member with rfl | rfl <;> simp [FollowsAll, ST.isList, follows]; trivial
  case selectParts => rcases member with rfl | rfl <;> simp [FollowsAll, ST.isList, follows]; trivial
  case pluralPart => rcases member with rfl | rfl | rfl <;> simp [FollowsAll, ST.isList, Follows]
  case selectPart => rcases member with rfl | rfl | rfl <;> simp [FollowsAll, ST.isList, Follows]
  case selectExpr => rcases member with rfl | rfl <;> simp [FollowsAll, ST.isList, Follows]
  case argType => rcases member with rfl | rfl <;> simp [FollowsAll, Follows]
  all_goals
    cases member
    simp [FollowsAll, ST.isList, Follows]

variable {types : List ST}

theorem typeAt_of_map_eq (same : tokens.map Node.type = type :: types) (rest : List Node) :
    Parser.typeAt (tokens ++ rest) 0 = some type := by
  obtain ⟨token, tokens, rfl, first, -⟩ := List.map_eq_cons_iff.mp same
  rw [← first]
  rfl

variable {children : List SyntaxTree}

theorem typeAt_yieldAll (terminal : type.kind = .terminal)
    (ok : ParseTree.validAll icuGrammar Node.type children = true)
    (roots : children.map (ParseTree.symbol Node.type) = type :: types) (rest : List Node) :
    Parser.typeAt (ParseTree.yieldAll children ++ rest) 0 = some type := by
  obtain ⟨tokens, others, yields, same, -⟩ := ParseTree.yieldAll_of_terminals
    (fun symbol member => List.mem_singleton.mp member ▸ terminal : ∀ symbol ∈ [type], icuGrammar.kind symbol = .terminal)
    ok roots
  rw [yields, List.append_assoc]
  exact typeAt_of_map_eq same _

theorem typeAt_part {tree : SyntaxTree} (nonterminal : symbol.kind = .nonterminal)
    (ok : tree.valid icuGrammar Node.type = true) (root : tree.symbol Node.type = symbol)
    (starts : ∀ rule ∈ grammar symbol, ∃ type types, rule = type :: types ∧ type.kind = .terminal) (rest : List Node) :
    ∃ type types, type :: types ∈ grammar symbol ∧ Parser.typeAt (tree.yield ++ rest) 0 = some type := by
  obtain ⟨children, rfl, member, ok⟩ := ParseTree.eq_node_of_valid nonterminal ok root
  obtain ⟨type, types, rule, terminal⟩ := starts _ member
  rw [rule] at member
  exact ⟨type, types, member, typeAt_yieldAll terminal ok rule rest⟩

theorem chooseRule_openBrace {a b c : Node} (opens : a.type = .openBrace) (tail : List Node) :
    Parser.chooseRule .message (a :: b :: c :: tail) =
      if Parser.typeAt tail 0 = some .plural then .ok 2
      else if Parser.typeAt tail 0 = some .select then .ok 3
      else if Parser.typeAt tail 0 = some .date ∨ Parser.typeAt tail 0 = some .time then .ok 4
      else .ok 1 := by
  simp [Parser.chooseRule, Parser.typeAt, opens]

theorem Modal.typeAt_ne (modal : Modal true tokens)
    (inside : modeAfter true type = none) : Parser.typeAt tokens 0 ≠ some type := by
  cases tokens with
  | nil => simp [Parser.typeAt]
  | cons token tokens =>
    obtain ⟨mode, after, -⟩ := modal.cons
    intro same
    obtain rfl : token.type = type := Option.some.inj same
    rw [inside] at after
    cases after

theorem exists_three {x y z : ST} (same : tokens.map Node.type = [x, y, z]) :
    ∃ a b c, tokens = [a, b, c] ∧ a.type = x ∧ b.type = y ∧ c.type = z := by
  obtain ⟨a, tokens, rfl, first, same⟩ := List.map_eq_cons_iff.mp same
  obtain ⟨b, tokens, rfl, second, same⟩ := List.map_eq_cons_iff.mp same
  obtain ⟨c, tokens, rfl, third, same⟩ := List.map_eq_cons_iff.mp same
  obtain rfl := List.map_eq_nil_iff.mp same
  exact ⟨a, b, c, rfl, first, second, third⟩

theorem exists_yieldAll_three {x y z : ST} (terminal : ∀ type ∈ [x, y, z], icuGrammar.kind type = .terminal)
    (ok : ParseTree.validAll icuGrammar Node.type children = true)
    (roots : children.map (ParseTree.symbol Node.type) = [x, y, z] ++ types) :
    ∃ a b c others, ParseTree.yieldAll children = a :: b :: c :: ParseTree.yieldAll others ∧ a.type = x ∧
      b.type = y ∧ c.type = z ∧ others.map (ParseTree.symbol Node.type) = types ∧
        ParseTree.validAll icuGrammar Node.type others = true := by
  obtain ⟨tokens, others, yields, same, others_roots, others_ok⟩ :=
    ParseTree.yieldAll_of_terminals terminal ok roots
  obtain ⟨a, b, c, rfl, first, second, third⟩ := exists_three same
  exact ⟨a, b, c, others, yields, first, second, third, others_roots, others_ok⟩

theorem chosenRule_expr (ruleIndex : Nat) {expr : ST} {x y z : ST}
    (opens : x = .openBrace) (terminal : ∀ type ∈ [x, y, z], icuGrammar.kind type = .terminal)
    (ok : ParseTree.validAll icuGrammar Node.type children = true)
    (roots : children.map (ParseTree.symbol Node.type) = [x, y, z] ++ types)
    (indexed : (grammar .message).getD ruleIndex [] = [expr, .message])
    (chooses : ∀ a b c others, a.type = x → b.type = y → c.type = z →
      others.map (ParseTree.symbol Node.type) = types → ParseTree.validAll icuGrammar Node.type others = true →
      ParseTree.yieldAll children = a :: b :: c :: ParseTree.yieldAll others →
      (if Parser.typeAt (ParseTree.yieldAll others ++ rest) 0 = some .plural then .ok 2
      else if Parser.typeAt (ParseTree.yieldAll others ++ rest) 0 = some .select then .ok 3
      else if Parser.typeAt (ParseTree.yieldAll others ++ rest) 0 = some .date ∨
        Parser.typeAt (ParseTree.yieldAll others ++ rest) 0 = some .time then .ok 4
      else .ok 1 : Except ParserException Nat) = .ok ruleIndex) :
    chosenRule .message (ParseTree.yieldAll children ++ rest) = some [expr, .message] := by
  obtain ⟨a, b, c, others, yields, first, second, third, others_roots, others_ok⟩ :=
    exists_yieldAll_three terminal ok roots
  have chosen := chooses a b c others first second third others_roots others_ok yields
  rw [yields, chosenRule, List.cons_append, List.cons_append, List.cons_append,
    chooseRule_openBrace (first.trans opens), chosen, ← indexed]

theorem chosenRule_placeholderExpr (ok : ParseTree.validAll icuGrammar Node.type children = true)
    (member : children.map (ParseTree.symbol Node.type) ∈ grammar .placeholderExpr)
    (modal : Modal true (ParseTree.yieldAll children ++ rest)) :
    chosenRule .message (ParseTree.yieldAll children ++ rest) = some [.placeholderExpr, .message] := by
  refine chosenRule_expr 1 rfl (by decide) ok (List.mem_singleton.mp member) rfl ?_
  intro a b c others first second third roots _ yields
  obtain rfl := List.map_eq_nil_iff.mp roots
  rw [yields] at modal
  have outside : Modal true rest := by
    refine Modal.of_append (show Modal true ([a, b, c] ++ rest) from modal) ?_
    rw [List.map_cons, List.map_cons, List.map_singleton, first, second, third]
    rfl
  rw [ParseTree.yieldAll_nil, List.nil_append, if_neg (outside.typeAt_ne rfl), if_neg (outside.typeAt_ne rfl),
    if_neg (not_or.mpr ⟨outside.typeAt_ne rfl, outside.typeAt_ne rfl⟩)]

theorem chosenRule_pluralExpr (ok : ParseTree.validAll icuGrammar Node.type children = true)
    (member : children.map (ParseTree.symbol Node.type) ∈ grammar .pluralExpr) :
    chosenRule .message (ParseTree.yieldAll children ++ rest) = some [.pluralExpr, .message] := by
  refine chosenRule_expr 2 rfl (by decide) ok (List.mem_singleton.mp member) rfl ?_
  intro a b c others _ _ _ roots others_ok _
  rw [typeAt_yieldAll rfl others_ok roots]
  rfl

theorem chosenRule_selectExpr (ok : ParseTree.validAll icuGrammar Node.type children = true)
    (member : children.map (ParseTree.symbol Node.type) ∈ grammar .selectExpr)
    (modal : Modal true (ParseTree.yieldAll children ++ rest)) :
    chosenRule .message (ParseTree.yieldAll children ++ rest) = some [.selectExpr, .message] := by
  rcases List.mem_cons.mp member with roots | second
  · refine chosenRule_expr 3 rfl (by decide) ok roots rfl ?_
    intro a b c others _ _ _ roots others_ok _
    rw [typeAt_yieldAll rfl others_ok roots]
    rfl
  · -- the second rule starts with a keyword, which the lexer gives only inside of braces
    exact absurd (typeAt_yieldAll rfl ok (List.mem_singleton.mp second) rest) (modal.typeAt_ne rfl)

theorem chosenRule_argumentExpr (ok : ParseTree.validAll icuGrammar Node.type children = true)
    (member : children.map (ParseTree.symbol Node.type) ∈ grammar .argumentExpr) :
    chosenRule .message (ParseTree.yieldAll children ++ rest) = some [.argumentExpr, .message] := by
  refine chosenRule_expr 4 rfl (by decide) ok (List.mem_singleton.mp member) rfl ?_
  intro a b c others _ _ _ roots others_ok _
  obtain ⟨argType, others, rfl, root, -⟩ := List.map_eq_cons_iff.mp roots
  obtain ⟨type, types, rule, first⟩ := typeAt_part rfl (ParseTree.validAll_cons.mp others_ok).1 root
    (by simp [grammar, ST.kind, ST.isNonterminal]) (ParseTree.yieldAll others ++ rest)
  rw [ParseTree.yieldAll_cons, List.append_assoc, first]
  simp only [grammar, List.mem_cons, List.cons.injEq, List.not_mem_nil, or_false] at rule
  rcases rule with ⟨rfl, -⟩ | ⟨rfl, -⟩ <;> rfl

theorem exists_node_of_roots {symbols : List ST}
    (nonterminal : symbol.kind = .nonterminal) (ok : ParseTree.validAll icuGrammar Node.type children = true)
    (roots : children.map (ParseTree.symbol Node.type) = symbol :: symbols) :
    ∃ inner others, children = .node symbol inner :: others ∧
      inner.map (ParseTree.symbol Node.type) ∈ grammar symbol ∧ ParseTree.validAll icuGrammar Node.type inner = true := by
  obtain ⟨tree, others, rfl, root, -⟩ := List.map_eq_cons_iff.mp roots
  obtain ⟨inner, rfl, member, inner_ok⟩ :=
    ParseTree.eq_node_of_valid nonterminal (ParseTree.validAll_cons.mp ok).1 root
  exact ⟨inner, others, rfl, member, inner_ok⟩

theorem yieldAll_of_empty (ok : ParseTree.validAll icuGrammar Node.type children = true)
    (roots : children.map (ParseTree.symbol Node.type) = [.empty]) : ParseTree.yieldAll children = [] := by
  obtain ⟨tree, rfl, root⟩ := List.map_eq_singleton_iff.mp roots
  obtain rfl := ParseTree.eq_epsilon_of_valid rfl (ParseTree.validAll_cons.mp ok).1 root
  rfl

theorem chosenRule_message_of_valid (ok : ParseTree.validAll icuGrammar Node.type children = true)
    (member : children.map (ParseTree.symbol Node.type) ∈ grammar .message)
    (modal : Modal true (ParseTree.yieldAll children ++ rest)) (follows : Follows .message rest) :
    chosenRule .message (ParseTree.yieldAll children ++ rest) = some (children.map (ParseTree.symbol Node.type)) := by
  simp only [grammar, List.mem_cons, List.not_mem_nil, or_false] at member
  rcases member with roots | roots | roots | roots | roots | roots <;> rw [roots]
  · rw [chosenRule, Parser.chooseRule, typeAt_yieldAll rfl ok roots]
    obtain ⟨tree, children, rfl, root, -⟩ := List.map_eq_cons_iff.mp roots
    obtain ⟨token, rfl, -⟩ := ParseTree.eq_token_of_valid rfl (ParseTree.validAll_cons.mp ok).1 root
    rfl
  · obtain ⟨inner, others, rfl, inner_member, inner_ok⟩ := exists_node_of_roots rfl ok roots
    rw [ParseTree.yieldAll_cons, List.append_assoc] at modal ⊢
    exact chosenRule_placeholderExpr inner_ok inner_member modal
  · obtain ⟨inner, others, rfl, inner_member, inner_ok⟩ := exists_node_of_roots rfl ok roots
    rw [ParseTree.yieldAll_cons, List.append_assoc]
    exact chosenRule_pluralExpr inner_ok inner_member
  · obtain ⟨inner, others, rfl, inner_member, inner_ok⟩ := exists_node_of_roots rfl ok roots
    rw [ParseTree.yieldAll_cons, List.append_assoc] at modal ⊢
    exact chosenRule_selectExpr inner_ok inner_member modal
  · obtain ⟨inner, others, rfl, inner_member, inner_ok⟩ := exists_node_of_roots rfl ok roots
    rw [ParseTree.yieldAll_cons, List.append_assoc]
    exact chosenRule_argumentExpr inner_ok inner_member
  · rw [yieldAll_of_empty ok roots, List.nil_append]
    rcases follows with rfl | close
    · rfl
    · rw [chosenRule, Parser.chooseRule, close]
      cases rest with
      | nil => cases close
      | cons token rest => rfl

theorem typeAt_parts {part : ST} {symbols : List ST}
    (nonterminal : part.kind = .nonterminal) (ok : ParseTree.validAll icuGrammar Node.type children = true)
    (roots : children.map (ParseTree.symbol Node.type) = part :: symbols)
    (starts : ∀ rule ∈ grammar part, ∃ type types, rule = type :: types ∧ type.kind = .terminal) (rest : List Node) :
    ∃ type types, type :: types ∈ grammar part ∧
      Parser.typeAt (ParseTree.yieldAll children ++ rest) 0 = some type := by
  obtain ⟨tree, others, rfl, root, -⟩ := List.map_eq_cons_iff.mp roots
  rw [ParseTree.yieldAll_cons, List.append_assoc]
  exact typeAt_part nonterminal (ParseTree.validAll_cons.mp ok).1 root starts _

theorem chosenRule_parts_of_valid (parts : symbol = .pluralParts ∨ symbol = .selectParts)
    (ok : ParseTree.validAll icuGrammar Node.type children = true)
    (member : children.map (ParseTree.symbol Node.type) ∈ grammar symbol)
    (close : Parser.typeAt rest 0 = some .closeBrace) : chosenRule symbol (ParseTree.yieldAll children ++ rest) =
      some (children.map (ParseTree.symbol Node.type)) := by
  rcases parts with rfl | rfl <;> simp only [grammar, List.mem_cons, List.not_mem_nil, or_false] at member
  all_goals
    rcases member with roots | roots <;> rw [roots, chosenRule, Parser.chooseRule]
    · obtain ⟨type, types, rule, first⟩ :=
        typeAt_parts rfl ok roots (by simp [grammar, ST.kind, ST.isNonterminal]) rest
      simp only [grammar, List.mem_cons, List.cons.injEq, List.not_mem_nil, or_false] at rule
      rw [first]
      rcases rule with ⟨rfl, -⟩ | ⟨rfl, -⟩ | ⟨rfl, -⟩ <;> rfl
    · -- no part is left, and the brace that follows says so
      rw [yieldAll_of_empty ok roots, List.nil_append, close]
      rfl

theorem chosenRule_of_valid (ok : ParseTree.validAll icuGrammar Node.type children = true)
    (member : children.map (ParseTree.symbol Node.type) ∈ grammar symbol)
    (after : modeAfter isString symbol = some mode) (modal : Modal isString (ParseTree.yieldAll children ++ rest))
    (follows : Follows symbol rest) :
    chosenRule symbol (ParseTree.yieldAll children ++ rest) = some (children.map (ParseTree.symbol Node.type)) := by
  have rules := member
  cases symbol <;> simp only [grammar, List.mem_cons, List.not_mem_nil, or_false] at rules
  case message =>
    cases isString
    · cases after
    exact chosenRule_message_of_valid ok member modal follows
  case pluralParts => exact chosenRule_parts_of_valid (.inl rfl) ok member follows
  case selectParts => exact chosenRule_parts_of_valid (.inr rfl) ok member follows
  case argType =>
    rcases rules with roots | roots
    all_goals
      rw [chosenRule, Parser.chooseRule, typeAt_yieldAll rfl ok roots, roots]
      rfl
  case pluralPart | selectPart =>
    rcases rules with roots | roots | roots
    all_goals
      rw [chosenRule, Parser.chooseRule, typeAt_yieldAll rfl ok roots, roots]
      rfl
  case selectExpr =>
    cases isString
    · cases after
    rcases rules with roots | roots
    · rw [roots]
      rfl
    · exact absurd (typeAt_yieldAll rfl ok roots rest) (modal.typeAt_ne rfl)
  all_goals
    rw [rules]
    rfl

/-! ## Reading a derivation -/

theorem modeAfterAll_rule {rule : List ST} (member : rule ∈ grammar symbol)
    (after : modeAfter isString symbol = some mode) :
    modeAfterAll isString rule = some mode ∨ isString = true ∧ ∃ types, rule = .other :: types := by
  cases symbol <;> simp only [grammar, List.mem_cons, List.not_mem_nil, or_false] at member
  case message =>
    cases isString <;> cases after
    rcases member with rfl | rfl | rfl | rfl | rfl | rfl <;> exact Or.inl rfl
  case pluralParts | selectParts | argType =>
    cases isString <;> cases after
    rcases member with rfl | rfl <;> exact Or.inl rfl
  case pluralPart | selectPart =>
    cases isString <;> cases after
    rcases member with rfl | rfl | rfl <;> exact Or.inl rfl
  case selectExpr =>
    cases isString <;> cases after
    rcases member with rfl | rfl
    · exact Or.inl rfl
    · exact Or.inr ⟨rfl, _, rfl⟩
  case placeholderExpr | argumentExpr | pluralExpr =>
    cases isString <;> cases after
    cases member
    exact Or.inl rfl

mutual

theorem reads_of_valid : ∀ (tree : SyntaxTree) {isString mode : Bool} {rest : List Node},
    tree.valid icuGrammar Node.type = true → modeAfter isString (tree.symbol Node.type) = some mode →
    Modal isString (tree.yield ++ rest) → Follows (tree.symbol Node.type) rest →
    Reads [tree.symbol Node.type] (tree.yield ++ rest) [tree] rest ∧ Modal mode rest
  | .token t, isString, mode, rest, ok, after, modal, _ => by
    rw [ParseTree.valid, beq_iff_eq] at ok
    obtain ⟨mode', after', modal'⟩ := modal.cons
    obtain rfl : mode' = mode := Option.some.inj (after'.symm.trans after)
    exact ⟨.token ok rfl .nil, modal'⟩
  | .epsilon symbol, isString, mode, rest, ok, after, modal, _ => by
    rw [ParseTree.valid, beq_iff_eq] at ok
    obtain rfl := kind_eq_epsilon.mp ok
    cases after
    exact ⟨.epsilon rfl .nil, modal⟩
  | .node symbol children, isString, mode, rest, ok, after, modal, follows => by
    obtain ⟨nonterminal, member, inner_ok⟩ := ParseTree.valid_node.mp ok
    have after : modeAfter isString symbol = some mode := after
    have modal : Modal isString (ParseTree.yieldAll children ++ rest) := modal
    have chosen := chosenRule_of_valid inner_ok member after modal follows
    rcases modeAfterAll_rule member after with modes | ⟨rfl, types, roots⟩
    · obtain ⟨reads, modal'⟩ := readsAll_of_valid children inner_ok modes modal (followsAll_rule member follows)
      exact ⟨.node nonterminal chosen reads .nil, modal'⟩
    · exact absurd (typeAt_yieldAll rfl inner_ok roots rest) (modal.typeAt_ne rfl)

theorem readsAll_of_valid : ∀ (trees : List SyntaxTree) {isString mode : Bool} {rest : List Node},
    ParseTree.validAll icuGrammar Node.type trees = true →
    modeAfterAll isString (trees.map (ParseTree.symbol Node.type)) = some mode →
    Modal isString (ParseTree.yieldAll trees ++ rest) → FollowsAll (trees.map (ParseTree.symbol Node.type)) rest →
    Reads (trees.map (ParseTree.symbol Node.type)) (ParseTree.yieldAll trees ++ rest) trees rest ∧ Modal mode rest
  | [], isString, mode, rest, _, after, modal, _ => by
    cases after
    exact ⟨.nil, modal⟩
  | tree :: trees, isString, mode, rest, ok, after, modal, follows => by
    obtain ⟨first_ok, others_ok⟩ := ParseTree.validAll_cons.mp ok
    rw [List.map_cons, modeAfterAll_cons] at after
    obtain ⟨between, first_after, others_after⟩ := Option.bind_eq_some_iff.mp after
    rw [ParseTree.yieldAll_cons, List.append_assoc] at modal ⊢
    have first_follows : Follows (tree.symbol Node.type) (ParseTree.yieldAll trees ++ rest) := by
      cases trees with
      | nil => exact follows
      | cons next trees =>
        cases nullable : (tree.symbol Node.type).isList with
        | false => exact follows_of_not_isList nullable _
        | true => exact follows_of_closeBrace _ (typeAt_yieldAll rfl others_ok (congrArg (· :: _) (follows.1 nullable)) rest)
    have others_follows : FollowsAll (trees.map (ParseTree.symbol Node.type)) rest := by
      cases trees with
      | nil => trivial
      | cons next trees => exact follows.2
    obtain ⟨first_reads, modal'⟩ := reads_of_valid tree first_ok first_after modal first_follows
    obtain ⟨others_reads, modal''⟩ := readsAll_of_valid trees others_ok others_after modal' others_follows
    exact ⟨first_reads.append others_reads, modal''⟩

end

theorem parseTokens_of_valid (parser : Parser) {tree : SyntaxTree}
    (root : tree.symbol Node.type = .message) (ok : tree.valid icuGrammar Node.type = true)
    (modal : Modal true (tree.yield ++ rest)) (ends : rest = [] ∨ Parser.typeAt rest 0 = some .closeBrace) :
    ∃ node, parser.parseTokens (tree.yield ++ rest) = .ok node ∧ node.shape = tree := by
  have after : modeAfter true (tree.symbol Node.type) = some true := by
    rw [root]
    rfl
  have follows : Follows (tree.symbol Node.type) rest := by
    rw [root]
    exact ends
  obtain ⟨reads, -⟩ := reads_of_valid tree ok after modal follows
  rw [root] at reads
  exact parser.parseTokens_of_reads reads

end FlutterZero.FlutterTools
