import FlutterZero.FlutterTools.MessageParser
import FlutterZero.Lib.Grammar

/-! # What the message parser reads

The loop of the parser does what `Predicts` says of its choice of rules: it
returns exactly if the tokens can be read in that way, and the tree that it builds
through its traversal stack is the tree that was read.  What is read is a
derivation of a first part of the tokens; a close brace may follow it.
-/

namespace FlutterZero.FlutterTools

open FlutterZero.Lib

def ST.kind (symbol : ST) : SymbolKind :=
  if symbol.isNonterminal then .nonterminal else if symbol = .empty then .epsilon else .terminal

def icuGrammar : Grammar ST := ⟨ST.kind, grammar⟩

abbrev SyntaxTree : Type := ParseTree ST Node

def chosenRule (symbol : ST) (tokens : List Node) : Option (List ST) :=
  match Parser.chooseRule symbol tokens with
  | .error _ => none
  | .ok ruleIndex => some ((grammar symbol).getD ruleIndex [])

abbrev Reads : List ST → List Node → List SyntaxTree → List Node → Prop := Predicts icuGrammar Node.type chosenRule

namespace Node

mutual

def shape : Node → SyntaxTree
  | ⟨type, positionInMessage, expectedSymbolCount, value, children⟩ =>
    match type.kind with
    | .terminal => .token ⟨type, positionInMessage, expectedSymbolCount, value, children⟩
    | .epsilon => if children.isEmpty then .epsilon type else .node type (shapeAll children)
    | .nonterminal => .node type (shapeAll children)

def shapeAll : List Node → List SyntaxTree
  | [] => []
  | node :: nodes => shape node :: shapeAll nodes

end

theorem shapeAll_eq_map (nodes : List Node) : shapeAll nodes = nodes.map shape := by
  induction nodes with
  | nil => rfl
  | cons node nodes ih => rw [shapeAll, ih, List.map_cons]

theorem shape_token {token : Node} (terminal : token.type.kind = .terminal) : token.shape = .token token := by
  obtain ⟨type, positionInMessage, expectedSymbolCount, value, children⟩ := token
  rw [shape]
  simp only [show type.kind = .terminal from terminal]

theorem shape_node {node : Node} (nonterminal : node.type.kind = .nonterminal) :
    node.shape = .node node.type (node.children.map shape) := by
  obtain ⟨type, positionInMessage, expectedSymbolCount, value, children⟩ := node
  rw [shape, shapeAll_eq_map]
  simp only [show type.kind = .nonterminal from nonterminal]

theorem symbol_shape (node : Node) : node.shape.symbol Node.type = node.type := by
  obtain ⟨type, positionInMessage, expectedSymbolCount, value, children⟩ := node
  rw [shape]
  cases type.kind with
  | terminal => rfl
  | epsilon => dsimp only; split <;> rfl
  | nonterminal => rfl

/-! ## Paths -/

def addChildren (nodes : List Node) (node : Node) : Node := { node with children := node.children ++ nodes }

theorem addChildren_addChild (nodes : List Node) (node child : Node) :
    (node.addChild child).addChildren nodes = node.addChildren (child :: nodes) := by
  simp [addChildren, addChild]

theorem addChildren_nil (node : Node) : node.addChildren [] = node := by
  cases node
  simp [addChildren]

variable {tree parent : Node} {path : List Nat}

theorem at?_modifyAt (found : tree.at? path = some parent) (change : Node → Node) :
    (tree.modifyAt change path).at? path = some (change parent) := by
  induction path generalizing tree with
  | nil =>
    cases found
    rfl
  | cons index path ih =>
    obtain ⟨child, inside, below⟩ := Option.bind_eq_some_iff.mp found
    simp only [modifyAt, at?, List.getElem?_modify_eq, inside]
    exact ih below

theorem modifyAt_id (tree : Node) (path : List Nat) : tree.modifyAt (fun node => node) path = tree := by
  induction path generalizing tree with
  | nil => rfl
  | cons index path ih =>
    have same : modifyAt (fun node => node) path = id := funext ih
    rw [modifyAt, same, List.modify_id]
    cases tree
    rfl

theorem modifyAt_modifyAt (change change' : Node → Node) (tree : Node) (path : List Nat) :
    (tree.modifyAt change path).modifyAt change' path = tree.modifyAt (fun node => change' (change node)) path := by
  induction path generalizing tree with
  | nil => rfl
  | cons index path ih =>
    simp only [modifyAt, List.modify_modify_eq]
    congr 2
    exact funext ih

theorem at?_addChild (found : tree.at? path = some parent) (child : Node) :
    (tree.modifyAt (Node.addChild · child) path).at? (path ++ [parent.children.length]) = some child := by
  induction path generalizing tree with
  | nil =>
    cases found
    simp [modifyAt, addChild, at?]
  | cons index path ih =>
    obtain ⟨below, inside, found⟩ := Option.bind_eq_some_iff.mp found
    simp only [modifyAt, List.cons_append, at?, List.getElem?_modify_eq, inside]
    exact ih found

theorem modifyAt_addChild (found : tree.at? path = some parent) (child : Node) (change : Node → Node) :
    (tree.modifyAt (Node.addChild · child) path).modifyAt change (path ++ [parent.children.length]) =
      tree.modifyAt (Node.addChild · (change child)) path := by
  induction path generalizing tree with
  | nil =>
    cases found
    simp [modifyAt, addChild, modify_length_append]
  | cons index path ih =>
    obtain ⟨below, inside, found⟩ := Option.bind_eq_some_iff.mp found
    simp only [modifyAt, List.cons_append, List.modify_modify_eq, Node.mk.injEq, true_and]
    apply List.ext_getElem?
    intro index'
    rw [List.getElem?_modify, List.getElem?_modify]
    by_cases same : index = index'
    · subst same
      simp only [inside, if_true]
      exact congrArg some (ih found)
    · simp only [if_neg same]

end Node

/-! ## The loop -/

variable {symbol : ST}

theorem kind_eq_nonterminal : symbol.kind = .nonterminal ↔ symbol.isNonterminal = true := by
  cases symbol <;> decide

theorem kind_eq_epsilon : symbol.kind = .epsilon ↔ symbol = .empty := by
  cases symbol <;> decide

theorem kind_eq_terminal : symbol.kind = .terminal ↔ symbol.isNonterminal = false ∧ symbol ≠ .empty := by
  cases symbol <;> decide

variable {rule : List ST}

theorem rule_ne_nil (member : rule ∈ grammar symbol) : rule ≠ [] := by
  rintro rfl
  revert member
  cases symbol <;> decide

variable {tokens : List Node}

theorem chosenRule_mem (nonterminal : symbol.kind = .nonterminal)
    (chosen : chosenRule symbol tokens = some rule) : rule ∈ grammar symbol := by
  unfold chosenRule at chosen
  split at chosen
  · cases chosen
  · rename_i ruleIndex chose
    cases chosen
    exact Parser.chooseRule_mem (kind_eq_nonterminal.mp nonterminal) chose

namespace Parser

variable (parser : Parser)

theorem parseFrom_nil (tokens : List Node) (tree : Node) (stack : List (List Nat)) :
    parser.parseFrom ⟨[], tokens, tree, stack⟩ = .ok ⟨[], tokens, tree, stack⟩ := by
  rw [parseFrom.eq_def]

variable {symbol : ST} {symbols : List ST} {tokens : List Node}

theorem parseFrom_cons {tree : Node} {stack : List (List Nat)}
    {state' : ParserState} (ran : parser.parseSymbol symbol ⟨symbols, tokens, tree, stack⟩ = .ok state') :
    parser.parseFrom ⟨symbol :: symbols, tokens, tree, stack⟩ = parser.parseFrom state' := by
  rw [parseFrom.eq_def]
  simp only
  split
  · rename_i failed
    cases ran.symm.trans failed
  · rename_i state'' ran'
    cases ran.symm.trans ran'
    rfl

/-- The traversal stack once the node at its top has so many children. -/
def stackAfter (parent : Node) (count : Nat) (path : List Nat) (rest : List (List Nat)) : List (List Nat) :=
  if parent.expectedSymbolCount ≤ count then rest else path :: rest

theorem stackAfter_of_le {parent : Node} {count : Nat} (full : parent.expectedSymbolCount ≤ count) (path : List Nat)
    (rest : List (List Nat)) : stackAfter parent count path rest = rest := if_pos full

theorem stackAfter_of_lt {parent : Node} {count : Nat} (room : count < parent.expectedSymbolCount) (path : List Nat)
    (rest : List (List Nat)) : stackAfter parent count path rest = path :: rest := if_neg (Nat.not_le_of_lt room)

variable {tree parent : Node} {path : List Nat}

theorem addToParent_eq (found : tree.at? path = some parent) (symbols : List ST) (tokens : List Node)
    (rest : List (List Nat)) (node : Node) :
    addToParent node ⟨symbols, tokens, tree, path :: rest⟩ = .ok (path ++ [parent.children.length],
      ⟨symbols, tokens, tree.modifyAt (Node.addChild · node) path,
        stackAfter parent (parent.children.length + 1) path rest⟩) := by
  unfold addToParent
  simp only [found, stackAfter, Node.isFull, Node.addChild, List.length_append, List.length_singleton,
    decide_eq_true_eq]

theorem parseSymbol_token (found : tree.at? path = some parent) (terminal : symbol.kind = .terminal)
    {token : Node} (same : token.type = symbol) (symbols : List ST) (tokens : List Node) (rest : List (List Nat)) :
    parser.parseSymbol symbol ⟨symbols, token :: tokens, tree, path :: rest⟩ =
      .ok ⟨symbols, tokens, tree.modifyAt (Node.addChild · token) path,
        stackAfter parent (parent.children.length + 1) path rest⟩ := by
  obtain ⟨not_nonterminal, visible⟩ := kind_eq_terminal.mp terminal
  rw [parseSymbol, not_nonterminal, if_neg Bool.false_ne_true, parseTerminal]
  simp only [List.isEmpty_cons, Bool.false_eq_true, if_false, if_neg visible, same, if_true,
    addToParent_eq found symbols tokens rest token]
  rfl

theorem parseSymbol_epsilon (found : tree.at? path = some parent) (symbols : List ST) (tokens : List Node)
    (rest : List (List Nat)) :
    parser.parseSymbol .empty ⟨symbols, tokens, tree, path :: rest⟩ =
      .ok ⟨symbols, tokens, tree.modifyAt (Node.addChild · (Node.empty (-1))) path,
        stackAfter parent (parent.children.length + 1) path rest⟩ := by
  rw [parseSymbol, if_neg (by decide), parseTerminal]
  simp only [List.isEmpty_cons, Bool.false_eq_true, if_false, if_true,
    addToParent_eq found symbols tokens rest (Node.empty (-1))]
  rfl

theorem parseSymbol_nonterminal (found : tree.at? path = some parent)
    (nonterminal : symbol.kind = .nonterminal) {rule : List ST}
    (chosen : chosenRule symbol tokens = some rule) (symbols : List ST) (rest : List (List Nat)) :
    ∃ node : Node, node.type = symbol ∧ node.expectedSymbolCount = rule.length ∧ node.children = [] ∧
      parser.parseSymbol symbol ⟨symbols, tokens, tree, path :: rest⟩ =
        .ok ⟨rule ++ symbols, tokens, tree.modifyAt (Node.addChild · node) path,
          (path ++ [parent.children.length]) :: stackAfter parent (parent.children.length + 1) path rest⟩ := by
  unfold chosenRule at chosen
  split at chosen
  · cases chosen
  · rename_i ruleIndex chose
    cases chosen
    rw [parseSymbol, if_pos (kind_eq_nonterminal.mp nonterminal), chose]
    refine ⟨⟨symbol, (tokens.head?.map Node.positionInMessage).getD (-1), _, none, []⟩, rfl, rfl, rfl, ?_⟩
    simp only [ok_bind, parseAndConstructNode, addToParent_eq found]
    rfl

/-- Parsing the symbols adds the forest to the node at the top of the traversal stack. -/
def Builds (symbols : List ST) (tokens : List Node) (forest : List SyntaxTree) (rest : List Node) : Prop :=
  ∀ {tree parent : Node} {path : List Nat} (stack : List (List Nat)) (later : List ST),
    tree.at? path = some parent → parent.children.length < parent.expectedSymbolCount →
    parent.children.length + symbols.length ≤ parent.expectedSymbolCount →
    ∃ nodes : List Node, nodes.map Node.shape = forest ∧
      parser.parseFrom ⟨symbols ++ later, tokens, tree, path :: stack⟩ =
        parser.parseFrom ⟨later, rest, tree.modifyAt (Node.addChildren nodes) path,
          stackAfter parent (parent.children.length + symbols.length) path stack⟩

theorem builds_nil (tokens : List Node) : parser.Builds [] tokens [] tokens := by
  intro tree parent path stack later found room _
  have same : Node.addChildren [] = fun node => node := funext Node.addChildren_nil
  refine ⟨[], rfl, ?_⟩
  rw [stackAfter_of_lt (by rw [List.length_nil]; omega), same, Node.modifyAt_id, List.nil_append]

variable {rest : List Node}

theorem Builds.after {forest : List SyntaxTree}
    (builds : parser.Builds symbols tokens forest rest) (reads : Reads symbols tokens forest rest) (node : Node)
    (found : tree.at? path = some parent)
    (room : parent.children.length + (symbols.length + 1) ≤ parent.expectedSymbolCount)
    (stack : List (List Nat)) (later : List ST) : ∃ nodes : List Node, nodes.map Node.shape = node.shape :: forest ∧
      parser.parseFrom ⟨symbols ++ later, tokens, tree.modifyAt (Node.addChild · node) path,
        stackAfter parent (parent.children.length + 1) path stack⟩ =
      parser.parseFrom ⟨later, rest, tree.modifyAt (Node.addChildren nodes) path,
        stackAfter parent (parent.children.length + (symbols.length + 1)) path stack⟩ := by
  by_cases full : parent.expectedSymbolCount ≤ parent.children.length + 1
  · have none_left : symbols = [] := List.length_eq_zero_iff.mp (by omega)
    subst none_left
    cases reads
    exact ⟨[node], rfl, rfl⟩
  · have found' := Node.at?_modifyAt found (Node.addChild · node)
    have length : (parent.addChild node).children.length = parent.children.length + 1 := List.length_append
    have count : (parent.addChild node).expectedSymbolCount = parent.expectedSymbolCount := rfl
    obtain ⟨nodes, shapes, ran⟩ := builds stack later found' (by omega) (by omega)
    have total : parent.children.length + 1 + symbols.length = parent.children.length + (symbols.length + 1) := by omega
    refine ⟨node :: nodes, by rw [List.map_cons, shapes], ?_⟩
    rw [stackAfter_of_lt (not_le.mp full), ran, Node.modifyAt_modifyAt, length, total]
    simp only [Node.addChildren_addChild]
    rfl

theorem builds_of_reads {forest : List SyntaxTree}
    (reads : Reads symbols tokens forest rest) : parser.Builds symbols tokens forest rest := by
  induction reads with
  | nil => exact parser.builds_nil _
  | @token symbol symbols t tokens rest forest terminal same tail ih =>
    intro tree parent path stack later found _ room
    obtain ⟨nodes, shapes, ran⟩ := ih.after parser tail t found room stack later
    refine ⟨nodes, ?_, ?_⟩
    · rw [shapes, Node.shape_token (by rw [same]; exact terminal)]
    · rw [List.cons_append, parser.parseFrom_cons (parser.parseSymbol_token found terminal same _ _ _), ran]
      rfl
  | @epsilon symbol symbols tokens rest forest empty tail ih =>
    intro tree parent path stack later found _ room
    obtain rfl := kind_eq_epsilon.mp empty
    obtain ⟨nodes, shapes, ran⟩ := ih.after parser tail (Node.empty (-1)) found room stack later
    refine ⟨nodes, shapes, ?_⟩
    rw [List.cons_append, parser.parseFrom_cons (parser.parseSymbol_epsilon found _ _ _), ran]
    rfl
  | @node symbol symbols rule tokens middle rest children forest nonterminal chosen inner tail ih₁ ih₂ =>
    intro tree parent path stack later found _ room
    obtain ⟨node, type, count, childless, ran⟩ := parser.parseSymbol_nonterminal found nonterminal chosen
      (symbols ++ later) stack
    have positive : 0 < rule.length := List.length_pos_iff.mpr (rule_ne_nil (chosenRule_mem nonterminal chosen))
    have zero : node.children.length = 0 := by rw [childless, List.length_nil]
    -- the new node is filled first, through its own place on the traversal stack
    obtain ⟨below, below_shapes, ran₁⟩ := ih₁ (stackAfter parent (parent.children.length + 1) path stack)
      (symbols ++ later) (Node.at?_addChild found node) (by omega) (by omega)
    rw [stackAfter_of_le (by omega : node.expectedSymbolCount ≤ _), Node.modifyAt_addChild found] at ran₁
    obtain ⟨nodes, shapes, ran₂⟩ := ih₂.after parser tail (Node.addChildren below node) found room stack later
    have filled : (Node.addChildren below node).shape = .node symbol children := by
      have kind : (Node.addChildren below node).type.kind = .nonterminal := by
        show node.type.kind = _
        rw [type]
        exact nonterminal
      rw [Node.shape_node kind, ← below_shapes]
      simp only [Node.addChildren, childless, List.nil_append, type]
    refine ⟨nodes, ?_, ?_⟩
    · rw [shapes, filled]
    · rw [List.cons_append, parser.parseFrom_cons ran, ran₁, ran₂]
      rfl

theorem reads_of_parseFrom {state final : ParserState} (ran : parser.parseFrom state = .ok final) :
    ∃ forest rest, Reads state.parsingStack state.tokens forest rest := by
  fun_induction parser.parseFrom state with
  | case1 state stack =>
    rw [stack]
    exact ⟨[], state.tokens, .nil⟩
  | case2 state symbol symbols stack error failed => cases ran
  | case3 state symbol symbols stack state' parsed ih =>
    obtain ⟨forest, rest, reads⟩ := ih ran
    rw [stack]
    unfold parseSymbol at parsed
    split at parsed
    · rename_i nonterminal
      obtain ⟨ruleIndex, chose, built⟩ := bind_eq_ok.mp parsed
      obtain ⟨same, pushed⟩ := parseAndConstructNode_eq_ok built
      rw [same, pushed] at reads
      obtain ⟨children, forest, middle, inner, tail⟩ := reads.split
      have chosen : chosenRule symbol state.tokens = some ((grammar symbol).getD ruleIndex []) := by
        rw [chosenRule, chose]
      exact ⟨_, rest, .node (kind_eq_nonterminal.mpr nonterminal) chosen inner tail⟩
    · rename_i terminal
      obtain ⟨popped, ⟨rfl, same⟩ | ⟨visible, token, consumed, type⟩⟩ := parser.parseTerminal_eq_ok parsed
      · rw [popped, same] at reads
        exact ⟨_, rest, .epsilon rfl reads⟩
      · rw [popped] at reads
        rw [show state.tokens = token :: state'.tokens from consumed]
        exact ⟨_, rest, .token (kind_eq_terminal.mpr ⟨Bool.eq_false_iff.mpr terminal, visible⟩) type reads⟩

theorem parseTokens_of_reads {tree : SyntaxTree} (reads : Reads [.message] tokens [tree] rest) :
    ∃ node, parser.parseTokens tokens = .ok node ∧ node.shape = tree := by
  have root : (initialState tokens).syntaxTree.at? [] = some (initialState tokens).syntaxTree := rfl
  obtain ⟨nodes, shapes, ran⟩ := parser.builds_of_reads reads [] [] root Nat.zero_lt_one (Nat.le_refl 1)
  obtain ⟨node, rfl, shape⟩ := List.map_eq_singleton_iff.mp shapes
  have returned : parser.parseFrom (initialState tokens) = _ := ran.trans (parser.parseFrom_nil _ _ _)
  refine ⟨node, ?_, shape⟩
  rw [parseTokens, returned]
  rfl

theorem reads_of_parseTokens {node : Node} (parsed : parser.parseTokens tokens = .ok node) :
    ∃ rest, Reads [.message] tokens [node.shape] rest := by
  obtain ⟨final, ran, -⟩ := bind_eq_ok.mp parsed
  obtain ⟨forest, rest, reads⟩ := parser.reads_of_parseFrom ran
  obtain ⟨tree, rfl, -⟩ := List.map_eq_singleton_iff.mp reads.roots
  obtain ⟨node', parsed', shape⟩ := parser.parseTokens_of_reads reads
  cases parsed.symm.trans parsed'
  exact ⟨rest, shape ▸ reads⟩

end Parser

/-! ## What follows a message -/

theorem chosenRule_message (chosen : chosenRule .message tokens = some rule) : rule.getLast? = some .message ∨
      rule = [.empty] ∧ (tokens = [] ∨ Parser.typeAt tokens 0 = some .closeBrace) := by
  simp only [chosenRule, Parser.chooseRule] at chosen
  split_ifs at chosen with none_left close
  · cases chosen
    exact Or.inr ⟨rfl, Or.inl (List.isEmpty_iff.mp none_left)⟩
  · cases chosen
    exact Or.inr ⟨rfl, Or.inr close⟩
  all_goals
    cases chosen
    exact Or.inl rfl

theorem rest_of_reads_message {symbols : List ST} {rest : List Node} {forest : List SyntaxTree}
    (reads : Reads symbols tokens forest rest) (last : symbols.getLast? = some .message) :
    rest = [] ∨ Parser.typeAt rest 0 = some .closeBrace := by
  induction reads with
  | nil => cases last
  | @token symbol symbols t tokens rest forest terminal same tail ih =>
    cases symbols with
    | nil =>
      cases last
      cases terminal
    | cons next symbols => exact ih last
  | @epsilon symbol symbols tokens rest forest empty tail ih =>
    cases symbols with
    | nil =>
      cases last
      cases empty
    | cons next symbols => exact ih last
  | @node symbol symbols rule tokens middle rest children forest nonterminal chosen inner tail ih₁ ih₂ =>
    cases symbols with
    | cons next symbols => exact ih₂ last
    | nil =>
      cases last
      cases tail
      obtain more | ⟨rfl, ends⟩ := chosenRule_message chosen
      · exact ih₁ more
      · cases inner with
        | token terminal => cases terminal
        | epsilon _ none_left =>
          cases none_left
          exact ends
        | node nonterminal => cases nonterminal

theorem derives_of_parseTokens {parser : Parser} {node : Node} (parsed : parser.parseTokens tokens = .ok node) :
    ∃ rest, tokens = node.shape.yield ++ rest ∧ node.shape.symbol Node.type = .message ∧
      node.shape.valid icuGrammar Node.type = true ∧ (rest = [] ∨ Parser.typeAt rest 0 = some .closeBrace) := by
  obtain ⟨rest, reads⟩ := parser.reads_of_parseTokens parsed
  have consumed := reads.tokens_eq
  rw [ParseTree.yieldAll_cons, ParseTree.yieldAll_nil, List.append_nil] at consumed
  have root := reads.roots
  rw [List.map_singleton, List.singleton_inj] at root
  have ok := reads.valid fun symbol tokens rule nonterminal chosen => chosenRule_mem nonterminal chosen
  exact ⟨rest, consumed, root, (ParseTree.validAll_cons.mp ok).1, rest_of_reads_message reads rfl⟩

end FlutterZero.FlutterTools
