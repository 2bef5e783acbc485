import FlutterZero.FlutterTools.MessageParser.Completeness

/-! # Which tokens the message parser ignores

The parser stops when its stack is empty, not when the tokens are.  It reads a
message up to the end or up to a close brace that no open brace belongs to, and
what comes after such a brace is not looked at.
-/

namespace FlutterZero.FlutterTools

open FlutterZero.Lib

namespace Node

mutual

/-- The nodes without children, from left to right. -/
def leaves : Node → List Node
  | ⟨type, positionInMessage, expectedSymbolCount, value, []⟩ => [⟨type, positionInMessage, expectedSymbolCount, value, []⟩]
  | ⟨_, _, _, _, child :: children⟩ => leaves child ++ leavesAll children

def leavesAll : List Node → List Node
  | [] => []
  | node :: nodes => leaves node ++ leavesAll nodes

end

/-- The leaves other than `ST.empty`. -/
def visibleLeaves (node : Node) : List Node := node.leaves.filter (·.type ≠ .empty)

mutual

theorem visibleLeaves_eq_yield : ∀ (node : Node), node.shape.valid icuGrammar Node.type = true →
    (∀ token ∈ node.shape.yield, token.children = []) → node.leaves.filter (·.type ≠ .empty) = node.shape.yield
  | ⟨type, positionInMessage, expectedSymbolCount, value, []⟩, ok, _ => by
    cases kind : type.kind with
    | terminal =>
      have visible := (kind_eq_terminal.mp kind).2
      simp [leaves, shape, kind, ParseTree.yield, visible]
    | epsilon =>
      obtain rfl := kind_eq_epsilon.mp kind
      rfl
    | nonterminal =>
      rw [shape_node kind] at ok
      exact absurd rfl (rule_ne_nil (ParseTree.valid_node.mp ok).2.1)
  | ⟨type, positionInMessage, expectedSymbolCount, value, child :: children⟩, ok, childless => by
    cases kind : type.kind with
    | terminal =>
      rw [shape_token kind] at childless
      cases childless _ (List.mem_singleton_self _)
    | epsilon =>
      simp [shape, kind, ParseTree.valid, icuGrammar] at ok
    | nonterminal =>
      rw [shape_node kind, ParseTree.valid_node] at ok
      rw [shape_node kind] at childless ⊢
      have ok : ParseTree.validAll icuGrammar Node.type ((child :: children).map shape) = true := ok.2.2
      rw [List.map_cons, ParseTree.validAll_cons] at ok
      have childless : ∀ token ∈ child.shape.yield ++ ParseTree.yieldAll (children.map shape), token.children = [] :=
        childless
      rw [leaves, List.filter_append,
        visibleLeaves_eq_yield child ok.1 fun token member => childless token (List.mem_append_left _ member),
        visibleLeavesAll_eq_yield children ok.2 fun token member => childless token (List.mem_append_right _ member)]
      rfl

theorem visibleLeavesAll_eq_yield : ∀ (nodes : List Node),
    ParseTree.validAll icuGrammar Node.type (nodes.map shape) = true →
    (∀ token ∈ ParseTree.yieldAll (nodes.map shape), token.children = []) →
    (leavesAll nodes).filter (·.type ≠ .empty) = ParseTree.yieldAll (nodes.map shape)
  | [], _, _ => rfl
  | node :: nodes, ok, childless => by
    rw [List.map_cons, ParseTree.validAll_cons] at ok
    rw [List.map_cons, ParseTree.yieldAll_cons] at childless ⊢
    rw [leavesAll, List.filter_append,
      visibleLeaves_eq_yield node ok.1 fun token member => childless token (List.mem_append_left _ member),
      visibleLeavesAll_eq_yield nodes ok.2 fun token member => childless token (List.mem_append_right _ member)]

end

end Node

def IsMessage (tokens : List Node) : Prop := Derives icuGrammar Node.type .message tokens

structure IgnoresNothing (parser : Parser) (tokens : List Node) : Prop where
  leaves_eq : ∀ tree, parser.parseIntoTree = .ok tree → tree.visibleLeaves = tokens
  rejects : ¬ IsMessage tokens → ∃ error, parser.parseIntoTree = .error error

def HasStrayBrace (tokens : List Node) : Prop :=
  ∃ message brace rest, tokens = message ++ brace :: rest ∧ IsMessage message ∧ brace.type = .closeBrace

theorem parseIntoTree_of_lexIntoTokens {parser : Parser} {tokens : List Node}
    (lexed : parser.lexIntoTokens = .ok tokens) : parser.parseIntoTree = parser.parseTokens tokens := by
  rw [Parser.parseIntoTree, lexed]
  rfl

theorem yield_of_not_hasStrayBrace {parser : Parser} {tokens : List Node} {tree : Node}
    (unstray : ¬ HasStrayBrace tokens) (parsed : parser.parseTokens tokens = .ok tree) :
    tree.shape.yield = tokens ∧ tree.shape.valid icuGrammar Node.type = true ∧ IsMessage tokens := by
  obtain ⟨rest, split, root, ok, ends⟩ := derives_of_parseTokens parsed
  have message : IsMessage tree.shape.yield := ⟨tree.shape, root, ok, rfl⟩
  cases rest with
  | nil =>
    rw [List.append_nil] at split
    exact ⟨split.symm, ok, split ▸ message⟩
  | cons brace rest =>
    have close : brace.type = .closeBrace := by
      rcases ends with none_left | close
      · cases none_left
      · exact Option.some.inj close
    exact absurd ⟨_, brace, rest, split, message, close⟩ unstray

/-- Nothing is ignored exactly if no close brace is stray. -/
theorem ignoresNothing_iff_not_hasStrayBrace (parser : Parser) (tokens : List Node)
    (lexed : parser.lexIntoTokens = .ok tokens) : IgnoresNothing parser tokens ↔ ¬ HasStrayBrace tokens := by
  obtain ⟨modal, childless⟩ := modal_of_lexIntoTokens lexed
  have parses := parseIntoTree_of_lexIntoTokens lexed
  constructor
  · rintro ignoresNothing ⟨message, brace, rest, rfl, ⟨tree, root, ok, rfl⟩, close⟩
    have ends : Parser.typeAt (brace :: rest) 0 = some .closeBrace := congrArg some close
    obtain ⟨node, parsed, rfl⟩ := parseTokens_of_valid parser root ok modal (Or.inr ends)
    have all := ignoresNothing.leaves_eq node (parses.trans parsed)
    rw [Node.visibleLeaves, Node.visibleLeaves_eq_yield node ok fun token member =>
      childless token (List.mem_append_left _ member)] at all
    -- the brace is among the tokens but not among the leaves
    have lengths := congrArg List.length all
    rw [List.length_append, List.length_cons] at lengths
    omega
  · intro unstray
    refine ⟨fun tree parsed => ?_, fun underivable => ?_⟩
    · obtain ⟨yield, ok, -⟩ := yield_of_not_hasStrayBrace unstray (parses.symm.trans parsed)
      rw [Node.visibleLeaves, Node.visibleLeaves_eq_yield tree ok fun token member =>
        childless token (yield ▸ member), yield]
    · rw [parses]
      cases parsed : parser.parseTokens tokens with
      | error error => exact ⟨error, rfl⟩
      | ok tree => exact absurd (yield_of_not_hasStrayBrace unstray parsed).2.2 underivable

/-- The message `a}b`. -/
def strayParser : Parser := ⟨units ['a', '}', 'b'], false, none⟩

def strayTokens : List Node :=
  [Node.token .string 0 (units ['a']), Node.token .closeBrace 1 (units ['}']), Node.token .identifier 2 (units ['b'])]

theorem lexIntoTokens_strayParser : strayParser.lexIntoTokens = .ok strayTokens := by
  rw [Parser.lexIntoTokens, strayParser.lexFrom_next (by decide) rfl, strayParser.lexFrom_next (by decide) rfl,
    strayParser.lexFrom_next (by decide) rfl, strayParser.lexFrom_end (by decide)]
  rfl

theorem ignoresNothing_iff_not_hasStrayBrace_strayParser : strayParser.lexIntoTokens = .ok strayTokens ∧
    (IgnoresNothing strayParser strayTokens ↔ ¬ HasStrayBrace strayTokens) :=
  ⟨lexIntoTokens_strayParser, ignoresNothing_iff_not_hasStrayBrace _ _ lexIntoTokens_strayParser⟩

/-- The tail of `a}b` is dropped without an exception. -/
theorem parseIntoTree_drops_tail : ∃ tree, strayParser.lexIntoTokens = .ok strayTokens ∧
    strayParser.parseIntoTree = .ok tree ∧ tree.visibleLeaves = strayTokens.take 1 ∧
      tree.visibleLeaves ≠ strayTokens := by
  let message : SyntaxTree :=
    .node .message [.token (Node.token .string 0 (units ['a'])), .node .message [.epsilon .empty]]
  obtain ⟨modal, childless⟩ := modal_of_lexIntoTokens lexIntoTokens_strayParser
  have split : message.yield ++ strayTokens.drop 1 = strayTokens := rfl
  obtain ⟨tree, parsed, shape⟩ := parseTokens_of_valid strayParser (show message.symbol Node.type = .message from rfl)
    (by decide) (split ▸ modal) (Or.inr rfl)
  rw [split] at parsed
  have leaves : tree.visibleLeaves = strayTokens.take 1 := by
    rw [Node.visibleLeaves, Node.visibleLeaves_eq_yield tree, shape]
    · rfl
    · rw [shape]
      decide
    · rw [shape]
      exact fun token member => childless token (List.mem_append_left (strayTokens.drop 1) member)
  refine ⟨tree, lexIntoTokens_strayParser, ?_, leaves, ?_⟩
  · rw [parseIntoTree_of_lexIntoTokens lexIntoTokens_strayParser, parsed]
  · rw [leaves]
    exact fun same => absurd (congrArg List.length same) (by decide)

end FlutterZero.FlutterTools
