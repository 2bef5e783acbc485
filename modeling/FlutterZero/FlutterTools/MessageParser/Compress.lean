import FlutterZero.FlutterTools.MessageParser.Tokens

/-! # Compressed trees and the extra rules

The parts of a message, of a plural and of a select are a linked list in the
derivation; after `compress` they are the children of one node.  `checkExtraRules`
then looks at every node of the compressed tree.
-/

namespace FlutterZero.FlutterTools

open FlutterZero.Lib

/-! ## Compressed trees -/

def partsOf : List SyntaxTree → List SyntaxTree
  | [first, .node _ children] => first :: partsOf children
  | _ => []

/-- The second tree has the parts of every list of the first one as children, at every depth. -/
inductive Flattens : SyntaxTree → SyntaxTree → Prop where
  | token (token : Node) : Flattens (.token token) (.token token)
  | epsilon (symbol : ST) : Flattens (.epsilon symbol) (.epsilon symbol)
  | list {symbol : ST} {children parts : List SyntaxTree} (isList : symbol.isList = true)
      (flat : List.Forall₂ Flattens (partsOf children) parts) : Flattens (.node symbol children) (.node symbol parts)
  | other {symbol : ST} {children children' : List SyntaxTree} (notList : symbol.isList = false)
      (flat : List.Forall₂ Flattens children children') :
      Flattens (.node symbol children) (.node symbol children')

variable {symbol : ST}

theorem rule_of_isList (isList : symbol.isList = true) {rule : List ST} (member : rule ∈ grammar symbol) :
    (∃ part, rule = [part, symbol]) ∨ rule = [.empty] := by
  cases symbol <;> simp only [grammar, List.mem_cons, List.not_mem_nil, or_false] at member
  case message =>
    rcases member with rfl | rfl | rfl | rfl | rfl | rfl
    all_goals first | exact Or.inr rfl | exact Or.inl ⟨_, rfl⟩
  case pluralParts | selectParts =>
    rcases member with rfl | rfl
    · exact Or.inl ⟨_, rfl⟩
    · exact Or.inr rfl
  all_goals cases isList

theorem nonterminal_of_isList (isList : symbol.isList = true) : symbol.kind = .nonterminal := by
  revert isList
  cases symbol <;> decide

theorem not_isList_of_kind (other : symbol.kind ≠ .nonterminal) : symbol.isList = false := by
  cases isList : symbol.isList with
  | false => rfl
  | true => exact absurd (nonterminal_of_isList isList) other

namespace Node

variable {node : Node}

theorem compress_of_isList (isList : node.type.isList = true) :
    node.compress = { node with children := compressParts node.children } := by
  obtain ⟨type, positionInMessage, expectedSymbolCount, value, children⟩ := node
  replace isList : type.isList = true := isList
  cases type <;> first | exact absurd isList (by decide) | rfl

theorem compress_of_not_isList (notList : node.type.isList = false) :
    node.compress = { node with children := compressAll node.children } := by
  obtain ⟨type, positionInMessage, expectedSymbolCount, value, children⟩ := node
  replace notList : type.isList = false := notList
  cases type <;> first | exact absurd notList (by decide) | rfl

theorem compressAll_eq_map (nodes : List Node) : compressAll nodes = nodes.map compress := by
  induction nodes with
  | nil => rfl
  | cons node nodes ih => rw [compressAll, ih, List.map_cons]

theorem type_compress (node : Node) : node.compress.type = node.type := by
  cases isList : node.type.isList with
  | true => rw [compress_of_isList isList]
  | false => rw [compress_of_not_isList isList]

structure Derived (node : Node) : Prop where
  ok : node.shape.valid icuGrammar Node.type = true
  childless : ∀ token ∈ node.shape.yield, token.children = []

theorem Derived.child {child : Node} (derived : node.Derived) (nonterminal : node.type.kind = .nonterminal)
    (member : child ∈ node.children) : child.Derived := by
  obtain ⟨ok, childless⟩ := derived
  rw [shape_node nonterminal] at ok childless
  replace ok := (ParseTree.valid_node.mp ok).2.2
  replace childless : ∀ token ∈ ParseTree.yieldAll (node.children.map shape), token.children = [] := childless
  generalize node.children = children at ok childless member
  induction children with
  | nil => cases member
  | cons first children ih =>
    rw [List.map_cons, ParseTree.validAll_cons] at ok
    rw [List.map_cons, ParseTree.yieldAll_cons] at childless
    rcases List.mem_cons.mp member with rfl | later
    · exact ⟨ok.1, fun token inside => childless token (List.mem_append_left _ inside)⟩
    · exact ih ok.2 (fun token inside => childless token (List.mem_append_right _ inside)) later

theorem Derived.rule (derived : node.Derived) (nonterminal : node.type.kind = .nonterminal) :
    node.children.map Node.type ∈ grammar node.type := by
  have ok := derived.ok
  rw [shape_node nonterminal] at ok
  have member := (ParseTree.valid_node.mp ok).2.1
  rw [List.map_map] at member
  rwa [show (ParseTree.symbol Node.type ∘ shape) = Node.type from funext symbol_shape] at member

theorem Derived.children_eq_nil (derived : node.Derived) (terminal : node.type.kind ≠ .nonterminal) :
    node.children = [] := by
  obtain ⟨type, positionInMessage, expectedSymbolCount, value, children⟩ := node
  cases kind : type.kind with
  | terminal =>
    have childless := derived.childless
    rw [shape_token kind] at childless
    exact childless _ (List.mem_singleton_self _)
  | epsilon =>
    cases children with
    | nil => rfl
    | cons child children =>
      have ok := derived.ok
      simp [shape, kind, ParseTree.valid, icuGrammar] at ok
  | nonterminal => exact absurd kind terminal

mutual

theorem flattens_compress : ∀ node : Node, node.Derived → Flattens node.shape node.compress.shape
  | ⟨type, positionInMessage, expectedSymbolCount, value, children⟩, derived => by
    cases kind : type.kind with
    | nonterminal =>
      have same := type_compress ⟨type, positionInMessage, expectedSymbolCount, value, children⟩
      rw [shape_node kind, shape_node (by rw [same]; exact kind), same]
      cases isList : type.isList with
      | true =>
        refine .list isList ?_
        rw [compress_of_isList isList]
        exact flattens_compressParts children type isList (derived.rule kind) fun child member => derived.child kind member
      | false =>
        refine .other isList ?_
        rw [compress_of_not_isList isList]
        exact flattens_compressAll children fun child member => derived.child kind member
    | terminal =>
      obtain rfl : children = [] := derived.children_eq_nil fun nonterminal => by cases kind.symm.trans nonterminal
      have same : compress ⟨type, positionInMessage, expectedSymbolCount, value, []⟩ =
          ⟨type, positionInMessage, expectedSymbolCount, value, []⟩ :=
        compress_of_not_isList (not_isList_of_kind fun nonterminal => by cases kind.symm.trans nonterminal)
      rw [same, shape_token kind]
      exact .token _
    | epsilon =>
      obtain rfl : children = [] := derived.children_eq_nil fun nonterminal => by cases kind.symm.trans nonterminal
      obtain rfl := kind_eq_epsilon.mp kind
      exact .epsilon _

theorem flattens_compressParts : ∀ (children : List Node) (type : ST), type.isList = true →
    children.map Node.type ∈ grammar type → (∀ child ∈ children, child.Derived) →
    List.Forall₂ Flattens (partsOf (children.map shape)) ((compressParts children).map shape)
  | [], _, _, _, _ => by simp [partsOf, compressParts]
  | [_], _, _, _, _ => by simp [partsOf, compressParts]
  | [first, ⟨type', positionInMessage, expectedSymbolCount, value, children⟩], type, isList, rule, derived => by
    have same : type' = type := by
      rcases rule_of_isList isList rule with ⟨part, roots⟩ | roots
      · simp only [List.map_cons, List.map_nil, List.cons.injEq] at roots
        exact roots.2.1
      · simp at roots
    subst same
    have kind := nonterminal_of_isList isList
    have next : Node.Derived ⟨type', positionInMessage, expectedSymbolCount, value, children⟩ := derived _ (by simp)
    have shape_next : shape ⟨type', positionInMessage, expectedSymbolCount, value, children⟩ =
        .node type' (children.map shape) := shape_node kind
    rw [List.map_cons, List.map_singleton, shape_next, partsOf, compressParts, List.map_cons]
    exact .cons (flattens_compress first (derived first (by simp)))
      (flattens_compressParts children type' isList (next.rule kind) fun child member => next.child kind member)
  | _ :: _ :: _ :: _, type, isList, rule, _ => by
    rcases rule_of_isList isList rule with ⟨part, roots⟩ | roots <;> simp at roots

theorem flattens_compressAll : ∀ children : List Node, (∀ child ∈ children, child.Derived) →
    List.Forall₂ Flattens (children.map shape) ((compressAll children).map shape)
  | [], _ => .nil
  | child :: children, derived =>
    .cons (flattens_compress child (derived child (List.mem_cons_self ..)))
      (flattens_compressAll children fun other member => derived other (List.mem_cons_of_mem _ member))

end

/-! ## The nodes of a compressed tree -/

mutual

def nodes : Node → List Node
  | ⟨type, positionInMessage, expectedSymbolCount, value, children⟩ =>
    ⟨type, positionInMessage, expectedSymbolCount, value, children⟩ :: nodesAll children

def nodesAll : List Node → List Node
  | [] => []
  | node :: others => nodes node ++ nodesAll others

end

theorem mem_nodesAll {others : List Node} : node ∈ nodesAll others ↔ ∃ other ∈ others, node ∈ other.nodes := by
  induction others with
  | nil => simp [nodesAll]
  | cons other others ih => simp [nodesAll, ih]

variable {tree : Node}

theorem mem_nodes : node ∈ tree.nodes ↔ node = tree ∨ ∃ child ∈ tree.children, node ∈ child.nodes := by
  obtain ⟨type, positionInMessage, expectedSymbolCount, value, children⟩ := tree
  rw [nodes, List.mem_cons, mem_nodesAll]

theorem sizeOf_child_lt {child : Node} (member : child ∈ node.children) : sizeOf child < sizeOf node := by
  obtain ⟨type, positionInMessage, expectedSymbolCount, value, children⟩ := node
  have smaller : sizeOf child < sizeOf children := List.sizeOf_lt_of_mem member
  rw [Node.mk.sizeOf_spec]
  omega

theorem mem_nodes_self (tree : Node) : tree ∈ tree.nodes := mem_nodes.mpr (Or.inl rfl)

theorem child_mem_nodes : ∀ {tree node child : Node}, node ∈ tree.nodes → child ∈ node.children → child ∈ tree.nodes
  | ⟨type, positionInMessage, expectedSymbolCount, value, children⟩, node, child, inside, below => by
    rcases mem_nodes.mp inside with rfl | ⟨other, member, inside⟩
    · exact mem_nodes.mpr (Or.inr ⟨child, below, mem_nodes_self child⟩)
    · exact mem_nodes.mpr (Or.inr ⟨other, member, child_mem_nodes inside below⟩)
termination_by tree => sizeOf tree
decreasing_by exact sizeOf_child_lt member

theorem forall_mem_nodes {P : Node → Prop} (below : ∀ node, P node → ∀ child ∈ node.children, P child) :
    ∀ tree : Node, P tree → ∀ node ∈ tree.nodes, P node
  | ⟨type, positionInMessage, expectedSymbolCount, value, children⟩, root, node, inside => by
    rcases mem_nodes.mp inside with rfl | ⟨child, member, inside⟩
    · exact root
    · exact forall_mem_nodes below child (below _ root child member) node inside
termination_by tree => sizeOf tree
decreasing_by exact sizeOf_child_lt member

theorem exists_parent (inside : node ∈ tree.nodes) : node = tree ∨ ∃ parent ∈ tree.nodes, node ∈ parent.children := by
  have placed := forall_mem_nodes
    (show ∀ node, (node ∈ tree.nodes ∧ (node = tree ∨ ∃ parent ∈ tree.nodes, node ∈ parent.children)) →
      ∀ child ∈ node.children, child ∈ tree.nodes ∧ (child = tree ∨ ∃ parent ∈ tree.nodes, child ∈ parent.children)
      from fun node ⟨inside, _⟩ child member => ⟨child_mem_nodes inside member, Or.inr ⟨node, inside, member⟩⟩)
    tree ⟨mem_nodes_self tree, Or.inl rfl⟩ node inside
  exact placed.2

theorem mem_compressParts : ∀ (children : List Node) {type : ST}, type.isList = true →
    children.map Node.type ∈ grammar type → (∀ child ∈ children, child.Derived) →
    ∀ part ∈ compressParts children, ∃ first : Node, first.Derived ∧ part = first.compress ∧
      [first.type, type] ∈ grammar type
  | [], _, _, _, _ => by simp [compressParts]
  | [_], _, _, _, _ => by simp [compressParts]
  | [first, ⟨type', positionInMessage, expectedSymbolCount, value, children⟩], type, isList, rule, derived => by
    intro part member
    have same : type' = type := by
      rcases rule_of_isList isList rule with ⟨_, roots⟩ | roots
      · simp only [List.map_cons, List.map_nil, List.cons.injEq] at roots
        exact roots.2.1
      · simp at roots
    subst same
    rw [compressParts, List.mem_cons] at member
    rcases member with rfl | later
    · exact ⟨first, derived first (by simp), rfl, rule⟩
    · have kind := nonterminal_of_isList isList
      have next : Node.Derived ⟨type', positionInMessage, expectedSymbolCount, value, children⟩ := derived _ (by simp)
      exact mem_compressParts children isList (next.rule kind) (fun child inside => next.child kind inside) part later
  | _ :: _ :: _ :: _, type, isList, rule, _ => by
    rcases rule_of_isList isList rule with ⟨part, roots⟩ | roots <;> simp at roots

theorem Derived.mem_compress_children (derived : node.Derived) {child : Node}
    (member : child ∈ node.compress.children) :
    ∃ origin : Node, origin.Derived ∧ child = origin.compress ∧ ∃ rule ∈ grammar node.type, origin.type ∈ rule ∧
      (node.type.isList = true → rule = [origin.type, node.type]) := by
  cases isList : node.type.isList with
  | true =>
    have kind := nonterminal_of_isList isList
    rw [compress_of_isList isList] at member
    obtain ⟨first, first_derived, rfl, rule⟩ := mem_compressParts node.children isList (derived.rule kind)
      (fun child inside => derived.child kind inside) child member
    exact ⟨first, first_derived, rfl, _, rule, List.mem_cons_self .., fun _ => rfl⟩
  | false =>
    rw [compress_of_not_isList isList, compressAll_eq_map] at member
    obtain ⟨origin, inside, rfl⟩ := List.mem_map.mp member
    by_cases kind : node.type.kind = .nonterminal
    · exact ⟨origin, derived.child kind inside, rfl, _, derived.rule kind, List.mem_map_of_mem inside, by simp⟩
    · rw [derived.children_eq_nil kind] at inside
      cases inside

theorem Derived.exists_origin (derived : tree.Derived) (inside : node ∈ tree.compress.nodes) :
    ∃ origin : Node, origin.Derived ∧ node = origin.compress := by
  have below : ∀ node : Node, (∃ origin : Node, origin.Derived ∧ node = origin.compress) →
      ∀ child ∈ node.children, ∃ origin : Node, origin.Derived ∧ child = origin.compress := by
    rintro node ⟨origin, origin_derived, rfl⟩ child member
    obtain ⟨origin', derived', same, -⟩ := origin_derived.mem_compress_children member
    exact ⟨origin', derived', same⟩
  exact forall_mem_nodes below tree.compress ⟨tree, derived, rfl⟩ node inside

end Node

/-! ## The extra rules -/

def Node.StartsWith (type : ST) (part : Node) : Prop := ∃ first ∈ part.children.head?, first.type = type

/-- Some plural or select has no part for "other", or some plural part is for a case that does not exist. -/
def BreaksExtraRules (tree : Node) : Prop :=
  (∃ node ∈ tree.nodes, (node.type = .pluralParts ∨ node.type = .selectParts) ∧
    ∀ part ∈ node.children, ¬ part.StartsWith .other) ∨
  ∃ node ∈ tree.nodes, node.type = .pluralPart ∧
    ∃ first ∈ node.children.head?, first.type = .identifier ∧ first.value ∉ Parser.validIdentifiers.map some

namespace Parser

mutual

theorem checkExtraRules_eq_ok : ∀ tree : Node,
    checkExtraRules tree = .ok () ↔ ∀ node ∈ tree.nodes, checkNode node = .ok ()
  | ⟨type, positionInMessage, expectedSymbolCount, value, children⟩ => by
    rw [checkExtraRules, bind_eq_ok, Node.nodes, List.forall_mem_cons, ← checkAllExtraRules_eq_ok children]
    exact ⟨fun ⟨_, first, others⟩ => ⟨first, others⟩, fun ⟨first, others⟩ => ⟨(), first, others⟩⟩

theorem checkAllExtraRules_eq_ok : ∀ children : List Node,
    checkAllExtraRules children = .ok () ↔ ∀ node ∈ Node.nodesAll children, checkNode node = .ok ()
  | [] => by simp [checkAllExtraRules, Node.nodesAll]
  | child :: children => by
    rw [checkAllExtraRules, bind_eq_ok, Node.nodesAll, List.forall_mem_append, ← checkExtraRules_eq_ok child,
      ← checkAllExtraRules_eq_ok children]
    exact ⟨fun ⟨_, first, others⟩ => ⟨first, others⟩, fun ⟨first, others⟩ => ⟨(), first, others⟩⟩

end

theorem firstToken_eq_ok {part first : Node} {others : List Node} (children : part.children = first :: others) :
    firstToken part = .ok first := by
  rw [firstToken, children]

theorem checkOther_eq_ok (error : Utf16) (tree : Node) {parts : List Node}
    (nonempty : ∀ part ∈ parts, part.children ≠ []) :
    checkOther error tree parts = .ok () ↔ ∃ part ∈ parts, part.StartsWith .other := by
  induction parts with
  | nil => simp [checkOther]
  | cons part parts ih =>
    obtain ⟨first, others, children⟩ := List.exists_cons_of_ne_nil (nonempty part (List.mem_cons_self ..))
    have starts : part.StartsWith .other ↔ first.type = .other := by simp [Node.StartsWith, children]
    rw [checkOther, firstToken_eq_ok children, ok_bind, List.exists_mem_cons_iff, starts,
      ← ih fun part member => nonempty part (List.mem_cons_of_mem _ member)]
    split <;> simp_all

theorem checkIdentifiers_eq_ok {parts : List Node} (nonempty : ∀ part ∈ parts, part.children ≠ []) :
    checkIdentifiers parts = .ok () ↔ ∀ part ∈ parts, ∀ first ∈ part.children.head?, isInvalidCase first = false := by
  induction parts with
  | nil => simp [checkIdentifiers]
  | cons part parts ih =>
    obtain ⟨first, others, children⟩ := List.exists_cons_of_ne_nil (nonempty part (List.mem_cons_self ..))
    rw [checkIdentifiers, firstToken_eq_ok children, ok_bind, List.forall_mem_cons, children,
      ← ih fun part member => nonempty part (List.mem_cons_of_mem _ member)]
    split <;> simp_all

theorem isInvalidCase_iff {token : Node} :
    isInvalidCase token = true ↔ token.type = .identifier ∧ token.value ∉ validIdentifiers.map some := by
  simp [isInvalidCase]

theorem checkNode_eq_ok {node : Node}
    (nonempty : node.type = .pluralParts ∨ node.type = .selectParts → ∀ part ∈ node.children, part.children ≠ []) :
    checkNode node = .ok () ↔
      (node.type = .pluralParts ∨ node.type = .selectParts → ∃ part ∈ node.children, part.StartsWith .other) ∧
        (node.type = .pluralParts → ∀ part ∈ node.children, ∀ first ∈ part.children.head?,
          isInvalidCase first = false) := by
  unfold checkNode
  split
  · rename_i plural
    have nonempty := nonempty (Or.inl plural)
    rw [bind_eq_ok]
    simp only [checkOther_eq_ok _ _ nonempty, checkIdentifiers_eq_ok nonempty, plural, true_or, forall_const,
      exists_const]
  · rename_i select
    rw [checkOther_eq_ok _ _ (nonempty (Or.inr select))]
    simp [select]
  · rename_i not_plural not_select
    have neither : ¬ (node.type = .pluralParts ∨ node.type = .selectParts) := not_or.mpr ⟨not_plural, not_select⟩
    exact ⟨fun _ => ⟨fun parts => absurd parts neither, fun plural => absurd plural not_plural⟩, fun _ => rfl⟩

end Parser

namespace Node

theorem eq_pluralPart_of_rule {type : ST} (rule : [type, .pluralParts] ∈ grammar .pluralParts) : type = .pluralPart := by
  simpa [grammar] using rule

theorem eq_selectPart_of_rule {type : ST} (rule : [type, .selectParts] ∈ grammar .selectParts) : type = .selectPart := by
  simpa [grammar] using rule

theorem eq_pluralParts_of_mem {type : ST} {rule : List ST} (member : rule ∈ grammar type) (part : .pluralPart ∈ rule) :
    type = .pluralParts := by
  have only : ∀ rule ∈ grammar type, ST.pluralPart ∈ rule → type = .pluralParts := by
    cases type <;> decide
  exact only rule member part

theorem Derived.parts {node part : Node} (derived : node.Derived)
    (parts : node.type = .pluralParts ∨ node.type = .selectParts) (member : part ∈ node.compress.children) :
    part.children ≠ [] ∧ (node.type = .pluralParts → part.type = .pluralPart) := by
  obtain ⟨origin, origin_derived, rfl, rule, inside, -, list_rule⟩ := derived.mem_compress_children member
  have isList : node.type.isList = true := by
    rcases parts with same | same <;> rw [same] <;> rfl
  obtain rfl := list_rule isList
  have type : origin.type = .pluralPart ∨ origin.type = .selectPart := by
    rcases parts with same | same
    · rw [same] at inside
      exact Or.inl (eq_pluralPart_of_rule inside)
    · rw [same] at inside
      exact Or.inr (eq_selectPart_of_rule inside)
  have kind : origin.type.kind = .nonterminal := by
    rcases type with same | same <;> rw [same] <;> rfl
  have notList : origin.type.isList = false := by
    rcases type with same | same <;> rw [same] <;> rfl
  constructor
  · intro none_left
    rw [compress_of_not_isList notList, compressAll_eq_map] at none_left
    have empty : origin.children = [] := List.map_eq_nil_iff.mp none_left
    have rule := origin_derived.rule kind
    rw [empty] at rule
    exact rule_ne_nil rule rfl
  · intro plural
    rw [plural] at inside
    rw [type_compress]
    exact eq_pluralPart_of_rule inside

end Node

theorem checkExtraRules_throws_iff {tree : Node} (derived : tree.Derived) (root : tree.type = .message) :
    (∃ error, Parser.checkExtraRules tree.compress = .error error) ↔ BreaksExtraRules tree.compress := by
  have throws : (∃ error, Parser.checkExtraRules tree.compress = .error error) ↔
      ¬ Parser.checkExtraRules tree.compress = .ok () := by
    cases Parser.checkExtraRules tree.compress <;> simp
  have nonempty : ∀ node ∈ tree.compress.nodes, node.type = .pluralParts ∨ node.type = .selectParts →
      ∀ part ∈ node.children, part.children ≠ [] := by
    intro node inside parts part member
    obtain ⟨origin, origin_derived, rfl⟩ := derived.exists_origin inside
    rw [Node.type_compress] at parts
    exact (origin_derived.parts parts member).1
  rw [throws, Parser.checkExtraRules_eq_ok]
  constructor
  · intro fails
    push Not at fails
    obtain ⟨node, inside, fails⟩ := fails
    rw [Ne, Parser.checkNode_eq_ok (nonempty node inside), not_and_or] at fails
    rcases fails with other | case_
    · push Not at other
      exact Or.inl ⟨node, inside, other.1, other.2⟩
    · push Not at case_
      obtain ⟨plural, part, member, first, starts, invalid⟩ := case_
      obtain ⟨origin, origin_derived, rfl⟩ := derived.exists_origin inside
      have plural' := plural
      rw [Node.type_compress] at plural'
      refine Or.inr ⟨part, Node.child_mem_nodes inside member, (origin_derived.parts (Or.inl plural') member).2 plural', ?_⟩
      exact ⟨first, starts, Parser.isInvalidCase_iff.mp (by simpa using invalid)⟩
  · rintro (⟨node, inside, parts, other⟩ | ⟨part, inside, type, first, starts, invalid⟩) all
    · obtain ⟨part, member, starts⟩ := ((Parser.checkNode_eq_ok (nonempty node inside)).mp (all node inside)).1 parts
      exact other part member starts
    · -- the part is a child of a plural, since the root is a message
      rcases Node.exists_parent inside with rfl | ⟨parent, above, member⟩
      · rw [Node.type_compress, root] at type
        cases type
      · obtain ⟨origin, origin_derived, rfl⟩ := derived.exists_origin above
        obtain ⟨child, -, rfl, rule, rule_member, type_member, -⟩ := origin_derived.mem_compress_children member
        rw [Node.type_compress] at type
        rw [type] at type_member
        have plural : origin.compress.type = .pluralParts := by
          rw [Node.type_compress]
          exact Node.eq_pluralParts_of_mem rule_member type_member
        have fine := ((Parser.checkNode_eq_ok (nonempty _ above)).mp (all _ above)).2 plural _ member first starts
        rw [Parser.isInvalidCase_iff.mpr invalid] at fine
        cases fine

/-- Every derivation of the tokens of a message is parsed and compressed, and checked by the extra rules. -/
theorem parse_of_derivation (messageString : Utf16) (useEscaping : Bool) (tokens : List Node)
    (lexed : Parser.lexIntoTokens ⟨messageString, useEscaping, none⟩ = .ok tokens) (derivation : SyntaxTree)
    (root : derivation.symbol Node.type = .message) (ok : derivation.valid icuGrammar Node.type = true)
    (yields : derivation.yield = tokens) :
    ∃ tree, Parser.parseIntoTree ⟨messageString, useEscaping, none⟩ = .ok tree ∧ tree.shape = derivation ∧
      Flattens derivation tree.compress.shape ∧
      ((∃ error, Parser.parse ⟨messageString, useEscaping, none⟩ = .error error) ↔ BreaksExtraRules tree.compress) := by
  obtain ⟨modal, childless⟩ := modal_of_lexIntoTokens lexed
  rw [← yields, ← List.append_nil derivation.yield] at modal
  obtain ⟨tree, parsed, shape⟩ := parseTokens_of_valid ⟨messageString, useEscaping, none⟩ root ok modal (Or.inl rfl)
  rw [List.append_nil, yields] at parsed
  have parsed' := (parseIntoTree_of_lexIntoTokens lexed).trans parsed
  have derived : tree.Derived := by
    refine ⟨by rw [shape]; exact ok, ?_⟩
    rw [shape, yields]
    exact childless
  have type : tree.type = .message := by rw [← Node.symbol_shape, shape, root]
  refine ⟨tree, parsed', shape, shape ▸ Node.flattens_compress tree derived, ?_⟩
  rw [← checkExtraRules_throws_iff derived type, Parser.parse, parsed', ok_bind]
  cases checked : Parser.checkExtraRules tree.compress with
  | error error => exact ⟨fun _ => ⟨error, rfl⟩, fun _ => ⟨error, by simp [checked]⟩⟩
  | ok _ => simp [checked]

/-- The message `{n,plural,other{}}`. -/
def pluralMessage : Utf16 :=
  units ['{', 'n', ',', 'p', 'l', 'u', 'r', 'a', 'l', ',', 'o', 't', 'h', 'e', 'r', '{', '}', '}']

def pluralDerivation : SyntaxTree :=
  .node .message [
    .node .pluralExpr [
      .token (Node.token .openBrace 0 (units ['{'])), .token (Node.token .identifier 1 (units ['n'])),
      .token (Node.token .comma 2 (units [','])),
      .token (Node.token .plural 3 (units ['p', 'l', 'u', 'r', 'a', 'l'])), .token (Node.token .comma 9 (units [','])),
      .node .pluralParts [
        .node .pluralPart [
          .token (Node.token .other 10 (units ['o', 't', 'h', 'e', 'r'])), .token (Node.token .openBrace 15 (units ['{'])),
          .node .message [.epsilon .empty], .token (Node.token .closeBrace 16 (units ['}']))],
        .node .pluralParts [.epsilon .empty]],
      .token (Node.token .closeBrace 17 (units ['}']))],
    .node .message [.epsilon .empty]]

theorem lexIntoTokens_pluralMessage :
    Parser.lexIntoTokens ⟨pluralMessage, false, none⟩ = .ok pluralDerivation.yield := by
  rw [Parser.lexIntoTokens, Parser.lexFrom_next _ (by decide) rfl, Parser.lexFrom_next _ (by decide) rfl,
    Parser.lexFrom_next _ (by decide) rfl, Parser.lexFrom_next _ (by decide) rfl,
    Parser.lexFrom_next _ (by decide) rfl, Parser.lexFrom_next _ (by decide) rfl,
    Parser.lexFrom_next _ (by decide) rfl, Parser.lexFrom_next _ (by decide) rfl,
    Parser.lexFrom_next _ (by decide) rfl, Parser.lexFrom_end _ (by decide)]
  rfl

theorem parse_of_derivation_pluralMessage :
    ∃ tree, Parser.parseIntoTree ⟨pluralMessage, false, none⟩ = .ok tree ∧ tree.shape = pluralDerivation ∧
      Flattens pluralDerivation tree.compress.shape ∧
      ((∃ error, Parser.parse ⟨pluralMessage, false, none⟩ = .error error) ↔ BreaksExtraRules tree.compress) :=
  parse_of_derivation pluralMessage false _ lexIntoTokens_pluralMessage pluralDerivation rfl (by decide) rfl

end FlutterZero.FlutterTools
