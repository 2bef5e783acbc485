import Mathlib

/-! # Context-free grammars and predictive parsing

A grammar over a type of symbols, the derivation trees of a list of tokens, and
what a predictive parser does: for a nonterminal it looks at the tokens that are
left and decides on one rule.

* `ParseTree.valid`, `ParseTree.yield`, `Derives` — derivations as trees;
* `Predicts choose symbols tokens forest rest` — the parser that decides by
  `choose` reads `symbols` from `tokens`, and leaves `rest`;
* `Predicts.valid`, `Predicts.tokens_eq` — what is read is a derivation of the
  tokens that were consumed.
-/

namespace FlutterZero.Lib

/-- A terminal stands for one token, `epsilon` for none. -/
inductive SymbolKind where
  | terminal
  | epsilon
  | nonterminal
deriving DecidableEq, Repr

structure Grammar (Symbol : Type) where
  kind : Symbol → SymbolKind
  rules : Symbol → List (List Symbol)

inductive ParseTree (Symbol Token : Type) where
  | token (token : Token)
  | epsilon (symbol : Symbol)
  | node (symbol : Symbol) (children : List (ParseTree Symbol Token))

variable {Symbol Token : Type}

namespace ParseTree

def symbol (typeOf : Token → Symbol) : ParseTree Symbol Token → Symbol
  | token t => typeOf t
  | epsilon s => s
  | node s _ => s

mutual

def yield : ParseTree Symbol Token → List Token
  | token t => [t]
  | epsilon _ => []
  | node _ children => yieldAll children

def yieldAll : List (ParseTree Symbol Token) → List Token
  | [] => []
  | tree :: trees => yield tree ++ yieldAll trees

end

@[simp] theorem yieldAll_nil : yieldAll ([] : List (ParseTree Symbol Token)) = [] := rfl

@[simp] theorem yieldAll_cons (tree : ParseTree Symbol Token) (trees : List (ParseTree Symbol Token)) :
    yieldAll (tree :: trees) = yield tree ++ yieldAll trees := rfl

variable [DecidableEq Symbol] (grammar : Grammar Symbol) (typeOf : Token → Symbol)

mutual

def valid : ParseTree Symbol Token → Bool
  | token t => grammar.kind (typeOf t) == .terminal
  | epsilon s => grammar.kind s == .epsilon
  | node s children =>
    grammar.kind s == .nonterminal && (grammar.rules s).contains (children.map (symbol typeOf)) && validAll children

def validAll : List (ParseTree Symbol Token) → Bool
  | [] => true
  | tree :: trees => valid tree && validAll trees

end

variable {grammar typeOf} {s : Symbol}

theorem valid_node {children : List (ParseTree Symbol Token)} : valid grammar typeOf (.node s children) = true ↔
      grammar.kind s = .nonterminal ∧ children.map (symbol typeOf) ∈ grammar.rules s ∧
        validAll grammar typeOf children = true := by
  simp [valid, and_assoc]

variable {tree : ParseTree Symbol Token}

theorem validAll_cons {trees : List (ParseTree Symbol Token)} : validAll grammar typeOf (tree :: trees) = true ↔
      valid grammar typeOf tree = true ∧ validAll grammar typeOf trees = true := by
  simp [validAll]

theorem eq_token_of_valid (terminal : grammar.kind s = .terminal)
    (ok : valid grammar typeOf tree = true) (root : tree.symbol typeOf = s) :
    ∃ t, tree = .token t ∧ typeOf t = s := by
  cases tree with
  | token t => exact ⟨t, rfl, root⟩
  | epsilon s' =>
    obtain rfl : s' = s := root
    simp [valid, terminal] at ok
  | node s' children =>
    obtain rfl : s' = s := root
    simp [valid, terminal] at ok

theorem eq_epsilon_of_valid (empty : grammar.kind s = .epsilon)
    (ok : valid grammar typeOf tree = true) (root : tree.symbol typeOf = s) : tree = .epsilon s := by
  cases tree with
  | token t =>
    obtain rfl : typeOf t = s := root
    simp [valid, empty] at ok
  | epsilon s' =>
    obtain rfl : s' = s := root
    rfl
  | node s' children =>
    obtain rfl : s' = s := root
    simp [valid, empty] at ok

theorem eq_node_of_valid (nonterminal : grammar.kind s = .nonterminal)
    (ok : valid grammar typeOf tree = true) (root : tree.symbol typeOf = s) :
    ∃ children, tree = .node s children ∧ children.map (symbol typeOf) ∈ grammar.rules s ∧
      validAll grammar typeOf children = true := by
  cases tree with
  | token t =>
    obtain rfl : typeOf t = s := root
    simp [valid, nonterminal] at ok
  | epsilon s' =>
    obtain rfl : s' = s := root
    simp [valid, nonterminal] at ok
  | node s' children =>
    obtain rfl : s' = s := root
    exact ⟨children, rfl, (valid_node.mp ok).2⟩

theorem yieldAll_of_terminals {symbols rest : List Symbol} {trees : List (ParseTree Symbol Token)}
    (terminal : ∀ s ∈ symbols, grammar.kind s = .terminal) (ok : validAll grammar typeOf trees = true)
    (roots : trees.map (symbol typeOf) = symbols ++ rest) :
    ∃ tokens others, yieldAll trees = tokens ++ yieldAll others ∧ tokens.map typeOf = symbols ∧
      others.map (symbol typeOf) = rest ∧ validAll grammar typeOf others = true := by
  induction symbols generalizing trees with
  | nil => exact ⟨[], trees, rfl, rfl, roots, ok⟩
  | cons s symbols ih =>
    obtain ⟨tree, trees, rfl, root, following⟩ := List.map_eq_cons_iff.mp roots
    obtain ⟨first, later⟩ := validAll_cons.mp ok
    obtain ⟨t, rfl, type⟩ := eq_token_of_valid (terminal s (List.mem_cons_self ..)) first root
    obtain ⟨tokens, others, yields, types, others_roots, others_ok⟩ :=
      ih (fun s member => terminal s (List.mem_cons_of_mem _ member)) later following
    exact ⟨t :: tokens, others, congrArg (t :: ·) yields, by rw [List.map_cons, type, types],
      others_roots, others_ok⟩

end ParseTree

def Derives [DecidableEq Symbol] (grammar : Grammar Symbol) (typeOf : Token → Symbol) (symbol : Symbol)
    (tokens : List Token) : Prop :=
  ∃ tree : ParseTree Symbol Token, tree.symbol typeOf = symbol ∧ tree.valid grammar typeOf = true ∧
    tree.yield = tokens

/-! ## Predictive parsing -/

/-- The parser that decides by `choose` reads the symbols from the tokens, and leaves the rest. -/
inductive Predicts (grammar : Grammar Symbol) (typeOf : Token → Symbol)
    (choose : Symbol → List Token → Option (List Symbol)) :
    List Symbol → List Token → List (ParseTree Symbol Token) → List Token → Prop where
  | nil {tokens : List Token} : Predicts grammar typeOf choose [] tokens [] tokens
  | token {s : Symbol} {symbols : List Symbol} {t : Token} {tokens rest : List Token}
      {forest : List (ParseTree Symbol Token)} (terminal : grammar.kind s = .terminal) (same : typeOf t = s)
      (tail : Predicts grammar typeOf choose symbols tokens forest rest) :
      Predicts grammar typeOf choose (s :: symbols) (t :: tokens) (.token t :: forest) rest
  | epsilon {s : Symbol} {symbols : List Symbol} {tokens rest : List Token}
      {forest : List (ParseTree Symbol Token)} (empty : grammar.kind s = .epsilon)
      (tail : Predicts grammar typeOf choose symbols tokens forest rest) :
      Predicts grammar typeOf choose (s :: symbols) tokens (.epsilon s :: forest) rest
  | node {s : Symbol} {symbols rule : List Symbol} {tokens middle rest : List Token}
      {children forest : List (ParseTree Symbol Token)} (nonterminal : grammar.kind s = .nonterminal)
      (chosen : choose s tokens = some rule)
      (inner : Predicts grammar typeOf choose rule tokens children middle)
      (tail : Predicts grammar typeOf choose symbols middle forest rest) :
      Predicts grammar typeOf choose (s :: symbols) tokens (.node s children :: forest) rest

namespace Predicts

variable {grammar : Grammar Symbol} {typeOf : Token → Symbol} {choose : Symbol → List Token → Option (List Symbol)}
  {symbols symbols' : List Symbol} {tokens rest : List Token} {forest : List (ParseTree Symbol Token)}

theorem roots (parsed : Predicts grammar typeOf choose symbols tokens forest rest) :
    forest.map (ParseTree.symbol typeOf) = symbols := by
  induction parsed with
  | nil => rfl
  | token _ same _ ih => rw [List.map_cons, ih, ParseTree.symbol, same]
  | epsilon _ _ ih => rw [List.map_cons, ih, ParseTree.symbol]
  | node _ _ _ _ _ ih => rw [List.map_cons, ih, ParseTree.symbol]

theorem tokens_eq (parsed : Predicts grammar typeOf choose symbols tokens forest rest) :
    tokens = ParseTree.yieldAll forest ++ rest := by
  induction parsed with
  | nil => rfl
  | token _ _ _ ih => rw [ih]; rfl
  | epsilon _ _ ih => rw [ih]; rfl
  | node _ _ _ _ ih₁ ih₂ =>
    rw [ih₁, ih₂, ParseTree.yieldAll_cons, List.append_assoc]
    rfl

theorem valid [DecidableEq Symbol] (parsed : Predicts grammar typeOf choose symbols tokens forest rest)
    (sound : ∀ s tokens rule, grammar.kind s = .nonterminal → choose s tokens = some rule → rule ∈ grammar.rules s) :
    ParseTree.validAll grammar typeOf forest = true := by
  induction parsed with
  | nil => rfl
  | token terminal same _ ih => exact ParseTree.validAll_cons.mpr ⟨by simp [ParseTree.valid, same, terminal], ih⟩
  | epsilon empty _ ih => exact ParseTree.validAll_cons.mpr ⟨by simp [ParseTree.valid, empty], ih⟩
  | node nonterminal chosen inner _ ih₁ ih₂ =>
    refine ParseTree.validAll_cons.mpr ⟨ParseTree.valid_node.mpr ⟨nonterminal, ?_, ih₁⟩, ih₂⟩
    rw [inner.roots]
    exact sound _ _ _ nonterminal chosen

theorem append {middle : List Token} {forest' : List (ParseTree Symbol Token)}
    (first : Predicts grammar typeOf choose symbols tokens forest middle)
    (second : Predicts grammar typeOf choose symbols' middle forest' rest) :
    Predicts grammar typeOf choose (symbols ++ symbols') tokens (forest ++ forest') rest := by
  induction first with
  | nil => exact second
  | token terminal same _ ih => exact .token terminal same (ih second)
  | epsilon empty _ ih => exact .epsilon empty (ih second)
  | node nonterminal chosen inner _ _ ih => exact .node nonterminal chosen inner (ih second)

theorem split (parsed : Predicts grammar typeOf choose (symbols ++ symbols') tokens forest rest) :
    ∃ first second middle, Predicts grammar typeOf choose symbols tokens first middle ∧
      Predicts grammar typeOf choose symbols' middle second rest := by
  induction symbols generalizing tokens forest with
  | nil => exact ⟨[], forest, tokens, .nil, parsed⟩
  | cons s symbols ih =>
    cases parsed with
    | token terminal same tail =>
      obtain ⟨first, second, middle, read, left⟩ := ih tail
      exact ⟨_, second, middle, .token terminal same read, left⟩
    | epsilon empty tail =>
      obtain ⟨first, second, middle, read, left⟩ := ih tail
      exact ⟨_, second, middle, .epsilon empty read, left⟩
    | node nonterminal chosen inner tail =>
      obtain ⟨first, second, middle, read, left⟩ := ih tail
      exact ⟨_, second, middle, .node nonterminal chosen inner read, left⟩

end Predicts

end FlutterZero.Lib
