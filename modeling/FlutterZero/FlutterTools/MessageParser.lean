import FlutterZero.FlutterTools.MessageParser.Lexer

/-! # The ICU message parser

`Parser` (`message_parser.dart`): a predictive parser with an explicit stack that
builds its tree through a second stack, the compression of the tree, and the extra
rules that are checked on it.

The parser's tree is a value here; a reference into it is the path of child
indices from the root.
-/

namespace FlutterZero.FlutterTools

open FlutterZero.Lib

namespace Node

def empty (positionInMessage : Int) : Node := ⟨.empty, positionInMessage, 0, some [], []⟩

def isFull (node : Node) : Bool := node.expectedSymbolCount ≤ node.children.length

def addChild (node child : Node) : Node := { node with children := node.children ++ [child] }

def at? : List Nat → Node → Option Node
  | [], node => some node
  | index :: path, node => (node.children[index]?).bind (at? path)

def modifyAt (change : Node → Node) : List Nat → Node → Node
  | [], node => change node
  | index :: path, node => { node with children := node.children.modify index (modifyAt change path) }

end Node

/-! ## Parsing -/

structure ParserState where
  parsingStack : List ST
  tokens : List Node
  syntaxTree : Node
  /-- The nodes that still expect children, the last one first. -/
  treeTraversalStack : List (List Nat)

namespace Parser

def typeAt (tokens : List Node) (index : Nat) : Option ST := (tokens[index]?).map Node.type

def pluralPartError : Utf16 :=
  text "ICU Syntax Error: Plural parts must be of the form \"identifier \x7b message \x7d\" or \"= number \x7b message \x7d\""

def selectPartError : Utf16 :=
  text "ICU Syntax Error: Select parts must be of the form \"identifier \x7b message \x7d\""

def failAtToken (error : Utf16) (tokens : List Node) : ParserException :=
  match tokens with
  | [] => .range
  | token :: _ => .parser error token.positionInMessage

def chooseRule (symbol : ST) (tokens : List Node) : Except ParserException Nat :=
  match symbol with
  | .message =>
    if tokens.isEmpty then .ok 5
    else if typeAt tokens 0 = some .closeBrace then .ok 5
    else if typeAt tokens 0 = some .string then .ok 0
    else if typeAt tokens 0 = some .openBrace then
      if typeAt tokens 3 = some .plural then .ok 2
      else if typeAt tokens 3 = some .select then .ok 3
      else if typeAt tokens 3 = some .date ∨ typeAt tokens 3 = some .time then .ok 4
      else .ok 1
    else .error (.l10n (text "ICU Syntax Error."))
  | .argType =>
    if typeAt tokens 0 = some .date then .ok 0
    else if typeAt tokens 0 = some .time then .ok 1
    else .error (.l10n (text "ICU Syntax Error. Found unknown argument type."))
  | .pluralParts =>
    if typeAt tokens 0 = some .identifier ∨ typeAt tokens 0 = some .other ∨ typeAt tokens 0 = some .equalSign then .ok 0
    else .ok 1
  | .pluralPart =>
    if typeAt tokens 0 = some .identifier then .ok 0
    else if typeAt tokens 0 = some .equalSign then .ok 1
    else if typeAt tokens 0 = some .other then .ok 2
    else .error (failAtToken pluralPartError tokens)
  | .selectParts =>
    if typeAt tokens 0 = some .identifier ∨ typeAt tokens 0 = some .number ∨ typeAt tokens 0 = some .other then .ok 0
    else .ok 1
  | .selectPart =>
    if typeAt tokens 0 = some .identifier then .ok 0
    else if typeAt tokens 0 = some .number then .ok 1
    else if typeAt tokens 0 = some .other then .ok 2
    else .error (failAtToken selectPartError tokens)
  | _ => .ok 0

/-- Adds a node to the node at the top of the traversal stack, which is taken off the stack when it is full. -/
def addToParent (node : Node) (state : ParserState) : Except ParserException (List Nat × ParserState) :=
  match state.treeTraversalStack with
  | [] => .error .noElement
  | path :: rest =>
    match state.syntaxTree.at? path with
    | none => .error .noElement
    | some parent =>
      let parent' := parent.addChild node
      .ok (path ++ [parent.children.length],
        { state with
          syntaxTree := state.syntaxTree.modifyAt (Node.addChild · node) path
          treeTraversalStack := if parent'.isFull then rest else path :: rest })

def parseAndConstructNode (nonterminal : ST) (ruleIndex : Nat) (state : ParserState) :
    Except ParserException ParserState := do
  let grammarRule := (grammar nonterminal).getD ruleIndex []
  let positionInMessage := (state.tokens.head?.map Node.positionInMessage).getD (-1)
  let node : Node := ⟨nonterminal, positionInMessage, grammarRule.length, none, []⟩
  let (path, state) ← addToParent node { state with parsingStack := grammarRule ++ state.parsingStack }
  return { state with treeTraversalStack := path :: state.treeTraversalStack }

def terminalTypeToString : ST → Option String
  | .openBrace => some "\x7b"
  | .closeBrace => some "\x7d"
  | .comma => some ","
  | .empty => some ""
  | .identifier => some "identifier"
  | .number => some "number"
  | .plural => some "plural"
  | .select => some "select"
  | .equalSign => some "="
  | .other => some "other"
  | _ => none

def interpolated (value : Option Utf16) : Utf16 := value.getD (text "null")

def expectedError (symbol : ST) : Utf16 :=
  text "ICU Syntax Error: Expected \"" ++ interpolated ((terminalTypeToString symbol).map text) ++ text "\" but found "

variable (parser : Parser)

def parseTerminal (symbol : ST) (state : ParserState) : Except ParserException ParserState :=
  if state.treeTraversalStack.isEmpty then .error .noElement
  else if symbol = .empty then (addToParent (Node.empty (-1)) state).map Prod.snd
  else
    match state.tokens with
    | [] => .error (.parser (expectedError symbol ++ text "no tokens.") (parser.messageString.length + 1))
    | token :: tokens =>
      if symbol = token.type then (addToParent token { state with tokens := tokens }).map Prod.snd
      else
        .error (.parser (expectedError symbol ++ text "\"" ++ interpolated token.value ++ text "\".")
          token.positionInMessage)

def parseSymbol (symbol : ST) (state : ParserState) : Except ParserException ParserState :=
  if symbol.isNonterminal then do
    let ruleIndex ← chooseRule symbol state.tokens
    parseAndConstructNode symbol ruleIndex state
  else parser.parseTerminal symbol state

/-- How many rounds may pass before a token is consumed. -/
def roundsToToken : List ST → Nat
  | [] => 0
  | symbol :: rest =>
    match symbol with
    | .message | .pluralParts | .selectParts => 3 + roundsToToken rest
    | .empty => 1 + roundsToToken rest
    | symbol => if symbol.isNonterminal then 1 else 0

variable {state state' : ParserState}

theorem addToParent_eq_ok {node : Node} {path : List Nat} (ran : addToParent node state = .ok (path, state')) :
    ∃ parentPath rest parent, state.treeTraversalStack = parentPath :: rest ∧
      state.syntaxTree.at? parentPath = some parent ∧ path = parentPath ++ [parent.children.length] ∧
      state' = { state with
        syntaxTree := state.syntaxTree.modifyAt (Node.addChild · node) parentPath
        treeTraversalStack := if (parent.addChild node).isFull then rest else parentPath :: rest } := by
  unfold addToParent at ran
  split at ran
  · cases ran
  · rename_i parentPath rest stack
    split at ran
    · cases ran
    · rename_i parent found
      cases ran
      exact ⟨parentPath, rest, parent, stack, found, rfl, rfl⟩

theorem parseAndConstructNode_eq_ok {nonterminal : ST} {ruleIndex : Nat}
    (ran : parseAndConstructNode nonterminal ruleIndex state = .ok state') : state'.tokens = state.tokens ∧
      state'.parsingStack = (grammar nonterminal).getD ruleIndex [] ++ state.parsingStack := by
  obtain ⟨⟨path, added⟩, adding, returned⟩ := bind_eq_ok.mp ran
  obtain ⟨_, _, _, -, -, -, rfl⟩ := addToParent_eq_ok adding
  cases returned
  exact ⟨rfl, rfl⟩

theorem map_snd_eq_ok {α β ε : Type} {x : Except ε (α × β)} {b : β} (ran : x.map Prod.snd = .ok b) :
    ∃ a, x = .ok (a, b) := by
  cases x with
  | error e => cases ran
  | ok pair =>
    cases ran
    exact ⟨pair.1, rfl⟩

variable {symbol : ST}

theorem parseTerminal_eq_ok (ran : parser.parseTerminal symbol state = .ok state') :
    state'.parsingStack = state.parsingStack ∧
      (symbol = .empty ∧ state'.tokens = state.tokens ∨
        symbol ≠ .empty ∧ ∃ token, state.tokens = token :: state'.tokens ∧ token.type = symbol) := by
  unfold parseTerminal at ran
  split at ran
  · cases ran
  split at ran
  · rename_i empty
    obtain ⟨path, added⟩ := map_snd_eq_ok ran
    obtain ⟨_, _, _, -, -, -, rfl⟩ := addToParent_eq_ok added
    exact ⟨rfl, Or.inl ⟨empty, rfl⟩⟩
  · rename_i visible
    split at ran
    · cases ran
    · rename_i token tokens stream
      split at ran
      · rename_i same
        obtain ⟨path, added⟩ := map_snd_eq_ok ran
        obtain ⟨_, _, _, -, -, -, rfl⟩ := addToParent_eq_ok added
        exact ⟨rfl, Or.inr ⟨visible, token, stream, same.symm⟩⟩
      · cases ran

theorem chooseRule_mem {tokens : List Node} {ruleIndex : Nat} (nonterminal : symbol.isNonterminal = true)
    (chosen : chooseRule symbol tokens = .ok ruleIndex) : (grammar symbol).getD ruleIndex [] ∈ grammar symbol := by
  cases symbol with
  | message =>
    simp only [chooseRule] at chosen
    split_ifs at chosen <;> cases chosen <;> decide
  | argType | pluralParts | pluralPart | selectParts | selectPart =>
    simp only [chooseRule] at chosen
    split_ifs at chosen <;> cases chosen <;> decide
  | placeholderExpr | argumentExpr | pluralExpr | selectExpr =>
    cases chosen
    decide
  | _ => cases nonterminal

theorem roundsToToken_rule {rule : List ST} (member : rule ∈ grammar symbol) (rest : List ST) :
    roundsToToken (rule ++ rest) < roundsToToken (symbol :: rest) := by
  cases symbol <;> simp only [grammar, List.mem_cons, List.not_mem_nil, or_false] at member
  case message =>
    rcases member with rfl | rfl | rfl | rfl | rfl | rfl <;> simp [roundsToToken, ST.isNonterminal] <;> omega
  case pluralParts | selectParts =>
    rcases member with rfl | rfl
    · simp [roundsToToken, ST.isNonterminal]
      omega
    · simp [roundsToToken]
  case pluralPart => rcases member with rfl | rfl | rfl <;> simp [roundsToToken, ST.isNonterminal]
  case selectPart => rcases member with rfl | rfl | rfl <;> simp [roundsToToken, ST.isNonterminal]
  case selectExpr => rcases member with rfl | rfl <;> simp [roundsToToken, ST.isNonterminal]
  case argType => rcases member with rfl | rfl <;> simp [roundsToToken, ST.isNonterminal]
  all_goals
    cases member
    simp [roundsToToken, ST.isNonterminal]

theorem parseSymbol_progress (ran : parser.parseSymbol symbol state = .ok state') :
    state'.tokens.length < state.tokens.length ∨
      state'.tokens = state.tokens ∧
        roundsToToken state'.parsingStack < roundsToToken (symbol :: state.parsingStack) := by
  unfold parseSymbol at ran
  split at ran
  · rename_i nonterminal
    obtain ⟨ruleIndex, chosen, built⟩ := bind_eq_ok.mp ran
    obtain ⟨same, pushed⟩ := parseAndConstructNode_eq_ok built
    rw [pushed]
    exact Or.inr ⟨same, roundsToToken_rule (chooseRule_mem nonterminal chosen) _⟩
  · obtain ⟨popped, ⟨rfl, same⟩ | ⟨-, token, consumed, -⟩⟩ := parser.parseTerminal_eq_ok ran
    · rw [popped]
      exact Or.inr ⟨same, by simp [roundsToToken]⟩
    · rw [consumed]
      exact Or.inl (Nat.lt_succ_self _)

/-- The loop of `parseIntoTree`. -/
def parseFrom (state : ParserState) : Except ParserException ParserState :=
  match _stack : state.parsingStack with
  | [] => .ok state
  | symbol :: parsingStack =>
    match _ran : parser.parseSymbol symbol { state with parsingStack := parsingStack } with
    | .error error => .error error
    | .ok state' => parseFrom state'
termination_by (state.tokens.length, roundsToToken state.parsingStack)
decreasing_by
  rcases parser.parseSymbol_progress _ran with fewer | ⟨same, sooner⟩
  · exact Prod.Lex.left _ _ fewer
  · rw [same, _stack]
    exact Prod.Lex.right _ sooner

def initialState (tokens : List Node) : ParserState := ⟨[.message], tokens, ⟨.empty, 0, 1, none, []⟩, [[]]⟩

def parseTokens (tokens : List Node) : Except ParserException Node := do
  let state ← parser.parseFrom (initialState tokens)
  match state.syntaxTree.children with
  | [] => .error .range
  | node :: _ => return node

def parseIntoTree : Except ParserException Node := do parser.parseTokens (← parser.lexIntoTokens)

end Parser

/-! ## Compressing -/

namespace Node

mutual

def compress : Node → Node
  | ⟨type, positionInMessage, expectedSymbolCount, value, children⟩ =>
    match type with
    | .message | .pluralParts | .selectParts =>
      ⟨type, positionInMessage, expectedSymbolCount, value, compressParts children⟩
    | _ => ⟨type, positionInMessage, expectedSymbolCount, value, compressAll children⟩

def compressParts : List Node → List Node
  | [first, ⟨_, _, _, _, children⟩] => compress first :: compressParts children
  | _ => []

def compressAll : List Node → List Node
  | [] => []
  | child :: children => compress child :: compressAll children

end

end Node

/-! ## Extra rules -/

namespace Parser

def firstToken (node : Node) : Except ParserException Node :=
  match node.children with
  | [] => .error .range
  | first :: _ => .ok first

def checkOther (error : Utf16) (syntaxTree : Node) : List Node → Except ParserException Unit
  | [] => .error (.parser error syntaxTree.positionInMessage)
  | part :: parts => do
    let first ← firstToken part
    if first.type = .other then return () else checkOther error syntaxTree parts

def validIdentifiers : List Utf16 :=
  [units ['z', 'e', 'r', 'o'], units ['o', 'n', 'e'], units ['t', 'w', 'o'], units ['f', 'e', 'w'],
    units ['m', 'a', 'n', 'y']]

def pluralOtherError : Utf16 := text "ICU Syntax Error: Plural expressions must have an \"other\" case."

def pluralCaseError : Utf16 :=
  text "ICU Syntax Error: Plural expressions case must be one of \"zero\", \"one\", \"two\", \"few\", \"many\", or \"other\"."

def selectOtherError : Utf16 := text "ICU Syntax Error: Select expressions must have an \"other\" case."

/-- Whether a token is an identifier that no plural part may start with. -/
def isInvalidCase (token : Node) : Bool :=
  token.type == .identifier && !(validIdentifiers.map some).contains token.value

def checkIdentifiers : List Node → Except ParserException Unit
  | [] => .ok ()
  | part :: parts => do
    let pluralPartFirstToken ← firstToken part
    if isInvalidCase pluralPartFirstToken then .error (.parser pluralCaseError part.positionInMessage)
    else checkIdentifiers parts

def checkNode (syntaxTree : Node) : Except ParserException Unit :=
  match syntaxTree.type with
  | .pluralParts => do
    checkOther pluralOtherError syntaxTree syntaxTree.children
    checkIdentifiers syntaxTree.children
  | .selectParts => checkOther selectOtherError syntaxTree syntaxTree.children
  | _ => .ok ()

mutual

def checkExtraRules : Node → Except ParserException Unit
  | ⟨type, positionInMessage, expectedSymbolCount, value, children⟩ => do
    checkNode ⟨type, positionInMessage, expectedSymbolCount, value, children⟩
    checkAllExtraRules children

def checkAllExtraRules : List Node → Except ParserException Unit
  | [] => .ok ()
  | child :: children => do
    checkExtraRules child
    checkAllExtraRules children

end

variable (parser : Parser)

def parse : Except ParserException Node := do
  let syntaxTree := (← parser.parseIntoTree).compress
  checkExtraRules syntaxTree
  return syntaxTree

end Parser

end FlutterZero.FlutterTools
