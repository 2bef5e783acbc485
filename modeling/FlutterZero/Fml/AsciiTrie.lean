import Mathlib

/-! # The trie of ASCII prefixes

`AsciiTrie` (`ascii_trie.cc`): the entries are added to a trie one after another,
and a query walks down the trie along its characters.

* `reaches_fill` — the nodes of a filled trie are the proper prefixes of its
  entries: an entry's last character has no node, so where an entry ends is not
  recorded.
* `query_fill` — what a query answers, in terms of the entries alone.
* `query_iff_prefix` — when that is whether an entry is a prefix of the query.
-/

namespace FlutterZero.Fml

/-- A `char` below `kMaxAsciiValue`. -/
abbrev Ascii := Fin 128

/-- What a `const char*` points at, without the NUL behind it. -/
structure CString where
  chars : List Ascii
  terminated : 0 ∉ chars
deriving DecidableEq

/-- `std::string::c_str()`, which ends at the first NUL of the string. -/
def cStr (s : List Ascii) : CString where
  chars := s.takeWhile (· ≠ 0)
  terminated := fun member => by simpa using List.mem_takeWhile_imp member

namespace AsciiTrie

/-- A `std::unique_ptr<TrieNode>`. -/
inductive TrieNodePtr where
  | null
  | node (children : Ascii → TrieNodePtr)

def TrieNodePtr.isNull : TrieNodePtr → Bool
  | .null => true
  | .node _ => false

def TrieNodePtr.children : TrieNodePtr → Ascii → TrieNodePtr
  | .null => fun _ => .null
  | .node children => children

def add (trie : TrieNodePtr) : List Ascii → TrieNodePtr
  -- `ch` is the terminator: nothing is made for the end of an entry
  | [] => trie
  | ch :: entry => .node (Function.update trie.children ch (add (trie.children ch) entry))

def makeTrie (entries : List (List Ascii)) : TrieNodePtr :=
  entries.foldl (fun result entry => add result (cStr entry).chars) .null

/-- The `node_` that `Fill` leaves. -/
def fill (entries : List (List Ascii)) : TrieNodePtr := makeTrie entries

/-- The `while` loop of `Query`, from `trie_position` on.  `child` is what the last
    test read, and `moved` is whether `trie_position` is no longer `trie`. -/
def queryLoop (triePosition : Ascii → TrieNodePtr) (child : TrieNodePtr) (moved : Bool) :
    List Ascii → TrieNodePtr × Bool
  -- the terminator ends the loop before `child` is assigned
  | [] => (child, moved)
  | ch :: rest =>
    match triePosition ch with
    | .null => (.null, moved)
    | .node children => queryLoop children (.node children) true rest

/-- The static `Query`. -/
def queryNode (trie : Ascii → TrieNodePtr) (query : List Ascii) : Bool :=
  let (child, moved) := queryLoop trie .null false query
  child.isNull && moved

/-- `AsciiTrie::Query`, where the trie is `node_`. -/
def query (node : TrieNodePtr) (argument : CString) : Bool :=
  match node with
  | .null => true
  | .node trie => queryNode trie argument.chars

/-! ## The nodes of a trie -/

/-- The characters of `path` lead from the node behind the pointer to another. -/
def TrieNodePtr.Reaches : TrieNodePtr → List Ascii → Prop
  | .null, _ => False
  | .node _, [] => True
  | .node children, c :: path => (children c).Reaches path

open TrieNodePtr (Reaches)

@[simp] theorem not_reaches_null (path : List Ascii) : ¬ Reaches .null path := by simp [Reaches]

@[simp] theorem reaches_node_nil (children : Ascii → TrieNodePtr) : Reaches (.node children) [] := by
  simp [Reaches]

@[simp] theorem reaches_cons (trie : TrieNodePtr) (c : Ascii) (path : List Ascii) :
    Reaches trie (c :: path) ↔ Reaches (trie.children c) path := by
  cases trie with
  | null => simp [TrieNodePtr.children]
  | node children => simp [Reaches, TrieNodePtr.children]

theorem reaches_add (trie : TrieNodePtr) (entry path : List Ascii) :
    Reaches (add trie entry) path ↔ Reaches trie path ∨ (path <+: entry ∧ path ≠ entry) := by
  induction entry generalizing trie path with
  | nil =>
    simp [add]
  | cons ch entry ih =>
    cases path with
    | nil => simp [add]
    | cons c path =>
      rw [add, reaches_cons, reaches_cons]
      show Reaches (Function.update trie.children ch _ c) path ↔ _
      by_cases same : c = ch
      · subst same
        rw [Function.update_self, ih, List.prefix_cons_inj]
        simp
      · rw [Function.update_of_ne same]
        simp [List.cons_prefix_cons, same]

/-- `path` is a prefix of `entry`'s characters, and shorter. -/
abbrev ProperPrefix (path : List Ascii) (entry : List Ascii) : Prop :=
  path <+: (cStr entry).chars ∧ path ≠ (cStr entry).chars

theorem reaches_fill (entries : List (List Ascii)) (path : List Ascii) :
    Reaches (fill entries) path ↔ ∃ entry ∈ entries, ProperPrefix path entry := by
  suffices general : ∀ trie, Reaches (entries.foldl (fun result entry => add result (cStr entry).chars) trie) path ↔
      Reaches trie path ∨ ∃ entry ∈ entries, ProperPrefix path entry by
    simpa [fill, makeTrie] using general .null
  induction entries with
  | nil => simp
  | cons entry entries ih =>
    intro trie
    rw [List.foldl_cons, ih, reaches_add, or_assoc]
    simp [ProperPrefix]

/-! ## The walk of a query -/

/-- Once the walk has left the root, the query succeeds exactly where it also leaves
    the trie. -/
theorem queryLoop_moved (triePosition children : Ascii → TrieNodePtr) (query : List Ascii) :
    ((queryLoop triePosition (.node children) true query).1.isNull &&
        (queryLoop triePosition (.node children) true query).2) = true ↔
      ¬ Reaches (.node triePosition) query := by
  induction query generalizing triePosition children with
  | nil => simp [queryLoop, TrieNodePtr.isNull]
  | cons ch rest ih =>
    rw [reaches_cons, queryLoop]
    show _ ↔ ¬ Reaches (triePosition ch) rest
    cases next : triePosition ch with
    | null => simp [TrieNodePtr.isNull]
    | node below => exact ih below below

theorem queryNode_iff (trie : Ascii → TrieNodePtr) (query : List Ascii) :
    queryNode trie query = true ↔
      (∃ c rest, query = c :: rest ∧ Reaches (.node trie) [c]) ∧ ¬ Reaches (.node trie) query := by
  cases query with
  | nil => simp [queryNode, queryLoop]
  | cons ch rest =>
    have first : (∃ c rest', ch :: rest = c :: rest' ∧ Reaches (.node trie) [c]) ↔
        Reaches (trie ch) [] := by
      simp [TrieNodePtr.children]
    rw [first, reaches_cons, queryNode, queryLoop]
    show _ ↔ _ ∧ ¬ Reaches (trie ch) rest
    cases next : trie ch with
    | null => simp
    | node below => simpa using queryLoop_moved below below rest

/-- An entry of two or more characters begins with the first character of `query`. -/
def SharesFirst (entries : List (List Ascii)) (query : CString) : Prop :=
  ∃ c rest, query.chars = c :: rest ∧ ∃ entry ∈ entries, ProperPrefix [c] entry

def Unfinished (entries : List (List Ascii)) (query : CString) : Prop :=
  ∃ entry ∈ entries, ProperPrefix query.chars entry

theorem query_fill (entries : List (List Ascii)) (q : CString) :
    query (fill entries) q = true ↔
      (∀ entry ∈ entries, (cStr entry).chars = []) ∨ (SharesFirst entries q ∧ ¬ Unfinished entries q) := by
  have nodes := reaches_fill entries
  -- the root is there when an entry has a character
  have root : Reaches (fill entries) [] ↔ ¬ ∀ entry ∈ entries, (cStr entry).chars = [] := by
    rw [nodes]
    simp only [ProperPrefix, List.nil_prefix, true_and, ne_comm (a := ([] : List Ascii)), not_forall,
      exists_prop]
  cases filled : fill entries with
  | null =>
    rw [filled] at root
    have empty : ∀ entry ∈ entries, (cStr entry).chars = [] := not_not.mp (root.not.mp (by simp))
    exact iff_of_true rfl (Or.inl empty)
  | node trie =>
    rw [filled] at root nodes
    have inhabited : ¬ ∀ entry ∈ entries, (cStr entry).chars = [] := root.mp (reaches_node_nil trie)
    simp only [query, queryNode_iff, nodes, inhabited, false_or]
    rfl

/-! ## Prefixes of the query -/

def Prefixed (entries : List (List Ascii)) (query : CString) : Prop :=
  ∃ entry ∈ entries, entry <+: query.chars

/-- When the walk tells an entry's end: an entry has a character at all, a query that
    an entry is a prefix of begins like an entry of two or more characters and no entry
    goes on behind it, and any other query begins like no such entry or ends inside one. -/
def TellsPrefix (entries : List (List Ascii)) (query : CString) : Prop :=
  (∃ entry ∈ entries, entry.head? ≠ some 0) ∧
    (Prefixed entries query → SharesFirst entries query ∧ ¬ Unfinished entries query) ∧
    (¬ Prefixed entries query → ¬ SharesFirst entries query ∨ Unfinished entries query)

theorem cStr_eq_nil_iff {entry : List Ascii} (nonempty : entry ≠ []) :
    (cStr entry).chars = [] ↔ entry.head? = some 0 := by
  cases entry with
  | nil => exact absurd rfl nonempty
  | cons c entry =>
    by_cases nul : c = 0
    · simp [cStr, nul]
    · simp [cStr, nul]

theorem not_prefix_of_head_nul {entry : List Ascii} (q : CString) (nul : entry.head? = some 0) :
    ¬ entry <+: q.chars := by
  cases entry with
  | nil => simp at nul
  | cons c entry =>
    intro inside
    have member : c ∈ q.chars := inside.subset (by simp)
    have zero : c = 0 := by simpa using nul
    exact q.terminated (zero ▸ member)

/-- A query answers whether an entry is a prefix of it under `TellsPrefix`, and only then. -/
theorem query_iff_prefix (entries : List (List Ascii)) (nonempty : ∀ entry ∈ entries, entry ≠ [])
    (q : CString) :
    (query (fill entries) q = true ↔ Prefixed entries q) ↔ TellsPrefix entries q := by
  rw [query_fill, TellsPrefix]
  by_cases starts : ∃ entry ∈ entries, entry.head? ≠ some 0
  · obtain ⟨entry, member, first⟩ := starts
    have root : ¬ ∀ entry ∈ entries, (cStr entry).chars = [] :=
      fun all => first ((cStr_eq_nil_iff (nonempty entry member)).mp (all entry member))
    have starts : ∃ entry ∈ entries, entry.head? ≠ some 0 := ⟨entry, member, first⟩
    simp only [root, starts, false_or, true_and]
    tauto
  · -- every entry begins with the terminator: the trie is empty and answers yes
    have nul : ∀ entry ∈ entries, entry.head? = some 0 := by simpa using starts
    have empty : ∀ entry ∈ entries, (cStr entry).chars = [] :=
      fun entry member => (cStr_eq_nil_iff (nonempty entry member)).mpr (nul entry member)
    have never : ¬ Prefixed entries q := by
      intro ⟨entry, member, inside⟩
      exact not_prefix_of_head_nul q (nul entry member) inside
    have answers : (∀ entry ∈ entries, (cStr entry).chars = []) ∨
        (SharesFirst entries q ∧ ¬ Unfinished entries q) := Or.inl empty
    simp only [never, answers, starts, false_and, iff_false, not_true_eq_false]

/-- `foo` and `foobar`. -/
theorem query_iff_prefix_foo :
    (query (fill [[102, 111, 111]]) ⟨[102, 111, 111, 98, 97, 114], by decide⟩ = true ↔
        Prefixed [[102, 111, 111]] ⟨[102, 111, 111, 98, 97, 114], by decide⟩) ↔
      TellsPrefix [[102, 111, 111]] ⟨[102, 111, 111, 98, 97, 114], by decide⟩ :=
  query_iff_prefix _ (by decide) _

/-- `fa` leaves the trie of `foo` behind its first character, which is taken for a match. -/
theorem query_fa_of_foo :
    ¬ ∀ (entries : List (List Ascii)) (q : CString), entries ≠ [] → (∀ entry ∈ entries, entry ≠ []) →
      (query (fill entries) q = true ↔ Prefixed entries q) := by
  intro always
  have prefixed := (always [[102, 111, 111]] ⟨[102, 97], by decide⟩ (by decide) (by decide)).mp (by rfl)
  obtain ⟨entry, member, inside⟩ := prefixed
  revert entry
  decide

end AsciiTrie

end FlutterZero.Fml
