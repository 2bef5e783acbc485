import Mathlib.Data.List.Infix

/-! # Replacing all occurrences of a pattern

From left to right, and without looking at what has been put in.

* `replaceAll_append_cons` — a sign that the pattern does not have separates what is replaced;
* `replaceAll_of_match`, `replaceAll_singleton` — a match is replaced, and every one of a single sign;
* `replaceAll_of_free` — a text without the pattern stays, `mem_replaceAll` — the signs come from the text and from
  what is put in;
* `replaceChain` — several patterns, one after the other.
-/

namespace FlutterZero.Lib

variable {α : Type*}

theorem prefix_append_cons_iff {pattern : List α} {separator : α} (away : separator ∉ pattern)
    (first second : List α) :
    pattern <+: first ++ separator :: second ↔ pattern <+: first := by
  induction pattern generalizing first with
  | nil => simp
  | cons letter pattern ih =>
    rw [List.mem_cons, not_or] at away
    cases first with
    | nil => simp [Ne.symm away.1]
    | cons c first => rw [List.cons_append, List.cons_prefix_cons, List.cons_prefix_cons, ih away.2]

variable [DecidableEq α]

/-- The rest of a text, behind the signs of a match that are still to come. -/
def replaceFrom (pattern replacement : List α) : Nat → List α → List α
  | _, [] => []
  | matched + 1, _ :: rest => replaceFrom pattern replacement matched rest
  | 0, c :: rest =>
    if pattern <+: c :: rest then replacement ++ replaceFrom pattern replacement (pattern.length - 1) rest
    else c :: replaceFrom pattern replacement 0 rest

def replaceAll (pattern replacement text : List α) : List α := replaceFrom pattern replacement 0 text

def replaceChain (chain : List (List α × List α)) (text : List α) : List α :=
  chain.foldl (fun text pair => replaceAll pair.1 pair.2 text) text

variable {pattern replacement text : List α} {separator : α}

@[simp] theorem replaceAll_nil : replaceAll pattern replacement [] = [] := rfl

theorem replaceAll_cons {c : α} {rest : List α} (free : ¬ pattern <+: c :: rest) :
    replaceAll pattern replacement (c :: rest) = c :: replaceAll pattern replacement rest := if_neg free

theorem replaceFrom_skip (matched : List α) (rest : List α) :
    replaceFrom pattern replacement matched.length (matched ++ rest) = replaceAll pattern replacement rest := by
  induction matched with
  | nil => rfl
  | cons c matched ih => exact ih

theorem replaceAll_of_match (nonempty : pattern ≠ []) (rest : List α) :
    replaceAll pattern replacement (pattern ++ rest) = replacement ++ replaceAll pattern replacement rest := by
  obtain ⟨c, pattern, rfl⟩ := List.exists_cons_of_ne_nil nonempty
  have found : c :: pattern <+: c :: (pattern ++ rest) := List.prefix_append (c :: pattern) rest
  rw [replaceAll, List.cons_append, replaceFrom, if_pos found]
  congr 1
  exact replaceFrom_skip pattern rest

theorem replaceAll_singleton (c : α) (text : List α) :
    replaceAll [c] replacement text = text.flatMap fun other => if other = c then replacement else [other] := by
  induction text with
  | nil => rfl
  | cons other text ih =>
    rw [List.flatMap_cons, ← ih]
    by_cases same : other = c
    · rw [same, if_pos rfl]
      exact replaceAll_of_match (List.cons_ne_nil c []) text
    · have free : ¬ [c] <+: other :: text := fun starts => same (List.cons_prefix_cons.mp starts).1.symm
      rw [if_neg same, replaceAll_cons free]
      rfl

theorem replaceAll_of_free (free : ¬ pattern <:+: text) : replaceAll pattern replacement text = text := by
  induction text with
  | nil => rfl
  | cons c rest ih =>
    rw [List.infix_cons_iff, not_or] at free
    rw [replaceAll_cons free.1, ih free.2]

theorem mem_replaceAll {c : α} (member : c ∈ replaceAll pattern replacement text) : c ∈ replacement ∨ c ∈ text := by
  -- the signs of a match that are still to come are dropped
  suffices within : ∀ matched, c ∈ replaceFrom pattern replacement matched text → c ∈ replacement ∨ c ∈ text from
    within 0 member
  clear member
  induction text with
  | nil => exact fun _ member => .inr member
  | cons d rest ih =>
    have later : ∀ matched, c ∈ replaceFrom pattern replacement matched rest → c ∈ replacement ∨ c ∈ d :: rest :=
      fun matched member => (ih matched member).imp_right (List.mem_cons_of_mem d)
    intro matched member
    cases matched with
    | succ matched => exact later matched member
    | zero =>
      rw [replaceFrom] at member
      split at member
      · exact (List.mem_append.mp member).elim .inl (later _)
      · obtain rfl | member := List.mem_cons.mp member
        · exact .inr List.mem_cons_self
        · exact later 0 member

theorem replaceFrom_append_cons (away : separator ∉ pattern) {first : List α} {matched : Nat}
    (within : matched ≤ first.length) (second : List α) :
    replaceFrom pattern replacement matched (first ++ separator :: second) =
      replaceFrom pattern replacement matched first ++ replaceAll pattern replacement (separator :: second) := by
  induction first generalizing matched with
  | nil =>
    obtain rfl := Nat.le_zero.mp within
    rfl
  | cons c first ih =>
    cases matched with
    | succ matched => exact ih (Nat.le_of_succ_le_succ within)
    | zero =>
      rw [List.cons_append, replaceFrom, replaceFrom, ← List.cons_append]
      by_cases found : pattern <+: c :: first
      · have short := found.length_le
        rw [List.length_cons] at short
        rw [if_pos ((prefix_append_cons_iff away _ _).mpr found), if_pos found, ih (by omega), List.append_assoc]
      · rw [if_neg (mt (prefix_append_cons_iff away _ _).mp found), if_neg found, ih (Nat.zero_le _), List.cons_append]

theorem replaceAll_append_cons (nonempty : pattern ≠ []) (away : separator ∉ pattern) (first second : List α) :
    replaceAll pattern replacement (first ++ separator :: second) =
      replaceAll pattern replacement first ++ separator :: replaceAll pattern replacement second := by
  have alone : replaceAll pattern replacement (separator :: second) =
      separator :: replaceAll pattern replacement second := by
    refine replaceAll_cons fun starts => ?_
    rw [← List.nil_append (separator :: second), prefix_append_cons_iff away, List.prefix_nil] at starts
    exact nonempty starts
  rw [replaceAll, replaceFrom_append_cons away (Nat.zero_le _), alone]
  rfl

/-! ## Chains -/

variable {chain : List (List α × List α)}

theorem replaceChain_cons (pair : List α × List α) (chain : List (List α × List α)) (text : List α) :
    replaceChain (pair :: chain) text = replaceChain chain (replaceAll pair.1 pair.2 text) := rfl

theorem replaceChain_append_cons (apart : ∀ pair ∈ chain, pair.1 ≠ [] ∧ separator ∉ pair.1) (first second : List α) :
    replaceChain chain (first ++ separator :: second) =
      replaceChain chain first ++ separator :: replaceChain chain second := by
  induction chain generalizing first second with
  | nil => rfl
  | cons pair chain ih =>
    obtain ⟨here, apart⟩ := List.forall_mem_cons.mp apart
    rw [replaceChain_cons, replaceAll_append_cons here.1 here.2, ih apart]
    rfl

theorem replaceChain_of_free (free : ∀ pair ∈ chain, ¬ pair.1 <:+: text) : replaceChain chain text = text := by
  induction chain with
  | nil => rfl
  | cons pair chain ih =>
    obtain ⟨here, free⟩ := List.forall_mem_cons.mp free
    rw [replaceChain_cons, replaceAll_of_free here, ih free]

/-! ## Pieces between separators -/

omit [DecidableEq α] in
theorem map_eq_self_iff {f : α → α} {l : List α} : l.map f = l ↔ ∀ a ∈ l, f a = a := by
  simpa using List.map_inj_left (l := l) (f := f) (g := id)

omit [DecidableEq α] in
theorem pieces_induction (isSeparator : α → Bool) {P : List α → Prop}
    (alone : ∀ text, (∀ c ∈ text, isSeparator c = false) → P text)
    (append : ∀ piece c rest, (∀ d ∈ piece, isSeparator d = false) → isSeparator c = true → P rest →
      P (piece ++ c :: rest)) (text : List α) : P text := by
  suffices behind : ∀ piece, (∀ d ∈ piece, isSeparator d = false) → P (piece ++ text) from behind [] nofun
  induction text with
  | nil =>
    intro piece free
    rw [List.append_nil]
    exact alone piece free
  | cons c text ih =>
    intro piece free
    cases separates : isSeparator c with
    | true => exact append piece c text free separates (ih [] nofun)
    | false =>
      rw [List.append_cons]
      refine ih _ fun d member => ?_
      obtain inPiece | inLast := List.mem_append.mp member
      · exact free d inPiece
      · rw [List.mem_singleton.mp inLast]
        exact separates

theorem splitOnP_replaceChain {isSeparator : α → Bool}
    (apart : ∀ pair ∈ chain, pair.1 ≠ [] ∧ ∀ c ∈ pair.1, isSeparator c = false) (text : List α) :
    (replaceChain chain text).splitOnP isSeparator =
      (text.splitOnP isSeparator).flatMap fun piece => (replaceChain chain piece).splitOnP isSeparator := by
  induction text using pieces_induction isSeparator with
  | alone text free => rw [List.splitOnP_eq_singleton free, List.flatMap_singleton]
  | append piece c rest free separates ih =>
    have away : ∀ pair ∈ chain, pair.1 ≠ [] ∧ c ∉ pair.1 := fun pair member =>
      ⟨(apart pair member).1, fun inPattern => by simp [(apart pair member).2 c inPattern] at separates⟩
    rw [replaceChain_append_cons away, List.splitOnP_append_cons _ _ separates, List.splitOnP_append_cons _ _ separates,
      List.flatMap_append, ih, List.splitOnP_eq_singleton free, List.flatMap_singleton]

omit [DecidableEq α] in
theorem eq_false_of_mem_splitOnP {isSeparator : α → Bool} {text piece : List α}
    (member : piece ∈ text.splitOnP isSeparator) {c : α} (inPiece : c ∈ piece) : isSeparator c = false := by
  induction text generalizing piece with
  | nil =>
    rw [List.splitOnP_nil, List.mem_singleton] at member
    rw [member] at inPiece
    nomatch inPiece
  | cons d text ih =>
    rw [List.splitOnP_cons_eq_if_modifyHead] at member
    split at member
    case isTrue =>
      obtain rfl | member := List.mem_cons.mp member
      · nomatch inPiece
      · exact ih member inPiece
    case isFalse visible =>
      obtain ⟨first, pieces, split⟩ := List.exists_cons_of_ne_nil (List.splitOnP_ne_nil isSeparator text)
      rw [split, List.modifyHead_cons] at member
      obtain rfl | member := List.mem_cons.mp member
      · obtain rfl | inFirst := List.mem_cons.mp inPiece
        · simpa using visible
        · exact ih (split ▸ List.mem_cons_self) inFirst
      · exact ih (split ▸ List.mem_cons_of_mem first member) inPiece

theorem not_mem_of_mem_splitOn {text piece : List α} (member : piece ∈ text.splitOn separator) : separator ∉ piece :=
  fun inPiece => by
    rw [List.splitOn_eq_splitOnP] at member
    simpa using eq_false_of_mem_splitOnP member inPiece

end FlutterZero.Lib
