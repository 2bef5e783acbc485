import Mathlib.Data.Finset.Card
import Mathlib.Data.List.Basic
import Mathlib.Logic.Relation

/-! # Depth-first marking

A search that calls itself for every successor it marks.  The mark is at once the result and
the sign that a node has been dealt with, and there may be marks before the search starts.

* `markFrom` — the search, with a bound on the depth of its calls;
* `Marked` — what it does: nothing is marked but what can be reached, and the successors of
  what is newly marked are marked;
* `markFrom_spec` — in a finite graph it returns, at whatever larger bound with the same marks.
-/

namespace FlutterZero.Lib

open Relation

variable {α : Type*} (next : α → List α)

/-- Marks the successors of a node that are not marked yet, and what can be reached from them. -/
def markFrom [DecidableEq α] : Nat → α → (α → Bool) → Option (α → Bool)
  | 0, _, _ => none
  | fuel + 1, a, marks =>
    (next a).foldlM (fun marks b =>
      if marks b then some marks else markFrom fuel b (Function.update marks b true)) marks

/-- What holds of the marks before and after, once the successors `done` of a node have been looked at. -/
structure Marked (a : α) (done : List α) (before after : α → Bool) : Prop where
  kept : ∀ b, before b = true → after b = true
  reached : ∀ b, after b = true → before b = false → TransGen (fun x y => y ∈ next x) a b
  closed : ∀ b, after b = true → before b = false → ∀ c ∈ next b, after c = true
  done : ∀ b ∈ done, after b = true

variable {next} {a b : α} {marks before after : α → Bool} {done : List α} {nodes : Finset α}

theorem Marked.refl (a : α) (marks : α → Bool) : Marked next a [] marks marks where
  kept _ marked := marked
  reached b marked unmarked := by simp [marked] at unmarked
  closed b marked unmarked := by simp [marked] at unmarked
  done := by simp

theorem Marked.skip (marked : Marked next a done before after) (seen : after b = true) :
    Marked next a (done ++ [b]) before after where
  kept := marked.kept
  reached := marked.reached
  closed := marked.closed
  done c inside := by
    rcases List.mem_append.mp inside with inside | inside
    · exact marked.done c inside
    · rw [List.mem_singleton.mp inside]
      exact seen

theorem Marked.descend [DecidableEq α] {after' : α → Bool} (marked : Marked next a done before after) (successor : b ∈ next a)
    (call : Marked next b (next b) (Function.update after b true) after') :
    Marked next a (done ++ [b]) before after' := by
  have keep : ∀ c, after c = true → after' c = true := by
    intro c old
    apply call.kept
    by_cases same : c = b <;> simp [same, old]
  have itself : after' b = true := call.kept b (by simp)
  have fresh : ∀ c, after c = false → c ≠ b → Function.update after b true c = false := by
    intro c new other
    rwa [Function.update_of_ne other]
  constructor
  · intro c old
    exact keep c (marked.kept c old)
  · intro c new unmarked
    cases earlier : after c with
    | true => exact marked.reached c earlier unmarked
    | false =>
      by_cases same : c = b
      · subst same
        exact .single successor
      · exact .head successor (call.reached c new (fresh c earlier same))
  · intro c new unmarked d follows
    cases earlier : after c with
    | true => exact keep d (marked.closed c earlier unmarked d follows)
    | false =>
      by_cases same : c = b
      · subst same
        exact call.done d follows
      · exact call.closed c new (fresh c earlier same) d follows
  · intro c inside
    rcases List.mem_append.mp inside with inside | inside
    · exact keep c (marked.done c inside)
    · rw [List.mem_singleton.mp inside]
      exact itself

/-! ## The bound -/

def unmarkedIn (nodes : Finset α) (marks : α → Bool) : Finset α := nodes.filter fun a => marks a = false

theorem unmarkedIn_subset (kept : ∀ a, before a = true → after a = true) :
    unmarkedIn nodes after ⊆ unmarkedIn nodes before := by
  intro a inside
  simp only [unmarkedIn, Finset.mem_filter] at inside ⊢
  refine ⟨inside.1, ?_⟩
  by_contra marked
  have still := kept a (by simpa using marked)
  simp [still] at inside

theorem card_unmarkedIn_update [DecidableEq α] (node : b ∈ nodes) (fresh : marks b = false) :
    (unmarkedIn nodes (Function.update marks b true)).card < (unmarkedIn nodes marks).card := by
  apply Finset.card_lt_card
  rw [Finset.ssubset_iff_of_subset]
  · exact ⟨b, by simp [unmarkedIn, node, fresh], by simp [unmarkedIn]⟩
  · apply unmarkedIn_subset
    intro c marked
    by_cases same : c = b <;> simp [same, marked]

theorem markAll_spec [DecidableEq α] (start : a ∈ nodes) (closed : ∀ a ∈ nodes, ∀ b ∈ next a, b ∈ nodes)
    (call : ∀ b ∈ nodes, ∀ marks, (unmarkedIn nodes marks).card < (unmarkedIn nodes before).card →
      ∃ after, Marked next b (next b) marks after ∧
        ∀ fuel, (unmarkedIn nodes marks).card < fuel → markFrom next fuel b marks = some after)
    (rest : List α) (marked : Marked next a done before marks) (split : next a = done ++ rest) :
    ∃ after, Marked next a (next a) before after ∧ ∀ fuel, (unmarkedIn nodes before).card ≤ fuel →
      rest.foldlM (fun marks b =>
        if marks b then some marks else markFrom next fuel b (Function.update marks b true)) marks = some after := by
  induction rest generalizing done marks with
  | nil =>
    rw [List.append_nil] at split
    rw [split]
    exact ⟨marks, marked, fun _ _ => rfl⟩
  | cons b rest ih =>
    have successor : b ∈ next a := by simp [split]
    have split' : next a = (done ++ [b]) ++ rest := by simp [split]
    cases seen : marks b with
    | true =>
      obtain ⟨after, all, returns⟩ := ih (marked.skip seen) split'
      refine ⟨after, all, fun fuel enough => ?_⟩
      rw [List.foldlM_cons, if_pos seen]
      exact returns fuel enough
    | false =>
      have node : b ∈ nodes := closed a start b successor
      have fewer : (unmarkedIn nodes (Function.update marks b true)).card < (unmarkedIn nodes before).card :=
        (card_unmarkedIn_update node seen).trans_le (Finset.card_le_card (unmarkedIn_subset marked.kept))
      obtain ⟨marks', below, calls⟩ := call b node _ fewer
      obtain ⟨after, all, returns⟩ := ih (marked.descend successor below) split'
      refine ⟨after, all, fun fuel enough => ?_⟩
      rw [List.foldlM_cons, if_neg (by simp [seen]), calls fuel (fewer.trans_le enough)]
      exact returns fuel enough

theorem markFrom_spec [DecidableEq α] (closed : ∀ a ∈ nodes, ∀ b ∈ next a, b ∈ nodes) (start : a ∈ nodes)
    (marks : α → Bool) : ∃ after, Marked next a (next a) marks after ∧
      ∀ fuel, (unmarkedIn nodes marks).card < fuel → markFrom next fuel a marks = some after := by
  induction count : (unmarkedIn nodes marks).card using Nat.strong_induction_on generalizing a marks with
  | _ n ih =>
    subst count
    have call : ∀ b ∈ nodes, ∀ marks', (unmarkedIn nodes marks').card < (unmarkedIn nodes marks).card →
        ∃ after, Marked next b (next b) marks' after ∧
          ∀ fuel, (unmarkedIn nodes marks').card < fuel → markFrom next fuel b marks' = some after := by
      intro b node marks' fewer
      exact ih _ fewer node marks' rfl
    obtain ⟨after, marked, returns⟩ := markAll_spec start closed call (next a) (.refl a marks) rfl
    refine ⟨after, marked, fun fuel enough => ?_⟩
    cases fuel with
    | zero => omega
    | succ fuel => exact returns fuel (Nat.le_of_lt_succ enough)

end FlutterZero.Lib
