import Mathlib.Data.List.Infix
import Mathlib.Data.Nat.Basic

/-! # How deep a text is nested

An opening sign goes one level down and a closing one goes back.

* `nesting` — the level after a text, if it does not close what was not open;
* `Balanced` — whatever a text opens it closes;
* `infix_append_left_iff` — what does not start with a sign of the surroundings is not in them.
-/

namespace FlutterZero.Lib

section Levels

variable {α : Type*} [DecidableEq α] {opening closing c : α} {level after : Nat} {text : List α}

/-- The level after a sign, if it does not close what was not open. -/
def nest (opening closing : α) (level : Nat) (c : α) : Option Nat :=
  if c = opening then some (level + 1)
  else if c = closing then (if level = 0 then none else some (level - 1))
  else some level

def nesting (opening closing : α) (level : Nat) (text : List α) : Option Nat :=
  text.foldlM (nest opening closing) level

abbrev Balanced (opening closing : α) (text : List α) : Prop := nesting opening closing 0 text = some 0

/-! ## One sign -/

theorem nest_opening (level : Nat) : nest opening closing level opening = some (level + 1) := if_pos rfl

theorem nest_closing (distinct : closing ≠ opening) (level : Nat) :
    nest opening closing (level + 1) closing = some level := by
  rw [nest, if_neg distinct, if_pos rfl, if_neg (Nat.succ_ne_zero level), Nat.add_sub_cancel]

theorem nest_other (notOpening : c ≠ opening) (notClosing : c ≠ closing) (level : Nat) :
    nest opening closing level c = some level := by
  rw [nest, if_neg notOpening, if_neg notClosing]

theorem nest_eq_none (none : nest opening closing level c = none) : c = closing ∧ level = 0 := by
  unfold nest at none
  split_ifs at none with isOpening isClosing atZero
  exact ⟨isClosing, atZero⟩

theorem nest_add (nested : nest opening closing level c = some after) (more : Nat) :
    nest opening closing (level + more) c = some (after + more) := by
  unfold nest at nested ⊢
  split_ifs at nested with isOpening isClosing atZero
  · cases nested
    rw [if_pos isOpening, Nat.add_right_comm]
  · cases nested
    rw [if_neg isOpening, if_pos isClosing, if_neg (by omega), Nat.sub_add_comm (Nat.pos_of_ne_zero atZero)]
  · cases nested
    rw [if_neg isOpening, if_neg isClosing]

/-! ## A text -/

@[simp] theorem nesting_nil (level : Nat) : nesting opening closing level [] = some level := rfl

theorem nesting_cons (level : Nat) (c : α) (rest : List α) :
    nesting opening closing level (c :: rest) =
      (nest opening closing level c).bind fun next => nesting opening closing next rest := rfl

theorem nesting_append (level : Nat) (first second : List α) :
    nesting opening closing level (first ++ second) =
      (nesting opening closing level first).bind fun next => nesting opening closing next second :=
  List.foldlM_append ..

theorem nesting_append_of_some (nested : nesting opening closing level text = some after) (second : List α) :
    nesting opening closing level (text ++ second) = nesting opening closing after second := by
  rw [nesting_append, nested, Option.bind_some]

theorem nesting_add (nested : nesting opening closing level text = some after) (more : Nat) :
    nesting opening closing (level + more) text = some (after + more) := by
  induction text generalizing level with
  | nil =>
    cases nested
    rfl
  | cons c rest ih =>
    obtain ⟨next, step, nested⟩ := Option.bind_eq_some_iff.mp nested
    rw [nesting_cons, nest_add step, Option.bind_some]
    exact ih nested

theorem Balanced.nesting (balanced : Balanced opening closing text) (level : Nat) :
    Lib.nesting opening closing level text = some level := by
  simpa using nesting_add balanced level

theorem nesting_cons_of_ne (notOpening : c ≠ opening) (notClosing : c ≠ closing) (level : Nat) (rest : List α) :
    nesting opening closing level (c :: rest) = nesting opening closing level rest := by
  rw [nesting_cons, nest_other notOpening notClosing, Option.bind_some]

theorem balanced_of_free (notOpening : opening ∉ text) (notClosing : closing ∉ text) :
    Balanced opening closing text := by
  induction text with
  | nil => rfl
  | cons c rest ih =>
    rw [List.mem_cons, not_or] at notOpening notClosing
    rw [Balanced, nesting_cons_of_ne (Ne.symm notOpening.1) (Ne.symm notClosing.1)]
    exact ih notOpening.2 notClosing.2

theorem nesting_eq_none (none : nesting opening closing level text = none) :
    ∃ before rest, text = before ++ closing :: rest ∧ nesting opening closing level before = some 0 := by
  induction text generalizing level with
  | nil => nomatch none
  | cons c rest ih =>
    cases step : nest opening closing level c with
    | none =>
      obtain ⟨rfl, rfl⟩ := nest_eq_none step
      exact ⟨[], rest, rfl, rfl⟩
    | some next =>
      rw [nesting_cons, step, Option.bind_some] at none
      obtain ⟨before, after, rfl, nested⟩ := ih none
      exact ⟨c :: before, after, rfl, by rw [nesting_cons, step, Option.bind_some, nested]⟩

end Levels

/-! ## Parts of a text -/

section Parts

variable {α : Type*} {first last : α} {part surroundings : List α}

theorem infix_append_left_iff (away : first ∉ surroundings) (text : List α) :
    (first :: part) <:+: surroundings ++ text ↔ (first :: part) <:+: text := by
  induction surroundings with
  | nil => rfl
  | cons c rest ih =>
    rw [List.mem_cons, not_or] at away
    rw [List.cons_append, List.infix_cons_iff, ih away.2, List.cons_prefix_cons]
    exact or_iff_right fun starts => away.1 starts.1

theorem infix_append_right_iff (away : last ∉ surroundings) (text : List α) :
    (part ++ [last]) <:+: text ++ surroundings ↔ (part ++ [last]) <:+: text := by
  have awayReversed : last ∉ surroundings.reverse := by rwa [List.mem_reverse]
  have reversed : last :: part.reverse <:+: surroundings.reverse ++ text.reverse ↔
      last :: part.reverse <:+: text.reverse := infix_append_left_iff awayReversed text.reverse
  rwa [← List.reverse_concat, ← List.reverse_append, List.reverse_infix, List.reverse_infix] at reversed

end Parts

end FlutterZero.Lib
