import Mathlib

/-! # Patterns of two characters

Replacing and splitting by patterns that match two neighbouring characters, from left to
right, with no overlap of the matches.

* `replacePairs` — every match is replaced by a text that depends on it;
* `splitPair` — a text is cut at every occurrence of two characters.
-/

namespace FlutterZero.Lib

variable {α : Type*}

/-! ## Replacing -/

/-- Replaces the pairs that `pattern` matches. -/
def replacePairs (pattern : α → α → Option (List α)) : List α → List α
  | first :: second :: rest =>
    match pattern first second with
    | some replacement => replacement ++ replacePairs pattern rest
    | none => first :: replacePairs pattern (second :: rest)
  | text => text

variable {pattern : α → α → Option (List α)} {first second : α} {rest : List α}

@[simp] theorem replacePairs_nil : replacePairs pattern [] = [] := rfl

@[simp] theorem replacePairs_singleton : replacePairs pattern [first] = [first] := rfl

theorem replacePairs_of_match {replacement : List α} (matched : pattern first second = some replacement) :
    replacePairs pattern (first :: second :: rest) = replacement ++ replacePairs pattern rest := by
  simp [replacePairs, matched]

theorem replacePairs_cons (free : ∀ second ∈ rest.head?, pattern first second = none) :
    replacePairs pattern (first :: rest) = first :: replacePairs pattern rest := by
  cases rest with
  | nil => rfl
  | cons second rest => simp [replacePairs, free second (by simp)]

/-! ## Splitting -/

variable [DecidableEq α] {open' close : α}

/-- Cuts the text at every `open' close`. -/
def splitPair (open' close : α) : List α → List (List α)
  | first :: second :: rest =>
    if first = open' ∧ second = close then [] :: splitPair open' close rest
    else
      match splitPair open' close (second :: rest) with
      | part :: parts => (first :: part) :: parts
      | [] => [[first]]
  | text => [text]

theorem splitPair_of_match : splitPair open' close (open' :: close :: rest) = [] :: splitPair open' close rest := by
  simp [splitPair]

theorem splitPair_cons {part : List α} {parts : List (List α)}
    (free : first = open' → ∀ second ∈ rest.head?, second ≠ close) (split : splitPair open' close rest = part :: parts) :
    splitPair open' close (first :: rest) = (first :: part) :: parts := by
  cases rest with
  | nil =>
    simp only [splitPair, List.cons.injEq] at split ⊢
    simp [← split.1, ← split.2]
  | cons second rest =>
    have noMatch : ¬ (first = open' ∧ second = close) := fun ⟨isOpen, isClose⟩ => free isOpen second (by simp) isClose
    simp [splitPair, noMatch, split]

end FlutterZero.Lib
