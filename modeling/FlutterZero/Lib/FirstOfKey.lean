import Mathlib.Data.List.Perm.Basic

/-! # The first element of each key

A pass over a list that acts on an element only if no element before it has the same key.  Which
element that is depends on the order: of the elements that share a key, each is the first of them in
some permutation of the list.
-/

namespace FlutterZero.Lib

variable {α κ : Type*}

/-- `x` is in the list, with the key `k`, and nothing before it has that key. -/
def FirstOfKey (key : α → Option κ) (k : κ) (x : α) (xs : List α) : Prop :=
  ∃ before after, xs = before ++ x :: after ∧ key x = some k ∧ ∀ y ∈ before, key y ≠ some k

namespace FirstOfKey

variable {key : α → Option κ} {k : κ} {x y : α} {xs ys : List α}

theorem mem (first : FirstOfKey key k x xs) : x ∈ xs := by
  obtain ⟨before, after, rfl, _⟩ := first
  simp

theorem key_eq (first : FirstOfKey key k x xs) : key x = some k := by
  obtain ⟨_, _, _, keyed, _⟩ := first
  exact keyed

@[simp] theorem not_nil : ¬ FirstOfKey key k x [] := by
  rintro ⟨before, after, empty, _⟩
  simp at empty

theorem cons_iff : FirstOfKey key k x (y :: ys) ↔
    (x = y ∧ key y = some k) ∨ (key y ≠ some k ∧ FirstOfKey key k x ys) := by
  constructor
  · rintro ⟨before, after, split, keyed, fresh⟩
    cases before with
    | nil =>
      obtain ⟨rfl, rfl⟩ : y = x ∧ ys = after := by simpa using split
      exact .inl ⟨rfl, keyed⟩
    | cons z before =>
      obtain ⟨rfl, rfl⟩ : y = z ∧ ys = before ++ x :: after := by simpa using split
      exact .inr ⟨fresh y (by simp), before, after, rfl, keyed, fun w mem => fresh w (by simp [mem])⟩
  · rintro (⟨rfl, keyed⟩ | ⟨other, before, after, rfl, keyed, fresh⟩)
    · exact ⟨[], ys, rfl, keyed, by simp⟩
    · refine ⟨y :: before, after, rfl, keyed, ?_⟩
      simpa [other] using fresh

theorem exists_of_mem (mem : x ∈ xs) (keyed : key x = some k) : ∃ y, FirstOfKey key k y xs := by
  induction xs with
  | nil => exact absurd mem (by simp)
  | cons z xs ih =>
    by_cases head : key z = some k
    · exact ⟨z, cons_iff.mpr (.inl ⟨rfl, head⟩)⟩
    · have tail : x ∈ xs := by
        rcases List.mem_cons.mp mem with rfl | tail
        · exact absurd keyed head
        · exact tail
      obtain ⟨y, first⟩ := ih tail
      exact ⟨y, cons_iff.mpr (.inr ⟨head, first⟩)⟩

/-- The list with the elements of `p` moved to its end. -/
def moveLast (p : α → Bool) (xs : List α) : List α := xs.filter (fun x => !p x) ++ xs.filter p

theorem moveLast_perm (p : α → Bool) (xs : List α) : (moveLast p xs).Perm xs :=
  (List.perm_append_comm).trans (List.filter_append_perm p xs)

/-- An element of `p` comes first among those of its key only if all of them are in `p`, when these have been moved
    to the end. -/
theorem all_of_moveLast {p : α → Bool} (first : FirstOfKey key k x (moveLast p xs)) (holds : p x = true)
    (mem : y ∈ xs) (keyed : key y = some k) : p y = true := by
  by_contra other
  obtain ⟨before, after, split, _, fresh⟩ := first
  have early : y ∈ xs.filter fun x => !p x := by simpa [mem] using other
  have late : x ∉ xs.filter fun x => !p x := by simp [holds]
  -- What is not in `p` stands before `x`, which is.
  have sooner : y ∈ before := by
    rcases List.append_eq_append_iff.mp split with ⟨rest, here, _⟩ | ⟨rest, here, there⟩
    · rw [here]
      exact List.mem_append_left _ early
    · cases rest with
      | nil =>
        rw [here, List.append_nil] at early
        exact early
      | cons z rest =>
        obtain ⟨rfl, _⟩ := List.cons.inj there
        rw [here] at late
        exact absurd (by simp) late
  exact fresh y sooner keyed

end FirstOfKey

end FlutterZero.Lib
