import Mathlib

/-! # The last element of each key

A list is indexed by inserting the position of every element under the key of the element, one after
another: what the index holds in the end is the position of the last element of each key.
-/

namespace FlutterZero.Lib

variable {α κ : Type*}

/-- The element at `i` has the key `k`, and no element behind it has. -/
structure LastOfKey (key : α → κ) (k : κ) (i : Nat) (xs : List α) : Prop where
  keyed : (xs.map key)[i]? = some k
  fresh : ∀ j, i < j → (xs.map key)[j]? ≠ some k

namespace LastOfKey

variable {key : α → κ} {k : κ} {i : Nat} {x : α} {xs : List α}

theorem lt_length (last : LastOfKey key k i xs) : i < xs.length := by
  have inside := List.getElem?_eq_some_iff.mp last.keyed
  simpa using inside.1

theorem mem (last : LastOfKey key k i xs) : k ∈ xs.map key := List.mem_of_getElem? last.keyed

theorem append_of_eq (eq : key x = k) : LastOfKey key k i (xs ++ [x]) ↔ i = xs.length := by
  constructor
  · intro last
    have inside := last.lt_length
    rw [List.length_append, List.length_singleton] at inside
    by_contra other
    refine last.fresh xs.length (by omega) ?_
    simp [eq]
  · rintro rfl
    refine ⟨by simp [eq], fun j behind found => ?_⟩
    have inside := (List.getElem?_eq_some_iff.mp found).1
    rw [List.length_map, List.length_append, List.length_singleton] at inside
    omega

theorem append_of_ne (ne : key x ≠ k) : LastOfKey key k i (xs ++ [x]) ↔ LastOfKey key k i xs := by
  have at_end : ∀ j : Nat, ((xs ++ [x]).map key)[j]? = some k ↔ (xs.map key)[j]? = some k := by
    intro j
    rcases Nat.lt_trichotomy j xs.length with before | rfl | behind
    · rw [List.map_append, List.getElem?_append_left (by simpa using before)]
    · simp [ne]
    · simp [List.getElem?_eq_none, Nat.le_of_lt behind, Nat.succ_le_of_lt behind]
  constructor
  · rintro ⟨keyed, fresh⟩
    exact ⟨(at_end i).mp keyed, fun j behind found => fresh j behind ((at_end j).mpr found)⟩
  · rintro ⟨keyed, fresh⟩
    exact ⟨(at_end i).mpr keyed, fun j behind found => fresh j behind ((at_end j).mp found)⟩

end LastOfKey

/-! ## The index -/

section Index

variable [BEq κ] [Hashable κ] [LawfulBEq κ] [LawfulHashable κ]

def indexByKey (key : α → κ) (xs : List α) : Std.HashMap κ Nat :=
  xs.zipIdx.foldl (fun index (x, i) => index.insert (key x) i) ∅

omit [LawfulBEq κ] [LawfulHashable κ] in
theorem indexByKey_append (key : α → κ) (xs : List α) (x : α) :
    indexByKey key (xs ++ [x]) = (indexByKey key xs).insert (key x) xs.length := by
  simp [indexByKey, List.zipIdx_append]

theorem getElem?_indexByKey {key : α → κ} {k : κ} {i : Nat} (xs : List α) :
    (indexByKey key xs)[k]? = some i ↔ LastOfKey key k i xs := by
  induction xs using List.reverseRecOn with
  | nil =>
    constructor
    · intro found
      simp [indexByKey] at found
    · intro last
      simpa using last.keyed
  | append_singleton xs x ih =>
    rw [indexByKey_append, Std.HashMap.getElem?_insert]
    by_cases eq : key x = k
    · rw [LastOfKey.append_of_eq eq]
      simp [eq, eq_comm]
    · rw [LastOfKey.append_of_ne eq, ← ih]
      simp [eq]

theorem getElem?_indexByKey_eq_none {key : α → κ} {k : κ} (xs : List α) :
    (indexByKey key xs)[k]? = none ↔ k ∉ xs.map key := by
  induction xs using List.reverseRecOn with
  | nil => simp [indexByKey]
  | append_singleton xs x ih =>
    rw [indexByKey_append, Std.HashMap.getElem?_insert, List.map_append, List.mem_append]
    by_cases eq : key x = k
    · simp [eq]
    · have other : k ≠ key x := fun same => eq same.symm
      simp [eq, other, ih]

end Index

theorem getLast?_filter_key {β : Type*} [DecidableEq κ] {key : α → κ} {value : α → β} {k : κ} {i : Nat}
    {xs : List α} (last : LastOfKey key k i xs) :
    ((xs.filter fun x => decide (key x = k)).map value).getLast? = (xs[i]?).map value := by
  induction xs using List.reverseRecOn with
  | nil => exact absurd last.mem (by simp)
  | append_singleton xs x ih =>
    by_cases eq : key x = k
    · obtain rfl := (LastOfKey.append_of_eq eq).mp last
      simp [List.filter_append, eq]
    · have before := (LastOfKey.append_of_ne eq).mp last
      rw [List.filter_append, List.getElem?_append_left before.lt_length, ← ih before]
      simp [eq]

end FlutterZero.Lib
