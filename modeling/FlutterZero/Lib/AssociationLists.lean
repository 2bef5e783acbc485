import Mathlib.Data.List.Basic

/-! # Association lists

`List.lookup` finds the first pair of a key.

* `mem_of_lookup`, `not_mem_keys_of_lookup` — what an answer says about the list;
* `lookup_append_of_not_mem` — what is found in the second of two lists.
-/

namespace FlutterZero.Lib

variable {κ ν : Type*} [BEq κ] [LawfulBEq κ] {key : κ} {value : ν} {entries : List (κ × ν)}

theorem mem_of_lookup (found : entries.lookup key = some value) : (key, value) ∈ entries := by
  obtain ⟨before, after, split, -⟩ := List.lookup_eq_some_iff.mp found
  rw [split]
  simp

theorem lookup_eq_none_iff_not_mem : entries.lookup key = none ↔ key ∉ entries.map Prod.fst := by
  rw [List.lookup_eq_none_iff]
  simp only [List.mem_map, not_exists, not_and, bne_iff_ne, ne_eq]
  exact forall₂_congr fun _ _ => not_congr eq_comm

theorem not_mem_keys_of_lookup (absent : entries.lookup key = none) : key ∉ entries.map Prod.fst :=
  lookup_eq_none_iff_not_mem.mp absent

theorem lookup_append_of_not_mem (fresh : key ∉ entries.map Prod.fst) (rest : List (κ × ν)) :
    (entries ++ rest).lookup key = rest.lookup key := by
  rw [List.lookup_append, lookup_eq_none_iff_not_mem.mpr fresh, Option.none_or]

end FlutterZero.Lib
