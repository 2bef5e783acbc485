import Mathlib.Data.List.Basic
import Mathlib.Data.List.Nodup

/-! # Calls in progress

A system whose calls take several atomic steps keeps the calls that are in progress in a
list; a step picks one of them by its position and replaces it, or removes it when it
returns.  Seen from the call that moves, the list is split into the others before and after it.
-/

namespace FlutterZero.Lib

variable {α β : Type*} {calls : List α} {call : α} {i : Nat}

theorem exists_split_of_getElem? (found : calls[i]? = some call) :
    ∃ before after, calls = before ++ call :: after ∧ before.length = i := by
  obtain ⟨inside, rfl⟩ := List.getElem?_eq_some_iff.mp found
  have short : (calls.take i).length = i := by simp; omega
  refine ⟨calls.take i, calls.drop (i + 1), ?_, short⟩
  rw [← List.drop_eq_getElem_cons inside, List.take_append_drop]

@[simp] theorem eraseIdx_split (before after : List α) :
    (before ++ call :: after).eraseIdx before.length = before ++ after := by
  simp [List.eraseIdx_append_of_length_le]

@[simp] theorem set_split (call' : α) (before after : List α) :
    (before ++ call :: after).set before.length call' = before ++ call' :: after := by
  simp

section

variable {before after : List α} (split : calls = before ++ call :: after)

include split

theorem call_mem_of_split : call ∈ calls := by
  rw [split]
  exact List.mem_append_right _ List.mem_cons_self

theorem other_mem_of_split : ∀ other ∈ before ++ after, other ∈ calls := by
  intro other inside
  rw [split, List.mem_append, List.mem_cons]
  exact (List.mem_append.mp inside).imp_right .inr

theorem key_ne_of_split {key : α → β} (distinct : (calls.map key).Nodup) :
    ∀ other ∈ before ++ after, key other ≠ key call := by
  intro other inside same
  rw [split, List.map_append, List.map_cons, List.nodup_middle, List.nodup_cons, ← List.map_append] at distinct
  exact distinct.1 (List.mem_map.mpr ⟨other, inside, same⟩)

theorem keys_nodup_of_split {key : α → β} (distinct : (calls.map key).Nodup) : ((before ++ after).map key).Nodup := by
  rw [split, List.map_append, List.map_cons, List.nodup_middle, List.nodup_cons, ← List.map_append] at distinct
  exact distinct.2

end

end FlutterZero.Lib
