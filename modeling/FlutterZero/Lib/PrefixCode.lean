import Mathlib.Data.List.Infix
import Mathlib.Data.Set.List
import Mathlib.InformationTheory.Coding.UniquelyDecodable

/-! # Prefix codes

A code of which no word begins another is uniquely decodable.
-/

namespace FlutterZero.Lib

open InformationTheory

variable {α β : Type*}

/-- No word of the code is empty, and none begins another. -/
structure IsPrefixCode (code : α → List β) : Prop where
  nonempty : ∀ x, code x ≠ []
  free : ∀ x y, code x <+: code y → x = y

namespace IsPrefixCode

variable {code : α → List β}

theorem injective (isCode : IsPrefixCode code) : Function.Injective code :=
  fun x y same => isCode.free x y (same ▸ List.prefix_rfl)

theorem eq_of_append (isCode : IsPrefixCode code) {x y : α} {first second : List β}
    (same : code x ++ first = code y ++ second) : x = y ∧ first = second := by
  have symbol : x = y := by
    rcases List.append_eq_append_iff.mp same with ⟨more, longer, -⟩ | ⟨more, longer, -⟩
    · exact isCode.free x y ⟨more, longer.symm⟩
    · exact (isCode.free y x ⟨more, longer.symm⟩).symm
  subst symbol
  exact ⟨rfl, List.append_cancel_left same⟩

theorem flatMap_injective (isCode : IsPrefixCode code) : Function.Injective (List.flatMap code) := by
  intro text other same
  induction text generalizing other with
  | nil =>
    cases other with
    | nil => rfl
    | cons y other => exact absurd (List.append_eq_nil_iff.mp same.symm).1 (isCode.nonempty y)
  | cons x text ih =>
    cases other with
    | nil => exact absurd (List.append_eq_nil_iff.mp same).1 (isCode.nonempty x)
    | cons y other =>
      rw [List.flatMap_cons, List.flatMap_cons] at same
      obtain ⟨rfl, rest⟩ := isCode.eq_of_append same
      rw [ih rest]

theorem uniquelyDecodable (isCode : IsPrefixCode code) : UniquelyDecodable (Set.range code) := by
  intro words others inCode othersInCode same
  have inRange : words ∈ Set.range (List.map code) := Set.range_list_map code ▸ inCode
  have othersInRange : others ∈ Set.range (List.map code) := Set.range_list_map code ▸ othersInCode
  obtain ⟨text, rfl⟩ := inRange
  obtain ⟨other, rfl⟩ := othersInRange
  rw [← List.flatMap_def, ← List.flatMap_def] at same
  rw [isCode.flatMap_injective same]

end IsPrefixCode

end FlutterZero.Lib
