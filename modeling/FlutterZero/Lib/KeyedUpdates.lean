import Mathlib.Logic.Function.Basic
import Mathlib.Data.List.Basic

/-! # Maps that are changed key by key

A map is a function to `Option`; a change gives a key a new value, which may depend on
the old one.

* `applyAll_apply` — the value of a key after some changes is made by the changes of this
  key alone;
* `keep`, `keepAll_cases` — a value that is replaced only by one of another
  configuration: either it stays, or what was there before does not matter.
-/

namespace FlutterZero.Lib

variable {κ ν γ : Type*} [DecidableEq κ]

def applyAt (m : κ → Option ν) (change : κ × (Option ν → Option ν)) : κ → Option ν :=
  Function.update m change.1 (change.2 (m change.1))

def applyAll (changes : List (κ × (Option ν → Option ν))) (m : κ → Option ν) : κ → Option ν := changes.foldl applyAt m

def valuesOf {ω : Type*} (key : κ) (changes : List (κ × ω)) : List ω :=
  (changes.filter fun change => decide (change.1 = key)).map Prod.snd

variable {ω : Type*}

@[simp] theorem valuesOf_nil (key : κ) : valuesOf key ([] : List (κ × ω)) = [] := rfl

theorem valuesOf_append (key : κ) (changes later : List (κ × ω)) :
    valuesOf key (changes ++ later) = valuesOf key changes ++ valuesOf key later := by
  simp [valuesOf]

theorem valuesOf_map {ω' : Type*} (f : ω → ω') (key : κ) (changes : List (κ × ω)) :
    valuesOf key (changes.map fun change => (change.1, f change.2)) = (valuesOf key changes).map f := by
  simp [valuesOf, List.filter_map, Function.comp_def]

theorem mem_valuesOf {key : κ} {changes : List (κ × ω)} {value : ω} :
    value ∈ valuesOf key changes ↔ (key, value) ∈ changes := by
  simp [valuesOf]

theorem applyAll_apply (changes : List (κ × (Option ν → Option ν))) (m : κ → Option ν) (key : κ) :
    applyAll changes m key = (valuesOf key changes).foldl (fun value change => change value) (m key) := by
  induction changes generalizing m with
  | nil => rfl
  | cons change changes ih =>
    rw [applyAll, List.foldl_cons, ← applyAll, ih]
    by_cases same : change.1 = key
    · subst same
      simp [valuesOf, applyAt]
    · simp [valuesOf, applyAt, same, Ne.symm same]

/-! ## Values that are kept -/

section Keep

variable [DecidableEq γ] (config : ν → γ)

/-- The value, unless there is one of the same configuration already. -/
def keep (value : ν) : Option ν → Option ν
  | none => some value
  | some old => if config value = config old then some old else some value

def keepAll (values : List ν) (start : Option ν) : Option ν :=
  values.foldl (fun current value => keep config value current) start

variable {config} {old : ν} {values : List ν}

@[simp] theorem keepAll_nil (start : Option ν) : keepAll config [] start = start := rfl

@[simp] theorem keepAll_cons (value : ν) (values : List ν) (start : Option ν) :
    keepAll config (value :: values) start = keepAll config values (keep config value start) := rfl

theorem keepAll_of_forall (same : ∀ value ∈ values, config value = config old) :
    keepAll config values (some old) = some old := by
  induction values with
  | nil => rfl
  | cons value values ih =>
    simp only [List.forall_mem_cons] at same
    rw [keepAll_cons, keep, if_pos same.1]
    exact ih same.2

theorem keepAll_congr {other : ν} (alike : config old = config other)
    (changed : ∃ value ∈ values, config value ≠ config old) :
    keepAll config values (some old) = keepAll config values (some other) := by
  induction values with
  | nil => simp at changed
  | cons value values ih =>
    rw [keepAll_cons, keepAll_cons, keep, keep, ← alike]
    by_cases same : config value = config old
    · rw [if_pos same, if_pos same]
      refine ih ?_
      simpa [same] using changed
    · rw [if_neg same, if_neg same]

theorem keepAll_cases (config : ν → γ) (old first : ν) (values : List ν) :
    (∀ value ∈ first :: values, config value = config old) ∧
      keepAll config (first :: values) (some old) = some old ∧ keepAll config (first :: values) none = some first ∨
    ¬ (∀ value ∈ first :: values, config value = config old) ∧
      keepAll config (first :: values) (some old) = keepAll config (first :: values) none := by
  by_cases same : ∀ value ∈ first :: values, config value = config old
  · have alike : config first = config old := same first List.mem_cons_self
    refine .inl ⟨same, keepAll_of_forall same, ?_⟩
    refine keepAll_of_forall fun value inside => ?_
    rw [alike]
    exact same value (List.mem_cons_of_mem _ inside)
  · refine .inr ⟨same, ?_⟩
    rw [keepAll_cons, keepAll_cons, keep, keep]
    by_cases alike : config first = config old
    · rw [if_pos alike]
      simp only [not_forall] at same
      obtain ⟨value, inside, changed⟩ := same
      refine keepAll_congr alike.symm ⟨value, ?_, changed⟩
      exact (List.mem_cons.mp inside).resolve_left fun isFirst => changed (isFirst ▸ alike)
    · rw [if_neg alike]

theorem mem_of_keepAll {start : Option ν} {value : ν} (kept : keepAll config values start = some value) :
    start = some value ∨ value ∈ values := by
  induction values generalizing start with
  | nil => exact .inl kept
  | cons first values ih =>
    obtain found | inside := ih kept
    · cases start with
      | none => exact .inr (by simp [← Option.some.inj found])
      | some old =>
        simp only [keep] at found
        split at found
        · exact .inl found
        · exact .inr (by simp [← Option.some.inj found])
    · exact .inr (List.mem_cons_of_mem _ inside)

theorem keepAll_some_isSome (config : ν → γ) (values : List ν) (old : ν) :
    (keepAll config values (some old)).isSome = true := by
  induction values generalizing old with
  | nil => rfl
  | cons value values ih =>
    rw [keepAll_cons, keep]
    split
    · exact ih old
    · exact ih value

theorem keepAll_isSome (config : ν → γ) (first : ν) (values : List ν) (start : Option ν) :
    (keepAll config (first :: values) start).isSome = true := by
  rw [keepAll_cons]
  cases start with
  | none => exact keepAll_some_isSome config values first
  | some old =>
    rw [keep]
    split
    · exact keepAll_some_isSome config values old
    · exact keepAll_some_isSome config values first

end Keep

theorem foldl_orElse (values : List ν) (start : Option ν) :
    values.foldl (fun current value => current.or (some value)) start = start.or values.head? := by
  cases start with
  | none =>
    cases values with
    | nil => rfl
    | cons first values =>
      induction values with
      | nil => rfl
      | cons value values ih => simpa using ih
  | some old =>
    induction values with
    | nil => rfl
    | cons value values ih => simpa using ih

end FlutterZero.Lib
