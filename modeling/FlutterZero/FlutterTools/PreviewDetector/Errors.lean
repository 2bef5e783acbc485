import FlutterZero.FlutterTools.PreviewDetector.Consistency
import FlutterZero.Lib.DepthFirst

/-! # Errors of dependencies

`_propagateErrors` tells for every library of the dependency graph whether a library it
needs has compile time errors.

* `propagateErrors` — the flags are reset, and every library with errors marks those
  that import it, directly or not;
* `propagateErrors_spec` — the flags that come out of it;
* `exact_iff` — they are right just if no flag was left over on a library with errors.

The recursion has a bound on its depth; the graph itself bounds it.
-/

namespace FlutterZero.FlutterTools

open Relation FlutterZero.Lib

namespace PreviewDetector

abbrev Diagnostic := String

/-- The importers of each library, in the order a loop goes through them. -/
structure ImporterOrder (s : PreviewDetector) where
  importers : NodeId → List NodeId
  nodup : ∀ n, (importers n).Nodup
  mem_importers : ∀ n m, m ∈ importers n ↔ m ∈ (s.nodes n).dependedOnBy

/-- `_dependencyGraph.values`. -/
def values (s : PreviewDetector) : List NodeId := s.dependencyGraph.map Prod.snd

section

variable (s : PreviewDetector) (order : ImporterOrder s) (errors : NodeId → List Diagnostic)

/-- The loop over the nodes that resets `dependencyHasErrors`, unless a node has errors itself. -/
def resetErrors (dependencyHasErrors : NodeId → Bool) : NodeId → Bool :=
  s.values.foldl (fun flags libraryDetails =>
    if (errors libraryDetails).isEmpty then Function.update flags libraryDetails false else flags) dependencyHasErrors

/-- An importer that has the flag is passed over; another one gets it, and the helper is called for it. -/
def propagateErrorsHelper {s : PreviewDetector} (order : ImporterOrder s) (fuel : Nat)
    (errorContainingNode : NodeId) (dependencyHasErrors : NodeId → Bool) : Option (NodeId → Bool) :=
  markFrom order.importers fuel errorContainingNode dependencyHasErrors

def propagateErrors (fuel : Nat) (dependencyHasErrors : NodeId → Bool) : Option (NodeId → Bool) :=
  s.values.foldlM (fun flags nodeDetails =>
    if (errors nodeDetails).isEmpty then some flags else propagateErrorsHelper order fuel nodeDetails flags)
    (s.resetErrors errors dependencyHasErrors)

end

variable {s : PreviewDetector} {order : ImporterOrder s} {errors : NodeId → List Diagnostic}
  {flags before after : NodeId → Bool} {n m : NodeId}

theorem mem_values : n ∈ s.values ↔ s.Present n := by
  simp [values, Present]

/-! ## The reset -/

theorem resetFlags_apply (nodes : List NodeId) (flags : NodeId → Bool) (n : NodeId) :
    nodes.foldl (fun flags n => if (errors n).isEmpty then Function.update flags n false else flags) flags n =
      if n ∈ nodes ∧ errors n = [] then false else flags n := by
  induction nodes generalizing flags with
  | nil => simp
  | cons head nodes ih =>
    rw [List.foldl_cons, ih]
    by_cases same : n = head
    · subst same
      by_cases clean : errors n = [] <;> simp [clean]
    · by_cases clean : errors head = [] <;> simp [clean, same]

theorem resetErrors_apply (present : s.Present n) :
    s.resetErrors errors flags n = (!(errors n).isEmpty && flags n) := by
  rw [resetErrors, resetFlags_apply]
  by_cases clean : errors n = [] <;> simp [clean, mem_values, present]

/-! ## What is reached -/

def Imports (s : PreviewDetector) (n m : NodeId) : Prop := m ∈ (s.nodes n).dependsOn

def NeedsErrors (s : PreviewDetector) (errors : NodeId → List Diagnostic) (n : NodeId) : Prop :=
  ∃ m, TransGen s.Imports n m ∧ errors m ≠ []

theorem Consistent.present_of_imports (consistent : s.Consistent) (present : s.Present n)
    (reached : TransGen s.Imports n m) : s.Present m := by
  induction reached with
  | single imports => exact consistent.dependsOn_present n present _ imports
  | tail _ imports ih => exact consistent.dependsOn_present _ ih _ imports

theorem Consistent.mem_importers_iff (consistent : s.Consistent) (order : ImporterOrder s) (source : s.Present n)
    (target : s.Present m) : n ∈ order.importers m ↔ s.Imports n m := by
  rw [order.mem_importers]
  exact (consistent.inverse n m source target).symm

theorem Consistent.present_importer (consistent : s.Consistent) (order : ImporterOrder s) (present : s.Present n)
    (importer : m ∈ order.importers n) : s.Present m := by
  rw [order.mem_importers] at importer
  exact consistent.dependedOnBy_present n present m importer

theorem Consistent.imports_of_importers (consistent : s.Consistent) (present : s.Present m)
    (reached : TransGen (fun x y => y ∈ order.importers x) m n) : s.Present n ∧ TransGen s.Imports n m := by
  induction reached with
  | single importer =>
    have inside := consistent.present_importer order present importer
    exact ⟨inside, .single ((consistent.mem_importers_iff order inside present).mp importer)⟩
  | tail _ importer ih =>
    have inside := consistent.present_importer order ih.1 importer
    exact ⟨inside, .head ((consistent.mem_importers_iff order inside ih.1).mp importer) ih.2⟩

/-! ## The loop over the libraries with errors -/

/-- What holds of the flags once the libraries `done` have been looked at. -/
structure Propagated (s : PreviewDetector) (order : ImporterOrder s) (errors : NodeId → List Diagnostic)
    (done : List NodeId) (before after : NodeId → Bool) : Prop where
  kept : ∀ n, before n = true → after n = true
  sound : ∀ n, s.Present n → after n = true → before n = true ∨ s.NeedsErrors errors n
  closed : ∀ n, after n = true → before n = false → ∀ m ∈ order.importers n, after m = true
  done : ∀ n ∈ done, errors n ≠ [] → ∀ m ∈ order.importers n, after m = true

theorem Propagated.init (order : ImporterOrder s) (errors : NodeId → List Diagnostic) (before : NodeId → Bool) :
    Propagated s order errors [] before before where
  kept _ flagged := flagged
  sound _ _ flagged := .inl flagged
  closed n flagged unflagged := by simp [flagged] at unflagged
  done := by simp

variable {done : List NodeId}

theorem Propagated.clean (propagated : Propagated s order errors done before after)
    (clean : errors n = []) : Propagated s order errors (done ++ [n]) before after where
  kept := propagated.kept
  sound := propagated.sound
  closed := propagated.closed
  done := by
    simp only [List.forall_mem_append, List.forall_mem_singleton]
    exact ⟨propagated.done, fun dirty => absurd clean dirty⟩

theorem Propagated.helper {after' : NodeId → Bool} (consistent : s.Consistent)
    (present : s.Present n) (dirty : errors n ≠ []) (propagated : Propagated s order errors done before after)
    (call : Marked order.importers n (order.importers n) after after') :
    Propagated s order errors (done ++ [n]) before after' := by
  constructor
  · intro m flagged
    exact call.kept m (propagated.kept m flagged)
  · intro m inside flagged
    cases earlier : after m with
    | true => exact propagated.sound m inside earlier
    | false =>
      have reached := call.reached m flagged earlier
      exact .inr ⟨n, (consistent.imports_of_importers present reached).2, dirty⟩
  · intro m flagged unflagged k importer
    cases earlier : after m with
    | true => exact call.kept k (propagated.closed m earlier unflagged k importer)
    | false => exact call.closed m flagged earlier k importer
  · simp only [List.forall_mem_append, List.forall_mem_singleton]
    constructor
    · intro m inside errorsOf k importer
      exact call.kept k (propagated.done m inside errorsOf k importer)
    · exact fun _ => call.done

theorem propagateAll_spec (consistent : s.Consistent) (rest : List NodeId)
    (present : ∀ n ∈ rest, s.Present n) (propagated : Propagated s order errors done before flags) :
    ∃ after, Propagated s order errors (done ++ rest) before after ∧ ∀ fuel, s.dependencyGraph.length < fuel →
      rest.foldlM (fun flags n =>
        if (errors n).isEmpty then some flags else propagateErrorsHelper order fuel n flags) flags = some after := by
  induction rest generalizing done flags with
  | nil => exact ⟨flags, by simpa using propagated, fun _ _ => rfl⟩
  | cons n rest ih =>
    have inside := present n (by simp)
    have others : ∀ m ∈ rest, s.Present m := fun m later => present m (List.mem_cons_of_mem n later)
    by_cases clean : errors n = []
    · obtain ⟨after, all, returns⟩ := ih others (propagated.clean clean)
      refine ⟨after, by simpa using all, fun fuel enough => ?_⟩
      rw [List.foldlM_cons, if_pos (by simp [clean])]
      exact returns fuel enough
    · have closed : ∀ a ∈ s.values.toFinset, ∀ b ∈ order.importers a, b ∈ s.values.toFinset := by
        simp only [List.mem_toFinset, mem_values]
        exact fun a inside b importer => consistent.present_importer order inside importer
      obtain ⟨marks, marked, calls⟩ := markFrom_spec closed (by simpa [mem_values] using inside) flags
      obtain ⟨after, all, returns⟩ := ih others (propagated.helper consistent inside clean marked)
      refine ⟨after, by simpa using all, fun fuel enough => ?_⟩
      have bounded : (unmarkedIn s.values.toFinset flags).card ≤ s.dependencyGraph.length := by
        apply (Finset.card_filter_le _ _).trans
        apply (List.toFinset_card_le _).trans
        rw [values, List.length_map]
      rw [List.foldlM_cons, if_neg (by simpa using clean), propagateErrorsHelper, calls fuel (by omega)]
      exact returns fuel enough

theorem Propagated.spread (consistent : s.Consistent) (propagated : Propagated s order errors s.values before after)
    (reset : ∀ k, s.Present k → errors k = [] → before k = false) (source : s.Present n) (target : s.Present m)
    (imports : s.Imports n m) (reason : after m = true ∨ errors m ≠ []) : after n = true := by
  have importer : n ∈ order.importers m := (consistent.mem_importers_iff order source target).mpr imports
  by_cases clean : errors m = []
  · have flagged : after m = true := reason.resolve_right (fun dirty => dirty clean)
    exact propagated.closed m flagged (reset m target clean) n importer
  · exact propagated.done m (mem_values.mpr target) clean n importer

theorem Propagated.complete (consistent : s.Consistent) (propagated : Propagated s order errors s.values before after)
    (reset : ∀ k, s.Present k → errors k = [] → before k = false) (present : s.Present n)
    (reached : TransGen s.Imports n m) (dirty : errors m ≠ []) : after n = true := by
  have inside : s.Present m := consistent.present_of_imports present reached
  induction reached using TransGen.head_induction_on with
  | single imports => exact propagated.spread consistent reset present inside imports (.inr dirty)
  | head imports _ ih =>
    have between := consistent.dependsOn_present _ present _ imports
    exact propagated.spread consistent reset present between imports (.inl (ih between))

theorem propagateErrors_spec (consistent : s.Consistent) (order : ImporterOrder s) (errors : NodeId → List Diagnostic)
    (flags : NodeId → Bool) :
    ∃ after, (∀ fuel, s.dependencyGraph.length < fuel → s.propagateErrors order errors fuel flags = some after) ∧
      ∀ n, s.Present n → (after n = true ↔ errors n ≠ [] ∧ flags n = true ∨ s.NeedsErrors errors n) := by
  obtain ⟨after, propagated, returns⟩ := propagateAll_spec consistent s.values (fun n inside => mem_values.mp inside)
    (Propagated.init order errors (s.resetErrors errors flags))
  have reset : ∀ k, s.Present k → errors k = [] → s.resetErrors errors flags k = false := by
    intro k present clean
    simp [resetErrors_apply present, clean]
  refine ⟨after, returns, fun n present => ?_⟩
  have left : s.resetErrors errors flags n = true ↔ errors n ≠ [] ∧ flags n = true := by
    simp [resetErrors_apply present]
  constructor
  · intro flagged
    exact (propagated.sound n present flagged).imp_left left.mp
  · rintro (leftover | ⟨m, reached, dirty⟩)
    · exact propagated.kept n (left.mpr leftover)
    · exact propagated.complete consistent reset present reached dirty

def Exact (s : PreviewDetector) (errors : NodeId → List Diagnostic) (after : NodeId → Bool) : Prop :=
  ∀ n, s.Present n → (after n = true ↔ s.NeedsErrors errors n)

/-- A library with errors had the flag only if it needs another one with errors still. -/
def NoLeftover (s : PreviewDetector) (errors : NodeId → List Diagnostic) (flags : NodeId → Bool) : Prop :=
  ∀ n, s.Present n → errors n ≠ [] → flags n = true → s.NeedsErrors errors n

theorem exact_iff (consistent : s.Consistent) (order : ImporterOrder s) (errors : NodeId → List Diagnostic)
    (flags : NodeId → Bool) :
    ∃ after, (∀ fuel, s.dependencyGraph.length < fuel → s.propagateErrors order errors fuel flags = some after) ∧
      (s.Exact errors after ↔ s.NoLeftover errors flags) := by
  obtain ⟨after, returns, flagged⟩ := propagateErrors_spec consistent order errors flags
  refine ⟨after, returns, ?_⟩
  constructor
  · intro exact n present dirty leftover
    exact (exact n present).mp ((flagged n present).mpr (.inl ⟨dirty, leftover⟩))
  · intro clean n present
    rw [flagged n present, or_iff_right_iff_imp]
    exact fun leftover => clean n present leftover.1 leftover.2

/-- A library `main` that imports a library `util`. -/
def mainAndUtil : PreviewDetector where
  nodes id :=
    if id = 0 then ⟨⟨"main.dart", "package:app/main.dart"⟩, ["main.dart"], ∅, {1}⟩
    else ⟨⟨"util.dart", "package:app/util.dart"⟩, ["util.dart"], if id = 1 then {0} else ∅, ∅⟩
  next := 2
  dependencyGraph :=
    [(⟨"main.dart", "package:app/main.dart"⟩, 0), (⟨"util.dart", "package:app/util.dart"⟩, 1)]

def mainAndUtilOrder : ImporterOrder mainAndUtil where
  importers id := if id = 1 then [0] else []
  nodup n := by split <;> simp
  mem_importers n m := by
    by_cases zero : n = 0
    · simp [mainAndUtil, zero]
    · by_cases one : n = 1 <;> simp [mainAndUtil, zero, one]

theorem present_mainAndUtil : mainAndUtil.Present n ↔ n = 0 ∨ n = 1 := by
  simp [Present, mainAndUtil, exists_or]

theorem consistent_mainAndUtil : mainAndUtil.Consistent := by
  constructor <;> simp only [present_mainAndUtil]
  · rintro n (rfl | rfl) m imports <;> simp_all [mainAndUtil]
  · rintro n (rfl | rfl) m importer <;> simp_all [mainAndUtil]
  · rintro n m (rfl | rfl) (rfl | rfl) <;> simp [mainAndUtil]

/-- Both libraries have errors, and the flag of `main` was set before. -/
theorem exact_iff_mainAndUtil :
    ∃ after, (∀ fuel, 2 < fuel →
      mainAndUtil.propagateErrors mainAndUtilOrder (fun _ => ["error"]) fuel (fun id => id = 0) = some after) ∧
      mainAndUtil.Exact (fun _ => ["error"]) after := by
  obtain ⟨after, returns, exact⟩ :=
    exact_iff consistent_mainAndUtil mainAndUtilOrder (fun _ => ["error"]) (fun id => id = 0)
  refine ⟨after, returns, exact.mpr fun n _ _ leftover => ?_⟩
  have main : n = 0 := by simpa using leftover
  subst main
  exact ⟨1, .single (by simp [Imports, mainAndUtil]), by simp⟩

/-- Both libraries had errors, and those of `util` have been mended since. -/
theorem not_exact_mended :
    ¬ ∀ (s : PreviewDetector) (order : ImporterOrder s) (errors : NodeId → List Diagnostic) (flags : NodeId → Bool),
      s.Consistent → ∃ after,
        (∀ fuel, s.dependencyGraph.length < fuel → s.propagateErrors order errors fuel flags = some after) ∧
          s.Exact errors after := by
  intro all
  obtain ⟨after, returns, exact⟩ := all mainAndUtil mainAndUtilOrder
    (fun id => if id = 0 then ["error"] else []) (fun id => id = 0) consistent_mainAndUtil
  have computed := returns 3 (by decide)
  have leftover : after 0 = true := by
    simp [propagateErrors, values, resetErrors, mainAndUtil, propagateErrorsHelper, markFrom, mainAndUtilOrder]
      at computed
    simp [← computed]
  obtain ⟨m, reached, dirty⟩ := (exact 0 (present_mainAndUtil.mpr (.inl rfl))).mp leftover
  have util : m = 1 := by
    induction reached with
    | single imports => simpa [Imports, mainAndUtil] using imports
    | tail _ imports ih => simp_all [Imports, mainAndUtil]
  simp [util] at dirty

end PreviewDetector

end FlutterZero.FlutterTools
