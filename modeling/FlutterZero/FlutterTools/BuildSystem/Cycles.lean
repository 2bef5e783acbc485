import FlutterZero.FlutterTools.BuildSystem
import Mathlib

/-! # Dependency cycles

`checkCycles` (`build_system.dart`) searches the graph of the targets depth first, with one set of
visited targets and one of those on the way to the current one.  Targets are compared by identity, so
the graph is any type with the dependencies of each of its elements.  A call that recurses has `fuel` for
its recursion, of which one more than the number of targets is enough.
-/

namespace FlutterZero.FlutterTools.BuildSystem

open Lib Relation

variable {τ : Type} [DecidableEq τ] (dependencies : τ → List τ)

/-- The two sets that the calls of `checkInternal` share, in insertion order. -/
structure CycleSets (τ : Type) where
  visited : List τ
  stack : List τ

/-- Why a call does not return. -/
inductive CycleError (τ : Type) where
  /-- `CycleException`, with the targets of the stack. -/
  | cycle (targets : List τ)
  | outOfFuel

/-- `checkInternal`: the sets as the call leaves them. -/
def checkInternal : Nat → τ → CycleSets τ → Except (CycleError τ) (CycleSets τ)
  | 0, _, _ => .error .outOfFuel
  | fuel + 1, target, sets =>
    if target ∈ sets.stack then
      -- adding the target leaves the set as it is
      .error (.cycle sets.stack)
    else if target ∈ sets.visited then .ok sets
    else do
      let sets : CycleSets τ := ⟨sets.visited ++ [target], sets.stack ++ [target]⟩
      let sets ← (dependencies target).foldlM (fun sets dependency => checkInternal fuel dependency sets) sets
      return { sets with stack := sets.stack.erase target }

def checkCycles (fuel : Nat) (initial : τ) : Except (CycleError τ) Unit :=
  (checkInternal dependencies fuel initial ⟨[], []⟩).map fun _ => ()

omit [DecidableEq τ] in
/-- `_toNode`: the tree of the nodes, each with the nodes of its dependencies. -/
def toNode (name : τ → String) (dependencies : τ → List τ) : Nat → τ → Option Target
  | 0, _ => none
  | fuel + 1, target => do
    let nodes ← (dependencies target).mapM (toNode name dependencies fuel)
    return .mk (name target) nodes

def DependsOn (target dependency : τ) : Prop := dependency ∈ dependencies target

def Grounded (target : τ) : Prop := Acc (fun dependency target => DependsOn dependencies target dependency) target

def ReachesCycle (target : τ) : Prop :=
  ∃ member, ReflTransGen (DependsOn dependencies) target member ∧
    TransGen (DependsOn dependencies) member member

section

variable {dependencies} {target dependency : τ}

omit [DecidableEq τ] in
theorem Grounded.of_reaches (grounded : Grounded dependencies target)
    (reaches : ReflTransGen (DependsOn dependencies) target dependency) : Grounded dependencies dependency := by
  induction reaches with
  | refl => exact grounded
  | tail _ edge ih => exact ih.inv edge

omit [DecidableEq τ] in
theorem Grounded.not_cycle (grounded : Grounded dependencies target) :
    ¬ TransGen (DependsOn dependencies) target target := by
  induction grounded with
  | intro target _ ih =>
    intro cycle
    obtain ⟨next, edge, back⟩ := TransGen.head'_iff.mp cycle
    exact ih next edge (TransGen.tail' back edge)

omit [DecidableEq τ] in
theorem Grounded.not_reachesCycle (grounded : Grounded dependencies target) :
    ¬ ReachesCycle dependencies target := by
  rintro ⟨member, reaches, cycle⟩
  exact (grounded.of_reaches reaches).not_cycle cycle

omit [DecidableEq τ] in
theorem ReachesCycle.of_dependsOn (edge : DependsOn dependencies target dependency)
    (reaches : ReachesCycle dependencies dependency) : ReachesCycle dependencies target := by
  obtain ⟨member, path, cycle⟩ := reaches
  exact ⟨member, ReflTransGen.head edge path, cycle⟩

end

/-! ## The search -/

section

variable {dependencies} {target : τ} {sets sets' : CycleSets τ} {fuel : Nat}

def Searched (dependencies : τ → List τ) (sets : CycleSets τ) : Prop :=
  ∀ target ∈ sets.visited, target ∉ sets.stack → Grounded dependencies target

structure Extends (dependencies : τ → List τ) (sets sets' : CycleSets τ) : Prop where
  stack : sets'.stack = sets.stack
  visited : ∀ target ∈ sets.visited, target ∈ sets'.visited
  searched : Searched dependencies sets'

variable [Fintype τ]

def unvisited (sets : CycleSets τ) : Nat := (Finset.univ.filter fun target => target ∉ sets.visited).card

theorem unvisited_le (visited : ∀ target ∈ sets.visited, target ∈ sets'.visited) :
    unvisited sets' ≤ unvisited sets := by
  apply Finset.card_le_card
  intro target member
  simp only [Finset.mem_filter, Finset.mem_univ, true_and] at member ⊢
  exact fun old => member (visited target old)

theorem unvisited_visit (fresh : target ∉ sets.visited) (stack : List τ) :
    unvisited ⟨sets.visited ++ [target], stack⟩ < unvisited sets := by
  apply Finset.card_lt_card
  refine ⟨fun other member => ?_, fun all => ?_⟩
  · simp only [Finset.mem_filter, Finset.mem_univ, true_and, List.mem_append] at member ⊢
    exact fun old => member (.inl old)
  · have member : target ∈ Finset.univ.filter fun other => other ∉ sets.visited ++ [target] :=
      all (by simp [fresh])
    simp at member

/-- What a call does: the target it returns from is finished, a cycle that it reports is there, and it
    runs out of fuel only where there is less than there are targets to visit. -/
def Specified (dependencies : τ → List τ) (fuel : Nat) (target : τ) (sets : CycleSets τ) :
    Except (CycleError τ) (CycleSets τ) → Prop
  | .ok sets' => Extends dependencies sets sets' ∧ target ∈ sets'.visited ∧ target ∉ sets'.stack
  | .error (.cycle _) => ReachesCycle dependencies target
  | .error .outOfFuel => fuel ≤ unvisited sets

theorem foldlM_specified {rest : List τ}
    (specified : ∀ dependency ∈ rest, ∀ sets, Searched dependencies sets →
      (∀ member ∈ sets.stack, TransGen (DependsOn dependencies) member dependency) →
      Specified dependencies fuel dependency sets (checkInternal dependencies fuel dependency sets))
    (searched : Searched dependencies sets)
    (path : ∀ dependency ∈ rest, ∀ member ∈ sets.stack, TransGen (DependsOn dependencies) member dependency) :
    match rest.foldlM (fun sets dependency => checkInternal dependencies fuel dependency sets) sets with
    | .ok sets' => Extends dependencies sets sets' ∧
        ∀ dependency ∈ rest, dependency ∈ sets'.visited ∧ dependency ∉ sets'.stack
    | .error (.cycle _) => ∃ dependency ∈ rest, ReachesCycle dependencies dependency
    | .error .outOfFuel => fuel ≤ unvisited sets := by
  induction rest generalizing sets with
  | nil => exact ⟨⟨rfl, fun _ member => member, searched⟩, nofun⟩
  | cons dependency rest ih =>
    obtain ⟨first, others⟩ := List.forall_mem_cons.mp specified
    obtain ⟨firstPath, otherPaths⟩ := List.forall_mem_cons.mp path
    have called := first sets searched firstPath
    rw [List.foldlM_cons]
    cases result : checkInternal dependencies fuel dependency sets with
    | ok sets₁ =>
      rw [result] at called
      obtain ⟨extended, finished, left⟩ := called
      have later := ih others extended.searched (by rw [extended.stack]; exact otherPaths)
      rw [ok_bind]
      revert later
      cases rest.foldlM (fun sets dependency => checkInternal dependencies fuel dependency sets) sets₁ with
      | ok sets' =>
        rintro ⟨extended', done⟩
        refine ⟨⟨extended'.stack.trans extended.stack, fun member old => ?_, extended'.searched⟩,
          List.forall_mem_cons.mpr ⟨⟨extended'.visited _ finished, ?_⟩, done⟩⟩
        · exact extended'.visited _ (extended.visited _ old)
        · rw [extended'.stack]
          exact left
      | error error =>
        cases error with
        | cycle targets =>
          rintro ⟨member, inside, reaches⟩
          exact ⟨member, List.mem_cons_of_mem _ inside, reaches⟩
        | outOfFuel => exact fun less => le_trans less (unvisited_le extended.visited)
    | error error =>
      rw [result] at called
      rw [error_bind]
      cases error with
      | cycle targets => exact ⟨dependency, List.mem_cons_self, called⟩
      | outOfFuel => exact called

theorem checkInternal_specified (fuel : Nat) (target : τ) (sets : CycleSets τ)
    (searched : Searched dependencies sets)
    (path : ∀ member ∈ sets.stack, TransGen (DependsOn dependencies) member target) :
    Specified dependencies fuel target sets (checkInternal dependencies fuel target sets) := by
  induction fuel generalizing target sets with
  | zero => exact Nat.zero_le _
  | succ fuel ih =>
    rw [checkInternal]
    by_cases onStack : target ∈ sets.stack
    · -- the path from the target on the stack back to it is the cycle
      rw [if_pos onStack]
      exact ⟨target, .refl, path target onStack⟩
    rw [if_neg onStack]
    by_cases visited : target ∈ sets.visited
    · -- visited and left: no cycle was reached from there
      rw [if_pos visited]
      exact ⟨⟨rfl, fun _ member => member, searched⟩, visited, onStack⟩
    rw [if_neg visited]
    have entered : Searched dependencies ⟨sets.visited ++ [target], sets.stack ++ [target]⟩ := by
      intro member inside outside
      simp only [List.mem_append, List.mem_singleton, not_or] at inside outside
      rcases inside with old | new
      · exact searched member old outside.1
      · exact absurd new outside.2
    have paths : ∀ dependency ∈ dependencies target, ∀ member ∈ sets.stack ++ [target],
        TransGen (DependsOn dependencies) member dependency := by
      intro dependency edge member inside
      rcases List.mem_append.mp inside with old | new
      · exact TransGen.tail (path member old) edge
      · rw [List.mem_singleton.mp new]
        exact TransGen.single edge
    have calls : ∀ dependency ∈ dependencies target, ∀ sets, Searched dependencies sets →
        (∀ member ∈ sets.stack, TransGen (DependsOn dependencies) member dependency) →
        Specified dependencies fuel dependency sets (checkInternal dependencies fuel dependency sets) :=
      fun dependency _ sets => ih dependency sets
    have loop := foldlM_specified calls entered paths
    show Specified dependencies (fuel + 1) target sets
      ((dependencies target).foldlM (fun sets dependency => checkInternal dependencies fuel dependency sets)
        ⟨sets.visited ++ [target], sets.stack ++ [target]⟩ >>= fun sets =>
          pure { sets with stack := sets.stack.erase target })
    cases result : (dependencies target).foldlM
        (fun sets dependency => checkInternal dependencies fuel dependency sets)
        (⟨sets.visited ++ [target], sets.stack ++ [target]⟩ : CycleSets τ) with
    | ok sets' =>
      rw [result] at loop
      obtain ⟨extended, done⟩ := loop
      rw [ok_bind, pure_eq_ok]
      have stack : sets'.stack.erase target = sets.stack := by
        rw [extended.stack, List.erase_append_right _ onStack, List.erase_cons_head, List.append_nil]
      have inside : target ∈ sets'.visited := extended.visited target (by simp)
      refine ⟨⟨stack, fun member old => extended.visited member (by simp [old]), ?_⟩, inside, ?_⟩
      · intro member visited outside
        simp only [stack] at outside
        by_cases current : member = target
        · -- all dependencies of the current target are finished
          rw [current]
          refine Acc.intro target fun dependency edge => ?_
          obtain ⟨finished, left⟩ := done dependency edge
          exact extended.searched dependency finished left
        · refine extended.searched member visited ?_
          rw [extended.stack]
          simp [outside, current]
      · simpa only [stack] using onStack
    | error error =>
      rw [result] at loop
      cases error with
      | cycle targets =>
        obtain ⟨dependency, edge, reaches⟩ := loop
        exact reaches.of_dependsOn edge
      | outOfFuel => exact lt_of_le_of_lt loop (unvisited_visit visited _)

end

/-! ## The nodes of a grounded target -/

section

variable {τ : Type} {name : τ → String} {dependencies : τ → List τ}

theorem mapM_some_mono {α β : Type} {f g : α → Option β} {xs : List α} {ys : List β}
    (mono : ∀ x ∈ xs, ∀ y, f x = some y → g x = some y) (mapped : xs.mapM f = some ys) :
    xs.mapM g = some ys := by
  induction xs generalizing ys with
  | nil => simpa using mapped
  | cons x xs ih =>
    obtain ⟨first, others⟩ := List.forall_mem_cons.mp mono
    rw [List.mapM_cons] at mapped ⊢
    cases head : f x with
    | none => simp [head] at mapped
    | some y =>
      cases tail : xs.mapM f with
      | none => simp [head, tail] at mapped
      | some zs =>
        rw [first y head, ih others tail]
        simpa [head, tail] using mapped

theorem toNode_mono {fuel more : Nat} (le : fuel ≤ more) {target : τ} {node : Target}
    (made : toNode name dependencies fuel target = some node) :
    toNode name dependencies more target = some node := by
  induction fuel generalizing more target node with
  | zero => cases made
  | succ fuel ih =>
    obtain ⟨more, rfl⟩ : ∃ rest, more = rest + 1 := ⟨more - 1, by omega⟩
    rw [toNode] at made ⊢
    cases nodes : (dependencies target).mapM (toNode name dependencies fuel) with
    | none => simp [nodes] at made
    | some nodes' =>
      have same := mapM_some_mono (fun dependency _ _ => ih (Nat.le_of_succ_le_succ le)) nodes
      rw [same]
      rwa [nodes] at made

theorem exists_mapM_toNode {targets : List τ}
    (made : ∀ target ∈ targets, ∃ fuel node, toNode name dependencies fuel target = some node) :
    ∃ fuel nodes, targets.mapM (toNode name dependencies fuel) = some nodes := by
  induction targets with
  | nil => exact ⟨0, [], rfl⟩
  | cons target targets ih =>
    obtain ⟨⟨fuel, node, first⟩, others⟩ := List.forall_mem_cons.mp made
    obtain ⟨fuel', nodes, rest⟩ := ih others
    refine ⟨max fuel fuel', node :: nodes, ?_⟩
    have rest := mapM_some_mono (fun _ _ _ => toNode_mono (le_max_right fuel fuel')) rest
    rw [List.mapM_cons, toNode_mono (le_max_left fuel fuel') first, rest]
    rfl

theorem Grounded.exists_toNode {target : τ} (grounded : Grounded dependencies target) :
    ∃ fuel node, toNode name dependencies fuel target = some node := by
  induction grounded with
  | intro target _ ih =>
    obtain ⟨fuel, nodes, made⟩ := exists_mapM_toNode ih
    exact ⟨fuel + 1, .mk (name target) nodes, by rw [toNode, made]; rfl⟩

end

/-- The search ends, with an exception exactly where a cycle can be reached; and of the targets that it
    accepts, nodes are made. -/
theorem checkCycles_spec {τ : Type} [DecidableEq τ] [Fintype τ] (name : τ → String) (dependencies : τ → List τ)
    (initial : τ) :
    (∀ fuel, Fintype.card τ < fuel → checkCycles dependencies fuel initial ≠ .error .outOfFuel ∧
      ((∃ targets, checkCycles dependencies fuel initial = .error (.cycle targets)) ↔
        ReachesCycle dependencies initial)) ∧
    ∀ fuel, checkCycles dependencies fuel initial = .ok () →
      ∃ fuel' node, toNode name dependencies fuel' initial = some node := by
  have specified : ∀ fuel, Specified dependencies fuel initial ⟨[], []⟩
      (checkInternal dependencies fuel initial ⟨[], []⟩) :=
    fun fuel => checkInternal_specified fuel initial ⟨[], []⟩ nofun nofun
  refine ⟨fun fuel enough => ?_, fun fuel accepted => ?_⟩
  · have spec := specified fuel
    rw [checkCycles]
    cases result : checkInternal dependencies fuel initial ⟨[], []⟩ with
    | ok sets =>
      rw [result] at spec
      obtain ⟨extended, finished, left⟩ := spec
      have grounded := extended.searched initial finished left
      exact ⟨nofun, iff_of_false nofun grounded.not_reachesCycle⟩
    | error error =>
      rw [result] at spec
      cases error with
      | cycle targets => exact ⟨nofun, iff_of_true ⟨targets, rfl⟩ spec⟩
      | outOfFuel =>
        -- there are no more targets than fuel
        have fewer : unvisited (⟨[], []⟩ : CycleSets τ) ≤ Fintype.card τ := Finset.card_le_univ _
        exact absurd (le_trans spec fewer) (not_le.mpr enough)
  · have spec := specified fuel
    rw [checkCycles] at accepted
    cases result : checkInternal dependencies fuel initial ⟨[], []⟩ with
    | ok sets =>
      rw [result] at spec
      obtain ⟨extended, finished, left⟩ := spec
      exact (extended.searched initial finished left).exists_toNode
    | error error =>
      rw [result] at accepted
      cases accepted

example : checkCycles (fun target : Fin 3 => if target = 2 then [0] else [target + 1]) 4 0 =
    .error (.cycle [0, 1, 2]) := rfl

end FlutterZero.FlutterTools.BuildSystem
