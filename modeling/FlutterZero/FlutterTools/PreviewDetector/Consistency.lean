import FlutterZero.Lib.AssociationLists
import FlutterZero.FlutterTools.PreviewDetector

/-! # The edges of the dependency graph

The imports of a library and the importers of a library are kept in two sets, which
have to agree.

* `Consistent` — the sets are inverse to each other and stay within the graph;
* `consistent_of_clean` — they do after every event, as long as no library with
  edges is found gone while another file is updated;
* `not_consistent_removed_directory` — such a library leaves its edges behind.
-/

namespace FlutterZero.FlutterTools

namespace PreviewDetector

variable {s s' : PreviewDetector} {id : NodeId} {library : LibraryElement} {analysis : Analysis}

def Present (s : PreviewDetector) (id : NodeId) : Prop := ∃ path, (path, id) ∈ s.dependencyGraph

/-- `dependsOn` and `dependedOnBy` are inverse to each other and contain nodes of the graph only. -/
structure Consistent (s : PreviewDetector) : Prop where
  dependsOn_present : ∀ n, s.Present n → ∀ m ∈ (s.nodes n).dependsOn, s.Present m
  dependedOnBy_present : ∀ n, s.Present n → ∀ m ∈ (s.nodes n).dependedOnBy, s.Present m
  inverse : ∀ n m, s.Present n → s.Present m → (m ∈ (s.nodes n).dependsOn ↔ n ∈ (s.nodes m).dependedOnBy)

structure WellFormed (s : PreviewDetector) : Prop where
  keys : (s.dependencyGraph.map Prod.fst).Nodup
  path : ∀ entry ∈ s.dependencyGraph, (s.nodes entry.2).path = entry.1
  allocated : ∀ entry ∈ s.dependencyGraph, entry.2 < s.next

structure Inv (s : PreviewDetector) : Prop where
  consistent : s.Consistent
  wellFormed : s.WellFormed

/-- `s'` has all nodes of `s`, with the edges they had. -/
structure Extends (s s' : PreviewDetector) : Prop where
  entries : ∀ entry ∈ s.dependencyGraph, entry ∈ s'.dependencyGraph
  nodes : ∀ id, s.Present id → s'.nodes id = s.nodes id

theorem Extends.present (grows : s.Extends s') (present : s.Present id) : s'.Present id := by
  obtain ⟨path, inside⟩ := present
  exact ⟨path, grows.entries _ inside⟩

theorem Extends.refl (s : PreviewDetector) : s.Extends s := ⟨fun _ inside => inside, fun _ _ => rfl⟩

theorem Extends.trans {s'' : PreviewDetector} (first : s.Extends s') (second : s'.Extends s'') : s.Extends s'' where
  entries entry inside := second.entries entry (first.entries entry inside)
  nodes id present := (second.nodes id (first.present present)).trans (first.nodes id present)

/-! ## Paths and nodes -/

theorem WellFormed.mem_unique (wf : s.WellFormed) {path : PreviewPath} {id' : NodeId}
    (first : (path, id) ∈ s.dependencyGraph) (second : (path, id') ∈ s.dependencyGraph) : id = id' := by
  have same := List.inj_on_of_nodup_map wf.keys first second rfl
  exact congrArg Prod.snd same

theorem WellFormed.mem_path (wf : s.WellFormed) (present : s.Present id) :
    ((s.nodes id).path, id) ∈ s.dependencyGraph := by
  obtain ⟨path, inside⟩ := present
  have same : (s.nodes id).path = path := wf.path (path, id) inside
  rwa [same]

theorem WellFormed.present_remove (wf : s.WellFormed) {removed : NodeId} (present : s.Present removed) :
    (s.remove (s.nodes removed).path).Present id ↔ s.Present id ∧ id ≠ removed := by
  constructor
  · rintro ⟨path, inside⟩
    simp only [remove, List.mem_filter, decide_eq_true_eq] at inside
    refine ⟨⟨path, inside.1⟩, ?_⟩
    rintro rfl
    exact inside.2 (wf.path (path, id) inside.1).symm
  · rintro ⟨⟨path, inside⟩, different⟩
    refine ⟨path, List.mem_filter.mpr ⟨inside, decide_eq_true fun same => ?_⟩⟩
    subst same
    exact different (wf.mem_unique inside (wf.mem_path present))

theorem WellFormed.remove (wf : s.WellFormed) (path : PreviewPath) : (s.remove path).WellFormed where
  keys := (List.filter_sublist.map Prod.fst).nodup wf.keys
  path entry inside := wf.path entry (List.mem_of_mem_filter inside)
  allocated entry inside := wf.allocated entry (List.mem_of_mem_filter inside)

theorem WellFormed.present_lt (wf : s.WellFormed) (present : s.Present id) : id < s.next := by
  obtain ⟨path, inside⟩ := present
  exact wf.allocated _ inside

/-! ## New nodes -/

theorem present_added : (s.added library).Present id ↔ s.Present id ∨ id = s.next := by
  simp [Present, added, exists_or]

theorem nodes_added_next : (s.added library).nodes s.next = .create library := Function.update_self ..

theorem Inv.extends_added (inv : s.Inv) (library : LibraryElement) : s.Extends (s.added library) where
  entries _ inside := List.mem_append_left _ inside
  nodes _ present := Function.update_of_ne (inv.wellFormed.present_lt present).ne _ _

theorem Inv.added (inv : s.Inv) (absent : library.path ∉ s.dependencyGraph.map Prod.fst) : (s.added library).Inv := by
  have grows := inv.extends_added library
  refine ⟨⟨?_, ?_, ?_⟩, ⟨?_, ?_, ?_⟩⟩
  · intro n present m depends
    rcases present_added.mp present with old | rfl
    · rw [grows.nodes n old] at depends
      exact grows.present (inv.consistent.dependsOn_present n old m depends)
    · rw [nodes_added_next] at depends
      exact absurd depends (Finset.notMem_empty m)
  · intro n present m depends
    rcases present_added.mp present with old | rfl
    · rw [grows.nodes n old] at depends
      exact grows.present (inv.consistent.dependedOnBy_present n old m depends)
    · rw [nodes_added_next] at depends
      exact absurd depends (Finset.notMem_empty m)
  · -- the new node has no edges, and no node has one to it
    have isolated : ∀ n, s.Present n → s.next ∉ (s.nodes n).dependsOn ∧ s.next ∉ (s.nodes n).dependedOnBy := by
      refine fun n old => ⟨fun depends => ?_, fun depends => ?_⟩
      · exact (inv.wellFormed.present_lt (inv.consistent.dependsOn_present n old _ depends)).false
      · exact (inv.wellFormed.present_lt (inv.consistent.dependedOnBy_present n old _ depends)).false
    intro n m present present'
    rcases present_added.mp present with old | rfl <;> rcases present_added.mp present' with old' | rfl
    · rw [grows.nodes n old, grows.nodes m old']
      exact inv.consistent.inverse n m old old'
    · rw [grows.nodes n old, nodes_added_next]
      exact iff_of_false (isolated n old).1 (Finset.notMem_empty n)
    · rw [grows.nodes m old', nodes_added_next]
      exact iff_of_false (Finset.notMem_empty m) (isolated m old').2
    · rw [nodes_added_next]
      exact iff_of_false (Finset.notMem_empty _) (Finset.notMem_empty _)
  · rw [PreviewDetector.added, List.map_append, List.nodup_append]
    refine ⟨inv.wellFormed.keys, List.nodup_singleton _, ?_⟩
    intro path inside other last same
    subst same
    rw [List.mem_singleton.mp last] at inside
    exact absent inside
  · intro entry inside
    rcases List.mem_append.mp inside with old | last
    · rw [grows.nodes entry.2 ⟨entry.1, old⟩]
      exact inv.wellFormed.path entry old
    · rw [List.mem_singleton.mp last, nodes_added_next]
      rfl
  · intro entry inside
    rcases List.mem_append.mp inside with old | last
    · exact (inv.wellFormed.allocated entry old).trans (Nat.lt_succ_self _)
    · rw [List.mem_singleton.mp last]
      exact Nat.lt_succ_self _

theorem Inv.putIfAbsent (inv : s.Inv) (library : LibraryElement) :
    (s.putIfAbsent library).2.Inv ∧ s.Extends (s.putIfAbsent library).2 ∧
      (library.path, (s.putIfAbsent library).1) ∈ (s.putIfAbsent library).2.dependencyGraph := by
  unfold PreviewDetector.putIfAbsent
  split
  · rename_i id found
    exact ⟨inv, .refl s, Lib.mem_of_lookup found⟩
  · rename_i absent
    exact ⟨inv.added (Lib.not_mem_keys_of_lookup absent), inv.extends_added library,
      List.mem_append_right _ (List.mem_singleton_self _)⟩

theorem Inv.importedNodes (inv : s.Inv) (imports : List (Option LibraryElement)) {found : Finset NodeId}
    (present : ∀ id ∈ found, s.Present id) :
    (PreviewDetector.importedNodes imports found s).2.Inv ∧
      s.Extends (PreviewDetector.importedNodes imports found s).2 ∧
      ∀ id ∈ (PreviewDetector.importedNodes imports found s).1,
        (PreviewDetector.importedNodes imports found s).2.Present id := by
  induction imports generalizing s found with
  | nil => exact ⟨inv, .refl s, present⟩
  | cons imported imports ih =>
    cases imported with
    | none => exact ih inv present
    | some library =>
      obtain ⟨inv', grows, inside⟩ := inv.putIfAbsent library
      have present' : ∀ id ∈ insert (s.putIfAbsent library).1 found, (s.putIfAbsent library).2.Present id := by
        intro id member
        rcases Finset.mem_insert.mp member with rfl | old
        · exact ⟨_, inside⟩
        · exact grows.present (present id old)
      obtain ⟨inv'', grows', all⟩ := ih inv' present'
      exact ⟨inv'', grows.trans grows', all⟩

/-! ## New imports -/

section Edges

variable {this : NodeId} {dependencies : Finset NodeId}

def redirected (s : PreviewDetector) (this : NodeId) (dependencies : Finset NodeId) : PreviewDetector :=
  ((s.modifyNodes ((s.nodes this).dependsOn \ dependencies) fun node =>
      { node with dependedOnBy := node.dependedOnBy.erase this }).modifyNode this fun node =>
      { node with dependsOn := dependencies }).modifyNodes dependencies fun node =>
    { node with dependedOnBy := insert this node.dependedOnBy }

theorem updateDependencyGraph_eq (imports : List (Option LibraryElement)) :
    s.updateDependencyGraph this imports =
      (PreviewDetector.importedNodes imports ∅ s).2.redirected this (PreviewDetector.importedNodes imports ∅ s).1 :=
  rfl

theorem path_redirected (n : NodeId) : ((s.redirected this dependencies).nodes n).path = (s.nodes n).path := by
  simp only [redirected, modifyNodes, modifyNode, Function.update_apply]
  split_ifs <;> simp_all

theorem dependsOn_redirected (n : NodeId) :
    ((s.redirected this dependencies).nodes n).dependsOn =
      if n = this then dependencies else (s.nodes n).dependsOn := by
  simp only [redirected, modifyNodes, modifyNode, Function.update_apply]
  split_ifs <;> simp_all

theorem dependedOnBy_redirected (n : NodeId) :
    ((s.redirected this dependencies).nodes n).dependedOnBy =
      if n ∈ dependencies then insert this (s.nodes n).dependedOnBy
      else if n ∈ (s.nodes this).dependsOn then (s.nodes n).dependedOnBy.erase this
      else (s.nodes n).dependedOnBy := by
  simp only [redirected, modifyNodes, modifyNode, Function.update_apply]
  split_ifs <;> simp_all

theorem Inv.redirected (inv : s.Inv) (present : s.Present this) (all : ∀ id ∈ dependencies, s.Present id) :
    (s.redirected this dependencies).Inv := by
  refine ⟨⟨?_, ?_, ?_⟩, ⟨inv.wellFormed.keys, ?_, inv.wellFormed.allocated⟩⟩
  · intro n old m depends
    rw [dependsOn_redirected] at depends
    split at depends
    · exact all m depends
    · exact inv.consistent.dependsOn_present n old m depends
  · intro n old m depends
    rw [dependedOnBy_redirected] at depends
    have kept : m ∈ (s.nodes n).dependedOnBy → s.Present m := inv.consistent.dependedOnBy_present n old m
    split at depends
    · rcases Finset.mem_insert.mp depends with rfl | old'
      · exact present
      · exact kept old'
    · split at depends
      · exact kept (Finset.mem_of_mem_erase depends)
      · exact kept depends
  · intro n m old old'
    have before : m ∈ (s.nodes n).dependsOn ↔ n ∈ (s.nodes m).dependedOnBy := inv.consistent.inverse n m old old'
    rw [dependsOn_redirected, dependedOnBy_redirected]
    by_cases same : n = this
    · subst same
      rw [if_pos rfl]
      split
      · rename_i depends
        exact iff_of_true depends (Finset.mem_insert_self _ _)
      · rename_i noMore
        split
        · exact iff_of_false noMore (Finset.notMem_erase _ _)
        · rename_i never
          exact iff_of_false noMore fun depends => never (before.mpr depends)
    · rw [if_neg same, before]
      split
      · simp [same]
      · split
        · simp [same]
        · exact Iff.rfl
  · intro entry inside
    rw [path_redirected]
    exact inv.wellFormed.path entry inside

theorem Inv.updateDependencyGraph (inv : s.Inv) (present : s.Present this) (imports : List (Option LibraryElement)) :
    (s.updateDependencyGraph this imports).Inv ∧
      ∀ entry ∈ s.dependencyGraph, entry ∈ (s.updateDependencyGraph this imports).dependencyGraph := by
  obtain ⟨inv', grows, all⟩ := inv.importedNodes imports (fun id inside => absurd inside (Finset.notMem_empty id))
  rw [updateDependencyGraph_eq]
  exact ⟨inv'.redirected (grows.present present) all, grows.entries⟩

end Edges

/-! ## Searches -/

theorem Inv.searchFiles (inv : s.Inv) (entity : String) (files : List String) {found : List (PreviewPath × NodeId)}
    (inside : ∀ entry ∈ found, entry ∈ s.dependencyGraph) :
    (PreviewDetector.searchFiles analysis entity files found s).2.Inv ∧
      ∀ entry ∈ (PreviewDetector.searchFiles analysis entity files found s).1,
        entry ∈ (PreviewDetector.searchFiles analysis entity files found s).2.dependencyGraph := by
  induction files generalizing s found with
  | nil => exact ⟨inv, inside⟩
  | cons filePath files ih =>
    rw [PreviewDetector.searchFiles]
    split
    · exact ih inv inside
    · split
      · exact ih inv inside
      · rename_i lib _
        simp only
        split
        · exact ih inv inside
        · obtain ⟨inv', grows, entered⟩ := inv.putIfAbsent lib.element
          obtain ⟨inv'', kept⟩ := inv'.updateDependencyGraph ⟨_, entered⟩ lib.imports
          apply ih inv''
          intro entry member
          rcases List.mem_append.mp member with old | last
          · exact kept entry (grows.entries entry (inside entry old))
          · rw [List.mem_singleton.mp last]
            exact kept _ entered

theorem Inv.findPreviewFunctions (inv : s.Inv) (entity : String) :
    (s.findPreviewFunctions analysis entity).2.Inv ∧
      ∀ entry ∈ (s.findPreviewFunctions analysis entity).1,
        entry ∈ (s.findPreviewFunctions analysis entity).2.dependencyGraph :=
  inv.searchFiles entity analysis.analyzedFiles fun _ nothing => absurd nothing List.not_mem_nil

def Gone (analysis : Analysis) (filePath : String) : Prop :=
  ∀ file ∈ analysis.analyzedFiles, isDartFile file = true → startsWith file filePath = true →
    analysis.getResolvedLibrary file = none

theorem searchFiles_nil {entity : String} {files : List String} {found : List (PreviewPath × NodeId)}
    (nothing : (PreviewDetector.searchFiles analysis entity files found s).1 = []) :
    found = [] ∧ (PreviewDetector.searchFiles analysis entity files found s).2 = s ∧
      ∀ file ∈ files, isDartFile file = true → startsWith file entity = true →
        analysis.getResolvedLibrary file = none := by
  induction files generalizing s found with
  | nil => exact ⟨nothing, rfl, fun _ none => absurd none List.not_mem_nil⟩
  | cons filePath files ih =>
    rw [PreviewDetector.searchFiles] at nothing ⊢
    split at nothing
    · rename_i skipped
      obtain ⟨empty, same, rest⟩ := ih nothing
      rw [if_pos skipped]
      refine ⟨empty, same, List.forall_mem_cons.mpr ⟨fun dart starts => ?_, rest⟩⟩
      simp [dart, starts] at skipped
    · rename_i looked
      rw [if_neg looked]
      split at nothing
      · rename_i unresolved
        obtain ⟨empty, same, rest⟩ := ih nothing
        exact ⟨empty, same, List.forall_mem_cons.mpr ⟨fun _ _ => unresolved, rest⟩⟩
      · simp only at nothing
        split at nothing
        · rename_i known
          rw [(ih nothing).1] at known
          cases known
        · -- what was found stays found
          have empty := (ih nothing).1
          simp at empty

theorem gone_of_findPreviewFunctions_nil {filePath : String} {s' : PreviewDetector}
    (nothing : s.findPreviewFunctions analysis filePath = ([], s')) : Gone analysis filePath ∧ s' = s := by
  have found : (s.findPreviewFunctions analysis filePath).1 = [] := by rw [nothing]
  obtain ⟨-, same, gone⟩ := searchFiles_nil found
  refine ⟨gone, ?_⟩
  rw [← same]
  exact (congrArg Prod.snd nothing).symm

theorem WellFormed.assign_eq (wf : s.WellFormed) {location : PreviewPath}
    (inside : (location, id) ∈ s.dependencyGraph) : s.assign location id = s := by
  have found : (s.dependencyGraph.lookup location).isSome = true := by
    by_contra absent
    rw [Bool.not_eq_true, Option.isSome_eq_false_iff, Option.isNone_iff_eq_none] at absent
    exact Lib.not_mem_keys_of_lookup absent (List.mem_map_of_mem inside)
  have same : s.dependencyGraph.map (fun entry => if entry.1 = location then (location, id) else entry) =
      s.dependencyGraph := by
    refine (List.map_congr_left ?_).trans (List.map_id' s.dependencyGraph)
    rintro ⟨path, id'⟩ inside'
    simp only
    split
    · rename_i isLocation
      subst isLocation
      rw [wf.mem_unique inside inside']
    · rfl
  rw [assign, if_pos found, same]

/-! ## Nodes that leave -/

section Leave

variable {node : NodeId}

theorem present_of_nodeWithFile {filePath : String} (found : s.nodeWithFile filePath = some node) :
    s.Present node := by
  obtain ⟨entry, is, rfl⟩ := Option.map_eq_some_iff.mp found
  exact ⟨entry.1, List.mem_of_find?_eq_some is⟩

def Isolated (s : PreviewDetector) (node : NodeId) : Prop :=
  (∀ n ∈ (s.nodes node).dependsOn, n = node) ∧ ∀ n ∈ (s.nodes node).dependedOnBy, n = node

theorem Inv.remove_isolated (inv : s.Inv) (present : s.Present node) (isolated : s.Isolated node) :
    (s.remove (s.nodes node).path).Inv := by
  have left : ∀ n, (s.remove (s.nodes node).path).Present n ↔ s.Present n ∧ n ≠ node :=
    fun n => inv.wellFormed.present_remove present
  refine ⟨⟨?_, ?_, ?_⟩, inv.wellFormed.remove _⟩
  · intro n still m depends
    obtain ⟨old, different⟩ := (left n).mp still
    refine (left m).mpr ⟨inv.consistent.dependsOn_present n old m depends, ?_⟩
    rintro rfl
    exact different (isolated.2 n ((inv.consistent.inverse n m old present).mp depends))
  · intro n still m depends
    obtain ⟨old, different⟩ := (left n).mp still
    refine (left m).mpr ⟨inv.consistent.dependedOnBy_present n old m depends, ?_⟩
    rintro rfl
    exact different (isolated.1 n ((inv.consistent.inverse m n present old).mpr depends))
  · intro n m still still'
    exact inv.consistent.inverse n m ((left n).mp still).1 ((left m).mp still').1

def released (s : PreviewDetector) (node : NodeId) : PreviewDetector :=
  (s.remove (s.nodes node).path).modifyNodes (s.nodes node).dependedOnBy fun downstream =>
    { downstream with dependsOn := downstream.dependsOn.erase node }

def detached (s : PreviewDetector) (node : NodeId) : PreviewDetector :=
  (s.released node).modifyNodes ((s.released node).nodes node).dependsOn fun upstream =>
    { upstream with dependedOnBy := upstream.dependedOnBy.erase node }

theorem nodes_released (n : NodeId) : (s.released node).nodes n =
    if n ∈ (s.nodes node).dependedOnBy then { s.nodes n with dependsOn := (s.nodes n).dependsOn.erase node }
    else s.nodes n := rfl

theorem nodes_detached (n : NodeId) : (s.detached node).nodes n =
    if n ∈ ((s.released node).nodes node).dependsOn then
      { (s.released node).nodes n with dependedOnBy := ((s.released node).nodes n).dependedOnBy.erase node }
    else (s.released node).nodes n := rfl

theorem path_detached (n : NodeId) : ((s.detached node).nodes n).path = (s.nodes n).path := by
  rw [nodes_detached, apply_ite LibraryPreviewNode.path, ite_self, nodes_released,
    apply_ite LibraryPreviewNode.path, ite_self]

theorem Inv.edges_detached (inv : s.Inv) (present : s.Present node) {n : NodeId} (old : s.Present n)
    (different : n ≠ node) :
    ((s.detached node).nodes n).dependsOn = (s.nodes n).dependsOn.erase node ∧
      ((s.detached node).nodes n).dependedOnBy = (s.nodes n).dependedOnBy.erase node := by
  have forward : node ∈ (s.nodes n).dependsOn ↔ n ∈ (s.nodes node).dependedOnBy :=
    inv.consistent.inverse n node old present
  have backward : n ∈ (s.nodes node).dependsOn ↔ node ∈ (s.nodes n).dependedOnBy :=
    inv.consistent.inverse node n present old
  have upstream : n ∈ ((s.released node).nodes node).dependsOn ↔ n ∈ (s.nodes node).dependsOn := by
    rw [nodes_released]
    split
    · simp [different]
    · exact Iff.rfl
  have kept : ((s.released node).nodes n).dependedOnBy = (s.nodes n).dependedOnBy := by
    rw [nodes_released, apply_ite LibraryPreviewNode.dependedOnBy, ite_self]
  constructor
  · rw [nodes_detached, apply_ite LibraryPreviewNode.dependsOn, ite_self, nodes_released]
    split
    · rfl
    · rename_i free
      exact (Finset.erase_eq_of_notMem fun inside => free (forward.mp inside)).symm
  · rw [nodes_detached]
    split
    · rw [kept]
    · rename_i free
      rw [kept, Finset.erase_eq_of_notMem fun inside => free (upstream.mpr (backward.mpr inside))]

theorem Inv.detached (inv : s.Inv) (present : s.Present node) : (s.detached node).Inv := by
  have left : ∀ n, (s.detached node).Present n ↔ s.Present n ∧ n ≠ node :=
    fun n => inv.wellFormed.present_remove present
  refine ⟨⟨?_, ?_, ?_⟩, ⟨(inv.wellFormed.remove _).keys, ?_, (inv.wellFormed.remove _).allocated⟩⟩
  · intro n still m depends
    obtain ⟨old, different⟩ := (left n).mp still
    rw [(inv.edges_detached present old different).1] at depends
    obtain ⟨other, before⟩ := Finset.mem_erase.mp depends
    exact (left m).mpr ⟨inv.consistent.dependsOn_present n old m before, other⟩
  · intro n still m depends
    obtain ⟨old, different⟩ := (left n).mp still
    rw [(inv.edges_detached present old different).2] at depends
    obtain ⟨other, before⟩ := Finset.mem_erase.mp depends
    exact (left m).mpr ⟨inv.consistent.dependedOnBy_present n old m before, other⟩
  · intro n m still still'
    obtain ⟨old, different⟩ := (left n).mp still
    obtain ⟨old', different'⟩ := (left m).mp still'
    rw [(inv.edges_detached present old different).1, (inv.edges_detached present old' different').2]
    simp only [Finset.mem_erase, different, different', ne_eq, not_false_eq_true, true_and]
    exact inv.consistent.inverse n m old old'
  · intro entry inside
    rw [path_detached]
    exact inv.wellFormed.path entry (List.mem_of_mem_filter inside)

theorem Inv.modifyFiles (inv : s.Inv) (files : List String) :
    (s.modifyNode node fun details => { details with files := files }).Inv := by
  have edges : ∀ n, let changed := (s.modifyNode node fun details => { details with files := files }).nodes n
      changed.path = (s.nodes n).path ∧ changed.dependsOn = (s.nodes n).dependsOn ∧
        changed.dependedOnBy = (s.nodes n).dependedOnBy := by
    intro n
    simp only [modifyNode, Function.update_apply]
    split_ifs with same
    · rw [same]
      exact ⟨rfl, rfl, rfl⟩
    · exact ⟨rfl, rfl, rfl⟩
  refine ⟨⟨fun n old m depends => ?_, fun n old m depends => ?_, fun n m old old' => ?_⟩,
    ⟨inv.wellFormed.keys, fun entry inside => ?_, inv.wellFormed.allocated⟩⟩
  · rw [(edges n).2.1] at depends
    exact inv.consistent.dependsOn_present n old m depends
  · rw [(edges n).2.2] at depends
    exact inv.consistent.dependedOnBy_present n old m depends
  · rw [(edges n).2.1, (edges m).2.2]
    exact inv.consistent.inverse n m old old'
  · rw [(edges entry.2).1]
    exact inv.wellFormed.path entry inside

theorem Inv.fileRemoved (inv : s.Inv) (filePath : String) : (s.fileRemoved filePath).Inv := by
  unfold PreviewDetector.fileRemoved
  split
  · exact inv
  · rename_i node found
    have inv' : (s.modifyNode node fun details => { details with files := details.files.erase filePath }).Inv :=
      inv.modifyFiles ((s.nodes node).files.erase filePath)
    have present : s.Present node := present_of_nodeWithFile found
    simp only
    split
    · exact inv'.detached present
    · exact inv'

end Leave

/-! ## Events -/

def Harmless (s : PreviewDetector) (analysis : Analysis) (filePath : String) : Prop :=
  Gone analysis filePath → ∀ node, s.nodeWithFile filePath = some node → s.Isolated node

theorem Inv.fileAddedOrUpdated (inv : s.Inv) {filePath : String} (harmless : s.Harmless analysis filePath) :
    (s.fileAddedOrUpdated analysis filePath).2.Inv := by
  obtain ⟨inv', inside⟩ : (s.findPreviewFunctions analysis filePath).2.Inv ∧ _ := inv.findPreviewFunctions filePath
  unfold PreviewDetector.fileAddedOrUpdated
  split
  · rename_i location libraryDetails s' found
    rw [found] at inv' inside
    rw [inv'.wellFormed.assign_eq (inside _ (List.mem_singleton_self _))]
    exact inv'
  · rename_i s' found
    obtain ⟨gone, rfl⟩ := gone_of_findPreviewFunctions_nil found
    split
    · exact inv
    · rename_i node held
      exact inv.remove_isolated (present_of_nodeWithFile held) (harmless gone node held)
  · rename_i s' found
    rw [found] at inv'
    exact inv'

def AllHarmless (analyses : Nat → Analysis) : Nat → List String → PreviewDetector → Prop
  | _, [], _ => True
  | k, filePath :: files, s =>
    s.Harmless (analyses k) filePath ∧
      AllHarmless analyses (k + 1) files (s.fileAddedOrUpdated (analyses k) filePath).2

theorem Inv.updateFiles (inv : s.Inv) {analyses : Nat → Analysis} (k : Nat) {files : List String}
    (harmless : AllHarmless analyses k files s) : (PreviewDetector.updateFiles analyses k files s).2.Inv := by
  induction files generalizing s k with
  | nil => exact inv
  | cons filePath files ih =>
    have inv' := inv.fileAddedOrUpdated harmless.1
    have rest := harmless.2
    rw [PreviewDetector.updateFiles]
    split
    · rename_i s' updated
      rw [updated] at inv' rest
      exact ih inv' (k + 1) rest
    · rename_i s' updated
      rw [updated] at inv'
      exact inv'

variable (project : ProjectPaths)

/-- No library with edges is found gone while the files that an event affects are updated. -/
def Clean (s : PreviewDetector) (event : WatchEvent) : Prop :=
  isHandled project event.path = true → ∀ potentiallyAffectedFiles,
    event.potentiallyAffectedFiles = some potentiallyAffectedFiles →
      AllHarmless event.analyses 0 (affectedFiles event potentiallyAffectedFiles) s

variable {project}

theorem Inv.onFileSystemEvent (inv : s.Inv) {event : WatchEvent} (clean : s.Clean project event) :
    (s.onFileSystemEvent project event).Inv := by
  unfold PreviewDetector.onFileSystemEvent
  split
  · exact (inv.findPreviewFunctions project.projectRoot).1
  · split
    · rename_i handled
      split
      · exact inv
      · rename_i potentiallyAffectedFiles affected
        have inv' := inv.updateFiles 0 (clean handled potentiallyAffectedFiles affected)
        split
        · rename_i s' updated
          rw [updated] at inv'
          split
          · exact inv'.fileRemoved event.path
          · exact inv'
        · rename_i s' updated
          rw [updated] at inv'
          exact inv'
    · exact inv

theorem inv_create : create.Inv := by
  refine ⟨⟨?_, ?_, ?_⟩, ⟨List.nodup_nil, ?_, ?_⟩⟩ <;> simp [create, Present]

def step (project : ProjectPaths) (s : PreviewDetector) (event : WatchEvent) : Except Empty (Unit × PreviewDetector) :=
  .ok ((), s.onFileSystemEvent project event)

/-- The graph is consistent after every event, if no library with edges is found gone while another
    file is updated. -/
theorem consistent_of_clean {analysis : Analysis} {log : List (WatchEvent × Unit)}
    (runs : Lib.Runs (step project) (Clean project) (initialized project analysis) log s) : s.Consistent := by
  have inv : s.Inv := by
    apply runs.preserves (inv_create.findPreviewFunctions project.projectRoot).1
    intro s event out s' inv clean stepped
    cases stepped
    exact inv.onFileSystemEvent clean
  exact inv.consistent

section Runs

def sampleProject : ProjectPaths :=
  ⟨"/p", "/p/.dart_tool/package_config.json", fun _ => false, fun _ => false, fun _ => true⟩

def singleFile (file : String) : LibraryElement := ⟨⟨file, file⟩, [file]⟩

def sampleLibrary : String → Option ResolvedLibrary
  | "/p/ui/page.dart" =>
    some ⟨singleFile "/p/ui/page.dart", [some (singleFile "/p/ui/button.dart"), some (singleFile "/p/theme.dart")]⟩
  | "/p/ui/button.dart" => some ⟨singleFile "/p/ui/button.dart", []⟩
  | "/p/theme.dart" => some ⟨singleFile "/p/theme.dart", []⟩
  | _ => none

def sampleAnalysis (files : List String) : Analysis :=
  ⟨files, fun file => if file ∈ files then sampleLibrary file else none⟩

def sampleStart : PreviewDetector :=
  initialized sampleProject (sampleAnalysis ["/p/theme.dart", "/p/ui/button.dart", "/p/ui/page.dart"])

def buttonRemoved (left : List String) : WatchEvent :=
  ⟨.remove, "/p/ui/button.dart", some ["/p/ui/button.dart", "/p/ui/page.dart"], fun _ => sampleAnalysis left⟩

/-- If only the button is removed, the page is found when it is updated. -/
theorem consistent_single_removal :
    ∃ log s, Lib.Runs (step sampleProject) (Clean sampleProject) sampleStart log s ∧
      log.map Prod.fst = [buttonRemoved ["/p/theme.dart", "/p/ui/page.dart"]] ∧ s.Consistent := by
  have clean : sampleStart.Clean sampleProject (buttonRemoved ["/p/theme.dart", "/p/ui/page.dart"]) := by
    rintro - _ ⟨⟩
    refine ⟨fun gone => ?_, trivial⟩
    exact absurd (gone "/p/ui/page.dart" (by decide) (by decide) (by decide)) (by decide)
  have runs : Lib.Runs (step sampleProject) (Clean sampleProject) sampleStart _ _ := .next .start clean rfl
  exact ⟨_, _, runs, rfl, consistent_of_clean runs⟩

/-- If the page was removed with it, it leaves an edge at the theme. -/
theorem not_consistent_removed_directory :
    ¬ ∀ (project : ProjectPaths) (analysis : Analysis) (log : List (WatchEvent × Unit)) (s : PreviewDetector),
      Lib.Runs (step project) (fun _ _ => True) (initialized project analysis) log s → s.Consistent := by
  intro always
  have runs : Lib.Runs (step sampleProject) (fun _ _ => True) sampleStart [(buttonRemoved ["/p/theme.dart"], ())]
      (sampleStart.onFileSystemEvent sampleProject (buttonRemoved ["/p/theme.dart"])) := .next .start trivial rfl
  have consistent := always sampleProject _ _ _ runs
  have graph : (sampleStart.onFileSystemEvent sampleProject (buttonRemoved ["/p/theme.dart"])).dependencyGraph =
      [(⟨"/p/theme.dart", "/p/theme.dart"⟩, 0)] := rfl
  obtain ⟨path, inside⟩ := consistent.dependedOnBy_present 0 ⟨_, by rw [graph]; exact List.mem_singleton_self _⟩ 2
    (by decide)
  rw [graph] at inside
  simp at inside

end Runs

end PreviewDetector

end FlutterZero.FlutterTools
