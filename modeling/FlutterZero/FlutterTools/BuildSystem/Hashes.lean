import FlutterZero.FlutterTools.BuildSystem.Waiting

/-! # Keys of files

* `FileStore.current_diffFileList`, `FileStore.previous_diffFileList` — which keys a list of
  files leaves behind;
* `Node.clean_of_canSkip` — what a node that can be skipped says about the files.
-/

namespace FlutterZero.FlutterTools.BuildSystem

variable {Content Digest : Type} [DecidableEq Digest] {digest : Content → Digest} {files : Files Content}
  {store : FileStore Digest} {path : String} {paths : List String}

namespace FileStore

theorem current_hashFile (path other : String) :
    (hashFile digest files store path).1.currentAssetKeys other =
      if other = path then (files other).map digest else store.currentAssetKeys other := by
  unfold hashFile
  by_cases same : other = path
  · subst same
    cases files other <;> simp
  · cases files path <;> simp [same]

theorem previous_hashFile (path other : String) :
    (hashFile digest files store path).1.previousAssetKeys other = store.previousAssetKeys other ∨
      (hashFile digest files store path).1.previousAssetKeys other = none := by
  unfold hashFile
  cases files path with
  | some content => exact .inl rfl
  | none =>
    by_cases same : other = path
    · exact .inr (by simp [same])
    · exact .inl (by simp [same])

theorem hashFile_clean (clean : (hashFile digest files store path).2 = false) :
    (∃ content, files path = some content ∧ store.previousAssetKeys path = some (digest content)) ∧
      (hashFile digest files store path).1.previousAssetKeys = store.previousAssetKeys := by
  unfold hashFile at clean ⊢
  cases found : files path with
  | none => simp [found] at clean
  | some content =>
    simp only [found, decide_eq_false_iff_not, not_not] at clean
    exact ⟨⟨content, rfl, clean.symm⟩, rfl⟩

theorem current_diffFileList (paths : List String) (store : FileStore Digest) (other : String) :
    (store.diffFileList digest files paths).1.currentAssetKeys other =
      if other ∈ paths then (files other).map digest else store.currentAssetKeys other := by
  induction paths generalizing store with
  | nil => simp [diffFileList]
  | cons path paths ih =>
    simp only [diffFileList, ih, current_hashFile, List.mem_cons]
    by_cases later : other ∈ paths
    · simp [later]
    · simp [later]

theorem previous_diffFileList (digest : Content → Digest) (files : Files Content) (paths : List String)
    (store : FileStore Digest) (other : String) :
    (store.diffFileList digest files paths).1.previousAssetKeys other = store.previousAssetKeys other ∨
      (store.diffFileList digest files paths).1.previousAssetKeys other = none := by
  induction paths generalizing store with
  | nil => exact .inl rfl
  | cons path paths ih =>
    simp only [diffFileList]
    obtain kept | lost := ih (hashFile digest files store path).1
    · rw [kept]
      exact previous_hashFile path other
    · exact .inr lost

theorem diffFileList_clean (clean : (store.diffFileList digest files paths).2 = false) :
    ∀ path ∈ paths, ∃ content, files path = some content ∧ store.previousAssetKeys path = some (digest content) := by
  induction paths generalizing store with
  | nil => simp
  | cons first paths ih =>
    simp only [diffFileList, Bool.or_eq_false_iff] at clean
    obtain ⟨here, previous⟩ := hashFile_clean clean.1
    have rest := ih clean.2
    rw [previous] at rest
    exact List.forall_mem_cons.mpr ⟨here, rest⟩

end FileStore

namespace Node

variable {node : Node}

omit [DecidableEq Digest] in
theorem mem_sourcesToDiff : path ∈ node.sourcesToDiff files store ↔
    (path ∈ node.inputs ∨ path ∈ node.previousOutputs ∧ path ∈ node.outputs) ∧ (files path).isSome = true ∧
      store.currentAssetKeys path = none := by
  simp only [sourcesToDiff, List.mem_append, List.mem_filter, Bool.and_eq_true, Option.isNone_iff_eq_none,
    List.contains_iff_mem]
  tauto

theorem current_computeChanges (node : Node) (store : FileStore Digest) (path : String) :
    (node.computeChanges digest files store).2.currentAssetKeys path =
      if path ∈ node.sourcesToDiff files store then (files path).map digest else store.currentAssetKeys path :=
  FileStore.current_diffFileList _ store path

theorem previous_computeChanges (node : Node) (store : FileStore Digest) (path : String) :
    (node.computeChanges digest files store).2.previousAssetKeys path = store.previousAssetKeys path ∨
      (node.computeChanges digest files store).2.previousAssetKeys path = none :=
  FileStore.previous_diffFileList digest files _ store path

def Unchanged (digest : Content → Digest) (files : Files Content) (store : FileStore Digest) (path : String) : Prop :=
  ∃ content key, files path = some content ∧ store.previousAssetKeys path = some key ∧
    (store.currentAssetKeys path = none ∧ key = digest content ∨ store.currentAssetKeys path = some key)

structure Clean (digest : Content → Digest) (files : Files Content) (node : Node) (store : FileStore Digest)
    (stamp : Stamp) : Prop where
  stamped : node.stamp = some stamp
  buildKey : node.buildKey = stamp.buildKey
  outputs : ∀ path, path ∈ node.outputs ↔ path ∈ stamp.outputs
  unchanged : ∀ path, path ∈ node.inputs ∨ path ∈ stamp.outputs → Unchanged digest files store path

theorem clean_of_canSkip (clean : (node.computeChanges digest files store).1 = true) :
    ∃ stamp, Clean digest files node store stamp := by
  simp only [computeChanges, Bool.not_eq_true', Bool.or_eq_false_iff] at clean
  obtain ⟨⟨⟨⟨⟨⟨⟨⟨noStamp, sameKey⟩, inputChanged⟩, inputMissing⟩, removed⟩, outputMissing⟩, outputChanged⟩, added⟩,
    hashed⟩ := clean
  obtain ⟨stamp, stamped⟩ := Option.isSome_iff_exists.mp (by simpa using noStamp : node.stamp.isSome = true)
  have previousOutputs : node.previousOutputs = stamp.outputs := by simp [Node.previousOutputs, stamped]
  simp only [List.any_eq_false, Bool.not_eq_true', Bool.not_eq_false, Option.isNone_iff_eq_none,
    List.contains_iff_mem, previousOutputs] at removed added inputMissing outputMissing inputChanged outputChanged
  have unchanged : ∀ path, path ∈ node.inputs ∨ path ∈ stamp.outputs → Unchanged digest files store path := by
    intro path inside
    have exists' : files path ≠ none := by
      obtain isInput | isOutput := inside
      · exact inputMissing path isInput
      · exact outputMissing path isOutput
    obtain ⟨content, found⟩ := Option.ne_none_iff_exists'.mp exists'
    have notChanged : hasChanged files store path ≠ true := by
      obtain isInput | isOutput := inside
      · exact inputChanged path isInput
      · exact outputChanged path isOutput
    cases current : store.currentAssetKeys path with
    | none =>
      have source : path ∈ node.sourcesToDiff files store := by
        rw [mem_sourcesToDiff, found, previousOutputs]
        exact ⟨inside.imp_right fun isOutput => ⟨isOutput, removed path isOutput⟩, rfl, current⟩
      obtain ⟨content', found', previous⟩ := FileStore.diffFileList_clean hashed path source
      obtain rfl := Option.some.inj (found.symm.trans found')
      exact ⟨content, digest content, found, previous, .inl ⟨current, rfl⟩⟩
    | some key =>
      have same : store.currentAssetKeys path = store.previousAssetKeys path := by
        simpa [hasChanged, found, current] using notChanged
      exact ⟨content, key, found, same ▸ current, .inr current⟩
  exact ⟨stamp, stamped, by simpa [previousBuildKey, stamped] using sameKey,
    fun path => ⟨added path, removed path⟩, unchanged⟩

end Node

namespace Session

variable {s : Session Content Digest} {build : Build Content Digest} {name : String} {inputs outputs : List String}

theorem current_cacheAfter (path : String) :
    (cacheAfter digest s build name inputs outputs).currentAssetKeys path =
      if path ∈ outputs ∨ (build.nodes name).missingDepfile = true ∧ path ∈ inputs then (s.files path).map digest
      else build.fileCache.currentAssetKeys path := by
  rw [cacheAfter, FileStore.current_diffFileList]
  by_cases isOutput : path ∈ outputs
  · simp [isOutput]
  · cases depfile : (build.nodes name).missingDepfile with
    | true => simp [isOutput, FileStore.current_diffFileList]
    | false => simp [isOutput]

theorem previous_cacheAfter (path : String) :
    (cacheAfter digest s build name inputs outputs).previousAssetKeys path = build.fileCache.previousAssetKeys path ∨
      (cacheAfter digest s build name inputs outputs).previousAssetKeys path = none := by
  rw [cacheAfter]
  obtain kept | lost := FileStore.previous_diffFileList digest s.files outputs
    (if (build.nodes name).missingDepfile then (build.fileCache.diffFileList digest s.files inputs).1
      else build.fileCache) path
  · rw [kept]
    cases (build.nodes name).missingDepfile with
    | true => exact FileStore.previous_diffFileList digest s.files inputs build.fileCache path
    | false => exact .inl rfl
  · exact .inr lost

end Session

end FlutterZero.FlutterTools.BuildSystem
