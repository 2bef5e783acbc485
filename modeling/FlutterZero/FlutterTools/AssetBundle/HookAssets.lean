import FlutterZero.Lib.AssociationLists
import FlutterZero.FlutterTools.AssetBundle.Rebuild

/-! # The assets of build hooks

`ManifestAssetBundle.build` adds the data assets of the build hooks to the assets of the
pubspecs, and looks for an asset that equals the new one. What an asset replaces is
decided by the path of its entry alone.

* `HookAsset.asset` — the asset of a hook;
* `foldlM_addDataAsset` — which conflicts a build reports;
* `ReportsClashes` — two assets of one path are a conflict, and everything else is
  bundled;
* `reportsClashes_iff_distinguished` — when this is so;
* `not_reportsClashes_other_directory` — a hook asset and an asset of the pubspec that
  lie in different directories.
-/

namespace FlutterZero.FlutterTools.AssetBundle

open Lib (valuesOf keepAll)

variable {File Transformer Font : Type}

/-! ## Hook assets -/

structure HookAsset where
  package : String
  name : String
  /-- `fileUri.toFilePath()`. -/
  file : String
deriving DecidableEq, Repr

/-- What `build` asks about the paths of a data asset. -/
structure HookPaths where
  dirname : String → String
  /-- `Uri(path: _fileSystem.path.basename(filePath))`. -/
  basenameUri : String → String
  /-- `Uri.parse(_fileSystem.path.join('packages', package, name))`. -/
  entryUri : String → String → Uri

variable (paths : HookPaths) (tools : Tools File Transformer Font) (project : Project File Transformer Font)
  (hooks : List HookAsset)

namespace HookAsset

def asset (hook : HookAsset) : Asset Transformer :=
  ⟨paths.dirname hook.file, paths.basenameUri hook.file, paths.entryUri hook.package hook.name, .regular, ∅, ∅, []⟩

def path (hook : HookAsset) : String := (paths.entryUri hook.package hook.name).path

def entryFile (hook : HookAsset) : File := tools.file (paths.dirname hook.file) (paths.basenameUri hook.file)

def entry (hook : HookAsset) : Entry File Transformer := ⟨.file (hook.entryFile paths tools), .regular, []⟩

end HookAsset

def Project.withHooks : Project File Transformer Font :=
  { project with dataAssets := hooks.map (HookAsset.asset paths) }

/-! ## Which conflicts are reported -/

def Detected (variants : Variants Transformer) (assets : List (Asset Transformer)) : Prop :=
  (∃ asset ∈ assets, Variants.containsKey variants asset = true) ∨
    ¬ assets.Pairwise fun earlier later => later.same earlier = false

section Conflicts

variable {variants : Variants Transformer} {first : Asset Transformer} {assets : List (Asset Transformer)}
  {gathered : Gathered File Transformer Font}

@[simp] theorem Asset.same_self (asset : Asset Transformer) : asset.same asset = true := by
  simp [Asset.same]

theorem containsKey_append_self (asset : Asset Transformer) :
    Variants.containsKey (variants ++ [(first, [first])]) asset =
      (Variants.containsKey variants asset || asset.same first) := by
  simp [Variants.containsKey]

theorem not_detected_nil : ¬ Detected variants [] := by
  simp [Detected]

theorem detected_cons : Detected variants (first :: assets) ↔
    Variants.containsKey variants first = true ∨ Detected (variants ++ [(first, [first])]) assets := by
  have split : (∃ asset ∈ assets, Variants.containsKey (variants ++ [(first, [first])]) asset = true) ↔
      (∃ asset ∈ assets, Variants.containsKey variants asset = true) ∨
        ∃ asset ∈ assets, asset.same first = true := by
    simp only [containsKey_append_self, Bool.or_eq_true, and_or_left, exists_or]
  have apart : (¬ ∀ asset ∈ assets, asset.same first = false) ↔ ∃ asset ∈ assets, asset.same first = true := by
    simp
  rw [Detected, Detected, split, List.pairwise_cons, not_and_or, apart]
  simp only [List.mem_cons, exists_eq_or_imp, or_assoc]

theorem foldlM_addDataAsset (gathered : Gathered File Transformer Font) (assets : List (Asset Transformer)) :
    (Detected gathered.assetVariants assets → assets.foldlM addDataAsset gathered = .error .conflicting) ∧
      (¬ Detected gathered.assetVariants assets → assets.foldlM addDataAsset gathered =
        .ok { gathered with
          assetVariants := gathered.assetVariants ++ assets.map fun asset => (asset, [asset]) }) := by
  induction assets generalizing gathered with
  | nil =>
    refine ⟨fun detected => absurd detected not_detected_nil, fun _ => ?_⟩
    simp [pure, Except.pure]
  | cons first assets ih =>
    rw [List.foldlM_cons, detected_cons]
    cases contained : Variants.containsKey gathered.assetVariants first with
    | true => simp [addDataAsset, contained, Lib.error_bind]
    | false =>
      simp only [addDataAsset, contained, Bool.false_eq_true, if_false, false_or, Lib.ok_bind]
      obtain ⟨reported, added⟩ := ih { gathered with
        assetVariants := gathered.assetVariants ++ [(first, [first])] }
      refine ⟨reported, fun passed => ?_⟩
      rw [added passed]
      simp

end Conflicts

/-! ## What is promised -/

def Project.pubspecs : Gathered File Transformer Font :=
  match project.manifest with
  | none => ⟨[], [], [], []⟩
  | some manifest =>
    match (project.withHooks paths []).gather tools manifest with
    | .error _ => ⟨[], [], [], []⟩
    | .ok gathered => gathered

def Project.declared : List (Asset Transformer) :=
  let pubspecs := project.pubspecs paths tools
  (pubspecs.assetVariants ++ pubspecs.deferredComponents.flatMap Prod.snd).map Prod.fst

def Clash : Prop := ∃ hook ∈ hooks, ∃ asset ∈ project.declared paths tools, asset.entryUri.path = hook.path paths

def generatedKeys : List String :=
  if project.isWeb then [kAssetManifestBinFilename, kAssetManifestBinJsonFilename, kFontManifestJson, kNoticeFile]
  else [kAssetManifestBinFilename, kFontManifestJson, kNoticeZippedFile]

variable [DecidableEq Transformer]

/-- A clash is reported; without one there is an entry for every hook asset, and the files of the
    pubspecs are those of a build without the hooks. -/
structure ReportsClashes (alone : Entries File Transformer) : Prop where
  reported : Clash paths tools project hooks →
    ∀ entries, build tools (project.withHooks paths hooks) entries = .error (.conflicting, entries)
  bundled : ¬ Clash paths tools project hooks →
    ∃ entries, build tools (project.withHooks paths hooks) (fun _ => none) = .ok entries ∧
      (∀ hook ∈ hooks, sourceOf tools (entries (hook.path paths)) = some (.file (hook.entryFile paths tools))) ∧
      ∀ asset ∈ (project.pubspecs paths tools).assetVariants.flatMap (withMain tools project), ∀ file,
        sourceOf tools (alone asset.entryUri.path) = some (.file file) →
          sourceOf tools (entries asset.entryUri.path) = some (.file file)

def pubspecEntry (key : String) : Option (Entry File Transformer) :=
  keepAll Entry.transformers
    (valuesOf key (assetEntries tools project (project.pubspecs paths tools).assetVariants)) none

structure HasOwnPath (hook : HookAsset) : Prop where
  notGenerated : hook.path paths ∉ generatedKeys project
  hooks : ∀ other ∈ hooks, other.path paths = hook.path paths →
    (other.entryFile paths tools : File) = hook.entryFile paths tools
  pubspecs : ∀ entry, pubspecEntry paths tools project (hook.path paths) = some entry →
    entry.content = .file (hook.entryFile paths tools)

/-- The code tells the assets apart just as their paths do. -/
structure Distinguished : Prop where
  seen : Clash paths tools project hooks →
    Detected (project.pubspecs paths tools).assetVariants (hooks.map (HookAsset.asset paths))
  /-- Without a clash no two assets are equal. -/
  unseen : ¬ Clash paths tools project hooks →
    ¬ Detected (project.pubspecs paths tools).assetVariants (hooks.map (HookAsset.asset paths))
  apart : ¬ Clash paths tools project hooks → ∀ hook ∈ hooks, HasOwnPath paths tools project hooks hook
  /-- Nothing is bundled for an empty pubspec. -/
  empty : ∀ manifest, project.manifest = some manifest → manifest.isEmpty = true → hooks = []

/-! ## Builds with hook assets -/

section Builds

variable {paths tools project hooks} {manifest : Manifest File Transformer Font}
  {gathered : Gathered File Transformer Font} {combinedLicenses : String} {entries : Entries File Transformer}

variable (paths tools project manifest gathered combinedLicenses) in
/-- A build without hook assets gets as far as the licenses. -/
structure Gathers : Prop where
  isManifest : project.manifest = some manifest
  notEmpty : manifest.isEmpty = false
  isGathered : (project.withHooks paths []).gather tools manifest = .ok gathered
  present : gathered.assetVariants.any (Missing tools project) = false
  deferred : (gathered.deferredComponents.any fun component => component.2.any (Missing tools project)) = false
  licenses : project.obtainLicenses gathered.additionalLicenseFiles = some combinedLicenses

variable (paths hooks gathered) in
def Gathered.withHooks : Gathered File Transformer Font :=
  let added : Variants Transformer := hooks.map fun hook => (hook.asset paths, [hook.asset paths])
  { gathered with assetVariants := gathered.assetVariants ++ added }

variable (paths tools hooks) in
def hookEntries : List (String × Entry File Transformer) :=
  hooks.map fun hook => (hook.path paths, hook.entry paths tools)

variable {key : String}

omit [DecidableEq Transformer] in
theorem lookup_generatedFor_eq_none :
    (generatedFor tools project gathered combinedLicenses).lookup key = none ↔ key ∉ generatedKeys project := by
  have keys : (generatedFor tools project gathered combinedLicenses).map Prod.fst = generatedKeys project := by
    cases isWeb : project.isWeb <;> simp [generatedFor, generatedKeys, isWeb]
  rw [← keys, Lib.lookup_eq_none_iff_not_mem]

variable (tools) in
omit [DecidableEq Transformer] in
theorem source_generatedFor {content : Content File}
    (found : (generatedFor tools project gathered combinedLicenses).lookup key = some content) :
    ∃ raw, content.source tools = .bytes raw := by
  have inside : (key, content) ∈ generatedFor tools project gathered combinedLicenses :=
    Lib.mem_of_lookup found
  unfold generatedFor at inside
  split at inside <;> simp only [List.mem_cons, Prod.mk.injEq, List.not_mem_nil, or_false] at inside
  · obtain ⟨-, rfl⟩ | ⟨-, rfl⟩ | ⟨-, rfl⟩ | ⟨-, rfl⟩ := inside <;> exact ⟨_, rfl⟩
  · obtain ⟨-, rfl⟩ | ⟨-, rfl⟩ | ⟨-, rfl⟩ := inside <;> exact ⟨_, rfl⟩

omit [DecidableEq Transformer] in
theorem gather_withHooks : (project.withHooks paths hooks).gather tools manifest =
    (project.withHooks paths []).gather tools manifest >>= (hooks.map (HookAsset.asset paths)).foldlM addDataAsset := by
  unfold Project.gather
  split
  next => rfl
  next variants _ =>
    simp only [Project.withHooks, List.map_nil, List.foldlM_nil, bind_pure]
    rfl

omit [DecidableEq Transformer] in
theorem assetEntries_withHooks (variants : Variants Transformer) :
    assetEntries tools project (variants ++ hooks.map fun hook => (hook.asset paths, [hook.asset paths])) =
      assetEntries tools project variants ++ hookEntries paths tools hooks := by
  have alone : ∀ hook : HookAsset, withMain tools project (hook.asset paths, [hook.asset paths]) =
      [hook.asset paths] := by
    intro hook
    simp [withMain]
  rw [assetEntries, List.flatMap_append, ← assetEntries, List.flatMap_map]
  simp only [alone, List.map_cons, List.map_nil, hookEntries]
  rw [List.map_eq_flatMap]
  rfl

namespace Gathers

variable (gathers : Gathers paths tools project manifest gathered combinedLicenses)

include gathers

omit [DecidableEq Transformer] in
theorem pubspecs_eq : project.pubspecs paths tools = gathered := by
  simp only [Project.pubspecs, gathers.isManifest, gathers.isGathered]

omit [DecidableEq Transformer] in
theorem gather_detected (detected : Detected gathered.assetVariants (hooks.map (HookAsset.asset paths))) :
    (project.withHooks paths hooks).gather tools manifest = .error .conflicting := by
  rw [gather_withHooks, gathers.isGathered, Lib.ok_bind]
  exact (foldlM_addDataAsset gathered _).1 detected

omit [DecidableEq Transformer] in
theorem gather_not_detected (passed : ¬ Detected gathered.assetVariants (hooks.map (HookAsset.asset paths))) :
    (project.withHooks paths hooks).gather tools manifest = .ok (gathered.withHooks paths hooks) := by
  rw [gather_withHooks, gathers.isGathered, Lib.ok_bind, (foldlM_addDataAsset gathered _).2 passed,
    Gathered.withHooks, List.map_map]
  rfl

omit [DecidableEq Transformer] in
theorem present_withHooks :
    (gathered.withHooks paths hooks).assetVariants.any (Missing tools (project.withHooks paths hooks)) = false := by
  rw [Gathered.withHooks, List.any_append, Bool.or_eq_false_iff]
  refine ⟨gathers.present, ?_⟩
  simp [Missing]

theorem build_detected (detected : Detected gathered.assetVariants (hooks.map (HookAsset.asset paths))) :
    build tools (project.withHooks paths hooks) entries = .error (.conflicting, entries) := by
  have isManifest : (project.withHooks paths hooks).manifest = some manifest := gathers.isManifest
  simp only [build, isManifest, gathers.notEmpty, gathers.gather_detected detected, Except.mapError, Lib.error_bind]
  rfl

variable (hooks) in
omit [DecidableEq Transformer] in
theorem plan_withHooks (passed : ¬ Detected gathered.assetVariants (hooks.map (HookAsset.asset paths))) :
    (project.withHooks paths hooks).plan tools =
      some ⟨assetEntries tools project gathered.assetVariants ++ hookEntries paths tools hooks,
        materialEntries tools project manifest,
        generatedFor tools (project.withHooks paths hooks) (gathered.withHooks paths hooks) combinedLicenses⟩ := by
  have isManifest : (project.withHooks paths hooks).manifest = some manifest := gathers.isManifest
  rw [plan_of_gathered isManifest gathers.notEmpty (gathers.gather_not_detected passed) gathers.present_withHooks
    gathers.deferred gathers.licenses, ← assetEntries_withHooks]
  rfl

theorem build_ne_conflicting (passed : ¬ Detected gathered.assetVariants (hooks.map (HookAsset.asset paths)))
    (later : Entries File Transformer) :
    build tools (project.withHooks paths hooks) entries ≠ .error (.conflicting, later) := by
  have isManifest : (project.withHooks paths hooks).manifest = some manifest := gathers.isManifest
  rw [build_of_gathered isManifest gathers.notEmpty (gathers.gather_not_detected passed) gathers.present_withHooks
    gathers.deferred gathers.licenses]
  exact setLicenseIfChanged_ne_conflicting

/-! ### Sources after a build -/

section Sources

variable (passed : ¬ Detected gathered.assetVariants (hooks.map (HookAsset.asset paths)))
  (built : build tools (project.withHooks paths hooks) (fun _ => none) = .ok entries) {key : String}

include passed built

theorem sourceOf_kept {entry : Entry File Transformer} (notGenerated : key ∉ generatedKeys project)
    (kept : keepAll Entry.transformers (valuesOf key (hookEntries paths tools hooks))
      (pubspecEntry paths tools project key) = some entry) :
    sourceOf tools (entries key) = some (entry.content.source tools) := by
  obtain ⟨-, sources⟩ := sources_of_built (gathers.plan_withHooks hooks passed) built
  have absent : (generatedFor tools (project.withHooks paths hooks) (gathered.withHooks paths hooks)
      combinedLicenses).lookup key = none := lookup_generatedFor_eq_none.mpr notGenerated
  rw [pubspecEntry, gathers.pubspecs_eq] at kept
  have isEntry : keepAll Entry.transformers (valuesOf key
      (assetEntries tools project gathered.assetVariants ++ hookEntries paths tools hooks)) none = some entry := by
    rw [Lib.valuesOf_append, keepAll, List.foldl_append]
    exact kept
  rw [sources key, Plan.sourceAfter, absent, Plan.fileEntry, Lib.foldl_orElse, Plan.assetsOf, isEntry]
  rfl

theorem sourceOf_generated (generated : key ∈ generatedKeys project) (file : File) :
    sourceOf tools (entries key) ≠ some (.file file) := by
  obtain ⟨-, sources⟩ := sources_of_built (gathers.plan_withHooks hooks passed) built
  rw [sources key, Plan.sourceAfter]
  split
  next content found =>
    obtain ⟨raw, isBytes⟩ := source_generatedFor tools found
    simp [isBytes]
  next absent => exact absurd generated (lookup_generatedFor_eq_none.mp absent)

end Sources

end Gathers

/-! ## Clashes and conflicts -/

omit [DecidableEq Transformer] in
theorem mem_hookEntries {entry : Entry File Transformer} : entry ∈ valuesOf key (hookEntries paths tools hooks) ↔
      ∃ hook ∈ hooks, hook.path paths = key ∧ hook.entry paths tools = entry := by
  simp [Lib.mem_valuesOf, hookEntries]

theorem pubspecEntry_isSome {asset : Asset Transformer}
    (declared : asset ∈ (project.pubspecs paths tools).assetVariants.flatMap (withMain tools project)) :
    ∃ entry, pubspecEntry paths tools project asset.entryUri.path = some entry := by
  obtain ⟨variants, inside, isVariant⟩ := List.mem_flatMap.mp declared
  have value : asset.entry tools ∈ valuesOf asset.entryUri.path
      (assetEntries tools project (project.pubspecs paths tools).assetVariants) := by
    rw [Lib.mem_valuesOf, assetEntries, List.mem_flatMap]
    exact ⟨variants, inside, List.mem_map.mpr ⟨asset, isVariant, rfl⟩⟩
  obtain ⟨first, rest, values⟩ := List.exists_cons_of_ne_nil (List.ne_nil_of_mem value)
  rw [pubspecEntry, values]
  exact Option.isSome_iff_exists.mp (Lib.keepAll_isSome Entry.transformers first rest none)

theorem asset_of_pubspecEntry {entry : Entry File Transformer}
    (isEntry : pubspecEntry paths tools project key = some entry) :
    ∃ asset ∈ (project.pubspecs paths tools).assetVariants.flatMap (withMain tools project),
      asset.entryUri.path = key ∧ asset.entry tools = entry := by
  have value := (Lib.mem_of_keepAll isEntry).resolve_left (by simp)
  rw [Lib.mem_valuesOf, assetEntries, List.mem_flatMap] at value
  obtain ⟨variants, inside, isVariant⟩ := value
  obtain ⟨asset, isAsset, same⟩ := List.mem_map.mp isVariant
  obtain ⟨isKey, isEntry⟩ := Prod.mk.inj same
  exact ⟨asset, List.mem_flatMap.mpr ⟨variants, inside, isAsset⟩, isKey, isEntry⟩

section Iff

variable {alone : Entries File Transformer}
  (built : build tools (project.withHooks paths []) (fun _ => none) = .ok alone)

namespace Gathers

variable (gathers : Gathers paths tools project manifest gathered combinedLicenses)

include gathers built

theorem sourceOf_alone {key : String} {entry : Entry File Transformer} (notGenerated : key ∉ generatedKeys project)
    (isEntry : pubspecEntry paths tools project key = some entry) :
    sourceOf tools (alone key) = some (entry.content.source tools) := by
  exact gathers.sourceOf_kept not_detected_nil built notGenerated isEntry

theorem distinguished (reports : ReportsClashes paths tools project hooks alone) :
    Distinguished paths tools project hooks := by
  have seen : Clash paths tools project hooks →
      Detected (project.pubspecs paths tools).assetVariants (hooks.map (HookAsset.asset paths)) := by
    intro clash
    rw [gathers.pubspecs_eq]
    by_contra passed
    exact gathers.build_ne_conflicting passed _ (reports.reported clash fun _ => none)
  have unseen : ¬ Clash paths tools project hooks →
      ¬ Detected (project.pubspecs paths tools).assetVariants (hooks.map (HookAsset.asset paths)) := by
    intro apart detected
    rw [gathers.pubspecs_eq] at detected
    obtain ⟨entries, succeeded, -⟩ := reports.bundled apart
    rw [gathers.build_detected detected] at succeeded
    cases succeeded
  refine ⟨seen, unseen, fun apart hook inside => ?_, fun manifest' isManifest isEmpty => ?_⟩
  · have passed := unseen apart
    rw [gathers.pubspecs_eq] at passed
    obtain ⟨entries, succeeded, bundled, kept⟩ := reports.bundled apart
    have notGenerated : hook.path paths ∉ generatedKeys project := by
      intro generated
      exact gathers.sourceOf_generated passed succeeded generated _ (bundled hook inside)
    refine ⟨notGenerated, fun other isOther same => ?_, fun entry isEntry => ?_⟩
    · have alike := bundled other isOther
      rw [same, bundled hook inside] at alike
      simpa using alike.symm
    · -- the file of the pubspec is bundled, and so is the file of the hook
      obtain ⟨asset, declared, isPath, rfl⟩ := asset_of_pubspecEntry isEntry
      have before := gathers.sourceOf_alone built notGenerated isEntry
      rw [← isPath] at before
      have after := kept asset declared _ before
      rw [isPath, bundled hook inside] at after
      simpa [Asset.entry] using after.symm
  · obtain rfl := Option.some.inj (gathers.isManifest.symm.trans isManifest)
    rw [gathers.notEmpty] at isEmpty
    cases isEmpty

theorem build_withHooks (passed : ¬ Detected gathered.assetVariants (hooks.map (HookAsset.asset paths)))
    (notGenerated : ∀ hook ∈ hooks, hook.path paths ∉ generatedKeys project) :
    ∃ entries, build tools (project.withHooks paths hooks) (fun _ => none) = .ok entries := by
  obtain ⟨accepts, -⟩ := sources_of_built (gathers.plan_withHooks [] not_detected_nil) built
  have follows : Follows tools _ (build tools (project.withHooks paths hooks) fun _ => none) (fun _ => none) :=
    follows_plan (gathers.plan_withHooks hooks passed)
  obtain ⟨entries, succeeded, -⟩ := follows.ok fun zipped => by
    have generated : kNoticeZippedFile ∈ generatedKeys project := by
      by_contra other
      rw [Option.isSome_iff_ne_none] at zipped
      exact zipped (lookup_generatedFor_eq_none.mpr other)
    have noHook : valuesOf kNoticeZippedFile (hookEntries paths tools hooks) = [] := by
      refine List.eq_nil_iff_forall_not_mem.mpr fun entry inside => ?_
      obtain ⟨hook, isHook, isPath, -⟩ := mem_hookEntries.mp inside
      exact notGenerated hook isHook (isPath ▸ generated)
    intro entry isEntry
    refine accepts ?_ entry ?_
    · rw [Option.isSome_iff_ne_none]
      exact fun absent => lookup_generatedFor_eq_none.mp absent generated
    · rw [← isEntry, Plan.fileEntry, Plan.fileEntry, Plan.assetsOf, Plan.assetsOf, Lib.valuesOf_append,
        Lib.valuesOf_append, noHook]
      rfl
  exact ⟨entries, succeeded⟩

theorem reportsClashes (distinguished : Distinguished paths tools project hooks) :
    ReportsClashes paths tools project hooks alone := by
  refine ⟨fun clash entries => ?_, fun apart => ?_⟩
  · have detected := distinguished.seen clash
    rw [gathers.pubspecs_eq] at detected
    exact gathers.build_detected detected
  · have passed := distinguished.unseen apart
    have own := distinguished.apart apart
    rw [gathers.pubspecs_eq] at passed
    obtain ⟨entries, succeeded⟩ := gathers.build_withHooks built passed fun hook inside =>
      (own hook inside).notGenerated
    refine ⟨entries, succeeded, fun hook inside => ?_, fun asset declared file before => ?_⟩
    · have value : hook.entry paths tools ∈ valuesOf (hook.path paths) (hookEntries paths tools hooks) :=
        mem_hookEntries.mpr ⟨hook, inside, rfl, rfl⟩
      obtain ⟨first, rest, values⟩ := List.exists_cons_of_ne_nil (List.ne_nil_of_mem value)
      obtain ⟨entry, isEntry⟩ := Option.isSome_iff_exists.mp (Lib.keepAll_isSome Entry.transformers first rest
        (pubspecEntry paths tools project (hook.path paths)))
      rw [← values] at isEntry
      rw [gathers.sourceOf_kept passed succeeded (own hook inside).notGenerated isEntry]
      -- the entry is one of the pubspecs, or of a hook asset of the same path
      obtain isPubspec | isHook := Lib.mem_of_keepAll isEntry
      · rw [(own hook inside).pubspecs entry isPubspec]
        rfl
      · obtain ⟨other, isOther, same, rfl⟩ := mem_hookEntries.mp isHook
        exact congrArg (fun file => some (Source.file file)) ((own hook inside).hooks other isOther same)
    · have notGenerated : asset.entryUri.path ∉ generatedKeys project := by
        intro generated
        exact gathers.sourceOf_generated not_detected_nil built generated file before
      obtain ⟨first, isFirst⟩ := pubspecEntry_isSome declared
      rw [gathers.sourceOf_alone built notGenerated isFirst] at before
      obtain ⟨entry, isEntry⟩ := Option.isSome_iff_exists.mp (Lib.keepAll_some_isSome Entry.transformers
        (valuesOf asset.entryUri.path (hookEntries paths tools hooks)) first)
      rw [gathers.sourceOf_kept passed succeeded notGenerated (isFirst ▸ isEntry), ← before]
      -- a hook asset that has replaced the entry has its file
      obtain same | isHook := Lib.mem_of_keepAll isEntry
      · rw [Option.some.inj same]
      · obtain ⟨hook, inside, isPath, rfl⟩ := mem_hookEntries.mp isHook
        rw [(own hook inside).pubspecs first (isPath ▸ isFirst)]
        rfl

end Gathers

/-! ### Empty pubspecs -/

omit [DecidableEq Transformer] in
theorem not_clash_nil : ¬ Clash paths tools project [] := by
  simp [Clash]

theorem distinguished_nil : Distinguished paths tools project [] where
  seen clash := absurd clash not_clash_nil
  unseen _ := not_detected_nil
  apart _ _ inside := absurd inside List.not_mem_nil
  empty _ _ _ := rfl

include built in
theorem reportsClashes_nil : ReportsClashes paths tools project [] alone where
  reported clash := absurd clash not_clash_nil
  bundled _ := ⟨alone, built, fun _ inside => absurd inside List.not_mem_nil, fun _ _ _ same => same⟩

omit [DecidableEq Transformer] in
theorem sourceOf_set_ne_file {other : String} {content : Content File} {raw : List UInt8}
    (isBytes : content.source tools = .bytes raw)
    (noFile : ∀ key file, sourceOf tools (entries key) ≠ some (.file file)) (key : String) (file : File) :
    sourceOf tools (set entries other ⟨content, .regular, []⟩ key) ≠ some (.file file) := by
  by_cases same : key = other
  · simp [same, set, sourceOf, isBytes]
  · rw [set, Function.update_of_ne same]
    exact noFile key file

variable (tools project) in
omit [DecidableEq Transformer] in
theorem sourceOf_buildEmpty (key : String) (file : File) :
    sourceOf tools (buildEmpty project (fun _ => none) key : Option (Entry File Transformer)) ≠ some (.file file) := by
  have noFile : ∀ key file, sourceOf tools
      ((fun _ => none : Entries File Transformer) key) ≠ some (.file file) := fun _ _ => by simp [sourceOf]
  unfold buildEmpty
  split
  · exact sourceOf_set_ne_file rfl (sourceOf_set_ne_file rfl noFile) key file
  · exact sourceOf_set_ne_file rfl noFile key file

include built in
theorem gathers_of_built : ∃ manifest, project.manifest = some manifest ∧
    (manifest.isEmpty = true ∨
      ∃ gathered combinedLicenses, Gathers paths tools project manifest gathered combinedLicenses) := by
  cases planned : (project.withHooks paths []).plan tools with
  | none =>
    obtain ⟨error, failed⟩ := error_of_plan_none (fun _ => none) planned
    rw [built] at failed
    cases failed
  | some plan =>
    obtain ⟨manifest, isManifest, ⟨isEmpty, -⟩ |
      ⟨notEmpty, gathered, combinedLicenses, isGathered, present, deferred, licenses, -⟩⟩ := plan_cases planned
    · exact ⟨manifest, isManifest, .inl isEmpty⟩
    · exact ⟨manifest, isManifest, .inr ⟨gathered, combinedLicenses, isManifest, notEmpty, isGathered, present,
        deferred, licenses⟩⟩

include built in
/-- Clashes are reported and everything else is bundled, exactly when assets are equal just when
    their paths are. -/
theorem reportsClashes_iff_distinguished :
    ReportsClashes paths tools project hooks alone ↔ Distinguished paths tools project hooks := by
  obtain ⟨manifest, isManifest, isEmpty | ⟨gathered, combinedLicenses, gathers⟩⟩ := gathers_of_built built
  · have succeeds : ∀ entries, build tools (project.withHooks paths hooks) entries =
        .ok (buildEmpty (project.withHooks paths hooks) entries) := by
      intro entries
      have isManifest : (project.withHooks paths hooks).manifest = some manifest := isManifest
      simp only [build, isManifest, isEmpty, if_true]
    constructor
    · intro reports
      have apart : ¬ Clash paths tools project hooks := by
        intro clash
        have failed := reports.reported clash fun _ => none
        rw [succeeds] at failed
        cases failed
      obtain ⟨entries, succeeded, bundled, -⟩ := reports.bundled apart
      rw [succeeds] at succeeded
      obtain rfl := Except.ok.inj succeeded
      cases hooks with
      | nil => exact distinguished_nil
      | cons hook hooks => exact absurd (bundled hook List.mem_cons_self) (sourceOf_buildEmpty tools _ _ _)
    · intro distinguished
      obtain rfl := distinguished.empty manifest isManifest isEmpty
      exact reportsClashes_nil built
  · exact ⟨gathers.distinguished built, gathers.reportsClashes built⟩

end Iff

end Builds

/-! ## A package with an asset and a hook -/

/-- The asset of a package in `/p`. -/
def packageAsset (name : String) : Asset Unit := ⟨"/p", name, ⟨"packages/p/" ++ name, ""⟩, .regular, ∅, ∅, []⟩

def projectDependingOn (name : String) : Project String Unit Unit :=
  { projectWith [] with
    dependencies := [⟨"p", false, true, true,
      some ⟨false, "p", false, some [(packageAsset name, [packageAsset name])], [], []⟩⟩] }

def hookPaths (dirname basename : String) : HookPaths where
  dirname _ := dirname
  basenameUri _ := basename
  entryUri package name := ⟨"packages/" ++ package ++ "/" ++ name, ""⟩

/-- The asset lies in the directory of the package, and so does the file of the hook. -/
theorem reportsClashes_iff_distinguished_same_directory : ∃ alone,
    ReportsClashes (hookPaths "/p" "foo.txt") plainTools (projectDependingOn "foo.txt")
      [⟨"p", "foo.txt", "/p/foo.txt"⟩] alone := by
  have built : ∃ alone, build plainTools ((projectDependingOn "foo.txt").withHooks (hookPaths "/p" "foo.txt") [])
      (fun _ => none) = .ok alone := ⟨_, rfl⟩
  obtain ⟨alone, built⟩ := built
  have clash : Clash (hookPaths "/p" "foo.txt") plainTools (projectDependingOn "foo.txt")
      [⟨"p", "foo.txt", "/p/foo.txt"⟩] :=
    ⟨_, List.mem_cons_self, packageAsset "foo.txt", List.mem_cons_self, rfl⟩
  refine ⟨alone, (reportsClashes_iff_distinguished built).mpr {
    seen := fun _ => .inl ⟨_, List.mem_cons_self, rfl⟩
    unseen := fun apart => absurd clash apart
    apart := fun apart => absurd clash apart
    empty := fun manifest isManifest isEmpty => ?_ }⟩
  cases isManifest
  cases isEmpty

/-- The same package, when its hook writes to another directory. -/
theorem not_reportsClashes_other_directory : ¬ ∀ (paths : HookPaths) (project : Project String Unit Unit)
    (hooks : List HookAsset) (alone : Entries String Unit),
    build plainTools (project.withHooks paths []) (fun _ => none) = .ok alone →
      ReportsClashes paths plainTools project hooks alone := by
  intro always
  let paths := hookPaths "/p/build" "foo.txt"
  let hook : HookAsset := ⟨"p", "foo.txt", "/p/build/foo.txt"⟩
  have built : ∃ alone, build plainTools ((projectDependingOn "foo.txt").withHooks paths []) (fun _ => none) =
      .ok alone := ⟨_, rfl⟩
  obtain ⟨alone, built⟩ := built
  have clash : Clash paths plainTools (projectDependingOn "foo.txt") [hook] :=
    ⟨hook, List.mem_cons_self, packageAsset "foo.txt", List.mem_cons_self, rfl⟩
  have failed := (always paths (projectDependingOn "foo.txt") [hook] alone built).reported clash fun _ => none
  have succeeded : ∃ entries, build plainTools ((projectDependingOn "foo.txt").withHooks paths [hook])
      (fun _ => none) = .ok entries := ⟨_, rfl⟩
  obtain ⟨entries, succeeded⟩ := succeeded
  rw [succeeded] at failed
  cases failed

end FlutterZero.FlutterTools.AssetBundle
