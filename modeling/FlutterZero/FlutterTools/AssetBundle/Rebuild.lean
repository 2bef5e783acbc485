import FlutterZero.FlutterTools.AssetBundle
import FlutterZero.Lib.KeyedUpdates

/-! # Builds after other builds

The entries of a bundle are never removed, and an entry of the same transformers is not
set again.

* `Plan` — what a build is going to set;
* `build_source` — the source behind each key after a build, from what was there before;
* `Unaffected` — nothing of the earlier builds is left over;
* `sameAsFresh_iff_unaffected` — exactly then the entries are those of a new bundle;
* `not_sameAsFresh_removed_asset` — an asset that was removed from the pubspec stays.
-/

namespace FlutterZero.FlutterTools.AssetBundle

open Lib (applyAt applyAll valuesOf keep keepAll)

variable {File Transformer Font : Type}
  (tools : Tools File Transformer Font) (project : Project File Transformer Font)

/-! ## Sources -/

inductive Source (File : Type) where
  | file (file : File)
  | bytes (raw : List UInt8)
deriving DecidableEq, Repr

def Content.source : Content File → Source File
  | .file path => .file path
  | .bytes raw => .bytes raw
  | .string text => .bytes text.toUTF8.data.toList
  | .compressing text => .bytes (tools.compress text.toUTF8.data.toList)

def sourceOf (entry : Option (Entry File Transformer)) : Option (Source File) := entry.map (·.content.source tools)

/-! ## Plans -/

structure Plan (File Transformer : Type) where
  assets : List (String × Entry File Transformer)
  materials : List (String × Entry File Transformer)
  generated : List (String × Content File)

def generatedFor (gathered : Gathered File Transformer Font) (combinedLicenses : String) :
    List (String × Content File) :=
  let complete := fun (variants : Variants Transformer) =>
    variants.map fun entry => (entry.1, withMain tools project entry)
  let assetManifestBinary := tools.createAssetManifestBinary (complete gathered.assetVariants)
    (gathered.deferredComponents.map fun component => (component.1, complete component.2))
  let fonts : Content File := .string (tools.encodeFonts gathered.fonts)
  if project.isWeb then
    [(kAssetManifestBinFilename, .bytes assetManifestBinary),
      (kAssetManifestBinJsonFilename, .string (tools.encodeBase64 assetManifestBinary)),
      (kFontManifestJson, fonts), (kNoticeFile, .string combinedLicenses)]
  else
    [(kAssetManifestBinFilename, .bytes assetManifestBinary), (kFontManifestJson, fonts),
      (kNoticeZippedFile, .compressing combinedLicenses)]

def emptyGenerated : List (String × Content File) :=
  (kAssetManifestBinFilename, .bytes [13, 0]) ::
    if project.isWeb then [(kAssetManifestBinJsonFilename, .string "\"\"")] else []

/-- The entries of the assets of the project and its dependencies, in the order in which they are set. -/
def assetEntries (variants : Variants Transformer) : List (String × Entry File Transformer) :=
  variants.flatMap fun entry =>
    (withMain tools project entry).map fun asset => (asset.entryUri.path, asset.entry tools)

def materialEntries (manifest : Manifest File Transformer Font) : List (String × Entry File Transformer) :=
  (materialAssets tools project manifest).map fun asset => (asset.entryUri.path, asset.entry tools)

/-- Without looking at the entries; none if the build fails in any case. -/
def Project.plan : Option (Plan File Transformer) :=
  match project.manifest with
  | none => none
  | some manifest =>
    if manifest.isEmpty then some ⟨[], [], emptyGenerated project⟩
    else match project.gather tools manifest with
      | .error _ => none
      | .ok gathered =>
        if gathered.assetVariants.any (Missing tools project) ||
            gathered.deferredComponents.any fun component => component.2.any (Missing tools project) then none
        else (project.obtainLicenses gathered.additionalLicenseFiles).map fun combinedLicenses =>
          ⟨assetEntries tools project gathered.assetVariants, materialEntries tools project manifest,
            generatedFor tools project gathered combinedLicenses⟩

variable [DecidableEq Transformer]

/-- A new bundle can be built, and it has the same keys with the same sources. -/
def SameAsFresh (entries : Entries File Transformer) : Prop :=
  ∃ fresh, build tools project (fun _ => none) = .ok fresh ∧
    ∀ key, sourceOf tools (entries key) = sourceOf tools (fresh key)

namespace Plan

variable (plan : Plan File Transformer)

def assetsOf (key : String) : List (Entry File Transformer) := valuesOf key plan.assets

def materialsOf (key : String) : List (Entry File Transformer) := valuesOf key plan.materials

def fileEntry (key : String) (before : Option (Entry File Transformer)) : Option (Entry File Transformer) :=
  (plan.materialsOf key).foldl (fun current entry => current.or (some entry))
    (keepAll Entry.transformers (plan.assetsOf key) before)

def Accepts (entries : Entries File Transformer) : Prop :=
  (plan.generated.lookup kNoticeZippedFile).isSome = true →
    ∀ entry, plan.fileEntry kNoticeZippedFile (entries kNoticeZippedFile) = some entry →
      ∃ text, entry.content = .compressing text

def sourceAfter (entries : Entries File Transformer) (key : String) : Option (Source File) :=
  match plan.generated.lookup key with
  | some content => some (content.source tools)
  | none => sourceOf tools (plan.fileEntry key (entries key))

end Plan

/-! ## The rules of setting -/

section Rules

variable {entries : Entries File Transformer} {key other : String} {entry : Entry File Transformer}
  {content : Content File}

theorem setIfConfigurationChanged_eq :
    setIfConfigurationChanged entries key entry = applyAt entries (key, keep Entry.transformers entry) := by
  unfold setIfConfigurationChanged applyAt keep
  cases found : entries key with
  | none => rfl
  | some existing =>
    simp only [Entry.hasEquivalentConfigurationWith, decide_eq_true_eq]
    split
    · rw [← found, Function.update_eq_self]
    · rfl

omit [DecidableEq Transformer] in
theorem setIfAbsent_eq :
    setIfAbsent entries key entry = applyAt entries (key, fun current => current.or (some entry)) := by
  unfold setIfAbsent applyAt
  cases found : entries key with
  | none => rfl
  | some existing =>
    show entries = Function.update entries key (some existing)
    rw [← found, Function.update_eq_self]

omit [DecidableEq Transformer] in
theorem setIfChanged_cases (entries : Entries File Transformer) (key : String) (content : Content File) :
    setIfChanged entries key content = set entries key ⟨content, .regular, []⟩ ∨
      setIfChanged entries key content = entries ∧ ∃ raw old, content.byteContent? = some raw ∧
        entries key = some old ∧ old.content.byteContent? = some raw := by
  unfold setIfChanged
  split
  next old new isOld isNew =>
    split
    next same =>
      obtain ⟨entry, found, isOld⟩ := Option.bind_eq_some_iff.mp isOld
      exact .inr ⟨rfl, new, entry, isNew, found, same ▸ isOld⟩
    next => exact .inl rfl
  next => exact .inl rfl

omit [DecidableEq Transformer] in
theorem setIfChanged_of_ne (different : other ≠ key) : setIfChanged entries key content other = entries other := by
  obtain changed | ⟨unchanged, -⟩ := setIfChanged_cases entries key content
  · rw [changed, set, Function.update_of_ne different]
  · rw [unchanged]

omit [DecidableEq Transformer] in
theorem source_of_byteContent {raw : List UInt8} (isBytes : content.byteContent? = some raw) :
    content.source tools = .bytes raw := by
  cases content with
  | bytes | string => simpa [Content.byteContent?, Content.source] using isBytes
  | file | compressing => cases isBytes

omit [DecidableEq Transformer] in
theorem sourceOf_setIfChanged :
    sourceOf tools (setIfChanged entries key content key) = some (content.source tools) := by
  obtain changed | ⟨unchanged, raw, old, isNew, found, isOld⟩ :=
    setIfChanged_cases entries key content
  · simp [changed, set, sourceOf]
  · rw [unchanged, sourceOf, found, Option.map_some, source_of_byteContent tools isOld,
      source_of_byteContent tools isNew]

def generate (contents : List (String × Content File)) (entries : Entries File Transformer) :
    Entries File Transformer :=
  contents.foldl (fun entries content => setIfChanged entries content.1 content.2) entries

omit [DecidableEq Transformer] in
theorem generate_of_lookup_none {contents : List (String × Content File)} (absent : contents.lookup key = none) :
    generate contents entries key = entries key := by
  induction contents generalizing entries with
  | nil => rfl
  | cons content contents ih =>
    obtain ⟨name, content⟩ := content
    rw [List.lookup_cons] at absent
    cases same : key == name with
    | true => simp [same] at absent
    | false =>
      simp only [same] at absent
      rw [generate, List.foldl_cons, ← generate, ih absent]
      exact setIfChanged_of_ne (by simpa using same)

omit [DecidableEq Transformer] in
theorem sourceOf_generate {contents : List (String × Content File)} (distinct : (contents.map Prod.fst).Nodup)
    (found : contents.lookup key = some content) :
    sourceOf tools (generate contents entries key) = some (content.source tools) := by
  induction contents generalizing entries with
  | nil => cases found
  | cons first contents ih =>
    obtain ⟨name, first⟩ := first
    rw [List.map_cons, List.nodup_cons] at distinct
    rw [List.lookup_cons] at found
    rw [generate, List.foldl_cons, ← generate]
    cases same : key == name with
    | true =>
      obtain rfl : key = name := by simpa using same
      simp only [same, Option.some.injEq] at found
      subst found
      -- no other content is set for the key
      have absent : contents.lookup key = none := by
        rw [List.lookup_eq_none_iff]
        intro other inside
        rw [bne_iff_ne]
        rintro rfl
        exact distinct.1 (List.mem_map.mpr ⟨other, inside, rfl⟩)
      rw [generate_of_lookup_none absent]
      exact sourceOf_setIfChanged tools
    | false =>
      simp only [same] at found
      exact ih distinct.2 found

end Rules

/-! ## Builds and plans -/

section Builds

variable {tools project} {entries : Entries File Transformer} {variants : Variants Transformer}

def assetChanges (assets : List (String × Entry File Transformer)) :
    List (String × (Option (Entry File Transformer) → Option (Entry File Transformer))) :=
  assets.map fun asset => (asset.1, keep Entry.transformers asset.2)

def materialChanges (materials : List (String × Entry File Transformer)) :
    List (String × (Option (Entry File Transformer) → Option (Entry File Transformer))) :=
  materials.map fun material => (material.1, fun current => current.or (some material.2))

theorem setVariants_of_not_missing {variants : Asset Transformer × List (Asset Transformer)}
    (present : Missing tools project variants = false) :
    setVariants tools project entries variants =
      .ok (applyAll (assetChanges ((withMain tools project variants).map fun asset =>
        (asset.entryUri.path, asset.entry tools))) entries) := by
  simp only [setVariants, present, Bool.false_eq_true, if_false, applyAll, assetChanges, List.foldl_map,
    setIfConfigurationChanged_eq]

theorem foldlM_setVariants (present : variants.any (Missing tools project) = false) :
    variants.foldlM (setVariants tools project) entries =
      .ok (applyAll (assetChanges (assetEntries tools project variants)) entries) := by
  induction variants generalizing entries with
  | nil => rfl
  | cons first variants ih =>
    rw [List.any_cons, Bool.or_eq_false_iff] at present
    rw [List.foldlM_cons, setVariants_of_not_missing present.1, Lib.ok_bind, ih present.2]
    simp [assetEntries, assetChanges, applyAll]

theorem foldlM_setVariants_missing (entries : Entries File Transformer)
    (missing : variants.any (Missing tools project) = true) :
    ∃ error, variants.foldlM (setVariants tools project) entries = .error error := by
  induction variants generalizing entries with
  | nil => cases missing
  | cons first variants ih =>
    rw [List.foldlM_cons]
    cases isMissing : Missing tools project first with
    | true => exact ⟨(.missing first.1.entryUri.path, entries), by simp [setVariants, isMissing]⟩
    | false =>
      rw [setVariants_of_not_missing isMissing, Lib.ok_bind]
      exact ih _ (by simpa [isMissing] using missing)

theorem forM_eq_ok {α ε : Type} {check : α → Except ε Unit} {items : List α}
    (passed : ∀ item ∈ items, check item = .ok ()) : items.forM check = .ok () := by
  induction items with
  | nil => rfl
  | cons item items ih =>
    rw [List.forall_mem_cons] at passed
    simp only [List.forM, passed.1, Lib.ok_bind]
    exact ih passed.2

theorem forM_eq_error {α ε : Type} {check : α → Except ε Unit} {items : List α}
    (failed : ∃ item ∈ items, ∃ error, check item = .error error) : ∃ error, items.forM check = .error error := by
  induction items with
  | nil => simp at failed
  | cons item items ih =>
    simp only [List.forM]
    cases checked : check item with
    | error error => exact ⟨error, rfl⟩
    | ok passed =>
      simp only [Lib.ok_bind]
      exact ih (by simpa [checked] using failed)

omit [DecidableEq Transformer] in
theorem checkDeferred_of_not_any {components : List (String × Variants Transformer)}
    (present : (components.any fun component => component.2.any (Missing tools project)) = false) :
    (components.forM fun component => component.2.forM (checkDeferred tools project entries)) = .ok () := by
  simp only [List.any_eq_false, Bool.not_eq_true] at present
  refine forM_eq_ok fun component inside => forM_eq_ok fun variants variant => ?_
  simp [checkDeferred, present component inside variants variant]

omit [DecidableEq Transformer] in
theorem checkDeferred_of_any (entries : Entries File Transformer) {components : List (String × Variants Transformer)}
    (missing : (components.any fun component => component.2.any (Missing tools project)) = true) :
    ∃ error, (components.forM fun component => component.2.forM (checkDeferred tools project entries)) =
      .error error := by
  simp only [List.any_eq_true] at missing
  obtain ⟨component, inside, variants, variant, missing⟩ := missing
  refine forM_eq_error ⟨component, inside, forM_eq_error ⟨variants, variant, ?_⟩⟩
  exact ⟨(.missing variants.1.entryUri.path, entries), by simp [checkDeferred, missing]⟩

omit [DecidableEq Transformer] in
theorem foldl_setIfAbsent (assets : List (Asset Transformer)) :
    assets.foldl (fun entries asset => setIfAbsent entries asset.entryUri.path (asset.entry tools)) entries =
      applyAll (materialChanges (assets.map fun asset => (asset.entryUri.path, asset.entry tools))) entries := by
  simp only [applyAll, materialChanges, List.foldl_map, setIfAbsent_eq]

theorem applyAll_fileEntry (plan : Plan File Transformer) (key : String) :
    applyAll (materialChanges plan.materials) (applyAll (assetChanges plan.assets) entries) key =
      plan.fileEntry key (entries key) := by
  rw [Lib.applyAll_apply, Lib.applyAll_apply, materialChanges, assetChanges, Lib.valuesOf_map,
    Lib.valuesOf_map (fun entry (current : Option (Entry File Transformer)) => current.or (some entry)),
    List.foldl_map, List.foldl_map]
  rfl

omit [DecidableEq Transformer] in
theorem generatedFor_distinct (gathered : Gathered File Transformer Font) (combinedLicenses : String) :
    ((generatedFor tools project gathered combinedLicenses).map Prod.fst).Nodup := by
  unfold generatedFor
  split
  · simp [kAssetManifestBinFilename, kAssetManifestBinJsonFilename, kFontManifestJson, kNoticeFile]
  · simp [kAssetManifestBinFilename, kFontManifestJson, kNoticeZippedFile]

theorem sourceOf_generate_fileEntry (plan : Plan File Transformer) (distinct : (plan.generated.map Prod.fst).Nodup)
    (key : String) :
    sourceOf tools (generate plan.generated
      (applyAll (materialChanges plan.materials) (applyAll (assetChanges plan.assets) entries)) key) =
        plan.sourceAfter tools entries key := by
  unfold Plan.sourceAfter
  cases found : plan.generated.lookup key with
  | some content => exact sourceOf_generate tools distinct found
  | none => rw [generate_of_lookup_none found, applyAll_fileEntry]

/-- The notices can be set where there are none, or notices of an earlier build. -/
def AcceptsNotices (entry : Option (Entry File Transformer)) : Prop :=
  ∀ found, entry = some found → ∃ text, found.content = .compressing text

variable {combinedLicenses : String}

variable (tools) in
omit [DecidableEq Transformer] in
theorem setLicenseIfChanged_ok (accepts : AcceptsNotices (entries kNoticeZippedFile)) :
    ∃ entries', setLicenseIfChanged entries combinedLicenses false = .ok entries' ∧ ∀ key,
      sourceOf tools (entries' key) =
        sourceOf tools (setIfChanged entries kNoticeZippedFile (.compressing combinedLicenses) key) := by
  have changed : setIfChanged entries kNoticeZippedFile (.compressing combinedLicenses) =
      set entries kNoticeZippedFile ⟨.compressing combinedLicenses, .regular, []⟩ := by
    simp [setIfChanged, Content.byteContent?]
  rw [changed]
  cases found : entries kNoticeZippedFile with
  | none => exact ⟨_, by simp [setLicenseIfChanged, found], fun _ => rfl⟩
  | some entry =>
    obtain ⟨text, isText⟩ := accepts entry found
    by_cases same : text = combinedLicenses
    · -- the notices are kept, with the same text
      refine ⟨entries, by simp [setLicenseIfChanged, found, isText, same], fun key => ?_⟩
      by_cases zipped : key = kNoticeZippedFile
      · simp [zipped, set, sourceOf, found, isText, same]
      · simp [set, zipped]
    · exact ⟨_, by simp [setLicenseIfChanged, found, isText, same], fun _ => rfl⟩

omit [DecidableEq Transformer] in
theorem setLicenseIfChanged_error (refuses : ¬ AcceptsNotices (entries kNoticeZippedFile)) :
    ∃ error, setLicenseIfChanged entries combinedLicenses false = .error error := by
  simp only [AcceptsNotices, not_forall, not_exists] at refuses
  obtain ⟨entry, found, other⟩ := refuses
  refine ⟨(.typeError, entries), ?_⟩
  simp only [setLicenseIfChanged, found, Bool.false_eq_true, if_false]

omit [DecidableEq Transformer] in
theorem setLicenseIfChanged_ne_conflicting {isWeb : Bool} {later : Entries File Transformer} :
    setLicenseIfChanged entries combinedLicenses isWeb ≠ .error (.conflicting, later) := by
  unfold setLicenseIfChanged
  split
  · simp
  · split
    · simp
    · split <;> simp

variable (tools project entries) in
omit [DecidableEq Transformer] in
theorem setManifests_eq (gathered : Gathered File Transformer Font) (combinedLicenses : String) :
    (project.isWeb = true → setLicenseIfChanged (setManifests tools project entries gathered) combinedLicenses true =
      .ok (generate (generatedFor tools project gathered combinedLicenses) entries)) ∧
    (project.isWeb = false →
      setIfChanged (setManifests tools project entries gathered) kNoticeZippedFile (.compressing combinedLicenses) =
        generate (generatedFor tools project gathered combinedLicenses) entries ∧
      setManifests tools project entries gathered kNoticeZippedFile = entries kNoticeZippedFile) := by
  refine ⟨fun isWeb => ?_, fun isWeb => ⟨?_, ?_⟩⟩
  · simp [setLicenseIfChanged, setManifests, generatedFor, generate, isWeb]
  · simp [setManifests, generatedFor, generate, isWeb]
  · simp only [setManifests, isWeb, Bool.false_eq_true, if_false]
    rw [setIfChanged_of_ne (by simp [kNoticeZippedFile, kFontManifestJson]),
      setIfChanged_of_ne (by simp [kNoticeZippedFile, kAssetManifestBinFilename])]

variable (tools) in
structure Follows (plan : Plan File Transformer)
    (built : Except (BuildError × Entries File Transformer) (Entries File Transformer))
    (entries : Entries File Transformer) : Prop where
  ok : plan.Accepts entries → ∃ entries', built = .ok entries' ∧
    ∀ key, sourceOf tools (entries' key) = plan.sourceAfter tools entries key
  error : ¬ plan.Accepts entries → ∃ error, built = .error error

theorem fileEntry_nil {generated : List (String × Content File)} (key : String)
    (before : Option (Entry File Transformer)) : Plan.fileEntry ⟨[], [], generated⟩ key before = before := rfl

theorem follows_empty : Follows tools ⟨[], [], emptyGenerated project⟩ (.ok (buildEmpty project entries)) entries := by
  have accepts : Plan.Accepts ⟨[], [], emptyGenerated project⟩ entries := by
    -- there are no notices
    intro zipped
    unfold emptyGenerated at zipped
    split at zipped <;> simp [List.lookup_cons, kNoticeZippedFile, kAssetManifestBinFilename,
      kAssetManifestBinJsonFilename] at zipped
  refine ⟨fun _ => ⟨_, rfl, fun key => ?_⟩, fun refused => absurd accepts refused⟩
  unfold Plan.sourceAfter buildEmpty emptyGenerated
  by_cases manifest : key = kAssetManifestBinFilename
  · subst manifest
    split <;> simp [sourceOf, set, kAssetManifestBinFilename, kAssetManifestBinJsonFilename]
  · have other : (key == kAssetManifestBinFilename) = false := by simpa using manifest
    rw [List.lookup_cons, other]
    split
    next isWeb =>
      by_cases json : key = kAssetManifestBinJsonFilename
      · simp [json, sourceOf, set]
      · have other : (key == kAssetManifestBinJsonFilename) = false := by simpa using json
        simp [List.lookup_cons, other, set, manifest, json, fileEntry_nil]
    next => simp [set, manifest, fileEntry_nil]

theorem follows_gathered (manifest : Manifest File Transformer Font) (gathered : Gathered File Transformer Font)
    (combinedLicenses : String) :
    let plan : Plan File Transformer := ⟨assetEntries tools project gathered.assetVariants,
      materialEntries tools project manifest, generatedFor tools project gathered combinedLicenses⟩
    let files := applyAll (materialChanges plan.materials) (applyAll (assetChanges plan.assets) entries)
    Follows tools plan
      (setLicenseIfChanged (setManifests tools project files gathered) combinedLicenses project.isWeb) entries := by
  intro plan files
  have distinct : (plan.generated.map Prod.fst).Nodup := generatedFor_distinct gathered combinedLicenses
  have sources : ∀ key, sourceOf tools (generate plan.generated files key) = plan.sourceAfter tools entries key :=
    sourceOf_generate_fileEntry plan distinct
  obtain ⟨web, zipped⟩ := setManifests_eq tools project files gathered combinedLicenses
  cases isWeb : project.isWeb with
  | true =>
    have accepts : plan.Accepts entries := by
      intro found
      simp [plan, generatedFor, isWeb, List.lookup_cons, kNoticeZippedFile, kAssetManifestBinFilename,
        kAssetManifestBinJsonFilename, kFontManifestJson, kNoticeFile] at found
    exact ⟨fun _ => ⟨_, web isWeb, sources⟩, fun refused => absurd accepts refused⟩
  | false =>
    obtain ⟨generated, notices⟩ := zipped isWeb
    have before : files kNoticeZippedFile = plan.fileEntry kNoticeZippedFile (entries kNoticeZippedFile) :=
      applyAll_fileEntry plan kNoticeZippedFile
    have accepts_iff : plan.Accepts entries ↔
        AcceptsNotices (setManifests tools project files gathered kNoticeZippedFile) := by
      rw [notices, before]
      refine ⟨fun accepts found isEntry => accepts ?_ found isEntry, fun accepts _ => accepts⟩
      simp [plan, generatedFor, isWeb, List.lookup_cons, kNoticeZippedFile, kAssetManifestBinFilename,
        kFontManifestJson]
    refine ⟨fun accepts => ?_, fun refused => ?_⟩
    · obtain ⟨entries', set, same⟩ := setLicenseIfChanged_ok tools (accepts_iff.mp accepts)
      refine ⟨entries', set, fun key => ?_⟩
      rw [same key, generated]
      exact sources key
    · exact setLicenseIfChanged_error fun accepts => refused (accepts_iff.mpr accepts)

omit [DecidableEq Transformer] in
theorem plan_cases {plan : Plan File Transformer} (planned : project.plan tools = some plan) :
    ∃ manifest, project.manifest = some manifest ∧
      (manifest.isEmpty = true ∧ plan = ⟨[], [], emptyGenerated project⟩ ∨
        manifest.isEmpty = false ∧ ∃ gathered combinedLicenses, project.gather tools manifest = .ok gathered ∧
          gathered.assetVariants.any (Missing tools project) = false ∧
          (gathered.deferredComponents.any fun component => component.2.any (Missing tools project)) = false ∧
          project.obtainLicenses gathered.additionalLicenseFiles = some combinedLicenses ∧
          plan = ⟨assetEntries tools project gathered.assetVariants, materialEntries tools project manifest,
            generatedFor tools project gathered combinedLicenses⟩) := by
  unfold Project.plan at planned
  split at planned
  next => cases planned
  next manifest isManifest =>
    refine ⟨manifest, isManifest, ?_⟩
    split at planned
    next isEmpty =>
      cases planned
      exact .inl ⟨isEmpty, rfl⟩
    next notEmpty =>
      split at planned
      next => cases planned
      next gathered isGathered =>
        split at planned
        next => cases planned
        next present =>
          obtain ⟨combinedLicenses, licenses, rfl⟩ := Option.map_eq_some_iff.mp planned
          simp only [Bool.or_eq_true, not_or, Bool.not_eq_true] at present
          exact .inr ⟨Bool.not_eq_true _ ▸ notEmpty, gathered, combinedLicenses, isGathered, present.1, present.2,
            licenses, rfl⟩

section Gathered

variable {manifest : Manifest File Transformer Font} {gathered : Gathered File Transformer Font}
  {combinedLicenses : String} (isManifest : project.manifest = some manifest) (notEmpty : manifest.isEmpty = false)
  (isGathered : project.gather tools manifest = .ok gathered)
  (present : gathered.assetVariants.any (Missing tools project) = false)
  (deferred : (gathered.deferredComponents.any fun component => component.2.any (Missing tools project)) = false)
  (licenses : project.obtainLicenses gathered.additionalLicenseFiles = some combinedLicenses)

include isManifest notEmpty isGathered present deferred licenses

omit [DecidableEq Transformer] in
theorem plan_of_gathered : project.plan tools =
    some ⟨assetEntries tools project gathered.assetVariants, materialEntries tools project manifest,
      generatedFor tools project gathered combinedLicenses⟩ := by
  simp only [Project.plan, isManifest, notEmpty, isGathered, present, deferred, licenses, Bool.or_self,
    Bool.false_eq_true, if_false, Option.map_some]

theorem build_of_gathered :
    build tools project entries =
      setLicenseIfChanged (setManifests tools project
        (applyAll (materialChanges (materialEntries tools project manifest))
          (applyAll (assetChanges (assetEntries tools project gathered.assetVariants)) entries)) gathered)
        combinedLicenses project.isWeb := by
  simp only [build, isManifest, notEmpty, isGathered, Except.mapError, Lib.ok_bind]
  rw [foldlM_setVariants present, Lib.ok_bind, checkDeferred_of_not_any deferred, Lib.ok_bind,
    foldl_setIfAbsent, licenses]
  rfl

end Gathered

theorem follows_plan {plan : Plan File Transformer} (planned : project.plan tools = some plan) :
    Follows tools plan (build tools project entries) entries := by
  obtain ⟨manifest, isManifest, ⟨isEmpty, rfl⟩ |
    ⟨notEmpty, gathered, combinedLicenses, isGathered, present, deferred, licenses, rfl⟩⟩ := plan_cases planned
  · simp only [build, isManifest, isEmpty, if_true]
    exact follows_empty
  · rw [build_of_gathered isManifest notEmpty isGathered present deferred licenses]
    exact follows_gathered manifest gathered combinedLicenses

theorem error_of_plan_none (entries : Entries File Transformer) (unplanned : project.plan tools = none) :
    ∃ error, build tools project entries = .error error := by
  unfold Project.plan at unplanned
  split at unplanned
  next isManifest => exact ⟨(.project, entries), by simp only [build, isManifest]⟩
  next manifest isManifest =>
    split at unplanned
    next => cases unplanned
    next notEmpty =>
      simp only [build, isManifest, notEmpty, Bool.false_eq_true, if_false]
      split at unplanned
      next error isGathered => exact ⟨(error, entries), by simp [isGathered, Except.mapError]⟩
      next gathered isGathered =>
        simp only [isGathered, Except.mapError, Lib.ok_bind]
        split at unplanned
        next missing =>
          -- an asset or a deferred asset is missing
          cases assets : gathered.assetVariants.any (Missing tools project) with
          | true =>
            obtain ⟨error, failed⟩ := foldlM_setVariants_missing entries assets
            exact ⟨error, by rw [failed, Lib.error_bind]⟩
          | false =>
            rw [foldlM_setVariants assets, Lib.ok_bind]
            rw [assets, Bool.false_or] at missing
            obtain ⟨error, failed⟩ := checkDeferred_of_any
              (applyAll (assetChanges (assetEntries tools project gathered.assetVariants)) entries) missing
            exact ⟨error, by rw [failed, Lib.error_bind]⟩
        next present =>
          rw [Option.map_eq_none_iff] at unplanned
          simp only [Bool.or_eq_true, not_or, Bool.not_eq_true] at present
          rw [foldlM_setVariants present.1, Lib.ok_bind, checkDeferred_of_not_any present.2, Lib.ok_bind, unplanned]
          exact ⟨_, rfl⟩

end Builds

/-! ## What is left over -/

namespace Plan

/-- Nothing of the entries before the build is left over. -/
structure Unaffected (plan : Plan File Transformer) (entries : Entries File Transformer) : Prop where
  /-- Every entry that is not generated belongs to an asset; if all assets of its key have its
      transformers, it has the source of the first of them. -/
  files : ∀ key entry, entries key = some entry → plan.generated.lookup key = none →
    ∃ first, (plan.assetsOf key ++ plan.materialsOf key).head? = some first ∧
      ((∀ asset ∈ plan.assetsOf key, asset.transformers = entry.transformers) →
        entry.content.source tools = first.content.source tools)
  notices : (plan.generated.lookup kNoticeZippedFile).isSome = true → plan.assetsOf kNoticeZippedFile = []

variable {tools} {plan : Plan File Transformer}

theorem sourceOf_fileEntry_iff {key : String} {entry : Entry File Transformer} :
    sourceOf tools (plan.fileEntry key (some entry)) = sourceOf tools (plan.fileEntry key none) ↔
      ∃ first, (plan.assetsOf key ++ plan.materialsOf key).head? = some first ∧
        ((∀ asset ∈ plan.assetsOf key, asset.transformers = entry.transformers) →
          entry.content.source tools = first.content.source tools) := by
  unfold fileEntry
  rw [Lib.foldl_orElse, Lib.foldl_orElse]
  cases assets : plan.assetsOf key with
  | nil =>
    cases materials : plan.materialsOf key with
    | nil => simp [sourceOf]
    | cons first rest => simp [sourceOf]
  | cons first rest =>
    obtain ⟨same, kept, fresh⟩ | ⟨changed, alike⟩ :=
      Lib.keepAll_cases Entry.transformers entry first rest
    · rw [kept, fresh]
      constructor
      · intro alike
        exact ⟨first, rfl, fun _ => by simpa [sourceOf] using alike⟩
      · rintro ⟨_, isFirst, alike⟩
        cases isFirst
        simp [sourceOf, alike same]
    · rw [alike]
      exact ⟨fun _ => ⟨first, rfl, fun same => absurd same changed⟩, fun _ => rfl⟩

end Plan

section Rebuild

variable {tools project} {entries entries' : Entries File Transformer} {plan : Plan File Transformer}

omit [DecidableEq Transformer] in
theorem entries_of_plan (planned : project.plan tools = some plan) :
    (plan.assets = [] ∧ plan.materials = []) ∨ ∃ variants manifest,
      plan.assets = assetEntries tools project variants ∧ plan.materials = materialEntries tools project manifest := by
  obtain ⟨manifest, -, ⟨-, rfl⟩ | ⟨-, gathered, combinedLicenses, -, -, -, -, rfl⟩⟩ := plan_cases planned
  · exact .inl ⟨rfl, rfl⟩
  · exact .inr ⟨gathered.assetVariants, manifest, rfl, rfl⟩

omit [DecidableEq Transformer] in
theorem materialsOf_notices (planned : project.plan tools = some plan) : plan.materialsOf kNoticeZippedFile = [] := by
  obtain ⟨-, none⟩ | ⟨variants, manifest, -, materials⟩ := entries_of_plan planned
  · simp [Plan.materialsOf, none]
  · refine List.eq_nil_iff_forall_not_mem.mpr fun entry inside => ?_
    rw [Plan.materialsOf, Lib.mem_valuesOf, materials] at inside
    unfold materialEntries materialAssets getMaterialFonts getMaterialShaders at inside
    split at inside <;> split at inside <;>
      simp [Asset.ofFramework, kNoticeZippedFile] at inside

omit [DecidableEq Transformer] in
theorem content_of_assetsOf (planned : project.plan tools = some plan) {key : String}
    {entry : Entry File Transformer} (inside : entry ∈ plan.assetsOf key) : ∃ file, entry.content = .file file := by
  rw [Plan.assetsOf, Lib.mem_valuesOf] at inside
  obtain ⟨none, -⟩ | ⟨variants, manifest, assets, -⟩ := entries_of_plan planned
  · simp [none] at inside
  · rw [assets, assetEntries, List.mem_flatMap] at inside
    obtain ⟨variant, -, inside⟩ := inside
    obtain ⟨asset, -, same⟩ := List.mem_map.mp inside
    obtain ⟨-, rfl⟩ := Prod.mk.inj same
    exact ⟨_, rfl⟩

theorem sources_of_built (planned : project.plan tools = some plan)
    (built : build tools project entries = .ok entries') :
    plan.Accepts entries ∧ ∀ key, sourceOf tools (entries' key) = plan.sourceAfter tools entries key := by
  have follows : Follows tools plan (.ok entries') entries := built ▸ follows_plan planned
  have accepts : plan.Accepts entries := by
    by_contra refused
    obtain ⟨error, failed⟩ := follows.error refused
    cases failed
  obtain ⟨_, same, sources⟩ := follows.ok accepts
  obtain rfl := Except.ok.inj same
  exact ⟨accepts, sources⟩

theorem sameAsFresh_build_iff (planned : project.plan tools = some plan)
    (built : build tools project entries = .ok entries') :
    SameAsFresh tools project entries' ↔ plan.Unaffected tools entries := by
  obtain ⟨accepts, sources⟩ := sources_of_built planned built
  constructor
  · intro ⟨fresh, builtFresh, alike⟩
    obtain ⟨acceptsFresh, sourcesFresh⟩ := sources_of_built planned builtFresh
    refine ⟨fun key entry found other => ?_, fun zipped => ?_⟩
    · have same : plan.sourceAfter tools entries key = plan.sourceAfter tools (fun _ => none) key := by
        rw [← sources key, ← sourcesFresh key]
        exact alike key
      simp only [Plan.sourceAfter, other, found] at same
      exact Plan.sourceOf_fileEntry_iff.mp same
    · -- otherwise the cast of the notices fails in a new bundle
      by_contra occupied
      obtain ⟨first, rest, assets⟩ := List.exists_cons_of_ne_nil occupied
      obtain ⟨entry, kept⟩ := Option.isSome_iff_exists.mp
        (Lib.keepAll_isSome Entry.transformers first rest none)
      have isEntry : plan.fileEntry kNoticeZippedFile none = some entry := by
        rw [Plan.fileEntry, Lib.foldl_orElse, assets, kept, Option.some_or]
      obtain ⟨text, isText⟩ := acceptsFresh zipped entry isEntry
      have inside : entry ∈ plan.assetsOf kNoticeZippedFile := by
        rw [assets]
        exact (Lib.mem_of_keepAll kept).resolve_left (by simp)
      obtain ⟨file, isFile⟩ := content_of_assetsOf planned inside
      rw [isFile] at isText
      cases isText
  · intro unaffected
    have acceptsFresh : plan.Accepts (fun _ => none) := by
      intro zipped entry isEntry
      rw [Plan.fileEntry, unaffected.notices zipped, materialsOf_notices planned] at isEntry
      cases isEntry
    obtain ⟨fresh, builtFresh, sourcesFresh⟩ := (follows_plan planned).ok acceptsFresh
    refine ⟨fresh, builtFresh, fun key => ?_⟩
    rw [sources key, sourcesFresh key, Plan.sourceAfter, Plan.sourceAfter]
    cases generated : plan.generated.lookup key with
    | some content => rfl
    | none =>
      cases found : entries key with
      | none => rfl
      | some entry => exact Plan.sourceOf_fileEntry_iff.mpr (unaffected.files key entry found generated)

variable (tools project entries) in
def Unaffected : Prop := ∀ plan, project.plan tools = some plan → plan.Unaffected tools entries

/-- After any sequence of builds the entries are those of a new bundle, exactly when nothing of the
    entries before the last build is left over. -/
theorem sameAsFresh_iff_unaffected {projects : List (Project File Transformer Font)}
    {last : Project File Transformer Font} (built : buildAll tools (projects ++ [last]) = .ok entries') :
    SameAsFresh tools last entries' ↔
      ∃ entries, buildAll tools projects = .ok entries ∧ Unaffected tools last entries := by
  rw [buildAll, List.foldlM_append, ← buildAll] at built
  obtain ⟨entries, before, rebuilt⟩ := Lib.bind_eq_ok.mp built
  rw [List.foldlM_cons] at rebuilt
  obtain ⟨_, lastBuilt, same⟩ := Lib.bind_eq_ok.mp rebuilt
  obtain rfl := Except.ok.inj same
  cases planned : last.plan tools with
  | none =>
    obtain ⟨error, failed⟩ := error_of_plan_none entries planned
    rw [lastBuilt] at failed
    cases failed
  | some plan =>
    rw [sameAsFresh_build_iff planned lastBuilt]
    constructor
    · intro unaffected
      refine ⟨entries, before, fun plan' planned' => ?_⟩
      obtain rfl := Option.some.inj (planned.symm.trans planned')
      exact unaffected
    · intro ⟨entries', before', unaffected⟩
      obtain rfl := Except.ok.inj (before.symm.trans before')
      exact unaffected plan planned

end Rebuild

/-! ## Assets that come and go -/

def encodeText (text : String) : List UInt8 := 7 :: text.length.toUInt8 :: text.toUTF8.data.toList

/-- The manifest of assets with short names, in the order of the pubspec. -/
def encodeManifest (variants : Variants Unit) (_ : List (String × Variants Unit)) : List UInt8 :=
  13 :: variants.length.toUInt8 :: variants.flatMap fun entry =>
    encodeText entry.1.entryUri.path ++ 12 :: entry.2.length.toUInt8 ::
      entry.2.flatMap fun variant => 13 :: 1 :: (encodeText "asset" ++ encodeText variant.entryUri.path)

def plainTools : Tools String Unit Unit where
  file baseDir relativeUri := baseDir ++ "/" ++ relativeUri
  fontPath := "/flutter/bin/cache/artifacts/material_fonts"
  shaderPath := "/flutter/packages/flutter/lib/src/material/shaders"
  splitDeferredAssets := false
  createAssetManifestBinary := encodeManifest
  encodeFonts _ := "[]"
  encodeBase64 _ := ""
  compress := id

def plainAsset (name : String) : Asset Unit := ⟨"/app", name, ⟨name, ""⟩, .regular, ∅, ∅, []⟩

def projectWith (names : List String) : Project String Unit Unit where
  manifest := some ⟨false, "app", false, some (names.map fun name => (plainAsset name, [])), [], []⟩
  deferredComponents := []
  dependencies := []
  dataAssets := []
  existsSync _ := true
  hasShaders := false
  obtainLicenses _ := some ""
  isWeb := false
  deferredComponentsEnabled := false
  includeAssetsFromDevDependencies := false

theorem plan_projectWith (names : List String) : (projectWith names).plan plainTools =
    some ⟨names.map fun name => (name, (plainAsset name).entry plainTools), [],
      [(kAssetManifestBinFilename,
          .bytes (encodeManifest (names.map fun name => (plainAsset name, [plainAsset name])) [])),
        (kFontManifestJson, .string "[]"), (kNoticeZippedFile, .compressing "")]⟩ := by
  have assets : assetEntries plainTools (projectWith names) (names.map fun name => (plainAsset name, [])) =
      names.map fun name => (name, (plainAsset name).entry plainTools) := by
    rw [assetEntries, List.flatMap_map, List.map_eq_flatMap]
    rfl
  simpa [Project.plan, projectWith, Project.gather, Missing, withMain, materialEntries, materialAssets,
    getMaterialShaders, generatedFor, plainTools, Function.comp_def] using assets

/-- An asset is added between two builds. -/
theorem sameAsFresh_iff_unaffected_added_asset : ∃ entries',
    buildAll plainTools ([projectWith ["a"]] ++ [projectWith ["a", "b"]]) = .ok entries' ∧
      SameAsFresh plainTools (projectWith ["a", "b"]) entries' := by
  have built : ∃ entries entries', buildAll plainTools [projectWith ["a"]] = .ok entries ∧
      build plainTools (projectWith ["a"]) (fun _ => none) = .ok entries ∧
      buildAll plainTools ([projectWith ["a"]] ++ [projectWith ["a", "b"]]) = .ok entries' := ⟨_, _, rfl, rfl, rfl⟩
  obtain ⟨entries, entries', before, first, built⟩ := built
  refine ⟨entries', built, (sameAsFresh_iff_unaffected built).mpr ⟨entries, before, ?_⟩⟩
  obtain ⟨-, sources⟩ := sources_of_built (plan_projectWith ["a"]) first
  intro plan planned
  obtain rfl := Option.some.inj ((plan_projectWith ["a", "b"]).symm.trans planned)
  refine ⟨fun key entry found other => ?_, fun _ => rfl⟩
  -- only the asset that was there before has an entry of its own
  have source := sources key
  simp only [List.lookup_cons] at other
  split at other
  next => cases other
  next manifest =>
    split at other
    next => cases other
    next fonts =>
      split at other
      next => cases other
      next notices =>
        simp only [Plan.sourceAfter, List.lookup_cons, manifest, fonts, notices, found, List.lookup_nil] at source
        by_cases isAsset : key = "a"
        · subst isAsset
          exact ⟨_, rfl, fun _ => Option.some.inj source⟩
        · simp [Plan.fileEntry, Plan.assetsOf, Plan.materialsOf, Lib.valuesOf, Ne.symm isAsset, sourceOf] at source

/-- An asset that has been removed from the pubspec stays in the bundle. -/
theorem not_sameAsFresh_removed_asset : ¬ ∀ (projects : List (Project String Unit Unit))
    (last : Project String Unit Unit) (later : Entries String Unit),
    buildAll plainTools (projects ++ [last]) = .ok later → SameAsFresh plainTools last later := by
  intro always
  have built : ∃ later, buildAll plainTools ([projectWith ["a"]] ++ [projectWith []]) = .ok later ∧
      (later "a").isSome = true := ⟨_, rfl, rfl⟩
  obtain ⟨later, built, stale⟩ := built
  obtain ⟨fresh, builtFresh, alike⟩ := always _ _ later built
  have absent : ∃ fresh, build plainTools (projectWith []) (fun _ => none) = .ok fresh ∧ fresh "a" = none :=
    ⟨_, rfl, rfl⟩
  obtain ⟨_, same, absent⟩ := absent
  obtain rfl := Except.ok.inj (builtFresh.symm.trans same)
  obtain ⟨entry, found⟩ := Option.isSome_iff_exists.mp stale
  have contradiction := alike "a"
  rw [found, absent] at contradiction
  cases contradiction

end FlutterZero.FlutterTools.AssetBundle
