import FlutterZero.FlutterTools.DevFS

/-! # The asset bundle

`ManifestAssetBundle.build` (`asset.dart`) collects the assets, fonts and licenses of an
application and of the packages it depends on into `entries`, which stay from one build
to the next.

* `setIfConfigurationChanged`, `setIfChanged`, `setLicenseIfChanged` — the three ways in
  which an entry is set;
* `Project.gather` — what a build reads, without looking at the entries;
* `build` — a build.

A project state holds what `_parseAssets` and `_parseFonts` make of the pubspecs and
directories at the time of a build, and what the file system answers then.
-/

namespace FlutterZero.FlutterTools.AssetBundle

variable {File Transformer Font : Type}

/-! ## Entries -/

/-- The contents of an entry, without the record of when they were sent to a device. -/
inductive Content (File : Type) where
  /-- `DevFSFileContent`. -/
  | file (file : File)
  /-- `DevFSByteContent`. -/
  | bytes (raw : List UInt8)
  /-- `DevFSStringContent`, which is a `DevFSByteContent`. -/
  | string (text : String)
  /-- `DevFSStringCompressingBytesContent`, which is not. -/
  | compressing (text : String)
deriving DecidableEq, Repr

/-- The bytes of a `DevFSByteContent`. -/
def Content.byteContent? : Content File → Option (List UInt8)
  | .bytes raw => some raw
  | .string text => some text.toUTF8.data.toList
  | .file _ | .compressing _ => none

structure Entry (File Transformer : Type) where
  content : Content File
  kind : AssetKind
  transformers : List Transformer
deriving DecidableEq, Repr

abbrev Entries (File Transformer : Type) := String → Option (Entry File Transformer)

def kAssetManifestBinFilename : String := "AssetManifest.bin"
def kAssetManifestBinJsonFilename : String := "AssetManifest.bin.json"
def kFontManifestJson : String := "FontManifest.json"
def kNoticeFile : String := "NOTICES"
def kNoticeZippedFile : String := "NOTICES.Z"

inductive BuildError where
  | project
  /-- `_parseAssets` has printed an error; the build returns 1. -/
  | assets
  /-- `throwToolExit`. -/
  | packageNotFound (name : String)
  | conflicting
  | missing (entryUri : String)
  | licenses
  | typeError
deriving DecidableEq, Repr

section Set

variable [DecidableEq Transformer] (entries : Entries File Transformer)

def set (key : String) (entry : Entry File Transformer) : Entries File Transformer :=
  Function.update entries key (some entry)

def Entry.hasEquivalentConfigurationWith (entry other : Entry File Transformer) : Bool :=
  decide (entry.transformers = other.transformers)

def setIfConfigurationChanged (key : String) (entry : Entry File Transformer) : Entries File Transformer :=
  match entries key with
  | none => set entries key entry
  | some existingEntry => if entry.hasEquivalentConfigurationWith existingEntry then entries else set entries key entry

/-- `entries[key] ??= entry`. -/
def setIfAbsent (key : String) (entry : Entry File Transformer) : Entries File Transformer :=
  match entries key with
  | none => set entries key entry
  | some _ => entries

def setIfChanged (key : String) (content : Content File) : Entries File Transformer :=
  match (entries key).bind (·.content.byteContent?), content.byteContent? with
  | some old, some new => if old = new then entries else set entries key ⟨content, .regular, []⟩
  | _, _ => set entries key ⟨content, .regular, []⟩

def setLicenseIfChanged (combinedLicenses : String) (isWeb : Bool) :
    Except (BuildError × Entries File Transformer) (Entries File Transformer) :=
  if isWeb then .ok (setIfChanged entries kNoticeFile (.string combinedLicenses))
  else
    let changed := set entries kNoticeZippedFile ⟨.compressing combinedLicenses, .regular, []⟩
    match entries kNoticeZippedFile with
    | none => .ok changed
    | some entry =>
      match entry.content with
      | .compressing text => .ok (if text = combinedLicenses then entries else changed)
      -- the cast of the content fails
      | _ => .error (.typeError, entries)

end Set

/-! ## Assets -/

structure Uri where
  path : String
  suffix : String
deriving DecidableEq, Repr

/-- `_Asset`. -/
structure Asset (Transformer : Type) where
  baseDir : String
  relativeUri : String
  entryUri : Uri
  kind : AssetKind
  flavors : Finset String
  platforms : Finset String
  transformers : List Transformer

namespace Asset

/-- `==`, which does not compare the transformers. -/
def same (asset other : Asset Transformer) : Bool :=
  decide (other.baseDir = asset.baseDir ∧ other.relativeUri = asset.relativeUri ∧ other.entryUri = asset.entryUri ∧
    other.kind = asset.kind ∧ asset.flavors = other.flavors ∧ asset.platforms = other.platforms)

def ofFramework (baseDir relativeUri entryUri : String) (kind : AssetKind) : Asset Transformer :=
  ⟨baseDir, relativeUri, ⟨entryUri, ""⟩, kind, ∅, ∅, []⟩

end Asset

/-- `map[key] = value`; a key that is there already is not replaced. -/
def insertWith {κ ν : Type} (same : κ → κ → Bool) (key : κ) (value : ν) : List (κ × ν) → List (κ × ν)
  | [] => [(key, value)]
  | (other, old) :: map =>
    if same key other then (other, value) :: map else (other, old) :: insertWith same key value map

/-- `Map<_Asset, List<_Asset>>`. -/
abbrev Variants (Transformer : Type) := List (Asset Transformer × List (Asset Transformer))

namespace Variants

def addAll (variants others : Variants Transformer) : Variants Transformer :=
  others.foldl (fun variants other => insertWith Asset.same other.1 other.2 variants) variants

def containsKey (variants : Variants Transformer) (asset : Asset Transformer) : Bool :=
  variants.any fun entry => asset.same entry.1

end Variants

/-! ## Project states -/

structure Manifest (File Transformer Font : Type) where
  isEmpty : Bool
  appName : String
  usesMaterialDesign : Bool
  /-- `_parseAssets`; null after an error. -/
  assets : Option (Variants Transformer)
  /-- `_parseFonts`. -/
  fonts : List Font
  /-- The files of `additionalLicenses`. -/
  additionalLicenses : List File

structure Dependency (File Transformer Font : Type) where
  name : String
  isExclusiveDevDependency : Bool
  isConfigured : Bool
  /-- Whether the URI of the package is a file URI. -/
  isFile : Bool
  /-- `FlutterManifest.createFromPath`. -/
  manifest : Option (Manifest File Transformer Font)

structure Project (File Transformer Font : Type) where
  /-- `FlutterProject.fromDirectory`. -/
  manifest : Option (Manifest File Transformer Font)
  /-- `_parseDeferredComponentsAssets`. -/
  deferredComponents : List (String × Variants Transformer)
  /-- `computeTransitiveDependencies`. -/
  dependencies : List (Dependency File Transformer Font)
  dataAssets : List (Asset Transformer)
  existsSync : File → Bool
  /-- Whether the directory of the shaders exists. -/
  hasShaders : Bool
  /-- `obtainLicenses`; none if it reports errors. -/
  obtainLicenses : List (String × List File) → Option String
  /-- `targetPlatform == TargetPlatform.web_javascript`. -/
  isWeb : Bool
  deferredComponentsEnabled : Bool
  includeAssetsFromDevDependencies : Bool

structure Tools (File Transformer Font : Type) where
  /-- `path.join(baseDir, path.fromUri(relativeUri))`. -/
  file : String → String → File
  fontPath : String
  shaderPath : String
  splitDeferredAssets : Bool
  /-- `_createAssetManifest` and `_createAssetManifestBinary`. -/
  createAssetManifestBinary : Variants Transformer → List (String × Variants Transformer) → List UInt8
  /-- `json.encode` of the fonts. -/
  encodeFonts : List Font → String
  /-- `json.encode(base64.encode(bytes))`. -/
  encodeBase64 : List UInt8 → String
  compress : List UInt8 → List UInt8

/-- What is collected before the first entry is set. -/
structure Gathered (File Transformer Font : Type) where
  assetVariants : Variants Transformer
  deferredComponents : List (String × Variants Transformer)
  fonts : List Font
  additionalLicenseFiles : List (String × List File)

section Build

variable (tools : Tools File Transformer Font) (project : Project File Transformer Font)

def lookupAssetFile (asset : Asset Transformer) : File := tools.file asset.baseDir asset.relativeUri

def addDependency (manifest : Manifest File Transformer Font) (gathered : Gathered File Transformer Font)
    (dependency : Dependency File Transformer Font) : Except BuildError (Gathered File Transformer Font) :=
  if !project.includeAssetsFromDevDependencies && dependency.isExclusiveDevDependency then .ok gathered
  else if !dependency.isConfigured then .error (.packageNotFound dependency.name)
  else if !dependency.isFile then .ok gathered
  else match dependency.manifest with
    | none => .ok gathered
    | some packageManifest =>
      let gathered := { gathered with
        additionalLicenseFiles := insertWith (fun key other => key == other) packageManifest.appName
          packageManifest.additionalLicenses gathered.additionalLicenseFiles }
      -- the application itself is skipped
      if packageManifest.appName = manifest.appName then .ok gathered
      else match packageManifest.assets with
        | none => .error .assets
        | some packageAssets => .ok { gathered with
            assetVariants := Variants.addAll gathered.assetVariants packageAssets
            fonts := gathered.fonts ++ packageManifest.fonts }

def addDataAsset (gathered : Gathered File Transformer Font) (asset : Asset Transformer) :
    Except BuildError (Gathered File Transformer Font) :=
  if Variants.containsKey gathered.assetVariants asset then .error .conflicting
  else .ok { gathered with assetVariants := gathered.assetVariants ++ [(asset, [asset])] }

def Project.gather (manifest : Manifest File Transformer Font) : Except BuildError (Gathered File Transformer Font) :=
  match manifest.assets with
  | none => .error .assets
  | some assetVariants => do
    let split := tools.splitDeferredAssets && project.deferredComponentsEnabled
    let assetVariants :=
      if split then assetVariants
      else project.deferredComponents.foldl (fun variants component => Variants.addAll variants component.2)
        assetVariants
    let deferredComponents := if split then project.deferredComponents else []
    let gathered ← project.dependencies.foldlM (addDependency project manifest)
      ⟨assetVariants, deferredComponents, manifest.fonts, []⟩
    project.dataAssets.foldlM addDataAsset gathered

def Missing (variants : Asset Transformer × List (Asset Transformer)) : Bool :=
  !project.existsSync (lookupAssetFile tools variants.1) && variants.2.isEmpty

def withMain (variants : Asset Transformer × List (Asset Transformer)) : List (Asset Transformer) :=
  if project.existsSync (lookupAssetFile tools variants.1) && !variants.2.any variants.1.same then
    variants.1 :: variants.2
  else variants.2

def Asset.entry (asset : Asset Transformer) : Entry File Transformer :=
  ⟨.file (lookupAssetFile tools asset), asset.kind, asset.transformers⟩

variable [DecidableEq Transformer]

def setVariants (entries : Entries File Transformer) (variants : Asset Transformer × List (Asset Transformer)) :
    Except (BuildError × Entries File Transformer) (Entries File Transformer) :=
  if Missing tools project variants then .error (.missing variants.1.entryUri.path, entries)
  else .ok ((withMain tools project variants).foldl
    (fun entries variant => setIfConfigurationChanged entries variant.entryUri.path (variant.entry tools)) entries)

/-- The assets of deferred components are not among the entries, but have to exist as well. -/
def checkDeferred (entries : Entries File Transformer) (variants : Asset Transformer × List (Asset Transformer)) :
    Except (BuildError × Entries File Transformer) Unit :=
  if Missing tools project variants then .error (.missing variants.1.entryUri.path, entries) else .ok ()

def getMaterialFonts : List (Asset Transformer) :=
  [.ofFramework tools.fontPath "MaterialIcons-Regular.otf" "fonts/MaterialIcons-Regular.otf" .font]

def getMaterialShaders : List (Asset Transformer) :=
  if project.hasShaders then
    [.ofFramework tools.shaderPath "ink_sparkle.frag" "shaders/ink_sparkle.frag" .shader,
      .ofFramework tools.shaderPath "stretch_effect.frag" "shaders/stretch_effect.frag" .shader]
  else []

def materialAssets (manifest : Manifest File Transformer Font) : List (Asset Transformer) :=
  (if manifest.usesMaterialDesign then getMaterialFonts tools else []) ++ getMaterialShaders tools project

def buildEmpty (entries : Entries File Transformer) : Entries File Transformer :=
  -- the encoding of an empty map
  let entries := set entries kAssetManifestBinFilename ⟨.bytes [13, 0], .regular, []⟩
  if project.isWeb then set entries kAssetManifestBinJsonFilename ⟨.string "\"\"", .regular, []⟩ else entries

def setManifests (entries : Entries File Transformer) (gathered : Gathered File Transformer Font) :
    Entries File Transformer :=
  let complete := fun (variants : Variants Transformer) =>
    variants.map fun entry => (entry.1, withMain tools project entry)
  let assetManifestBinary := tools.createAssetManifestBinary (complete gathered.assetVariants)
    (gathered.deferredComponents.map fun component => (component.1, complete component.2))
  let entries := setIfChanged entries kAssetManifestBinFilename (.bytes assetManifestBinary)
  let entries :=
    if project.isWeb then
      setIfChanged entries kAssetManifestBinJsonFilename (.string (tools.encodeBase64 assetManifestBinary))
    else entries
  setIfChanged entries kFontManifestJson (.string (tools.encodeFonts gathered.fonts))

def build (entries : Entries File Transformer) : Except (BuildError × Entries File Transformer)
    (Entries File Transformer) :=
  match project.manifest with
  | none => .error (.project, entries)
  | some manifest =>
    if manifest.isEmpty then .ok (buildEmpty project entries)
    else do
      let gathered ← (project.gather tools manifest).mapError fun error => (error, entries)
      let entries ← gathered.assetVariants.foldlM (setVariants tools project) entries
      gathered.deferredComponents.forM fun component => component.2.forM (checkDeferred tools project entries)
      let entries := (materialAssets tools project manifest).foldl
        (fun entries asset => setIfAbsent entries asset.entryUri.path (asset.entry tools)) entries
      match project.obtainLicenses gathered.additionalLicenseFiles with
      | none => .error (.licenses, entries)
      | some combinedLicenses =>
        setLicenseIfChanged (setManifests tools project entries gathered) combinedLicenses project.isWeb

def buildAll (projects : List (Project File Transformer Font)) :
    Except (BuildError × Entries File Transformer) (Entries File Transformer) :=
  projects.foldlM (fun entries project => build tools project entries) (fun _ => none)

end Build

end FlutterZero.FlutterTools.AssetBundle
