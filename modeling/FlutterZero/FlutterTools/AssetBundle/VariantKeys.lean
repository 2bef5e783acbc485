import FlutterZero.FlutterTools.AssetBundle

/-! # The keys of resolution variants

An asset of a package is entered under `packages/`, the name of the package and its path.  A
variant of it gets the same prefix, which `symbolicPrefixUri` looks for in the text of the key.

* `variantsFor`, `resolveAsset`, `parseAssetFromFile` — the variants of an asset and their keys;
* `indexOf_eq_some_iff` — what the search finds;
* `prefixed_iff` — the prefix is found again just if the path of the asset does not occur
  earlier in the key;
* `not_prefixed_sameName` — an asset with the name of its package.
-/

namespace FlutterZero.FlutterTools.AssetBundle

variable {Transformer : Type}

abbrev Text := List Char

/-! ## Variants -/

structure Folder where
  files : List Text
  subdirectories : List (Text × List Text)
deriving DecidableEq, Repr

/-- `_assetVariantDirectoryRegExp`, `/?(\d+(\.\d*)?)x$`: it is not bound to the start of the name, so only the
    characters before the last one count. -/
def isVariantDirectory (name : Text) : Bool :=
  match name.reverse with
  | 'x' :: '.' :: c :: _ => c.isDigit
  | 'x' :: c :: _ => c.isDigit
  | _ => false

/-- `_AssetDirectoryCache.variantsFor` of a file in `directory`, from its base directory. -/
def variantsFor (folder : Option Folder) (directory : List Text) (basename : Text) : List (List Text) :=
  match folder with
  | none => []
  | some folder =>
    (if basename ∈ folder.files then [directory ++ [basename]] else []) ++
      (folder.subdirectories.filter fun dir => isVariantDirectory dir.1).flatMap fun dir =>
        (dir.2.filter (· = basename)).map fun file => directory ++ [dir.1, file]

/-! ## Assets -/

def isSegmentChar (c : Char) : Bool := c.isAlphanum || c = '.' || c = '-' || c = '_'

structure Segment where
  text : Text
  nonempty : text ≠ []
  plain : text.all isSegmentChar = true
  not_dots : text ≠ ['.'] ∧ text ≠ ['.', '.']
deriving DecidableEq

def path (segments : List Text) : Text := ['/'].intercalate segments

def pathOf (segments : List Segment) : Text := path (segments.map Segment.text)

/-- `path.indexOf(pattern)`. -/
def indexOf (text pattern : Text) : Option Nat := text.tails.findIdx? fun rest => pattern.isPrefixOf rest

/-- `base.resolveUri(reference)` of relative paths, for a reference without dots for segments: what is behind the last
    slash of the base is replaced. -/
def resolveUri (base reference : Text) : Text := (base.reverse.dropWhile (· ≠ '/')).reverse ++ reference

/-- The first segment of the URI of an asset of a package. -/
def packages : Text := "packages".toList

structure Surroundings where
  assetsBaseDir : String
  /-- `isFileSync` of a path below `assetsBaseDir`. -/
  isFile : List Segment → Bool
  /-- The `packageUriRoot` of a package, if it is a file URI. -/
  packageUriRoot : Text → Option String
  /-- The path of `path.toUri` of the names of a relative path. -/
  toUri : List Text → Text
  folder : String → List Text → Option Folder

structure Resolved where
  baseDir : String
  relativeUri : List Segment
  entryUri : Text
deriving DecidableEq

def resolvePackageAsset (env : Surroundings) (assetUri : List Segment) : Option Resolved :=
  match assetUri with
  | _ :: packageName :: rest => (env.packageUriRoot packageName.text).map fun root => ⟨root, rest, pathOf assetUri⟩
  | _ => none

def resolveAsset (env : Surroundings) (packageName : Option Segment) (assetUri : List Segment) : Resolved :=
  let own : Resolved :=
    ⟨env.assetsBaseDir, assetUri,
      match packageName with
      | none => pathOf assetUri
      | some packageName => path (packages :: packageName.text :: assetUri.map Segment.text)⟩
  if assetUri.head?.map Segment.text = some packages ∧ env.isFile assetUri = false then
    (resolvePackageAsset env assetUri).getD own
  else own

def Resolved.symbolicPrefixUri (asset : Resolved) : Option Text :=
  if asset.entryUri = pathOf asset.relativeUri then none
  else (indexOf asset.entryUri (pathOf asset.relativeUri)).map fun index => asset.entryUri.take index

/-- The `entryUri` of a variant. -/
def Resolved.variantUri (asset : Resolved) (relativeUri : Text) : Text :=
  match asset.symbolicPrefixUri with
  | none => relativeUri
  | some symbolicPrefixUri => resolveUri symbolicPrefixUri relativeUri

def Resolved.variants (env : Surroundings) (asset : Resolved) : List (List Text) :=
  let names := asset.relativeUri.map Segment.text
  match names.getLast? with
  | none => []
  | some basename => variantsFor (env.folder asset.baseDir names.dropLast) names.dropLast basename

def parseAssetFromFile (env : Surroundings) (packageName : Option Segment) (assetUri : List Segment) (kind : AssetKind)
    (flavors platforms : Finset String) (transformers : List Transformer) :
    Asset Transformer × List (Asset Transformer) :=
  let asset := resolveAsset env packageName assetUri
  let make (relativeUri entryUri : Text) : Asset Transformer :=
    ⟨asset.baseDir, .ofList relativeUri, ⟨.ofList entryUri, ""⟩, kind, flavors, platforms, transformers⟩
  (make (pathOf asset.relativeUri) asset.entryUri,
    (asset.variants env).map fun names => make (env.toUri names) (asset.variantUri (env.toUri names)))

/-! ## The search -/

theorem indexOf_eq_some_iff {text pattern : Text} {i : Nat} : indexOf text pattern = some i ↔
    i ≤ text.length ∧ pattern <+: text.drop i ∧ ∀ j < i, ¬ pattern <+: text.drop j := by
  rw [indexOf, List.findIdx?_eq_some_iff_getElem]
  simp only [List.length_tails, List.getElem_tails, List.isPrefixOf_iff_prefix, Nat.lt_succ_iff]
  constructor
  · rintro ⟨bound, found, first⟩
    exact ⟨bound, found, first⟩
  · rintro ⟨bound, found, first⟩
    exact ⟨bound, found, first⟩

theorem exists_indexOf_append (start pattern : Text) :
    ∃ i, indexOf (start ++ pattern) pattern = some i ∧ i ≤ start.length := by
  have found : (indexOf (start ++ pattern) pattern).isSome := by
    rw [indexOf, List.findIdx?_isSome, List.any_eq_true]
    exact ⟨pattern, (List.mem_tails _ _).mpr (List.suffix_append start pattern), by simp⟩
  obtain ⟨i, found⟩ := Option.isSome_iff_exists.mp found
  refine ⟨i, found, ?_⟩
  by_contra beyond
  apply (indexOf_eq_some_iff.mp found).2.2 start.length (by omega)
  simp

/-- The pattern does not occur before the end of the text. -/
def NoEarlier (start pattern : Text) : Prop := ∀ i < start.length, ¬ pattern <+: (start ++ pattern).drop i

theorem take_indexOf_iff (start pattern : Text) :
    (indexOf (start ++ pattern) pattern).map (fun i => (start ++ pattern).take i) = some start ↔
      NoEarlier start pattern := by
  obtain ⟨i, found, bound⟩ := exists_indexOf_append start pattern
  obtain ⟨-, -, first⟩ := indexOf_eq_some_iff.mp found
  rw [found, Option.map_some, Option.some.injEq]
  constructor
  · intro taken
    have length := congrArg List.length taken
    rw [List.length_take, List.length_append] at length
    have last : i = start.length := by omega
    rwa [last] at first
  · intro none
    have last : i = start.length := by
      by_contra other
      exact none i (by omega) (indexOf_eq_some_iff.mp found).2.1
    rw [last, List.take_left]

/-! ## The prefix of a package -/

def packagePrefix (packageName : Segment) : Text := packages ++ '/' :: packageName.text ++ ['/']

theorem Segment.no_slash (segment : Segment) : '/' ∉ segment.text := by
  intro inside
  have plain := List.all_eq_true.mp segment.plain '/' inside
  revert plain
  decide

theorem packagePrefix_injective {p q : Segment} {rest : Text} (starts : packagePrefix p <+: packagePrefix q ++ rest) :
    p = q := by
  obtain ⟨behind, split⟩ := starts
  have texts : p.text ++ '/' :: behind = q.text ++ '/' :: rest := by
    simpa [packagePrefix] using split
  have same := congrArg (List.takeWhile (· ≠ '/')) texts
  have whole (segment : Segment) (tail : Text) :
      (segment.text ++ '/' :: tail).takeWhile (· ≠ '/') = segment.text := by
    rw [List.takeWhile_append_of_pos]
    · simp
    · intro c inside
      have other : c ≠ '/' := fun slash => segment.no_slash (slash ▸ inside)
      simpa using other
  rw [whole, whole] at same
  cases p
  cases q
  cases same
  rfl

theorem path_package (packageName : Segment) {segments : List Segment} (some : segments ≠ []) :
    path (packages :: packageName.text :: segments.map Segment.text) =
      packagePrefix packageName ++ pathOf segments := by
  obtain ⟨first, rest, rfl⟩ := List.exists_cons_of_ne_nil some
  simp [path, pathOf, packagePrefix]

@[simp] theorem resolveUri_packagePrefix (packageName : Segment) (reference : Text) :
    resolveUri (packagePrefix packageName) reference = packagePrefix packageName ++ reference := by
  simp [resolveUri, packagePrefix]

/-! ## Assets of packages -/

variable {env : Surroundings} {p owner : Segment} {r rel : List Segment}

/-- The package and the path that an asset refers to, if it is one of another package. -/
def referred (env : Surroundings) : List Segment → Option (Segment × List Segment)
  | first :: packageName :: rest =>
    if first.text = packages ∧ env.isFile (first :: packageName :: rest) = false ∧
        (env.packageUriRoot packageName.text).isSome then some (packageName, rest)
    else none
  | _ => none

def declared (env : Surroundings) (p : Segment) (r : List Segment) : Segment × List Segment :=
  (referred env r).getD (p, r)

theorem resolveAsset_spec (env : Surroundings) (p : Segment) (r : List Segment) :
    (resolveAsset env (some p) r).relativeUri = (declared env p r).2 ∧
      (resolveAsset env (some p) r).entryUri =
        path (packages :: (declared env p r).1.text :: (declared env p r).2.map Segment.text) := by
  match r with
  | [] => simp [resolveAsset, declared, referred]
  | [first] =>
    by_cases named : first.text = packages ∧ env.isFile [first] = false <;>
      simp [resolveAsset, resolvePackageAsset, declared, referred, named]
  | first :: packageName :: rest =>
    by_cases named : first.text = packages ∧ env.isFile (first :: packageName :: rest) = false
    · cases root : env.packageUriRoot packageName.text <;>
        simp [resolveAsset, resolvePackageAsset, declared, referred, named, root, pathOf]
    · have other : ¬ (first.text = packages ∧ env.isFile (first :: packageName :: rest) = false ∧
          (env.packageUriRoot packageName.text).isSome) := fun all => named ⟨all.1, all.2.1⟩
      simp [resolveAsset, declared, referred, named, other]

theorem symbolicPrefixUri_eq_iff {asset : Resolved} (relative : asset.relativeUri = rel)
    (entry : asset.entryUri = path (packages :: owner.text :: rel.map Segment.text)) :
    asset.symbolicPrefixUri = some (packagePrefix p) ↔
      owner = p ∧ rel ≠ [] ∧ NoEarlier (packagePrefix p) (pathOf rel) := by
  by_cases none : rel = []
  · subst none
    have different : packagePrefix p ≠ [] := by simp [packagePrefix]
    have first : indexOf asset.entryUri [] = some 0 := by
      rw [indexOf_eq_some_iff]
      simp
    simp [Resolved.symbolicPrefixUri, relative, pathOf, path, first, different.symm]
  · rw [path_package owner none] at entry
    have longer : asset.entryUri ≠ pathOf asset.relativeUri := by
      rw [entry, relative]
      intro same
      have length := congrArg List.length same
      simp [packagePrefix] at length
      omega
    rw [Resolved.symbolicPrefixUri, if_neg longer, entry, relative]
    constructor
    · intro found
      have same : p = owner := by
        obtain ⟨i, -, taken⟩ := Option.map_eq_some_iff.mp found
        have starts : packagePrefix p <+: packagePrefix owner ++ pathOf rel := by
          rw [← taken]
          exact List.take_prefix _ _
        exact packagePrefix_injective starts
      subst same
      exact ⟨rfl, none, (take_indexOf_iff _ _).mp found⟩
    · rintro ⟨rfl, -, noEarlier⟩
      exact (take_indexOf_iff _ _).mpr noEarlier

structure Prefixed (Transformer : Type) (env : Surroundings) (p : Segment) (r : List Segment) : Prop where
  symbolicPrefixUri : (resolveAsset env (some p) r).symbolicPrefixUri = some (packagePrefix p)
  keys : ∀ (kind : AssetKind) (flavors platforms : Finset String) (transformers : List Transformer),
    (parseAssetFromFile env (some p) r kind flavors platforms transformers).2.map (·.entryUri.path) =
      ((resolveAsset env (some p) r).variants env).map fun names => .ofList (packagePrefix p ++ env.toUri names)

/-- The asset is one of the package itself, and its path does not occur in its key before its place. -/
def Recovered (env : Surroundings) (p : Segment) (r : List Segment) : Prop :=
  (declared env p r).1 = p ∧ (declared env p r).2 ≠ [] ∧
    NoEarlier (packagePrefix p) (pathOf (declared env p r).2)

theorem prefixed_iff (env : Surroundings) (p : Segment) (r : List Segment) :
    Prefixed Transformer env p r ↔ Recovered env p r := by
  obtain ⟨relative, entry⟩ := resolveAsset_spec env p r
  have found := symbolicPrefixUri_eq_iff (p := p) relative entry
  constructor
  · intro prefixed
    exact found.mp prefixed.symbolicPrefixUri
  · intro recovered
    have same := found.mpr recovered
    refine ⟨same, fun kind flavors platforms transformers => ?_⟩
    simp [parseAssetFromFile, Resolved.variantUri, same]

def foo : Segment := ⟨"foo".toList, by decide, by decide, by decide⟩

def withVariant : Surroundings where
  assetsBaseDir := "/foo"
  isFile _ := false
  packageUriRoot _ := none
  toUri := path
  folder _ _ := some ⟨["foo".toList], [("2x".toList, ["foo".toList])]⟩

/-- The name of the package is missing in the key of the variant. -/
example : (resolveAsset withVariant (some foo) [foo]).variantUri "2x/foo".toList =
    "packages/2x/foo".toList := by
  decide

theorem not_prefixed_sameName :
    ¬ ∀ (env : Surroundings) (p : Segment) (r : List Segment), r ≠ [] → Prefixed Unit env p r := by
  intro all
  have prefixed := all withVariant foo [foo] (by simp)
  obtain ⟨relative, entry⟩ := resolveAsset_spec withVariant foo [foo]
  obtain ⟨-, -, noEarlier⟩ := (symbolicPrefixUri_eq_iff relative entry).mp prefixed.symbolicPrefixUri
  exact noEarlier 9 (by decide) (by decide)

end FlutterZero.FlutterTools.AssetBundle
