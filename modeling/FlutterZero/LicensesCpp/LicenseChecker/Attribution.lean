import FlutterZero.LicensesCpp.LicenseChecker
import FlutterZero.Lib.FirstOfKey
import Mathlib.Data.Set.Basic

/-! # Which licenses are attributed to which packages

A license file is matched on behalf of the package of the first file that has it.  Files of packages
with different names can have the same license file, as the license of a directory holds for the
packages below it: the attributions then depend on the order of the files, unless each of these
packages gets the texts from somewhere else.
-/

namespace FlutterZero.LicensesCpp.LicenseChecker

open FlutterZero.Lib (FirstOfKey)

/-! ## Attributions -/

def pairs (licenseMap : LicenseMap) : Set (String × String) :=
  {attribution | ∃ packages, (attribution.2, packages) ∈ licenseMap ∧ attribution.1 ∈ packages}

variable {p : String × String}

theorem mem_pairs_cons {license : String} {packages : List String} {rest : LicenseMap} :
    p ∈ pairs ((license, packages) :: rest) ↔ (p.2 = license ∧ p.1 ∈ packages) ∨ p ∈ pairs rest := by
  simp only [pairs, Set.mem_ofPred_eq, List.mem_cons, Prod.mk.injEq]
  constructor
  · rintro ⟨packages', ⟨here, rfl⟩ | there, mem⟩
    · exact .inl ⟨here, mem⟩
    · exact .inr ⟨packages', there, mem⟩
  · rintro (⟨here, mem⟩ | ⟨packages', there, mem⟩)
    · exact ⟨packages, .inl ⟨here, rfl⟩, mem⟩
    · exact ⟨packages', .inr there, mem⟩

@[simp] theorem pairs_nil : pairs [] = ∅ := by
  ext p
  simp [pairs]

variable {licenseMap : LicenseMap}

@[simp] theorem mem_pairs_add {package license : String} :
    p ∈ pairs (licenseMap.add package license) ↔ p ∈ pairs licenseMap ∨ p = (package, license) := by
  induction licenseMap with
  | nil =>
    rw [LicenseMap.add, mem_pairs_cons, pairs_nil]
    simp [Prod.ext_iff, and_comm]
  | cons entry rest ih =>
    obtain ⟨seen, packages⟩ := entry
    rw [LicenseMap.add]
    split
    · rename_i same
      subst same
      rw [mem_pairs_cons, mem_pairs_cons, Prod.ext_iff]
      split <;> grind
    · split
      · rw [mem_pairs_cons, mem_pairs_cons, Prod.ext_iff]
        grind
      · rw [mem_pairs_cons, mem_pairs_cons, ih]
        grind

section Folds

variable {σ ι π : Type*} {step : σ → ι → σ} {see : σ → Set π} {adds : ι → List π}

theorem mem_foldl_of_adds (each : ∀ s i p, p ∈ see (step s i) ↔ p ∈ see s ∨ p ∈ adds i) (xs : List ι) (s : σ) (p : π) :
    p ∈ see (xs.foldl step s) ↔ p ∈ see s ∨ p ∈ xs.flatMap adds := by
  induction xs generalizing s with
  | nil => simp
  | cons x xs ih => rw [List.foldl_cons, ih, each, List.flatMap_cons, List.mem_append, or_assoc]

end Folds

theorem mem_pairs_addMatches {package : String} {found : List Match} :
    p ∈ pairs (addMatches package found licenseMap) ↔
      p ∈ pairs licenseMap ∨ p ∈ found.map fun found => (package, found.matchedText) := by
  have each : ∀ licenseMap (found : Match) p, p ∈ pairs (LicenseMap.add package found.matchedText licenseMap) ↔
      p ∈ pairs licenseMap ∨ p ∈ [(package, found.matchedText)] := by simp
  rw [addMatches, mem_foldl_of_adds each]
  simp [eq_comm]

theorem mem_pairs_addProjects {projects : List String} {found : List Match} :
    p ∈ pairs (addProjects projects found licenseMap) ↔
      p ∈ pairs licenseMap ∨
        p ∈ found.flatMap fun found => projects.map fun project => (project, found.matchedText) := by
  have each : ∀ licenseMap (found : Match) p,
      p ∈ pairs (projects.foldl (fun licenseMap project => licenseMap.add project found.matchedText) licenseMap) ↔
        p ∈ pairs licenseMap ∨ p ∈ projects.map fun project => (project, found.matchedText) := by
    intro licenseMap found p
    have one : ∀ (licenseMap : LicenseMap) (project : String) (p : String × String),
        p ∈ pairs (licenseMap.add project found.matchedText) ↔
          p ∈ pairs licenseMap ∨ p ∈ [(project, found.matchedText)] := by simp
    rw [mem_foldl_of_adds one]
    simp [eq_comm]
  exact mem_foldl_of_adds each found licenseMap p

/-! ## What a file attributes -/

variable (env : Environment)

def packageOf (fullPath : FsPath) : Package := getPackage env (relativePath env fullPath)

def licenseFileOf (fullPath : FsPath) : Option FsPath :=
  if included env fullPath then (packageOf env fullPath).licenseFile else none

def matchedTexts (query : String) : List String :=
  match env.data.catalog.findMatch query with
  | .ok found => found.map Match.matchedText
  | .error _ => []

def licenseTexts (path : FsPath) : List String :=
  match mmapFile env path with
  | .ok license => matchedTexts env license
  | .error _ => []

def commentPairs (package comment : String) : List (String × String) :=
  if env.kHeaderLicense comment then (matchedTexts env comment).map fun text => (package, text) else []

def noticePairs (notice : String × String) : List (String × String) :=
  (matchedTexts env notice.2).flatMap fun text => (splitLines notice.1).map fun project => (project, text)

def contentsPairs (fullPath : FsPath) : List (String × String) :=
  if included env fullPath then
    match mmapFile env fullPath with
    | .error _ => []
    | .ok file =>
      if fullPath.filename = "NOTICES" then (env.notices file).flatMap (noticePairs env)
      else (commentsOrText env file).flatMap (commentPairs env (packageOf env fullPath).name)
  else []

def Readable (fullPath : FsPath) : Prop := ∃ contents, env.tree fullPath = some (.file contents)

variable {env} {state : ProcessState} {p : String × String}

@[simp] theorem fail_licenseMap (status : Status) : (state.fail status).licenseMap = state.licenseMap := rfl

@[simp] theorem fail_seenLicenseFiles (status : Status) :
    (state.fail status).seenLicenseFiles = state.seenLicenseFiles := rfl

@[simp] theorem unmatched_licenseMap (relativePath : FsPath) (text : String) (status : Status) :
    (unmatched env relativePath text status state).licenseMap = state.licenseMap := by
  unfold unmatched
  split <;> rfl

@[simp] theorem unmatched_seenLicenseFiles (relativePath : FsPath) (text : String) (status : Status) :
    (unmatched env relativePath text status state).seenLicenseFiles = state.seenLicenseFiles := by
  unfold unmatched
  split <;> rfl

@[simp] theorem noCopyright_licenseMap (relativePath : FsPath) (package : Package) :
    (noCopyright relativePath package state).licenseMap = state.licenseMap := by
  unfold noCopyright
  split
  · split <;> rfl
  · rfl

@[simp] theorem noCopyright_seenLicenseFiles (relativePath : FsPath) (package : Package) :
    (noCopyright relativePath package state).seenLicenseFiles = state.seenLicenseFiles := by
  unfold noCopyright
  split
  · split <;> rfl
  · rfl

/-! ### The license file -/

theorem mem_pairs_matchLicenseFile (path : FsPath) (package : Package) :
    p ∈ pairs (matchLicenseFile env path package state).licenseMap ↔
      p ∈ pairs state.licenseMap ∨ p.1 = package.name ∧ p.2 ∈ licenseTexts env path := by
  unfold matchLicenseFile licenseTexts
  cases mmapFile env path with
  | error status => simp
  | ok license =>
    simp only [matchedTexts]
    cases env.data.catalog.findMatch license with
    | error status => simp
    | ok found =>
      simp only [mem_pairs_addMatches, List.mem_map, Prod.ext_iff]
      grind

@[simp] theorem matchLicenseFile_seenLicenseFiles (path : FsPath) (package : Package) :
    (matchLicenseFile env path package state).seenLicenseFiles = state.seenLicenseFiles := by
  unfold matchLicenseFile
  split
  · rfl
  · split <;> rfl

theorem mem_pairs_processLicenseFile (package : Package) :
    p ∈ pairs (processLicenseFile env package state).licenseMap ↔
      p ∈ pairs state.licenseMap ∨ ∃ path, package.licenseFile = some path ∧ path ∉ state.seenLicenseFiles ∧
        p.1 = package.name ∧ p.2 ∈ licenseTexts env path := by
  unfold processLicenseFile
  cases package.licenseFile with
  | none => simp
  | some path =>
    by_cases seen : path ∈ state.seenLicenseFiles
    · simp [seen]
    · simp [seen, mem_pairs_matchLicenseFile]

theorem mem_seen_processLicenseFile (package : Package) (path : FsPath) :
    path ∈ (processLicenseFile env package state).seenLicenseFiles ↔
      path ∈ state.seenLicenseFiles ∨ package.licenseFile = some path := by
  unfold processLicenseFile
  cases package.licenseFile with
  | none => simp
  | some path' =>
    by_cases seen : path' ∈ state.seenLicenseFiles
    · simp only [seen, if_true, Option.some.injEq]
      exact ⟨.inl, fun known => known.elim id fun same => same ▸ seen⟩
    · simp only [seen, if_false, matchLicenseFile_seenLicenseFiles, List.mem_cons, Option.some.injEq]
      rw [or_comm, eq_comm]

/-! ### The contents -/

theorem mem_pairs_commentHandler (relativePath : FsPath) (package : Package) (s : Bool × ProcessState)
    (comment : String) (p : String × String) :
    p ∈ pairs (commentHandler env relativePath package s comment).2.licenseMap ↔
      p ∈ pairs s.2.licenseMap ∨ p ∈ commentPairs env package.name comment := by
  unfold commentHandler commentPairs
  by_cases header : env.kHeaderLicense comment = true
  · simp only [header, if_true]
    unfold matchedTexts
    cases env.data.catalog.findMatch comment with
    | error status => simp
    | ok found => simp [mem_pairs_addMatches]
  · simp [header]

theorem mem_pairs_processNotice (relativePath : FsPath) (state : ProcessState) (notice : String × String)
    (p : String × String) :
    p ∈ pairs (processNotice env relativePath state notice).licenseMap ↔
      p ∈ pairs state.licenseMap ∨ p ∈ noticePairs env notice := by
  obtain ⟨projects, license⟩ := notice
  simp only [processNotice, noticePairs, matchedTexts]
  cases env.data.catalog.findMatch license with
  | error status => simp
  | ok found => simp [mem_pairs_addProjects]

theorem processContents_seenLicenseFiles (fullPath : FsPath) (package : Package) (file : String) :
    (processContents env fullPath package file state).2.seenLicenseFiles = state.seenLicenseFiles := by
  have comment : ∀ (s : Bool × ProcessState) comment,
      (commentHandler env (relativePath env fullPath) package s comment).2.seenLicenseFiles = s.2.seenLicenseFiles := by
    intro s comment
    unfold commentHandler
    by_cases header : env.kHeaderLicense comment = true
    · simp only [header, if_true]
      cases env.data.catalog.findMatch comment with
      | error status => simp
      | ok found => rfl
    · simp [header]
  have notice : ∀ (s : ProcessState) notice,
      (processNotice env (relativePath env fullPath) s notice).seenLicenseFiles = s.seenLicenseFiles := by
    rintro s ⟨projects, license⟩
    simp only [processNotice]
    cases env.data.catalog.findMatch license with
    | error status => simp
    | ok found => rfl
  unfold processContents
  split
  · exact List.foldlRecOn (motive := fun s : ProcessState => s.seenLicenseFiles = state.seenLicenseFiles) _ _ rfl
      fun s kept n _ => (notice s n).trans kept
  · exact List.foldlRecOn (motive := fun s : Bool × ProcessState => s.2.seenLicenseFiles = state.seenLicenseFiles) _ _
      rfl fun s kept c _ => (comment s c).trans kept

theorem mem_pairs_processContents {fullPath : FsPath} {file : String} (isIncluded : included env fullPath = true)
    (mapped : mmapFile env fullPath = .ok file) :
    p ∈ pairs (processContents env fullPath (packageOf env fullPath) file state).2.licenseMap ↔
      p ∈ pairs state.licenseMap ∨ p ∈ contentsPairs env fullPath := by
  unfold processContents contentsPairs
  simp only [isIncluded, if_true, mapped]
  by_cases notices : fullPath.filename = "NOTICES"
  · simp only [notices, if_true]
    exact @mem_foldl_of_adds _ _ _ _ (fun s : ProcessState => pairs s.licenseMap) _
      (mem_pairs_processNotice (relativePath env fullPath)) (env.notices file) state p
  · simp only [notices, if_false]
    exact @mem_foldl_of_adds _ _ _ _ (fun s : Bool × ProcessState => pairs s.2.licenseMap) _
      (mem_pairs_commentHandler (relativePath env fullPath) (packageOf env fullPath)) (commentsOrText env file)
      (false, state) p

/-! ## Runs -/

structure Adds (env : Environment) (fullPath : FsPath) (state state' : ProcessState) : Prop where
  pairs : ∀ p, p ∈ pairs state'.licenseMap ↔ p ∈ pairs state.licenseMap ∨ p ∈ contentsPairs env fullPath ∨
    ∃ path, licenseFileOf env fullPath = some path ∧ path ∉ state.seenLicenseFiles ∧
      p.1 = (packageOf env fullPath).name ∧ p.2 ∈ licenseTexts env path
  seen : ∀ path, path ∈ state'.seenLicenseFiles ↔
    path ∈ state.seenLicenseFiles ∨ licenseFileOf env fullPath = some path

theorem processFile_adds {fullPath : FsPath} (readable : Readable env fullPath) (state : ProcessState) :
    ∃ state', processFile env fullPath state = (.ok (), state') ∧ Adds env fullPath state state' := by
  by_cases isIncluded : included env fullPath = true
  · have licensed := @mem_pairs_processLicenseFile env state
    have seen := @mem_seen_processLicenseFile env state
    have known : licenseFileOf env fullPath = (packageOf env fullPath).licenseFile := by
      rw [licenseFileOf, if_pos isIncluded]
    simp only [processFile, isIncluded, Bool.not_true, Bool.false_eq_true, if_false]
    rw [show getPackage env (relativePath env fullPath) = packageOf env fullPath from rfl]
    cases mapped : mmapFile env fullPath with
    | error status =>
      -- The file is empty.
      obtain ⟨contents, here⟩ := readable
      have empty : status.code = .invalidArgument := by
        rw [mmapFile, here] at mapped
        simp only at mapped
        split at mapped <;> cases mapped
        rfl
      have nothing : contentsPairs env fullPath = [] := by simp [contentsPairs, mapped]
      refine ⟨processLicenseFile env (packageOf env fullPath) state, by simp only [empty, if_true], ?_, ?_⟩
      · intro p
        simp [licensed, nothing, known]
      · intro path
        simp [seen, known]
    | ok file =>
      refine ⟨_, rfl, ?_, ?_⟩
      · intro p
        have added := @mem_pairs_processContents env (processLicenseFile env (packageOf env fullPath) state) p
          fullPath file isIncluded mapped
        rw [apply_ite ProcessState.licenseMap, noCopyright_licenseMap, ite_self, added, licensed, known]
        rw [or_assoc, or_comm (b := p ∈ contentsPairs env fullPath)]
      · intro path
        rw [apply_ite ProcessState.seenLicenseFiles, noCopyright_seenLicenseFiles, ite_self,
          processContents_seenLicenseFiles, seen, known]
  · refine ⟨state, by simp [processFile, isIncluded], ?_, ?_⟩
    · intro p
      simp [contentsPairs, licenseFileOf, isIncluded]
    · intro path
      simp [licenseFileOf, isIncluded]

variable {files : List FsPath}

theorem mem_pairs_processFiles (readable : ∀ file ∈ files, Readable env file)
    (state : ProcessState) (p : String × String) : p ∈ pairs (processFiles env files state).2.licenseMap ↔
      p ∈ pairs state.licenseMap ∨ (∃ file ∈ files, p ∈ contentsPairs env file) ∨
        ∃ path file, FirstOfKey (licenseFileOf env) path file files ∧ path ∉ state.seenLicenseFiles ∧
          p.1 = (packageOf env file).name ∧ p.2 ∈ licenseTexts env path := by
  induction files generalizing state with
  | nil => simp [processFiles]
  | cons file files ih =>
    obtain ⟨state', done, adds⟩ := processFile_adds (readable file (by simp)) state
    rw [processFiles, done]
    simp only
    rw [ih (fun other mem => readable other (by simp [mem])) state', adds.pairs]
    simp only [adds.seen, FirstOfKey.cons_iff, List.mem_cons, exists_eq_or_imp, not_or]
    constructor
    · rintro ((old | here | ⟨path, keyed, fresh, named⟩) | ⟨other, mem, there⟩ | ⟨path, other, first, fresh, named⟩)
      · exact .inl old
      · exact .inr (.inl (.inl here))
      · exact .inr (.inr ⟨path, file, .inl ⟨rfl, keyed⟩, fresh, named⟩)
      · exact .inr (.inl (.inr ⟨other, mem, there⟩))
      · exact .inr (.inr ⟨path, other, .inr ⟨fresh.2, first⟩, fresh.1, named⟩)
    · rintro (old | (here | ⟨other, mem, there⟩) | ⟨path, other, ⟨rfl, keyed⟩ | ⟨unlike, first⟩, fresh, named⟩)
      · exact .inl (.inl old)
      · exact .inl (.inr (.inl here))
      · exact .inr (.inl ⟨other, mem, there⟩)
      · exact .inl (.inr (.inr ⟨path, keyed, fresh, named⟩))
      · exact .inr (.inr ⟨path, other, first, ⟨fresh, unlike⟩, named⟩)

/-- The attributions of a list: those of the contents, and those of each license file for the package of the first
    file that has it. -/
theorem mem_pairs_licenses (readable : ∀ file ∈ files, Readable env file) (p : String × String) :
    p ∈ pairs (licenses env files) ↔ (∃ file ∈ files, p ∈ contentsPairs env file) ∨
      ∃ path file, FirstOfKey (licenseFileOf env) path file files ∧
        p.1 = (packageOf env file).name ∧ p.2 ∈ licenseTexts env path := by
  rw [licenses, mem_pairs_processFiles readable]
  simp [ProcessState.initial]

/-! ## The order of the files -/

def Attributed (env : Environment) (files : List FsPath) : Prop :=
  (∀ files', files'.Perm files → pairs (licenses env files') = pairs (licenses env files)) ∧
    ∀ file ∈ files, ∀ path, licenseFileOf env file = some path → ∀ text ∈ licenseTexts env path,
      ((packageOf env file).name, text) ∈ pairs (licenses env files)

/-- The contents of a file attribute the text to the name, or a license file with that text does, which files of no
    package with another name have. -/
def Sourced (env : Environment) (files : List FsPath) (name text : String) : Prop :=
  (∃ file ∈ files, (name, text) ∈ contentsPairs env file) ∨
    ∃ path, text ∈ licenseTexts env path ∧ (∃ file ∈ files, licenseFileOf env file = some path) ∧
      ∀ file ∈ files, licenseFileOf env file = some path → (packageOf env file).name = name

variable {name text : String}

theorem mem_pairs_of_sourced (readable : ∀ file ∈ files, Readable env file)
    (sourced : Sourced env files name text) : (name, text) ∈ pairs (licenses env files) := by
  rw [mem_pairs_licenses readable]
  obtain here | ⟨path, mem, ⟨file, there, keyed⟩, alone⟩ := sourced
  · exact .inl here
  · obtain ⟨first, isFirst⟩ := FirstOfKey.exists_of_mem there keyed
    exact .inr ⟨path, first, isFirst, (alone first isFirst.mem isFirst.key_eq).symm, mem⟩

theorem Sourced.perm {files' : List FsPath} (perm : files'.Perm files)
    (sourced : Sourced env files name text) : Sourced env files' name text := by
  simpa only [Sourced, perm.mem_iff] using sourced

theorem sourced_of_mem_pairs (readable : ∀ file ∈ files, Readable env file) (last : (name, text) ∈ pairs (licenses env
      (FirstOfKey.moveLast (fun file => (packageOf env file).name == name) files))) : Sourced env files name text := by
  have perm := FirstOfKey.moveLast_perm (fun file => (packageOf env file).name == name) files
  rw [mem_pairs_licenses fun file mem => readable file (perm.mem_iff.mp mem)] at last
  obtain ⟨file, mem, here⟩ | ⟨path, file, first, named, text⟩ := last
  · exact .inl ⟨file, perm.mem_iff.mp mem, here⟩
  · refine .inr ⟨path, text, ⟨file, perm.mem_iff.mp first.mem, first.key_eq⟩, ?_⟩
    intro other mem keyed
    have same := first.all_of_moveLast (by simpa using named.symm) mem keyed
    simpa using same

/-- The licenses are attributed, in whatever order, exactly if each text of a file's license file has a source for the
    file's package other than being seen first. -/
theorem attributed_iff {files : List FsPath} (readable : ∀ file ∈ files, Readable env file) :
    Attributed env files ↔
      ∀ file ∈ files, ∀ path, licenseFileOf env file = some path → ∀ text ∈ licenseTexts env path,
        Sourced env files (packageOf env file).name text := by
  constructor
  · rintro ⟨sameInEachOrder, paired⟩ file mem path keyed text matched
    apply sourced_of_mem_pairs readable
    rw [sameInEachOrder _ (FirstOfKey.moveLast_perm _ files)]
    exact paired file mem path keyed text matched
  · intro sourced
    refine ⟨fun files' perm => ?_, ?_⟩
    · have readable' : ∀ file ∈ files', Readable env file := fun file mem => readable file (perm.mem_iff.mp mem)
      -- What the first file of a license gives in one order has a source, and so is there in the other.
      ext ⟨name, text⟩
      constructor
      · intro attributed
        obtain ⟨file, mem, here⟩ | ⟨path, file, first, rfl, matched⟩ := (mem_pairs_licenses readable' _).mp attributed
        · exact mem_pairs_of_sourced readable (.inl ⟨file, perm.mem_iff.mp mem, here⟩)
        · exact mem_pairs_of_sourced readable
            (sourced file (perm.mem_iff.mp first.mem) path first.key_eq text matched)
      · intro attributed
        obtain ⟨file, mem, here⟩ | ⟨path, file, first, rfl, matched⟩ := (mem_pairs_licenses readable _).mp attributed
        · exact mem_pairs_of_sourced readable' (.inl ⟨file, perm.mem_iff.mpr mem, here⟩)
        · exact mem_pairs_of_sourced readable' ((sourced file first.mem path first.key_eq text matched).perm perm)
    · intro file mem path keyed text matched
      exact mem_pairs_of_sourced readable (sourced file mem path keyed text matched)

/-! ### A license of two packages -/

def oneLicense : Catalog where
  entries := [⟨"mit", fun query => if query = "MIT License" then some (query, some (0, 11)) else none⟩]
  selector query := if query = "MIT License" then [⟨0, by simp⟩] else []

def vulkanDeps (file : FsPath) : FsPath := ["/", "src", "third_party", "vulkan-deps"] ++ file

/-- A license in an ignored directory, with a file beside it and a file of a package below it. -/
def sharedLicense : Environment where
  workingDir := ["/", "src"]
  data := ⟨fun _ => true, fun _ => false, oneLicense⟩
  flags := ⟨false, some "engine"⟩
  tree path := [(vulkanDeps ["LICENSE"], FileEntry.file "MIT License"), (vulkanDeps ["a.cc"], .file "int a;"),
    (vulkanDeps ["foobar", "b.cc"], .file "int b;")].lookup path
  kHeaderLicense comment := comment == "MIT License"
  iterateComments _ := []
  notices _ := []

/-- Without the package below, the license is attributed to the one package that has it. -/
theorem attributed_of_one_package : Attributed sharedLicense [vulkanDeps ["a.cc"], vulkanDeps ["LICENSE"]] := by
  have named : ∀ file ∈ [vulkanDeps ["a.cc"], vulkanDeps ["LICENSE"]],
      (packageOf sharedLicense file).name = "vulkan-deps" := by
    simp only [List.forall_mem_cons, List.not_mem_nil, false_implies, implies_true, and_true]
    exact ⟨rfl, rfl⟩
  refine (attributed_iff ?_).mpr ?_
  · simp only [List.forall_mem_cons, List.not_mem_nil, false_implies, implies_true, and_true]
    exact ⟨⟨_, rfl⟩, ⟨_, rfl⟩⟩
  · intro file mem path keyed text matched
    refine .inr ⟨path, matched, ⟨file, mem, keyed⟩, fun other mem' _ => ?_⟩
    rw [named other mem', named file mem]

/-- With both packages, the license is attributed to the one whose file comes first. -/
theorem not_attributed_of_shared_license :
    ¬ ∀ (env : Environment) (files : List FsPath), (∀ file ∈ files, Readable env file) → Attributed env files := by
  intro attributed
  have readable : ∀ file ∈ [vulkanDeps ["a.cc"], vulkanDeps ["foobar", "b.cc"]], Readable sharedLicense file := by
    simp only [List.forall_mem_cons, List.not_mem_nil, false_implies, implies_true, and_true]
    exact ⟨⟨_, rfl⟩, ⟨_, rfl⟩⟩
  have same := (attributed sharedLicense _ readable).1 [vulkanDeps ["foobar", "b.cc"], vulkanDeps ["a.cc"]]
    (List.Perm.swap _ _ _)
  have one : licenses sharedLicense [vulkanDeps ["a.cc"], vulkanDeps ["foobar", "b.cc"]] =
      [("MIT License", ["vulkan-deps"])] := rfl
  have other : licenses sharedLicense [vulkanDeps ["foobar", "b.cc"], vulkanDeps ["a.cc"]] =
      [("MIT License", ["foobar"])] := rfl
  have mem : ("vulkan-deps", "MIT License") ∈ pairs [("MIT License", ["vulkan-deps"])] := by simp [pairs]
  rw [one, other] at same
  rw [← same] at mem
  simp [pairs] at mem

end FlutterZero.LicensesCpp.LicenseChecker
