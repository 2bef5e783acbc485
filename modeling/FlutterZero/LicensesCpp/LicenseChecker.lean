import Mathlib.Data.List.Basic

/-! # The license checker

`license_checker.cc` with what it uses of `catalog.cc`, `filter.h` and `mmap_file.cc`: each file is
attributed to a package, the license file of the package is matched when it is seen for the first
time, and the comments of the file are matched on behalf of its package.

Regular expressions and the scanner of comments are functions of a text.
-/

namespace FlutterZero.LicensesCpp

/-! ## Paths -/

/-- The elements of a path: the root directory is `"/"`, a separator at the end an empty element. -/
abbrev FsPath := List String

namespace FsPath

def isAbsolute (p : FsPath) : Bool := p.head? == some "/"

def filename (p : FsPath) : String :=
  match p.getLast? with
  | none => ""
  | some name => if name = "/" then "" else name

def parentPath (p : FsPath) : FsPath := if p = ["/"] then p else p.dropLast

/-- The `/` of paths, of a relative path. -/
def append (p relative : FsPath) : FsPath := (if p.getLast? = some "" then p.dropLast else p) ++ relative

def string : FsPath → String
  | "/" :: rest => "/" ++ "/".intercalate rest
  | p => "/".intercalate p

def isFilename (part : String) : Bool := part != "/" && part != ".."

/-- One part of `lexically_normal`: the parts before it in reverse, and whether a separator may be needed at the end. -/
def normalStep : List String × Bool → String → List String × Bool
  | (parts, _), "" => (parts, true)
  | (parts, _), "." => (parts, true)
  | (parts, _), ".." =>
    match parts with
    | [] => ([".."], false)
    | last :: before =>
      if isFilename last then (before, true)
      else if last = "/" then (parts, false)
      else (".." :: parts, false)
  | (parts, _), part => (part :: parts, false)

def lexicallyNormal (p : FsPath) : FsPath :=
  if p = [] then []
  else
    match p.foldl normalStep ([], false) with
    | ([], _) => ["."]
    | (last :: before, trailing) =>
      (last :: before).reverse ++ if trailing && isFilename last then [""] else []

/-- The number of elements which are not dot or dot-dot minus the number of dot-dot elements. -/
def lexicalElementCount (p : FsPath) : Int :=
  p.foldl (fun n part => if part = ".." then n - 1 else if part = "." ∨ part = "" then n else n + 1) 0

/-- `lexically_relative` from the first mismatch on. -/
def relativeFromMismatch : FsPath → FsPath → FsPath
  | a :: p, b :: base =>
    if a = b then relativeFromMismatch p base else fromElements (a :: p) (lexicalElementCount (b :: base))
  | [], [] => ["."]
  | p, base => fromElements p (lexicalElementCount base)
where
  fromElements (p : FsPath) (n : Int) : FsPath :=
    if n < 0 then []
    else if n = 0 ∧ (p = [] ∨ p.head? = some "") then ["."]
    else List.replicate n.toNat ".." ++ p

def lexicallyRelative (p base : FsPath) : FsPath :=
  if p.isAbsolute = base.isAbsolute then relativeFromMismatch p base else []

end FsPath

/-! ## Results -/

inductive StatusCode where
  | invalidArgument
  | notFound
  | unavailable
deriving DecidableEq, Repr

/-- An `absl::Status` that is not ok. -/
structure Status where
  code : StatusCode
  message : String
deriving DecidableEq, Repr

/-! ## The catalog -/

/-- `Catalog::Match`. -/
structure Match where
  matcher : String
  matchedText : String
  /-- Where the text is in the query; `none` if the match owns its text, or the text is empty. -/
  range : Option (Nat × Nat)
deriving DecidableEq, Repr

structure CatalogEntry where
  name : String
  matcher : String → Option (String × Option (Nat × Nat))

structure Catalog where
  entries : List CatalogEntry
  selector : String → List (Fin entries.length)

namespace Catalog

def overlaps (a b : Match) : Bool :=
  match a.range, b.range with
  | some (start1, end1), some (start2, end2) => start1 < end2 && start2 < end1
  | _, _ => false

def findOverlap : List Match → Option (Match × Match)
  | [] => none
  | result :: results =>
    match results.find? (overlaps result) with
    | some other => some (result, other)
    | none => findOverlap results

/-- `FindMatchForSelectedMatcher` -/
def findMatchForSelectedMatcher (entry : CatalogEntry) (query : String) : Option Match :=
  (entry.matcher query).map fun found => ⟨entry.name, found.1, found.2⟩

def findMatch (catalog : Catalog) (query : String) : Except Status (List Match) :=
  let selected := (catalog.selector query).map catalog.entries.get
  if selected = [] then .error ⟨.notFound, "Selector didn't match."⟩
  else
    let results := selected.filterMap fun entry => findMatchForSelectedMatcher entry query
    let missed := selected.filter fun entry => (findMatchForSelectedMatcher entry query).isNone
    if missed ≠ [] then
      .error ⟨.notFound, "Selected matcher(s) (" ++ ", ".intercalate (missed.map CatalogEntry.name) ++
        ") didn't match." ++
        if results = [] then ""
        else " Hit matcher(s): (" ++ ", ".intercalate (results.map Match.matcher) ++ ")"⟩
    else
      match findOverlap results with
      | some (a, b) => .error ⟨.invalidArgument, "Selected matchers overlap (" ++ a.matcher ++ ", " ++ b.matcher ++
          ").\n" ++ a.matchedText ++ "\n############\n" ++ b.matchedText⟩
      | none => .ok results

end Catalog

/-! ## The checker -/

structure Flags where
  treatUnmatchedCommentsAsErrors : Bool
  rootPackageName : Option String
deriving DecidableEq, Repr

structure LicenseData where
  includeFilter : String → Bool
  excludeFilter : String → Bool
  catalog : Catalog

inductive FileEntry where
  | file (contents : String)
  /-- A directory, or a file that cannot be mapped. -/
  | unavailable (message : String)
deriving DecidableEq, Repr

structure Environment where
  workingDir : FsPath
  data : LicenseData
  flags : Flags
  tree : FsPath → Option FileEntry
  /-- Whether `(?i)(license|copyright)` matches a part of a comment. -/
  kHeaderLicense : String → Bool
  iterateComments : String → List String
  /-- The projects and the license of each notice that `RE2::FindAndConsume` finds in a file. -/
  notices : String → List (String × String)

structure Package where
  name : String
  licenseFile : Option FsPath
  isRootPackage : Bool
deriving DecidableEq, Repr

def kLicenseFileNames : List FsPath :=
  [["LICENSE"], ["LICENSE.TXT"], ["LICENSE.txt"], ["LICENSE.md"], ["LICENSE.MIT"], ["COPYING"], ["License.txt"],
    ["docs", "FTL.TXT"], ["README.ijg"]]

/-- Directories in `third_party` that are ignored as package names. -/
def kThirdPartyIgnore : List String := ["pkg", "vulkan-deps"]

namespace LicenseChecker

variable (env : Environment)

/-- `MMapFile::Make` -/
def mmapFile (path : FsPath) : Except Status String :=
  match env.tree path with
  | none => .error ⟨.unavailable, "can't open file"⟩
  | some (.unavailable message) => .error ⟨.unavailable, message⟩
  | some (.file contents) =>
    if contents = "" then .error ⟨.invalidArgument, "file of zero length"⟩ else .ok contents

def findLicense (relativePath : FsPath) : Option FsPath :=
  kLicenseFileNames.findSome? fun licenseName =>
    let relativeLicensePath := (relativePath.append licenseName).lexicallyNormal
    let fullLicensePath := env.workingDir.append relativeLicensePath
    if (env.tree fullLicensePath).isSome && !env.data.excludeFilter relativeLicensePath.string then
      some fullLicensePath
    else none

/-- This makes sure trailing slashes on paths are treated the same. -/
def getDirFilename (workingDir : FsPath) : String :=
  if workingDir.filename = "" then workingDir.parentPath.filename else workingDir.filename

/-- The variables of the loop of `GetPackage`. -/
structure PackageSearch where
  result : Package
  afterThirdParty : Bool
  afterIgnoredThirdParty : Bool
  current : FsPath
deriving DecidableEq, Repr

def PackageSearch.rename (search : PackageSearch) (name : String) : PackageSearch :=
  { search with result := { search.result with name := name } }

/-- The search for a license in the directory `component` of the current one. -/
def PackageSearch.enter (search : PackageSearch) (component : String) : PackageSearch :=
  let current := search.current.append [component]
  { search with
    current := current
    result :=
      match findLicense env current with
      | some license => { search.result with licenseFile := some license }
      | none => search.result }

def PackageSearch.step (search : PackageSearch) (component : String) : PackageSearch :=
  let search := search.enter env component
  if search.afterIgnoredThirdParty then
    { search.rename component with afterIgnoredThirdParty := false }
  else if search.afterThirdParty then
    { search.rename component with
      afterIgnoredThirdParty := search.afterIgnoredThirdParty || decide (component ∈ kThirdPartyIgnore)
      afterThirdParty := false }
  else if component = "third_party" then
    { search with
      afterThirdParty := true
      result := { search.result with licenseFile := none, isRootPackage := false } }
  else search

section

theorem lawfulBEq_fsPath : LawfulBEq FsPath := inferInstance

attribute [local instance] lawfulBEq_fsPath

def getPackage (relativePath : FsPath) : Package :=
  let rootPackageName := env.flags.rootPackageName.getD (getDirFilename env.workingDir)
  let start : PackageSearch := ⟨⟨rootPackageName, findLicense env ["."], true⟩, false, false, ["."]⟩
  let result := (relativePath.parentPath.foldl (PackageSearch.step env) start).result
  if [relativePath.filename] ∈ kLicenseFileNames then
    { result with licenseFile := some (env.workingDir.append relativePath) }
  else result

end

/-! ## The licenses found -/

abbrev LicenseMap := List (String × List String)

/-- `LicenseMap::Add` -/
def LicenseMap.add (package license : String) : LicenseMap → LicenseMap
  | [] => [(license, [package])]
  | (seen, packages) :: rest =>
    if license = seen then (seen, if package ∈ packages then packages else packages ++ [package]) :: rest
    else if license < seen then (license, [package]) :: (seen, packages) :: rest
    else (seen, packages) :: LicenseMap.add package license rest

def addMatches (package : String) (found : List Match) (licenseMap : LicenseMap) : LicenseMap :=
  found.foldl (fun licenseMap found => licenseMap.add package found.matchedText) licenseMap

/-- State stored across calls to `ProcessFile`. -/
structure ProcessState where
  licenseMap : LicenseMap
  errors : List Status
  seenLicenseFiles : List FsPath
deriving DecidableEq, Repr

def ProcessState.initial : ProcessState := ⟨[], [], []⟩

def ProcessState.fail (state : ProcessState) (status : Status) : ProcessState :=
  { state with errors := state.errors ++ [status] }

/-- `MatchLicenseFile`, of a package that has the license file `path`. -/
def matchLicenseFile (path : FsPath) (package : Package) (state : ProcessState) : ProcessState :=
  match mmapFile env path with
  | .error status => state.fail status
  | .ok license =>
    match env.data.catalog.findMatch license with
    | .ok found => { state with licenseMap := addMatches package.name found state.licenseMap }
    | .error status =>
      state.fail ⟨.notFound, "Unknown license in " ++ path.lexicallyNormal.string ++ " : " ++ status.message⟩

section

attribute [local instance] lawfulBEq_fsPath

/-- What `ProcessFile` does about the license file of the package. -/
def processLicenseFile (package : Package) (state : ProcessState) : ProcessState :=
  match package.licenseFile with
  | none => state
  | some path =>
    if path ∈ state.seenLicenseFiles then state
    else matchLicenseFile env path package { state with seenLicenseFiles := path :: state.seenLicenseFiles }

end

def unmatched (relativePath : FsPath) (text : String) (status : Status) (state : ProcessState) : ProcessState :=
  if env.flags.treatUnmatchedCommentsAsErrors then
    state.fail ⟨.notFound, relativePath.lexicallyNormal.string ++ " : " ++ status.message ++ "\n" ++ text⟩
  else state

/-- The `comment_handler`; `did_find_copyright` is before the state. -/
def commentHandler (relativePath : FsPath) (package : Package) : Bool × ProcessState → String → Bool × ProcessState
  | (didFindCopyright, state), comment =>
    if env.kHeaderLicense comment then
      match env.data.catalog.findMatch comment with
      | .ok found => (true, { state with licenseMap := addMatches package.name found state.licenseMap })
      | .error status => (didFindCopyright, unmatched env relativePath comment status state)
    else (didFindCopyright, state)

/-- If there is no comment, the input may be a text file: its full text is matched. -/
def commentsOrText (file : String) : List String :=
  if env.iterateComments file = [] then [file] else env.iterateComments file

def processSourceCode (relativePath : FsPath) (file : String) (package : Package) (state : ProcessState) :
    Bool × ProcessState :=
  (commentsOrText env file).foldl (commentHandler env relativePath package) (false, state)

/-- `SplitLines`, with what has been read of a line in reverse. -/
def splitLinesFrom (line : List Char) : List Char → List String
  | [] => [String.ofList line.reverse]
  | c :: rest =>
    if c ≠ '\n' then splitLinesFrom (c :: line) rest
    else if line = [] then splitLinesFrom [] rest
    else String.ofList line.reverse :: splitLinesFrom [] rest

def splitLines (input : String) : List String := splitLinesFrom [] input.toList

def addProjects (projects : List String) (found : List Match) (licenseMap : LicenseMap) : LicenseMap :=
  found.foldl (fun licenseMap found =>
    projects.foldl (fun licenseMap project => licenseMap.add project found.matchedText) licenseMap) licenseMap

def processNotice (relativePath : FsPath) (state : ProcessState) : String × String → ProcessState
  | (projects, license) =>
    match env.data.catalog.findMatch license with
    | .ok found => { state with licenseMap := addProjects (splitLines projects) found state.licenseMap }
    | .error status => unmatched env relativePath license status state

/-- Not having a license in a NOTICES file isn't technically a problem. -/
def processNotices (relativePath : FsPath) (file : String) (state : ProcessState) : Bool × ProcessState :=
  (true, (env.notices file).foldl (processNotice env relativePath) state)

def noCopyright (relativePath : FsPath) (package : Package) (state : ProcessState) : ProcessState :=
  match package.licenseFile with
  | some _ =>
    if package.isRootPackage then
      state.fail ⟨.notFound, "Expected root copyright in " ++ relativePath.lexicallyNormal.string⟩
    else state
  | none => state.fail ⟨.notFound, "Expected copyright in " ++ relativePath.lexicallyNormal.string⟩

def relativePath (fullPath : FsPath) : FsPath := fullPath.lexicallyRelative env.workingDir

/-- Whether the filters let a file through. -/
def included (fullPath : FsPath) : Bool :=
  env.data.includeFilter (relativePath env fullPath).string &&
    !env.data.excludeFilter (relativePath env fullPath).string

/-- What `ProcessFile` does with the contents of a file. -/
def processContents (fullPath : FsPath) (package : Package) (file : String) (state : ProcessState) :
    Bool × ProcessState :=
  if fullPath.filename = "NOTICES" then processNotices env (relativePath env fullPath) file state
  else processSourceCode env (relativePath env fullPath) file package state

def processFile (fullPath : FsPath) (state : ProcessState) : Except Status Unit × ProcessState :=
  let relativePath := relativePath env fullPath
  if !included env fullPath then (.ok (), state)
  else
    let package := getPackage env relativePath
    let state := processLicenseFile env package state
    match mmapFile env fullPath with
    | .error status =>
      if status.code = .invalidArgument then (.ok (), state) else (.error status, state.fail status)
    | .ok file =>
      let (didFindCopyright, state) := processContents env fullPath package file state
      (.ok (), if didFindCopyright then state else noCopyright relativePath package state)

/-- The files one after the other, up to a failure. -/
def processFiles : List FsPath → ProcessState → Except Status Unit × ProcessState
  | [], state => (.ok (), state)
  | fullPath :: rest, state =>
    match processFile env fullPath state with
    | (.ok (), state) => processFiles rest state
    | (.error status, state) => (.error status, state)

def licenses (files : List FsPath) : LicenseMap := (processFiles env files .initial).2.licenseMap

end LicenseChecker

end FlutterZero.LicensesCpp
