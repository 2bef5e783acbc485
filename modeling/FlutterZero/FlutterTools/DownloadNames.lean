import FlutterZero.Lib.PrefixCode
import FlutterZero.Lib.Text

/-! # Names of downloaded files

`flattenNameSubdirs` (`cache.dart`) makes a relative path of a URL, one component for the host and one for each
segment of its path, in which the characters that a file system may not allow are substituted.

* `isPrefixCode_substitution` — the substitution can be undone;
* `splitOn_flattenNameSubdirs` — the components of the path are what the pieces become;
* `flattenNameSubdirs_distinct` — files of different URLs have different names.
-/

namespace FlutterZero.FlutterTools.DownloadNames

open FlutterZero.Lib InformationTheory

structure Uri where
  host : Utf16
  pathSegments : List Utf16
deriving DecidableEq

/-- A `Context` of the package `path`. -/
structure PathContext where
  separator : UInt16
  joinAll : List Utf16 → Utf16

structure ArtifactUpdater where
  /-- The path of `_tempStorage`. -/
  tempStorage : Utf16
  downloadedFiles : List Utf16
deriving DecidableEq

/-! ## The source -/

def codeUnitOf (c : Char) : UInt16 := UInt16.ofNat c.toNat

def flattenNameSubstitutions : List (UInt16 × Utf16) :=
  [('@', ['@', '@']),
   ('/', ['@', 's', '@']),
   ('\\', ['@', 'b', 's', '@']),
   (':', ['@', 'c', '@']),
   ('%', ['@', 'p', 'e', 'r', '@']),
   ('*', ['@', 'a', 's', 't', '@']),
   ('<', ['@', 'l', 't', '@']),
   ('>', ['@', 'g', 't', '@']),
   ('"', ['@', 'q', '@']),
   ('|', ['@', 'p', 'i', 'p', '@']),
   ('?', ['@', 'q', 'u', 'e', 's', '@'])].map fun (c, code) => (codeUnitOf c, units code)

/-- `_flattenNameSubstitutions[codeUnit] ?? <int>[codeUnit]` -/
def substitution (codeUnit : UInt16) : Utf16 := (flattenNameSubstitutions.lookup codeUnit).getD [codeUnit]

def flattenNameNoSubdirs (fileName : Utf16) : Utf16 := fileName.flatMap substitution

def Uri.pieces (url : Uri) : List Utf16 := url.host :: url.pathSegments

def flattenNameSubdirs (context : PathContext) (url : Uri) : Utf16 :=
  context.joinAll (url.pieces.map flattenNameNoSubdirs)

def createDownloadFile (context : PathContext) (updater : ArtifactUpdater) (name : Utf16) : Utf16 × ArtifactUpdater :=
  let tempFile := context.joinAll [updater.tempStorage, name]
  (tempFile, { updater with downloadedFiles := updater.downloadedFiles ++ [tempFile] })

/-! ## Paths -/

def slash : UInt16 := codeUnitOf '/'

def backslash : UInt16 := codeUnitOf '\\'

def colon : UInt16 := codeUnitOf ':'

/-- A component that is neither a root nor a drive in either style. -/
structure IsName (part : Utf16) : Prop where
  nonempty : part ≠ []
  noSlash : slash ∉ part
  noBackslash : backslash ∉ part
  noColon : colon ∉ part

structure IsRelative (path : Utf16) : Prop where
  nonempty : path ≠ []
  noRoot : path.head? ≠ some slash ∧ path.head? ≠ some backslash
  noColon : colon ∉ path

/-- What is documented about `joinAll`, for POSIX and for Windows. -/
structure PathContext.Joins (context : PathContext) : Prop where
  separates : context.separator = slash ∨ context.separator = backslash
  names : ∀ parts : List Utf16, (∀ part ∈ parts, IsName part) →
    context.joinAll parts = [context.separator].intercalate parts
  /-- A relative path is put behind the directory, with or without a separator. -/
  below : ∀ directory, ∃ start, ∀ path, IsRelative path → context.joinAll [directory, path] = start ++ path

/-! ## The substitution -/

theorem codes_start : ∀ entry ∈ flattenNameSubstitutions, ∃ code, entry.2 = codeUnitOf '@' :: code ∧ code ≠ [] := by
  simp [flattenNameSubstitutions, units, codeUnitOf]

theorem codes_free : ∀ entry ∈ flattenNameSubstitutions, ∀ other ∈ flattenNameSubstitutions,
    entry.2 <+: other.2 → entry.1 = other.1 := by
  decide

theorem substitution_cases (codeUnit : UInt16) :
    (∃ code, (codeUnit, codeUnitOf '@' :: code) ∈ flattenNameSubstitutions ∧ code ≠ [] ∧
      substitution codeUnit = codeUnitOf '@' :: code) ∨
    (∀ entry ∈ flattenNameSubstitutions, codeUnit ≠ entry.1) ∧ substitution codeUnit = [codeUnit] := by
  unfold substitution
  cases found : flattenNameSubstitutions.lookup codeUnit with
  | none => exact .inr ⟨by simpa using List.lookup_eq_none_iff.mp found, rfl⟩
  | some code =>
    obtain ⟨before, after, split, -⟩ := List.lookup_eq_some_iff.mp found
    have entry : (codeUnit, code) ∈ flattenNameSubstitutions := split ▸ by simp
    obtain ⟨code, rfl, more⟩ := codes_start _ entry
    exact .inl ⟨code, entry, more, rfl⟩

theorem isPrefixCode_substitution : IsPrefixCode substitution where
  nonempty codeUnit := by
    rcases substitution_cases codeUnit with ⟨code, -, -, same⟩ | ⟨-, same⟩ <;> simp [same]
  free codeUnit other begins := by
    rcases substitution_cases codeUnit with ⟨code, entry, more, same⟩ | ⟨noEntry, same⟩ <;>
      rcases substitution_cases other with ⟨otherCode, otherEntry, -, otherSame⟩ | ⟨-, otherSame⟩ <;>
      rw [same, otherSame] at begins
    · exact codes_free _ entry _ otherEntry begins
    · -- A code is longer than a code unit that stands for itself.
      exact absurd (List.prefix_nil.mp (List.cons_prefix_cons.mp begins).2) more
    · -- The escape character does not stand for itself.
      have escapes : (codeUnitOf '@', units ['@', '@']) ∈ flattenNameSubstitutions := by decide
      exact absurd (List.cons_prefix_cons.mp begins).1 (noEntry _ escapes)
    · exact (List.cons_prefix_cons.mp begins).1

theorem flattenNameNoSubdirs_injective : Function.Injective flattenNameNoSubdirs :=
  isPrefixCode_substitution.flatMap_injective

/-! ## The components -/

/-- The characters that no component has. -/
def forbidden : List UInt16 := ['/', '\\', ':', '%', '*', '<', '>', '"', '|', '?'].map codeUnitOf

theorem forbidden_substituted : ∀ c ∈ forbidden, ∃ entry ∈ flattenNameSubstitutions, entry.1 = c := by
  simp [forbidden, flattenNameSubstitutions]

theorem codes_allowed : ∀ entry ∈ flattenNameSubstitutions, ∀ c ∈ entry.2, c ∉ forbidden := by
  simp [forbidden, flattenNameSubstitutions, units, codeUnitOf]

variable {fileName : Utf16}

theorem not_forbidden {c : UInt16} (inside : c ∈ flattenNameNoSubdirs fileName) : c ∉ forbidden := by
  obtain ⟨codeUnit, -, inCode⟩ := List.mem_flatMap.mp inside
  rcases substitution_cases codeUnit with ⟨code, entry, -, same⟩ | ⟨noEntry, same⟩
  · exact codes_allowed _ entry c (same ▸ inCode)
  · obtain rfl := List.mem_singleton.mp (same ▸ inCode)
    intro isForbidden
    obtain ⟨entry, member, key⟩ := forbidden_substituted c isForbidden
    exact noEntry entry member key.symm

theorem flattenNameNoSubdirs_eq_nil (empty : flattenNameNoSubdirs fileName = []) : fileName = [] :=
  flattenNameNoSubdirs_injective empty

theorem isName_flattenNameNoSubdirs (nonempty : fileName ≠ []) : IsName (flattenNameNoSubdirs fileName) where
  nonempty empty := nonempty (flattenNameNoSubdirs_eq_nil empty)
  noSlash inside := not_forbidden inside (by decide)
  noBackslash inside := not_forbidden inside (by decide)
  noColon inside := not_forbidden inside (by decide)

theorem eq_of_flattenNameNoSubdirs_eq {plain : Utf16} (stays : flattenNameNoSubdirs plain = plain)
    (same : flattenNameNoSubdirs fileName = plain) : fileName = plain :=
  flattenNameNoSubdirs_injective (same.trans stays.symm)

section Names

variable {context : PathContext} {url other : Uri}

theorem flattenNameSubdirs_eq (joins : context.Joins) (nonempty : ∀ piece ∈ url.pieces, piece ≠ []) :
    flattenNameSubdirs context url = [context.separator].intercalate (url.pieces.map flattenNameNoSubdirs) :=
  joins.names _ (List.forall_mem_map.mpr fun piece member => isName_flattenNameNoSubdirs (nonempty piece member))

theorem splitOn_flattenNameSubdirs (joins : context.Joins) (nonempty : ∀ piece ∈ url.pieces, piece ≠ []) :
    (flattenNameSubdirs context url).splitOn context.separator = url.pieces.map flattenNameNoSubdirs := by
  rw [flattenNameSubdirs_eq joins nonempty]
  apply List.splitOn_intercalate
  · intro component member
    obtain ⟨piece, inPieces, rfl⟩ := List.mem_map.mp member
    have isName := isName_flattenNameNoSubdirs (nonempty piece inPieces)
    rcases joins.separates with same | same <;> rw [same]
    · exact isName.noSlash
    · exact isName.noBackslash
  · simp [Uri.pieces]

theorem pieces_injective : Function.Injective Uri.pieces := by
  rintro ⟨host, segments⟩ ⟨_, _⟩ same
  obtain ⟨rfl, rfl⟩ := List.cons.inj same
  rfl

theorem flattenNameSubdirs_distinct (joins : context.Joins) (nonempty : ∀ piece ∈ url.pieces, piece ≠ [])
    (otherNonempty : ∀ piece ∈ other.pieces, piece ≠ []) (different : url ≠ other) :
    flattenNameSubdirs context url ≠ flattenNameSubdirs context other := by
  intro same
  have components := congrArg (List.splitOn context.separator) same
  rw [splitOn_flattenNameSubdirs joins nonempty, splitOn_flattenNameSubdirs joins otherNonempty] at components
  exact different (pieces_injective (List.map_injective_iff.mpr flattenNameNoSubdirs_injective components))

theorem mem_intercalate {separator c : UInt16} : ∀ {parts : List Utf16}, c ∈ [separator].intercalate parts →
    c = separator ∨ ∃ part ∈ parts, c ∈ part
  | [], inside => by simp at inside
  | [part], inside => .inr ⟨part, by simp, by simpa using inside⟩
  | part :: next :: parts, inside => by
    simp only [List.intercalate_cons_cons, List.mem_append, List.mem_singleton] at inside
    rcases inside with (here | isSeparator) | behind
    · exact .inr ⟨part, by simp, here⟩
    · exact .inl isSeparator
    · exact (mem_intercalate behind).imp_right fun ⟨found, member, within⟩ =>
        ⟨found, List.mem_cons_of_mem part member, within⟩

theorem head?_intercalate {separator : UInt16} {first : Utf16} (nonempty : first ≠ []) :
    ∀ parts : List Utf16, ([separator].intercalate (first :: parts)).head? = first.head?
  | [] => by simp
  | _ :: _ => by simp [List.intercalate_cons_cons, List.head?_append_of_ne_nil _ nonempty]

theorem isRelative_flattenNameSubdirs (joins : context.Joins) (nonempty : ∀ piece ∈ url.pieces, piece ≠ []) :
    IsRelative (flattenNameSubdirs context url) := by
  have isName : ∀ piece ∈ url.pieces, IsName (flattenNameNoSubdirs piece) := fun piece member =>
    isName_flattenNameNoSubdirs (nonempty piece member)
  have host := isName url.host List.mem_cons_self
  have start : (flattenNameSubdirs context url).head? = (flattenNameNoSubdirs url.host).head? := by
    rw [flattenNameSubdirs_eq joins nonempty]
    exact head?_intercalate host.nonempty _
  refine ⟨fun empty => ?_, ⟨fun root => ?_, fun root => ?_⟩, fun drive => ?_⟩
  · rw [empty, List.head?_nil, eq_comm, List.head?_eq_none_iff] at start
    exact host.nonempty start
  · exact host.noSlash (List.mem_of_head? (start.symm.trans root))
  · exact host.noBackslash (List.mem_of_head? (start.symm.trans root))
  · rw [flattenNameSubdirs_eq joins nonempty] at drive
    rcases mem_intercalate drive with isSeparator | ⟨component, member, inside⟩
    · rcases joins.separates with same | same <;> rw [same] at isSeparator <;> cases isSeparator
    · obtain ⟨piece, inPieces, rfl⟩ := List.mem_map.mp member
      exact (isName piece inPieces).noColon inside

theorem createDownloadFile_distinct (joins : context.Joins) {name otherName : Utf16} (isRelative : IsRelative name)
    (otherRelative : IsRelative otherName) (different : name ≠ otherName) (updater : ArtifactUpdater) :
    (createDownloadFile context updater name).1 ≠ (createDownloadFile context updater otherName).1 := by
  obtain ⟨start, below⟩ := joins.below updater.tempStorage
  unfold createDownloadFile
  rw [below name isRelative, below otherName otherRelative]
  exact fun same => different (List.append_cancel_left same)

end Names

/-- URLs that differ have different files in any directory; no component has a forbidden character, and none is
`.` or `..` unless a piece of the URL is; and the substitution is uniquely decodable. -/
theorem downloadNames_distinct {context : PathContext} (joins : context.Joins) :
    (∀ url other : Uri, (∀ piece ∈ url.pieces, piece ≠ []) → (∀ piece ∈ other.pieces, piece ≠ []) → url ≠ other →
      flattenNameSubdirs context url ≠ flattenNameSubdirs context other ∧
        ∀ updater, (createDownloadFile context updater (flattenNameSubdirs context url)).1 ≠
          (createDownloadFile context updater (flattenNameSubdirs context other)).1) ∧
      (∀ url : Uri, (∀ piece ∈ url.pieces, piece ≠ []) →
        ∀ component ∈ (flattenNameSubdirs context url).splitOn context.separator,
          component ≠ [] ∧ (∀ c ∈ component, c ∉ forbidden) ∧
            ∀ dots ∈ [units ['.'], units ['.', '.']], component = dots → dots ∈ url.pieces) ∧
      Function.Injective substitution ∧ UniquelyDecodable (Set.range substitution) := by
  refine ⟨fun url other nonempty otherNonempty different => ?_, fun url nonempty component member => ?_,
    isPrefixCode_substitution.injective, isPrefixCode_substitution.uniquelyDecodable⟩
  · have distinct := flattenNameSubdirs_distinct joins nonempty otherNonempty different
    exact ⟨distinct, createDownloadFile_distinct joins (isRelative_flattenNameSubdirs joins nonempty)
      (isRelative_flattenNameSubdirs joins otherNonempty) distinct⟩
  · rw [splitOn_flattenNameSubdirs joins nonempty] at member
    obtain ⟨piece, inPieces, rfl⟩ := List.mem_map.mp member
    have isName := isName_flattenNameNoSubdirs (nonempty piece inPieces)
    refine ⟨isName.nonempty, fun c inside => not_forbidden inside, fun dots isDots same => ?_⟩
    have stays : flattenNameNoSubdirs dots = dots := by
      simp only [List.mem_cons, List.not_mem_nil, or_false] at isDots
      rcases isDots with rfl | rfl <;> rfl
    exact eq_of_flattenNameNoSubdirs_eq stays same ▸ inPieces

def posixContext : PathContext where
  separator := slash
  joinAll parts := [slash].intercalate (parts.filter (· ≠ []))

theorem posixContext_joins : posixContext.Joins where
  separates := .inl rfl
  names parts areNames := by
    have all : parts.filter (· ≠ []) = parts :=
      List.filter_eq_self.mpr fun part member => by simpa using (areNames part member).nonempty
    exact congrArg [slash].intercalate all
  below directory := by
    rcases eq_or_ne directory [] with rfl | nonempty
    · exact ⟨[], fun path isRelative => by simp [posixContext, isRelative.nonempty]⟩
    · exact ⟨directory ++ [slash], fun path isRelative => by
        simp [posixContext, nonempty, isRelative.nonempty, List.intercalate_cons_cons]⟩

/-- A slash in a segment is no separator. -/
theorem downloadNames_distinct_slash :
    flattenNameSubdirs posixContext ⟨units ['h'], [units ['a', '/', 'b']]⟩ ≠
      flattenNameSubdirs posixContext ⟨units ['h'], [units ['a'], units ['b']]⟩ :=
  ((downloadNames_distinct posixContext_joins).1 ⟨units ['h'], [units ['a', '/', 'b']]⟩
    ⟨units ['h'], [units ['a'], units ['b']]⟩ (by decide) (by decide) (by decide)).1

end FlutterZero.FlutterTools.DownloadNames
