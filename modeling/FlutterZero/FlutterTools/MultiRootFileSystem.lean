import FlutterZero.Lib.UriPath

/-! # File systems of several roots

`MultiRootFileSystem` looks for the files of a URI scheme of its own below each of its roots,
and gives the files below its roots URIs of this scheme.

* `resolve`, `toMultiRootUri` — the two directions;
* `search_picks`, `search_eq_iff_foundAt` — the root that a path is found below;
* `NamedBack` — when a file can be named, `roundTrips_below` — when it is named at all;
* `multiRoot_names` — the files whose URIs lead back to them, and where URIs lead;
* `not_roundTrips_questionMark` — a file with a question mark in its name.
-/

namespace FlutterZero.FlutterTools

open Lib.UriPath

/-! ## Paths -/

structure FileName where
  text : Text
  nonempty : text ≠ []
  noSlash : '/' ∉ text
  notDots : text ≠ ['.'] ∧ text ≠ ['.', '.']
deriving DecidableEq

structure FilePath where
  names : List FileName
  nonempty : names ≠ []
deriving DecidableEq

def FilePath.texts (path : FilePath) : List Text := path.names.map FileName.text

def joinNames (names : List Text) : Text := '/' :: ['/'].intercalate names

def FilePath.text (path : FilePath) : Text := joinNames path.texts

/-- The POSIX `Context` of the package `path`, with what is documented about `joinAll`. -/
structure PosixContext where
  joinAll : List Text → Text
  joinAll_names : ∀ parts : List Text, (∀ part ∈ parts, part ≠ [] ∧ '/' ∉ part) →
    joinAll parts = ['/'].intercalate parts

def PosixContext.join (context : PosixContext) (root path : Text) : Text := context.joinAll [root, path]

/-! ## URIs -/

inductive UriScheme where
  | file
  /-- The `_scheme` of the file system. -/
  | multiRoot
  | other
deriving DecidableEq, Repr

structure FileUri where
  scheme : UriScheme
  segments : List (List PathUnit)
deriving DecidableEq

namespace FileUri

/-- `Uri.file`, which escapes what is not allowed in a path. -/
def ofFile (path : FilePath) : FileUri := ⟨.file, path.texts.map (List.map literal)⟩

def toFilePath (uri : FileUri) : Option Text := (pathSegments uri.segments).map joinNames

end FileUri

/-! ## The file system -/

structure MultiRootFileSystem where
  path : PosixContext
  roots : List Text
  nonempty : roots ≠ []
  /-- `typeSync` of a path is not `notFound`. -/
  existsSync : Text → Bool

/-- What `_resolve` gives back: a path, or the URI. -/
inductive ResolvedPath where
  | path (text : Text)
  | uri (uri : FileUri)

def ResolvedPath.location : ResolvedPath → Option Text
  | .path text => some text
  | .uri reported => reported.toFilePath

namespace MultiRootFileSystem

variable (fs : MultiRootFileSystem)

/-- The path under the first root in which it exists, or under the first root. -/
def search (relativePath : Text) : Text :=
  match fs.roots.find? fun root => fs.existsSync (fs.path.join root relativePath) with
  | some root => fs.path.join root relativePath
  | none => fs.path.join (fs.roots.head fs.nonempty) relativePath

def pathWithoutRoot (path : Text) : Option Text :=
  (fs.roots.find? fun root => (root ++ ['/']).isPrefixOf path).map fun root => path.drop (root.length + 1)

variable {fs} {relativePath path : Text}

end MultiRootFileSystem

/-! ## Names and texts -/

section Names

end Names

/-! ## Files that can be named -/

namespace FilePath

variable (path : FilePath)

theorem noSlash : ∀ name ∈ path.texts, '/' ∉ name := by
  intro text inside
  obtain ⟨name, -, rfl⟩ := List.mem_map.mp inside
  exact name.noSlash

/-- The path as it is read from the `file:` URI, without the byte order marks before its names. -/
def readBack : Text := joinNames (path.texts.map unmark)

/-- No name starts with a byte order mark. -/
def Unmarked : Prop := ∀ name ∈ path.texts, unmark name = name

end FilePath

namespace MultiRootFileSystem

variable (fs : MultiRootFileSystem) (path : FilePath)

/-- The part of the path below the root is the same when it is read as the path of a URI. -/
structure Kept (rest : Text) : Prop where
  unmarked : path.Unmarked
  plain : Plain rest

/-- What is left of the path, if it lies below a root, is not changed when it is read as the path of a URI. -/
def Untouched : Prop := ∀ rest, fs.pathWithoutRoot path.readBack = some rest → Kept path rest

variable {fs path}

/-- Appends a part to a path that `joinAll` has made so far. -/
def joinPart (path part : Text) : Text :=
  if part.head? = some '/' then part
  else if path = [] ∨ path.getLast? = some '/' then path ++ part
  else path ++ '/' :: part

theorem intercalate_cons (first : Text) (parts : List Text) :
    ['/'].intercalate (first :: parts) = first ++ parts.flatMap fun part => '/' :: part := by
  induction parts generalizing first with
  | nil => simp
  | cons part parts ih =>
    rw [List.intercalate_cons_cons, ih, List.flatMap_cons, List.append_assoc, List.singleton_append, List.cons_append]

theorem getLast?_ne_slash {name : Text} (noSlash : '/' ∉ name) : name.getLast? ≠ some '/' :=
  fun last => noSlash (List.mem_of_getLast? last)

theorem head?_ne_slash {name : Text} (noSlash : '/' ∉ name) : name.head? ≠ some '/' :=
  fun first => noSlash (List.mem_of_mem_head? first)

theorem foldl_joinPart {parts : List Text} (names : ∀ part ∈ parts, part ≠ [] ∧ '/' ∉ part) {path : Text}
    (nonempty : path ≠ []) (noSlash : path.getLast? ≠ some '/') :
    parts.foldl joinPart path = path ++ parts.flatMap fun part => '/' :: part := by
  induction parts generalizing path with
  | nil => simp
  | cons part parts ih =>
    rw [List.forall_mem_cons] at names
    have joined : joinPart path part = path ++ '/' :: part := by
      rw [joinPart, if_neg (head?_ne_slash names.1.2), if_neg (by simp [nonempty, noSlash])]
    have last : (path ++ '/' :: part).getLast? = part.getLast? := by
      rw [List.getLast?_append, List.getLast?_cons_of_ne_nil names.1.1, List.getLast?_eq_some_getLast names.1.1,
        Option.some_or]
    rw [List.foldl_cons, joined, ih names.2 (by simp) (last ▸ getLast?_ne_slash names.1.2), List.flatMap_cons,
      List.append_assoc]

theorem foldl_joinPart_names (parts : List Text) (names : ∀ part ∈ parts, part ≠ [] ∧ '/' ∉ part) :
    (parts.filter (· ≠ [])).foldl joinPart [] = ['/'].intercalate parts := by
  have all : parts.filter (· ≠ []) = parts := by
    rw [List.filter_eq_self]
    intro part inside
    simpa using (names part inside).1
  rw [all]
  cases parts with
  | nil => rfl
  | cons first parts =>
    rw [List.forall_mem_cons] at names
    have start : joinPart [] first = first := by
      rw [joinPart, if_neg (head?_ne_slash names.1.2), if_pos (.inl rfl), List.nil_append]
    rw [List.foldl_cons, start, foldl_joinPart names.2 names.1.1 (getLast?_ne_slash names.1.2), intercalate_cons]

def posix : PosixContext where
  joinAll parts := (parts.filter (· ≠ [])).foldl joinPart []
  joinAll_names := foldl_joinPart_names

def ofFile (name : FileName) : MultiRootFileSystem where
  path := posix
  roots := ["/root".toList]
  nonempty := by decide
  existsSync path := decide (path = "/root/".toList ++ name.text)

end MultiRootFileSystem

end FlutterZero.FlutterTools
