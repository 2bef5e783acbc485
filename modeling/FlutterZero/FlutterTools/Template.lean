import Mathlib.Data.List.Infix
import Mathlib.Logic.Function.Basic
import FlutterZero.Lib.ReplaceAll

/-! # Templates

`Template.render` (`template.dart`): where the files of a template go and what is written there.

The context is one map for all files.  Rendering a Kotlin file changes it.
-/

namespace FlutterZero.FlutterTools.Template

open FlutterZero.Lib (replaceAll replaceChain)

abbrev Text := List Char

/-! ## The context -/

inductive Value where
  | string (text : Text)
  | bool (value : Bool)
  | other (type : String)
deriving DecidableEq, Repr

abbrev Context := String → Option Value

inductive Fault where
  | typeError (type : String)
  | toolExit (message : Text)
deriving DecidableEq, Repr

/-- `as bool?` -/
def asBool (context : Context) (key : String) : Except Fault (Option Bool) :=
  match context key with
  | none => .ok none
  | some (.bool value) => .ok (some value)
  | some _ => .error (.typeError "bool?")

/-- `as String?` -/
def asString (context : Context) (key : String) : Except Fault (Option Text) :=
  match context key with
  | none => .ok none
  | some (.string text) => .ok (some text)
  | some _ => .error (.typeError "String?")

def kReservedKotlinKeywords : List Text := ["when".toList, "in".toList, "is".toList]

section

theorem lawfulBEq_text : LawfulBEq Text := inferInstance

attribute [local instance] lawfulBEq_text

def escapeSegment (segment : Text) : Text :=
  if segment ∈ kReservedKotlinKeywords then '\x60' :: segment ++ ['\x60'] else segment

end

def escapeKotlinKeywords (androidIdentifier : Text) : Text :=
  ['.'].intercalate ((androidIdentifier.splitOn '.').map escapeSegment)

def controlDigits (c : Char) : Text :=
  let digits := Nat.toDigits 16 c.toNat
  if digits.length < 2 then '0' :: digits else digits

def escapeYamlString (value : Text) : Text :=
  '"' :: value.flatMap (fun c =>
    if c = '\x00' then "\\0".toList
    else if c = '\t' then "\\t".toList
    else if c = '\n' then "\\n".toList
    else if c = '\r' then "\\r".toList
    else if c = '"' then "\\\"".toList
    else if c = '\\' then "\\\\".toList
    else if c.toNat < 0x20 then "\\x".toList ++ controlDigits c
    else [c]) ++ ['"']

/-- `_createEscapedContextCopy` -/
def createEscapedContextCopy (context : Context) : Except Fault Context := do
  match ← asString context "description" with
  | some description =>
    if description = [] then return context
    else return Function.update context "description" (some (.string (escapeYamlString description)))
  | none => return context

/-! ## Paths -/

inductive PathStyle where
  | posix
  | windows
deriving DecidableEq, Repr

namespace PathStyle

def separator : PathStyle → Char
  | posix => '/'
  | windows => '\\'

def isSeparator : PathStyle → Char → Bool
  | posix, c => c = '/'
  | windows, c => c = '/' || c = '\\'

end PathStyle

structure IsRelative (style : PathStyle) (path : Text) : Prop where
  nonempty : path ≠ []
  noRoot : ∀ c ∈ path.head?, style.isSeparator c = false
  noDrive : style = .windows → ':' ∉ path

/-- A directory as the start of the paths below it. -/
def asDirectory (style : PathStyle) (path : Text) : Text :=
  if path = [] ∨ path.getLast?.any style.isSeparator then path else path ++ [style.separator]

/-- A `Context` of the package `path`, with what is documented about `join`. -/
structure PathContext (style : PathStyle) where
  join : Text → Text → Text
  join_relative : ∀ directory path, IsRelative style path → join directory path = asDirectory style directory ++ path

/-- `join` of POSIX paths. -/
def posixJoin (directory path : Text) : Text :=
  if path.head? = some '/' then path else asDirectory .posix directory ++ path

theorem posixJoin_relative (directory path : Text) (relative : IsRelative .posix path) :
    posixJoin directory path = asDirectory .posix directory ++ path :=
  if_neg fun root => absurd (relative.noRoot '/' root) (by decide)

def posixContext : PathContext .posix := ⟨posixJoin, posixJoin_relative⟩

theorem isRelative_posix {path : Text} (nonempty : path ≠ []) (noRoot : path.head? ≠ some '/') :
    IsRelative .posix path where
  nonempty := nonempty
  noRoot c first := decide_eq_false fun same => noRoot (same ▸ first)
  noDrive windows := by cases windows

def templateExtension : Text := ".tmpl".toList

def copyTemplateExtension : Text := ".copy.tmpl".toList

def imageTemplateExtension : Text := ".img.tmpl".toList

def testTemplateExtension : Text := ".test.tmpl".toList

/-- `\w` -/
def isWord (c : Char) : Bool := c.isAlphanum || c = '_'

/-- The groups of `(\w+)-(\w+)\.tmpl.*`, matched at the start. -/
def languageVariant (path : Text) : Option (Text × Text) :=
  let platform := path.takeWhile isWord
  match path.dropWhile isWord with
  | '-' :: rest =>
    let language := rest.takeWhile isWord
    if platform ≠ [] ∧ language ≠ [] ∧ templateExtension <+: rest.dropWhile isWord then some (platform, language)
    else none
  | _ => none

def chooseLanguage (context : Context) (relativePath : Text) : Except Fault (Option Text) := do
  match languageVariant relativePath with
  | none => return some relativePath
  | some (platform, variant) =>
    let language ← asString context (String.ofList platform ++ "Language")
    if language ≠ some variant then return none
    else return some (replaceAll (platform ++ '-' :: variant ++ templateExtension) platform relativePath)

def platformTests : List (String × (Text → Bool)) :=
  [("android", fun path => "android".toList <:+: path),
   ("ios", fun path => "ios".toList <:+: path),
   ("web", fun path => "web".toList <:+: path),
   ("linux", fun path => "linux.tmpl".toList <+: path),
   ("macos", fun path => "macos.tmpl".toList <+: path),
   ("windows", fun path => "windows.tmpl".toList <+: path)]

def isFiltered (context : Context) (relativePath : Text) : List (String × (Text → Bool)) → Except Fault Bool
  | [] => return false
  | (key, applies) :: tests => do
    let enabled := (← asBool context key).getD false
    if applies relativePath && !enabled then return true else isFiltered context relativePath tests

structure Names where
  android : Bool
  projectName : Option Text
  androidIdentifier : Option Text
  pluginClass : Option Text
  pluginClassSnakeCase : Option Text
deriving DecidableEq, Repr

def names (context : Context) : Except Fault Names := do
  let android := (← asBool context "android").getD false
  let projectName ← asString context "projectName"
  let androidIdentifier ← asString context "androidIdentifier"
  let pluginClass ← asString context "pluginClass"
  let pluginClassSnakeCase ← asString context "pluginClassSnakeCase"
  return ⟨android, projectName, androidIdentifier, pluginClass, pluginClassSnakeCase⟩

def replacements (style : PathStyle) (names : Names) : List (Text × Text) :=
  [(copyTemplateExtension, []), (imageTemplateExtension, []), (testTemplateExtension, []), (templateExtension, [])] ++
  (if names.android then
    names.androidIdentifier.toList.map fun id => ("androidIdentifier".toList, replaceAll ['.'] [style.separator] id)
  else []) ++
  (names.projectName.toList.map fun name => ("projectName".toList, name)) ++
  (names.pluginClassSnakeCase.toList.map fun name => ("pluginClassSnakeCase".toList, name)) ++
  (names.pluginClass.toList.map fun name => ("pluginClass".toList, name))

/-! ## Rendering -/

variable {style : PathStyle}

structure TemplateFile (style : PathStyle) where
  relativePath : Text
  /-- It is what `path.relative` gives for a file of the template directory. -/
  relative : IsRelative style relativePath
  absoluteSourcePath : Text
  contents : Text
deriving DecidableEq

structure Environment (style : PathStyle) where
  path : PathContext style
  destination : Text
  overwriteExisting : Bool
  existsSync : Text → Bool
  /-- The images of each image source directory, by their relative paths. -/
  imageSources : List (Text → Option Text)
  renderString : Text → Context → Text

inductive Effect where
  | delete (path : Text)
  | create (path : Text)
  | write (path contents : Text)
deriving DecidableEq, Repr

def Effect.path : Effect → Text
  | delete path | create path | write path _ => path

structure Visit (style : PathStyle) where
  file : TemplateFile style
  context : Context
  path : Text

structure State (style : PathStyle) where
  context : Context
  existsSync : Text → Bool
  effects : List Effect
  visits : List (Visit style)
  fileCount : Nat

def renderPath (env : Environment style) (context : Context) (relativePath : Text) : Except Fault (Option Text) := do
  match ← chooseLanguage context relativePath with
  | none => return none
  | some relativePath =>
    if ← isFiltered context relativePath platformTests then return none
    else
      let names ← names context
      return some (replaceChain (replacements style names) (env.path.join env.destination relativePath))

/-- The context from here on: a Kotlin file escapes the identifier for all files behind it, too. -/
def contextFor (context : Context) (path : Text) : Except Fault Context := do
  match ← asString context "androidIdentifier" with
  | some androidIdentifier =>
    if ".kt".toList <:+ path then
      return Function.update context "androidIdentifier" (some (.string (escapeKotlinKeywords androidIdentifier)))
    else return context
  | none => return context

def localContextFor (context : Context) (path : Text) : Except Fault Context :=
  if ".yaml".toList <:+ path then createEscapedContextCopy context else .ok context

def renderContents (env : Environment style) (context : Context) (file : TemplateFile style) (path : Text) :
    Except Fault (Context × Text) := do
  let context ← contextFor context path
  let localContext ← localContextFor context path
  return (context, env.renderString file.contents localContext)

def fileContents (env : Environment style) (context : Context) (file : TemplateFile style) (path : Text) :
    Except Fault (Context × Text) :=
  if copyTemplateExtension <:+ file.absoluteSourcePath then .ok (context, file.contents)
  else if imageTemplateExtension <:+ file.absoluteSourcePath then
    match env.imageSources.findSome? (· (replaceAll imageTemplateExtension [] file.relativePath)) with
    | some image => .ok (context, image)
    | none => .error (.toolExit ("Image File not found ".toList ++ path))
  else if templateExtension <:+ file.absoluteSourcePath then renderContents env context file path
  else .ok (context, file.contents)

/-- The file at the destination is replaced, unless it is to be kept. -/
def renderTo (env : Environment style) (s : State style) (file : TemplateFile style) (path : Text) :
    State style × Option Fault :=
  if s.existsSync path && !env.overwriteExisting then (s, none)
  else
    let created : State style :=
      { s with
        existsSync := Function.update s.existsSync path true
        effects := s.effects ++ ((if s.existsSync path then [.delete path] else []) ++ [.create path])
        visits := s.visits ++ [⟨file, s.context, path⟩]
        fileCount := s.fileCount + 1 }
    match fileContents env s.context file path with
    | .error fault => (created, some fault)
    | .ok (context, contents) =>
      ({ created with context := context, effects := created.effects ++ [.write path contents] }, none)

def destinationOf (env : Environment style) (context : Context) (implementationTests : Bool)
    (file : TemplateFile style) : Except Fault (Option Text) := do
  let withRootModule := (← asBool context "withRootModule").getD false
  if !withRootModule && "flutter_root".toList <:+: file.absoluteSourcePath then return none
  else if !implementationTests && testTemplateExtension <:+: file.absoluteSourcePath then return none
  else renderPath env context file.relativePath

def renderFiles (env : Environment style) (implementationTests : Bool) :
    State style → List (TemplateFile style) → State style × Option Fault
  | s, [] => (s, none)
  | s, file :: files =>
    match destinationOf env s.context implementationTests file with
    | .error fault => (s, some fault)
    | .ok none => renderFiles env implementationTests s files
    | .ok (some path) =>
      match renderTo env s file path with
      | (s, some fault) => (s, some fault)
      | (s, none) => renderFiles env implementationTests s files

def render (env : Environment style) (context : Context) (files : List (TemplateFile style)) :
    State style × Option Fault :=
  let start : State style := ⟨context, env.existsSync, [], [], 0⟩
  match asBool context "implementationTests" with
  | .error fault => (start, some fault)
  | .ok implementationTests => renderFiles env (implementationTests.getD false) start files

end FlutterZero.FlutterTools.Template
