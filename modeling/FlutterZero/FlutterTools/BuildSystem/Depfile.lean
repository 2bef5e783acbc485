import FlutterZero.Lib.PairPatterns
import FlutterZero.Lib.Trim

/-! # Depfiles

A depfile lists the outputs of a build step, a colon, and its inputs.  `DepfileService`
writes it with the spaces of the paths escaped, and reads it by regular expressions
(`depfile.dart`), as `SourceVisitor` does (`source.dart`).

* `DepfileService.writeToFile`, `DepfileService.parse`, `SourceVisitor.visitDepfile`;
* `DepfileService.splitPair_written` — the divider is found where it was written;
* `DepfileService.processList_written` — so are the paths;
* `DepfileService.parse_writeToFile` — what was written is read back.
-/

namespace FlutterZero.FlutterTools.BuildSystem

open Lib

abbrev Path : Type := List Char

structure PathContext where
  /-- `style.separator` is a backslash. -/
  backslash : Bool
  normalize : Path → Path
  absolute : Path → Path

structure Depfile where
  inputs : List Path
  outputs : List Path
deriving DecidableEq, Repr

/-! ## Reading a list of paths -/

/-- `_separatorExpr`, with its replacement: a space after anything but a backslash. -/
def separatorExpr (first second : Char) : Option (List Char) :=
  if first ≠ '\\' ∧ second = ' ' then some [first, '\n'] else none

/-- What `.` does not match. -/
def isLineTerminator (c : Char) : Bool := c = '\n' || c = '\r' || c.toNat = 0x2028 || c.toNat = 0x2029

/-- `_escapeExpr`, with its replacement. -/
def escapeExpr (first second : Char) : Option (List Char) :=
  if first = '\\' ∧ isLineTerminator second = false then some [second] else none

/-- `_processList`, up to the set of paths. -/
def pathsOf (rawText : List Char) : List Path :=
  ((((replacePairs separatorExpr rawText).splitOn '\n').map fun path => trim (replacePairs escapeExpr path)).filter
    fun path => !path.isEmpty).eraseDups

/-! ## The service -/

namespace DepfileService

def replaceAll (pattern : Char) (replacement : List Char) (text : List Char) : List Char :=
  text.flatMap fun c => if c = pattern then replacement else [c]

def pathText (context : PathContext) (file : Path) : List Char :=
  let path := context.normalize file
  let path :=
    if context.backslash then replaceAll '\\' ['\\', '\\'] path
    -- all path separators become forward slashes
    else replaceAll '\\' ['/'] path
  replaceAll ' ' ['\\', ' '] path

def writeFilesToBuffer (context : PathContext) (files : List Path) (buffer : List Char) : List Char :=
  files.foldl (fun buffer file => buffer ++ ' ' :: pathText context file) buffer

def writeToFile (context : PathContext) (depfile : Depfile) (writeEmpty filterOutputs : Bool) : Option (List Char) :=
  if depfile.inputs.isEmpty && depfile.outputs.isEmpty && !writeEmpty then none
  else
    let outputsToWrite :=
      if filterOutputs then
        let inputPaths := depfile.inputs.map context.absolute
        depfile.outputs.filter fun file => !inputPaths.contains (context.absolute file)
      else depfile.outputs
    let buffer := writeFilesToBuffer context outputsToWrite []
    let buffer := buffer ++ [':', ' ']
    some (writeFilesToBuffer context depfile.inputs buffer)

def processList (context : PathContext) (rawText : List Char) : List Path := (pathsOf rawText).map context.normalize

/-- What `printError` is given. -/
def invalidDepfile (file : Path) : List Char := "Invalid depfile: ".toList ++ file

def parse (context : PathContext) (file : Path) (contents : List Char) : Depfile × List (List Char) :=
  match splitPair ':' ' ' contents with
  | [outputs, inputs] => (⟨processList context (trim inputs), processList context (trim outputs)⟩, [])
  | _ => (⟨[], []⟩, [invalidDepfile file])

end DepfileService

/-! ## The visitor -/

structure SourceVisitor where
  /-- Whether inputs or outputs are visited. -/
  inputs : Bool
  sources : List Path
  containsNewDepfile : Bool
  errors : List (List Char)
deriving DecidableEq, Repr

def SourceVisitor.visitDepfile (visitor : SourceVisitor) (file : Path) (contents : Option (List Char)) :
    SourceVisitor :=
  match contents with
  | none => { visitor with containsNewDepfile := true }
  | some contents =>
    match splitPair ':' ' ' contents with
    | [outputs, inputs] =>
      if visitor.inputs then { visitor with sources := visitor.sources ++ pathsOf (trim inputs) }
      else { visitor with sources := visitor.sources ++ pathsOf (trim outputs) }
    | _ => { visitor with errors := visitor.errors ++ [DepfileService.invalidDepfile file] }

namespace DepfileService

/-! ## Paths that can be written -/

/-- The path is a normalised one, and its characters can be told from those of the format. -/
structure Writable (context : PathContext) (path : Path) : Prop where
  normalized : context.normalize path = path
  noBackslash : '\\' ∉ path
  noNewline : '\n' ∉ path
  start : ∀ c ∈ path.head?, isWhitespace c = false
  stop : ∀ c ∈ path.getLast?, isWhitespace c = false ∧ c ≠ ':'

def escape (path : Path) : List Char := replaceAll ' ' ['\\', ' '] path

variable {context : PathContext} {path : Path} {paths : List Path} {c : Char} {text text' : List Char}

@[simp] theorem escape_nil : escape [] = [] := rfl

@[simp] theorem escape_space : escape (' ' :: path) = '\\' :: ' ' :: escape path := rfl

theorem escape_cons (notSpace : c ≠ ' ') : escape (c :: path) = c :: escape path := by
  simp [escape, replaceAll, notSpace]

theorem head_escape (path : Path) : ∀ c ∈ (escape path).head?, c ≠ ' ' := by
  cases path with
  | nil => simp
  | cons c path =>
    by_cases isSpace : c = ' '
    · simp [isSpace]
    · simp [escape_cons isSpace, isSpace]

theorem pathText_eq (posix : context.backslash = false) (writable : Writable context path) :
    pathText context path = escape path := by
  have slashes : replaceAll '\\' ['/'] path = path := by
    have same : ∀ c ∈ path, (if c = '\\' then ['/'] else [c]) = [c] := by
      intro c inside
      rw [if_neg]
      rintro rfl
      exact writable.noBackslash inside
    rw [replaceAll, List.flatMap_congr same]
    simp
  simp [pathText, posix, writable.normalized, slashes, escape]

def withSeparators (separator : Char) (paths : List Path) : List Char :=
  paths.flatMap fun path => separator :: escape path

@[simp] theorem withSeparators_nil {separator : Char} : withSeparators separator [] = [] := rfl

@[simp] theorem withSeparators_cons {separator : Char} :
    withSeparators separator (path :: paths) = separator :: (escape path ++ withSeparators separator paths) := rfl

theorem writeFilesToBuffer_eq (posix : context.backslash = false) (writable : ∀ path ∈ paths, Writable context path)
    (buffer : List Char) : writeFilesToBuffer context paths buffer = buffer ++ withSeparators ' ' paths := by
  unfold writeFilesToBuffer
  induction paths generalizing buffer with
  | nil => simp
  | cons path paths ih =>
    obtain ⟨first, rest⟩ := List.forall_mem_cons.mp writable
    rw [List.foldl_cons, ih rest, pathText_eq posix first, withSeparators_cons]
    simp

/-! ## The divider -/

theorem splitPair_escape {part : List Char} {parts : List (List Char)} (stop : ∀ c ∈ path.getLast?, c ≠ ':')
    (split : splitPair ':' ' ' text = part :: parts) :
    splitPair ':' ' ' (escape path ++ text) = (escape path ++ part) :: parts := by
  induction path with
  | nil => simpa using split
  | cons c path ih =>
    have later : splitPair ':' ' ' (escape path ++ text) = (escape path ++ part) :: parts := by
      cases path with
      | nil => simpa using split
      | cons next path => exact ih (by simpa using stop)
    by_cases isSpace : c = ' '
    · subst isSpace
      have space : splitPair ':' ' ' (' ' :: (escape path ++ text)) = (' ' :: (escape path ++ part)) :: parts :=
        splitPair_cons (by simp) later
      exact splitPair_cons (by simp) space
    · simp only [escape_cons isSpace, List.cons_append]
      refine splitPair_cons (fun isColon => ?_) later
      -- after a colon comes the rest of the path, which is not empty
      cases path with
      | nil => exact absurd isColon (by simpa using stop)
      | cons next path =>
        have start := head_escape (next :: path)
        cases found : escape (next :: path) with
        | nil => simp [escape, replaceAll, List.flatMap_cons] at found; split at found <;> simp at found
        | cons second rest => simpa [found] using start

theorem splitPair_withSeparators {part : List Char} {parts : List (List Char)}
    (writable : ∀ path ∈ paths, Writable context path) (split : splitPair ':' ' ' text = part :: parts) :
    splitPair ':' ' ' (withSeparators ' ' paths ++ text) = (withSeparators ' ' paths ++ part) :: parts := by
  induction paths with
  | nil => simpa using split
  | cons path paths ih =>
    obtain ⟨first, rest⟩ := List.forall_mem_cons.mp writable
    have own := splitPair_escape (fun c inside => (first.stop c inside).2) (ih rest)
    have separated : splitPair ':' ' ' (' ' :: (escape path ++ (withSeparators ' ' paths ++ text))) =
        (' ' :: (escape path ++ (withSeparators ' ' paths ++ part))) :: parts := splitPair_cons (by simp) own
    simpa using separated

theorem splitPair_written {outputs inputs : List Path} (writableOutputs : ∀ path ∈ outputs, Writable context path)
    (writableInputs : ∀ path ∈ inputs, Writable context path) :
    splitPair ':' ' ' (withSeparators ' ' outputs ++ ':' :: ' ' :: withSeparators ' ' inputs) =
      [withSeparators ' ' outputs, withSeparators ' ' inputs] := by
  have after : splitPair ':' ' ' (withSeparators ' ' inputs) = [withSeparators ' ' inputs] := by
    have nothing : splitPair ':' ' ' ([] : List Char) = [[]] := rfl
    simpa using splitPair_withSeparators writableInputs nothing
  have divider : splitPair ':' ' ' (':' :: ' ' :: withSeparators ' ' inputs) = [] :: [withSeparators ' ' inputs] := by
    rw [splitPair_of_match, after]
  simpa using splitPair_withSeparators writableOutputs divider

/-! ## The paths -/

theorem separate_escape (nonempty : path ≠ []) (noBackslash : '\\' ∉ path) (stop : ∀ c ∈ path.getLast?, c ≠ ' ')
    (separate : ∀ c, c ≠ ' ' → c ≠ '\\' → replacePairs separatorExpr (c :: text) = c :: text') :
    replacePairs separatorExpr (escape path ++ text) = escape path ++ text' := by
  induction path with
  | nil => exact absurd rfl nonempty
  | cons c path ih =>
    have notBackslash : c ≠ '\\' := fun isBackslash => noBackslash (by simp [isBackslash])
    cases path with
    | nil =>
      have notSpace : c ≠ ' ' := by simpa using stop
      simpa [escape_cons notSpace] using separate c notSpace notBackslash
    | cons next path =>
      have later := ih (by simp) (fun inside => noBackslash (List.mem_cons_of_mem _ inside)) (by simpa using stop)
      have start : ∀ second ∈ (escape (next :: path) ++ text).head?, ∀ first, separatorExpr first second = none := by
        intro second isHead first
        have notSpace : second ≠ ' ' := by
          refine head_escape (next :: path) second ?_
          by_cases isSpace : next = ' '
          · simpa [isSpace] using isHead
          · simpa [escape_cons isSpace] using isHead
        simp [separatorExpr, notSpace]
      by_cases isSpace : c = ' '
      · subst isSpace
        rw [escape_space, List.cons_append, List.cons_append, replacePairs_cons (by simp [separatorExpr]),
          replacePairs_cons fun second isHead => start second isHead ' ', later]
        simp
      · rw [escape_cons isSpace, List.cons_append, replacePairs_cons fun second isHead => start second isHead c, later]
        simp

theorem separate_withSeparators (writable : ∀ path ∈ paths, path ≠ [] ∧ Writable context path) (notSpace : c ≠ ' ')
    (notBackslash : c ≠ '\\') :
    replacePairs separatorExpr (c :: withSeparators ' ' paths) = c :: withSeparators '\n' paths := by
  induction paths generalizing c with
  | nil => rfl
  | cons path paths ih =>
    obtain ⟨⟨nonempty, first⟩, rest⟩ := List.forall_mem_cons.mp writable
    have notLast : ∀ c ∈ path.getLast?, c ≠ ' ' := by
      rintro c isLast rfl
      exact absurd (first.stop ' ' isLast).1 (by decide)
    have separated := separate_escape nonempty first.noBackslash notLast fun c => ih rest
    have matched : separatorExpr c ' ' = some [c, '\n'] := by simp [separatorExpr, notBackslash]
    rw [withSeparators_cons, replacePairs_of_match matched, separated]
    simp

theorem unescape_escape (noBackslash : '\\' ∉ path) : replacePairs escapeExpr (escape path) = path := by
  induction path with
  | nil => rfl
  | cons c path ih =>
    have later := ih fun inside => noBackslash (List.mem_cons_of_mem _ inside)
    by_cases isSpace : c = ' '
    · subst isSpace
      have matched : escapeExpr '\\' ' ' = some [' '] := by decide
      rw [escape_space, replacePairs_of_match matched, later]
      rfl
    · have notBackslash : c ≠ '\\' := fun isBackslash => noBackslash (by simp [isBackslash])
      rw [escape_cons isSpace, replacePairs_cons (by simp [escapeExpr, notBackslash]), later]

theorem getLast?_escape (path : Path) : (escape path).getLast? = path.getLast? := by
  induction path using List.reverseRecOn with
  | nil => rfl
  | append_singleton path c _ =>
    by_cases isSpace : c = ' '
    · simp [escape, replaceAll, isSpace]
    · simp [escape, replaceAll, isSpace]

theorem mem_escape (inside : c ∈ escape path) : c ∈ path ∨ c = '\\' := by
  obtain ⟨original, isOriginal, inside⟩ := List.mem_flatMap.mp inside
  by_cases isSpace : original = ' '
  · obtain rfl | rfl : c = '\\' ∨ c = ' ' := by simpa [isSpace] using inside
    · exact .inr rfl
    · exact .inl (isSpace ▸ isOriginal)
  · obtain rfl : c = original := by simpa [isSpace] using inside
    exact .inl isOriginal

theorem stop_withSeparators (writable : ∀ path ∈ paths, path ≠ [] ∧ Writable context path)
    (stop : ∀ c ∈ path.getLast?, isWhitespace c = false) :
    ∀ c ∈ (escape path ++ withSeparators ' ' paths).getLast?, isWhitespace c = false := by
  induction paths generalizing path with
  | nil => simpa [getLast?_escape] using stop
  | cons next paths ih =>
    obtain ⟨⟨nonempty, first⟩, rest⟩ := List.forall_mem_cons.mp writable
    have later := ih rest fun c inside => (first.stop c inside).1
    have notNil : escape next ++ withSeparators ' ' paths ≠ [] := by
      intro isNil
      have isLast := getLast?_escape next
      rw [(List.append_eq_nil_iff.mp isNil).1] at isLast
      exact nonempty (List.getLast?_eq_none_iff.mp isLast.symm)
    rwa [withSeparators_cons, List.append_cons, List.getLast?_append_of_ne_nil _ notNil]

theorem trim_withSeparators (nonempty : path ≠ []) (first : Writable context path)
    (rest : ∀ path ∈ paths, path ≠ [] ∧ Writable context path) :
    trim (withSeparators ' ' (path :: paths)) = escape path ++ withSeparators ' ' paths := by
  have dropped : trim (withSeparators ' ' (path :: paths)) = trim (escape path ++ withSeparators ' ' paths) := by
    simp [trim, trimBy, isWhitespace, isWhitespaceCode]
  rw [dropped]
  refine trimBy_of_ends ?_ (stop_withSeparators rest fun c inside => (first.stop c inside).1)
  cases path with
  | nil => exact absurd rfl nonempty
  | cons c path =>
    have start : isWhitespace c = false := first.start c (by simp)
    have notSpace : c ≠ ' ' := by
      rintro rfl
      exact absurd start (by decide)
    simpa [escape_cons notSpace] using start

theorem withSeparators_eq_intercalate (path : Path) (paths : List Path) :
    escape path ++ withSeparators '\n' paths = ['\n'].intercalate ((path :: paths).map escape) := by
  induction paths generalizing path with
  | nil => simp
  | cons next paths ih =>
    simp only [List.map_cons, List.intercalate_cons_cons, withSeparators_cons, List.append_assoc] at ih ⊢
    rw [← ih]
    simp

theorem eraseDups_of_nodup {paths : List Path} (distinct : paths.Nodup) : paths.eraseDups = paths := by
  induction paths with
  | nil => rfl
  | cons path paths ih =>
    obtain ⟨fresh, rest⟩ := List.nodup_cons.mp distinct
    have kept : (paths.filter fun other => !other == path) = paths := by
      refine List.filter_eq_self.mpr fun other inside => ?_
      have different : other ≠ path := by
        rintro rfl
        exact fresh inside
      simpa using different
    rw [List.eraseDups_cons, kept, ih rest]

theorem pathsOf_written (writable : ∀ path ∈ paths, path ≠ [] ∧ Writable context path) (distinct : paths.Nodup) :
    pathsOf (trim (withSeparators ' ' paths)) = paths := by
  cases paths with
  | nil => rfl
  | cons path paths =>
    obtain ⟨⟨nonempty, first⟩, rest⟩ := List.forall_mem_cons.mp writable
    have notLast : ∀ c ∈ path.getLast?, c ≠ ' ' := by
      rintro c isLast rfl
      exact absurd (first.stop ' ' isLast).1 (by decide)
    have separated : replacePairs separatorExpr (escape path ++ withSeparators ' ' paths) =
        escape path ++ withSeparators '\n' paths :=
      separate_escape nonempty first.noBackslash notLast fun c => separate_withSeparators rest
    have lines : (['\n'].intercalate ((path :: paths).map escape)).splitOn '\n' = (path :: paths).map escape := by
      refine List.splitOn_intercalate _ (fun line isLine => ?_) (by simp)
      obtain ⟨original, isOriginal, rfl⟩ := List.mem_map.mp isLine
      intro inside
      obtain isNewline | isBackslash := mem_escape inside
      · exact (writable original isOriginal).2.noNewline isNewline
      · cases isBackslash
    have unescaped : ((path :: paths).map escape).map (fun path => trim (replacePairs escapeExpr path)) =
        path :: paths := by
      rw [List.map_map]
      refine (List.map_congr_left fun original isOriginal => ?_).trans (List.map_id _)
      have own := (writable original isOriginal).2
      rw [Function.comp_apply, unescape_escape own.noBackslash]
      exact trimBy_of_ends own.start fun c inside => (own.stop c inside).1
    have nonempties : ((path :: paths).filter fun path => !path.isEmpty) = path :: paths := by
      refine List.filter_eq_self.mpr fun original isOriginal => ?_
      simpa using (writable original isOriginal).1
    rw [pathsOf, trim_withSeparators nonempty first rest, separated, withSeparators_eq_intercalate, lines, unescaped,
      nonempties, eraseDups_of_nodup distinct]

theorem processList_written (writable : ∀ path ∈ paths, path ≠ [] ∧ Writable context path) (distinct : paths.Nodup) :
    processList context (trim (withSeparators ' ' paths)) = paths := by
  rw [processList, pathsOf_written writable distinct]
  exact (List.map_congr_left fun path inside => (writable path inside).2.normalized).trans (List.map_id _)

/-! ## What was written is read back -/

/-- A depfile of distinct paths that can be written, which is not entirely empty. -/
structure WritableDepfile (context : PathContext) (depfile : Depfile) : Prop where
  inputs : ∀ path ∈ depfile.inputs, Writable context path
  outputs : ∀ path ∈ depfile.outputs, Writable context path
  distinctInputs : depfile.inputs.Nodup
  distinctOutputs : depfile.outputs.Nodup
  nonempty : depfile.inputs ≠ [] ∨ depfile.outputs ≠ []

theorem writeToFile_eq {depfile : Depfile} (posix : context.backslash = false)
    (writable : WritableDepfile context depfile) (writeEmpty : Bool) :
    writeToFile context depfile writeEmpty false =
      some (withSeparators ' ' depfile.outputs ++ ':' :: ' ' :: withSeparators ' ' depfile.inputs) := by
  have notEmpty : (depfile.inputs.isEmpty && depfile.outputs.isEmpty && !writeEmpty) = false := by
    obtain notNil | notNil := writable.nonempty
    · simp [notNil]
    · simp [notNil]
  simp [writeToFile, notEmpty, writeFilesToBuffer_eq posix writable.outputs,
    writeFilesToBuffer_eq posix writable.inputs]

/-- What was written is read back by the service and by the visitor. -/
theorem parse_writeToFile {depfile : Depfile} (posix : context.backslash = false) (dot : context.normalize [] ≠ [])
    (writable : WritableDepfile context depfile) (writeEmpty : Bool) :
    ∃ contents, writeToFile context depfile writeEmpty false = some contents ∧
      (∀ file, parse context file contents = (depfile, [])) ∧
      ∀ (visitor : SourceVisitor) file, visitor.visitDepfile file (some contents) = { visitor with
        sources := visitor.sources ++ if visitor.inputs then depfile.inputs else depfile.outputs } := by
  have nonempty : ∀ path, Writable context path → path ≠ [] ∧ Writable context path := by
    intro path own
    refine ⟨?_, own⟩
    rintro rfl
    exact dot own.normalized
  have inputs : ∀ path ∈ depfile.inputs, path ≠ [] ∧ Writable context path :=
    fun path inside => nonempty path (writable.inputs path inside)
  have outputs : ∀ path ∈ depfile.outputs, path ≠ [] ∧ Writable context path :=
    fun path inside => nonempty path (writable.outputs path inside)
  have split := splitPair_written writable.outputs writable.inputs
  refine ⟨_, writeToFile_eq posix writable writeEmpty, fun file => ?_, fun visitor file => ?_⟩
  · simp only [parse, split, processList_written inputs writable.distinctInputs,
      processList_written outputs writable.distinctOutputs]
  · simp only [SourceVisitor.visitDepfile, split, pathsOf_written inputs writable.distinctInputs,
      pathsOf_written outputs writable.distinctOutputs]
    cases visitor.inputs with
    | true => rfl
    | false => rfl

def posixContext : PathContext where
  backslash := false
  normalize path := if path = [] then ['.'] else path
  absolute path := path

def spacedDepfile : Depfile where
  inputs := ["/a: b".toList, "/c  d:e".toList, ":f".toList]
  outputs := ["/out dir/x :y".toList]

theorem parse_writeToFile_spaced :
    posixContext.backslash = false ∧ WritableDepfile posixContext spacedDepfile ∧
      ∃ contents, writeToFile posixContext spacedDepfile false false = some contents ∧
        (∀ file, parse posixContext file contents = (spacedDepfile, [])) ∧
        ∀ (visitor : SourceVisitor) file, visitor.visitDepfile file (some contents) = { visitor with
          sources := visitor.sources ++ if visitor.inputs then spacedDepfile.inputs else spacedDepfile.outputs } := by
  have writable : WritableDepfile posixContext spacedDepfile := by
    refine ⟨fun path inside => ?_, fun path inside => ?_, by decide, by decide, by decide⟩
    · fin_cases inside <;> exact ⟨by decide, by decide, by decide, by simp [isWhitespace, isWhitespaceCode],
        by simp [isWhitespace, isWhitespaceCode]⟩
    · fin_cases inside
      exact ⟨by decide, by decide, by decide, by simp [isWhitespace, isWhitespaceCode],
        by simp [isWhitespace, isWhitespaceCode]⟩
  exact ⟨rfl, writable, parse_writeToFile rfl (by decide) writable false⟩

end DepfileService

end FlutterZero.FlutterTools.BuildSystem
