import FlutterZero.FlutterTools.Template
import FlutterZero.Lib.Machine

/-! # Where the files of a template go

The words are replaced in the whole path of a destination.  None of them has a separator, so what they make
of the directory and of the part below it are two things.

* `expand` — what the words make of a text;
* `inside_iff` — when a file goes to the directory, with its own part expanded;
* `staysInside_iff` — when all files of a run do.
-/

namespace FlutterZero.FlutterTools.Template

open FlutterZero.Lib

/-! ## Expansion -/

variable {style : PathStyle}

variable (style) in
def expand (context : Context) (text : Text) : Text :=
  match names context with
  | .ok found => replaceChain (replacements style found) text
  | .error _ => text

def relativePart (context : Context) (file : TemplateFile style) : Text :=
  match chooseLanguage context file.relativePath with
  | .ok (some relativePath) => relativePath
  | _ => []

def components (style : PathStyle) (path : Text) : List Text := path.splitOnP style.isSeparator

def Climbs (style : PathStyle) (path : Text) : Prop := ['.', '.'] ∈ components style path

instance (style : PathStyle) (path : Text) : Decidable (Climbs style path) := inferInstanceAs (Decidable (_ ∈ _))

def Inside (env : Environment style) (visit : Visit style) : Prop :=
  visit.path = asDirectory style env.destination ++
      expand style visit.context (relativePart visit.context visit.file) ∧
    ¬ Climbs style (expand style visit.context (relativePart visit.context visit.file))

theorem isSeparator_separator (style : PathStyle) : style.isSeparator style.separator = true := by
  cases style <;> rfl

def patterns : List Text :=
  [copyTemplateExtension, imageTemplateExtension, testTemplateExtension, templateExtension,
    "androidIdentifier".toList, "projectName".toList, "pluginClassSnakeCase".toList, "pluginClass".toList]

theorem mem_patterns {found : Names} {pair : Text × Text}
    (member : pair ∈ replacements style found) : pair.1 ∈ patterns := by
  simp only [replacements, List.mem_append, List.mem_cons, List.not_mem_nil, or_false, List.mem_map] at member
  rcases member with (((extension | android) | ⟨_, _, rfl⟩) | ⟨_, _, rfl⟩) | ⟨_, _, rfl⟩
  · rcases extension with rfl | rfl | rfl | rfl <;> simp [patterns]
  · split at android
    · obtain ⟨_, _, rfl⟩ := List.mem_map.mp android
      simp [patterns]
    · nomatch android
  all_goals simp [patterns]

theorem replacements_apart (style : PathStyle) (found : Names) :
    ∀ pair ∈ replacements style found, pair.1 ≠ [] ∧ ∀ c ∈ pair.1, style.isSeparator c = false := by
  have words : ∀ word ∈ patterns, word ≠ [] ∧ word.all (fun c => !style.isSeparator c) := by
    cases style <;> decide
  intro pair member
  obtain ⟨nonempty, free⟩ := words pair.1 (mem_patterns member)
  exact ⟨nonempty, by simpa using free⟩

theorem expand_append_cons {c : Char} (separates : style.isSeparator c = true) (context : Context)
    (first second : Text) :
    expand style context (first ++ c :: second) = expand style context first ++ c :: expand style context second := by
  unfold expand
  cases names context with
  | error fault => rfl
  | ok found =>
    refine replaceChain_append_cons (fun pair member => ?_) first second
    obtain ⟨nonempty, apart⟩ := replacements_apart style found pair member
    exact ⟨nonempty, fun inWord => by simp [apart c inWord] at separates⟩

theorem components_expand (style : PathStyle) (context : Context) (path : Text) :
    components style (expand style context path) =
      (components style path).flatMap fun component => components style (expand style context component) := by
  unfold expand components
  cases names context with
  | error fault =>
    have nothing : ∀ pair ∈ ([] : List (Text × Text)), pair.1 ≠ [] ∧ ∀ c ∈ pair.1, style.isSeparator c = false := nofun
    simpa [replaceChain] using splitOnP_replaceChain nothing path
  | ok found => exact splitOnP_replaceChain (replacements_apart style found) path

variable {context : Context} {path : Text}

theorem climbs_expand_iff : Climbs style (expand style context path) ↔
      ∃ component ∈ components style path, Climbs style (expand style context component) := by
  rw [Climbs, components_expand, List.mem_flatMap]
  rfl

theorem expand_nil (style : PathStyle) (context : Context) : expand style context [] = [] := by
  unfold expand
  cases names context with
  | error fault => rfl
  | ok found =>
    refine replaceChain_of_free fun pair member inNothing => ?_
    exact (replacements_apart style found pair member).1 (List.infix_nil.mp inNothing)

theorem expand_asDirectory_iff {relativePath : Text} :
    expand style context (asDirectory style path ++ relativePath) =
      asDirectory style path ++ expand style context relativePath ↔ expand style context path = path := by
  unfold asDirectory
  split
  case isTrue ends =>
    obtain rfl | ends := ends
    · simp [expand_nil]
    obtain ⟨c, last, separates⟩ : ∃ c, path.getLast? = some c ∧ style.isSeparator c = true := by
      cases last : path.getLast? with
      | none =>
        rw [last] at ends
        nomatch ends
      | some c =>
        rw [last] at ends
        exact ⟨c, rfl, ends⟩
    obtain ⟨front, rfl⟩ := List.getLast?_eq_some_iff.mp last
    have directory := expand_append_cons separates context front []
    rw [expand_nil] at directory
    rw [List.append_assoc, List.singleton_append, expand_append_cons separates, directory, List.append_assoc,
      List.singleton_append]
    exact (List.append_left_inj _).trans (List.append_left_inj _).symm
  case isFalse =>
    rw [List.append_assoc, List.singleton_append, expand_append_cons (isSeparator_separator style), List.append_assoc,
      List.singleton_append]
    exact List.append_left_inj _

theorem expand_of_free
    (free : ∀ word ∈ [".tmpl".toList, "androidIdentifier".toList, "projectName".toList, "pluginClass".toList],
      ¬ word <:+: path) (context : Context) : expand style context path = path := by
  have words : ∀ word ∈ patterns,
      ∃ part ∈ [".tmpl".toList, "androidIdentifier".toList, "projectName".toList, "pluginClass".toList],
        part <:+: word := by
    decide +kernel
  unfold expand
  cases names context with
  | error fault => rfl
  | ok found =>
    refine replaceChain_of_free fun pair member inPath => ?_
    obtain ⟨part, isPart, inWord⟩ := words pair.1 (mem_patterns member)
    exact free part isPart (inWord.trans inPath)

/-! ## The visits of a run -/

theorem languageVariant_eq_some {path platform language : Text}
    (found : languageVariant path = some (platform, language)) :
    platform ≠ [] ∧ (∀ c ∈ platform, isWord c = true) ∧
      ∃ rest, path = platform ++ '-' :: language ++ templateExtension ++ rest := by
  unfold languageVariant at found
  dsimp only at found
  split at found
  next rest behind =>
    split at found
    case isFalse => cases found
    next matched =>
      obtain ⟨platformNonempty, -, more, isRest⟩ := matched
      cases found
      refine ⟨platformNonempty, List.all_eq_true.mp List.all_takeWhile, more, ?_⟩
      calc path = path.takeWhile isWord ++ path.dropWhile isWord := List.takeWhile_append_dropWhile.symm
        _ = path.takeWhile isWord ++ '-' :: (rest.takeWhile isWord ++ rest.dropWhile isWord) := by
          rw [behind, List.takeWhile_append_dropWhile]
        _ = _ := by simp [← isRest]
  next => cases found

theorem isSeparator_of_isWord {c : Char} (word : isWord c = true) : style.isSeparator c = false := by
  have slash : c ≠ '/' := by
    rintro rfl
    exact absurd word (by decide)
  have backslash : c ≠ '\\' := by
    rintro rfl
    exact absurd word (by decide)
  cases style <;> simp [PathStyle.isSeparator, slash, backslash]

theorem isRelative_of_chooseLanguage {relativePath chosen : Text} (relative : IsRelative style relativePath)
    (choice : chooseLanguage context relativePath = .ok (some chosen)) : IsRelative style chosen := by
  unfold chooseLanguage at choice
  split at choice
  · cases choice
    exact relative
  next platform variant isVariant =>
    obtain ⟨language, -, choice⟩ := bind_eq_ok.mp choice
    split at choice
    · cases choice
    cases choice
    obtain ⟨nonempty, words, rest, rfl⟩ := languageVariant_eq_some isVariant
    have matched : platform ++ '-' :: variant ++ templateExtension ≠ [] := by simp
    constructor
    · rw [replaceAll_of_match matched]
      exact List.append_ne_nil_of_left_ne_nil nonempty _
    · intro c first
      rw [replaceAll_of_match matched, List.head?_append_of_ne_nil _ nonempty] at first
      exact isSeparator_of_isWord (words c (List.mem_of_mem_head? first))
    · intro windows inChosen
      obtain inPlatform | inPath := mem_replaceAll inChosen
      · exact absurd (words ':' inPlatform) (by decide)
      · exact relative.noDrive windows inPath

/-- The path of a visit is what the words make of the whole path. -/
def Expanded (env : Environment style) (visit : Visit style) : Prop :=
  visit.path =
    expand style visit.context (asDirectory style env.destination ++ relativePart visit.context visit.file)

structure Recorded (env : Environment style) (s : State style) : Prop where
  effects : ∀ effect ∈ s.effects, ∃ visit ∈ s.visits, visit.path = effect.path
  visits : ∀ visit ∈ s.visits, .create visit.path ∈ s.effects ∧ Expanded env visit

variable {env : Environment style}

theorem path_of_destinationOf {implementationTests : Bool}
    {file : TemplateFile style} (found : destinationOf env context implementationTests file = .ok (some path)) :
    Expanded env ⟨file, context, path⟩ := by
  obtain ⟨_, _, found⟩ := bind_eq_ok.mp found
  dsimp only at found
  split at found
  · nomatch found
  split at found
  · nomatch found
  obtain ⟨chosen, choice, found⟩ := bind_eq_ok.mp found
  cases chosen with
  | none => nomatch found
  | some relativePath =>
    obtain ⟨filtered, _, found⟩ := bind_eq_ok.mp found
    cases filtered with
    | true => nomatch found
    | false =>
      obtain ⟨named, words, found⟩ := bind_eq_ok.mp found
      cases found
      rw [Expanded, expand, words, relativePart, choice,
        ← env.path.join_relative _ _ (isRelative_of_chooseLanguage file.relative choice)]

theorem renderTo_recorded {s : State style} {file : TemplateFile style} (recorded : Recorded env s)
    (expanded : Expanded env ⟨file, s.context, path⟩) : Recorded env (renderTo env s file path).1 := by
  have created : ∀ context, ∀ more : List Effect, (∀ effect ∈ more, effect.path = path) →
      Recorded env ⟨context, Function.update s.existsSync path true,
        s.effects ++ ((if s.existsSync path then [.delete path] else []) ++ [.create path]) ++ more,
        s.visits ++ [⟨file, s.context, path⟩], s.fileCount + 1⟩ := by
    intro context more onPath
    constructor
    · intro effect member
      have here : effect ∈ s.effects ∨ effect.path = path := by
        simp only [List.mem_append, List.mem_singleton] at member
        rcases member with (old | deleted | rfl) | new
        · exact .inl old
        · split at deleted
          · rw [List.mem_singleton] at deleted
            exact .inr (by rw [deleted]; rfl)
          · nomatch deleted
        · exact .inr rfl
        · exact .inr (onPath effect new)
      rcases here with old | here
      · obtain ⟨visit, visited, same⟩ := recorded.effects effect old
        exact ⟨visit, List.mem_append_left _ visited, same⟩
      · exact ⟨_, List.mem_append_right _ (List.mem_singleton_self _), here.symm⟩
    · intro visit member
      rcases List.mem_append.mp member with old | new
      · obtain ⟨creates, whole⟩ := recorded.visits visit old
        exact ⟨List.mem_append_left _ (List.mem_append_left _ creates), whole⟩
      · rw [List.mem_singleton.mp new]
        exact ⟨by simp, expanded⟩
  unfold renderTo
  dsimp only
  split
  · exact recorded
  · split
    · simpa using created s.context [] nofun
    · exact created _ _ (by simp [Effect.path])

theorem renderFiles_recorded {implementationTests : Bool} {s : State style} (recorded : Recorded env s)
    (files : List (TemplateFile style)) : Recorded env (renderFiles env implementationTests s files).1 := by
  induction files generalizing s with
  | nil => exact recorded
  | cons file files ih =>
    rw [renderFiles]
    split
    · exact recorded
    · exact ih recorded
    · have after := renderTo_recorded recorded (path_of_destinationOf ‹_›)
      split
      · simpa [*] using after
      · exact ih (by simpa [*] using after)

theorem render_recorded (env : Environment style) (context : Context) (files : List (TemplateFile style)) :
    Recorded env (render env context files).1 := by
  have start : Recorded env ⟨context, env.existsSync, [], [], 0⟩ := ⟨nofun, nofun⟩
  unfold render
  dsimp only
  split
  · exact start
  · exact renderFiles_recorded start files

/-! ## Inside of the destination -/

/-- The words leave the destination as it is, and they make no component of the file climb. -/
def Undisturbed (env : Environment style) (visit : Visit style) : Prop :=
  expand style visit.context env.destination = env.destination ∧
    ∀ component ∈ components style (relativePart visit.context visit.file),
      ¬ Climbs style (expand style visit.context component)

instance (env : Environment style) (visit : Visit style) : Decidable (Undisturbed env visit) :=
  inferInstanceAs (Decidable (_ ∧ _))

theorem inside_iff {visit : Visit style} (expanded : Expanded env visit) :
    Inside env visit ↔ Undisturbed env visit := by
  rw [Inside, Undisturbed, expanded, expand_asDirectory_iff, climbs_expand_iff, not_exists]
  simp only [not_and]

/-- Every file that is deleted, created or written is that of a visit, and all of them are inside exactly if the words
disturb none of them, as is the case for directories without the words and templates that do not climb. -/
theorem staysInside_iff (env : Environment style) (context : Context) (files : List (TemplateFile style)) :
    (∀ effect ∈ (render env context files).1.effects,
      ∃ visit ∈ (render env context files).1.visits, visit.path = effect.path) ∧
    (∀ visit ∈ (render env context files).1.visits, .create visit.path ∈ (render env context files).1.effects) ∧
    ((∀ visit ∈ (render env context files).1.visits, Inside env visit) ↔
      ∀ visit ∈ (render env context files).1.visits, Undisturbed env visit) ∧
    ((∀ word ∈ [".tmpl".toList, "androidIdentifier".toList, "projectName".toList, "pluginClass".toList],
      ¬ word <:+: env.destination) → ∀ other, expand style other env.destination = env.destination) := by
  have recorded := render_recorded env context files
  refine ⟨recorded.effects, fun visit member => (recorded.visits visit member).1, ?_, expand_of_free⟩
  exact forall₂_congr fun visit member => inside_iff (recorded.visits visit member).2

def projectEnvironment (destination : String) : Environment .posix where
  path := posixContext
  destination := destination.toList
  overwriteExisting := true
  existsSync _ := false
  imageSources := []
  renderString text _ := text

def projectContext : Context := fun key => if key = "projectName" then some (.string "app".toList) else none

theorem isRelative_projectFile : IsRelative .posix "lib/projectName.dart.tmpl".toList :=
  isRelative_posix (by decide) (by decide)

def projectFile : TemplateFile .posix where
  relativePath := "lib/projectName.dart.tmpl".toList
  relative := isRelative_projectFile
  absoluteSourcePath := "/in/lib/projectName.dart.tmpl".toList
  contents := []

theorem staysInside_iff_plain :
    ∀ visit ∈ (render (projectEnvironment "/home/me") projectContext [projectFile]).1.visits,
      Inside (projectEnvironment "/home/me") visit := by
  have inside := staysInside_iff (projectEnvironment "/home/me") projectContext [projectFile]
  have stays := inside.2.2.2 (by decide)
  refine inside.2.2.1.mpr fun visit member => ⟨stays visit.context, ?_⟩
  have only : (render (projectEnvironment "/home/me") projectContext [projectFile]).1.visits =
      [⟨projectFile, projectContext, "/home/me/lib/app.dart".toList⟩] := rfl
  rw [only, List.mem_singleton] at member
  rw [member]
  decide

/-- A project in a directory with the word in its name goes to another one. -/
theorem not_staysInside :
    (render (projectEnvironment "/home/projectName") projectContext [projectFile]).1.effects =
      [.create "/home/app/lib/app.dart".toList, .write "/home/app/lib/app.dart".toList []] ∧
    ¬ ∀ visit ∈ (render (projectEnvironment "/home/projectName") projectContext [projectFile]).1.visits,
      Inside (projectEnvironment "/home/projectName") visit := by
  refine ⟨by rfl, fun inside => ?_⟩
  have visited : (render (projectEnvironment "/home/projectName") projectContext [projectFile]).1.visits =
      [⟨projectFile, projectContext, "/home/app/lib/app.dart".toList⟩] := rfl
  rw [visited] at inside
  exact absurd (inside _ (List.mem_singleton_self _)).1 (by decide)

end FlutterZero.FlutterTools.Template
