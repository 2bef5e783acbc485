import FlutterZero.FlutterTools.Template
import FlutterZero.Lib.Machine

/-! # The order of the files of a template

The context changes when a Kotlin file is rendered and a segment of the identifier is a keyword of Kotlin.  A file
behind it is rendered as if it came first exactly if the escaped identifier makes no difference to it.

* `fileEffects` — what is done for a file on its own;
* `Settled` — the contexts in which the files still to come are rendered as in the first one;
* `outcome_renderFiles` — what is done for all files then;
* `orderIndependent_iff` — the sets of files whose order does not matter.
-/

namespace FlutterZero.FlutterTools.Template

open FlutterZero.Lib

/-! ## Escaped identifiers -/

theorem dot_not_mem_escapeSegment {segment : Text} (noDot : '.' ∉ segment) : '.' ∉ escapeSegment segment := by
  unfold escapeSegment
  split
  · simpa using noDot
  · exact noDot

theorem escapeSegment_eq_self_iff {segment : Text} :
    escapeSegment segment = segment ↔ segment ∉ kReservedKotlinKeywords := by
  unfold escapeSegment
  split
  case isTrue reserved =>
    refine iff_of_false (fun same => ?_) (not_not_intro reserved)
    have := congrArg List.length same
    simp only [List.length_append, List.length_cons] at this
    omega
  case isFalse free => exact iff_of_true rfl free

theorem escapeSegment_not_mem (segment : Text) : escapeSegment segment ∉ kReservedKotlinKeywords := by
  unfold escapeSegment
  split
  · simp [kReservedKotlinKeywords]
  · assumption

theorem splitOn_escapeKotlinKeywords (id : Text) :
    (escapeKotlinKeywords id).splitOn '.' = (id.splitOn '.').map escapeSegment := by
  -- no dot is put into a segment, so the escaped ones are found again
  refine List.splitOn_intercalate _ (fun segment member => ?_) (by simp)
  obtain ⟨original, inId, rfl⟩ := List.mem_map.mp member
  exact dot_not_mem_escapeSegment (not_mem_of_mem_splitOn inId)

theorem escapeKotlinKeywords_eq_self_iff {id : Text} :
    escapeKotlinKeywords id = id ↔ ∀ segment ∈ id.splitOn '.', segment ∉ kReservedKotlinKeywords := by
  constructor
  · intro same segment member
    have segments := splitOn_escapeKotlinKeywords id
    rw [same] at segments
    exact escapeSegment_eq_self_iff.mp (map_eq_self_iff.mp segments.symm segment member)
  · intro free
    have same : (id.splitOn '.').map escapeSegment = id.splitOn '.' :=
      map_eq_self_iff.mpr fun segment member => escapeSegment_eq_self_iff.mpr (free segment member)
    rw [escapeKotlinKeywords, same, List.intercalate_splitOn]

theorem escapeKotlinKeywords_escapeKotlinKeywords (id : Text) :
    escapeKotlinKeywords (escapeKotlinKeywords id) = escapeKotlinKeywords id := by
  rw [escapeKotlinKeywords_eq_self_iff, splitOn_escapeKotlinKeywords]
  intro segment member
  obtain ⟨original, -, rfl⟩ := List.mem_map.mp member
  exact escapeSegment_not_mem original

/-! ## Contexts -/

/-- The context behind a Kotlin file. -/
def escaped (context : Context) : Context :=
  match context "androidIdentifier" with
  | some (.string id) => Function.update context "androidIdentifier" (some (.string (escapeKotlinKeywords id)))
  | _ => context

def NoKeyword (context : Context) : Prop :=
  ∀ id, context "androidIdentifier" = some (.string id) → ∀ segment ∈ id.splitOn '.', segment ∉ kReservedKotlinKeywords

variable {context : Context} {id : Text}

theorem asString_eq_ok_some {key : String} {text : Text} (cast : asString context key = .ok (some text)) :
    context key = some (.string text) := by
  unfold asString at cast
  split at cast
  · cases cast
  · cases cast
    assumption
  · cases cast

theorem escaped_of_string (known : context "androidIdentifier" = some (.string id)) :
    escaped context = Function.update context "androidIdentifier" (some (.string (escapeKotlinKeywords id))) := by
  rw [escaped, known]

theorem escaped_androidIdentifier (known : context "androidIdentifier" = some (.string id)) :
    escaped context "androidIdentifier" = some (.string (escapeKotlinKeywords id)) := by
  rw [escaped_of_string known, Function.update_self]

theorem escaped_of_noKeyword (noKeyword : NoKeyword context) : escaped context = context := by
  unfold escaped
  split
  next id known => rw [escapeKotlinKeywords_eq_self_iff.mpr (noKeyword id known), ← known, Function.update_eq_self]
  next => rfl

theorem escaped_cases (context : Context) :
    (∃ id, context "androidIdentifier" = some (.string id)) ∨
      (∀ id, context "androidIdentifier" ≠ some (.string id)) ∧ escaped context = context := by
  by_cases known : ∃ id, context "androidIdentifier" = some (.string id)
  · exact .inl known
  · rw [not_exists] at known
    exact .inr ⟨known, escaped_of_noKeyword fun id isId => absurd isId (known id)⟩

theorem escaped_escaped (context : Context) : escaped (escaped context) = escaped context := by
  obtain ⟨id, known⟩ | ⟨-, same⟩ := escaped_cases context
  · have again := escaped_androidIdentifier known
    rw [escaped_of_string again, escapeKotlinKeywords_escapeKotlinKeywords, ← again, Function.update_eq_self]
  · rw [same, same]

theorem escaped_apply_of_ne {key : String} (other : key ≠ "androidIdentifier") : escaped context key = context key := by
  obtain ⟨id, known⟩ | ⟨-, same⟩ := escaped_cases context
  · rw [escaped_of_string known, Function.update_of_ne other]
  · rw [same]

theorem asBool_escaped {key : String} (other : key ≠ "androidIdentifier") :
    asBool (escaped context) key = asBool context key := by
  rw [asBool, escaped_apply_of_ne other, ← asBool]

theorem asString_escaped {key : String} (other : key ≠ "androidIdentifier") :
    asString (escaped context) key = asString context key := by
  rw [asString, escaped_apply_of_ne other, ← asString]

/-! ## Contents -/

variable {style : PathStyle} {env : Environment style} {file : TemplateFile style} {path : Text}

/-- A file that is neither copied nor an image. -/
def IsRendered (file : TemplateFile style) : Prop :=
  ¬ copyTemplateExtension <:+ file.absoluteSourcePath ∧ ¬ imageTemplateExtension <:+ file.absoluteSourcePath ∧
    templateExtension <:+ file.absoluteSourcePath

instance (file : TemplateFile style) : Decidable (IsRendered file) := inferInstanceAs (Decidable (_ ∧ _))

theorem contextFor_of_string (known : context "androidIdentifier" = some (.string id)) (path : Text) :
    contextFor context path = .ok (if ".kt".toList <:+ path then escaped context else context) := by
  have cast : asString context "androidIdentifier" = .ok (some id) := by rw [asString, known]
  rw [contextFor, cast, escaped_of_string known]
  simp only [bind, Except.bind]
  split <;> rfl

theorem contextFor_eq_ok {after : Context} (done : contextFor context path = .ok after) :
    after = if ".kt".toList <:+ path then escaped context else context := by
  obtain ⟨id, known⟩ | ⟨unknown, same⟩ := escaped_cases context
  · rw [contextFor_of_string known] at done
    cases done
    rfl
  · obtain ⟨identifier, cast, done⟩ := bind_eq_ok.mp done
    cases identifier with
    | none =>
      cases done
      rw [same, ite_self]
    | some id => exact absurd (asString_eq_ok_some cast) (unknown id)

theorem contextFor_escaped (kotlin : ".kt".toList <:+ path) :
    contextFor (escaped context) path = contextFor context path := by
  obtain ⟨id, known⟩ | ⟨-, same⟩ := escaped_cases context
  · have again := escaped_androidIdentifier known
    rw [contextFor_of_string known, contextFor_of_string again, if_pos kotlin, if_pos kotlin, escaped_escaped]
  · rw [same]

theorem fileContents_of_isRendered (rendered : IsRendered file) (context : Context) (path : Text) :
    fileContents env context file path = renderContents env context file path := by
  rw [fileContents, if_neg rendered.1, if_neg rendered.2.1, if_pos rendered.2.2]

/-- What is copied does not depend on the context. -/
theorem fileContents_of_not_isRendered (env : Environment style) (copied : ¬ IsRendered file) (path : Text) :
    (∃ contents, ∀ other, fileContents env other file path = .ok (other, contents)) ∨
      ∃ fault, ∀ other, fileContents env other file path = .error fault := by
  by_cases isCopy : copyTemplateExtension <:+ file.absoluteSourcePath
  · exact .inl ⟨_, fun other => if_pos isCopy⟩
  by_cases isImage : imageTemplateExtension <:+ file.absoluteSourcePath
  · cases found : env.imageSources.findSome? (· (replaceAll imageTemplateExtension [] file.relativePath)) with
    | none => exact .inr ⟨_, fun other => by rw [fileContents, if_neg isCopy, if_pos isImage, found]⟩
    | some image => exact .inl ⟨_, fun other => by rw [fileContents, if_neg isCopy, if_pos isImage, found]⟩
  have noTemplate : ¬ templateExtension <:+ file.absoluteSourcePath :=
    fun isTemplate => copied ⟨isCopy, isImage, isTemplate⟩
  exact .inl ⟨_, fun other => by rw [fileContents, if_neg isCopy, if_neg isImage, if_neg noTemplate]⟩

theorem context_of_fileContents {after : Context} {contents : Text}
    (done : fileContents env context file path = .ok (after, contents)) :
    after = if IsRendered file ∧ ".kt".toList <:+ path then escaped context else context := by
  by_cases rendered : IsRendered file
  · rw [fileContents_of_isRendered rendered] at done
    obtain ⟨changed, changes, done⟩ := bind_eq_ok.mp done
    obtain ⟨localContext, -, done⟩ := bind_eq_ok.mp done
    cases done
    simp only [contextFor_eq_ok changes, rendered, true_and]
  · rw [if_neg (mt And.left rendered)]
    obtain ⟨contents, same⟩ | ⟨fault, same⟩ := fileContents_of_not_isRendered env rendered path
    · rw [same] at done
      cases done
      rfl
    · rw [same] at done
      cases done

/-! ## One file on its own -/

section

variable (env : Environment style) (context : Context) (implementationTests : Bool)

def fileEffects (file : TemplateFile style) : Option (List Effect) :=
  match destinationOf env context implementationTests file with
  | .error _ => none
  | .ok none => some []
  | .ok (some path) =>
    if env.existsSync path && !env.overwriteExisting then some []
    else
      match fileContents env context file path with
      | .error _ => none
      | .ok (_, contents) =>
        some ((if env.existsSync path then [.delete path] else []) ++ [.create path] ++ [.write path contents])

def destinationsOf (files : List (TemplateFile style)) : List Text :=
  files.filterMap fun file => (destinationOf env context implementationTests file).toOption.join

/-- The file is rendered to a Kotlin file, and does not exist or is to be overwritten. -/
def RendersKotlin (file : TemplateFile style) : Prop :=
  ∃ path, destinationOf env context implementationTests file = .ok (some path) ∧
    (env.existsSync path && !env.overwriteExisting) = false ∧ IsRendered file ∧ ".kt".toList <:+ path

/-- The escaped identifier makes no difference to the path of the file, nor to its contents: these are copied, or
those of a Kotlin file, for which the identifier is escaped in any case. -/
def Unaffected (file : TemplateFile style) : Prop :=
  destinationOf env (escaped context) implementationTests file = destinationOf env context implementationTests file ∧
    ∀ path, destinationOf env context implementationTests file = .ok (some path) →
      (env.existsSync path && !env.overwriteExisting) = false → IsRendered file → ".kt".toList <:+ path

/-- No file is affected by a Kotlin file before it. -/
def Unreached (files : List (TemplateFile style)) : Prop :=
  NoKeyword context ∨ ∀ first second rest, files.Perm (first :: second :: rest) →
    RendersKotlin env context implementationTests first → Unaffected env context implementationTests second

/-- The contexts in which the files are rendered as in the first one. -/
inductive Settled (files : List (TemplateFile style)) : Context → Prop where
  | unchanged (unreached : Unreached env context implementationTests files) : Settled files context
  | changed (unaffected : ∀ file ∈ files, Unaffected env context implementationTests file) :
      Settled files (escaped context)

variable {env context implementationTests} {files : List (TemplateFile style)} {current : Context}

theorem Unreached.of_perm {others : List (TemplateFile style)} (permuted : files.Perm others)
    (unreached : Unreached env context implementationTests files) : Unreached env context implementationTests others :=
  unreached.imp_right fun apart first second rest split => apart first second rest (permuted.trans split)

theorem Settled.tail (settled : Settled env context implementationTests (file :: files) current) :
    Settled env context implementationTests files current := by
  cases settled with
  | unchanged unreached =>
    -- two of the files behind it are two of all files
    refine .unchanged (unreached.imp_right fun apart first second rest split => ?_)
    refine apart first second (file :: rest) ?_
    exact (split.cons file).trans ((List.Perm.swap first file _).trans ((List.Perm.swap second file rest).cons first))
  | changed unaffected => exact .changed (List.forall_mem_of_forall_mem_cons unaffected)

theorem Settled.destinationOf_eq (settled : Settled env context implementationTests (file :: files) current) :
    destinationOf env current implementationTests file = destinationOf env context implementationTests file := by
  cases settled with
  | unchanged => rfl
  | changed unaffected => exact (unaffected file List.mem_cons_self).1

theorem Settled.contents_eq (settled : Settled env context implementationTests (file :: files) current)
    (found : destinationOf env context implementationTests file = .ok (some path))
    (visited : (env.existsSync path && !env.overwriteExisting) = false) :
    (fileContents env current file path).map Prod.snd = (fileContents env context file path).map Prod.snd := by
  cases settled with
  | unchanged => rfl
  | changed unaffected =>
    by_cases rendered : IsRendered file
    · have kotlin := (unaffected file List.mem_cons_self).2 path found visited rendered
      rw [fileContents_of_isRendered rendered, fileContents_of_isRendered rendered, renderContents, renderContents,
        contextFor_escaped kotlin]
    · obtain ⟨contents, same⟩ | ⟨fault, same⟩ := fileContents_of_not_isRendered env rendered path
      · rw [same, same]
        rfl
      · rw [same, same]

theorem Settled.after {after : Context} {contents : Text}
    (settled : Settled env context implementationTests (file :: files) current)
    (found : destinationOf env context implementationTests file = .ok (some path))
    (visited : (env.existsSync path && !env.overwriteExisting) = false)
    (done : fileContents env current file path = .ok (after, contents)) :
    Settled env context implementationTests files after := by
  rw [context_of_fileContents done]
  split
  case isFalse => exact settled.tail
  case isTrue kotlin =>
    cases settled with
    | changed unaffected =>
      rw [escaped_escaped]
      exact .changed (List.forall_mem_of_forall_mem_cons unaffected)
    | unchanged unreached =>
      -- the first Kotlin file: every other one is not affected by it, or there is nothing to escape
      obtain noKeyword | apart := unreached
      · rw [escaped_of_noKeyword noKeyword]
        exact .unchanged (.inl noKeyword)
      · refine .changed fun other member => ?_
        obtain ⟨before, behind, rfl⟩ := List.append_of_mem member
        exact apart file other (before ++ behind) (List.perm_middle.cons file) ⟨path, found, visited, kotlin⟩

theorem fileEffects_of_visited (found : destinationOf env context implementationTests file = .ok (some path))
    (visited : (env.existsSync path && !env.overwriteExisting) = false) :
    fileEffects env context implementationTests file =
      ((fileContents env context file path).map Prod.snd).toOption.map fun contents =>
        (if env.existsSync path then [.delete path] else []) ++ [.create path] ++ [.write path contents] := by
  rw [fileEffects, found]
  simp only [visited, Bool.false_eq_true, if_false]
  cases fileContents env context file path <;> rfl

def outcome (run : State style × Option Fault) : Option (List Effect) :=
  match run with
  | (s, none) => some s.effects
  | (_, some _) => none

theorem outcome_renderFiles {s : State style} (settled : Settled env context implementationTests files s.context)
    (untouched : ∀ path ∈ destinationsOf env context implementationTests files, s.existsSync path = env.existsSync path)
    (different : (destinationsOf env context implementationTests files).Nodup) :
    outcome (renderFiles env implementationTests s files) =
      if ∀ file ∈ files, (fileEffects env context implementationTests file).isSome then
        some (s.effects ++ files.flatMap fun file => (fileEffects env context implementationTests file).getD [])
      else none := by
  induction files generalizing s with
  | nil => simp [renderFiles, outcome]
  | cons file files ih =>
    rw [renderFiles, settled.destinationOf_eq]
    simp only [List.forall_mem_cons, List.flatMap_cons]
    cases found : destinationOf env context implementationTests file with
    | error fault =>
      have effects : fileEffects env context implementationTests file = none := by rw [fileEffects, found]
      simp [effects, outcome]
    | ok destination =>
      cases destination with
      | none =>
        have effects : fileEffects env context implementationTests file = some [] := by rw [fileEffects, found]
        have skipped : destinationsOf env context implementationTests (file :: files) =
            destinationsOf env context implementationTests files := by
          rw [destinationsOf, List.filterMap_cons, found]
          rfl
        rw [skipped] at untouched different
        dsimp only
        rw [ih settled.tail untouched different, effects]
        simp
      | some path =>
        have listed : destinationsOf env context implementationTests (file :: files) =
            path :: destinationsOf env context implementationTests files := by
          rw [destinationsOf, List.filterMap_cons, found]
          rfl
        rw [listed] at untouched different
        obtain ⟨here, untouched⟩ := List.forall_mem_cons.mp untouched
        obtain ⟨new, different⟩ := List.nodup_cons.mp different
        unfold renderTo
        dsimp only
        rw [here]
        cases kept : env.existsSync path && !env.overwriteExisting with
        | true =>
          -- the file at the destination is kept
          have effects : fileEffects env context implementationTests file = some [] := by
            rw [fileEffects, found]
            exact if_pos kept
          rw [if_pos rfl]
          dsimp only
          rw [ih settled.tail untouched different, effects]
          simp
        | false =>
          rw [if_neg Bool.false_ne_true]
          have effects := fileEffects_of_visited found kept
          rw [← settled.contents_eq found kept] at effects
          cases rendered : fileContents env s.context file path with
          | error fault =>
            rw [rendered] at effects
            simp [effects, outcome, Except.map, Except.toOption]
          | ok result =>
            obtain ⟨after, contents⟩ := result
            rw [rendered] at effects
            dsimp only
            -- what was created is the destination of no file behind it
            have untouchedAfter : ∀ other ∈ destinationsOf env context implementationTests files,
                Function.update s.existsSync path true other = env.existsSync other := by
              intro other member
              rw [Function.update_of_ne (by rintro rfl; exact new member)]
              exact untouched other member
            rw [ih (settled.after found kept rendered) untouchedAfter different, effects]
            simp [Except.map, Except.toOption]

end

/-! ## All orders -/

def destinations (env : Environment style) (context : Context) (files : List (TemplateFile style)) : List Text :=
  match asBool context "implementationTests" with
  | .error _ => []
  | .ok implementationTests => destinationsOf env context (implementationTests.getD false) files

/-- The same environment with another renderer of templates. -/
def Environment.rendering (env : Environment style) (renderString : Text → Context → Text) : Environment style :=
  { env with renderString := renderString }

/-- The files can be listed in any order: rendering fails in every order, or the same files are deleted, created and
written with the same contents. -/
def OrderIndependent (env : Environment style) (context : Context) (files : List (TemplateFile style)) : Prop :=
  ∀ (renderString : Text → Context → Text) (others : List (TemplateFile style)), files.Perm others →
    Option.Rel List.Perm (outcome (render (env.rendering renderString) context files))
      (outcome (render (env.rendering renderString) context others))

/-- Rendering does not fail. -/
def Completes (env : Environment style) (context : Context) (files : List (TemplateFile style)) : Prop :=
  ∀ renderString : Text → Context → Text, (outcome (render (env.rendering renderString) context files)).isSome

def AllUnreached (env : Environment style) (context : Context) (files : List (TemplateFile style)) : Prop :=
  ∀ implementationTests, asBool context "implementationTests" = .ok implementationTests →
    Unreached env context (implementationTests.getD false) files

variable {files : List (TemplateFile style)}

theorem outcome_render_perm {others : List (TemplateFile style)} (permuted : files.Perm others)
    (different : (destinations env context files).Nodup) (unreached : AllUnreached env context files) :
    Option.Rel List.Perm (outcome (render env context files)) (outcome (render env context others)) := by
  unfold render destinations at *
  cases cast : asBool context "implementationTests" with
  | error fault => exact .none
  | ok tests =>
    rw [cast] at different
    dsimp only at different ⊢
    have listed : (destinationsOf env context (tests.getD false) files).Perm
        (destinationsOf env context (tests.getD false) others) := permuted.filterMap _
    rw [outcome_renderFiles (.unchanged (unreached tests cast)) (fun _ _ => rfl) different,
      outcome_renderFiles (.unchanged ((unreached tests cast).of_perm permuted)) (fun _ _ => rfl)
        (listed.nodup_iff.mp different)]
    have all : (∀ file ∈ files, (fileEffects env context (tests.getD false) file).isSome) ↔
        ∀ file ∈ others, (fileEffects env context (tests.getD false) file).isSome :=
      forall_congr' fun file => imp_congr_left permuted.mem_iff
    by_cases some : ∀ file ∈ others, (fileEffects env context (tests.getD false) file).isSome
    · rw [if_pos some, if_pos (all.mpr some)]
      exact .some (permuted.flatMap_right _)
    · rw [if_neg some, if_neg (mt all.mp some)]
      exact .none

theorem orderIndependent_of_allUnreached (different : (destinations env context files).Nodup)
    (unreached : AllUnreached env context files) : OrderIndependent env context files :=
  fun _ _ permuted => outcome_render_perm permuted different unreached

/-! ## A Kotlin file and another one -/

section

variable (env : Environment style) (implementationTests : Bool)

/-- What is written for a file, and the context behind it. -/
def fileWrites (context : Context) (file : TemplateFile style) : Except Fault (Context × List Effect) :=
  match destinationOf env context implementationTests file with
  | .error fault => .error fault
  | .ok none => .ok (context, [])
  | .ok (some path) =>
    (fileContents env context file path).map fun result => (result.1, [.create path, .write path result.2])

def allWrites : Context → List (TemplateFile style) → Option (List Effect)
  | _, [] => some []
  | context, file :: files =>
    match fileWrites env implementationTests context file with
    | .error _ => none
    | .ok (after, writes) => (allWrites after files).map (writes ++ ·)

end

def isWrite : Effect → Bool
  | .delete _ => false
  | .create _ | .write _ _ => true

variable {implementationTests : Bool}

theorem outcome_renderFiles_filter (overwrites : env.overwriteExisting = true) {s : State style} :
    (outcome (renderFiles env implementationTests s files)).map (List.filter isWrite) =
      (allWrites env implementationTests s.context files).map (s.effects.filter isWrite ++ ·) := by
  induction files generalizing s with
  | nil => simp [renderFiles, outcome, allWrites]
  | cons file files ih =>
    rw [renderFiles, allWrites, fileWrites]
    cases destinationOf env s.context implementationTests file with
    | error fault => rfl
    | ok destination =>
      cases destination with
      | none => simp [ih]
      | some path =>
        simp only [renderTo, overwrites, Bool.not_true, Bool.and_false, Bool.false_eq_true, if_false]
        cases fileContents env s.context file path with
        | error fault => rfl
        | ok result =>
          -- whether the file is there only decides about what is deleted
          have deleted : (if s.existsSync path then [Effect.delete path] else []).filter isWrite = [] := by
            split <;> rfl
          have kept : [Effect.create path, .write path result.2].filter isWrite =
              [.create path, .write path result.2] := rfl
          simp [ih, Except.map, deleted, kept, Function.comp_def]

theorem allWrites_of_render (env : Environment style) (overwrites : env.overwriteExisting = true) {tests : Option Bool}
    (cast : asBool context "implementationTests" = .ok tests) {effects : List Effect}
    (done : outcome (render env context files) = some effects) :
    allWrites env (tests.getD false) context files = some (effects.filter isWrite) := by
  have start : render env context files =
      renderFiles env (tests.getD false) ⟨context, env.existsSync, [], [], 0⟩ files := by rw [render, cast]
  have filtered : (outcome (renderFiles env (tests.getD false) ⟨context, env.existsSync, [], [], 0⟩ files)).map
      (List.filter isWrite) = (allWrites env (tests.getD false) context files).map ([] ++ ·) :=
    outcome_renderFiles_filter overwrites
  rw [← start, done] at filtered
  simpa using filtered.symm

theorem allWrites_cons_eq_some {writes : List Effect}
    (done : allWrites env implementationTests context (file :: files) = some writes) :
    ∃ after first more, fileWrites env implementationTests context file = .ok (after, first) ∧
      allWrites env implementationTests after files = some more ∧ writes = first ++ more := by
  rw [allWrites] at done
  cases result : fileWrites env implementationTests context file with
  | error fault =>
    rw [result] at done
    cases done
  | ok result' =>
    rw [result] at done
    obtain ⟨more, others, rfl⟩ := Option.map_eq_some_iff.mp done
    exact ⟨result'.1, result'.2, more, rfl, others, rfl⟩

theorem allWrites_cons_cons_eq_some {other : TemplateFile style} {writes : List Effect}
    (done : allWrites env implementationTests context (file :: other :: files) = some writes) :
    ∃ between first after second more, fileWrites env implementationTests context file = .ok (between, first) ∧
      fileWrites env implementationTests between other = .ok (after, second) ∧
      allWrites env implementationTests after files = some more ∧ writes = first ++ second ++ more := by
  obtain ⟨between, first, later, writesFirst, isLater, rfl⟩ := allWrites_cons_eq_some done
  obtain ⟨after, second, more, writesSecond, isMore, rfl⟩ := allWrites_cons_eq_some isLater
  exact ⟨between, first, after, second, more, writesFirst, writesSecond, isMore, (List.append_assoc ..).symm⟩

theorem fileWrites_of_found {after : Context} {writes : List Effect}
    (found : destinationOf env context implementationTests file = .ok (some path))
    (done : fileWrites env implementationTests context file = .ok (after, writes)) :
    ∃ contents, fileContents env context file path = .ok (after, contents) ∧
      writes = [.create path, .write path contents] := by
  rw [fileWrites, found] at done
  dsimp only at done
  cases result : fileContents env context file path with
  | error fault =>
    rw [result] at done
    cases done
  | ok result' =>
    rw [result] at done
    cases done
    exact ⟨result'.2, rfl, rfl⟩

theorem context_of_fileWrites {after : Context} {writes : List Effect}
    (done : fileWrites env implementationTests context file = .ok (after, writes)) :
    after = context ∨ after = escaped context := by
  cases found : destinationOf env context implementationTests file with
  | error fault =>
    rw [fileWrites, found] at done
    cases done
  | ok destination =>
    cases destination with
    | none =>
      rw [fileWrites, found] at done
      cases done
      exact .inl rfl
    | some path =>
      obtain ⟨contents, done, -⟩ := fileWrites_of_found found done
      rw [context_of_fileContents done]
      split
      · exact .inr rfl
      · exact .inl rfl

/-! ## Paths under the escaped identifier -/

theorem chooseLanguage_escaped (context : Context) (relativePath : Text) :
    chooseLanguage (escaped context) relativePath = chooseLanguage context relativePath := by
  unfold chooseLanguage
  split
  · rfl
  next platform variant isVariant =>
    -- the key is another one, for it ends in another letter
    have other : String.ofList platform ++ "Language" ≠ "androidIdentifier" := by
      intro same
      have last := congrArg (fun key => key.toList.getLast?) same
      simp at last
    rw [asString_escaped other]

theorem isFiltered_escaped (context : Context) (relativePath : Text) {tests : List (String × (Text → Bool))}
    (others : ∀ test ∈ tests, test.1 ≠ "androidIdentifier") :
    isFiltered (escaped context) relativePath tests = isFiltered context relativePath tests := by
  induction tests with
  | nil => rfl
  | cons test tests ih =>
    obtain ⟨other, others⟩ := List.forall_mem_cons.mp others
    rw [isFiltered, isFiltered, asBool_escaped other]
    simp only [ih others]

theorem names_escaped (known : context "androidIdentifier" = some (.string id)) :
    names (escaped context) =
      (names context).map fun found => { found with androidIdentifier := some (escapeKotlinKeywords id) } := by
  have identifier : asString context "androidIdentifier" = .ok (some id) := by rw [asString, known]
  have escapes : asString (escaped context) "androidIdentifier" = .ok (some (escapeKotlinKeywords id)) := by
    rw [asString, escaped_androidIdentifier known]
  rw [names, names, identifier, escapes, asBool_escaped (by decide), asString_escaped (by decide),
    asString_escaped (by decide), asString_escaped (by decide)]
  cases asBool context "android" with
  | error fault => rfl
  | ok android =>
    cases asString context "projectName" with
    | error fault => rfl
    | ok projectName =>
      cases asString context "pluginClass" with
      | error fault => rfl
      | ok pluginClass => cases asString context "pluginClassSnakeCase" <;> rfl

/-- A file has a destination under the escaped identifier if it has one under the identifier. -/
theorem isSome_destinationOf_escaped (env : Environment style) (context : Context) (implementationTests : Bool)
    (file : TemplateFile style) :
    (destinationOf env (escaped context) implementationTests file).map Option.isSome =
      (destinationOf env context implementationTests file).map Option.isSome := by
  obtain ⟨id, known⟩ | ⟨-, same⟩ := escaped_cases context
  case inr => rw [same]
  have path : (renderPath env (escaped context) file.relativePath).map Option.isSome =
      (renderPath env context file.relativePath).map Option.isSome := by
    rw [renderPath, renderPath, chooseLanguage_escaped]
    cases chooseLanguage context file.relativePath with
    | error fault => rfl
    | ok chosen =>
      cases chosen with
      | none => rfl
      | some relativePath =>
        simp only [bind, Except.bind]
        rw [isFiltered_escaped context relativePath (by decide), names_escaped known]
        cases isFiltered context relativePath platformTests with
        | error fault => rfl
        | ok filtered =>
          cases filtered with
          | true => rfl
          | false => cases names context <;> rfl
  rw [destinationOf, destinationOf, asBool_escaped (by decide)]
  cases asBool context "withRootModule" with
  | error fault => rfl
  | ok withRootModule =>
    simp only [bind, Except.bind]
    split
    · rfl
    split
    · rfl
    exact path

theorem destinationOf_escaped {destination : Option Text}
    (found : destinationOf env context implementationTests file = .ok destination) :
    ∃ other, destinationOf env (escaped context) implementationTests file = .ok other ∧
      other.isSome = destination.isSome := by
  have same := isSome_destinationOf_escaped env context implementationTests file
  rw [found] at same
  cases other : destinationOf env (escaped context) implementationTests file with
  | error fault =>
    rw [other] at same
    cases same
  | ok other' =>
    rw [other] at same
    exact ⟨other', rfl, Except.ok.inj same⟩

/-! ## Files that do not depend on the order -/

/-- A template that is the identifier. -/
def printIdentifier (_ : Text) (context : Context) : Text :=
  match context "androidIdentifier" with
  | some (.string id) => id
  | _ => []

theorem localContextFor_androidIdentifier {localContext : Context}
    (done : localContextFor context path = .ok localContext) :
    localContext "androidIdentifier" = context "androidIdentifier" := by
  unfold localContextFor at done
  split at done
  · obtain ⟨description, -, done⟩ := bind_eq_ok.mp done
    cases description with
    | none =>
      cases done
      rfl
    | some description =>
      dsimp only at done
      split at done
      · cases done
        rfl
      · cases done
        exact Function.update_of_ne (by decide) _ _
  · cases done
    rfl

theorem contents_of_printIdentifier (prints : env.renderString = printIdentifier) (rendered : IsRendered file)
    (noKotlin : ¬ ".kt".toList <:+ path) (known : context "androidIdentifier" = some (.string id)) {after : Context}
    {contents : Text} (done : fileContents env context file path = .ok (after, contents)) : contents = id := by
  rw [fileContents_of_isRendered rendered] at done
  obtain ⟨changed, changes, done⟩ := bind_eq_ok.mp done
  obtain ⟨localContext, isLocal, done⟩ := bind_eq_ok.mp done
  cases done
  have same := contextFor_eq_ok changes
  rw [if_neg noKotlin] at same
  rw [prints, printIdentifier, localContextFor_androidIdentifier isLocal, same, known]

theorem unaffected_of_contents (prints : env.renderString = printIdentifier)
    (known : context "androidIdentifier" = some (.string id)) (keyword : escapeKotlinKeywords id ≠ id)
    {after afterEscaped : Context} {contents : Text}
    (found : destinationOf env context implementationTests file = .ok (some path))
    (foundEscaped : destinationOf env (escaped context) implementationTests file = .ok (some path))
    (plain : fileContents env context file path = .ok (after, contents))
    (quoted : fileContents env (escaped context) file path = .ok (afterEscaped, contents)) :
    Unaffected env context implementationTests file := by
  refine ⟨foundEscaped.trans found.symm, fun other foundOther visited rendered => ?_⟩
  by_contra noKotlin
  cases found.symm.trans foundOther
  have knownEscaped := escaped_androidIdentifier known
  refine keyword ?_
  calc escapeKotlinKeywords id
    _ = contents := (contents_of_printIdentifier prints rendered noKotlin knownEscaped quoted).symm
    _ = id := contents_of_printIdentifier prints rendered noKotlin known plain

/-- A Kotlin file is written, and the identifier is escaped behind it, also where it was before. -/
theorem writes_of_rendersKotlin {before after : Context} {writes : List Effect}
    (kotlin : RendersKotlin env context implementationTests file)
    (isBefore : before = context ∨ before = escaped context)
    (done : fileWrites env implementationTests before file = .ok (after, writes)) :
    ∃ path contents, after = escaped context ∧ writes = [.create path, .write path contents] := by
  obtain ⟨path, found, -, kotlin⟩ := kotlin
  obtain rfl | rfl := isBefore
  · obtain ⟨contents, rendered, rfl⟩ := fileWrites_of_found found done
    rw [context_of_fileContents rendered, if_pos kotlin]
    exact ⟨path, contents, rfl, rfl⟩
  · obtain ⟨destination, foundAgain, isSome⟩ := destinationOf_escaped found
    obtain ⟨path, rfl⟩ := Option.isSome_iff_exists.mp isSome
    obtain ⟨contents, -, rfl⟩ := fileWrites_of_found foundAgain done
    have stays := context_of_fileWrites done
    rw [escaped_escaped, or_self] at stays
    exact ⟨path, contents, stays, rfl⟩

theorem unaffected_of_perm {first second : TemplateFile style} {rest : List (TemplateFile style)}
    {writes others : List Effect} (env : Environment style) (prints : env.renderString = printIdentifier)
    (known : context "androidIdentifier" = some (.string id)) (keyword : escapeKotlinKeywords id ≠ id)
    (different : (destinationsOf env context implementationTests (first :: second :: rest)).Nodup)
    (kotlin : RendersKotlin env context implementationTests first)
    (here : allWrites env implementationTests context (first :: second :: rest) = some writes)
    (there : allWrites env implementationTests context (second :: first :: rest) = some others)
    (same : writes.Perm others) : Unaffected env context implementationTests second := by
  obtain ⟨path, found, visited, isRenderedKotlin⟩ := kotlin
  -- the Kotlin file first, and the other one under the escaped identifier
  obtain ⟨behindFirst, _, behindBoth, secondWrites, more, writesFirst, writesSecond, isMore, rfl⟩ :=
    allWrites_cons_cons_eq_some here
  obtain ⟨contents, contentsFirst, rfl⟩ := fileWrites_of_found found writesFirst
  have isEscaped := context_of_fileContents contentsFirst
  rw [if_pos isRenderedKotlin] at isEscaped
  subst isEscaped
  have lastEscaped := context_of_fileWrites writesSecond
  rw [escaped_escaped, or_self] at lastEscaped
  subst lastEscaped
  -- the other one first
  obtain ⟨behindSecond, otherWrites, behindBoth, firstWrites, more', writesOther, writesAgain, isMore', rfl⟩ :=
    allWrites_cons_cons_eq_some there
  obtain ⟨path', contents', rfl, rfl⟩ :=
    writes_of_rendersKotlin ⟨path, found, visited, isRenderedKotlin⟩ (context_of_fileWrites writesOther) writesAgain
  -- the files behind them find the same context, so the two differ in nothing that is written
  obtain rfl : more = more' := Option.some.inj (isMore.symm.trans isMore')
  rw [List.perm_append_right_iff] at same
  cases foundSecond : destinationOf env context implementationTests second with
  | error fault =>
    rw [fileWrites, foundSecond] at writesOther
    cases writesOther
  | ok destination =>
    obtain ⟨again, foundAgain, isSome⟩ := destinationOf_escaped foundSecond
    cases destination with
    | none =>
      rw [Option.isSome_none, Option.isSome_eq_false_iff, Option.isNone_iff_eq_none] at isSome
      exact ⟨by rw [foundAgain, foundSecond, isSome], fun _ found => by rw [foundSecond] at found; cases found⟩
    | some other =>
      obtain ⟨again, rfl⟩ := Option.isSome_iff_exists.mp isSome
      obtain ⟨otherContents, contentsOther, rfl⟩ := fileWrites_of_found foundSecond writesOther
      obtain ⟨againContents, contentsAgain, rfl⟩ := fileWrites_of_found foundAgain writesSecond
      -- the destinations are different, so what is written to one is found at one in the other order
      have apart : other ≠ path := by
        simp only [destinationsOf, List.filterMap_cons, found, foundSecond] at different
        rintro rfl
        exact (List.nodup_cons.mp different).1 List.mem_cons_self
      have written := same.mem_iff.mpr (show Effect.write other otherContents ∈ _ by simp)
      simp only [List.mem_append, List.mem_cons, List.not_mem_nil, or_false, Effect.write.injEq, reduceCtorEq, apart,
        false_and, false_or] at written
      obtain ⟨rfl, rfl⟩ := written
      exact unaffected_of_contents prints known keyword foundSecond foundAgain contentsOther contentsAgain

theorem exists_perm {listed other : Option (List Effect)} {effects : List Effect} (isOutcome : listed = some effects)
    (same : Option.Rel List.Perm listed other) : ∃ others, other = some others ∧ effects.Perm others := by
  subst isOutcome
  obtain ⟨permuted⟩ := same
  exact ⟨_, rfl, permuted⟩

theorem allUnreached_of_orderIndependent (overwrites : env.overwriteExisting = true)
    (different : (destinations env context files).Nodup) (completes : Completes env context files)
    (independent : OrderIndependent env context files) : AllUnreached env context files := by
  intro tests cast
  obtain ⟨id, known⟩ | ⟨unknown, -⟩ := escaped_cases context
  case inr => exact .inl fun id isId => absurd isId (unknown id)
  by_cases keyword : escapeKotlinKeywords id = id
  · refine .inl fun other isOther => ?_
    cases known.symm.trans isOther
    exact escapeKotlinKeywords_eq_self_iff.mp keyword
  refine .inr fun first second rest split kotlin => ?_
  rw [destinations, cast] at different
  -- what is written in two orders by a template that is the identifier
  let printing := env.rendering printIdentifier
  have swapped : files.Perm (second :: first :: rest) := split.trans (.swap second first rest)
  obtain ⟨effects, isOutcome⟩ := Option.isSome_iff_exists.mp (completes printIdentifier)
  obtain ⟨here, isHere, sameHere⟩ := exists_perm isOutcome (independent printIdentifier _ split)
  obtain ⟨there, isThere, sameThere⟩ := exists_perm isOutcome (independent printIdentifier _ swapped)
  have writesHere := allWrites_of_render printing overwrites cast isHere
  have writesThere := allWrites_of_render printing overwrites cast isThere
  have listed : (destinationsOf env context (tests.getD false) files).Perm
      (destinationsOf env context (tests.getD false) (first :: second :: rest)) := split.filterMap _
  exact unaffected_of_perm printing rfl known keyword (listed.nodup_iff.mp different) kotlin writesHere writesThere
    ((sameHere.symm.trans sameThere).filter isWrite)

/-- The order does not matter if no file is affected by a Kotlin file before it, and where rendering overwrites and
does not fail it does not matter only then. -/
theorem orderIndependent_iff (env : Environment style) (context : Context) (files : List (TemplateFile style))
    (different : (destinations env context files).Nodup) :
    (AllUnreached env context files → OrderIndependent env context files) ∧
      (env.overwriteExisting = true → Completes env context files →
        (OrderIndependent env context files ↔ AllUnreached env context files)) :=
  have unreached := orderIndependent_of_allUnreached different
  ⟨unreached, fun overwrites completes =>
    ⟨allUnreached_of_orderIndependent overwrites different completes, unreached⟩⟩

def sampleEnvironment : Environment .posix where
  path := posixContext
  destination := "/out".toList
  overwriteExisting := true
  existsSync _ := false
  imageSources := []
  renderString := printIdentifier

theorem isRelative_kotlinFile : IsRelative .posix "a.kt.tmpl".toList := isRelative_posix (by decide) (by decide)

def kotlinFile : TemplateFile .posix := ⟨"a.kt.tmpl".toList, isRelative_kotlinFile, "/in/a.kt.tmpl".toList, []⟩

theorem isRelative_otherFile : IsRelative .posix "b.tmpl".toList := isRelative_posix (by decide) (by decide)

def otherFile : TemplateFile .posix := ⟨"b.tmpl".toList, isRelative_otherFile, "/in/b.tmpl".toList, []⟩

theorem isRelative_copiedFile : IsRelative .posix "c.copy.tmpl".toList := isRelative_posix (by decide) (by decide)

def copiedFile : TemplateFile .posix := ⟨"c.copy.tmpl".toList, isRelative_copiedFile, "/in/c.copy.tmpl".toList, []⟩

def identified (id : String) : Context := fun key =>
  if key = "androidIdentifier" then some (.string id.toList) else none

theorem unaffected_kotlinFile (id : String) : Unaffected sampleEnvironment (identified id) false kotlinFile := by
  refine ⟨rfl, fun path found _ _ => ?_⟩
  have isPath : destinationOf sampleEnvironment (identified id) false kotlinFile = .ok (some "/out/a.kt".toList) := rfl
  cases isPath.symm.trans found
  decide

theorem unaffected_copiedFile (id : String) : Unaffected sampleEnvironment (identified id) false copiedFile :=
  ⟨rfl, fun _ _ _ rendered => absurd rendered (by decide)⟩

/-- A Kotlin file and a copied one, whose identifier has a keyword. -/
theorem orderIndependent_iff_copiedFile :
    OrderIndependent sampleEnvironment (identified "com.when.app") [kotlinFile, copiedFile] := by
  refine (orderIndependent_iff _ _ _ (by decide)).1 fun tests cast => .inr fun first second rest split _ => ?_
  cases cast
  have inside : second ∈ [kotlinFile, copiedFile] := split.mem_iff.mpr (by simp)
  simp only [List.mem_cons, List.not_mem_nil, or_false] at inside
  obtain rfl | rfl := inside
  · exact unaffected_kotlinFile _
  · exact unaffected_copiedFile _

/-- The two orders of two files whose identifier has a keyword. -/
theorem not_orderIndependent :
    outcome (render sampleEnvironment (identified "com.when.app") [kotlinFile, otherFile]) =
      some [.create "/out/a.kt".toList, .write "/out/a.kt".toList "com.`when`.app".toList,
        .create "/out/b".toList, .write "/out/b".toList "com.`when`.app".toList] ∧
    outcome (render sampleEnvironment (identified "com.when.app") [otherFile, kotlinFile]) =
      some [.create "/out/b".toList, .write "/out/b".toList "com.when.app".toList,
        .create "/out/a.kt".toList, .write "/out/a.kt".toList "com.`when`.app".toList] ∧
    (destinations sampleEnvironment (identified "com.when.app") [kotlinFile, otherFile]).Nodup ∧
    ¬ OrderIndependent sampleEnvironment (identified "com.when.app") [kotlinFile, otherFile] := by
  have here : outcome (render sampleEnvironment (identified "com.when.app") [kotlinFile, otherFile]) =
      some [.create "/out/a.kt".toList, .write "/out/a.kt".toList "com.`when`.app".toList,
        .create "/out/b".toList, .write "/out/b".toList "com.`when`.app".toList] := rfl
  have there : outcome (render sampleEnvironment (identified "com.when.app") [otherFile, kotlinFile]) =
      some [.create "/out/b".toList, .write "/out/b".toList "com.when.app".toList,
        .create "/out/a.kt".toList, .write "/out/a.kt".toList "com.`when`.app".toList] := rfl
  refine ⟨here, there, by decide, fun independent => ?_⟩
  have same : Option.Rel List.Perm (outcome (render sampleEnvironment _ _)) (outcome (render sampleEnvironment _ _)) :=
    independent printIdentifier _ (.swap otherFile kotlinFile [])
  rw [here, there] at same
  obtain ⟨permuted⟩ := same
  exact absurd permuted (by decide)

end FlutterZero.FlutterTools.Template
