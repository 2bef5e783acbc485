import FlutterZero.FlutterTools.SwiftPackageManagerMigration
import FlutterZero.Lib.Machine

/-! # What a failed migration leaves behind

The scheme is put back from a copy that the migration itself has made, if it has made one.  The
settings are put back from the backup file, if there is one: a backup that an interrupted run has
left there replaces the settings when the migration fails before it has made its own.
-/

namespace FlutterZero.FlutterTools.SwiftPackageManagerMigration

open FlutterZero.Lib (ok_bind)

variable {Info : Type} {env : MigrationEnvironment Info} {files : ProjectFiles}

/-! ## Programs -/

section Programs

variable {ε σ α β : Type} {x : EStateM ε σ α} {f : α → EStateM ε σ β} {s s' : σ} {e : ε}

theorem bind_eq_error :
    (x >>= f).run s = .error e s' ↔
      x.run s = .error e s' ∨ ∃ a s₁, x.run s = .ok a s₁ ∧ (f a).run s₁ = .error e s' := by
  rw [EStateM.run_bind]
  cases x.run s with
  | ok a s₁ => simp
  | error e₁ s₁ => simp

end Programs

section Runs

variable {α : Type} (s : MigrationState)

@[simp] theorem run_ofExcept_ok (a : α) : (ofExcept (.ok a)).run s = .ok a s := rfl

@[simp] theorem run_ofExcept_error (e : MigrationFailure) : (ofExcept (.error e : Except _ α)).run s = .error e s := rfl

@[simp] theorem run_copySync (source target : ProjectFile) :
    (copySync source target).run s = .ok () { s with files := Function.update s.files target (s.files source) } := rfl

@[simp] theorem run_writeAsStringSync (file : ProjectFile) (contents : String) :
    (writeAsStringSync file contents).run s =
      .ok () { s with files := Function.update s.files file (some contents) } := rfl

end Runs

/-! ## Whether the settings are written -/

def editScheme (env : MigrationEnvironment Info) (schemeInfo : SchemeInfo) : Except MigrationFailure Unit := do
  let targetReference ← findTargetReference env schemeInfo
  let contents ← newScheme env schemeInfo targetReference
  checkScheme env schemeInfo contents

/-- Nothing fails before the settings are written, and they are to change. -/
def WritesSettings (env : MigrationEnvironment Info) (files : ProjectFiles) : Prop :=
  ∃ contents schemeInfo newProjectContents, files .projectInfo = some contents ∧
    getSchemeFile env files = .ok schemeInfo ∧
    (isSchemeMigrated schemeInfo.schemeContent = true ∨ editScheme env schemeInfo = .ok ()) ∧
    newSettings env contents = .ok (some newProjectContents) ∧ newProjectContents ≠ contents

/-! ## The copies -/

structure SchemeSafe (files : ProjectFiles) (s : MigrationState) : Prop where
  aside : ∀ schemeInfo, s.schemeInfo = some schemeInfo → schemeInfo.backupSchemeFile = true →
    s.files (.backupScheme schemeInfo.schemeName) = files (.scheme schemeInfo.schemeName)
  others : ∀ schemeName, (∀ schemeInfo, s.schemeInfo = some schemeInfo → schemeInfo.backupSchemeFile = true →
    schemeInfo.schemeName ≠ schemeName) → s.files (.scheme schemeName) = files (.scheme schemeName)

structure Untouched (files : ProjectFiles) (s : MigrationState) : Prop where
  projectInfo : s.files .projectInfo = files .projectInfo
  backup : s.files .backupProjectSettings = files .backupProjectSettings

variable {s : MigrationState}

theorem schemeSafe_of_files (same : s.files = files)
    (none : ∀ schemeInfo, s.schemeInfo = some schemeInfo → schemeInfo.backupSchemeFile = false) :
    SchemeSafe files s where
  aside schemeInfo known backup := by simp [none schemeInfo known] at backup
  others _ _ := by rw [same]

theorem untouched_of_files (same : s.files = files) : Untouched files s where
  projectInfo := by rw [same]
  backup := by rw [same]

variable {s' : MigrationState} {schemeInfo : SchemeInfo}

theorem schemeSafe_aside (same : s.files = files)
    (schemeInfo_eq : s'.schemeInfo = some { schemeInfo with backupSchemeFile := true })
    (aside : s'.files (.backupScheme schemeInfo.schemeName) = s.files (.scheme schemeInfo.schemeName))
    (others : ∀ schemeName, schemeInfo.schemeName ≠ schemeName →
      s'.files (.scheme schemeName) = s.files (.scheme schemeName)) : SchemeSafe files s' where
  aside := by
    intro schemeInfo' known _
    rw [schemeInfo_eq, Option.some.injEq] at known
    rw [← known, ← same]
    exact aside
  others := by
    intro schemeName other
    rw [others schemeName (other { schemeInfo with backupSchemeFile := true } schemeInfo_eq rfl), same]

theorem schemeSafe_written (schemeInfo : SchemeInfo) (same : s.files = files) (contents : Option String) :
    let files' :=
      Function.update s.files (.backupScheme schemeInfo.schemeName) (s.files (.scheme schemeInfo.schemeName))
    let s' : MigrationState := { s with
      schemeInfo := some { schemeInfo with backupSchemeFile := true }
      files := Function.update files' (.scheme schemeInfo.schemeName) contents }
    SchemeSafe files s' ∧ Untouched files s' := by
  refine ⟨schemeSafe_aside same rfl ?_ ?_, ?_⟩
  · simp
  · intro schemeName other
    simp [Ne.symm other]
  · constructor <;> simp [same]

theorem migrateScheme_keeps (env : MigrationEnvironment Info) (schemeInfo : SchemeInfo) (same : s.files = files)
    (none : ∀ schemeInfo, s.schemeInfo = some schemeInfo → schemeInfo.backupSchemeFile = false) :
    match (migrateScheme env schemeInfo).run s with
    | .ok () s' => SchemeSafe files s' ∧ Untouched files s' ∧ editScheme env schemeInfo = .ok ()
    | .error _ s' => SchemeSafe files s' ∧ Untouched files s' ∧ editScheme env schemeInfo ≠ .ok () := by
  simp only [migrateScheme, editScheme, EStateM.run_bind]
  cases findTargetReference env schemeInfo with
  | error e =>
    simp only [run_ofExcept_error]
    exact ⟨schemeSafe_of_files same none, untouched_of_files same, fun done => nomatch done⟩
  | ok targetReference =>
    simp only [run_ofExcept_ok, EStateM.run_modify, run_copySync, ok_bind]
    cases newScheme env schemeInfo targetReference with
    | error e =>
      -- The copy has been made, and the scheme is still what it was.
      refine ⟨schemeSafe_aside same rfl ?_ ?_, ⟨?_, ?_⟩, fun done => nomatch done⟩
      · simp
      · simp
      · simp [same]
      · simp [same]
    | ok contents =>
      simp only [run_ofExcept_ok, run_writeAsStringSync, ok_bind]
      have written := schemeSafe_written schemeInfo same (some contents)
      cases checkScheme env schemeInfo contents with
      | error e => exact ⟨written.1, written.2, fun done => nomatch done⟩
      | ok done => exact ⟨written.1, written.2, rfl⟩

theorem updateScheme_keeps (env : MigrationEnvironment Info) (schemeInfo : SchemeInfo) (same : s.files = files)
    (none : ∀ schemeInfo, s.schemeInfo = some schemeInfo → schemeInfo.backupSchemeFile = false) :
    match (updateScheme env schemeInfo).run s with
    | .ok () s' => SchemeSafe files s' ∧ Untouched files s' ∧
      (isSchemeMigrated schemeInfo.schemeContent = true ∨ editScheme env schemeInfo = .ok ())
    | .error _ s' => SchemeSafe files s' ∧ Untouched files s' ∧
      ¬ (isSchemeMigrated schemeInfo.schemeContent = true ∨ editScheme env schemeInfo = .ok ()) := by
  by_cases migrated : isSchemeMigrated schemeInfo.schemeContent = true
  · rw [updateScheme, if_pos migrated]
    exact ⟨schemeSafe_of_files same none, untouched_of_files same, .inl migrated⟩
  · rw [updateScheme, if_neg migrated]
    have kept := migrateScheme_keeps env schemeInfo same none
    revert kept
    cases (migrateScheme env schemeInfo).run s with
    | ok done s' => exact fun kept => ⟨kept.1, kept.2.1, .inr kept.2.2⟩
    | error e s' => exact fun kept => ⟨kept.1, kept.2.1, not_or.mpr ⟨migrated, kept.2.2⟩⟩

theorem updateProjectSettings_run (s : MigrationState) (newProjectContents originalProjectContents : String) :
    (updateProjectSettings newProjectContents originalProjectContents).run s =
      if originalProjectContents = newProjectContents then .ok () s
      else .ok () { s with files := Function.update (Function.update s.files .backupProjectSettings
        (s.files .projectInfo)) .projectInfo (some newProjectContents) } := by
  by_cases same : originalProjectContents = newProjectContents
  · rw [updateProjectSettings, if_neg (not_not.mpr same), if_pos same]
    rfl
  · rw [updateProjectSettings, if_pos same, if_neg same]
    rfl

variable {e : MigrationFailure}

theorem checkProject_keeps {contents : String}
    (failed : (checkProject env contents).run s = .error e s') : s' = s := by
  have read : ∀ {result : EStateM.Result MigrationFailure MigrationState String},
      readProjectInfo.run s = result → result = .error (.exception "Xcode project not found.") s ∨
        ∃ updated, result = .ok updated s := by
    rintro _ rfl
    simp only [readProjectInfo, EStateM.run_bind, EStateM.run_get]
    cases s.files .projectInfo with
    | none => exact .inl rfl
    | some updated => exact .inr ⟨updated, rfl⟩
  simp only [checkProject, EStateM.run_bind] at failed
  rcases read rfl with missing | ⟨updated, found⟩
  · rw [missing] at failed
    cases failed
    rfl
  · rw [found] at failed
    simp only at failed
    cases valid : validate env contents updated with
    | error e₁ =>
      rw [valid] at failed
      cases failed
      rfl
    | ok valid' =>
      rw [valid] at failed
      simp only [run_ofExcept_ok] at failed
      cases compiled : env.getInfo with
      | error e₁ =>
        rw [compiled] at failed
        cases failed
        rfl
      | ok compiled' =>
        rw [compiled] at failed
        cases failed

def SettingsSafe (env : MigrationEnvironment Info) (files : ProjectFiles) (s : MigrationState) : Prop :=
  (WritesSettings env files → s.files .backupProjectSettings = files .projectInfo) ∧
    (¬ WritesSettings env files → Untouched files s)

theorem updateSettings_keeps (env : MigrationEnvironment Info) (contents : String)
    (safe : SchemeSafe files s) (untouched : Untouched files s)
    (writes : ∀ newProjectContents, newSettings env contents = .ok (some newProjectContents) →
      newProjectContents ≠ contents → WritesSettings env files)
    (only : WritesSettings env files → ∃ newProjectContents,
      newSettings env contents = .ok (some newProjectContents) ∧ newProjectContents ≠ contents) :
    match (updateSettings env contents).run s with
    | .ok () s' => SchemeSafe files s' ∧ SettingsSafe env files s'
    | .error _ s' => SchemeSafe files s' ∧ SettingsSafe env files s' := by
  simp only [updateSettings, EStateM.run_bind]
  cases edited : newSettings env contents with
  | error e =>
    refine ⟨safe, fun wrote => ?_, fun _ => untouched⟩
    obtain ⟨newProjectContents, done, _⟩ := only wrote
    exact nomatch edited.symm.trans done
  | ok new =>
    simp only [run_ofExcept_ok]
    cases new with
    | none =>
      refine ⟨safe, fun wrote => ?_, fun _ => untouched⟩
      obtain ⟨newProjectContents, done, _⟩ := only wrote
      exact nomatch edited.symm.trans done
    | some newProjectContents =>
      simp only [updateProjectSettings_run]
      by_cases same : contents = newProjectContents
      · rw [if_pos same]
        refine ⟨safe, fun wrote => ?_, fun _ => untouched⟩
        obtain ⟨newProjectContents', done, changed⟩ := only wrote
        rw [edited, Except.ok.injEq, Option.some.injEq] at done
        exact absurd (done ▸ same.symm) changed
      · rw [if_neg same]
        refine ⟨⟨?_, ?_⟩, fun _ => ?_, fun none => ?_⟩
        · intro schemeInfo known' backup
          simpa using safe.aside schemeInfo known' backup
        · intro schemeName other
          simpa using safe.others schemeName other
        · simpa using untouched.projectInfo
        · exact absurd (writes newProjectContents edited (Ne.symm same)) none

theorem backupSchemeFile_of_getSchemeFile (found : getSchemeFile env files = .ok schemeInfo) :
    schemeInfo.backupSchemeFile = false := by
  unfold getSchemeFile at found
  split at found
  · cases found
  · split at found
    · rename_i fast
      cases found
      obtain ⟨scheme, _, fast⟩ := Option.bind_eq_some_iff.mp fast
      obtain ⟨content, _, rfl⟩ := Option.map_eq_some_iff.mp fast
      rfl
    · split at found
      · cases found
      · cases found
      · split at found
        · cases found
        · split at found <;> cases found
          rfl

theorem edits_fail {contents : String} (same : s.files = files)
    (none : ∀ schemeInfo, s.schemeInfo = some schemeInfo → schemeInfo.backupSchemeFile = false)
    (writes : (isSchemeMigrated schemeInfo.schemeContent = true ∨ editScheme env schemeInfo = .ok ()) →
      ∀ new, newSettings env contents = .ok (some new) → new ≠ contents → WritesSettings env files)
    (only : WritesSettings env files →
      (isSchemeMigrated schemeInfo.schemeContent = true ∨ editScheme env schemeInfo = .ok ()) ∧
        ∃ new, newSettings env contents = .ok (some new) ∧ new ≠ contents) (failed : (do
      updateScheme env schemeInfo
      updateSettings env contents
      checkProject env contents).run s = .error e s') : SchemeSafe files s' ∧ SettingsSafe env files s' := by
  have scheme := updateScheme_keeps env schemeInfo same none
  rcases bind_eq_error.mp failed with failed | ⟨_, s₁, done, failed⟩
  · rw [failed] at scheme
    exact ⟨scheme.1, fun wrote => absurd (only wrote).1 scheme.2.2, fun _ => scheme.2.1⟩
  · rw [done] at scheme
    have settings := updateSettings_keeps env contents scheme.1 scheme.2.1
      (writes scheme.2.2) fun wrote => (only wrote).2
    rcases bind_eq_error.mp failed with failed | ⟨_, s₂, done, failed⟩
    · rw [failed] at settings
      exact settings
    · rw [done] at settings
      rw [checkProject_keeps failed]
      exact settings

theorem tryMigrate_fails
    (failed : (tryMigrate env).run (start files) = .error e s') : SchemeSafe files s' ∧ SettingsSafe env files s' := by
  -- A failure before anything is written.
  have early : ∀ s : MigrationState, s.files = files →
      (∀ schemeInfo, s.schemeInfo = some schemeInfo → schemeInfo.backupSchemeFile = false) →
      ¬ WritesSettings env files → SchemeSafe files s ∧ SettingsSafe env files s :=
    fun s same none no =>
      ⟨schemeSafe_of_files same none, fun wrote => absurd wrote no, fun _ => untouched_of_files same⟩
  simp only [tryMigrate, readProjectInfo, EStateM.run_bind, EStateM.run_get] at failed
  cases found : files .projectInfo with
  | none =>
    rw [show (start files).files .projectInfo = none from found] at failed
    cases failed
    refine early _ rfl (fun _ none => nomatch none) ?_
    rintro ⟨contents, _, _, known, _⟩
    exact nomatch found.symm.trans known
  | some contents =>
    rw [show (start files).files .projectInfo = some contents from found] at failed
    simp only [EStateM.run_pure] at failed
    cases known : getSchemeFile env files with
    | error e₁ =>
      rw [show getSchemeFile env (start files).files = .error e₁ from known] at failed
      cases failed
      refine early _ rfl (fun _ none => nomatch none) ?_
      rintro ⟨_, schemeInfo, _, _, known', _⟩
      exact nomatch known.symm.trans known'
    | ok schemeInfo =>
      rw [show getSchemeFile env (start files).files = .ok schemeInfo from known] at failed
      simp only [run_ofExcept_ok, EStateM.run_modify] at failed
      split at failed
      · cases failed
      · have none : ∀ schemeInfo', some schemeInfo = some schemeInfo' → schemeInfo'.backupSchemeFile = false := by
          rintro _ ⟨⟩
          exact backupSchemeFile_of_getSchemeFile known
        refine edits_fail rfl none ?_ ?_ failed
        · intro done new edited changed
          exact ⟨contents, schemeInfo, new, found, known, done, edited, changed⟩
        · rintro ⟨_, _, new, found', known', done, edited, changed⟩
          cases found.symm.trans found'
          cases known.symm.trans known'
          exact ⟨done, new, edited, changed⟩

/-! ## What is put back -/

theorem deleteBackups_projectInfo (schemeInfo : Option SchemeInfo) (files : ProjectFiles) :
    deleteBackups schemeInfo files .projectInfo = files .projectInfo := by
  unfold deleteBackups
  split <;> simp

theorem deleteBackups_scheme (schemeInfo : Option SchemeInfo) (files : ProjectFiles) (schemeName : String) :
    deleteBackups schemeInfo files (.scheme schemeName) = files (.scheme schemeName) := by
  unfold deleteBackups
  split <;> simp

/-- What `restoreFromBackup` does about the settings. -/
def restoreSettings (files : ProjectFiles) : ProjectFiles :=
  if (files .backupProjectSettings).isSome then Function.update files .projectInfo (files .backupProjectSettings)
  else files

theorem restoreSettings_projectInfo (files : ProjectFiles) :
    restoreSettings files .projectInfo = (files .backupProjectSettings).or (files .projectInfo) := by
  cases backup : files .backupProjectSettings with
  | none => simp [restoreSettings, backup]
  | some contents => simp [restoreSettings, backup]

theorem restoreSettings_of_ne (files : ProjectFiles) {file : ProjectFile} (other : file ≠ .projectInfo) :
    restoreSettings files file = files file := by
  unfold restoreSettings
  split
  · rw [Function.update_of_ne other]
  · rfl

theorem restoreFromBackup_of_saved {schemeName schemeContent : String}
    (saved : s.schemeInfo = some ⟨schemeName, schemeContent, true⟩) :
    restoreFromBackup s = Function.update (restoreSettings s.files) (.scheme schemeName)
      (restoreSettings s.files (.backupScheme schemeName)) := by
  simp only [restoreFromBackup, saved]
  rfl

theorem restoreFromBackup_of_unsaved
    (unsaved : ∀ schemeInfo, s.schemeInfo = some schemeInfo → schemeInfo.backupSchemeFile = false) :
    restoreFromBackup s = restoreSettings s.files := by
  unfold restoreFromBackup
  cases known : s.schemeInfo with
  | none => rfl
  | some schemeInfo =>
    obtain ⟨schemeName, schemeContent, backup⟩ := schemeInfo
    cases backup with
    | false => rfl
    | true => exact nomatch unsaved _ known

theorem saved_or_unsaved (s : MigrationState) :
    (∃ schemeName schemeContent, s.schemeInfo = some ⟨schemeName, schemeContent, true⟩) ∨
      ∀ schemeInfo, s.schemeInfo = some schemeInfo → schemeInfo.backupSchemeFile = false := by
  cases s.schemeInfo with
  | none => simp
  | some schemeInfo =>
    obtain ⟨schemeName, schemeContent, backup⟩ := schemeInfo
    cases backup with
    | false => simp
    | true => simp

theorem restoreFromBackup_projectInfo (s : MigrationState) :
    restoreFromBackup s .projectInfo = (s.files .backupProjectSettings).or (s.files .projectInfo) := by
  obtain ⟨schemeName, schemeContent, saved⟩ | unsaved := saved_or_unsaved s
  · rw [restoreFromBackup_of_saved saved, Function.update_of_ne (by simp), restoreSettings_projectInfo]
  · rw [restoreFromBackup_of_unsaved unsaved, restoreSettings_projectInfo]

theorem restoreFromBackup_scheme (safe : SchemeSafe files s) (schemeName : String) :
    restoreFromBackup s (.scheme schemeName) = files (.scheme schemeName) := by
  obtain ⟨name, content, saved⟩ | unsaved := saved_or_unsaved s
  · rw [restoreFromBackup_of_saved saved]
    by_cases same : schemeName = name
    · subst same
      rw [Function.update_self, restoreSettings_of_ne _ (by simp)]
      exact safe.aside _ saved rfl
    · rw [Function.update_of_ne (by simpa using same), restoreSettings_of_ne _ (by simp)]
      apply safe.others schemeName
      intro schemeInfo known _
      rw [saved, Option.some.injEq] at known
      rw [← known]
      exact Ne.symm same
  · rw [restoreFromBackup_of_unsaved unsaved, restoreSettings_of_ne _ (by simp)]
    apply safe.others schemeName
    intro schemeInfo known backup
    simp [unsaved schemeInfo known] at backup

/-- The migration fails with an `Exception`. -/
def Fails (env : MigrationEnvironment Info) (files : ProjectFiles) : Prop :=
  env.usesSwiftPackageManager = true ∧ env.flutterPluginSwiftPackageManifest = true ∧
    ∃ message s, (tryMigrate env).run (start files) = .error (.exception message) s

def Restored (env : MigrationEnvironment Info) (files : ProjectFiles) : Prop :=
  (migrate env files).2 .projectInfo = files .projectInfo ∧
    ∀ schemeName, (migrate env files).2 (.scheme schemeName) = files (.scheme schemeName)

/-- A migration that fails leaves the project as it was, exactly if there was no backup of other settings, or the
    migration had come to make its own. -/
theorem restored_iff (failed : Fails env files) :
    Restored env files ↔ files .backupProjectSettings = none ∨
      files .backupProjectSettings = files .projectInfo ∨ WritesSettings env files := by
  obtain ⟨uses, manifest, message, s, failed⟩ := failed
  have migrated : (migrate env files).2 = deleteBackups s.schemeInfo (restoreFromBackup s) := by
    simp [migrate, uses, manifest, failed]
  obtain ⟨scheme, wrote, untouched⟩ := tryMigrate_fails failed
  have schemes : ∀ schemeName, (migrate env files).2 (.scheme schemeName) = files (.scheme schemeName) := by
    intro schemeName
    rw [migrated, deleteBackups_scheme, restoreFromBackup_scheme scheme]
  have settings : (migrate env files).2 .projectInfo =
      (s.files .backupProjectSettings).or (s.files .projectInfo) := by
    rw [migrated, deleteBackups_projectInfo, restoreFromBackup_projectInfo]
  simp only [Restored, schemes, implies_true, and_true, settings]
  by_cases writes : WritesSettings env files
  · -- The backup is the migration's own.
    obtain ⟨contents, _, _, found, _⟩ := id writes
    simp [wrote writes, found, writes]
  · rw [(untouched writes).backup, (untouched writes).projectInfo]
    cases files .backupProjectSettings with
    | none => simp
    | some contents => simp [writes]

/-! ### A project without a workspace -/

def noWorkspace : MigrationEnvironment Unit where
  platform := .ios
  hostAppProjectName := "Runner"
  usesSwiftPackageManager := true
  flutterPluginSwiftPackageManifest := true
  examplePlugin := none
  xcodeWorkspace := false
  flavor := none
  schemeForProject := some "Runner"
  projectInfo := .ok (some ⟨false, some "Runner"⟩)
  parseXml _ := .ok []
  plistJsonContent _ := none
  decodeProjectInfo _ := .ok ()
  migrateBuildFile lines _ := .ok lines
  migrateFrameworksBuildPhase lines _ := .ok lines
  migrateNativeTarget lines _ := .ok lines
  migrateProjectObject lines _ := .ok lines
  migrateLocalPackageProductDependencies lines _ := .ok lines
  migratePackageProductDependencies lines _ := .ok lines
  migrationOptionalFilesAndGroups lines _ := .ok lines
  isPbxprojMigratedCorrectly _ := false
  areOptionalFilesMigratedCorrectly _ := false
  getInfo := .ok ()

def leftover (backup : Option String) : ProjectFiles
  | .projectInfo => some "// new"
  | .backupProjectSettings => backup
  | .scheme _ => some "<Scheme/>"
  | .backupScheme _ => none

/-- Without a backup from before, there is nothing to put back. -/
theorem restored_without_leftover : Fails noWorkspace (leftover none) ∧ Restored noWorkspace (leftover none) :=
  have failed : Fails noWorkspace (leftover none) := ⟨rfl, rfl, _, _, rfl⟩
  ⟨failed, (restored_iff failed).mpr (.inl rfl)⟩

/-- A backup from before replaces the settings of a project that has no workspace. -/
theorem not_restored_with_leftover :
    ¬ ∀ (env : MigrationEnvironment Unit) (files : ProjectFiles), Fails env files → Restored env files := by
  intro restored
  have settings := (restored noWorkspace (leftover (some "// old")) ⟨rfl, rfl, _, _, rfl⟩).1
  have overwritten : (migrate noWorkspace (leftover (some "// old"))).2 .projectInfo = some "// old" := rfl
  rw [overwritten] at settings
  exact absurd settings (by simp [leftover])

end FlutterZero.FlutterTools.SwiftPackageManagerMigration
