import FlutterZero.Lib.Strings
import Mathlib.Logic.Function.Basic

/-! # The Swift Package Manager migration

`SwiftPackageManagerIntegrationMigration.migrate`
(`swift_package_manager_integration_migration.dart`): the scheme and the settings of an Xcode
project are edited, each after a copy of the file has been put aside, and checked; when the
migration fails, the copies are put back.

What is not in the files of the project is a record: the answers of the tools, the parsers of XML
and of property lists, and the edits of the single sections of `project.pbxproj`, which return the
edited lines or throw.  The operations on files succeed.
-/

namespace FlutterZero.FlutterTools

open Lib.Strings

inductive FlutterDarwinPlatform where
  | ios
  | macos
deriving DecidableEq, Repr

inductive ProjectFile where
  /-- `project.pbxproj` -/
  | projectInfo
  | backupProjectSettings
  | scheme (schemeName : String)
  | backupScheme (schemeName : String)
deriving DecidableEq, Repr

abbrev ProjectFiles := ProjectFile → Option String

structure SchemeInfo where
  schemeName : String
  schemeContent : String
  /-- Whether `backupSchemeFile` is set. -/
  backupSchemeFile : Bool
deriving DecidableEq, Repr

/-- What is thrown. -/
inductive MigrationFailure where
  | exception (message : String)
  /-- An `Error`, which is no `Exception`. -/
  | error
deriving DecidableEq, Repr

/-- The attributes of a `BuildableReference`. -/
structure BuildableReference where
  blueprintIdentifier : Option String
  buildableName : Option String
  blueprintName : Option String
  referencedContainer : Option String
deriving DecidableEq, Repr

structure ExamplePlugin where
  name : String
  path : String
deriving DecidableEq, Repr

structure XcodeProjectInfo where
  definesCustomSchemes : Bool
  /-- What `schemeFor` returns. -/
  scheme : Option String
deriving DecidableEq, Repr

/-- The answers and edits that are not in the files of the project.  `Info` is `ParsedProjectInfo`. -/
structure MigrationEnvironment (Info : Type) where
  platform : FlutterDarwinPlatform
  hostAppProjectName : String
  usesSwiftPackageManager : Bool
  /-- Whether `flutterPluginSwiftPackageManifest` exists. -/
  flutterPluginSwiftPackageManifest : Bool
  /-- What `_loadPluginFromExampleProject` returns. -/
  examplePlugin : Option ExamplePlugin
  xcodeWorkspace : Bool
  flavor : Option String
  schemeForProject : Option String
  projectInfo : Except MigrationFailure (Option XcodeProjectInfo)
  /-- The elements of the name `BuildableReference` of a document, or the text of the `XmlException`. -/
  parseXml : String → Except String (List BuildableReference)
  plistJsonContent : String → Option String
  /-- `json.decode` and `ParsedProjectInfo.fromJson`. -/
  decodeProjectInfo : String → Except MigrationFailure Info
  migrateBuildFile : List String → Info → Except MigrationFailure (List String)
  migrateFrameworksBuildPhase : List String → Info → Except MigrationFailure (List String)
  migrateNativeTarget : List String → Info → Except MigrationFailure (List String)
  migrateProjectObject : List String → Info → Except MigrationFailure (List String)
  migrateLocalPackageProductDependencies : List String → Info → Except MigrationFailure (List String)
  migratePackageProductDependencies : List String → Info → Except MigrationFailure (List String)
  migrationOptionalFilesAndGroups : List String → Info → Except MigrationFailure (List String)
  isPbxprojMigratedCorrectly : Info → Bool
  areOptionalFilesMigratedCorrectly : Info → Bool
  /-- The run of `xcodebuild` by which the migration ends. -/
  getInfo : Except MigrationFailure Unit

namespace SwiftPackageManagerMigration

/-! ## Texts -/

def joinLines (lines : List String) : String := "\n".intercalate lines ++ "\n"

def kFlutterGeneratedPluginSwiftPackageName : String := "FlutterGeneratedPluginSwiftPackage"
def kFlutterGeneratedFrameworkSwiftPackageTargetName : String := "FlutterFramework"

def flutterPluginsSwiftPackageBuildFileIdentifier : String := "78A318202AECB46A00862997"
def localFlutterPluginsSwiftPackageReferenceIdentifier : String := "781AD8BC2B33823900A9FFBB"
def flutterPluginsSwiftPackageProductDependencyIdentifier : String := "78A3181F2AECB46A00862997"
def flutterFrameworkLocalOverrideFileIdentifier : String := "784666492D4C4C64000A1A5F"
def flutterPluginLocalOverrideFileIdenitifier : String := "78DABEA22ED26510000E7860"
def flutterPluginsSwiftPackageFileIdentifer : String := "78E0A7A72DC9AD7400C4905E"

variable {Info : Type} (env : MigrationEnvironment Info)

def runnerNativeTargetIdentifier : String :=
  match env.platform with
  | .ios => "97C146ED1CF9000F007C117D"
  | .macos => "33CC10EC2044A3C60003C045"

/-! ## The scheme -/

def fastScheme (files : ProjectFiles) : Option SchemeInfo :=
  (if env.flavor.isNone then env.schemeForProject else none).bind fun scheme =>
    (files (.scheme scheme)).map fun content => ⟨scheme, content, false⟩

/-- What `reportFlavorNotFoundAndExit` throws. -/
def flavorNotFound (projectInfo : XcodeProjectInfo) : MigrationFailure :=
  if projectInfo.definesCustomSchemes then
    .exception "You must specify a --flavor option to select one of the available schemes."
  else .exception "The Xcode project does not define custom schemes. You cannot use the --flavor option."

def getSchemeFile (files : ProjectFiles) : Except MigrationFailure SchemeInfo :=
  if !env.xcodeWorkspace then .error (.exception "Xcode workspace not found.")
  else
    match fastScheme env files with
    | some schemeInfo => .ok schemeInfo
    | none =>
      match env.projectInfo with
      | .error failure => .error failure
      | .ok none => .error (.exception "Unable to get Xcode project info.")
      | .ok (some projectInfo) =>
        match projectInfo.scheme with
        | none => .error (flavorNotFound projectInfo)
        | some scheme =>
          match files (.scheme scheme) with
          | none => .error (.exception ("Unable to get scheme file for " ++ scheme ++ "."))
          | some content => .ok ⟨scheme, content, false⟩

def isSchemeMigrated (schemeContent : String) : Bool :=
  contains schemeContent "xcode_backend.sh" || contains schemeContent "macos_assemble.sh"

structure TargetReference where
  buildableName : String
  blueprintName : String
  referencedContainer : String
deriving DecidableEq, Repr

/-- `_migrateScheme` before the file is put aside. -/
def findTargetReference (schemeInfo : SchemeInfo) : Except MigrationFailure TargetReference := do
  let failed (reason : String) : MigrationFailure :=
    .exception ("Failed to parse " ++ schemeInfo.schemeName ++ ".xcscheme: " ++ reason)
  let buildableReferences ← (env.parseXml schemeInfo.schemeContent).mapError fun exception =>
    failed ("Invalid xml: " ++ exception)
  let some targetReference := buildableReferences.find? fun ref =>
      ref.blueprintIdentifier == some (runnerNativeTargetIdentifier env)
    | throw (failed ("Could not find BuildableReference for " ++ env.hostAppProjectName ++ "."))
  let some buildableName := targetReference.buildableName | throw (failed "Could not find BuildableName.")
  let some blueprintName := targetReference.blueprintName | throw (failed "Could not find BlueprintName.")
  let some referencedContainer := targetReference.referencedContainer
    | throw (failed "Could not find ReferencedContainer.")
  return ⟨buildableName, blueprintName, referencedContainer⟩

def scriptText : String :=
  match env.platform with
  | .ios =>
    "scriptText = \"/bin/sh &quot;$FLUTTER_ROOT/packages/flutter_tools/bin/xcode_backend.sh&quot; prepare&#10;\">"
  | .macos =>
    "scriptText = \"&quot;$FLUTTER_ROOT&quot;/packages/flutter_tools/bin/macos_assemble.sh prepare&#10;\">"

def executionAction (targetReference : TargetReference) : String :=
  "\n".intercalate
    ["         <ExecutionAction",
      "            ActionType = \"Xcode.IDEStandardExecutionActionsCore.ExecutionActionType.ShellScriptAction\">",
      "            <ActionContent",
      "               title = \"Run Prepare Flutter Framework Script\"",
      "               " ++ scriptText env,
      "               <EnvironmentBuildable>",
      "                  <BuildableReference",
      "                     BuildableIdentifier = \"primary\"",
      "                     BlueprintIdentifier = \"" ++ runnerNativeTargetIdentifier env ++ "\"",
      "                     BuildableName = \"" ++ targetReference.buildableName ++ "\"",
      "                     BlueprintName = \"" ++ targetReference.blueprintName ++ "\"",
      "                     ReferencedContainer = \"" ++ targetReference.referencedContainer ++ "\">",
      "                  </BuildableReference>",
      "               </EnvironmentBuildable>",
      "            </ActionContent>",
      "         </ExecutionAction>"]

/-- `_migrateScheme` between the copy and the write: the new contents. -/
def newScheme (schemeInfo : SchemeInfo) (targetReference : TargetReference) : Except MigrationFailure String := do
  let schemeContent := schemeInfo.schemeContent
  let newContent := executionAction env targetReference
  if contains schemeContent "PreActions" then
    return replaceFirst schemeContent "<PreActions>" ("<PreActions>\n" ++ newContent)
  let newContent := "      <PreActions>\n" ++ newContent ++ "\n      </PreActions>\n"
  let schemeLines := splitLines schemeContent
  -- If there are no BuildActionEntries, append before end of BuildAction.
  match (schemeLines.find? fun line => contains line "<BuildActionEntries>").or
      (schemeLines.find? fun line => contains line "</BuildAction>") with
  | none =>
    throw (.exception ("Failed to parse " ++ schemeInfo.schemeName ++ ".xcscheme: Could not find BuildAction."))
  | some buildAction => return replaceFirst schemeContent buildAction (newContent ++ buildAction)

def checkScheme (schemeInfo : SchemeInfo) (contents : String) : Except MigrationFailure Unit :=
  match env.parseXml contents with
  | .ok _ => .ok ()
  | .error exception =>
    .error (.exception ("Failed to parse " ++ schemeInfo.schemeName ++ ".xcscheme: Invalid xml: " ++ contents ++ "\n" ++
      exception))

/-! ## The settings -/

def isPbxprojMigrated (contents : String) : Bool := contains contents kFlutterGeneratedPluginSwiftPackageName

def hasFileReference (contents identifier name : String) : Bool :=
  contains contents (identifier ++ " /* " ++ name ++ " */ = \x7bisa = PBXFileReference")

def areOptionalFilesMigrated (contents : String) : Bool :=
  hasFileReference contents flutterPluginsSwiftPackageFileIdentifer kFlutterGeneratedPluginSwiftPackageName &&
    match env.examplePlugin with
    | none => true
    | some examplePlugin =>
      hasFileReference contents flutterPluginLocalOverrideFileIdenitifier examplePlugin.name &&
        hasFileReference contents flutterFrameworkLocalOverrideFileIdentifier
          kFlutterGeneratedFrameworkSwiftPackageTargetName

/-- Throws if an identifier is there, but not in the text that the migration would write. -/
def ensureNotUsed (contents identifier written message : String) : Except MigrationFailure Unit :=
  if !contains contents (identifier ++ written) && contains contents identifier then throw (.exception message)
  else return ()

def ensureNewIdentifiersNotUsed (contents : String) : Except MigrationFailure Unit := do
  ensureNotUsed contents flutterPluginsSwiftPackageBuildFileIdentifier
    (" /* " ++ kFlutterGeneratedPluginSwiftPackageName ++ " in Frameworks */") "Duplicate id found for PBXBuildFile."
  ensureNotUsed contents flutterPluginsSwiftPackageProductDependencyIdentifier
    (" /* " ++ kFlutterGeneratedPluginSwiftPackageName ++ " */")
    "Duplicate id found for XCSwiftPackageProductDependency."
  ensureNotUsed contents localFlutterPluginsSwiftPackageReferenceIdentifier " /* XCLocalSwiftPackageReference"
    "Duplicate id found for XCLocalSwiftPackageReference."

def ensureOptionalIdentifiersNotUsed (contents : String) : Except MigrationFailure Unit := do
  ensureNotUsed contents flutterPluginsSwiftPackageFileIdentifer
    (" /* " ++ kFlutterGeneratedPluginSwiftPackageName ++ " */")
    ("Duplicate id found for " ++ kFlutterGeneratedPluginSwiftPackageName ++ " PBXFileReference.")
  match env.examplePlugin with
  | none => return ()
  | some examplePlugin =>
    ensureNotUsed contents flutterPluginLocalOverrideFileIdenitifier (" /* " ++ examplePlugin.name ++ " */")
      ("Duplicate id found for " ++ examplePlugin.name ++ " PBXFileReference.")
    ensureNotUsed contents flutterFrameworkLocalOverrideFileIdentifier
      (" /* " ++ kFlutterGeneratedFrameworkSwiftPackageTargetName ++ " */")
      ("Duplicate id found for " ++ kFlutterGeneratedFrameworkSwiftPackageTargetName ++ " PBXFileReference.")

/-- `_parsePbxproj`, of these contents. -/
def parsePbxproj (contents : String) : Except MigrationFailure Info :=
  match env.plistJsonContent contents with
  | none => throw (.exception "Failed to parse project settings.")
  | some results => env.decodeProjectInfo results

/-- `_migrateOptionalPbxproj` up to the update. -/
def migrateOptionalPbxproj (contents : String) : Except MigrationFailure String := do
  ensureOptionalIdentifiersNotUsed env contents
  let parsedInfo ← parsePbxproj env contents
  let lines ← env.migrationOptionalFilesAndGroups (splitLines contents) parsedInfo
  return joinLines lines

/-- `_migratePbxproj` up to the update. -/
def migratePbxproj (contents : String) : Except MigrationFailure String := do
  ensureNewIdentifiersNotUsed contents
  ensureOptionalIdentifiersNotUsed env contents
  let parsedInfo ← parsePbxproj env contents
  let lines ← env.migrateBuildFile (splitLines contents) parsedInfo
  let lines ← env.migrateFrameworksBuildPhase lines parsedInfo
  let lines ← env.migrateNativeTarget lines parsedInfo
  let lines ← env.migrateProjectObject lines parsedInfo
  let lines ← env.migrateLocalPackageProductDependencies lines parsedInfo
  let lines ← env.migratePackageProductDependencies lines parsedInfo
  let lines ← env.migrationOptionalFilesAndGroups lines parsedInfo
  return joinLines lines

/-- What the settings are to become; `none` if they are migrated. -/
def newSettings (contents : String) : Except MigrationFailure (Option String) :=
  if !isPbxprojMigrated contents then some <$> migratePbxproj env contents
  else if !areOptionalFilesMigrated env contents then some <$> migrateOptionalPbxproj env contents
  else return none

/-- The checks of the settings that were written: `contents` are the old ones. -/
def validate (contents updated : String) : Except MigrationFailure Unit := do
  let updatedInfo ← parsePbxproj env updated
  let incorrect : MigrationFailure := .exception "Settings were not updated correctly."
  if !isPbxprojMigrated contents then
    if !env.isPbxprojMigratedCorrectly updatedInfo then throw incorrect
  else if !areOptionalFilesMigrated env contents then
    if !env.areOptionalFilesMigratedCorrectly updatedInfo then throw incorrect

/-! ## The migration -/

structure MigrationState where
  files : ProjectFiles
  schemeInfo : Option SchemeInfo
  optionalOnly : Bool

abbrev Migration := EStateM MigrationFailure MigrationState

def ofExcept {α : Type} : Except MigrationFailure α → Migration α
  | .ok a => pure a
  | .error failure => throw failure

def copySync (source target : ProjectFile) : Migration Unit :=
  modify fun s => { s with files := Function.update s.files target (s.files source) }

def writeAsStringSync (file : ProjectFile) (contents : String) : Migration Unit :=
  modify fun s => { s with files := Function.update s.files file (some contents) }

def migrateScheme (schemeInfo : SchemeInfo) : Migration Unit := do
  let targetReference ← ofExcept (findTargetReference env schemeInfo)
  modify fun s => { s with schemeInfo := some { schemeInfo with backupSchemeFile := true } }
  copySync (.scheme schemeInfo.schemeName) (.backupScheme schemeInfo.schemeName)
  let contents ← ofExcept (newScheme env schemeInfo targetReference)
  writeAsStringSync (.scheme schemeInfo.schemeName) contents
  ofExcept (checkScheme env schemeInfo contents)

def updateProjectSettings (newProjectContents originalProjectContents : String) : Migration Unit := do
  if originalProjectContents ≠ newProjectContents then
    copySync .projectInfo .backupProjectSettings
    writeAsStringSync .projectInfo newProjectContents

/-- The contents of `project.pbxproj`, which exists. -/
def readProjectInfo : Migration String := do
  match (← get).files .projectInfo with
  | none => throw (.exception "Xcode project not found.")
  | some contents => return contents

/-- What `migrate` does about the scheme. -/
def updateScheme (schemeInfo : SchemeInfo) : Migration Unit :=
  if isSchemeMigrated schemeInfo.schemeContent then pure () else migrateScheme env schemeInfo

/-- What `migrate` does about the settings. -/
def updateSettings (contents : String) : Migration Unit := do
  match ← ofExcept (newSettings env contents) with
  | some newProjectContents => updateProjectSettings newProjectContents contents
  | none => pure ()

/-- The validation of what was written over `contents`. -/
def checkProject (contents : String) : Migration Unit := do
  let updated ← readProjectInfo
  ofExcept (validate env contents updated)
  ofExcept env.getInfo

/-- What `migrate` tries. -/
def tryMigrate : Migration Unit := do
  let contents ← readProjectInfo
  let schemeInfo ← ofExcept (getSchemeFile env (← get).files)
  let isSchemeMigrated := isSchemeMigrated schemeInfo.schemeContent
  let isPbxprojMigrated := isPbxprojMigrated contents
  let isOptionalFilesMigrated := areOptionalFilesMigrated env contents
  modify fun s => { s with
    schemeInfo := some schemeInfo
    optionalOnly := isPbxprojMigrated && isSchemeMigrated && !isOptionalFilesMigrated }
  if isSchemeMigrated && isPbxprojMigrated && isOptionalFilesMigrated then
    return ()
  else do
    updateScheme env schemeInfo
    updateSettings env contents
    checkProject env contents

def restoreFromBackup (s : MigrationState) : ProjectFiles :=
  let files :=
    if (s.files .backupProjectSettings).isSome then
      Function.update s.files .projectInfo (s.files .backupProjectSettings)
    else s.files
  match s.schemeInfo with
  | some ⟨schemeName, _, true⟩ => Function.update files (.scheme schemeName) (files (.backupScheme schemeName))
  | _ => files

/-- The `finally`. -/
def deleteBackups (schemeInfo : Option SchemeInfo) (files : ProjectFiles) : ProjectFiles :=
  let files := Function.update files .backupProjectSettings none
  match schemeInfo with
  | some ⟨schemeName, _, true⟩ => Function.update files (.backupScheme schemeName) none
  | _ => files

inductive MigrationOutcome where
  | returned
  /-- `throwToolExit`, with the message of the exception in its text. -/
  | toolExit (message : String)
  | error
deriving DecidableEq, Repr

def start (files : ProjectFiles) : MigrationState := ⟨files, none, false⟩

def migrate (files : ProjectFiles) : MigrationOutcome × ProjectFiles :=
  if !env.usesSwiftPackageManager || !env.flutterPluginSwiftPackageManifest then (.returned, files)
  else
    match (tryMigrate env).run (start files) with
    | .ok () s => (.returned, deleteBackups s.schemeInfo s.files)
    | .error (.exception message) s =>
      (if s.optionalOnly then .returned else .toolExit message,
        deleteBackups s.schemeInfo (restoreFromBackup s))
    | .error .error s => (.error, deleteBackups s.schemeInfo s.files)

end SwiftPackageManagerMigration

end FlutterZero.FlutterTools
