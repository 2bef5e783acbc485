import FlutterZero.FlutterTools.DevFS.AssetSync

/-! # The runner of hot reloads

`HotRunner._updateDevFS` (`run_hot.dart`): one round rebuilds the asset bundle if
it has to and then updates the attached devices one after another.  All of them are
given the same bundle, whose entries answer only once that they were modified.

* `HotRunner.updateDevFS` — one round;
* `assets_unchanged_behind_first` — what the devices after the first get;
* `delivers_iff_single` — every change reaches every device exactly if there is
  only one.
-/

namespace FlutterZero.FlutterTools

variable {Path Bytes Transformer : Type}

/-- A `FlutterDevice` with its `DevFS`. -/
structure AttachedDevice (Path Bytes : Type) where
  devFS : DevFS Path
  device : Device Path Bytes

structure HotRunner (Path Bytes Transformer : Type) where
  /-- The files of the host during the last round. -/
  host : Host Path Bytes
  assetBundle : Bundle Path Bytes Transformer
  wasBuiltOnce : Bool
  flutterDevices : List (AttachedDevice Path Bytes)

structure Round (Path Bytes Transformer : Type) where
  host : Host Path Bytes
  /-- The bundle that was built, if it had to be; `none` inside if that failed. -/
  rebuilt : Option (Option (Bundle Path Bytes Transformer))
  /-- The call of `update` for each device. -/
  calls : Nat → UpdateCall Path Bytes

namespace HotRunner

variable [DecidableEq Path] (tools : DevFSTools Path Bytes Transformer)

/-- The loop over the devices, from the one with the given index: the devices, the bundle, and
    whether all updates were successful. -/
def updateDevices (host : Host Path Bytes) (isFirstUpload : Bool) (calls : Nat → UpdateCall Path Bytes) :
    Nat → List (AttachedDevice Path Bytes) → Bundle Path Bytes Transformer →
      List (AttachedDevice Path Bytes) × Bundle Path Bytes Transformer × Bool
  | _, [], bundle => ([], bundle, true)
  | index, device :: devices, bundle =>
    let result := DevFS.update tools host { calls index with bundleFirstUpload := isFirstUpload } device.devFS bundle
      device.device
    let (devices, bundle, success) := updateDevices host isFirstUpload calls (index + 1) devices result.bundle
    (⟨result.devFS, result.device⟩ :: devices, bundle, decide (result.outcome = .report true) && success)

/-- Whether the round was successful; `none` without a device, since the first one is asked for its
    sources. -/
def updateDevFS (runner : HotRunner Path Bytes Transformer) (round : Round Path Bytes Transformer) :
    Option (Bool × HotRunner Path Bytes Transformer) :=
  let isFirstUpload := !runner.wasBuiltOnce
  match round.rebuilt with
  | some none => some (false, { runner with host := round.host })
  | rebuilt =>
    if runner.flutterDevices.isEmpty then none
    else
      let bundle := (rebuilt.bind id).getD runner.assetBundle
      let (devices, bundle, success) :=
        updateDevices tools round.host isFirstUpload round.calls 0 runner.flutterDevices bundle
      some (success, ⟨round.host, bundle, runner.wasBuiltOnce || rebuilt.isSome, devices⟩)

def roundBundle (runner : HotRunner Path Bytes Transformer) (round : Round Path Bytes Transformer) :
    Bundle Path Bytes Transformer := (round.rebuilt.bind id).getD runner.assetBundle

/-- All compilations, asset builds and uploads succeed; between the rounds asset files are edited. -/
structure Proceeds (runner : HotRunner Path Bytes Transformer) (round : Round Path Bytes Transformer) : Prop where
  builds : round.rebuilt ≠ some none
  distinct : ((runner.roundBundle round).map Prod.fst).Nodup
  edits : ∀ entry ∈ runner.assetBundle, entry.2.content.Edited runner.host round.host
  compiles : ∀ index, ∃ output, (round.calls index).compilerOutput = some output ∧ output.errorCount = 0
  buildsAssets : ∀ index path, (round.calls index).buildFails path = false
  writes : ∀ index, (round.calls index).writerThrows = none

/-- Every device holds the current contents of the entries that were modified since the last round. -/
def RoundDelivers (runner : HotRunner Path Bytes Transformer) (round : Round Path Bytes Transformer)
    (runner' : HotRunner Path Bytes Transformer) : Prop :=
  ∀ device ∈ runner'.flutterDevices,
    ∀ entry ∈ DevFS.modifiedEntries tools round.host (runner.roundBundle round), ∀ contents,
      DevFS.upload tools round.host (runner.roundBundle round) entry.1 entry.2 = some contents →
        device.device (.asset entry.1) = some contents

/-- Every successful round but the first upload delivers, as long as the rounds proceed. -/
def Delivers (runner : HotRunner Path Bytes Transformer) : List (Round Path Bytes Transformer) → Prop
  | [] => True
  | round :: rounds =>
    runner.Proceeds round → ∀ success runner', runner.updateDevFS tools round = some (success, runner') →
      (success = true → runner.wasBuiltOnce = true → runner.RoundDelivers tools round runner') ∧
        runner'.Delivers rounds

/-! ## One device -/

variable {tools} {host : Host Path Bytes} {bundle : Bundle Path Bytes Transformer} {isFirstUpload : Bool}
  {calls : Nat → UpdateCall Path Bytes}

variable {runner : HotRunner Path Bytes Transformer}

theorem roundDelivers_of_single {runner' : HotRunner Path Bytes Transformer}
    {round : Round Path Bytes Transformer} (proceeds : runner.Proceeds round) (built : runner.wasBuiltOnce = true)
    {device : AttachedDevice Path Bytes} (single : runner.flutterDevices = [device])
    (updated : runner.updateDevFS tools round = some (true, runner')) : runner.RoundDelivers tools round runner' := by
  have bundle : (round.rebuilt.bind id).getD runner.assetBundle = runner.roundBundle round := rfl
  unfold updateDevFS at updated
  split at updated
  · rename_i failed
    exact absurd failed proceeds.builds
  · simp only [single, built, List.isEmpty_cons, Bool.false_eq_true, if_false, updateDevices, bundle, Bool.and_true,
      Bool.not_true, Option.some.injEq, Prod.mk.injEq, decide_eq_true_eq] at updated
    obtain ⟨success, rfl⟩ := updated
    refine List.forall_mem_singleton.mpr fun entry modified contents sent => ?_
    rcases DevFS.completes_of_success rfl success with none | completes
    · rw [none] at modified
      exact absurd modified List.not_mem_nil
    · rw [← sent]
      exact (DevFS.update_of_completes proceeds.distinct rfl completes).2 entry modified

/-! ## Several devices -/

def SameAssets (before after : AttachedDevice Path Bytes) : Prop :=
  ∀ archivePath, after.device (.asset archivePath) = before.device (.asset archivePath)

theorem updateDevices_sameAssets (current : ∀ entry ∈ bundle, entry.2.content.Current host)
    (quiet : isFirstUpload = true ∨ DevFS.modifiedEntries tools host bundle = []) (index : Nat)
    (devices : List (AttachedDevice Path Bytes)) :
    List.Forall₂ SameAssets devices (updateDevices tools host isFirstUpload calls index devices bundle).1 := by
  induction devices generalizing index bundle with
  | nil => exact .nil
  | cons device devices ih =>
    rw [updateDevices, DevFS.update_bundle]
    refine .cons (fun archivePath => ?_) ?_
    · apply DevFS.update_device_of_not_mem
      rcases quiet with rfl | none
      · exact List.not_mem_nil
      · intro found
        obtain ⟨entry, inside, -⟩ := List.mem_map.mp found
        have modified := DevFS.dirty_subset entry inside
        rw [none] at modified
        exact absurd modified List.not_mem_nil
    · exact ih (DevFS.current_examine current) (quiet.imp_right fun _ => DevFS.modifiedEntries_examine current)
        (index + 1)

theorem assets_unchanged_behind_first (current : ∀ entry ∈ bundle, entry.2.content.Current host) (index : Nat)
    (first : AttachedDevice Path Bytes) (devices : List (AttachedDevice Path Bytes)) :
    List.Forall₂ SameAssets devices
      (updateDevices tools host isFirstUpload calls index (first :: devices) bundle).1.tail := by
  rw [updateDevices, List.tail_cons, DevFS.update_bundle]
  exact updateDevices_sameAssets (DevFS.current_examine current) (.inr (DevFS.modifiedEntries_examine current))
    (index + 1) devices

theorem updateDevices_success (current : ∀ entry ∈ bundle, entry.2.content.Current host)
    (distinct : (bundle.map Prod.fst).Nodup)
    (readable : ∀ entry ∈ bundle, (entry.2.content.contentsAsBytes host).isSome = true)
    (compiles : ∀ index, ∃ output, (calls index).compilerOutput = some output ∧ output.errorCount = 0)
    (builds : ∀ index path, (calls index).buildFails path = false)
    (writes : ∀ index, (calls index).writerThrows = none) (index : Nat) (devices : List (AttachedDevice Path Bytes)) :
    (updateDevices tools host false calls index devices bundle).2.2 = true := by
  induction devices generalizing index bundle with
  | nil => rfl
  | cons device devices ih =>
    have completes : DevFS.Completes tools host { calls index with bundleFirstUpload := false } bundle := by
      refine ⟨compiles index, writes index,
        fun entry modified => ⟨?_, readable entry (List.mem_of_mem_filter modified)⟩⟩
      simp only [builds, Bool.and_false]
    have success : (DevFS.update tools host { calls index with bundleFirstUpload := false } device.devFS bundle
        device.device).outcome = .report true := (DevFS.update_of_completes distinct rfl completes).1
    have keys : (DevFS.examine tools host bundle).map Prod.fst = bundle.map Prod.fst := by
      rw [DevFS.examine, List.map_map]
      rfl
    rw [updateDevices, DevFS.update_bundle]
    simp only [success, decide_true, Bool.true_and]
    apply ih (DevFS.current_examine current) (keys ▸ distinct)
    intro entry inside
    obtain ⟨before, member, rfl⟩ := List.mem_map.mp inside
    simp only [(DevFSContent.Current.asked (current before member) tools.cacheSymlinks).2]
    exact readable before member

/-! ## Any number of devices -/

theorem length_updateDevices (index : Nat) (devices : List (AttachedDevice Path Bytes)) :
    (updateDevices tools host isFirstUpload calls index devices bundle).1.length = devices.length := by
  induction devices generalizing index bundle with
  | nil => rfl
  | cons device devices ih =>
    rw [updateDevices, List.length_cons, ih, List.length_cons]

theorem length_updateDevFS {runner' : HotRunner Path Bytes Transformer} {round : Round Path Bytes Transformer}
    {success : Bool} (updated : runner.updateDevFS tools round = some (success, runner')) :
    runner'.flutterDevices.length = runner.flutterDevices.length := by
  unfold updateDevFS at updated
  split at updated
  · cases updated
    rfl
  · split at updated
    · cases updated
    · cases updated
      exact length_updateDevices 0 runner.flutterDevices

theorem delivers_of_length_le_one
    (few : runner.flutterDevices.length ≤ 1) (rounds : List (Round Path Bytes Transformer)) :
    runner.Delivers tools rounds := by
  induction rounds generalizing runner with
  | nil => trivial
  | cons round rounds ih =>
    intro proceeds success runner' updated
    refine ⟨?_, ih ((length_updateDevFS updated).trans_le few)⟩
    rintro rfl built
    match devices : runner.flutterDevices with
    | [] =>
      have none : runner'.flutterDevices = [] := by
        rw [← List.length_eq_zero_iff, length_updateDevFS updated, devices, List.length_nil]
      intro device inside
      rw [none] at inside
      exact absurd inside List.not_mem_nil
    | [device] => exact roundDelivers_of_single proceeds built devices updated
    | first :: second :: rest => simp [devices] at few

theorem updateDevices_bundle_fixed (fixed : DevFS.examine tools host bundle = bundle) (index : Nat)
    (devices : List (AttachedDevice Path Bytes)) :
    (updateDevices tools host isFirstUpload calls index devices bundle).2.1 = bundle := by
  induction devices generalizing index with
  | nil => rfl
  | cons device devices ih =>
    rw [updateDevices, DevFS.update_bundle, fixed]
    exact ih (index + 1)

section Stale

open Session (singleFileHost plainTools callWithErrors singleAsset)

def askedAsset : Bundle Nat Nat Unit := [(0, ⟨.file ⟨5, false, none, some ⟨.file, 1⟩⟩, .regular, []⟩)]

def uploadRound : Round Nat Nat Unit :=
  ⟨singleFileHost 1 10, some (some singleAsset.bundle), fun _ => callWithErrors 0 2⟩

def editRound : Round Nat Nat Unit := ⟨singleFileHost 3 20, none, fun _ => callWithErrors 0 4⟩

def installedDevice : AttachedDevice Nat Nat := ⟨⟨[], none, none⟩, fun _ => some 10⟩

def newRunner (n : Nat) : HotRunner Nat Nat Unit :=
  ⟨singleFileHost 1 10, [], false, List.replicate n installedDevice⟩

theorem proceeds_uploadRound (n : Nat) : (newRunner n).Proceeds uploadRound where
  builds := by simp [uploadRound]
  distinct := List.nodup_singleton _
  edits := by simp [newRunner]
  compiles _ := ⟨_, rfl, rfl⟩
  buildsAssets _ _ := rfl
  writes _ := rfl

theorem exists_uploadRound (n : Nat) : ∃ devices success,
    (newRunner (n + 1)).updateDevFS plainTools uploadRound =
      some (success, ⟨singleFileHost 1 10, askedAsset, true, devices⟩) ∧
    List.Forall₂ SameAssets (List.replicate (n + 1) installedDevice) devices := by
  have current : ∀ entry ∈ singleAsset.bundle, entry.2.content.Current (singleFileHost 1 10) :=
    fun entry inside => (Session.fresh_singleAsset.fresh entry inside).current
  set result := updateDevices plainTools (singleFileHost 1 10) true uploadRound.calls 0
    (List.replicate (n + 1) installedDevice) singleAsset.bundle with updated
  have same : List.Forall₂ SameAssets (List.replicate (n + 1) installedDevice) result.1 :=
    updateDevices_sameAssets current (.inl rfl) 0 _
  have bundle : result.2.1 = askedAsset := by
    rw [updated, List.replicate_succ, updateDevices, DevFS.update_bundle]
    exact updateDevices_bundle_fixed rfl 1 (List.replicate n installedDevice)
  refine ⟨result.1, result.2.2, ?_, same⟩
  rw [← bundle]
  rfl

theorem not_delivers_replicate (n : Nat) : ¬ (newRunner (n + 2)).Delivers plainTools [uploadRound, editRound] := by
  intro delivers
  obtain ⟨devices, success, uploaded, installed⟩ := exists_uploadRound (n + 1)
  obtain ⟨-, delivers⟩ := delivers (proceeds_uploadRound (n + 2)) _ _ uploaded
  rw [List.replicate_succ, List.replicate_succ] at installed
  obtain ⟨first, others, -, behind, rfl⟩ := List.forall₂_cons_left_iff.mp installed
  obtain ⟨second, rest, kept, -, rfl⟩ := List.forall₂_cons_left_iff.mp behind
  have current : ∀ entry ∈ askedAsset, entry.2.content.Current (singleFileHost 3 20) := by
    refine List.forall_mem_singleton.mpr ⟨rfl, fun old seen => ⟨⟨.file, 3⟩, rfl, ?_⟩⟩
    cases seen
    decide
  have proceeds : HotRunner.Proceeds ⟨singleFileHost 1 10, askedAsset, true, first :: second :: rest⟩ editRound := by
    refine ⟨by simp [editRound], List.nodup_singleton _, List.forall_mem_singleton.mpr (.inr ⟨⟨.file, 3⟩, rfl, ?_⟩),
      fun _ => ⟨_, rfl, rfl⟩, fun _ _ => rfl, fun _ => rfl⟩
    intro old seen
    cases seen
    exact (by decide : 1 < 3)
  obtain ⟨delivered, -⟩ := delivers proceeds _ _ rfl
  have success : (updateDevices plainTools (singleFileHost 3 20) false editRound.calls 0 (first :: second :: rest)
      askedAsset).2.2 = true :=
    updateDevices_success current (List.nodup_singleton _) (List.forall_mem_singleton.mpr rfl)
      (fun _ => ⟨_, rfl, rfl⟩) (fun _ _ => rfl) (fun _ => rfl) 0 _
  have unchanged : List.Forall₂ SameAssets (second :: rest) (updateDevices plainTools (singleFileHost 3 20) false
      editRound.calls 0 (first :: second :: rest) askedAsset).1.tail :=
    assets_unchanged_behind_first current 0 first (second :: rest)
  obtain ⟨second', rest', kept', -, updated⟩ := List.forall₂_cons_left_iff.mp unchanged
  have inside : second' ∈ (updateDevices plainTools (singleFileHost 3 20) false editRound.calls 0
      (first :: second :: rest) askedAsset).1 := by
    apply List.mem_of_mem_tail
    rw [updated]
    exact List.mem_cons_self
  have new := delivered success rfl second' inside _ (List.mem_singleton_self _) 20 rfl
  rw [kept' 0, kept 0] at new
  exact absurd new (by decide)

end Stale

/-- Every change of an asset reaches every device exactly if there is at most one device. -/
theorem delivers_iff_single (n : Nat) :
    (∀ (Path Bytes Transformer : Type) (_ : DecidableEq Path) (tools : DevFSTools Path Bytes Transformer)
      (runner : HotRunner Path Bytes Transformer) (rounds : List (Round Path Bytes Transformer)),
      runner.wasBuiltOnce = false → runner.assetBundle = [] → runner.flutterDevices.length = n →
        runner.Delivers tools rounds) ↔ n ≤ 1 := by
  constructor
  · intro delivers
    by_contra several
    obtain ⟨m, rfl⟩ : ∃ m, n = m + 2 := ⟨n - 2, by omega⟩
    exact not_delivers_replicate m (delivers Nat Nat Unit inferInstance _ (newRunner (m + 2)) _ rfl rfl
      (List.length_replicate))
  · intro few Path Bytes Transformer _ tools runner rounds _ _ counted
    exact delivers_of_length_le_one (counted.trans_le few) rounds

/-- With two devices an edited asset does not reach the second one. -/
theorem not_delivers_two_devices :
    ¬ ∀ (n : Nat) (Path Bytes Transformer : Type) (_ : DecidableEq Path) (tools : DevFSTools Path Bytes Transformer)
      (runner : HotRunner Path Bytes Transformer) (rounds : List (Round Path Bytes Transformer)),
      runner.wasBuiltOnce = false → runner.assetBundle = [] → runner.flutterDevices.length = n →
        runner.Delivers tools rounds := by
  intro always
  exact not_delivers_replicate 0
    (always 2 Nat Nat Unit inferInstance _ (newRunner 2) [uploadRound, editRound] rfl rfl rfl)

end HotRunner

end FlutterZero.FlutterTools
