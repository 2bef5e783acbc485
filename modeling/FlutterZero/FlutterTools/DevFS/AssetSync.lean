import FlutterZero.FlutterTools.DevFS

/-! # Which assets reach the device

A series of updates with one bundle, and edits of the asset files between them.

* `Synced` — an entry that would not answer that it was modified is on the
  device; edits keep it, because they change the answer;
* `DevFS.update_device` — what an update writes to the device;
* `delivers_of_noLoss` — after every successful update the assets are on the
  device, unless an update that ended early had found a modified entry.
-/

namespace FlutterZero.FlutterTools

variable {Path Bytes Transformer : Type}

/-! ## Asking a content -/

namespace DevFSFileContent

variable {host : Host Path Bytes} {content : DevFSFileContent Path}

theorem stat_eq (cacheSymlinks : Bool) (uncached : content.linkTarget = none) :
    content.stat cacheSymlinks host = { content with fileStat := found (host.statSync content.file) } := by
  have follows : ((found (host.statSync content.file)).any fun stat => decide (stat.type = .link)) = false := by
    unfold found
    split
    · rfl
    · simpa using host.statSync_follows content.file
  obtain ⟨file, isLink, linkTarget, fileStat⟩ := content
  cases uncached
  simp only [stat, statFile, follows, Bool.false_eq_true, if_false]

theorem isModified_eq_false_iff (cacheSymlinks : Bool) (uncached : content.linkTarget = none) :
    (content.isModified cacheSymlinks host).1 = false ↔
      (content.fileStat = none ∧ found (host.statSync content.file) = none) ∨
        ∃ old new, content.fileStat = some old ∧ found (host.statSync content.file) = some new ∧
          new.modified ≤ old.modified := by
  simp only [isModified, stat_eq cacheSymlinks uncached]
  cases content.fileStat with
  | none => cases found (host.statSync content.file) <;> simp
  | some old => cases found (host.statSync content.file) <;> simp

theorem isModified_snd (cacheSymlinks : Bool) (uncached : content.linkTarget = none) :
    (content.isModified cacheSymlinks host).2 =
      { content with fileStat := found (host.statSync content.file) } := by
  simp only [isModified, stat_eq cacheSymlinks uncached]
  split <;> rfl

theorem read_eq_none (uncached : content.linkTarget = none) (missing : found (host.statSync content.file) = none) :
    host.read (content.getFile host) = none := by
  have notFound : (host.statSync content.file).type = .notFound := by
    unfold found at missing
    split at missing
    · assumption
    · cases missing
  obtain ⟨unread, unread'⟩ := host.read_notFound content.file notFound
  rw [getFile, uncached]
  simp only
  split
  · exact unread'
  · exact unread

end DevFSFileContent

namespace DevFSContent

open DevFSFileContent (found)

def Current (host : Host Path Bytes) : DevFSContent Path Bytes → Prop
  | .file content => content.linkTarget = none ∧ ∀ old, content.fileStat = some old →
      ∃ now, found (host.statSync content.file) = some now ∧ old.modified ≤ now.modified
  | .bytes _ _ => True

def Edited (host host' : Host Path Bytes) : DevFSContent Path Bytes → Prop
  | .file content =>
    (found (host'.statSync content.file) = found (host.statSync content.file) ∧
        host'.read (content.getFile host') = host.read (content.getFile host)) ∨
      ∃ new, found (host'.statSync content.file) = some new ∧
        ∀ old, found (host.statSync content.file) = some old → old.modified < new.modified
  | .bytes _ _ => True

def Fresh : DevFSContent Path Bytes → Prop
  | .file content => content.linkTarget = none ∧ content.fileStat = none
  | .bytes _ isModified => isModified = true

variable {host host' : Host Path Bytes} {content : DevFSContent Path Bytes}

theorem Current.edited (current : content.Current host) (edited : content.Edited host host') :
    content.Current host' := by
  cases content with
  | bytes contents isModified => trivial
  | file content =>
    refine ⟨current.1, fun old remembered => ?_⟩
    obtain ⟨now, present, older⟩ := current.2 old remembered
    rcases edited with ⟨same, -⟩ | ⟨new, present', later⟩
    · exact ⟨now, same.trans present, older⟩
    · exact ⟨new, present', older.trans (later now present).le⟩

theorem Current.unchanged (current : content.Current host) (edited : content.Edited host host') (cacheSymlinks : Bool)
    (unmodified : (content.isModified cacheSymlinks host').1 = false) :
    ((content.isModified cacheSymlinks host).1 = false ∧ content.contentsAsBytes host' = content.contentsAsBytes host) ∨
      content.contentsAsBytes host' = none := by
  cases content with
  | bytes contents isModified => exact .inl ⟨unmodified, rfl⟩
  | file content =>
    rcases (content.isModified_eq_false_iff cacheSymlinks current.1).mp unmodified with
      ⟨-, missing⟩ | ⟨old, new, remembered, present, older⟩
    · exact .inr (content.read_eq_none current.1 missing)
    · obtain ⟨now, present', older'⟩ := current.2 old remembered
      rcases edited with ⟨same, unread⟩ | ⟨edit, present'', later⟩
      · refine .inl ⟨(content.isModified_eq_false_iff cacheSymlinks current.1).mpr (.inr ?_), unread⟩
        exact ⟨old, new, remembered, same ▸ present, older⟩
      · have newer := later now present'
        rw [present] at present''
        cases present''
        omega

theorem Current.asked (current : content.Current host) (cacheSymlinks : Bool) :
    (content.isModified cacheSymlinks host).2.Current host ∧
      (content.isModified cacheSymlinks host).2.contentsAsBytes host = content.contentsAsBytes host := by
  cases content with
  | bytes contents isModified => exact ⟨trivial, rfl⟩
  | file content =>
    have remembered : (content.isModified cacheSymlinks host).2 =
        { content with fileStat := found (host.statSync content.file) } :=
      content.isModified_snd cacheSymlinks current.1
    simp only [DevFSContent.isModified, remembered]
    refine ⟨⟨current.1, fun old seen => ⟨old, seen, le_rfl⟩⟩, ?_⟩
    rfl

theorem Current.asked_again (current : content.Current host) (cacheSymlinks : Bool) :
    ((content.isModified cacheSymlinks host).2.isModified cacheSymlinks host).1 = false := by
  cases content with
  | bytes contents isModified => rfl
  | file content =>
    have remembered : (content.isModified cacheSymlinks host).2 =
        { content with fileStat := found (host.statSync content.file) } :=
      content.isModified_snd cacheSymlinks current.1
    simp only [DevFSContent.isModified, remembered]
    refine (DevFSFileContent.isModified_eq_false_iff cacheSymlinks ?_).mpr ?_
    · exact current.1
    cases seen : found (host.statSync content.file) with
    | none => exact .inl ⟨rfl, rfl⟩
    | some stat => exact .inr ⟨stat, stat, rfl, rfl, le_rfl⟩

theorem Fresh.current (fresh : content.Fresh) : content.Current host := by
  cases content with
  | bytes contents isModified => trivial
  | file content =>
    refine ⟨fresh.1, fun old remembered => ?_⟩
    rw [fresh.2] at remembered
    cases remembered

theorem Fresh.contentsAsBytes_eq_none (fresh : content.Fresh) (cacheSymlinks : Bool)
    (unmodified : (content.isModified cacheSymlinks host).1 = false) : content.contentsAsBytes host = none := by
  cases content with
  | bytes contents isModified =>
    rw [DevFSContent.isModified, fresh] at unmodified
    cases unmodified
  | file content =>
    rcases (content.isModified_eq_false_iff cacheSymlinks fresh.1).mp unmodified with ⟨-, missing⟩ | ⟨old, _, seen, _⟩
    · exact content.read_eq_none fresh.1 missing
    · rw [fresh.2] at seen
      cases seen

end DevFSContent

/-! ## One update -/

namespace DevFS

variable {uri : DeviceUri Path}

theorem mem_readable {entries : List (DeviceUri Path × Option Bytes)} {contents : Bytes} :
    (uri, contents) ∈ readable entries ↔ (uri, some contents) ∈ entries := by
  rw [readable, List.mem_filterMap]
  constructor
  · rintro ⟨⟨uri', contents'⟩, inside, read⟩
    obtain ⟨contents'', rfl, same⟩ := Option.map_eq_some_iff.mp read
    cases same
    exact inside
  · intro inside
    exact ⟨_, inside, rfl⟩

variable {tools : DevFSTools Path Bytes Transformer} {host : Host Path Bytes} {bundle : Bundle Path Bytes Transformer}

theorem dirty_subset {call : UpdateCall Path Bytes} :
    ∀ entry ∈ dirty tools host call bundle, entry ∈ modifiedEntries tools host bundle := by
  intro entry inside
  unfold dirty at inside
  split at inside
  · exact absurd inside List.not_mem_nil
  · exact inside

theorem modifiedEntries_examine (current : ∀ entry ∈ bundle, entry.2.content.Current host) :
    modifiedEntries tools host (examine tools host bundle) = [] := by
  rw [modifiedEntries, List.filter_eq_nil_iff]
  intro entry inside
  obtain ⟨before, member, rfl⟩ := List.mem_map.mp inside
  have denied := DevFSContent.Current.asked_again (current before member) tools.cacheSymlinks
  simpa using denied

theorem current_examine (current : ∀ entry ∈ bundle, entry.2.content.Current host) :
    ∀ entry ∈ examine tools host bundle, entry.2.content.Current host := by
  intro entry inside
  obtain ⟨before, member, rfl⟩ := List.mem_map.mp inside
  exact (DevFSContent.Current.asked (current before member) tools.cacheSymlinks).1

theorem nodup_readable {entries : List (DeviceUri Path × Option Bytes)} (distinct : (entries.map Prod.fst).Nodup) :
    ((readable entries).map Prod.fst).Nodup := by
  rw [List.nodup_iff_pairwise_ne, List.pairwise_map, readable, List.pairwise_filterMap]
  rw [List.nodup_iff_pairwise_ne, List.pairwise_map] at distinct
  apply distinct.imp
  intro first second different file read file' read'
  obtain ⟨contents, -, rfl⟩ := Option.map_eq_some_iff.mp read
  obtain ⟨contents', -, rfl⟩ := Option.map_eq_some_iff.mp read'
  exact different

variable [DecidableEq Path]

theorem writeAll_of_not_mem {device : Device Path Bytes} {entries : List (DeviceUri Path × Bytes)}
    (absent : uri ∉ entries.map Prod.fst) : writeAll device entries uri = device uri := by
  induction entries generalizing device with
  | nil => rfl
  | cons entry entries ih =>
    rw [List.map_cons, List.mem_cons, not_or] at absent
    rw [writeAll, List.foldl_cons]
    exact (ih absent.2).trans (Function.update_of_ne absent.1 _ _)

theorem writeAll_of_mem {device : Device Path Bytes} {entries : List (DeviceUri Path × Bytes)}
    (distinct : (entries.map Prod.fst).Nodup) {contents : Bytes}
    (inside : (uri, contents) ∈ entries) : writeAll device entries uri = some contents := by
  induction entries generalizing device with
  | nil => exact absurd inside List.not_mem_nil
  | cons entry entries ih =>
    rw [List.map_cons, List.nodup_cons] at distinct
    rw [writeAll, List.foldl_cons]
    rcases List.mem_cons.mp inside with rfl | inside
    · exact (writeAll_of_not_mem distinct.1).trans (Function.update_self _ _ _)
    · exact ih distinct.2 inside

variable (tools : DevFSTools Path Bytes Transformer) (host : Host Path Bytes)

theorem lookup_examine (bundle : Bundle Path Bytes Transformer) (path : Path) :
    ((examine tools host bundle).lookup path).map AssetBundleEntry.kind =
      (bundle.lookup path).map AssetBundleEntry.kind := by
  induction bundle with
  | nil => rfl
  | cons first bundle ih =>
    obtain ⟨other, entry⟩ := first
    simp only [examine, List.map_cons, List.lookup_cons] at ih ⊢
    split
    · rfl
    · exact ih

theorem kindOf_examine (bundle : Bundle Path Bytes Transformer) :
    kindOf tools (examine tools host bundle) = kindOf tools bundle :=
  funext fun _ => lookup_examine tools host bundle _

def Completes (call : UpdateCall Path Bytes) (bundle : Bundle Path Bytes Transformer) : Prop :=
  (∃ output, call.compilerOutput = some output ∧ output.errorCount = 0) ∧ call.writerThrows = none ∧
    ∀ entry ∈ modifiedEntries tools host bundle,
      (needsBuild (kindOf tools bundle entry.1) entry.2.transformers && call.buildFails entry.1) = false ∧
        (entry.2.content.contentsAsBytes host).isSome = true

variable {tools host} {call : UpdateCall Path Bytes} {devFS : DevFS Path} {bundle : Bundle Path Bytes Transformer}
  {device : Device Path Bytes}

theorem update_bundle : (update tools host call devFS bundle device).bundle = examine tools host bundle := by
  unfold update
  cases call.compilerOutput with
  | none => rfl
  | some output =>
    simp only
    repeat' split
    all_goals rfl

theorem mem_dirtyEntries_asset {output : CompilerOutput Path Bytes} {archivePath : Path} {contents : Option Bytes} :
    (.asset archivePath, contents) ∈ dirtyEntries tools host call bundle output ↔
      ∃ entry, (archivePath, entry) ∈ dirty tools host call bundle ∧
        upload tools host bundle archivePath entry = contents := by
  have noKernel : (DeviceUri.asset archivePath, contents) ∉
      if call.bundleFirstUpload then []
      else (output.compiledBinary.map fun binary => (DeviceUri.kernel call.pathToReload, some binary)).toList := by
    split
    · exact List.not_mem_nil
    · cases output.compiledBinary <;> simp
  rw [dirtyEntries, List.mem_append, or_iff_left noKernel, List.mem_map]
  constructor
  · rintro ⟨⟨archivePath', entry⟩, inside, same⟩
    cases same
    exact ⟨entry, inside, rfl⟩
  · rintro ⟨entry, inside, rfl⟩
    exact ⟨(archivePath, entry), inside, rfl⟩

theorem nodup_dirtyEntries (distinct : (bundle.map Prod.fst).Nodup) (output : CompilerOutput Path Bytes) :
    ((dirtyEntries tools host call bundle output).map Prod.fst).Nodup := by
  have dirtyDistinct : ((dirty tools host call bundle).map Prod.fst).Nodup := by
    unfold dirty
    split
    · exact List.nodup_nil
    · exact (List.filter_sublist.map Prod.fst).nodup distinct
  have assets : ((dirty tools host call bundle).map (DeviceUri.asset ∘ Prod.fst)).Nodup := by
    rw [← List.map_map]
    exact dirtyDistinct.map fun _ _ same => DeviceUri.asset.inj same
  rw [dirtyEntries, List.map_append, List.map_map, List.nodup_append]
  refine ⟨assets, ?_, ?_⟩
  · split
    · exact List.nodup_nil
    · cases output.compiledBinary <;> simp
  · intro uri inside uri' kernel same
    obtain ⟨entry, -, rfl⟩ := List.mem_map.mp inside
    subst same
    split at kernel
    · exact absurd kernel List.not_mem_nil
    · cases binary : output.compiledBinary <;> simp [binary] at kernel

theorem update_device_of_not_mem {archivePath : Path}
    (clean : archivePath ∉ (dirty tools host call bundle).map Prod.fst) :
    (update tools host call devFS bundle device).device (.asset archivePath) = device (.asset archivePath) := by
  have unwritten : ∀ (output : CompilerOutput Path Bytes) (written : List (DeviceUri Path × Bytes)),
      (∀ file ∈ written, file ∈ readable (dirtyEntries tools host call bundle output)) →
        writeAll device written (.asset archivePath) = device (.asset archivePath) := by
    intro output written part
    apply writeAll_of_not_mem
    intro inside
    obtain ⟨⟨uri, contents⟩, inside, same⟩ := List.mem_map.mp inside
    cases same
    obtain ⟨entry, inside, -⟩ := mem_dirtyEntries_asset.mp (mem_readable.mp (part _ inside))
    exact clean (List.mem_map.mpr ⟨_, inside, rfl⟩)
  unfold update
  cases call.compilerOutput with
  | none => rfl
  | some output =>
    simp only
    split
    · rfl
    · split
      · rfl
      · split
        · rfl
        · split
          · exact unwritten output _ fun file inside => inside
          · exact unwritten output _ fun file inside => List.mem_of_mem_filter inside

theorem any_buildFails_dirty (dirty_eq : dirty tools host call bundle = modifiedEntries tools host bundle)
    (completes : Completes tools host call bundle) :
    ((dirty tools host call bundle).any fun (archivePath, entry) =>
      needsBuild (kindOf tools bundle archivePath) entry.transformers && call.buildFails archivePath) = false := by
  rw [dirty_eq, List.any_eq_false]
  rintro ⟨archivePath, entry⟩ inside
  simpa using (completes.2.2 _ inside).1

theorem all_isSome_dirtyEntries (dirty_eq : dirty tools host call bundle = modifiedEntries tools host bundle)
    (later : call.bundleFirstUpload = false) (completes : Completes tools host call bundle)
    (output : CompilerOutput Path Bytes) :
    ((dirtyEntries tools host call bundle output).all fun (_, contents) => contents.isSome) = true := by
  rw [List.all_eq_true]
  rintro ⟨uri, contents⟩ inside
  rw [dirtyEntries, dirty_eq, later, List.mem_append] at inside
  rcases inside with inside | kernel
  · obtain ⟨entry, modified, same⟩ := List.mem_map.mp inside
    cases same
    simpa [upload] using (completes.2.2 _ modified).2
  · cases binary : output.compiledBinary <;> simp [binary] at kernel
    simp [kernel.2]

theorem update_of_completes (distinct : (bundle.map Prod.fst).Nodup) (later : call.bundleFirstUpload = false)
    (completes : Completes tools host call bundle) :
    (update tools host call devFS bundle device).outcome = .report true ∧
      ∀ entry ∈ modifiedEntries tools host bundle,
        (update tools host call devFS bundle device).device (.asset entry.1) =
          upload tools host bundle entry.1 entry.2 := by
  obtain ⟨output, compiled, errors⟩ := completes.1
  have writes := completes.2.1
  have dirty_eq : dirty tools host call bundle = modifiedEntries tools host bundle := by
    rw [dirty, later]
    rfl
  have noneFails := any_buildFails_dirty dirty_eq completes
  have allRead := all_isSome_dirtyEntries dirty_eq later completes output
  have uploaded : ∀ entry ∈ modifiedEntries tools host bundle,
      writeAll device (readable (dirtyEntries tools host call bundle output)) (.asset entry.1) =
        upload tools host bundle entry.1 entry.2 := by
    rintro ⟨archivePath, entry⟩ modified
    obtain ⟨contents, read⟩ := Option.isSome_iff_exists.mp (completes.2.2 _ modified).2
    have sent : upload tools host bundle archivePath entry =
        some (buildAsset tools (kindOf tools bundle archivePath) archivePath entry.transformers contents) := by
      rw [upload, read]
      rfl
    rw [sent]
    apply writeAll_of_mem
    · exact (nodup_readable (nodup_dirtyEntries distinct output))
    · exact mem_readable.mpr (mem_dirtyEntries_asset.mpr ⟨entry, dirty_eq ▸ modified, sent⟩)
  simp only [update, compiled, errors, Nat.lt_irrefl, gt_iff_lt, if_false, noneFails, Bool.false_eq_true]
  split
  · -- nothing to write
    rename_i empty
    refine ⟨rfl, fun entry modified => ?_⟩
    rw [List.isEmpty_iff] at empty
    have written := uploaded entry modified
    rw [empty] at written
    exact written
  · rw [writes, allRead]
    exact ⟨rfl, uploaded⟩

theorem completes_of_success (later : call.bundleFirstUpload = false)
    (success : (update tools host call devFS bundle device).outcome = .report true) :
    modifiedEntries tools host bundle = [] ∨ Completes tools host call bundle := by
  have dirty_eq : dirty tools host call bundle = modifiedEntries tools host bundle := by
    rw [dirty, later]
    rfl
  unfold update at success
  cases compiled : call.compilerOutput with
  | none => simp [compiled] at success
  | some output =>
    simp only [compiled] at success
    split at success
    · cases success
    · rename_i errors
      split at success
      · cases success
      · rename_i built
        rw [dirty_eq, Bool.not_eq_true, List.any_eq_false] at built
        split at success
        · rename_i empty
          rw [List.isEmpty_iff, dirtyEntries, List.append_eq_nil_iff, dirty_eq, List.map_eq_nil_iff] at empty
          exact .inl empty.1
        · split at success
          · rename_i written
            rw [Bool.and_eq_true, Option.isNone_iff_eq_none, List.all_eq_true] at written
            refine .inr ⟨⟨output, compiled, by omega⟩, written.1, fun entry modified => ⟨?_, ?_⟩⟩
            · simpa using built entry modified
            · have sent := written.2 _ (mem_dirtyEntries_asset.mpr ⟨entry.2, dirty_eq.symm ▸ modified, rfl⟩)
              simpa [upload] using sent
          · cases success

end DevFS

/-! ## Series of updates -/

section Series

variable [DecidableEq Path] (tools : DevFSTools Path Bytes Transformer)

/-- Between two calls of `update`. -/
structure Session (Path Bytes Transformer : Type) where
  host : Host Path Bytes
  devFS : DevFS Path
  bundle : Bundle Path Bytes Transformer
  device : Device Path Bytes

abbrev HostCall (Path Bytes : Type) := Host Path Bytes × UpdateCall Path Bytes

namespace Session

def update (session : Session Path Bytes Transformer) (call : HostCall Path Bytes) : Session Path Bytes Transformer :=
  let result := DevFS.update tools call.1 call.2 session.devFS session.bundle session.device
  ⟨call.1, result.devFS, result.bundle, result.device⟩

def outcome (session : Session Path Bytes Transformer) (call : HostCall Path Bytes) : DevFS.UpdateOutcome :=
  (DevFS.update tools call.1 call.2 session.devFS session.bundle session.device).outcome

/-- Every entry whose file can be read is on the device as it is on the host. -/
def OnDevice (host : Host Path Bytes) (bundle : Bundle Path Bytes Transformer) (device : Device Path Bytes) : Prop :=
  ∀ entry ∈ bundle, ∀ contents, DevFS.upload tools host bundle entry.1 entry.2 = some contents →
    device (.asset entry.1) = some contents

def EditsOnly (session : Session Path Bytes Transformer) : List (HostCall Path Bytes) → Prop
  | [] => True
  | call :: calls =>
    ((∀ entry ∈ session.bundle, entry.2.content.Edited session.host call.1) ∧ call.2.bundleFirstUpload = false) ∧
      EditsOnly (session.update tools call) calls

/-- A call finds no modified entry unless it completes. -/
def NoLoss (session : Session Path Bytes Transformer) : List (HostCall Path Bytes) → Prop
  | [] => True
  | call :: calls =>
    (DevFS.modifiedEntries tools call.1 session.bundle = [] ∨
        DevFS.Completes tools call.1 call.2 session.bundle) ∧ NoLoss (session.update tools call) calls

/-- After every call that reports success, the assets are on the device. -/
def Delivers (session : Session Path Bytes Transformer) : List (HostCall Path Bytes) → Prop
  | [] => True
  | call :: calls =>
    (session.outcome tools call = .report true →
        OnDevice tools call.1 session.bundle (session.update tools call).device) ∧
      Delivers (session.update tools call) calls

structure Fresh (session : Session Path Bytes Transformer) : Prop where
  distinct : (session.bundle.map Prod.fst).Nodup
  fresh : ∀ entry ∈ session.bundle, entry.2.content.Fresh

structure Synced (host : Host Path Bytes) (bundle : Bundle Path Bytes Transformer) (device : Device Path Bytes) :
    Prop where
  distinct : (bundle.map Prod.fst).Nodup
  current : ∀ entry ∈ bundle, entry.2.content.Current host
  onDevice : ∀ entry ∈ bundle, (entry.2.content.isModified tools.cacheSymlinks host).1 = false →
    ∀ contents, DevFS.upload tools host bundle entry.1 entry.2 = some contents →
      device (.asset entry.1) = some contents

variable {tools} {session : Session Path Bytes Transformer} {host host' : Host Path Bytes}
  {bundle : Bundle Path Bytes Transformer} {device : Device Path Bytes}

theorem Fresh.synced (fresh : session.Fresh) : Synced tools session.host session.bundle session.device where
  distinct := fresh.distinct
  current entry inside := (fresh.fresh entry inside).current
  onDevice entry inside unmodified contents sent := by
    rw [DevFS.upload, (fresh.fresh entry inside).contentsAsBytes_eq_none tools.cacheSymlinks unmodified] at sent
    cases sent

theorem Synced.edited (synced : Synced tools host bundle device)
    (edited : ∀ entry ∈ bundle, entry.2.content.Edited host host') : Synced tools host' bundle device where
  distinct := synced.distinct
  current entry inside := (synced.current entry inside).edited (edited entry inside)
  onDevice entry inside unmodified contents sent := by
    rcases (synced.current entry inside).unchanged (edited entry inside) tools.cacheSymlinks unmodified with
      ⟨unmodified', same⟩ | missing
    · apply synced.onDevice entry inside unmodified'
      rwa [DevFS.upload, ← same]
    · rw [DevFS.upload, missing] at sent
      cases sent

theorem Synced.onDevice_update (synced : Synced tools host bundle device) {call : UpdateCall Path Bytes}
    (later : call.bundleFirstUpload = false)
    (kept : DevFS.modifiedEntries tools host bundle = [] ∨ DevFS.Completes tools host call bundle)
    (devFS : DevFS Path) :
    OnDevice tools host bundle (DevFS.update tools host call devFS bundle device).device := by
  intro entry inside contents sent
  by_cases modified : (entry.2.content.isModified tools.cacheSymlinks host).1 = true
  · have found : entry ∈ DevFS.modifiedEntries tools host bundle := List.mem_filter.mpr ⟨inside, modified⟩
    rcases kept with none | completes
    · rw [none] at found
      exact absurd found List.not_mem_nil
    · rw [(DevFS.update_of_completes synced.distinct later completes).2 entry found, sent]
  · have clean : entry.1 ∉ (DevFS.dirty tools host call bundle).map Prod.fst := by
      intro found
      obtain ⟨other, found, same⟩ := List.mem_map.mp found
      obtain ⟨inside', modified'⟩ := List.mem_filter.mp (DevFS.dirty_subset other found)
      rw [List.inj_on_of_nodup_map synced.distinct inside' inside same] at modified'
      exact modified modified'
    rw [DevFS.update_device_of_not_mem clean]
    exact synced.onDevice entry inside (by simpa using modified) contents sent

theorem OnDevice.synced_examine (onDevice : OnDevice tools host bundle device)
    (distinct : (bundle.map Prod.fst).Nodup) (current : ∀ entry ∈ bundle, entry.2.content.Current host) :
    Synced tools host (DevFS.examine tools host bundle) device := by
  have asked : ∀ entry ∈ DevFS.examine tools host bundle, ∃ before ∈ bundle,
      before.1 = entry.1 ∧ before.2.transformers = entry.2.transformers ∧
        (before.2.content.isModified tools.cacheSymlinks host).2 = entry.2.content := by
    intro entry inside
    obtain ⟨before, member, rfl⟩ := List.mem_map.mp inside
    exact ⟨before, member, rfl, rfl, rfl⟩
  constructor
  · have keys : (DevFS.examine tools host bundle).map Prod.fst = bundle.map Prod.fst := by
      rw [DevFS.examine, List.map_map]
      rfl
    rwa [keys]
  · exact DevFS.current_examine current
  · intro entry inside _ contents sent
    obtain ⟨before, inside, path, transformers, same⟩ := asked entry inside
    rw [← path]
    apply onDevice before inside
    rw [DevFS.upload, DevFS.kindOf_examine, ← same, ((current before inside).asked tools.cacheSymlinks).2,
      ← path, ← transformers] at sent
    exact sent

variable (tools) in
/-- No asset update is lost in a series of updates of which none that ends early finds a modified
    entry. -/
theorem delivers_of_noLoss {calls : List (HostCall Path Bytes)} (fresh : session.Fresh)
    (edits : session.EditsOnly tools calls) (noLoss : session.NoLoss tools calls) : session.Delivers tools calls := by
  have synced : Synced tools session.host session.bundle session.device := fresh.synced
  clear fresh
  induction calls generalizing session with
  | nil => trivial
  | cons call calls ih =>
    obtain ⟨⟨edited, later⟩, edits⟩ := edits
    obtain ⟨kept, noLoss⟩ := noLoss
    have synced := synced.edited edited
    have onDevice := synced.onDevice_update later kept session.devFS
    refine ⟨fun _ => onDevice, ih edits noLoss ?_⟩
    have examined : (session.update tools call).bundle = DevFS.examine tools call.1 session.bundle :=
      DevFS.update_bundle
    rw [examined]
    exact onDevice.synced_examine synced.distinct synced.current

def singleFileHost (modified contents : Nat) : Host Nat Nat where
  statSync _ := ⟨.file, modified⟩
  statSync_follows := by simp
  resolveSymbolicLinksSync path := path
  read _ := some contents
  read_notFound := by simp

def plainTools : DevFSTools Nat Nat Unit where
  cacheSymlinks := false
  uriPath path := path
  retransformAsset _ _ contents := contents
  recompileShader contents := contents

/-- A call whose compiler reports `errorCount` errors. -/
def callWithErrors (errorCount candidateCompileTime : Nat) : UpdateCall Nat Nat where
  bundleFirstUpload := false
  pathToReload := 100
  candidateCompileTime := candidateCompileTime
  compilerOutput := some ⟨errorCount, some 7, [1]⟩
  buildFails _ := false
  writerThrows := none

def singleAsset : Session Nat Nat Unit where
  host := singleFileHost 1 10
  devFS := ⟨[], none, none⟩
  bundle := [(0, ⟨.file (.create 5 false), .regular, []⟩)]
  device _ := none

theorem fresh_singleAsset : singleAsset.Fresh :=
  ⟨List.nodup_singleton _, List.forall_mem_singleton.mpr ⟨rfl, rfl⟩⟩

/-- The asset is edited between two updates. -/
theorem delivers_editedAsset :
    singleAsset.Delivers plainTools
      [(singleFileHost 1 10, callWithErrors 0 2), (singleFileHost 3 20, callWithErrors 0 4)] := by
  apply delivers_of_noLoss plainTools fresh_singleAsset
  · refine ⟨⟨List.forall_mem_singleton.mpr (.inl ⟨rfl, rfl⟩), rfl⟩,
      ⟨List.forall_mem_singleton.mpr (.inr ?_), rfl⟩, trivial⟩
    refine ⟨⟨.file, 3⟩, rfl, fun old seen => ?_⟩
    cases seen
    decide
  · exact ⟨.inr ⟨⟨_, rfl, rfl⟩, rfl, List.forall_mem_singleton.mpr ⟨rfl, rfl⟩⟩,
      .inr ⟨⟨_, rfl, rfl⟩, rfl, List.forall_mem_singleton.mpr ⟨rfl, rfl⟩⟩, trivial⟩

/-- An edit is lost if the update that finds it ends with a compile error. -/
theorem not_delivers_after_error :
    ¬ ∀ (tools : DevFSTools Nat Nat Unit) (session : Session Nat Nat Unit) (calls : List (HostCall Nat Nat)),
      session.Fresh → session.EditsOnly tools calls → session.Delivers tools calls := by
  intro always
  have edits : singleAsset.EditsOnly plainTools [(singleFileHost 1 10, callWithErrors 0 2),
      (singleFileHost 3 20, callWithErrors 1 4), (singleFileHost 3 20, callWithErrors 0 5)] := by
    refine ⟨⟨List.forall_mem_singleton.mpr (.inl ⟨rfl, rfl⟩), rfl⟩,
      ⟨List.forall_mem_singleton.mpr (.inr ⟨⟨.file, 3⟩, rfl, fun old seen => ?_⟩), rfl⟩,
      ⟨List.forall_mem_singleton.mpr (.inl ⟨rfl, rfl⟩), rfl⟩, trivial⟩
    cases seen
    decide
  obtain ⟨-, -, delivered, -⟩ := always plainTools singleAsset _ fresh_singleAsset edits
  have onDevice := delivered rfl _ (List.mem_singleton_self _) 20 rfl
  exact absurd onDevice (by decide)

end Session

end Series

end FlutterZero.FlutterTools
