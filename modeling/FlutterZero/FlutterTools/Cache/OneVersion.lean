import FlutterZero.FlutterTools.Cache

/-! # The version of an artifact that is up to date

The stamp file is left as it is while an update replaces the directories one after another.  As
long as the revision of the engine moves on until an update has written its own stamp, the stamp of
another revision does no harm; but when an update fails half way and the revision is switched back
to that of the stamp, the artifact counts as up to date although some of its directories are of the
other revision.
-/

namespace FlutterZero.FlutterTools

open FlutterZero.Lib

def CacheUpdate.Same (update update' : CacheUpdate) : Prop :=
  update'.archives = update.archives ∧ update'.startedAt = update.startedAt

namespace Cache

variable {Revision : Type} {artifact : EngineCachedArtifact}

/-- An archive was extracted from a revision, and nothing was written from its archive of another revision since. -/
def LastExtractedFrom (extractions : List (Extraction Revision)) (archive : CacheArchive) (revision : Revision) :
    Prop :=
  ∃ before after, extractions = before ++ ⟨archive, revision, true⟩ :: after ∧
    ∀ extraction ∈ after, extraction.archive = archive → extraction.revision = revision

def IsOf (artifact : EngineCachedArtifact) (s : Cache Revision) (revision : Revision) : Prop :=
  ∀ archive ∈ artifact.archives, LastExtractedFrom s.extractions archive revision

def sinceStamp (s : Cache Revision) : List (Extraction Revision) := s.extractions.drop s.stampedAt

/-- The revision of the engine is not switched back to that of the stamp after an archive of another revision was
    extracted. -/
def NotBack (s : Cache Revision) : Op Revision → Prop
  | .switchEngineRevision engineRevision =>
    s.stamp = some engineRevision → ∀ extraction ∈ s.sinceStamp, extraction.revision = engineRevision
  | _ => True

instance [DecidableEq Revision] (s : Cache Revision) (op : Op Revision) : Decidable (s.NotBack op) :=
  match op with
  | .switchEngineRevision engineRevision => inferInstanceAs (Decidable (s.stamp = some engineRevision →
      ∀ extraction ∈ s.sinceStamp, extraction.revision = engineRevision))
  | .beginUpdate => isTrue trivial
  | .download _ => isTrue trivial
  | .deleteDestination _ => isTrue trivial
  | .extract _ _ => isTrue trivial
  | .copyLicense => isTrue trivial
  | .setStamp _ => isTrue trivial
  | .interrupt => isTrue trivial

/-! ## The invariant -/

/-- What an update has done so far: it has written from archives of the current revision only, and completed all
    archives that it has left behind. -/
structure UpdateInv (artifact : EngineCachedArtifact) (s : Cache Revision) (update : CacheUpdate) : Prop where
  started : update.startedAt ≤ s.extractions.length
  current : ∀ extraction ∈ s.extractions.drop update.startedAt, extraction.revision = s.engineRevision
  done : ∀ archive ∈ artifact.archives, archive ∈ update.archives ∨
    ⟨archive, s.engineRevision, true⟩ ∈ s.extractions.drop update.startedAt

structure Inv (artifact : EngineCachedArtifact) (s : Cache Revision) : Prop where
  stampedAt_le : s.stampedAt ≤ s.extractions.length
  stamped : ∀ revision, s.stamp = some revision → ∀ archive ∈ artifact.archives,
    LastExtractedFrom (s.extractions.take s.stampedAt) archive revision
  /-- Nothing of another revision is written while the engine is at the revision of the stamp. -/
  unchanged : s.stamp = some s.engineRevision → ∀ extraction ∈ s.sinceStamp, extraction.revision = s.engineRevision
  updating : ∀ update, s.update = some update → UpdateInv artifact s update

/-! ## Steps -/

inductive Steps (artifact : EngineCachedArtifact) (s : Cache Revision) : Op Revision → Cache Revision → Prop where
  | switchEngineRevision (engineRevision : Revision) (idle : s.update = none) :
    Steps artifact s (.switchEngineRevision engineRevision) { s with engineRevision }
  | beginUpdate (directories : List CachePath) (update : CacheUpdate) (all : update.archives = artifact.archives)
    (started : update.startedAt = s.extractions.length) :
    Steps artifact s .beginUpdate { s with directories, update := some update }
  | goesOn {op : Op Revision} {update : CacheUpdate} (directories licenses : List CachePath)
    (update' : Option CacheUpdate) (running : s.update = some update) (same : ∀ next ∈ update', update.Same next) :
    Steps artifact s op { s with directories, licenses, update := update' }
  | extracts {op : Op Revision} {update : CacheUpdate} {archive : CacheArchive} {archives : List CacheArchive}
    (directories : List CachePath) (next : CacheUpdate) (running : s.update = some update)
    (first : update.archives = archive :: archives) (started : next.startedAt = update.startedAt)
    (rest : next.archives = archives) :
    Steps artifact s op { s with
      directories, extractions := s.extractions ++ [⟨archive, s.engineRevision, true⟩], update := some next }
  | fails {op : Op Revision} {update : CacheUpdate} {archive : CacheArchive} {archives : List CacheArchive}
    (directories : List CachePath) (update' : Option CacheUpdate) (running : s.update = some update)
    (first : update.archives = archive :: archives) (same : ∀ next ∈ update', update.Same next) :
    Steps artifact s op { s with
      directories, extractions := s.extractions ++ [⟨archive, s.engineRevision, false⟩], update := update' }
  | stamps {op : Op Revision} {update : CacheUpdate} (running : s.update = some update) (done : update.archives = []) :
    Steps artifact s op { s with
      stamp := some s.engineRevision, stampedAt := s.extractions.length, update := none }
  | ends {op : Op Revision} (stamp : Option Revision) (kept : stamp = s.stamp ∨ stamp = none) :
    Steps artifact s op { s with stamp, update := none }

variable {update : CacheUpdate}

theorem same_retry {next : CacheUpdate} (retried : next ∈ update.retry) : update.Same next := by
  unfold CacheUpdate.retry at retried
  split at retried <;> cases retried
  exact ⟨rfl, rfl⟩

theorem exists_directories_foldl (s : Cache Revision) (location : CachePath) (written : List CachePath) :
    ∃ directories, written.foldl (fun s directory => s.ensureExists (location ++ directory)) s =
      { s with directories } := by
  induction written generalizing s with
  | nil => exact ⟨s.directories, rfl⟩
  | cons directory written ih =>
    obtain ⟨directories, same⟩ := ih (s.ensureExists (location ++ directory))
    exact ⟨directories, same⟩

variable {s s' : Cache Revision} {completed : Bool}

theorem steps_of_extract {written : List CachePath}
    (extracted : s.extract written completed = .ok s') : Steps artifact s (.extract written completed) s' := by
  unfold Cache.extract at extracted
  split at extracted <;> rename_i update running
  · split at extracted <;> rename_i archive archives first _
    · obtain ⟨directories, same⟩ := exists_directories_foldl s archive.location written
      simp only [same] at extracted
      cases completed with
      | true =>
        cases extracted
        exact .extracts directories _ running first rfl rfl
      | false =>
        cases extracted
        exact .fails directories update.retry running first fun _ retried => same_retry retried
    · cases extracted
  · cases extracted

theorem steps_of_step {op : Op Revision} {out : Unit}
    (stepped : s.step artifact op = .ok (out, s')) : Steps artifact s op s' := by
  cases op with
  | switchEngineRevision engineRevision =>
    obtain ⟨s₁, switched, returned⟩ := bind_eq_ok.mp stepped
    cases returned
    unfold Cache.switchEngineRevision at switched
    split at switched <;> rename_i idle <;> cases switched
    exact .switchEngineRevision engineRevision idle
  | beginUpdate =>
    obtain ⟨s₁, began, returned⟩ := bind_eq_ok.mp stepped
    cases returned
    unfold Cache.beginUpdate at began
    split at began <;> cases began
    exact .beginUpdate _ _ rfl rfl
  | download downloaded =>
    obtain ⟨s₁, done, returned⟩ := bind_eq_ok.mp stepped
    cases returned
    unfold Cache.download at done
    split at done <;> rename_i update running
    · split at done
      · split at done <;> cases done
        · refine .goesOn s.directories s.licenses _ running ?_
          rintro _ ⟨⟩
          exact ⟨rfl, rfl⟩
        · exact .goesOn s.directories s.licenses _ running fun _ retried => same_retry retried
      · cases done
    · cases done
  | deleteDestination remaining =>
    obtain ⟨s₁, deleted, returned⟩ := bind_eq_ok.mp stepped
    cases returned
    unfold Cache.deleteDestination at deleted
    split at deleted <;> rename_i update running
    · split at deleted <;> rename_i archive archives first _ <;> cases deleted
      refine .goesOn _ s.licenses _ running ?_
      rintro _ ⟨⟩
      exact ⟨rfl, rfl⟩
    · cases deleted
  | extract written completed =>
    obtain ⟨s₁, extracted, returned⟩ := bind_eq_ok.mp stepped
    cases returned
    exact steps_of_extract extracted
  | copyLicense =>
    obtain ⟨s₁, copied, returned⟩ := bind_eq_ok.mp stepped
    cases returned
    unfold Cache.copyLicense at copied
    split at copied <;> rename_i update running
    · split at copied
      · split at copied <;> cases copied
        refine .goesOn s.directories _ _ running ?_
        rintro _ ⟨⟩
        exact ⟨rfl, rfl⟩
      · cases copied
    · cases copied
  | setStamp outcome =>
    obtain ⟨s₁, ended, returned⟩ := bind_eq_ok.mp stepped
    cases returned
    unfold Cache.setStamp at ended
    split at ended <;> rename_i update running
    · split at ended
      · rename_i done
        split at ended <;> cases ended
        · exact .stamps running done.1
        · exact .ends s.stamp (.inl rfl)
        · exact .ends none (.inr rfl)
      · cases ended
    · cases ended
  | interrupt =>
    cases stepped
    exact .ends s.stamp (.inl rfl)

/-! ## Step lemmas -/

section Lists

variable {extractions : List (Extraction Revision)} {archive : CacheArchive} {revision : Revision}

theorem LastExtractedFrom.append (last : LastExtractedFrom extractions archive revision)
    {later : List (Extraction Revision)}
    (same : ∀ extraction ∈ later, extraction.archive = archive → extraction.revision = revision) :
    LastExtractedFrom (extractions ++ later) archive revision := by
  obtain ⟨before, after, rfl, only⟩ := last
  refine ⟨before, after ++ later, by simp, ?_⟩
  intro extraction member
  rcases List.mem_append.mp member with member | member
  · exact only extraction member
  · exact same extraction member

theorem lastExtractedFrom_of_mem_drop {n : Nat} (member : ⟨archive, revision, true⟩ ∈ extractions.drop n)
    (current : ∀ extraction ∈ extractions.drop n, extraction.revision = revision) :
    LastExtractedFrom extractions archive revision := by
  obtain ⟨before, after, split⟩ := List.append_of_mem member
  refine ⟨extractions.take n ++ before, after, ?_, ?_⟩
  · rw [List.append_assoc, ← split, List.take_append_drop]
  · intro extraction later _
    exact current extraction (by rw [split]; simp [later])

end Lists

theorem UpdateInv.same {update' : CacheUpdate} (inv : UpdateInv artifact s update)
    (same : update.Same update') (extractions : s'.extractions = s.extractions)
    (engineRevision : s'.engineRevision = s.engineRevision) : UpdateInv artifact s' update' where
  started := by
    rw [same.2, extractions]
    exact inv.started
  current := by
    rw [same.2, extractions, engineRevision]
    exact inv.current
  done := by
    rw [same.1, same.2, extractions, engineRevision]
    exact inv.done

theorem UpdateInv.extract {update' : CacheUpdate} (inv : UpdateInv artifact s update) {archive : CacheArchive}
    (extractions : s'.extractions = s.extractions ++ [⟨archive, s.engineRevision, completed⟩])
    (engineRevision : s'.engineRevision = s.engineRevision) (started : update'.startedAt = update.startedAt)
    (rest : ∀ archive' ∈ update.archives, archive' ∈ update'.archives ∨ archive' = archive ∧ completed = true) :
    UpdateInv artifact s' update' := by
  have grown : s'.extractions.drop update'.startedAt =
      s.extractions.drop update.startedAt ++ [⟨archive, s.engineRevision, completed⟩] := by
    rw [extractions, started, List.drop_append_of_le_length inv.started]
  exact {
    started := by
      rw [started, extractions, List.length_append]
      exact Nat.le_add_right_of_le inv.started
    current := by
      intro extraction member
      rw [engineRevision]
      rw [grown] at member
      rcases List.mem_append.mp member with before | now
      · exact inv.current extraction before
      · rw [List.mem_singleton.mp now]
    done := by
      intro archive' known
      rw [grown, engineRevision]
      rcases inv.done archive' known with todo | done
      · rcases rest archive' todo with still | ⟨rfl, rfl⟩
        · exact .inl still
        · exact .inr (by simp)
      · exact .inr (List.mem_append_left _ done) }

namespace Inv

variable {s : Cache Revision}

theorem empty (engineRevision : Revision) : Inv artifact (Cache.empty engineRevision) where
  stampedAt_le := Nat.le_refl 0
  stamped := by simp [Cache.empty]
  unchanged := by simp [Cache.empty]
  updating := by simp [Cache.empty]

theorem extract (inv : Inv artifact s) {archive : CacheArchive} {completed : Bool} (directories : List CachePath)
    (update' : Option CacheUpdate)
    (updating : ∀ next ∈ update', UpdateInv artifact { s with
      directories, extractions := s.extractions ++ [⟨archive, s.engineRevision, completed⟩], update := update' } next) :
    Inv artifact { s with
      directories, extractions := s.extractions ++ [⟨archive, s.engineRevision, completed⟩], update := update' } where
  stampedAt_le := by
    rw [List.length_append]
    exact Nat.le_add_right_of_le inv.stampedAt_le
  stamped := by
    intro revision stamp archive' known
    rw [List.take_append_of_le_length inv.stampedAt_le]
    exact inv.stamped revision stamp archive' known
  unchanged := by
    intro stamp extraction member
    rw [sinceStamp, List.drop_append_of_le_length inv.stampedAt_le] at member
    rcases List.mem_append.mp member with before | now
    · exact inv.unchanged stamp extraction before
    · rw [List.mem_singleton.mp now]
  updating := updating

theorem stamp (inv : Inv artifact s) {update : CacheUpdate} (running : s.update = some update)
    (done : update.archives = []) :
    Inv artifact { s with stamp := some s.engineRevision, stampedAt := s.extractions.length, update := none } where
  stampedAt_le := Nat.le_refl _
  stamped := by
    rintro _ ⟨⟩ archive known
    have updating := inv.updating update running
    rw [List.take_length]
    rcases updating.done archive known with todo | done'
    · rw [done] at todo
      cases todo
    · exact lastExtractedFrom_of_mem_drop done' updating.current
  unchanged := by
    intro _ extraction member
    rw [sinceStamp, List.drop_length] at member
    cases member
  updating := fun _ running => nomatch running

theorem step {s' : Cache Revision} {op : Op Revision} (inv : Inv artifact s) (notBack : s.NotBack op)
    (steps : Steps artifact s op s') : Inv artifact s' := by
  cases steps with
  | switchEngineRevision engineRevision idle =>
    exact {
      stampedAt_le := inv.stampedAt_le
      stamped := inv.stamped
      unchanged := notBack
      updating := by
        intro update running
        rw [show s.update = some update from running] at idle
        cases idle }
  | beginUpdate directories update all started =>
    exact {
      stampedAt_le := inv.stampedAt_le
      stamped := inv.stamped
      unchanged := inv.unchanged
      updating := by
        rintro _ ⟨⟩
        exact {
          started := Nat.le_of_eq started
          current := by simp [started]
          done := fun archive known => .inl (all ▸ known) } }
  | goesOn directories licenses update' running same =>
    exact {
      stampedAt_le := inv.stampedAt_le
      stamped := inv.stamped
      unchanged := inv.unchanged
      updating := fun next running' => (inv.updating _ running).same (same next running') rfl rfl }
  | extracts directories next running first started rest =>
    refine inv.extract directories (some next) ?_
    rintro _ ⟨⟩
    refine (inv.updating _ running).extract rfl rfl started ?_
    intro archive' todo
    rw [first] at todo
    rcases List.mem_cons.mp todo with now | later
    · exact .inr ⟨now, rfl⟩
    · exact .inl (rest ▸ later)
  | fails directories update' running first same =>
    refine inv.extract directories update' ?_
    intro next running'
    obtain ⟨archives, started⟩ := same next running'
    exact (inv.updating _ running).extract rfl rfl started fun _ todo => .inl (archives ▸ todo)
  | stamps running done => exact inv.stamp running done
  | ends stamp kept =>
    exact {
      stampedAt_le := inv.stampedAt_le
      stamped := by
        intro revision stamped
        rcases kept with rfl | rfl
        · exact inv.stamped revision stamped
        · cases stamped
      unchanged := by
        intro stamped
        rcases kept with rfl | rfl
        · exact inv.unchanged stamped
        · cases stamped
      updating := fun _ running => nomatch running }

end Inv

/-! ## Runs -/

section Runs

variable [DecidableEq Revision]

theorem stamp_of_isUpToDate {s : Cache Revision} (upToDate : s.isUpToDate artifact = true) :
    s.stamp = some s.engineRevision := by
  unfold isUpToDate at upToDate
  split at upToDate
  · cases upToDate
  · split at upToDate <;> rename_i same
    · cases upToDate
    · exact (not_not.mp same).symm

/-- In every run from an empty cache in which the revision of the engine is not switched back to that of the stamp
    after an archive of another revision was extracted, an artifact that counts as up to date is of the revision of
    the engine. -/
theorem isOf_of_runs {engineRevision : Revision} {log : List (Op Revision × Unit)} {s : Cache Revision}
    (runs : Runs (step artifact) NotBack (empty engineRevision) log s) (upToDate : s.isUpToDate artifact = true) :
    s.IsOf artifact s.engineRevision := by
  have inv : Inv artifact s :=
    runs.preserves (P := Inv artifact) (Inv.empty engineRevision)
      fun _ _ _ _ inv notBack stepped => inv.step notBack (steps_of_step stepped)
  have stamp := stamp_of_isUpToDate upToDate
  intro archive known
  have last := (inv.stamped s.engineRevision stamp archive known).append
    fun extraction member _ => inv.unchanged stamp extraction member
  rwa [sinceStamp, List.take_append_drop] at last

end Runs

theorem LastExtractedFrom.of_append_singleton {extractions : List (Extraction Revision)} {archive : CacheArchive}
    {revision revision' : Revision}
    (last : LastExtractedFrom (extractions ++ [⟨archive, revision', completed⟩]) archive revision) :
    revision' = revision := by
  obtain ⟨before, after, split, only⟩ := last
  rcases List.eq_nil_or_concat after with rfl | ⟨after, extraction, rfl⟩
  · have same := (List.append_inj' split rfl).2
    simp only [List.cons.injEq, Extraction.mk.injEq] at same
    exact same.1.2.1
  · rw [List.concat_eq_append, ← List.cons_append, ← List.append_assoc] at split
    have same := (List.append_inj' split rfl).2
    rw [List.cons.injEq] at same
    exact only ⟨archive, revision', completed⟩ (by simp [same.1]) rfl

def skyEngineAndTester : EngineCachedArtifact where
  getPackageDirs := ["sky_engine"]
  getBinaryDirs := [(["linux-x64"], ["linux-x64", "artifacts.zip"])]
  getLicenseDirs := []

def updatesPackage : List (Op Nat) :=
  [.beginUpdate, .download true, .deleteDestination [], .extract [["sky_engine"]] true]

def updatesBinaries : List (Op Nat) :=
  [.download true, .deleteDestination [], .extract [] false, .download true, .deleteDestination [],
    .extract [] true, .setStamp .written]

theorem isOf_of_runs_interrupted : ∃ log s, Runs (step skyEngineAndTester) NotBack (empty 1) log s ∧
    s.isUpToDate skyEngineAndTester = true ∧ s.IsOf skyEngineAndTester s.engineRevision := by
  have ran : ∃ log s, run (guarded (step skyEngineAndTester) .notEnabled fun s op => decide (s.NotBack op)) (empty 1)
      (updatesPackage ++ updatesBinaries ++ .switchEngineRevision 2 :: updatesPackage ++ .interrupt ::
        .switchEngineRevision 3 :: updatesPackage ++ updatesBinaries) = .ok (log, s) ∧
      s.isUpToDate skyEngineAndTester = true :=
    ⟨_, _, rfl, rfl⟩
  obtain ⟨log, s, ran, upToDate⟩ := ran
  have runs : Runs (step skyEngineAndTester) NotBack (empty 1) log s :=
    runs_of_run_guarded (fun _ _ met => of_decide_eq_true met) ran
  exact ⟨log, s, runs, upToDate, isOf_of_runs runs upToDate⟩

/-- The update to revision 2 fails after the package, and the engine goes back to revision 1. -/
theorem not_isOf_after_switch_back : ¬ ∀ (artifact : EngineCachedArtifact) (engineRevision : Nat) log s,
    Runs (step artifact) (fun _ _ => True) (empty engineRevision) log s → s.isUpToDate artifact = true →
      s.IsOf artifact s.engineRevision := by
  intro always
  have ran : ∃ log s, run (step skyEngineAndTester) (empty 1)
      (updatesPackage ++ updatesBinaries ++ .switchEngineRevision 2 :: updatesPackage ++
        [.download false, .download false, .switchEngineRevision 1]) = .ok (log, s) ∧
      s.isUpToDate skyEngineAndTester = true ∧ s.engineRevision = 1 ∧
      ∃ before, s.extractions = before ++ [⟨⟨["sky_engine.zip"], ["pkg"]⟩, 2, true⟩] :=
    ⟨_, _, rfl, rfl, rfl, [⟨⟨["sky_engine.zip"], ["pkg"]⟩, 1, true⟩,
      ⟨⟨["linux-x64", "artifacts.zip"], ["artifacts", "engine", "linux-x64"]⟩, 1, false⟩,
      ⟨⟨["linux-x64", "artifacts.zip"], ["artifacts", "engine", "linux-x64"]⟩, 1, true⟩], rfl⟩
  obtain ⟨log, s, ran, upToDate, engineRevision, before, extractions⟩ := ran
  have one := always _ 1 log s (runs_of_run (fun _ _ _ => trivial) ran) upToDate
  have last := one ⟨["sky_engine.zip"], ["pkg"]⟩ (by decide)
  rw [extractions] at last
  have same := last.of_append_singleton
  rw [engineRevision] at same
  cases same

end Cache

end FlutterZero.FlutterTools
