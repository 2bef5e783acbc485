import FlutterZero.FlutterTools.BuildSystem.Soundness

/-! # The inputs and the outputs of a whole build

Every target that finishes hands its resolved files to `updateGraph`, which collects the
inputs and the outputs of the build.  A file that one target writes and another one reads
is an output only: inputs are compared with the outputs that were collected so far.

* `Graph.mem_inputFiles` — what is collected, if writers come before readers;
* `GraphSession.GraphInv` — in every order that the scheduler allows, they do;
* `GraphSession.keys_of_orders` — two orders in which the targets hand over the same files
  collect the same;
* `GraphSession.not_anyOrder` — in another order a target may hand over other files.
-/

namespace FlutterZero.FlutterTools.BuildSystem

variable {Content Digest : Type} {absolute : String → String} {path : String}

/-! ## `updateGraph` -/

/-- The resolved files of a target when `updateGraph` is called for it. -/
structure Update where
  name : String
  inputs : List String
  outputs : List String
deriving DecidableEq, Repr

/-- The keys of `inputFiles` and of `outputFiles`. -/
structure Graph where
  inputFiles : List String
  outputFiles : List String
deriving DecidableEq, Repr

namespace Graph

/-- First the outputs, so that no output of the target itself becomes an input. -/
def updateGraph (absolute : String → String) (graph : Graph) (update : Update) : Graph where
  outputFiles := graph.outputFiles ++ update.outputs
  inputFiles := graph.inputFiles ++
    (update.inputs.map absolute).filter fun path => !(graph.outputFiles ++ update.outputs).contains path

def ofUpdates (absolute : String → String) (updates : List Update) : Graph :=
  updates.foldl (updateGraph absolute) ⟨[], []⟩

/-- `removeWhere`, on both maps. -/
def removeWhere (graph : Graph) (test : String → Bool) : Graph where
  inputFiles := graph.inputFiles.filter fun path => !test path
  outputFiles := graph.outputFiles.filter fun path => !test path

variable {updates updates' : List Update} {update : Update}

@[simp] theorem ofUpdates_concat : ofUpdates absolute (updates ++ [update]) =
    (ofUpdates absolute updates).updateGraph absolute update := by
  simp [ofUpdates]

theorem mem_outputFiles :
    path ∈ (ofUpdates absolute updates).outputFiles ↔ ∃ update ∈ updates, path ∈ update.outputs := by
  induction updates using List.reverseRecOn with
  | nil => simp [ofUpdates]
  | append_singleton updates update ih =>
    simp only [ofUpdates_concat, updateGraph, List.mem_append, ih, List.mem_singleton]
    constructor
    · rintro (⟨earlier, inside, isOutput⟩ | isOutput)
      · exact ⟨earlier, .inl inside, isOutput⟩
      · exact ⟨update, .inr rfl, isOutput⟩
    · rintro ⟨some, inside | rfl, isOutput⟩
      · exact .inl ⟨some, inside, isOutput⟩
      · exact .inr isOutput

def WritersFirst (absolute : String → String) (updates : List Update) : Prop :=
  updates.Pairwise fun reader writer => ∀ path ∈ reader.inputs, absolute path ∉ writer.outputs

theorem mem_inputFiles (first : WritersFirst absolute updates) :
    path ∈ (ofUpdates absolute updates).inputFiles ↔
      (∃ update ∈ updates, path ∈ update.inputs.map absolute) ∧ ∀ update ∈ updates, path ∉ update.outputs := by
  induction updates using List.reverseRecOn with
  | nil => simp [ofUpdates]
  | append_singleton updates update ih =>
    obtain ⟨before, -, last⟩ := List.pairwise_append.mp first
    simp only [ofUpdates_concat, updateGraph, List.mem_append, ih before, List.mem_filter, Bool.not_eq_true',
      ← Bool.not_eq_true, List.contains_iff_mem, List.mem_singleton, mem_outputFiles]
    constructor
    · rintro (⟨⟨reader, inside, isInput⟩, notOutput⟩ | ⟨isInput, notOutput⟩)
      · refine ⟨⟨reader, .inl inside, isInput⟩, ?_⟩
        rintro writer (earlier | rfl)
        · exact notOutput writer earlier
        · -- the last target writes nothing that was read before
          obtain ⟨file, isFile, rfl⟩ := List.mem_map.mp isInput
          exact last reader inside writer (by simp) file isFile
      · refine ⟨⟨update, .inr rfl, isInput⟩, ?_⟩
        rintro writer (earlier | rfl) isOutput
        · exact notOutput (.inl ⟨writer, earlier, isOutput⟩)
        · exact notOutput (.inr isOutput)
    · rintro ⟨⟨reader, inside | rfl, isInput⟩, notOutput⟩
      · exact .inl ⟨⟨reader, inside, isInput⟩, fun writer earlier => notOutput writer (.inl earlier)⟩
      · refine .inr ⟨isInput, ?_⟩
        rintro (⟨writer, earlier, isOutput⟩ | isOutput)
        · exact notOutput writer (.inl earlier) isOutput
        · exact notOutput reader (.inr rfl) isOutput

def Disjoint (graph : Graph) : Prop := ∀ path ∈ graph.inputFiles, path ∉ graph.outputFiles

structure SameKeys (graph graph' : Graph) : Prop where
  inputFiles : ∀ path, path ∈ graph.inputFiles ↔ path ∈ graph'.inputFiles
  outputFiles : ∀ path, path ∈ graph.outputFiles ↔ path ∈ graph'.outputFiles

theorem disjoint_ofUpdates (first : WritersFirst absolute updates) : (ofUpdates absolute updates).Disjoint := by
  intro path isInput isOutput
  obtain ⟨update, inside, isOutput⟩ := mem_outputFiles.mp isOutput
  exact ((mem_inputFiles first).mp isInput).2 update inside isOutput

theorem sameKeys_ofUpdates (first : WritersFirst absolute updates) (first' : WritersFirst absolute updates')
    (inputs : ∀ path, (∃ update ∈ updates, path ∈ update.inputs) ↔ ∃ update ∈ updates', path ∈ update.inputs)
    (outputs : ∀ path, (∃ update ∈ updates, path ∈ update.outputs) ↔ ∃ update ∈ updates', path ∈ update.outputs) :
    (ofUpdates absolute updates).SameKeys (ofUpdates absolute updates') := by
  have absoluteInputs : ∀ updates : List Update, ∀ path, (∃ update ∈ updates, path ∈ update.inputs.map absolute) ↔
      ∃ file, (∃ update ∈ updates, file ∈ update.inputs) ∧ absolute file = path := by
    intro updates path
    simp only [List.mem_map]
    constructor
    · rintro ⟨update, inside, file, isInput, same⟩
      exact ⟨file, ⟨update, inside, isInput⟩, same⟩
    · rintro ⟨file, ⟨update, inside, isInput⟩, same⟩
      exact ⟨update, inside, file, isInput, same⟩
  have notOutput : ∀ path, (∀ update ∈ updates, path ∉ update.outputs) ↔
      ∀ update ∈ updates', path ∉ update.outputs := by
    intro path
    simpa using not_congr (outputs path)
  refine ⟨fun path => ?_, fun path => ?_⟩
  · simp only [mem_inputFiles first, mem_inputFiles first', absoluteInputs, inputs, notOutput]
  · rw [mem_outputFiles, mem_outputFiles, outputs]

theorem Disjoint.removeWhere {graph : Graph} (disjoint : graph.Disjoint) (test : String → Bool) :
    (graph.removeWhere test).Disjoint := by
  intro path isInput isOutput
  exact disjoint path (List.mem_filter.mp isInput).1 (List.mem_filter.mp isOutput).1

theorem SameKeys.removeWhere {graph graph' : Graph} (same : graph.SameKeys graph') (test : String → Bool) :
    (graph.removeWhere test).SameKeys (graph'.removeWhere test) := by
  constructor
  · intro path
    simp only [Graph.removeWhere, List.mem_filter, same.inputFiles]
  · intro path
    simp only [Graph.removeWhere, List.mem_filter, same.outputFiles]

end Graph

/-! ## The calls in a build -/

namespace Session

variable [DecidableEq Digest]

/-- The call of `updateGraph` that a step makes. -/
def updateOf (digest : Content → Digest) (s : Session Content Digest) (event : Event Content) : Option Update :=
  match s.build, event with
  | some build, .examine name =>
    let node := build.nodes name
    if !node.missingDepfile && (node.computeChanges digest s.files build.fileCache).1 then
      some ⟨name, node.inputs, node.outputs⟩
    else none
  -- the files of a target that is skipped at runtime are cleared
  | some _, .decide name true .completed => some ⟨name, [], []⟩
  | some build, .finish name .completed =>
    some ⟨name, build.environment.resolveInputs name s.files, build.environment.resolveOutputs name s.files⟩
  | _, _ => none

inductive Turn (digest : Content → Digest) (s : Session Content Digest) (event : Event Content)
    (build build' : Build Content Digest) : Prop where
  | goesOn (noUpdate : updateOf digest s event = none) (root : build'.root = build.root)
      (outputFiles : build'.outputFiles = build.outputFiles)
      (scheduler : build'.scheduler = build.scheduler ∨ ∃ internal : Scheduler.Event,
        build.scheduler.advance build.root build.environment.resourcePoolSize internal = some build'.scheduler ∧
          ∀ name, internal ≠ .finish name .succeeded)
  | finishes (update : Update) (updates : updateOf digest s event = some update) (root : build'.root = build.root)
      (outputFiles : build'.outputFiles = build.outputFiles ++ update.outputs) (before : Scheduler)
      (acquired : before = build.scheduler ∨
        build.scheduler.acquire build.environment.resourcePoolSize update.name = some before)
      (finished : before.finish update.name .succeeded = some build'.scheduler)

variable {digest : Content → Digest} {s s' : Session Content Digest} {build build' : Build Content Digest}
  {event : Event Content} {result : Option BuildResult} {name : String}

theorem turn_of_examine (building : s.build = some build) (stepped : examine digest s build name = some s')
    (building' : s'.build = some build') : Turn digest s (.examine name) build build' := by
  obtain ⟨acquired, resource, stepped⟩ := Option.bind_eq_some_iff.mp stepped
  have acquires : build.scheduler.advance build.root build.environment.resourcePoolSize (.acquire name) =
      some acquired := resource
  cases depfile : (build.nodes name).missingDepfile with
  | true =>
    simp only [depfile, if_true, Bool.false_eq_true, if_false, Option.some.injEq] at stepped
    subst stepped
    obtain rfl := Option.some.inj building'
    exact .goesOn (by simp [updateOf, building, depfile]) rfl rfl (.inr ⟨_, acquires, nofun⟩)
  | false =>
    cases clean : ((build.nodes name).computeChanges digest s.files build.fileCache).1 with
    | true =>
      simp only [depfile, Bool.false_eq_true, if_false, clean, if_true] at stepped
      obtain ⟨scheduler, finished, rfl⟩ := Option.map_eq_some_iff.mp stepped
      obtain rfl := Option.some.inj building'
      exact .finishes ⟨name, (build.nodes name).inputs, (build.nodes name).outputs⟩
        (by simp [updateOf, building, depfile, clean]) rfl rfl acquired (.inr resource) finished
    | false =>
      simp only [depfile, Bool.false_eq_true, if_false, clean, Option.some.injEq] at stepped
      subst stepped
      obtain rfl := Option.some.inj building'
      exact .goesOn (by simp [updateOf, building, depfile, clean]) rfl rfl (.inr ⟨_, acquires, nofun⟩)

theorem turn_of_advance (building : s.build = some build) (stepped : s.advance digest event = some (result, s'))
    (building' : s'.build = some build') : Turn digest s event build build' := by
  by_cases examines : ∃ name, event = .examine name
  · obtain ⟨name, rfl⟩ := examines
    simp only [advance, building, advanceBuild] at stepped
    obtain ⟨next, examined, same⟩ := Option.map_eq_some_iff.mp stepped
    cases same
    exact turn_of_examine building examined building'
  cases steps_of_advance stepped with
  | edit idle | start idle => simp [building] at idle
  | skip | examine => exact absurd ⟨_, rfl⟩ examines
  | resume own resumed =>
    obtain rfl := Option.some.inj (building.symm.trans own)
    obtain rfl := Option.some.inj building'
    exact .goesOn (by simp [updateOf]) rfl rfl (.inr ⟨.resume _, resumed, by simp⟩)
  | deliver own delivered =>
    obtain rfl := Option.some.inj (building.symm.trans own)
    obtain rfl := Option.some.inj building'
    exact .goesOn (by simp [updateOf]) rfl rfl (.inr ⟨.deliver _, delivered, by simp⟩)
  | @notNeeded _ name _ own deciding finished =>
    obtain rfl := Option.some.inj (building.symm.trans own)
    obtain rfl := Option.some.inj building'
    exact .finishes ⟨name, [], []⟩ (by simp [updateOf, building]) rfl rfl build.scheduler (.inl rfl) finished
  | act own deciding =>
    obtain rfl := Option.some.inj (building.symm.trans own)
    obtain rfl := Option.some.inj building'
    exact .goesOn (by simp [updateOf]) rfl rfl (.inl rfl)
  | @failDeciding _ name canSkip ending _ own deciding notCompleted finished =>
    obtain rfl := Option.some.inj (building.symm.trans own)
    obtain rfl := Option.some.inj building'
    refine .goesOn ?_ rfl rfl (.inr ⟨.finish name _, finished, ?_⟩)
    · cases ending <;> simp [updateOf] at notCompleted ⊢
    · cases ending <;> simp
  | write own acting =>
    obtain rfl := Option.some.inj (building.symm.trans own)
    obtain rfl := Option.some.inj building'
    exact .goesOn (by simp [updateOf]) rfl rfl (.inl rfl)
  | @complete _ name _ _ own acting finished =>
    obtain rfl := Option.some.inj (building.symm.trans own)
    obtain rfl := Option.some.inj building'
    exact .finishes ⟨name, build.environment.resolveInputs name s.files, build.environment.resolveOutputs name s.files⟩
      (by simp [updateOf, building]) rfl rfl build.scheduler (.inl rfl) finished
  | @exception _ name _ _ own acting finished | @error _ name _ _ own acting finished =>
    obtain rfl := Option.some.inj (building.symm.trans own)
    obtain rfl := Option.some.inj building'
    exact .goesOn (by simp [updateOf]) rfl rfl (.inr ⟨.finish name _, finished, by simp⟩)
  | stop own isDone =>
    simp only [Session.stop] at building'
    split at building' <;> cases building'

end Session

/-! ## Writers come first -/

def Target.DependsOn (root : Target) (reader writer : String) : Prop :=
  ∃ target, root.Reaches target ∧ target.name = reader ∧
    ∃ dependency ∈ target.dependencies, ∃ other, dependency.Reaches other ∧ other.name = writer

namespace Scheduler

variable {s s' : Scheduler} {root : Target} {poolSize : Nat} {event : Event}

theorem succeeded_of_advance (stepped : s.advance root poolSize event = some s')
    (other : ∀ name, event ≠ .finish name .succeeded) (name : String) :
    s'.pending name = some (.finished .succeeded) ↔ s.pending name = some (.finished .succeeded) := by
  cases event with
  | resume position =>
    obtain same | ⟨fresh, requested⟩ := pending_of_resume stepped name
    · rw [same]
    · simp [fresh, requested]
  | deliver position => rw [pending_of_deliver stepped]
  | acquire started =>
    obtain ⟨requested, -, rfl⟩ := acquire_eq_some stepped
    by_cases same : name = started
    · simp [same, requested]
    · simp [same]
  | finish finished outcome =>
    obtain ⟨running, rfl⟩ := finish_eq_some stepped
    by_cases same : name = finished
    · have failed : outcome ≠ .succeeded := by
        rintro rfl
        exact other finished rfl
      simp [same, running, failed]
    · simp [same]

end Scheduler

/-- A session, with the calls of `updateGraph` in its build. -/
structure GraphSession (Content Digest : Type) where
  session : Session Content Digest
  updates : List Update

namespace GraphSession

variable [DecidableEq Digest]

def create (files : Files Content) : GraphSession Content Digest := ⟨.create files, []⟩

def updatesAfter (digest : Content → Digest) (s : GraphSession Content Digest) (event : Event Content) : List Update :=
  match event with
  | .start _ _ => []
  | event => s.updates ++ (s.session.updateOf digest event).toList

def step (digest : Content → Digest) (s : GraphSession Content Digest) (event : Event Content) :
    Except Unit (Option BuildResult × GraphSession Content Digest) :=
  match s.session.advance digest event with
  | some (result, session) => .ok (result, ⟨session, s.updatesAfter digest event⟩)
  | none => .error ()

omit [DecidableEq Digest] in
def graph (absolute : String → String) (s : GraphSession Content Digest) (build : Build Content Digest) : Graph :=
  (Graph.ofUpdates absolute s.updates).removeWhere build.environment.isUnconditionalFile

def NamesDistinct (_ : GraphSession Content Digest) : Event Content → Prop
  | .start root _ => root.DistinctNames
  | _ => True

structure GraphInv (s : GraphSession Content Digest) (build : Build Content Digest) : Prop where
  names : build.root.DistinctNames
  scheduler : Scheduler.Inv build.root build.scheduler
  succeeded : ∀ name, (∃ update ∈ s.updates, update.name = name) ↔
    build.scheduler.pending name = some (.finished .succeeded)
  once : s.updates.Pairwise fun earlier later => earlier.name ≠ later.name
  order : s.updates.Pairwise fun earlier later => ¬ build.root.DependsOn earlier.name later.name
  outputFiles : ∀ absolute, (Graph.ofUpdates absolute s.updates).outputFiles = build.outputFiles

variable {digest : Content → Digest} {s s' : GraphSession Content Digest} {build build' : Build Content Digest}
  {event : Event Content} {result : Option BuildResult}

omit [DecidableEq Digest] in
theorem GraphInv.goesOn (inv : GraphInv s build) (updates : s'.updates = s.updates) (root : build'.root = build.root)
    (outputFiles : build'.outputFiles = build.outputFiles)
    (scheduler : build'.scheduler = build.scheduler ∨ ∃ internal : Scheduler.Event,
      build.scheduler.advance build.root build.environment.resourcePoolSize internal = some build'.scheduler ∧
        ∀ name, internal ≠ .finish name .succeeded) : GraphInv s' build' := by
  have scheduled : Scheduler.Inv build.root build'.scheduler ∧ ∀ name,
      build'.scheduler.pending name = some (.finished .succeeded) ↔
        build.scheduler.pending name = some (.finished .succeeded) := by
    obtain same | ⟨internal, advanced, other⟩ := scheduler
    · simp [same, inv.scheduler]
    · exact ⟨inv.scheduler.step inv.names advanced, Scheduler.succeeded_of_advance advanced other⟩
  obtain ⟨kept, succeeded⟩ := scheduled
  exact {
    names := by rw [root]; exact inv.names
    scheduler := by rw [root]; exact kept
    succeeded := fun name => by rw [updates, succeeded]; exact inv.succeeded name
    once := by rw [updates]; exact inv.once
    order := by rw [updates, root]; exact inv.order
    outputFiles := fun absolute => by rw [updates, outputFiles]; exact inv.outputFiles absolute }

omit [DecidableEq Digest] in
theorem GraphInv.finishes (inv : GraphInv s build) {update : Update} (updates : s'.updates = s.updates ++ [update])
    (root : build'.root = build.root) (outputFiles : build'.outputFiles = build.outputFiles ++ update.outputs)
    {before : Scheduler} (acquired : before = build.scheduler ∨
      build.scheduler.acquire build.environment.resourcePoolSize update.name = some before)
    (finished : before.finish update.name .succeeded = some build'.scheduler) : GraphInv s' build' := by
  obtain ⟨running, scheduled⟩ := Scheduler.finish_eq_some finished
  have start : Scheduler.Inv build.root before ∧ (∀ name, before.pending name = some (.finished .succeeded) ↔
      build.scheduler.pending name = some (.finished .succeeded)) := by
    obtain rfl | resource := acquired
    · exact ⟨inv.scheduler, fun name => Iff.rfl⟩
    · have advanced : build.scheduler.advance build.root build.environment.resourcePoolSize (.acquire update.name) =
          some before := resource
      exact ⟨inv.scheduler.acquire resource, Scheduler.succeeded_of_advance advanced nofun⟩
  obtain ⟨invBefore, same⟩ := start
  have notBefore : ∀ earlier ∈ s.updates, earlier.name ≠ update.name := by
    intro earlier inside isUpdate
    have done := (same _).mpr ((inv.succeeded update.name).mp ⟨earlier, inside, isUpdate⟩)
    simp [running] at done
  refine {
    names := by rw [root]; exact inv.names
    scheduler := by rw [root]; exact invBefore.finish finished
    succeeded := fun name => ?_
    once := ?_
    order := ?_
    outputFiles := fun absolute => ?_ }
  · simp only [updates, List.mem_append, List.mem_singleton, or_and_right, exists_or, exists_eq_left, inv.succeeded,
      scheduled]
    by_cases isUpdate : name = update.name
    · simp [isUpdate]
    · simp [isUpdate, Ne.symm isUpdate, same]
  · rw [updates, List.pairwise_append]
    exact ⟨inv.once, List.pairwise_singleton _ _, fun earlier inside later isLast => by
      rw [List.mem_singleton.mp isLast]
      exact notBefore earlier inside⟩
  · rw [updates, root, List.pairwise_append]
    refine ⟨inv.order, List.pairwise_singleton _ _, fun earlier inside later isLast depends => ?_⟩
    obtain rfl := List.mem_singleton.mp isLast
    -- what an earlier target depends on had succeeded, but this one is running
    obtain ⟨target, reaches, isEarlier, dependency, isDependency, other, transitive, isLater⟩ := depends
    have done : before.pending target.name = some (.finished .succeeded) :=
      (same _).mpr ((inv.succeeded _).mp ⟨earlier, inside, isEarlier.symm⟩)
    have before' := invBefore.succeeded_of_started reaches (by simp [done]) isDependency transitive
    rw [isLater, running] at before'
    cases before'
  · rw [updates, Graph.ofUpdates_concat, Graph.updateGraph, outputFiles, inv.outputFiles]

theorem graphInv_of_runs {files : Files Content} {log : List (Event Content × Option BuildResult)}
    (reached : Lib.Runs (step digest) NamesDistinct (create files) log s) :
    ∀ build, s.session.build = some build → GraphInv s build := by
  refine reached.preserves (P := fun s => ∀ build, s.session.build = some build → GraphInv s build)
    (fun build building => by cases building) ?_
  intro s event result s' inv guard stepped build' building'
  simp only [step] at stepped
  cases advanced : s.session.advance digest event with
  | none => simp [advanced] at stepped
  | some next =>
    obtain ⟨result', session⟩ := next
    simp only [advanced, Except.ok.injEq, Prod.mk.injEq] at stepped
    obtain ⟨rfl, rfl⟩ := stepped
    cases building : s.session.build with
    | none =>
      -- only a start leads to a build
      cases event <;> simp only [Session.advance, building, Option.some.injEq, Prod.mk.injEq] at advanced
      case edit =>
        obtain ⟨-, rfl⟩ := advanced
        cases building'
      case start root environment =>
        obtain ⟨-, rfl⟩ := advanced
        obtain rfl := Option.some.inj building'
        exact ⟨guard, .start, by simp [updatesAfter, Scheduler.start], .nil, .nil, fun absolute => rfl⟩
      all_goals cases advanced
    | some build =>
      have notStart : s.updatesAfter digest event = s.updates ++ (s.session.updateOf digest event).toList := by
        cases event with
        | start => simp [Session.advance, building, Session.advanceBuild] at advanced
        | _ => rfl
      cases Session.turn_of_advance building advanced building' with
      | goesOn noUpdate root outputFiles scheduler =>
        exact (inv build building).goesOn (by simp [notStart, noUpdate]) root outputFiles scheduler
      | finishes update updates root outputFiles before acquired finished =>
        exact (inv build building).finishes (by simp [notStart, updates]) root outputFiles acquired finished

/-! ## Any order -/

def ReadersDepend (root : Target) (updates : List Update) : Prop :=
  ∀ reader ∈ updates, ∀ writer ∈ updates, reader.name ≠ writer.name → ∀ path ∈ reader.inputs, path ∈ writer.outputs →
    root.DependsOn reader.name writer.name

def AbsolutePaths (absolute : String → String) (updates : List Update) : Prop :=
  ∀ update ∈ updates, ∀ path ∈ update.inputs, absolute path = path

def SameUpdates (updates updates' : List Update) : Prop :=
  ∀ update ∈ updates, ∀ update' ∈ updates', update.name = update'.name →
    (∀ path, path ∈ update.inputs ↔ path ∈ update'.inputs) ∧ ∀ path, path ∈ update.outputs ↔ path ∈ update'.outputs

/-- Each target of the first updates has handed over files in the second ones as well. -/
def Covers (updates updates' : List Update) : Prop :=
  ∀ update ∈ updates, ∃ update' ∈ updates', update.name = update'.name

variable {updates updates' : List Update}

theorem exists_update_iff {files : Update → List String}
    (covers : Covers updates updates') (covers' : Covers updates' updates)
    (same : ∀ update ∈ updates, ∀ update' ∈ updates', update.name = update'.name →
      ∀ path, path ∈ files update ↔ path ∈ files update') (path : String) :
    (∃ update ∈ updates, path ∈ files update) ↔ ∃ update' ∈ updates', path ∈ files update' := by
  constructor
  · rintro ⟨update, inside, isFile⟩
    obtain ⟨update', inside', isPartner⟩ := covers update inside
    exact ⟨update', inside', (same update inside update' inside' isPartner path).mp isFile⟩
  · rintro ⟨update', inside', isFile⟩
    obtain ⟨update, inside, isPartner⟩ := covers' update' inside'
    exact ⟨update, inside, (same update inside update' inside' isPartner.symm path).mpr isFile⟩

theorem SameUpdates.readersDepend {root : Target}
    (same : SameUpdates updates updates') (covers' : Covers updates' updates) (depend : ReadersDepend root updates) :
    ReadersDepend root updates' := by
  intro reader isReader writer isWriter different path isInput isOutput
  obtain ⟨reader₁, inside, isReader₁⟩ := covers' reader isReader
  obtain ⟨writer₁, inside', isWriter₁⟩ := covers' writer isWriter
  rw [isReader₁, isWriter₁]
  refine depend reader₁ inside writer₁ inside' (by rwa [← isReader₁, ← isWriter₁]) path ?_ ?_
  · exact ((same reader₁ inside reader isReader isReader₁.symm).1 path).mpr isInput
  · exact ((same writer₁ inside' writer isWriter isWriter₁.symm).2 path).mpr isOutput

theorem SameUpdates.absolutePaths (same : SameUpdates updates updates')
    (covers' : Covers updates' updates) (isAbsolute : AbsolutePaths absolute updates) :
    AbsolutePaths absolute updates' := by
  intro update' inside' path isInput
  obtain ⟨update, inside, isPartner⟩ := covers' update' inside'
  exact isAbsolute update inside path (((same update inside update' inside' isPartner.symm).1 path).mpr isInput)

omit [DecidableEq Digest] in
theorem GraphInv.writersFirst (inv : GraphInv s build) (depend : ReadersDepend build.root s.updates)
    (isAbsolute : AbsolutePaths absolute s.updates) : Graph.WritersFirst absolute s.updates := by
  refine (inv.once.and inv.order).imp_of_mem fun {reader writer} isReader isWriter ⟨different, before⟩ path isInput
    isOutput => before ?_
  rw [isAbsolute reader isReader path isInput] at isOutput
  exact depend reader isReader writer isWriter different path isInput isOutput

omit [DecidableEq Digest] in
theorem GraphInv.names_of_succeeded (inv : GraphInv s build)
    (succeeded : build.scheduler.invocation [] = .done .succeeded) (name : String) :
    (∃ update ∈ s.updates, update.name = name) ↔ ∃ target, build.root.Reaches target ∧ target.name = name := by
  rw [inv.succeeded]
  constructor
  · intro isSucceeded
    exact inv.scheduler.known name (by simp [isSucceeded])
  · rintro ⟨target, reaches, rfl⟩
    exact inv.scheduler.succeeded_of_done Target.at?_nil succeeded reaches

omit [DecidableEq Digest] in
theorem GraphInv.covers {s' : GraphSession Content Digest} {build' : Build Content Digest} (inv : GraphInv s build)
    (inv' : GraphInv s' build') (root : build'.root = build.root)
    (succeeded : build.scheduler.invocation [] = .done .succeeded)
    (succeeded' : build'.scheduler.invocation [] = .done .succeeded) : Covers s.updates s'.updates := by
  intro update inside
  have isTarget := (inv.names_of_succeeded succeeded update.name).mp ⟨update, inside, rfl⟩
  rw [← root] at isTarget
  obtain ⟨update', inside', isPartner⟩ := (inv'.names_of_succeeded succeeded' update.name).mpr isTarget
  exact ⟨update', inside', isPartner.symm⟩

/-- In every order in which the targets of a graph run, with the same files handed over by each of them, the build
    collects the same inputs and outputs, and no file is both. -/
theorem keys_of_orders {digest digest' : Content → Digest} {files files' : Files Content}
    {log log' : List (Event Content × Option BuildResult)} {s s' : GraphSession Content Digest}
    {build build' : Build Content Digest} (reached : Lib.Runs (step digest) NamesDistinct (create files) log s)
    (reached' : Lib.Runs (step digest') NamesDistinct (create files') log' s') (building : s.session.build = some build)
    (building' : s'.session.build = some build') (root : build'.root = build.root)
    (environment : build'.environment = build.environment)
    (succeeded : build.scheduler.invocation [] = .done .succeeded)
    (succeeded' : build'.scheduler.invocation [] = .done .succeeded) (depend : ReadersDepend build.root s.updates)
    (isAbsolute : AbsolutePaths absolute s.updates) (same : SameUpdates s.updates s'.updates) :
    (s.graph absolute build).Disjoint ∧ (s.graph absolute build).SameKeys (s'.graph absolute build') := by
  have inv := graphInv_of_runs reached build building
  have inv' := graphInv_of_runs reached' build' building'
  have covers : Covers s.updates s'.updates := inv.covers inv' root succeeded succeeded'
  have covers' : Covers s'.updates s.updates := inv'.covers inv root.symm succeeded' succeeded
  -- what is assumed of the first order holds of the second one as well
  have depend' : ReadersDepend build'.root s'.updates := root.symm ▸ same.readersDepend covers' depend
  have first := inv.writersFirst depend isAbsolute
  have first' := inv'.writersFirst depend' (same.absolutePaths covers' isAbsolute)
  have inputs := exists_update_iff covers covers' fun update inside update' inside' isPartner =>
    (same update inside update' inside' isPartner).1
  have outputs := exists_update_iff covers covers' fun update inside update' inside' isPartner =>
    (same update inside update' inside' isPartner).2
  refine ⟨(Graph.disjoint_ofUpdates first).removeWhere _, ?_⟩
  rw [graph, graph, environment]
  exact (Graph.sameKeys_ofUpdates first first' inputs outputs).removeWhere _

/-! ## Two targets that share an output -/

/-- Two targets that do not depend on each other, and one that depends on both. -/
def fork : Target := .mk "app" [.mk "first" [], .mk "second" []]

theorem distinctNames_fork : fork.DistinctNames := by
  have targets : ∀ target, fork.Reaches target → target ∈ [fork, .mk "first" [], .mk "second" []] := by
    intro target reaches
    induction reaches with
    | root => simp
    | dependency _ depends ih =>
      simp only [List.mem_cons, List.not_mem_nil, or_false] at ih
      obtain rfl | rfl | rfl := ih
      · obtain rfl | rfl : _ ∨ _ := by simpa [fork, Target.dependencies] using depends
        · simp
        · simp
      · simp [Target.dependencies] at depends
      · simp [Target.dependencies] at depends
  intro target other reaches reaches' same
  have inside := targets target reaches
  have inside' := targets other reaches'
  simp only [List.mem_cons, List.not_mem_nil, or_false] at inside inside'
  obtain rfl | rfl | rfl := inside <;> obtain rfl | rfl | rfl := inside' <;>
    first | rfl | simp [fork, Target.name] at same

/-- The first two targets write the same file, which the third one reads. -/
def sharing : Environment Nat where
  resolveInputs name _ := if name = "first" then ["/i"] else if name = "second" then ["/j"] else ["/q"]
  containsNewDepfile _ _ := false
  resolveOutputs name _ := if name = "app" then ["/out"] else ["/q"]
  buildKey _ := none
  preservedOutputFilePaths := []
  resourcePoolSize := 1
  isUnconditionalFile _ := false
  lastOutputs := []

def sharingFiles : Files Nat := fun path => if path ∈ ["/i", "/j"] then some 0 else none

/-- A build after its start, with the turns of the first two targets in some order. -/
def turns (both : List (Event Nat)) (version : Nat) : List (Event Nat) :=
  [Event.resume [0], Event.resume [1]] ++ both ++ [Event.deliver [0], Event.deliver [1], Event.resume []] ++
    Session.acts "app" [("/out", version)] ++ [Event.deliver []]

def firstBuild (both : List (Event Nat)) : List (Event Nat) := Event.start fork sharing :: turns both 0

def firstEvents : List (Event Nat) :=
  firstBuild (Session.acts "first" [("/q", 0)] ++ Session.acts "second" [("/q", 1)])

/-- The same targets hand over the same files in the other order. -/
def secondEvents : List (Event Nat) :=
  firstBuild (Session.acts "second" [("/q", 1)] ++ Session.acts "first" [("/q", 0)])

theorem namesDistinct_firstBuild (s : GraphSession Nat Nat) :
    (∀ event ∈ firstEvents, NamesDistinct s event) ∧ ∀ event ∈ secondEvents, NamesDistinct s event := by
  constructor
  · simp [firstEvents, firstBuild, turns, Session.acts, NamesDistinct, distinctNames_fork]
  · simp [secondEvents, firstBuild, turns, Session.acts, NamesDistinct, distinctNames_fork]

def firstUpdates : List Update := [⟨"first", ["/i"], ["/q"]⟩, ⟨"second", ["/j"], ["/q"]⟩, ⟨"app", ["/q"], ["/out"]⟩]

def secondUpdates : List Update := [⟨"second", ["/j"], ["/q"]⟩, ⟨"first", ["/i"], ["/q"]⟩, ⟨"app", ["/q"], ["/out"]⟩]

theorem dependsOn_fork : fork.DependsOn "app" "first" ∧ fork.DependsOn "app" "second" := by
  constructor
  · exact ⟨fork, .root, rfl, .mk "first" [], by simp [fork, Target.dependencies], .mk "first" [], .root, rfl⟩
  · exact ⟨fork, .root, rfl, .mk "second" [], by simp [fork, Target.dependencies], .mk "second" [], .root, rfl⟩

theorem readersDepend_fork
    (known : ∀ update ∈ updates, update ∈ firstUpdates ∨ update = ⟨"first", [], []⟩) : ReadersDepend fork updates := by
  intro reader isReader writer isWriter different path isInput isOutput
  have inside := known reader isReader
  have inside' := known writer isWriter
  simp only [firstUpdates, List.mem_cons, List.not_mem_nil, or_false] at inside inside'
  obtain (rfl | rfl | rfl) | rfl := inside
  · obtain (rfl | rfl | rfl) | rfl := inside' <;> simp_all
  · obtain (rfl | rfl | rfl) | rfl := inside' <;> simp_all
  · obtain (rfl | rfl | rfl) | rfl := inside'
    · exact dependsOn_fork.1
    · exact dependsOn_fork.2
    · exact absurd rfl different
    · simp at isOutput
  · simp at isInput

/-- Both orders of the first build collect the same files. -/
theorem keys_of_orders_firstBuild : ∃ (s s' : GraphSession Nat Nat) (build build' : Build Nat Nat),
    s.updates = firstUpdates ∧ s'.updates = secondUpdates ∧ (s.graph id build).Disjoint ∧
      (s.graph id build).SameKeys (s'.graph id build') := by
  have ran : ∃ log s build, Lib.run (step id) (create sharingFiles) firstEvents = .ok (log, s) ∧
      s.session.build = some build ∧ build.root = fork ∧ build.environment = sharing ∧
      build.scheduler.invocation [] = .done .succeeded ∧ s.updates = firstUpdates :=
    ⟨_, _, _, rfl, rfl, rfl, rfl, rfl, rfl⟩
  have ran' : ∃ log s build, Lib.run (step id) (create sharingFiles) secondEvents = .ok (log, s) ∧
      s.session.build = some build ∧ build.root = fork ∧ build.environment = sharing ∧
      build.scheduler.invocation [] = .done .succeeded ∧ s.updates = secondUpdates :=
    ⟨_, _, _, rfl, rfl, rfl, rfl, rfl, rfl⟩
  obtain ⟨log, s, build, ran, building, root, environment, succeeded, updates⟩ := ran
  obtain ⟨log', s', build', ran', building', root', environment', succeeded', updates'⟩ := ran'
  have reached := Lib.runs_of_run (fun s => (namesDistinct_firstBuild s).1) ran
  have reached' := Lib.runs_of_run (fun s => (namesDistinct_firstBuild s).2) ran'
  have isAbsolute : AbsolutePaths id s.updates := fun _ _ _ _ => rfl
  have depend : ReadersDepend build.root s.updates := by
    rw [root, updates]
    exact readersDepend_fork fun _ => .inl
  have same : SameUpdates s.updates s'.updates := by
    rw [updates, updates']
    simp [SameUpdates, firstUpdates, secondUpdates]
  exact ⟨s, s', build, build', updates, updates', keys_of_orders reached reached' building building'
    (root'.trans root.symm) (environment'.trans environment.symm) succeeded succeeded' depend isAbsolute same⟩

/-! ## Another order of the same build -/

/-- What the targets do in a build: whether they are skipped at runtime, and what their actions write. -/
structure Behaviour (Content : Type) where
  canSkip : String → Bool
  writes : String → List (String × Content)

omit [DecidableEq Digest] in
def written (s : GraphSession Content Digest) (name : String) : Nat :=
  match s.session.build with
  | some build =>
    match build.phases name with
    | .acting written => written.length
    | .idle | .deciding => 0
  | none => 0

omit [DecidableEq Digest] in
/-- The step is one of a build in which all targets behave like this, and end without exceptions. -/
def follows [DecidableEq Content] (behaviour : Behaviour Content) (s : GraphSession Content Digest) :
    Event Content → Bool
  | .edit _ _ | .start _ _ | .stop => false
  | .decide name canSkip ending => canSkip == behaviour.canSkip name && decide (ending = .completed)
  | .write name path content => decide ((behaviour.writes name)[s.written name]? = some (path, content))
  | .finish name ending => decide (s.written name = (behaviour.writes name).length) && decide (ending = .completed)
  | .resume _ | .deliver _ | .examine _ => true

/-- All orders of a build collect the same files, and none that is both an input and an output. -/
def AnyOrder [DecidableEq Content] (digest : Content → Digest) : Prop :=
  ∀ (absolute : String → String) (files : Files Content) log (idle started : GraphSession Content Digest) root
      environment,
    Lib.Runs (step digest) NamesDistinct (create files) log idle → root.DistinctNames →
      step digest idle (.start root environment) = .ok (none, started) →
        ∀ (behaviour : Behaviour Content) log₁ log₂ s₁ s₂ build₁ build₂,
          Lib.Runs (step digest) (fun s event => follows behaviour s event = true) started log₁ s₁ →
          Lib.Runs (step digest) (fun s event => follows behaviour s event = true) started log₂ s₂ →
          s₁.session.build = some build₁ → s₂.session.build = some build₂ →
          build₁.scheduler.invocation [] = .done .succeeded → build₂.scheduler.invocation [] = .done .succeeded →
          ReadersDepend root s₁.updates → ReadersDepend root s₂.updates →
          AbsolutePaths absolute s₁.updates → AbsolutePaths absolute s₂.updates →
            (s₁.graph absolute build₁).Disjoint ∧ (s₁.graph absolute build₁).SameKeys (s₂.graph absolute build₂)

/-- In the second build the first target could be skipped at runtime, and the input of the second one was edited. -/
def sharingBehaviour : Behaviour Nat where
  canSkip name := name == "first"
  writes name := if name = "second" then [("/q", 2)] else if name = "app" then [("/out", 1)] else []

def firstSkips : List (Event Nat) := turns (Event.examine "first" :: Session.acts "second" [("/q", 2)]) 1

def secondActs : List (Event Nat) :=
  turns (Session.acts "second" [("/q", 2)] ++ [Event.examine "first", Event.decide "first" true .completed]) 1

/-- Where two targets share an output, the one that comes second finds it changed, and its files are cleared when it can
    be skipped at runtime. -/
theorem not_anyOrder : ¬ ∀ digest : Nat → Nat, Function.Injective digest → AnyOrder digest := by
  intro always
  have ran : ∃ log idle started log₁ s₁ build₁ log₂ s₂ build₂,
      Lib.run (step id) (create sharingFiles) (firstEvents ++ [.stop, .edit "/j" (some 1)]) = .ok (log, idle) ∧
      step id idle (.start fork sharing) = .ok (none, started) ∧
      Lib.run (Lib.guarded (step id) () (follows sharingBehaviour)) started firstSkips = .ok (log₁, s₁) ∧
      Lib.run (Lib.guarded (step id) () (follows sharingBehaviour)) started secondActs = .ok (log₂, s₂) ∧
      s₁.session.build = some build₁ ∧ s₂.session.build = some build₂ ∧
      build₁.scheduler.invocation [] = .done .succeeded ∧ build₂.scheduler.invocation [] = .done .succeeded ∧
      s₁.updates = firstUpdates ∧
      s₂.updates = [⟨"second", ["/j"], ["/q"]⟩, ⟨"first", [], []⟩, ⟨"app", ["/q"], ["/out"]⟩] ∧
      (s₁.graph id build₁).inputFiles = ["/i", "/j"] ∧ (s₂.graph id build₂).inputFiles = ["/j"] :=
    ⟨_, _, _, _, _, _, _, _, _, rfl, rfl, rfl, rfl, rfl, rfl, rfl, rfl, rfl, rfl, rfl, rfl⟩
  obtain ⟨log, idle, started, log₁, s₁, build₁, log₂, s₂, build₂, ran, starts, ran₁, ran₂, building₁, building₂,
    succeeded₁, succeeded₂, updates₁, updates₂, inputs₁, inputs₂⟩ := ran
  have reached : Lib.Runs (step id) NamesDistinct (create sharingFiles) log idle := by
    refine Lib.runs_of_run (fun s event inside => ?_) ran
    obtain inFirst | rest := List.mem_append.mp inside
    · exact (namesDistinct_firstBuild s).1 event inFirst
    · obtain rfl | rfl : event = .stop ∨ event = .edit "/j" (some 1) := by simpa using rest
      · trivial
      · trivial
  have depend₁ : ReadersDepend fork s₁.updates := by
    rw [updates₁]
    exact readersDepend_fork fun _ => .inl
  have depend₂ : ReadersDepend fork s₂.updates := by
    rw [updates₂]
    apply readersDepend_fork
    simp [firstUpdates]
  have keys := always id Function.injective_id id sharingFiles log idle started fork sharing reached distinctNames_fork
    starts sharingBehaviour log₁ log₂ s₁ s₂ build₁ build₂ (Lib.runs_of_run_guarded (fun _ _ => id) ran₁)
    (Lib.runs_of_run_guarded (fun _ _ => id) ran₂) building₁ building₂ succeeded₁ succeeded₂ depend₁ depend₂
    (fun _ _ _ _ => rfl) (fun _ _ _ _ => rfl)
  have same := keys.2.inputFiles "/i"
  simp [inputs₁, inputs₂] at same

end GraphSession

end FlutterZero.FlutterTools.BuildSystem
