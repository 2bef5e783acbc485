import FlutterZero.Lib.Machine

/-! # The serial task queue

`SerialTaskQueue` (`DartMessenger.java`) runs its runnables one at a time on an executor with
several threads: a flush that finds another one running gives up, and the one that is running
looks whether there is more once it is through.

A step is one operation of one thread on `queue` or on `isRunning`, the call of the executor,
or the end of a runnable.

* `Inv` — what holds in every interleaving;
* `FairRun` — an executor that runs every flush, and threads that all get on;
* `FairRun.ends` — every runnable has its turn;
* `serial_ordered_complete` — the two together.
-/

namespace FlutterZero.Platform.Android

open FlutterZero.Lib

namespace SerialTaskQueue

variable {α : Type}

/-- Where a flush is that has set `isRunning`. -/
inductive Stage (α : Type) where
  /-- Before `queue.poll()`. -/
  | polling
  /-- In `runnable.run()`. -/
  | running (runnable : α)
  /-- At the start of `finally`. -/
  | finishing
  /-- Before `queue.isEmpty()`; `isRunning` has been reset. -/
  | checking
  /-- Before `executor.execute(this::flush)`. -/
  | scheduling
deriving DecidableEq, Repr

/-- Whether it holds `isRunning`. -/
def Stage.holds : Stage α → Bool
  | .polling | .running _ | .finishing => true
  | .checking | .scheduling => false

structure State (α : Type) where
  queue : List α
  isRunning : Bool
  /-- The number of calls of `dispatch` between their two statements. -/
  dispatching : Nat
  submitted : Nat
  /-- The flushes that set `isRunning`, each under a number of its own. -/
  flushes : Nat → Option (Stage α)
  begun : Nat
  /-- All runnables, in the order in which they were added. -/
  added : List α
  /-- Those whose `run` has been called. -/
  started : List α
  /-- Those that have returned or, if `true`, thrown. -/
  ended : List (α × Bool)

def create : State α where
  queue := []
  isRunning := false
  dispatching := 0
  submitted := 0
  flushes := fun _ => none
  begun := 0
  added := []
  started := []
  ended := []

inductive Event (α : Type) where
  /-- `queue.add` of a call of `dispatch`, on any thread. -/
  | add (runnable : α)
  /-- `executor.execute` of a call of `dispatch`. -/
  | execute
  /-- The executor runs a flush on some thread: its `compareAndSet`. -/
  | begin
  | advance (flush : Nat)
  | ends (flush : Nat) (throws : Bool)
  | idle
deriving DecidableEq, Repr

namespace State

def setFlush (s : State α) (flush : Nat) (stage : Option (Stage α)) : State α :=
  { s with flushes := Function.update s.flushes flush stage }

def dispatch (s : State α) (runnable : α) : State α :=
  { s with queue := s.queue ++ [runnable], added := s.added ++ [runnable], dispatching := s.dispatching + 1 }

/-- `isRunning.compareAndSet(false, true)`: a flush that finds it set is over. -/
def compareAndSet (s : State α) : State α :=
  let s := { s with submitted := s.submitted - 1 }
  if s.isRunning then s
  else { s.setFlush s.begun (some .polling) with isRunning := true, begun := s.begun + 1 }

def poll (s : State α) (flush : Nat) : State α :=
  match s.queue with
  | [] => s.setFlush flush (some .finishing)
  | runnable :: queue =>
    { s.setFlush flush (some (.running runnable)) with queue := queue, started := s.started ++ [runnable] }

/-- `!queue.isEmpty()`. -/
def check (s : State α) (flush : Nat) : State α :=
  s.setFlush flush (if s.queue.isEmpty then none else some .scheduling)

end State

def step (s : State α) : Event α → Except Unit (Unit × State α)
  | .add runnable => .ok ((), s.dispatch runnable)
  | .execute =>
    if s.dispatching = 0 then .error ()
    else .ok ((), { s with dispatching := s.dispatching - 1, submitted := s.submitted + 1 })
  | .begin => if s.submitted = 0 then .error () else .ok ((), s.compareAndSet)
  | .advance flush =>
    match s.flushes flush with
    | some .polling => .ok ((), s.poll flush)
    | some .finishing => .ok ((), { s.setFlush flush (some .checking) with isRunning := false })
    | some .checking => .ok ((), s.check flush)
    | some .scheduling => .ok ((), { s.setFlush flush none with submitted := s.submitted + 1 })
    | some (.running _) | none => .error ()
  | .ends flush throws =>
    match s.flushes flush with
    | some (.running runnable) =>
      .ok ((), { s.setFlush flush (some .finishing) with ended := s.ended ++ [(runnable, throws)] })
    | _ => .error ()
  | .idle => .ok ((), s)

/-! ## What a step can do -/

inductive Steps (s : State α) : Event α → State α → Prop where
  | adds (runnable : α) : Steps s (.add runnable) (s.dispatch runnable)
  | executes (between : 0 < s.dispatching) :
    Steps s .execute { s with dispatching := s.dispatching - 1, submitted := s.submitted + 1 }
  | givesUp (waiting : 0 < s.submitted) (taken : s.isRunning = true) :
    Steps s .begin { s with submitted := s.submitted - 1 }
  | begins (waiting : 0 < s.submitted) (free : s.isRunning = false) :
    Steps s .begin { s.setFlush s.begun (some .polling) with
      submitted := s.submitted - 1, isRunning := true, begun := s.begun + 1 }
  | pollsNull {flush : Nat} (found : s.flushes flush = some .polling) (empty : s.queue = []) :
    Steps s (.advance flush) (s.setFlush flush (some .finishing))
  | polls {flush : Nat} {runnable : α} {queue : List α} (found : s.flushes flush = some .polling)
    (first : s.queue = runnable :: queue) :
    Steps s (.advance flush) { s.setFlush flush (some (.running runnable)) with
      queue := queue, started := s.started ++ [runnable] }
  | ends {flush : Nat} {runnable : α} (throws : Bool) (found : s.flushes flush = some (.running runnable)) :
    Steps s (.ends flush throws) { s.setFlush flush (some .finishing) with ended := s.ended ++ [(runnable, throws)] }
  | releases {flush : Nat} (found : s.flushes flush = some .finishing) :
    Steps s (.advance flush) { s.setFlush flush (some .checking) with isRunning := false }
  | leaves {flush : Nat} (found : s.flushes flush = some .checking) (empty : s.queue = []) :
    Steps s (.advance flush) (s.setFlush flush none)
  | finds {flush : Nat} (found : s.flushes flush = some .checking) (more : s.queue ≠ []) :
    Steps s (.advance flush) (s.setFlush flush (some .scheduling))
  | schedules {flush : Nat} (found : s.flushes flush = some .scheduling) :
    Steps s (.advance flush) { s.setFlush flush none with submitted := s.submitted + 1 }
  | idles : Steps s .idle s

variable {s s' : State α} {event : Event α} {out : Unit} {flush : Nat}

theorem steps_of_step (stepped : step s event = .ok (out, s')) : Steps s event s' := by
  cases event with
  | add runnable =>
    cases stepped
    exact .adds runnable
  | execute =>
    by_cases none : s.dispatching = 0
    · simp [step, none] at stepped
    · simp only [step, none, if_false, Except.ok.injEq, Prod.mk.injEq, true_and] at stepped
      subst stepped
      exact .executes (Nat.pos_of_ne_zero none)
  | begin =>
    by_cases none : s.submitted = 0
    · simp [step, none] at stepped
    · simp only [step, none, if_false, Except.ok.injEq, Prod.mk.injEq, true_and, State.compareAndSet] at stepped
      subst stepped
      cases running : s.isRunning with
      | true => simpa [running] using Steps.givesUp (Nat.pos_of_ne_zero none) running
      | false => simpa [State.setFlush] using Steps.begins (Nat.pos_of_ne_zero none) running
  | advance flush =>
    cases found : s.flushes flush with
    | none => simp [step, found] at stepped
    | some stage =>
      cases stage with
      | polling =>
        simp only [step, found, Except.ok.injEq, Prod.mk.injEq, true_and, State.poll] at stepped
        subst stepped
        cases queue : s.queue with
        | nil => exact .pollsNull found queue
        | cons runnable rest => exact .polls found queue
      | running runnable => simp [step, found] at stepped
      | finishing =>
        simp only [step, found, Except.ok.injEq, Prod.mk.injEq, true_and] at stepped
        subst stepped
        exact .releases found
      | checking =>
        simp only [step, found, Except.ok.injEq, Prod.mk.injEq, true_and, State.check] at stepped
        subst stepped
        by_cases empty : s.queue = []
        · simpa [empty] using Steps.leaves found empty
        · simpa [empty] using Steps.finds found empty
      | scheduling =>
        simp only [step, found, Except.ok.injEq, Prod.mk.injEq, true_and] at stepped
        subst stepped
        exact .schedules found
  | ends flush throws =>
    cases found : s.flushes flush with
    | none => simp [step, found] at stepped
    | some stage =>
      cases stage with
      | running runnable =>
        simp only [step, found, Except.ok.injEq, Prod.mk.injEq, true_and] at stepped
        subst stepped
        exact .ends throws found
      | _ => simp [step, found] at stepped
  | idle =>
    cases stepped
    exact .idles

/-! ## The holder of `isRunning` -/

section

variable {flushes : Nat → Option (Stage α)} {isRunning : Bool} {stage : Option (Stage α)} {old : Stage α}

def Holds (flushes : Nat → Option (Stage α)) (flush : Nat) : Prop :=
  ∃ stage, flushes flush = some stage ∧ stage.holds = true

/-- No more than one flush holds `isRunning`, and none does when it is reset. -/
def Exclusive (isRunning : Bool) (flushes : Nat → Option (Stage α)) : Prop :=
  if isRunning then ∃ holder, ∀ flush, Holds flushes flush ↔ flush = holder else ∀ flush, ¬ Holds flushes flush

theorem holds_update {other : Nat} : Holds (Function.update flushes flush stage) other ↔
    if other = flush then ∃ new, stage = some new ∧ new.holds = true else Holds flushes other := by
  by_cases same : other = flush <;> simp [Holds, same]

theorem Exclusive.holder (exclusive : Exclusive isRunning flushes) (holds : Holds flushes flush) :
    isRunning = true ∧ ∀ other, Holds flushes other ↔ other = flush := by
  cases isRunning with
  | false => exact absurd holds (exclusive flush)
  | true =>
    obtain ⟨holder, only⟩ := exclusive
    have same := (only flush).mp holds
    subst same
    exact ⟨rfl, only⟩

theorem Exclusive.goOn (exclusive : Exclusive isRunning flushes) (found : flushes flush = some old)
    (same : (∃ new, stage = some new ∧ new.holds = true) ↔ old.holds = true) :
    Exclusive isRunning (Function.update flushes flush stage) := by
  have unchanged : ∀ other, Holds (Function.update flushes flush stage) other ↔ Holds flushes other := by
    intro other
    rw [holds_update]
    by_cases this : other = flush
    · subst this
      rw [if_pos rfl, same]
      simp [Holds, found]
    · rw [if_neg this]
  simpa only [Exclusive, unchanged] using exclusive

theorem Exclusive.acquire (exclusive : Exclusive false flushes) (flush : Nat) :
    Exclusive true (Function.update flushes flush (some .polling)) := by
  refine ⟨flush, fun other => ?_⟩
  have free : ¬ Holds flushes other := exclusive other
  rw [holds_update]
  by_cases this : other = flush <;> simp [this, free, Stage.holds]

theorem Exclusive.release (exclusive : Exclusive isRunning flushes) (found : flushes flush = some .finishing) :
    Exclusive false (Function.update flushes flush (some .checking)) := by
  intro other
  have only := (exclusive.holder ⟨_, found, rfl⟩).2 other
  rw [holds_update]
  by_cases this : other = flush <;> simp [this, only, Stage.holds]

/-! ## Runnables -/

variable {started : List α} {ended : List (α × Bool)} {runnable : α}

structure Settled (flushes : Nat → Option (Stage α)) (started : List α) (ended : List (α × Bool)) : Prop where
  busy : ∀ flush runnable, flushes flush = some (.running runnable) → started = ended.map Prod.fst ++ [runnable]
  quiet : (∀ flush runnable, flushes flush ≠ some (.running runnable)) → started = ended.map Prod.fst

theorem Settled.goOn (settled : Settled flushes started ended)
    (before : ∀ runnable, flushes flush ≠ some (.running runnable)) (after : ∀ runnable, stage ≠ some (.running runnable)) :
    Settled (Function.update flushes flush stage) started ended where
  busy other runnable found := by
    by_cases this : other = flush
    · subst this
      rw [Function.update_self] at found
      exact absurd found (after runnable)
    · rw [Function.update_of_ne this] at found
      exact settled.busy other runnable found
  quiet none := by
    apply settled.quiet
    intro other runnable
    by_cases this : other = flush
    · subst this
      exact before runnable
    · have unchanged := none other runnable
      rwa [Function.update_of_ne this] at unchanged

theorem Settled.poll (settled : Settled flushes started ended) (exclusive : Exclusive isRunning flushes)
    (found : flushes flush = some .polling) (runnable : α) :
    Settled (Function.update flushes flush (some (.running runnable))) (started ++ [runnable]) ended := by
  have only := (exclusive.holder ⟨_, found, rfl⟩).2
  have past : started = ended.map Prod.fst := by
    apply settled.quiet
    intro other runnable' running
    have same := (only other).mp ⟨_, running, rfl⟩
    rw [same, found] at running
    cases running
  constructor
  · intro other runnable' running
    by_cases this : other = flush
    · subst this
      rw [Function.update_self] at running
      cases running
      rw [past]
    · rw [Function.update_of_ne this] at running
      exact absurd ((only other).mp ⟨_, running, rfl⟩) this
  · intro none
    exact absurd (Function.update_self ..) (none flush runnable)

theorem Settled.finish (settled : Settled flushes started ended) (exclusive : Exclusive isRunning flushes)
    (found : flushes flush = some (.running runnable)) (throws : Bool) :
    Settled (Function.update flushes flush (some .finishing)) started (ended ++ [(runnable, throws)]) := by
  have only := (exclusive.holder ⟨_, found, rfl⟩).2
  constructor
  · intro other runnable' running
    by_cases this : other = flush
    · subst this
      rw [Function.update_self] at running
      cases running
    · rw [Function.update_of_ne this] at running
      exact absurd ((only other).mp ⟨_, running, rfl⟩) this
  · intro _
    rw [settled.busy flush runnable found]
    simp

end

/-! ## The invariant -/

def Served (s : State α) : Prop := 0 < s.submitted ∨ 0 < s.dispatching ∨ ∃ flush, s.flushes flush ≠ none

structure Inv (s : State α) : Prop where
  fresh : ∀ flush, s.begun ≤ flush → s.flushes flush = none
  exclusive : Exclusive s.isRunning s.flushes
  order : s.started ++ s.queue = s.added
  settled : Settled s.flushes s.started s.ended
  served : s.queue ≠ [] → Served s

theorem Inv.create : Inv (create : State α) where
  fresh _ _ := rfl
  exclusive _ holds := by simp [Holds, SerialTaskQueue.create] at holds
  order := rfl
  settled := ⟨fun _ _ running => by simp [SerialTaskQueue.create] at running, fun _ => rfl⟩
  served more := absurd rfl more

theorem Inv.fresh_set (inv : Inv s) {stage : Option (Stage α)} (found : s.flushes flush ≠ none) :
    ∀ other, s.begun ≤ other → Function.update s.flushes flush stage other = none := by
  intro other above
  have different : other ≠ flush := by
    rintro rfl
    exact found (inv.fresh other above)
  rw [Function.update_of_ne different, inv.fresh other above]

variable {stage : Stage α}

theorem served_of_flush (found : s.flushes flush = some stage) : Served s :=
  .inr (.inr ⟨flush, by simp [found]⟩)

theorem Inv.step (inv : Inv s) (steps : Steps s event s') : Inv s' := by
  cases steps with
  | adds runnable =>
    exact ⟨inv.fresh, inv.exclusive, by simp [State.dispatch, ← inv.order], inv.settled,
      fun _ => .inr (.inl (Nat.succ_pos _))⟩
  | executes between => exact ⟨inv.fresh, inv.exclusive, inv.order, inv.settled, fun _ => .inl (Nat.succ_pos _)⟩
  | givesUp waiting taken =>
    -- The flush that holds `isRunning` is still there.
    refine ⟨inv.fresh, inv.exclusive, inv.order, inv.settled, fun _ => ?_⟩
    have exclusive := inv.exclusive
    rw [taken] at exclusive
    obtain ⟨holder, only⟩ := exclusive
    obtain ⟨stage, found, -⟩ := (only holder).mpr rfl
    exact served_of_flush found
  | begins waiting free =>
    have exclusive := inv.exclusive
    rw [free] at exclusive
    have none := inv.fresh s.begun (Nat.le_refl _)
    refine ⟨fun other above => ?_, exclusive.acquire s.begun, inv.order,
      inv.settled.goOn (by simp [none]) (by simp), fun _ => served_of_flush (Function.update_self ..)⟩
    have different : other ≠ s.begun := Nat.ne_of_gt above
    simpa [State.setFlush, different] using inv.fresh other (Nat.le_of_lt above)
  | pollsNull found empty =>
    exact ⟨inv.fresh_set (by simp [found]), inv.exclusive.goOn found (by simp [Stage.holds]), inv.order,
      inv.settled.goOn (by simp [found]) (by simp), fun _ => served_of_flush (Function.update_self ..)⟩
  | polls found first =>
    exact ⟨inv.fresh_set (by simp [found]), inv.exclusive.goOn found (by simp [Stage.holds]),
      by simp [State.setFlush, ← inv.order, first], inv.settled.poll inv.exclusive found _,
      fun _ => served_of_flush (Function.update_self ..)⟩
  | ends throws found =>
    exact ⟨inv.fresh_set (by simp [found]), inv.exclusive.goOn found (by simp [Stage.holds]), inv.order,
      inv.settled.finish inv.exclusive found throws, fun _ => served_of_flush (Function.update_self ..)⟩
  | releases found =>
    exact ⟨inv.fresh_set (by simp [found]), inv.exclusive.release found, inv.order,
      inv.settled.goOn (by simp [found]) (by simp), fun _ => served_of_flush (Function.update_self ..)⟩
  | leaves found empty =>
    exact ⟨inv.fresh_set (by simp [found]), inv.exclusive.goOn found (by simp [Stage.holds]), inv.order,
      inv.settled.goOn (by simp [found]) (by simp), fun more => absurd empty more⟩
  | finds found more =>
    exact ⟨inv.fresh_set (by simp [found]), inv.exclusive.goOn found (by simp [Stage.holds]), inv.order,
      inv.settled.goOn (by simp [found]) (by simp), fun _ => served_of_flush (Function.update_self ..)⟩
  | schedules found =>
    exact ⟨inv.fresh_set (by simp [found]), inv.exclusive.goOn found (by simp [Stage.holds]), inv.order,
      inv.settled.goOn (by simp [found]) (by simp), fun _ => .inl (Nat.succ_pos _)⟩
  | idles => exact inv

theorem inv_of_runs {log : List (Event α × Unit)} (runs : Runs step (fun _ _ => True) create log s) : Inv s :=
  runs.preserves .create fun _ _ _ _ inv _ stepped => inv.step (steps_of_step stepped)

/-! ## Fair runs -/

def Event.Concerns (flush : Nat) : Event α → Prop
  | .advance other => other = flush
  | .ends other _ => other = flush
  | _ => False

/-- A run without an end, of an executor that runs what is submitted and of threads that all get on: a call of
    `dispatch` reaches its end, and so does a flush, and a runnable returns or throws. -/
structure FairRun (α : Type) where
  state : Nat → State α
  event : Nat → Event α
  init : state 0 = create
  stepped : ∀ n, step (state n) (event n) = .ok ((), state (n + 1))
  begins : ∀ n, 0 < (state n).submitted → ∃ m, n ≤ m ∧ event m = .begin
  executes : ∀ n, 0 < (state n).dispatching → ∃ m, n ≤ m ∧ event m = .execute
  advances : ∀ n flush, (state n).flushes flush ≠ none → ∃ m, n ≤ m ∧ (event m).Concerns flush

theorem Steps.frame (steps : Steps s event s') (inv : Inv s) (other : ¬ event.Concerns flush)
    (found : s.flushes flush = some stage) : s'.flushes flush = some stage := by
  have set : ∀ this new, this ≠ flush → Function.update s.flushes this new flush = some stage := by
    intro this new different
    rw [Function.update_of_ne different.symm, found]
  cases steps with
  | adds | executes | givesUp | idles => exact found
  | begins waiting free =>
    apply set
    rintro rfl
    rw [inv.fresh s.begun (Nat.le_refl _)] at found
    cases found
  | pollsNull | polls | ends | releases | leaves | finds | schedules => exact set _ _ other

def Moved (s s' : State α) (flush : Nat) : Stage α → Prop
  | .polling => s.queue = [] ∨ s'.started.length = s.started.length + 1
  | .running _ => s'.flushes flush = some .finishing ∧ s'.ended.length = s.ended.length + 1
  | .finishing => s'.isRunning = false
  | .checking => s.queue = [] ∨ s'.flushes flush = some .scheduling
  | .scheduling => 0 < s'.submitted

theorem Steps.moved (steps : Steps s event s') (concerns : event.Concerns flush)
    (found : s.flushes flush = some stage) : Moved s s' flush stage := by
  cases steps with
  | adds | executes | givesUp | begins | idles => exact absurd concerns id
  | pollsNull polling empty =>
    obtain rfl : _ = flush := concerns
    cases polling.symm.trans found
    exact .inl empty
  | polls polling first =>
    obtain rfl : _ = flush := concerns
    cases polling.symm.trans found
    exact .inr (List.length_append ..)
  | ends throws running =>
    obtain rfl : _ = flush := concerns
    cases running.symm.trans found
    exact ⟨Function.update_self .., List.length_append ..⟩
  | releases finishing =>
    obtain rfl : _ = flush := concerns
    cases finishing.symm.trans found
    exact rfl
  | leaves checking empty =>
    obtain rfl : _ = flush := concerns
    cases checking.symm.trans found
    exact .inl empty
  | finds checking more =>
    obtain rfl : _ = flush := concerns
    cases checking.symm.trans found
    exact .inr (Function.update_self ..)
  | schedules scheduling =>
    obtain rfl : _ = flush := concerns
    cases scheduling.symm.trans found
    exact Nat.succ_pos _

theorem Steps.started_le (steps : Steps s event s') : s.started.length ≤ s'.started.length := by
  cases steps with
  | polls found first => simp
  | _ => exact Nat.le_refl _

theorem Steps.added_le (steps : Steps s event s') : s.added.length ≤ s'.added.length := by
  cases steps with
  | adds runnable => simp [State.dispatch]
  | _ => exact Nat.le_refl _

namespace FairRun

variable (run : FairRun α) {n m : Nat}

theorem steps (n : Nat) : Steps (run.state n) (run.event n) (run.state (n + 1)) := steps_of_step (run.stepped n)

theorem inv (n : Nat) : Inv (run.state n) := by
  induction n with
  | zero =>
    rw [run.init]
    exact .create
  | succ n ih => exact ih.step (run.steps n)

theorem started_mono (later : n ≤ m) : (run.state n).started.length ≤ (run.state m).started.length := by
  induction later with
  | refl => exact Nat.le_refl _
  | step _ ih => exact ih.trans (run.steps _).started_le

theorem added_mono (later : n ≤ m) : (run.state n).added.length ≤ (run.state m).added.length := by
  induction later with
  | refl => exact Nat.le_refl _
  | step _ ih => exact ih.trans (run.steps _).added_le

theorem added_eq (n : Nat) :
    (run.state n).added.length = (run.state n).started.length + (run.state n).queue.length := by
  rw [← (run.inv n).order, List.length_append]

theorem next_step {stage : Stage α} (found : (run.state n).flushes flush = some stage) :
    ∃ m, n ≤ m ∧ (run.state m).flushes flush = some stage ∧ Moved (run.state m) (run.state (m + 1)) flush stage := by
  obtain ⟨m, later, concerns⟩ := run.advances n flush (by simp [found])
  obtain ⟨d, rfl⟩ := Nat.exists_eq_add_of_le later
  clear later
  induction d generalizing n with
  | zero => exact ⟨n, Nat.le_refl n, found, (run.steps n).moved concerns found⟩
  | succ d ih =>
    by_cases now : (run.event n).Concerns flush
    · exact ⟨n, Nat.le_refl n, found, (run.steps n).moved now found⟩
    · have still := (run.steps n).frame (run.inv n) now found
      rw [← Nat.add_assoc, Nat.add_right_comm] at concerns
      obtain ⟨m, later, result⟩ := ih still concerns
      exact ⟨m, Nat.le_of_succ_le later, result⟩

/-! ## No runnable is stranded -/

/-- From `n` on there are runnables in the queue, and none is taken from it. -/
structure Stuck (n : Nat) : Prop where
  more : ∀ m, n ≤ m → (run.state m).queue ≠ []
  same : ∀ m, n ≤ m → (run.state (m + 1)).started.length = (run.state m).started.length

variable {run}

namespace Stuck

theorem not_polling (stuck : run.Stuck n) (later : n ≤ m) : (run.state m).flushes flush ≠ some .polling := by
  intro found
  obtain ⟨k, after, -, empty | more⟩ := run.next_step found
  · exact stuck.more k (later.trans after) empty
  · have same := stuck.same k (later.trans after)
    omega

theorem taken (stuck : run.Stuck n) (later : n ≤ m) (begins : run.event m = .begin) :
    (run.state m).isRunning = true := by
  have steps := run.steps m
  have never : (run.state (m + 1)).flushes (run.state m).begun ≠ some .polling :=
    stuck.not_polling (later.trans (Nat.le_succ m))
  rw [begins] at steps
  generalize run.state (m + 1) = next at *
  cases steps with
  | givesUp waiting taken => exact taken
  | begins waiting free => exact absurd (Function.update_self ..) never

theorem released (stuck : run.Stuck n) : ∃ m, n ≤ m ∧ (run.state m).isRunning = false := by
  cases running : (run.state n).isRunning with
  | false => exact ⟨n, Nat.le_refl n, running⟩
  | true =>
    have exclusive := (run.inv n).exclusive
    rw [running] at exclusive
    obtain ⟨holder, only⟩ := exclusive
    obtain ⟨stage, found, holds⟩ := (only holder).mpr rfl
    cases stage with
    | polling => exact absurd found (stuck.not_polling (Nat.le_refl n))
    | running runnable =>
      obtain ⟨k, after, -, finishing, -⟩ := run.next_step found
      obtain ⟨l, later, -, reset⟩ := run.next_step finishing
      exact ⟨l + 1, by omega, reset⟩
    | finishing =>
      obtain ⟨k, after, -, reset⟩ := run.next_step found
      exact ⟨k + 1, by omega, reset⟩
    | checking | scheduling => cases holds

theorem stays (stuck : run.Stuck n) {k : Nat} (after : n ≤ m) (free : (run.state m).isRunning = false) (later : m ≤ k) :
    (run.state k).isRunning = false := by
  induction later with
  | refl => exact free
  | @step k later ih =>
    have steps := run.steps k
    have taken := stuck.taken (after.trans later)
    rw [ih] at taken
    generalize run.event k = event at *
    generalize run.state (k + 1) = next at *
    cases steps with
    | begins => simp at taken
    | releases => rfl
    | _ => exact ih

theorem submitted (stuck : run.Stuck n) (after : n ≤ m) (free : (run.state m).isRunning = false) :
    ∃ k, m ≤ k ∧ 0 < (run.state k).submitted := by
  have scheduled : ∀ {k flush}, m ≤ k → (run.state k).flushes flush = some .scheduling →
      ∃ k, m ≤ k ∧ 0 < (run.state k).submitted := by
    intro k flush later found
    obtain ⟨l, further, -, submits⟩ := run.next_step found
    exact ⟨l + 1, by omega, submits⟩
  rcases (run.inv m).served (stuck.more m after) with submitted | dispatching | ⟨flush, some⟩
  · exact ⟨m, Nat.le_refl m, submitted⟩
  · obtain ⟨k, later, executes⟩ := run.executes m dispatching
    have steps := run.steps k
    rw [executes] at steps
    refine ⟨k + 1, by omega, ?_⟩
    generalize run.state (k + 1) = next at *
    cases steps with
    | executes => exact Nat.succ_pos _
  · obtain ⟨stage, found⟩ := Option.ne_none_iff_exists'.mp some
    cases stage with
    | polling | running | finishing =>
      have holds := ((run.inv m).exclusive.holder ⟨_, found, rfl⟩).1
      rw [free] at holds
      cases holds
    | checking =>
      obtain ⟨k, later, -, empty | scheduling⟩ := run.next_step found
      · exact absurd empty (stuck.more k (after.trans later))
      · exact scheduled (by omega) scheduling
    | scheduling => exact scheduled (Nat.le_refl m) found

end Stuck

theorem not_stuck : ¬ run.Stuck n := by
  intro stuck
  obtain ⟨m, after, free⟩ := stuck.released
  obtain ⟨k, later, submitted⟩ := stuck.submitted after free
  obtain ⟨l, further, begins⟩ := run.begins k submitted
  have taken := stuck.taken (after.trans (later.trans further)) begins
  rw [stuck.stays after free (later.trans further)] at taken
  cases taken

theorem takes (more : (run.state n).queue ≠ []) :
    ∃ m, n ≤ m ∧ (run.state n).started.length < (run.state m).started.length := by
  by_contra none
  have same : ∀ m, n ≤ m → (run.state m).started.length = (run.state n).started.length := by
    intro m later
    have grows := run.started_mono later
    have bounded : ¬ (run.state n).started.length < (run.state m).started.length := fun less => none ⟨m, later, less⟩
    omega
  have more' : ∀ m, n ≤ m → (run.state m).queue ≠ [] := by
    intro m later
    have total := run.added_eq n
    have total' := run.added_eq m
    have grows := run.added_mono later
    have positive := List.length_pos_iff.mpr more
    rw [same m later] at total'
    rw [← List.length_pos_iff]
    omega
  have same' : ∀ m, n ≤ m → (run.state (m + 1)).started.length = (run.state m).started.length := by
    intro m later
    rw [same m later, same (m + 1) (by omega)]
  exact not_stuck ⟨more', same'⟩

variable (run)

theorem starts {k : Nat} (added : k < (run.state n).added.length) : ∃ m, k < (run.state m).started.length := by
  generalize left : k + 1 - (run.state n).started.length = d
  induction d using Nat.strong_induction_on generalizing n with
  | _ d ih =>
    by_cases done : k < (run.state n).started.length
    · exact ⟨n, done⟩
    · have total := run.added_eq n
      have more : (run.state n).queue ≠ [] := List.length_pos_iff.mp (by omega)
      obtain ⟨m, later, grows⟩ := run.takes more
      have kept := run.added_mono later
      have fewer : k + 1 - (run.state m).started.length < d := by omega
      exact ih _ fewer (by omega) rfl

theorem ends {k : Nat} (added : k < (run.state n).added.length) : ∃ m, k < (run.state m).ended.length := by
  obtain ⟨m, started⟩ := run.starts added
  by_cases busy : ∃ flush runnable, (run.state m).flushes flush = some (.running runnable)
  · obtain ⟨flush, runnable, found⟩ := busy
    obtain ⟨l, later, still, -, ended⟩ := run.next_step found
    have last := congrArg List.length ((run.inv l).settled.busy flush runnable still)
    have grows := run.started_mono later
    simp only [List.length_append, List.length_map, List.length_singleton] at last
    exact ⟨l + 1, by omega⟩
  · have past := congrArg List.length ((run.inv m).settled.quiet fun flush runnable found =>
      busy ⟨flush, runnable, found⟩)
    rw [List.length_map] at past
    exact ⟨m, by omega⟩

end FairRun

/-! ## The queue -/

structure Serial (s : State α) : Prop where
  one_at_a_time : ∀ flush other runnable runnable', s.flushes flush = some (.running runnable) →
    s.flushes other = some (.running runnable') → flush = other
  /-- What has been started and what is in the queue are the runnables in the order in which they were added. -/
  order : s.started ++ s.queue = s.added
  ended : s.ended.map Prod.fst <+: s.started
  served : s.queue ≠ [] → Served s

theorem Inv.serial (inv : Inv s) : Serial s where
  one_at_a_time flush other runnable runnable' found found' :=
    ((inv.exclusive.holder ⟨_, found', rfl⟩).2 flush).mp ⟨_, found, rfl⟩
  order := inv.order
  ended := by
    by_cases busy : ∃ flush runnable, s.flushes flush = some (.running runnable)
    · obtain ⟨flush, runnable, found⟩ := busy
      rw [inv.settled.busy flush runnable found]
      exact List.prefix_append _ _
    · rw [inv.settled.quiet fun flush runnable found => busy ⟨flush, runnable, found⟩]
  served := inv.served

theorem serial_ordered_complete :
    (∀ log (s : State α), Runs step (fun _ _ => True) create log s → Serial s) ∧
      ∀ (run : FairRun α) (n k : Nat), k < (run.state n).added.length →
        ∃ m, k < (run.state m).ended.length := by
  constructor
  · intro log s runs
    exact (inv_of_runs runs).serial
  · intro run n k added
    exact run.ends added

/-- One runnable, which throws. -/
def once : Nat → Event Nat
  | 0 => .add 5
  | 1 => .execute
  | 2 => .begin
  | 3 => .advance 0
  | 4 => .ends 0 true
  | 5 => .advance 0
  | 6 => .advance 0
  | _ => .idle

def onceState : Nat → State Nat
  | 0 => create
  | n + 1 =>
    match step (onceState n) (once n) with
    | .ok (_, s) => s
    | .error _ => onceState n

theorem onceState_end (n : Nat) : onceState (n + 7) = onceState 7 := by
  induction n with
  | zero => rfl
  | succ n ih => exact ih

theorem onceState_flushes (n flush : Nat) (other : flush ≠ 0) : (onceState n).flushes flush = none := by
  match n with
  | 0 | 1 | 2 => rfl
  | 3 | 4 | 5 | 6 =>
    simp [onceState, once, step, create, State.dispatch, State.compareAndSet, State.setFlush, State.poll, other]
  | n + 7 =>
    rw [onceState_end]
    simp [onceState, once, step, create, State.dispatch, State.compareAndSet, State.setFlush, State.poll, State.check]

def onceRun : FairRun Nat where
  state := onceState
  event := once
  init := rfl
  stepped n := by
    match n with
    | 0 | 1 | 2 | 3 | 4 | 5 | 6 => rfl
    | n + 7 => rfl
  begins n waiting := by
    match n with
    | 2 => exact ⟨2, by omega, rfl⟩
    | 0 | 1 | 3 | 4 | 5 | 6 => exact absurd waiting (by decide)
    | n + 7 =>
      rw [onceState_end] at waiting
      exact absurd waiting (by decide)
  executes n between := by
    match n with
    | 1 => exact ⟨1, by omega, rfl⟩
    | 0 | 2 | 3 | 4 | 5 | 6 => exact absurd between (by decide)
    | n + 7 =>
      rw [onceState_end] at between
      exact absurd between (by decide)
  advances n flush some := by
    by_cases first : flush = 0
    · subst first
      match n with
      | 0 | 1 | 2 => exact absurd rfl some
      | 3 => exact ⟨3, by omega, rfl⟩
      | 4 => exact ⟨4, by omega, rfl⟩
      | 5 => exact ⟨5, by omega, rfl⟩
      | 6 => exact ⟨6, by omega, rfl⟩
      | n + 7 =>
        rw [onceState_end] at some
        exact absurd rfl some
    · exact absurd (onceState_flushes n flush first) some

/-- Two dispatches, of which the second finds the first one running: its flush gives up. -/
def contended : List (Event Nat) :=
  [.add 5, .execute, .begin, .add 7, .execute, .begin, .advance 0, .ends 0 true, .advance 0, .advance 0]

theorem serial_ordered_complete_examples :
    (∃ log s, Runs step (fun _ _ => True) create log s ∧ s.queue = [7] ∧ s.submitted = 0 ∧ Serial (α := Nat) s) ∧
      ∃ m, 0 < (onceRun.state m).ended.length := by
  obtain ⟨safe, lively⟩ := serial_ordered_complete (α := Nat)
  constructor
  · obtain ⟨⟨log, s⟩, ran⟩ : ∃ result, run step create contended = .ok result := ⟨_, rfl⟩
    have runs : Runs step (fun _ _ => True) create log s := runs_of_run (fun _ _ _ => trivial) ran
    have last : s.queue = [7] ∧ s.submitted = 0 := by
      cases ran
      exact ⟨rfl, rfl⟩
    exact ⟨log, s, runs, last.1, last.2, safe log s runs⟩
  · exact lively onceRun 1 0 (by decide)

end SerialTaskQueue

end FlutterZero.Platform.Android
