import FlutterZero.Lib.Machine

/-! # An event that resets itself

`AutoResetWaitableEvent` (`waitable_event.cc`) is a flag behind a mutex, and a condition variable.

A step is a critical section: a call up to the wait on `cv_`, or what a thread does from there to the next wait
or to its return.  A thread may wake up with or without a notification, and `wait_for` may report a timeout even
to the thread that `notify_one` has picked.

* `Turn` — what a step can do;
* `answered_of_runs` — each return as signalled is matched by a call of `Signal`;
* `losesNoSignal_iff` — a signal is lost exactly by a timeout of the only thread that was picked.
-/

namespace FlutterZero.Fml.AutoResetWaitableEvent

open FlutterZero.Lib

/-- A thread in a wait on `cv_`. -/
structure Waiter (Thread : Type) where
  thread : Thread
  /-- In `WaitWithTimeout`. -/
  timed : Bool
  /-- Picked by `notify_one`, and not awake yet. -/
  notified : Bool
deriving DecidableEq, Repr

structure State (Thread : Type) where
  signaled : Bool
  waiters : List (Waiter Thread)
deriving DecidableEq, Repr

def create {Thread : Type} : State Thread := ⟨false, []⟩

inductive Op (Thread : Type) where
  /-- With the waiter that `notify_one` picks, if there is one. -/
  | signal (picked : Option Thread)
  | wait (thread : Thread)
  | waitWithTimeout (thread : Thread)
  /-- The wait on `cv_` ends without a timeout; whether `elapsed >= timeout`. -/
  | wake (thread : Thread) (elapsed : Bool)
  /-- `wait_for` reports a timeout. -/
  | timeout (thread : Thread)
deriving DecidableEq, Repr

inductive Output (Thread : Type) where
  | signals
  | blocks
  | returnsSignaled (thread : Thread)
  | returnsTimedOut (thread : Thread)
deriving DecidableEq, Repr

/-- Not a failure: a step that is not possible now. -/
inductive Impossible where
  | noSuchWaiter
  | isBlocked
deriving DecidableEq, Repr

variable {Thread : Type} [DecidableEq Thread]

/-! ## The source -/

namespace State

def find (s : State Thread) (thread : Thread) : Option (Waiter Thread) := s.waiters.find? (·.thread = thread)

def others (s : State Thread) (thread : Thread) : List (Waiter Thread) := s.waiters.filter (·.thread ≠ thread)

/-- `cv_.notify_one()` -/
def notifyOne (picked : Option Thread) (waiters : List (Waiter Thread)) : Except Impossible (List (Waiter Thread)) :=
  match picked with
  | none => if waiters.all (·.notified) then .ok waiters else .error .noSuchWaiter
  | some thread =>
    if waiters.any fun w => w.thread = thread && !w.notified then
      .ok (waiters.map fun w => if w.thread = thread then { w with notified := true } else w)
    else .error .noSuchWaiter

def signal (s : State Thread) (picked : Option Thread) : Except Impossible (Output Thread × State Thread) := do
  let waiters ← notifyOne picked s.waiters
  return (.signals, ⟨true, waiters⟩)

/-- `Wait` and `WaitWithTimeout` up to the wait on `cv_`. -/
def enter (s : State Thread) (thread : Thread) (timed : Bool) : Except Impossible (Output Thread × State Thread) :=
  if (s.find thread).isSome then .error .isBlocked
  else if s.signaled then .ok (.returnsSignaled thread, ⟨false, s.waiters⟩)
  else .ok (.blocks, { s with waiters := s.waiters ++ [⟨thread, timed, false⟩] })

def wake (s : State Thread) (thread : Thread) (elapsed : Bool) : Except Impossible (Output Thread × State Thread) :=
  match s.find thread with
  | none => .error .noSuchWaiter
  | some w =>
    if s.signaled then .ok (.returnsSignaled thread, ⟨false, s.others thread⟩)
    else if w.timed && elapsed then .ok (.returnsTimedOut thread, { s with waiters := s.others thread })
    else .ok (.blocks, { s with waiters := s.others thread ++ [⟨thread, w.timed, false⟩] })

/-- `return true;  // Definitely timed out.` -/
def timeout (s : State Thread) (thread : Thread) : Except Impossible (Output Thread × State Thread) :=
  match s.find thread with
  | none => .error .noSuchWaiter
  | some w =>
    if w.timed then .ok (.returnsTimedOut thread, { s with waiters := s.others thread })
    else .error .noSuchWaiter

end State

def step (s : State Thread) : Op Thread → Except Impossible (Output Thread × State Thread)
  | .signal picked => s.signal picked
  | .wait thread => s.enter thread false
  | .waitWithTimeout thread => s.enter thread true
  | .wake thread elapsed => s.wake thread elapsed
  | .timeout thread => s.timeout thread

/-! ## Lost signals -/

/-- The flag is set and a thread is blocked in `Wait`, but no blocked thread has been notified. -/
def Lost (s : State Thread) : Prop :=
  s.signaled = true ∧ (∃ w ∈ s.waiters, w.timed = false) ∧ ∀ w ∈ s.waiters, w.notified = false

/-- Not a timeout of the only waiter that has been notified, while the flag is set and a thread is blocked in
`Wait`. -/
def Kept (s : State Thread) : Op Thread → Prop
  | .timeout thread => ¬ (s.signaled = true ∧ (∃ w ∈ s.waiters, w.thread = thread ∧ w.notified = true) ∧
      (∃ w ∈ s.others thread, w.timed = false) ∧ ∀ w ∈ s.others thread, w.notified = false)
  | _ => True

abbrev Log (Thread : Type) : Type := List (Op Thread × Output Thread)

/-- `Signal` was called, and no wait has returned as signalled since. -/
def Pending (log : Log Thread) : Prop :=
  ∃ before picked after, log = before ++ (.signal picked, .signals) :: after ∧
    ∀ entry ∈ after, ∀ thread, entry.2 ≠ .returnsSignaled thread

/-- Before each return as signalled there is a call of `Signal`, with no other such return in between. -/
def Answered (log : Log Thread) : Prop :=
  ∀ before op thread after, log = before ++ (op, .returnsSignaled thread) :: after → Pending before

/-- Each call of `Signal` lets at most one wait return, and is not lost in any state that is reached. -/
structure LosesNoSignal (log : Log Thread) : Prop where
  answered : Answered log
  notLost : ∀ before s, before <+: log → Runs step (fun _ _ => True) create before s → ¬ Lost s

/-! ## Steps -/

/-- What a step does.  Only a call of `Signal` and a reported timeout leave the flag set. -/
inductive Turn (s : State Thread) : Op Thread → Output Thread → State Thread → Prop where
  | signal {picked : Option Thread} {waiters : List (Waiter Thread)}
    (notified : State.notifyOne picked s.waiters = .ok waiters) : Turn s (.signal picked) .signals ⟨true, waiters⟩
  | take {op : Op Thread} {thread : Thread} {waiters : List (Waiter Thread)} (signaled : s.signaled = true)
    (call : ∀ thread, op ≠ .timeout thread) : Turn s op (.returnsSignaled thread) ⟨false, waiters⟩
  | stay {op : Op Thread} {out : Output Thread} {waiters : List (Waiter Thread)} (unsignaled : s.signaled = false)
    (notSignaled : ∀ thread, out ≠ .returnsSignaled thread) (call : ∀ thread, op ≠ .timeout thread) :
    Turn s op out ⟨false, waiters⟩
  | timeout {thread : Thread} : Turn s (.timeout thread) (.returnsTimedOut thread) ⟨s.signaled, s.others thread⟩

variable {s s' : State Thread} {op : Op Thread} {out : Output Thread}

theorem turn_enter {thread : Thread} {timed : Bool} (entered : s.enter thread timed = .ok (out, s'))
    (call : ∀ thread, op ≠ .timeout thread) : Turn s op out s' := by
  unfold State.enter at entered
  split_ifs at entered with blocked signaled
  · cases entered
    exact .take signaled call
  · cases entered
    rw [Bool.not_eq_true] at signaled
    rw [signaled]
    exact .stay signaled nofun call

theorem turn_wake {thread : Thread} {elapsed : Bool} (woken : s.wake thread elapsed = .ok (out, s')) :
    Turn s (.wake thread elapsed) out s' := by
  unfold State.wake at woken
  split at woken
  · cases woken
  · split_ifs at woken with signaled
    · cases woken
      exact .take signaled nofun
    all_goals
      cases woken
      rw [Bool.not_eq_true] at signaled
      rw [signaled]
      exact .stay signaled nofun nofun

theorem turn_of_step (stepped : step s op = .ok (out, s')) : Turn s op out s' := by
  cases op with
  | signal picked =>
    obtain ⟨waiters, notified, same⟩ := bind_eq_ok.mp stepped
    cases same
    exact .signal notified
  | wait thread => exact turn_enter stepped nofun
  | waitWithTimeout thread => exact turn_enter stepped nofun
  | wake thread elapsed => exact turn_wake stepped
  | timeout thread =>
    simp only [step, State.timeout] at stepped
    split at stepped
    · cases stepped
    · split_ifs at stepped
      cases stepped
      exact .timeout

theorem exists_notified {picked : Option Thread} {before waiters : List (Waiter Thread)}
    (notified : State.notifyOne picked before = .ok waiters) (some : waiters ≠ []) :
    ∃ w ∈ waiters, w.notified = true := by
  cases picked with
  | none =>
    unfold State.notifyOne at notified
    split_ifs at notified with all
    cases notified
    obtain ⟨w, rest, rfl⟩ := List.exists_cons_of_ne_nil some
    exact ⟨w, List.mem_cons_self, List.all_eq_true.mp all w List.mem_cons_self⟩
  | some thread =>
    simp only [State.notifyOne] at notified
    split_ifs at notified with any
    cases notified
    obtain ⟨w, member, is⟩ := List.any_eq_true.mp any
    refine ⟨_, List.mem_map_of_mem member, ?_⟩
    rw [if_pos (of_decide_eq_true (Bool.and_eq_true_iff.mp is).1)]

theorem lost_iff_of_step (notLost : ¬ Lost s) (stepped : step s op = .ok (out, s')) : Lost s' ↔ ¬ Kept s op := by
  cases turn_of_step stepped with
  | signal notified =>
    refine iff_of_false ?_ (not_not_intro trivial)
    rintro ⟨-, ⟨w, member, -⟩, none⟩
    obtain ⟨picked, isWaiter, isNotified⟩ := exists_notified notified (List.ne_nil_of_mem member)
    rw [none picked isWaiter] at isNotified
    cases isNotified
  | take _ call =>
    refine iff_of_false nofun (not_not_intro ?_)
    cases op with
    | timeout thread => exact absurd rfl (call thread)
    | _ => trivial
  | stay _ _ call =>
    refine iff_of_false nofun (not_not_intro ?_)
    cases op with
    | timeout thread => exact absurd rfl (call thread)
    | _ => trivial
  | @timeout thread =>
    have mem_others {w : Waiter Thread} : w ∈ s.others thread ↔ w ∈ s.waiters ∧ w.thread ≠ thread := by
      simp [State.others]
    constructor
    · rintro ⟨signaled, ⟨w, member, inWait⟩, none⟩ kept
      -- Some waiter had been notified, and it is not among those that are left.
      have some : ∃ w ∈ s.waiters, w.notified = true := by
        by_contra noneBefore
        push Not at noneBefore
        simp only [Bool.not_eq_true] at noneBefore
        exact notLost ⟨signaled, ⟨w, (mem_others.mp member).1, inWait⟩, noneBefore⟩
      obtain ⟨picked, isWaiter, isNotified⟩ := some
      refine kept ⟨signaled, ⟨picked, isWaiter, ?_, isNotified⟩, ⟨w, member, inWait⟩, none⟩
      by_contra other
      cases (none picked (mem_others.mpr ⟨isWaiter, other⟩)).symm.trans isNotified
    · intro lossy
      obtain ⟨signaled, -, inWait, none⟩ := not_not.mp lossy
      exact ⟨signaled, inWait, none⟩

/-! ## Runs -/

variable {log : Log Thread}

omit [DecidableEq Thread] in
theorem Pending.append (pending : Pending log) {entry : Op Thread × Output Thread}
    (quiet : ∀ thread, entry.2 ≠ .returnsSignaled thread) : Pending (log ++ [entry]) := by
  obtain ⟨before, picked, after, rfl, none⟩ := pending
  refine ⟨before, picked, after ++ [entry], by simp, fun other member => ?_⟩
  rcases List.mem_append.mp member with inAfter | isLast
  · exact none other inAfter
  · exact List.mem_singleton.mp isLast ▸ quiet

omit [DecidableEq Thread] in
theorem Answered.append (answered : Answered log) {entry : Op Thread × Output Thread}
    (last : ∀ thread, entry.2 = .returnsSignaled thread → Pending log) : Answered (log ++ [entry]) := by
  intro before op thread after split
  rcases List.eq_nil_or_concat after with rfl | ⟨after, other, rfl⟩
  · obtain ⟨rfl, same⟩ := List.append_inj' split rfl
    exact last thread (congrArg Prod.snd (List.singleton_inj.mp same))
  · rw [List.concat_eq_append, ← List.cons_append, ← List.append_assoc] at split
    exact answered before op thread after (List.append_inj' split rfl).1

theorem answered_of_runs (runs : Runs step (fun _ _ => True) create log s) :
    Answered log ∧ (s.signaled = true → Pending log) := by
  induction runs with
  | start => exact ⟨fun before op thread after split => by simp at split, nofun⟩
  | next before _ stepped ih =>
    obtain ⟨answered, pending⟩ := ih
    cases turn_of_step stepped with
    | signal => exact ⟨answered.append nofun, fun _ => ⟨_, _, [], rfl, nofun⟩⟩
    | take signaled => exact ⟨answered.append fun _ _ => pending signaled, nofun⟩
    | stay _ notSignaled => exact ⟨answered.append fun thread same => absurd same (notSignaled thread), nofun⟩
    | timeout => exact ⟨answered.append nofun, fun signaled => (pending signaled).append nofun⟩

omit [DecidableEq Thread] in
theorem not_lost_create : ¬ Lost (create : State Thread) := nofun

theorem not_lost_of_kept (runs : Runs step Kept create log s) : ¬ Lost s :=
  runs.preserves not_lost_create fun _ _ _ _ notLost kept stepped lost =>
    (lost_iff_of_step notLost stepped).mp lost kept

theorem kept_of_not_lost (runs : Runs step (fun _ _ => True) create log s)
    (notLost : ∀ before s, before <+: log → Runs step (fun _ _ => True) create before s → ¬ Lost s) :
    Runs step Kept create log s := by
  induction runs with
  | start => exact .start
  | @next log s s' op out before _ stepped ih =>
    have kept := ih fun earlier s inLog => notLost earlier s (inLog.trans (List.prefix_append ..))
    have here : ¬ Lost s := notLost log s (List.prefix_append ..) before
    have next : ¬ Lost s' := notLost _ s' List.prefix_rfl (.next before trivial stepped)
    exact .next kept (not_not.mp fun lossy => next ((lost_iff_of_step here stepped).mpr lossy)) stepped

/-- A run loses no signal, if and only if it has no timeout of the only waiter that has been notified while the
flag is set and a thread is blocked in `Wait`. -/
theorem losesNoSignal_iff (runs : Runs step (fun _ _ => True) create log s) :
    LosesNoSignal log ↔ Runs step Kept create log s := by
  constructor
  · intro loses
    exact kept_of_not_lost runs loses.notLost
  · intro kept
    refine ⟨(answered_of_runs runs).1, fun before reached inLog reaches => ?_⟩
    obtain ⟨s', earlier⟩ := kept.of_prefix inLog
    exact earlier.unique reaches ▸ not_lost_of_kept earlier

/-- Thread 0 waits with a timeout and thread 1 without one; thread 0 is picked, and times out. -/
def timedOutWhenPicked : List (Op Nat) := [.waitWithTimeout 0, .wait 1, .signal (some 0), .timeout 0]

theorem not_losesNoSignal : ∃ (log : Log Nat) (s : State Nat), Runs step (fun _ _ => True) create log s ∧
    log.map Prod.fst = timedOutWhenPicked ∧ ¬ LosesNoSignal log := by
  have ran : run step create timedOutWhenPicked = .ok
      ([(.waitWithTimeout 0, .blocks), (.wait 1, .blocks), (.signal (some 0), .signals),
        (.timeout 0, .returnsTimedOut 0)], ⟨true, [⟨1, false, false⟩]⟩) := by rfl
  have runs := runs_of_run (fun _ _ _ => trivial) ran
  refine ⟨_, _, runs, rfl, fun loses => loses.notLost _ _ List.prefix_rfl runs ?_⟩
  exact ⟨rfl, ⟨_, List.mem_cons_self, rfl⟩, by simp⟩

/-- A thread that waits for a signal gets it. -/
theorem losesNoSignal_iff_picked : ∃ log : Log Nat, log.map Prod.fst = [.wait 1, .signal (some 1), .wake 1 false] ∧
    LosesNoSignal log := by
  have ran : run step create [.wait 1, .signal (some 1), .wake 1 false] = .ok
      ([(.wait 1, .blocks), (.signal (some 1), .signals), (.wake 1 false, .returnsSignaled 1)],
        (⟨false, []⟩ : State Nat)) := by rfl
  have runs : Runs step (fun _ _ => True) create _ _ := runs_of_run (fun _ _ _ => trivial) ran
  have kept : Runs step Kept create _ _ := runs_of_run (fun s op member => by
    simp only [List.mem_cons, List.not_mem_nil, or_false] at member
    rcases member with rfl | rfl | rfl <;> trivial) ran
  exact ⟨_, rfl, (losesNoSignal_iff runs).mpr kept⟩

end FlutterZero.Fml.AutoResetWaitableEvent
