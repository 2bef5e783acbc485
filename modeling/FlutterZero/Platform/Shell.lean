import Mathlib.Data.List.Basic
import FlutterZero.Lib.Machine

/-! # Platform messages while a shell starts

`Shell::Setup` and `Shell::OnEngineHandlePlatformMessage` (`shell.cc`): until a task that
`Setup` posts to the platform thread has run, a message from Dart travels from the UI thread
to the platform thread and back before it is handed to the platform message handler;
afterwards it is handed over at once.

Both threads run the tasks of their queues first in, first out.  The root isolate sends its
messages from within a task of the UI thread, any number of them in one task.  The shell, its
platform view and the handler stay alive.
-/

namespace FlutterZero.Platform

open FlutterZero.Lib

structure PlatformMessageHandler where
  doesHandlePlatformMessageOnPlatformThread : Bool
deriving DecidableEq, Repr

inductive PlatformTask (α : Type) where
  | other
  /-- Resets `route_messages_through_platform_thread_`. -/
  | stopRouting
  | routeMessage (message : α)
  /-- `view->HandlePlatformMessage`, when there is no handler. -/
  | viewHandles (message : α)
deriving DecidableEq, Repr

inductive UiTask (α : Type) where
  /-- A task of somebody else, in which the root isolate may send messages. -/
  | other
  /-- `platform_message_handler->HandlePlatformMessage` of a message that was routed. -/
  | handleMessage (message : α)
deriving DecidableEq, Repr

structure Shell (α : Type) where
  isSetUp : Bool
  platformMessageHandler : Option PlatformMessageHandler
  routeMessagesThroughPlatformThread : Bool
  platformTasks : List (PlatformTask α)
  uiTasks : List (UiTask α)
  /-- Whether the UI thread is in a task of somebody else. -/
  uiRunning : Bool
  /-- The messages passed to `OnEngineHandlePlatformMessage`. -/
  sent : List α
  /-- The messages passed to `PlatformMessageHandler::HandlePlatformMessage`. -/
  handled : List α
  /-- The messages passed to `PlatformView::HandlePlatformMessage`. -/
  handledByView : List α
deriving DecidableEq, Repr

inductive ShellFault where
  /-- A failed `FML_DCHECK`. -/
  | check
  /-- Not a failure: a step of a thread that is not possible now. -/
  | notEnabled
deriving DecidableEq, Repr

/-- What `Setup` uses of a platform view. -/
structure PlatformView where
  getPlatformMessageHandler : Option PlatformMessageHandler
deriving DecidableEq, Repr

namespace Shell

variable {α : Type}

def create : Shell α where
  isSetUp := false
  platformMessageHandler := none
  routeMessagesThroughPlatformThread := false
  platformTasks := []
  uiTasks := []
  uiRunning := false
  sent := []
  handled := []
  handledByView := []

/-- `hasEngine` says whether the given engine is not null. -/
def setup (s : Shell α) (platformView : Option PlatformView) (hasEngine : Bool) : Bool × Shell α :=
  if s.isSetUp then (false, s)
  else
    match platformView, hasEngine with
    | some platformView, true =>
      (true, { s with
        platformMessageHandler := platformView.getPlatformMessageHandler
        routeMessagesThroughPlatformThread := true
        platformTasks := s.platformTasks ++ [.stopRouting]
        isSetUp := true })
    | _, _ => (false, s)

def onEngineHandlePlatformMessage (s : Shell α) (message : α) : Except ShellFault (Shell α) :=
  -- The UI thread is the current thread when it is in a task of the isolate.
  if !s.isSetUp || !s.uiRunning then .error .check
  else
    let s := { s with sent := s.sent ++ [message] }
    match s.platformMessageHandler with
    | some platformMessageHandler =>
      if s.routeMessagesThroughPlatformThread &&
          !platformMessageHandler.doesHandlePlatformMessageOnPlatformThread then
        .ok { s with platformTasks := s.platformTasks ++ [.routeMessage message] }
      else .ok { s with handled := s.handled ++ [message] }
    | none => .ok { s with platformTasks := s.platformTasks ++ [.viewHandles message] }

def runPlatformTask (s : Shell α) : Except ShellFault (Shell α) :=
  match s.platformTasks with
  | [] => .error .notEnabled
  | .other :: rest => .ok { s with platformTasks := rest }
  | .stopRouting :: rest => .ok { s with platformTasks := rest, routeMessagesThroughPlatformThread := false }
  | .routeMessage message :: rest =>
    .ok { s with platformTasks := rest, uiTasks := s.uiTasks ++ [.handleMessage message] }
  | .viewHandles message :: rest =>
    .ok { s with platformTasks := rest, handledByView := s.handledByView ++ [message] }

/-- The UI thread, done with the last task, takes its next one. -/
def beginUiTask (s : Shell α) : Except ShellFault (Shell α) :=
  match s.uiRunning, s.uiTasks with
  | true, _ | false, [] => .error .notEnabled
  | false, .other :: rest => .ok { s with uiTasks := rest, uiRunning := true }
  | false, .handleMessage message :: rest => .ok { s with uiTasks := rest, handled := s.handled ++ [message] }

def endUiTask (s : Shell α) : Except ShellFault (Shell α) :=
  if s.uiRunning then .ok { s with uiRunning := false } else .error .notEnabled

/-! ## Operations -/

inductive Op (α : Type) where
  | setup (platformView : Option PlatformView) (hasEngine : Bool)
  | onEngineHandlePlatformMessage (message : α)
  | postPlatformTask
  | postUiTask
  | runPlatformTask
  | beginUiTask
  | endUiTask

/-- Answers with what `Setup` returns. -/
def step (s : Shell α) : Op α → Except ShellFault (Option Bool × Shell α)
  | .setup platformView hasEngine =>
    let (result, s) := s.setup platformView hasEngine
    .ok (some result, s)
  | .onEngineHandlePlatformMessage message => do return (none, ← s.onEngineHandlePlatformMessage message)
  | .postPlatformTask => .ok (none, { s with platformTasks := s.platformTasks ++ [.other] })
  | .postUiTask => .ok (none, { s with uiTasks := s.uiTasks ++ [.other] })
  | .runPlatformTask => do return (none, ← s.runPlatformTask)
  | .beginUiTask => do return (none, ← s.beginUiTask)
  | .endUiTask => do return (none, ← s.endUiTask)

/-! ## Messages on their way -/

end Shell

@[simp] def PlatformTask.routed {α : Type} : PlatformTask α → Option α
  | .routeMessage message => some message
  | _ => none

@[simp] def UiTask.routed {α : Type} : UiTask α → Option α
  | .handleMessage message => some message
  | .other => none

namespace Shell

variable {α : Type}

/-- The routed messages, those that are further on their way first. -/
def onTheWay (s : Shell α) : List α :=
  s.uiTasks.filterMap UiTask.routed ++ s.platformTasks.filterMap PlatformTask.routed

/-- A platform message handler exists that does not handle messages on the platform thread. -/
def HasHandler : Op α → Prop
  | .setup (some platformView) _ => platformView.getPlatformMessageHandler = some ⟨false⟩
  | _ => True

/-- A message is sent while messages are still routed, or when all routed ones have been handed over. -/
def NotOvertaking (s : Shell α) : Op α → Prop
  | .onEngineHandlePlatformMessage _ => s.routeMessagesThroughPlatformThread = true ∨ s.onTheWay = []
  | _ => True

instance (op : Op α) : Decidable (HasHandler op) :=
  match op with
  | .setup (some platformView) _ =>
    inferInstanceAs (Decidable (platformView.getPlatformMessageHandler = some ⟨false⟩))
  | .setup none _ => isTrue trivial
  | .onEngineHandlePlatformMessage _ => isTrue trivial
  | .postPlatformTask | .postUiTask | .runPlatformTask | .beginUiTask | .endUiTask => isTrue trivial

instance [DecidableEq α] (s : Shell α) (op : Op α) : Decidable (NotOvertaking s op) :=
  match op with
  | .onEngineHandlePlatformMessage _ =>
    inferInstanceAs (Decidable (s.routeMessagesThroughPlatformThread = true ∨ s.onTheWay = []))
  | .setup _ _ => isTrue trivial
  | .postPlatformTask | .postUiTask | .runPlatformTask | .beginUiTask | .endUiTask => isTrue trivial

/-- Neither messages nor other tasks are added: the threads run the tasks they have. -/
def OnlyRuns : Op α → Prop
  | .runPlatformTask | .beginUiTask | .endUiTask => True
  | _ => False

/-! ## The invariant -/

structure Ordered (s : Shell α) : Prop where
  handler : s.isSetUp = true → s.platformMessageHandler = some ⟨false⟩
  order : s.handled ++ s.onTheWay = s.sent

variable {s s' : Shell α}

theorem Ordered.send {message : α} (inv : Ordered s)
    (fair : s.routeMessagesThroughPlatformThread = true ∨ s.onTheWay = [])
    (sent : s.onEngineHandlePlatformMessage message = .ok s') : Ordered s' := by
  obtain ⟨handler, order⟩ := inv
  simp only [onEngineHandlePlatformMessage] at sent
  split at sent
  · cases sent
  · rename_i running
    have known := handler (by cases setUp : s.isSetUp <;> simp_all)
    cases route : s.routeMessagesThroughPlatformThread with
    | true =>
      simp only [known, route, Bool.not_false, Bool.and_self, if_true, Except.ok.injEq] at sent
      subst sent
      exact ⟨fun _ => rfl, by simp [onTheWay, ← order]⟩
    | false =>
      have empty : s.onTheWay = [] := by simpa [route] using fair
      simp only [known, route, Bool.false_and, Bool.false_eq_true, if_false, Except.ok.injEq] at sent
      subst sent
      refine ⟨fun _ => rfl, ?_⟩
      rw [empty, List.append_nil] at order
      simp only [onTheWay] at empty
      simp [onTheWay, empty, order]

theorem Ordered.runPlatformTask (inv : Ordered s) (ran : s.runPlatformTask = .ok s') : Ordered s' := by
  obtain ⟨handler, order⟩ := inv
  simp only [onTheWay] at order
  cases tasks : s.platformTasks with
  | nil => simp [Shell.runPlatformTask, tasks] at ran
  | cons task rest =>
    cases task <;> simp only [Shell.runPlatformTask, tasks, Except.ok.injEq] at ran <;> subst ran <;>
      exact ⟨handler, by simpa [onTheWay, tasks, List.filterMap_cons] using order⟩

theorem Ordered.beginUiTask (inv : Ordered s) (ran : s.beginUiTask = .ok s') : Ordered s' := by
  obtain ⟨handler, order⟩ := inv
  simp only [onTheWay] at order
  cases running : s.uiRunning with
  | true => simp [Shell.beginUiTask, running] at ran
  | false =>
    cases tasks : s.uiTasks with
    | nil => simp [Shell.beginUiTask, running, tasks] at ran
    | cons task rest =>
      cases task <;> simp only [Shell.beginUiTask, running, tasks, Except.ok.injEq] at ran <;> subst ran <;>
        exact ⟨handler, by simpa [onTheWay, tasks, List.filterMap_cons] using order⟩

theorem Ordered.setup {platformView : Option PlatformView} {hasEngine : Bool} (inv : Ordered s)
    (has : HasHandler (.setup platformView hasEngine : Op α)) : Ordered (s.setup platformView hasEngine).2 := by
  cases setUp : s.isSetUp with
  | true => simpa [Shell.setup, setUp] using inv
  | false =>
    cases platformView with
    | none => simpa [Shell.setup, setUp] using inv
    | some platformView =>
      cases hasEngine with
      | false => simpa [Shell.setup, setUp] using inv
      | true =>
        have known : platformView.getPlatformMessageHandler = some ⟨false⟩ := has
        refine ⟨fun _ => by simp [Shell.setup, setUp, known], ?_⟩
        simpa [Shell.setup, setUp, onTheWay, List.filterMap_cons] using inv.order

theorem Ordered.step {op : Op α} {out : Option Bool} (inv : Ordered s)
    (stepped : s.step op = .ok (out, s')) (has : HasHandler op) (fair : NotOvertaking s op) : Ordered s' := by
  cases op with
  | setup platformView hasEngine =>
    simp only [Shell.step, Except.ok.injEq, Prod.mk.injEq] at stepped
    exact stepped.2 ▸ inv.setup has
  | postPlatformTask =>
    simp only [Shell.step, Except.ok.injEq, Prod.mk.injEq] at stepped
    exact stepped.2 ▸ ⟨inv.handler, by simpa [onTheWay, List.filterMap_cons] using inv.order⟩
  | postUiTask =>
    simp only [Shell.step, Except.ok.injEq, Prod.mk.injEq] at stepped
    exact stepped.2 ▸ ⟨inv.handler, by simpa [onTheWay, List.filterMap_cons] using inv.order⟩
  | onEngineHandlePlatformMessage message =>
    obtain ⟨s₁, sent, returned⟩ := bind_eq_ok.mp stepped
    simp only [pure_eq_ok, Except.ok.injEq, Prod.mk.injEq] at returned
    exact returned.2 ▸ inv.send fair sent
  | runPlatformTask =>
    obtain ⟨s₁, ran, returned⟩ := bind_eq_ok.mp stepped
    simp only [pure_eq_ok, Except.ok.injEq, Prod.mk.injEq] at returned
    exact returned.2 ▸ inv.runPlatformTask ran
  | beginUiTask =>
    obtain ⟨s₁, ran, returned⟩ := bind_eq_ok.mp stepped
    simp only [pure_eq_ok, Except.ok.injEq, Prod.mk.injEq] at returned
    exact returned.2 ▸ inv.beginUiTask ran
  | endUiTask =>
    obtain ⟨s₁, ended, returned⟩ := bind_eq_ok.mp stepped
    simp only [pure_eq_ok, Except.ok.injEq, Prod.mk.injEq] at returned
    obtain ⟨_, rfl⟩ := returned
    simp only [Shell.endUiTask] at ended
    split at ended
    · simp only [Except.ok.injEq] at ended
      exact ended ▸ ⟨inv.handler, inv.order⟩
    · cases ended

/-! ## The threads run dry -/

/-- A task of the platform thread may become one of the UI thread, and that one may keep it busy. -/
def work (s : Shell α) : Nat := 3 * s.platformTasks.length + 2 * s.uiTasks.length + s.uiRunning.toNat

theorem exists_runPlatformTask (busy : s.platformTasks ≠ []) :
    ∃ s', s.runPlatformTask = .ok s' ∧ s'.work < s.work ∧ s'.sent = s.sent := by
  cases tasks : s.platformTasks with
  | nil => exact absurd tasks busy
  | cons task rest =>
    cases task <;> simp only [Shell.runPlatformTask, tasks] <;>
      exact ⟨_, rfl, by simp only [work, tasks, List.length_cons, List.length_append, List.length_nil]; omega, rfl⟩

theorem exists_beginUiTask (free : s.uiRunning = false) (busy : s.uiTasks ≠ []) :
    ∃ s', s.beginUiTask = .ok s' ∧ s'.work < s.work ∧ s'.sent = s.sent := by
  cases tasks : s.uiTasks with
  | nil => exact absurd tasks busy
  | cons task rest =>
    cases task <;> simp only [Shell.beginUiTask, free, tasks] <;>
      exact ⟨_, rfl, by
        simp only [work, free, tasks, List.length_cons, Bool.toNat_true, Bool.toNat_false]
        omega, rfl⟩

theorem exists_onlyRuns_step (busy : s.onTheWay ≠ []) :
    ∃ op s', OnlyRuns op ∧ s.step op = .ok (none, s') ∧ s'.work < s.work ∧ s'.sent = s.sent := by
  by_cases platform : s.platformTasks = []
  · cases running : s.uiRunning with
    | true =>
      exact ⟨.endUiTask, { s with uiRunning := false }, trivial, by simp [Shell.step, Shell.endUiTask, running],
        by simp [work, running], rfl⟩
    | false =>
      have ui : s.uiTasks ≠ [] := fun empty => busy (by simp [onTheWay, platform, empty])
      obtain ⟨s', ran, less, kept⟩ := exists_beginUiTask running ui
      exact ⟨.beginUiTask, s', trivial, by simp [Shell.step, ran], less, kept⟩
  · obtain ⟨s', ran, less, kept⟩ := exists_runPlatformTask platform
    exact ⟨.runPlatformTask, s', trivial, by simp [Shell.step, ran], less, kept⟩

theorem exists_onlyRuns (s : Shell α) : ∃ log s', Runs Shell.step (fun _ op => OnlyRuns op) s log s' ∧
    s'.onTheWay = [] ∧ s'.sent = s.sent := by
  induction n : s.work using Nat.strong_induction_on generalizing s with
  | _ n ih =>
    by_cases done : s.onTheWay = []
    · exact ⟨[], s, .start, done, rfl⟩
    · obtain ⟨op, s₁, runs, stepped, less, kept⟩ := exists_onlyRuns_step done
      obtain ⟨log, s', later, empty, kept'⟩ := ih s₁.work (n ▸ less) s₁ rfl
      exact ⟨(op, none) :: log, s', .cons runs stepped later, empty, kept'.trans kept⟩

theorem Ordered.onlyRuns {log : List (Op α × Option Bool)} (inv : Ordered s)
    (runs : Runs Shell.step (fun _ op => OnlyRuns op) s log s') : Ordered s' := by
  apply runs.preserves (P := Ordered) inv
  intro s op out s' inv only stepped
  -- Nothing is set up or sent by the threads themselves.
  cases op with
  | setup => cases only
  | onEngineHandlePlatformMessage => cases only
  | postPlatformTask => cases only
  | postUiTask => cases only
  | runPlatformTask => exact inv.step stepped trivial trivial
  | beginUiTask => exact inv.step stepped trivial trivial
  | endUiTask => exact inv.step stepped trivial trivial

/-! ## Messages keep their order -/

variable {log : List (Op α × Option Bool)} {s : Shell α}

/-- If no message overtakes another one, the messages are handled in the order in which they were sent: those
    that have not been handled yet are on their way, in this order, and arrive when the threads run. -/
theorem handled_in_order (runs : Runs Shell.step (fun s op => HasHandler op ∧ NotOvertaking s op) create log s) :
    s.handled ++ s.onTheWay = s.sent ∧
      ∃ later s', Runs Shell.step (fun _ op => OnlyRuns op) s later s' ∧ s'.handled = s.sent := by
  have inv : Ordered s := by
    apply runs.preserves (P := Ordered)
    · exact ⟨fun setUp => by simp [create] at setUp, rfl⟩
    · intro s op out s' inv met stepped
      exact inv.step stepped met.1 met.2
  refine ⟨inv.order, ?_⟩
  obtain ⟨later, s', ran, empty, kept⟩ := exists_onlyRuns s
  have order := (inv.onlyRuns ran).order
  rw [empty, List.append_nil, kept] at order
  exact ⟨later, s', ran, order⟩

/-- Two messages are sent in one task while they are routed, and a third one when both have arrived. -/
theorem handled_in_order_startup : ∃ (log : _) (s : Shell Nat),
    Runs Shell.step (fun s op => HasHandler op ∧ NotOvertaking s op) create log s ∧ s.handled = [1, 2, 3] ∧
    s.handled ++ s.onTheWay = s.sent := by
  have ran : ∃ log s, run (guarded Shell.step .notEnabled fun s op => decide (HasHandler op ∧ NotOvertaking s op))
      (create (α := Nat))
      [.setup (some ⟨some ⟨false⟩⟩) true, .postUiTask, .beginUiTask, .onEngineHandlePlatformMessage 1,
        .onEngineHandlePlatformMessage 2, .endUiTask, .runPlatformTask, .runPlatformTask, .runPlatformTask,
        .postUiTask, .beginUiTask, .beginUiTask, .beginUiTask, .onEngineHandlePlatformMessage 3] = .ok (log, s) ∧
      s.handled = [1, 2, 3] := ⟨_, _, rfl, rfl⟩
  obtain ⟨log, s, ran, handled⟩ := ran
  have runs : Runs Shell.step (fun s op => HasHandler op ∧ NotOvertaking s op) create log s :=
    runs_of_run_guarded (fun _ _ met => of_decide_eq_true met) ran
  exact ⟨log, s, runs, handled, (handled_in_order runs).1⟩

/-- A message that is sent when the flag has just been reset overtakes one that is still routed. -/
theorem not_handled_in_order : ¬ ∀ (log : _) (s : Shell Nat),
    Runs Shell.step (fun _ op => HasHandler op) create log s → s.handled <+: s.sent := by
  intro always
  have ran : ∃ log s, run (guarded Shell.step .notEnabled fun _ op => decide (HasHandler op)) (create (α := Nat))
      [.setup (some ⟨some ⟨false⟩⟩) true, .postUiTask, .beginUiTask, .onEngineHandlePlatformMessage 1,
        .runPlatformTask, .onEngineHandlePlatformMessage 2] = .ok (log, s) ∧
      s.handled = [2] ∧ s.sent = [1, 2] := ⟨_, _, rfl, rfl, rfl⟩
  obtain ⟨log, s, ran, handled, sent⟩ := ran
  have order := always log s (runs_of_run_guarded (fun _ _ met => of_decide_eq_true met) ran)
  rw [handled, sent] at order
  simp at order

end Shell

end FlutterZero.Platform
