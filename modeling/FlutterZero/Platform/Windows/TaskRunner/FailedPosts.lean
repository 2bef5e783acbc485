import FlutterZero.Platform.Windows.TaskRunner.WakeUps

/-! # `PostMessage` fails

`WakeUp` sets `wake_up_posted_` before it posts, and logs an error where `PostMessage` returns false.  Only the
handler of a message clears the flag.

What carries the proof is a count over whole runs: the messages that are queued, about to be posted or about to be
handled, and the failures so far, together are what the flag says.  So a failure leaves the flag set with no message
that will clear it, and no call of `WakeUp` posts after that.
-/

namespace FlutterZero.Platform.Windows

open FlutterZero.Lib

/-- Whether the flag will be cleared there. -/
def Frame.isHandleMessage {α : Type} : Frame α → Bool
  | .handleMessage => true
  | _ => false

/-- Whether the flag was set for the message that will be posted there. -/
def Call.isPostMessage {α : Type} : Call α → Bool
  | .postMessage => true
  | _ => false

def TimerThread.isPosting : TimerThread → Bool
  | .posting _ => true
  | _ => false

section

variable {α : Type}

@[simp] theorem Frame.isHandleMessage_handleMessage : (handleMessage : Frame α).isHandleMessage = true := rfl

@[simp] theorem Call.isPostMessage_enqueueTask (runner : Nat) (task : Task α) :
    (enqueueTask runner task).isPostMessage = false := rfl

@[simp] theorem Call.isPostMessage_wakeUp : (wakeUp : Call α).isPostMessage = false := rfl

@[simp] theorem Call.isPostMessage_postMessage : (postMessage : Call α).isPostMessage = true := rfl

end

namespace TaskRunnerWindow

variable {α : Type}

/-! ## Operations -/

/-- The operations of the window where `PostMessage` may fail. -/
inductive FallibleOp (α : Type) where
  | op (op : Op α)
  /-- The `PostMessage` of the call at a position returns false. -/
  | postMessageFails (i : Nat)
  /-- The `PostMessage` of the timer thread returns false. -/
  | timerPostMessageFails

/-- Whether a call of `PostMessage` fails. -/
def FallibleOp.fails : FallibleOp α → Bool
  | .op _ => false
  | _ => true

def postMessageFails (s : TaskRunnerWindow α) (i : Nat) : Except WindowFault (TaskRunnerWindow α) :=
  match s.calls[i]? with
  | some .postMessage => .ok { s with calls := s.calls.eraseIdx i }
  | _ => .error .notEnabled

def timerPostMessageFails (s : TaskRunnerWindow α) : Except WindowFault (TaskRunnerWindow α) :=
  match s.timerThread with
  | .posting scheduledCount => .ok { s with timerThread := .called scheduledCount }
  | _ => .error .notEnabled

def fallibleStep (s : TaskRunnerWindow α) : FallibleOp α → Except WindowFault (Unit × TaskRunnerWindow α)
  | .op op => s.step op
  | .postMessageFails i => do return ((), ← s.postMessageFails i)
  | .timerPostMessageFails => do return ((), ← s.timerPostMessageFails)

/-- `WakeUp` is called. -/
def callWakeUp (s : TaskRunnerWindow α) : TaskRunnerWindow α := { s with calls := s.calls ++ [.wakeUp] }

/-- A call of `WakeUp` with nothing in between, whose `PostMessage` succeeds if it is reached. -/
def wakeUp (s : TaskRunnerWindow α) : Except WindowFault (TaskRunnerWindow α) := do
  let exchanged ← s.callWakeUp.advanceCall s.calls.length
  match exchanged.calls[s.calls.length]? with
  | some .postMessage => exchanged.advanceCall s.calls.length
  | _ => return exchanged

def WakeUpPosts (s : TaskRunnerWindow α) : Prop := ∃ s', s.wakeUp = .ok s' ∧ s'.messages = s.messages + 1

theorem wakeUp_eq (s : TaskRunnerWindow α) :
    s.wakeUp = .ok { s with
      wakeUpPosted := true, messages := if s.wakeUpPosted then s.messages else s.messages + 1 } := by
  cases posted : s.wakeUpPosted with
  | true => simp [wakeUp, advanceCall, callWakeUp, posted]
  | false => simp [wakeUp, advanceCall, callWakeUp, posted]

theorem wakeUpPosts_iff (s : TaskRunnerWindow α) : s.WakeUpPosts ↔ s.wakeUpPosted = false := by
  unfold WakeUpPosts
  rw [wakeUp_eq]
  cases s.wakeUpPosted <;> simp

/-! ## The count -/

/-- The messages that are queued, about to be posted or about to be handled. -/
def sent (s : TaskRunnerWindow α) : Nat :=
  s.messages + s.mainThread.countP Frame.isHandleMessage + s.calls.countP Call.isPostMessage +
    s.timerThread.isPosting.toNat

theorem sent_eq_zero {s : TaskRunnerWindow α} (quiet : ¬ s.Waking) : s.sent = 0 := by
  have messages : s.messages = 0 := Nat.eq_zero_of_not_pos fun queued => quiet (.inl queued)
  have mainThread : s.mainThread.countP Frame.isHandleMessage = 0 := by
    rw [List.countP_eq_zero]
    intro frame inside handles
    cases frame with
    | handleMessage => exact quiet (.inr (.inl inside))
    | _ => cases handles
  have calls : s.calls.countP Call.isPostMessage = 0 := by
    rw [List.countP_eq_zero]
    intro call inside posts
    cases call with
    | postMessage => exact quiet (.inr (.inr (.inl inside)))
    | _ => cases posts
  have timerThread : s.timerThread.isPosting = false := by
    cases at_ : s.timerThread with
    | posting scheduledCount => exact absurd (.inr (.inr (.inr ⟨scheduledCount, at_⟩))) quiet
    | _ => rfl
  simp [sent, messages, mainThread, calls, timerThread]

/-- What the flag says, with `failures` failures so far. -/
def Balanced (failures : Nat) (s : TaskRunnerWindow α) : Prop := s.sent + failures = s.wakeUpPosted.toNat

namespace Balanced

variable {failures : Nat} {s s' : TaskRunnerWindow α}

theorem advanceCall (balanced : Balanced failures s) {i : Nat} (advanced : s.advanceCall i = .ok s') :
    Balanced failures s' := by
  unfold TaskRunnerWindow.advanceCall at advanced
  split at advanced <;> rename_i call
  · cases advanced
  all_goals
    obtain ⟨before, after, calls, rfl⟩ := exists_split_of_getElem? call
    simp only [Balanced, sent, calls, List.countP_append, List.countP_cons] at balanced
  · split at advanced <;> cases advanced
    simpa [Balanced, sent, setTaskQueue, calls, List.countP_cons] using balanced
  · split at advanced <;> rename_i posted <;> cases advanced
    · simpa [Balanced, sent, calls] using balanced
    · -- The flag was not set: nothing had been sent.
      rw [Bool.not_eq_true] at posted
      simp only [posted, Call.isPostMessage_wakeUp, Bool.toNat_false] at balanced
      simp only [Balanced, sent, calls, set_split, List.countP_append, List.countP_cons,
        Call.isPostMessage_postMessage, Bool.toNat_true, if_true]
      omega
  · cases advanced
    simp only [Call.isPostMessage_postMessage, if_true] at balanced
    simp only [Balanced, sent, calls, eraseIdx_split, List.countP_append]
    omega

theorem postMessageFails (balanced : Balanced failures s) {i : Nat} (failed : s.postMessageFails i = .ok s') :
    Balanced (failures + 1) s' := by
  unfold TaskRunnerWindow.postMessageFails at failed
  split at failed <;> rename_i call <;> cases failed
  obtain ⟨before, after, calls, rfl⟩ := exists_split_of_getElem? call
  simp only [Balanced, sent, calls, List.countP_append, List.countP_cons, Call.isPostMessage_postMessage,
    if_true] at balanced
  simp only [Balanced, sent, calls, eraseIdx_split, List.countP_append]
  omega

theorem advanceTimerThread (balanced : Balanced failures s) (advanced : s.advanceTimerThread = .ok s') :
    Balanced failures s' := by
  unfold TaskRunnerWindow.advanceTimerThread at advanced
  split at advanced <;> rename_i at_ <;> simp only [Balanced, sent, at_] at balanced
  · split at advanced <;> cases advanced
    exact balanced
  · split at advanced <;> rename_i posted <;> cases advanced
    · exact balanced
    · rw [Bool.not_eq_true] at posted
      simp only [posted, TimerThread.isPosting, Bool.toNat_false] at balanced
      simp only [Balanced, sent, TimerThread.isPosting, Bool.toNat_true]
      omega
  · cases advanced
    simp only [TimerThread.isPosting, Bool.toNat_true] at balanced
    simp only [Balanced, sent, TimerThread.isPosting, Bool.toNat_false]
    omega
  · split at advanced <;> cases advanced <;> exact balanced

theorem timerPostMessageFails (balanced : Balanced failures s) (failed : s.timerPostMessageFails = .ok s') :
    Balanced (failures + 1) s' := by
  unfold TaskRunnerWindow.timerPostMessageFails at failed
  split at failed <;> rename_i at_ <;> cases failed
  simp only [Balanced, sent, at_, TimerThread.isPosting, Bool.toNat_true] at balanced
  simp only [Balanced, sent, TimerThread.isPosting, Bool.toNat_false]
  omega

theorem handle (balanced : Balanced failures s) {rest : List (Frame α)} (next : Int) (delegates : List Nat)
    (at_ : s.mainThread = .handleMessage :: rest) :
    Balanced failures { s with wakeUpPosted := false, mainThread := .processTasks next delegates :: rest } := by
  have flag := Bool.toNat_le s.wakeUpPosted
  simp only [Balanced, sent, at_, List.countP_cons, Frame.isHandleMessage, if_true] at balanced
  simp only [Balanced, sent, List.countP_cons, Frame.isHandleMessage, Bool.toNat_false, Bool.false_eq_true, if_false]
  omega

theorem getMessage (balanced : Balanced failures s) (queued : 0 < s.messages) :
    Balanced failures { s with messages := s.messages - 1, mainThread := .handleMessage :: s.mainThread } := by
  simp only [Balanced, sent] at balanced
  simp only [Balanced, sent, List.countP_cons, Frame.isHandleMessage_handleMessage, if_true]
  omega

theorem advanceMainThread (balanced : Balanced failures s) (advanced : s.advanceMainThread = .ok s') :
    Balanced failures s' := by
  cases steps_of_advanceMainThread advanced with
  | post => simpa [Balanced, sent, Call.isPostMessage] using balanced
  | handle at_ => exact balanced.handle _ _ at_
  | enter at_ | pass at_ | setTimer at_ | collect at_ | fire at_ | leave at_ | schedule at_ | added at_ =>
    unfold Balanced sent at balanced
    rw [at_] at balanced
    simpa [Balanced, sent, TaskRunnerWindow.scheduleAt, TaskRunnerWindow.setTaskQueue, Frame.isHandleMessage]
      using balanced

theorem step (balanced : Balanced failures s) {op : Op α} {out : Unit} (stepped : s.step op = .ok (out, s')) :
    Balanced failures s' := by
  cases op with
  | advanceCall i =>
    obtain ⟨s₁, advanced, returned⟩ := bind_eq_ok.mp stepped
    cases returned
    exact balanced.advanceCall advanced
  | advanceTimerThread =>
    obtain ⟨s₁, advanced, returned⟩ := bind_eq_ok.mp stepped
    cases returned
    exact balanced.advanceTimerThread advanced
  | advanceMainThread =>
    obtain ⟨s₁, advanced, returned⟩ := bind_eq_ok.mp stepped
    cases returned
    exact balanced.advanceMainThread advanced
  | getMessage =>
    cases steps_of_step stepped with
    | post => simpa [Balanced, sent, Call.isPostMessage] using balanced
    | getMessage queued => exact balanced.getMessage queued
  | _ =>
    -- Neither the flag nor what has been sent is touched.
    cases steps_of_step stepped <;> simpa [Balanced, sent, Call.isPostMessage, Frame.isHandleMessage] using balanced

end Balanced

/-! ## Runs -/

/-- How many calls of `PostMessage` have failed. -/
def failures (log : List (FallibleOp α × Unit)) : Nat := log.countP fun entry => entry.1.fails

theorem balanced_of_runs {log : List (FallibleOp α × Unit)} {s : TaskRunnerWindow α}
    (runs : Runs fallibleStep (fun _ _ => True) create log s) : Balanced (failures log) s := by
  induction runs with
  | start => rfl
  | @next log s s' op out before _ stepped ih =>
    rw [failures, List.countP_append]
    cases op with
    | op op => exact ih.step stepped
    | postMessageFails i =>
      obtain ⟨s₁, failed, returned⟩ := bind_eq_ok.mp stepped
      cases returned
      exact ih.postMessageFails failed
    | timerPostMessageFails =>
      obtain ⟨s₁, failed, returned⟩ := bind_eq_ok.mp stepped
      cases returned
      exact ih.timerPostMessageFails failed

/-- In every state that a run reaches in which no message is queued, about to be posted or about to be handled, the next
    call of `WakeUp` posts one exactly where no `PostMessage` of the run has failed. -/
theorem wakeUpPosts_iff_of_runs {log : List (FallibleOp α × Unit)} {s : TaskRunnerWindow α}
    (runs : Runs fallibleStep (fun _ _ => True) create log s) (quiet : ¬ s.Waking) :
    s.WakeUpPosts ↔ ∀ entry ∈ log, entry.1.fails = false := by
  have balanced : s.sent + failures log = s.wakeUpPosted.toNat := balanced_of_runs runs
  rw [sent_eq_zero quiet, Nat.zero_add] at balanced
  have none_failed : failures log = 0 ↔ ∀ entry ∈ log, entry.1.fails = false := by
    simp [failures, List.countP_eq_zero]
  rw [wakeUpPosts_iff, ← none_failed, balanced, Bool.toNat_eq_zero]

/-- A task runner is created, and a task is posted whose `PostMessage` fails. -/
def postedInVain : List (FallibleOp Unit) :=
  [.op (.createTaskRunner 1), .op .advanceMainThread, .op (.postTask 1 ()), .op (.advanceCall 0), .op (.advanceCall 0),
    .postMessageFails 0]

theorem runs_postedInVain : ∃ log s, Runs fallibleStep (fun _ _ => True) (create : TaskRunnerWindow Unit) log s ∧
    s.messages = 0 ∧ s.mainThread = [] ∧ s.calls = [] ∧ s.timerThread = .waiting ∧ s.wakeUpPosted = true := by
  have ran : ∃ log s, run fallibleStep (create : TaskRunnerWindow Unit) postedInVain = .ok (log, s) ∧
      s.messages = 0 ∧ s.mainThread = [] ∧ s.calls = [] ∧ s.timerThread = .waiting ∧ s.wakeUpPosted = true :=
    ⟨_, _, rfl, rfl, rfl, rfl, rfl, rfl⟩
  obtain ⟨log, s, ran, ended⟩ := ran
  exact ⟨log, s, runs_of_run (fun _ _ _ => trivial) ran, ended⟩

theorem wakeUpPosts_iff_of_runs_postedInVain : ∃ log s,
    Runs fallibleStep (fun _ _ => True) (create : TaskRunnerWindow Unit) log s ∧ ¬ s.Waking ∧
    (s.WakeUpPosts ↔ ∀ entry ∈ log, entry.1.fails = false) := by
  obtain ⟨log, s, runs, messages, mainThread, calls, timerThread, _⟩ := runs_postedInVain
  have quiet : ¬ s.Waking := by simp [Waking, messages, mainThread, calls, timerThread]
  exact ⟨log, s, runs, quiet, wakeUpPosts_iff_of_runs runs quiet⟩

/-- After one failure the next call of `WakeUp` posts nothing, with no message queued, being handled or on its way. -/
theorem not_wakeUpPosts_after_failure : ¬ ∀ log (s : TaskRunnerWindow Unit),
    Runs fallibleStep (fun _ _ => True) create log s → ¬ s.MessageSent → ¬ s.Waking → s.WakeUpPosts := by
  intro always
  obtain ⟨log, s, runs, messages, mainThread, calls, timerThread, posted⟩ := runs_postedInVain
  have posts := always log s runs (by simp [MessageSent, messages, mainThread])
    (by simp [Waking, messages, mainThread, calls, timerThread])
  rw [wakeUpPosts_iff, posted] at posts
  cases posts

end TaskRunnerWindow

end FlutterZero.Platform.Windows
