import FlutterZero.Lib.Calls
import FlutterZero.Platform.Windows.TaskRunner

/-! # No wake-up is lost on Windows

Whatever the interleaving of the posts, the timer thread and the main thread, a task in the queue
of a task runner is seen to: a message is queued or being handled, a post is about to wake up the
main thread, or the timer thread is armed, and not about to be parked.

What carries the proof is one statement for each task.  While a message is handled, a task runner
is either still to be asked for its next deadline, or the minimum so far is not after the deadline
of each of its tasks, unless somebody has begun to wake up the main thread since.

The end of the range of the clock is the time at which the timer thread is parked.  `SetTimer` limits
what it asks for to this time: a task that is due only there is not seen to.
-/

namespace FlutterZero.Platform.Windows

open FlutterZero.Lib

namespace Frame

variable {α : Type}

/-- Whether the main thread is handling a `WM_NULL` there. -/
def handlesMessage : Frame α → Bool
  | .addDelegate _ => false
  | _ => true

/-- Whether the end of the handling sees to a task in the queue of a runner. -/
def Covers (now : Nat) (runner : Nat) (task : Task α) : Frame α → Prop
  | .handleMessage => True
  | .processTasks next delegates => runner ∈ delegates ∨ next ≤ task.fireTime
  | .collect next delegates current _ => runner = current ∨ runner ∈ delegates ∨ next ≤ task.fireTime
  | .fire next delegates current _ _ _ => runner = current ∨ runner ∈ delegates ∨ next ≤ task.fireTime
  | .scheduleAt timePoint => timePoint ≤ task.fireTime + now
  | .addDelegate _ => False

end Frame

namespace TimerThread

def callsBack : TimerThread → Bool
  | .calling _ => true
  | .posting _ => true
  | _ => false

def scheduledCount : TimerThread → Option Nat
  | .waiting => none
  | .calling scheduledCount => some scheduledCount
  | .posting scheduledCount => some scheduledCount
  | .called scheduledCount => some scheduledCount

end TimerThread

namespace TaskRunnerWindow

variable {α : Type}

/-- A `WM_NULL` message is queued or being handled. -/
def MessageSent (s : TaskRunnerWindow α) : Prop :=
  0 < s.messages ∨ ∃ frame ∈ s.mainThread, frame.handlesMessage = true

/-- A post has pushed its task and not yet finished its `WakeUp`. -/
def PostInProgress (s : TaskRunnerWindow α) : Prop := .wakeUp ∈ s.calls ∨ .postMessage ∈ s.calls

/-- The timer thread is armed at a finite time and will not be parked before it calls its callback, or about to
    call it. -/
def TimerArmed (s : TaskRunnerWindow α) : Prop :=
  s.timerThread.callsBack = true ∨
    s.nextFireTime < kMaxNanoseconds ∧ s.timerThread ≠ .called s.scheduleCounter

def Waking (s : TaskRunnerWindow α) : Prop :=
  0 < s.messages ∨ .handleMessage ∈ s.mainThread ∨ .postMessage ∈ s.calls ∨
    ∃ scheduledCount, s.timerThread = .posting scheduledCount

def Covered (s : TaskRunnerWindow α) (runner : Nat) (task : Task α) : Prop :=
  s.Waking ∨ .wakeUp ∈ s.calls ∨ s.TimerArmed ∨ ∃ frame ∈ s.mainThread, frame.Covers s.now runner task

/-- The invariant.  `flag` is about `wake_up_posted_`. -/
structure Inv (s : TaskRunnerWindow α) : Prop where
  distinct : (s.delegates.map TaskRunner.id).Nodup
  flag : s.wakeUpPosted = true → s.Waking
  count : ∀ scheduledCount, s.timerThread.scheduledCount = some scheduledCount → scheduledCount ≤ s.scheduleCounter
  covered : ∀ delegate ∈ s.delegates, ∀ task ∈ delegate.taskQueue.items,
    task.fireTime + s.now < kMaxNanoseconds → s.Covered delegate.id task

/-! ## Steps -/

inductive Steps (s : TaskRunnerWindow α) : Op α → TaskRunnerWindow α → Prop where
  | tick (nanos : Nat) : Steps s (.tick nanos) { s with now := s.now + nanos }
  | post {op : Op α} {runner : Nat} {task : Task α} {globalTaskOrder : Nat} :
    Steps s op { s with globalTaskOrder := globalTaskOrder, calls := s.calls ++ [.enqueueTask runner task] }
  | create {id : Nat} (fresh : s.find id = none) (timePoint : Int) :
    Steps s (.createTaskRunner id) { s with
      delegates := s.delegates ++ [⟨id, .empty⟩], mainThread := .addDelegate timePoint :: s.mainThread }
  | destroy {id : Nat} :
    Steps s (.destroyTaskRunner id) { s with delegates := s.delegates.filter fun delegate => delegate.id ≠ id }
  | getMessage (queued : 0 < s.messages) :
    Steps s .getMessage { s with messages := s.messages - 1, mainThread := .handleMessage :: s.mainThread }
  | push {i : Nat} {runner : Nat} {task : Task α} {delegate : TaskRunner α}
    (call : s.calls[i]? = some (.enqueueTask runner task)) (found : s.find runner = some delegate) :
    Steps s (.advanceCall i)
      { s.setTaskQueue runner (delegate.taskQueue.push task) with calls := s.calls.set i .wakeUp }
  | skip {i : Nat} (call : s.calls[i]? = some .wakeUp) (posted : s.wakeUpPosted = true) :
    Steps s (.advanceCall i) { s with calls := s.calls.eraseIdx i }
  | exchange {i : Nat} (call : s.calls[i]? = some .wakeUp) :
    Steps s (.advanceCall i) { s with wakeUpPosted := true, calls := s.calls.set i .postMessage }
  | postMessage {i : Nat} (call : s.calls[i]? = some .postMessage) :
    Steps s (.advanceCall i) { s with messages := s.messages + 1, calls := s.calls.eraseIdx i }
  | timerFires (at_ : s.timerThread = .waiting) :
    Steps s .advanceTimerThread { s with timerThread := .calling s.scheduleCounter }
  | timerSkips {scheduledCount : Nat} (at_ : s.timerThread = .calling scheduledCount) (posted : s.wakeUpPosted = true) :
    Steps s .advanceTimerThread { s with timerThread := .called scheduledCount }
  | timerExchanges {scheduledCount : Nat} (at_ : s.timerThread = .calling scheduledCount) :
    Steps s .advanceTimerThread { s with wakeUpPosted := true, timerThread := .posting scheduledCount }
  | timerPosts {scheduledCount : Nat} (at_ : s.timerThread = .posting scheduledCount) :
    Steps s .advanceTimerThread { s with messages := s.messages + 1, timerThread := .called scheduledCount }
  | timerParks (at_ : s.timerThread = .called s.scheduleCounter) :
    Steps s .advanceTimerThread { s with nextFireTime := kMaxNanoseconds, timerThread := .waiting }
  | timerStays {scheduledCount : Nat} (at_ : s.timerThread = .called scheduledCount) :
    Steps s .advanceTimerThread { s with timerThread := .waiting }
  | handle {rest : List (Frame α)} (at_ : s.mainThread = .handleMessage :: rest) :
    Steps s .advanceMainThread { s with
      wakeUpPosted := false
      mainThread := .processTasks kMaxNanoseconds (s.delegates.map TaskRunner.id) :: rest }
  | enter {next : Int} {runner : Nat} {delegates : List Nat} {rest : List (Frame α)}
    (at_ : s.mainThread = .processTasks next (runner :: delegates) :: rest) :
    Steps s .advanceMainThread { s with mainThread := .collect next delegates runner s.now :: rest }
  | pass {next : Int} {runner : Nat} {delegates : List Nat} {rest : List (Frame α)}
    (at_ : s.mainThread = .processTasks next (runner :: delegates) :: rest) (removed : s.find runner = none) :
    Steps s .advanceMainThread { s with mainThread := .processTasks next delegates :: rest }
  | setTimer {next : Int} {rest : List (Frame α)} (at_ : s.mainThread = .processTasks next [] :: rest) :
    Steps s .advanceMainThread { s with mainThread := .scheduleAt (s.setTimer next) :: rest }
  | collect {next : Int} {runner now : Nat} {delegates : List Nat} {rest : List (Frame α)} {delegate : TaskRunner α}
    (at_ : s.mainThread = .collect next delegates runner now :: rest) (found : s.find runner = some delegate) :
    Steps s .advanceMainThread { s.setTaskQueue runner (popExpiredTasks delegate.taskQueue now) with
      mainThread := .fire next delegates runner now (expiredTasks delegate.taskQueue now) false :: rest }
  | fire {next : Int} {runner now : Nat} {delegates : List Nat} {rest : List (Frame α)}
    {expiredTasks expiredTasks' : List (Task α)} {running running' : Bool}
    (at_ : s.mainThread = .fire next delegates runner now expiredTasks running :: rest) :
    Steps s .advanceMainThread { s with
      mainThread := .fire next delegates runner now expiredTasks' running' :: rest }
  | leave {next duration : Int} {runner now : Nat} {delegates : List Nat} {rest : List (Frame α)}
    {delegate : TaskRunner α} {expiredTasks : List (Task α)} {running : Bool}
    (at_ : s.mainThread = .fire next delegates runner now expiredTasks running :: rest)
    (found : s.find runner = some delegate) (computed : durationToNext delegate.taskQueue now = .ok duration) :
    Steps s .advanceMainThread { s with mainThread := .processTasks (min next duration) delegates :: rest }
  | schedule {timePoint : Int} {rest : List (Frame α)} (at_ : s.mainThread = .scheduleAt timePoint :: rest) :
    Steps s .advanceMainThread { s.scheduleAt timePoint with mainThread := rest }
  | added {timePoint : Int} {rest : List (Frame α)} (at_ : s.mainThread = .addDelegate timePoint :: rest) :
    Steps s .advanceMainThread { s.scheduleAt timePoint with mainThread := rest }

variable {s s' : TaskRunnerWindow α} {runner : Nat}

theorem steps_of_enqueueTask {op : Op α} {variant : α} {fireTime : Int}
    (enqueued : s.enqueueTask runner variant fireTime = .ok s') : s.Steps op s' := by
  unfold enqueueTask at enqueued
  split at enqueued <;> cases enqueued
  exact .post

theorem steps_of_advanceCall {i : Nat} (advanced : s.advanceCall i = .ok s') : s.Steps (.advanceCall i) s' := by
  unfold advanceCall at advanced
  split at advanced <;> rename_i call
  · cases advanced
  · split at advanced <;> rename_i found
    · cases advanced
    · cases advanced
      exact .push call found
  · split at advanced <;> rename_i posted <;> cases advanced
    · exact .skip call posted
    · exact .exchange call
  · cases advanced
    exact .postMessage call

theorem steps_of_advanceTimerThread (advanced : s.advanceTimerThread = .ok s') : s.Steps .advanceTimerThread s' := by
  unfold advanceTimerThread at advanced
  split at advanced <;> rename_i at_
  · split at advanced <;> cases advanced
    exact .timerFires at_
  · split at advanced <;> rename_i posted <;> cases advanced
    · exact .timerSkips at_ posted
    · exact .timerExchanges at_
  · cases advanced
    exact .timerPosts at_
  · split at advanced <;> rename_i same <;> cases advanced
    · exact .timerParks (same.1 ▸ at_)
    · exact .timerStays at_

theorem steps_of_advanceMainThread (advanced : s.advanceMainThread = .ok s') : s.Steps .advanceMainThread s' := by
  unfold advanceMainThread at advanced
  split at advanced <;> rename_i at_
  · cases advanced
  · cases advanced
    exact .handle at_
  · split at advanced <;> rename_i known <;> cases advanced
    · exact .enter at_
    · exact .pass at_ (by simpa using known)
  · cases advanced
    exact .setTimer at_
  · split at advanced <;> rename_i found
    · cases advanced
    · cases advanced
      exact .collect at_ found
  · cases advanced
    exact .fire at_
  · cases advanced
    exact .fire at_
  · split at advanced <;> rename_i found
    · cases advanced
    · obtain ⟨duration, computed, returned⟩ := bind_eq_ok.mp advanced
      cases returned
      exact .leave at_ found computed
  · cases advanced
    exact .schedule at_
  · cases advanced
    exact .added at_

theorem steps_of_step {op : Op α} {out : Unit} (stepped : s.step op = .ok (out, s')) : s.Steps op s' := by
  cases op with
  | tick nanos =>
    obtain ⟨s₁, ticked, returned⟩ := bind_eq_ok.mp stepped
    cases returned
    unfold TaskRunnerWindow.tick at ticked
    split at ticked <;> cases ticked
    exact .tick nanos
  | postFlutterTask runner flutterTask flutterTargetTimeNanos currentTime =>
    obtain ⟨s₁, posted, returned⟩ := bind_eq_ok.mp stepped
    cases returned
    obtain ⟨fireTime, _, enqueued⟩ := bind_eq_ok.mp posted
    exact steps_of_enqueueTask enqueued
  | postTask runner closure =>
    obtain ⟨s₁, enqueued, returned⟩ := bind_eq_ok.mp stepped
    cases returned
    exact steps_of_enqueueTask enqueued
  | createTaskRunner id =>
    obtain ⟨s₁, created, returned⟩ := bind_eq_ok.mp stepped
    cases returned
    unfold createTaskRunner at created
    split at created <;> rename_i fresh <;> cases created
    exact .create (Option.isNone_iff_eq_none.mp (Bool.and_eq_true_iff.mp fresh).2) _
  | destroyTaskRunner id =>
    obtain ⟨s₁, destroyed, returned⟩ := bind_eq_ok.mp stepped
    cases returned
    unfold destroyTaskRunner at destroyed
    split at destroyed <;> cases destroyed
    exact .destroy
  | getMessage =>
    obtain ⟨s₁, got, returned⟩ := bind_eq_ok.mp stepped
    cases returned
    unfold TaskRunnerWindow.getMessage at got
    split at got <;> rename_i queued <;> cases got
    exact .getMessage (of_decide_eq_true (Bool.and_eq_true_iff.mp queued).2)
  | advanceCall i =>
    obtain ⟨s₁, advanced, returned⟩ := bind_eq_ok.mp stepped
    cases returned
    exact steps_of_advanceCall advanced
  | advanceTimerThread =>
    obtain ⟨s₁, advanced, returned⟩ := bind_eq_ok.mp stepped
    cases returned
    exact steps_of_advanceTimerThread advanced
  | advanceMainThread =>
    obtain ⟨s₁, advanced, returned⟩ := bind_eq_ok.mp stepped
    cases returned
    exact steps_of_advanceMainThread advanced

/-! ## Runners -/

variable {delegate : TaskRunner α}

theorem id_of_find (found : s.find runner = some delegate) : delegate.id = runner := by
  have same := List.find?_some found
  simpa using same

theorem mem_of_find (found : s.find runner = some delegate) : delegate ∈ s.delegates :=
  List.mem_of_find?_eq_some found

theorem eq_of_find (distinct : (s.delegates.map TaskRunner.id).Nodup)
    {delegate' : TaskRunner α} (found : s.find delegate.id = some delegate')
    (member : delegate ∈ s.delegates) : delegate = delegate' :=
  List.inj_on_of_nodup_map distinct member (mem_of_find found) (id_of_find found).symm

@[simp] theorem ids_setTaskQueue (s : TaskRunnerWindow α) (runner : Nat) (taskQueue : TaskQueue α) :
    (s.setTaskQueue runner taskQueue).delegates.map TaskRunner.id = s.delegates.map TaskRunner.id := by
  simp only [setTaskQueue, List.map_map]
  apply List.map_congr_left
  intro delegate _
  simp only [Function.comp_apply]
  split <;> rfl

theorem mem_setTaskQueue {taskQueue : TaskQueue α}
    {task : Task α} (member : delegate ∈ (s.setTaskQueue runner taskQueue).delegates)
    (queued : task ∈ delegate.taskQueue.items) :
    (∃ delegate' ∈ s.delegates, delegate'.id = delegate.id ∧ task ∈ delegate'.taskQueue.items) ∨
      delegate.id = runner ∧ task ∈ taskQueue.items := by
  simp only [setTaskQueue, List.mem_map] at member
  obtain ⟨delegate', member', rfl⟩ := member
  split at queued <;> rename_i same
  · refine .inr ⟨?_, queued⟩
    simp [same]
  · refine .inl ⟨delegate', member', ?_, queued⟩
    simp [same]

/-! ## What sees to a task -/

section Covered

variable {s : TaskRunnerWindow α} {runner : Nat} {task : Task α}

theorem Waking.main (waking : s.Waking) {frame frame' : Frame α} {rest : List (Frame α)}
    (at_ : s.mainThread = frame :: rest) (other : frame ≠ .handleMessage) :
    Waking { s with mainThread := frame' :: rest } := by
  rcases waking with queued | member | rest
  · exact .inl queued
  · rw [at_] at member
    exact .inr (.inl (List.mem_cons_of_mem _ ((List.mem_cons.mp member).resolve_left (Ne.symm other))))
  · exact .inr (.inr rest)

theorem Covered.main (covered : s.Covered runner task) {frame frame' : Frame α} {rest : List (Frame α)}
    (at_ : s.mainThread = frame :: rest) (other : frame ≠ .handleMessage)
    (covers : frame.Covers s.now runner task → frame'.Covers s.now runner task) :
    Covered { s with mainThread := frame' :: rest } runner task := by
  rcases covered with waking | posting | armed | ⟨frame₁, member, covers₁⟩
  · exact .inl (waking.main at_ other)
  · exact .inr (.inl posting)
  · exact .inr (.inr (.inl armed))
  · rw [at_] at member
    rcases List.mem_cons.mp member with rfl | member
    · exact .inr (.inr (.inr ⟨frame', List.mem_cons_self, covers covers₁⟩))
    · exact .inr (.inr (.inr ⟨frame₁, List.mem_cons_of_mem _ member, covers₁⟩))

theorem armed_scheduleAt {timePoint : Int}
    (count : ∀ scheduledCount, s.timerThread.scheduledCount = some scheduledCount → scheduledCount ≤ s.scheduleCounter)
    (finite : timePoint < kMaxNanoseconds ∨ s.TimerArmed) (mainThread : List (Frame α)) :
    TimerArmed { s.scheduleAt timePoint with mainThread := mainThread } := by
  have moved : s.timerThread ≠ .called (s.scheduleCounter + 1) := by
    intro called
    have bound := count (s.scheduleCounter + 1) (by simp [called, TimerThread.scheduledCount])
    omega
  simp only [TimerArmed, scheduleAt]
  rcases finite with finite | callsBack | ⟨finite, _⟩
  · refine .inr ⟨?_, moved⟩
    split <;> omega
  · exact .inl callsBack
  · refine .inr ⟨?_, moved⟩
    split <;> omega

theorem durationToNext_le {taskQueue : TaskQueue α} {now : Nat} {duration : Int}
    (computed : durationToNext taskQueue now = .ok duration) (queued : task ∈ taskQueue.items) :
    duration ≤ task.fireTime := by
  unfold durationToNext at computed
  cases first : taskQueue.top? with
  | none =>
    rw [PriorityQueue.top?_eq_none.mp first] at queued
    cases queued
  | some top =>
    have least : Task.NotAfter top task := PriorityQueue.top?_least first queued
    rw [Task.notAfter_iff] at least
    simp only [first] at computed
    split at computed <;> cases computed
    omega

end Covered

namespace Inv

variable {s : TaskRunnerWindow α}

theorem create : Inv (TaskRunnerWindow.create : TaskRunnerWindow α) := by
  constructor <;> simp [TaskRunnerWindow.create, TimerThread.scheduledCount]

theorem of_waking (inv : Inv s) {s' : TaskRunnerWindow α} (distinct : (s'.delegates.map TaskRunner.id).Nodup)
    (waking : s'.Waking) (timerThread : s'.timerThread.scheduledCount = s.timerThread.scheduledCount)
    (scheduleCounter : s'.scheduleCounter = s.scheduleCounter) : Inv s' where
  distinct := distinct
  flag _ := waking
  count scheduledCount read := by
    rw [scheduleCounter]
    exact inv.count scheduledCount (timerThread ▸ read)
  covered _ _ _ _ _ := .inl waking

theorem tick (inv : Inv s) (nanos : Nat) : Inv { s with now := s.now + nanos } where
  distinct := inv.distinct
  flag := inv.flag
  count := inv.count
  covered := by
    intro delegate member task queued near
    have near' : task.fireTime + (s.now + nanos : Nat) < kMaxNanoseconds := near
    rcases inv.covered delegate member task queued (by omega) with waking | posting | armed | ⟨frame, inside, covers⟩
    · exact .inl waking
    · exact .inr (.inl posting)
    · exact .inr (.inr (.inl armed))
    · refine .inr (.inr (.inr ⟨frame, inside, ?_⟩))
      cases frame with
      | scheduleAt timePoint =>
        have earlier : timePoint ≤ task.fireTime + s.now := covers
        change timePoint ≤ task.fireTime + (s.now + nanos : Nat)
        omega
      | _ => exact covers

/-! ### Calls -/

theorem post (inv : Inv s) (runner : Nat) (task : Task α) (globalTaskOrder : Nat) :
    Inv { s with globalTaskOrder := globalTaskOrder, calls := s.calls ++ [.enqueueTask runner task] } := by
  have grown : ∀ call ∈ s.calls, call ∈ s.calls ++ [.enqueueTask runner task] :=
    fun call member => List.mem_append_left _ member
  have waking : s.Waking → Waking { s with
      globalTaskOrder := globalTaskOrder, calls := s.calls ++ [.enqueueTask runner task] } :=
    Or.imp_right (Or.imp_right (Or.imp_left (grown _)))
  exact {
    distinct := inv.distinct
    flag := fun posted => waking (inv.flag posted)
    count := inv.count
    covered := fun delegate member task queued near =>
      (inv.covered delegate member task queued near).imp waking (Or.imp_left (grown _)) }

variable {i runner : Nat} {delegate : TaskRunner α}

theorem push (inv : Inv s) {task : Task α} (call : s.calls[i]? = some (.enqueueTask runner task)) :
    Inv { s.setTaskQueue runner (delegate.taskQueue.push task) with calls := s.calls.set i .wakeUp } := by
  obtain ⟨before, after, calls, rfl⟩ := exists_split_of_getElem? call
  have woken : .wakeUp ∈ s.calls.set before.length .wakeUp := by simp [calls]
  exact {
    distinct := by simpa using inv.distinct
    flag := by
      intro posted
      have waking : s.Waking := inv.flag posted
      simpa [Waking, setTaskQueue, calls] using waking
    count := inv.count
    covered := fun _ _ _ _ _ => .inr (.inl woken) }

theorem skip (inv : Inv s) (call : s.calls[i]? = some .wakeUp) (posted : s.wakeUpPosted = true) :
    Inv { s with calls := s.calls.eraseIdx i } := by
  obtain ⟨before, after, calls, rfl⟩ := exists_split_of_getElem? call
  have waking : s.Waking := inv.flag posted
  refine inv.of_waking inv.distinct ?_ rfl rfl
  simpa [Waking, calls] using waking

theorem exchange (inv : Inv s) (call : s.calls[i]? = some .wakeUp) :
    Inv { s with wakeUpPosted := true, calls := s.calls.set i .postMessage } := by
  obtain ⟨before, after, calls, rfl⟩ := exists_split_of_getElem? call
  exact inv.of_waking inv.distinct (.inr (.inr (.inl (by simp [calls])))) rfl rfl

theorem postMessage (inv : Inv s) : Inv { s with messages := s.messages + 1, calls := s.calls.eraseIdx i } :=
  inv.of_waking inv.distinct (.inl (Nat.succ_pos _)) rfl rfl

/-! ### The timer thread -/

theorem timerFires (inv : Inv s) (at_ : s.timerThread = .waiting) :
    Inv { s with timerThread := .calling s.scheduleCounter } where
  distinct := inv.distinct
  flag posted := by
    have waking : s.Waking := inv.flag posted
    simpa [Waking, at_] using waking
  count scheduledCount read := by
    cases read
    exact Nat.le_refl _
  covered _ _ _ _ _ := .inr (.inr (.inl (.inl rfl)))

theorem timerSkips (inv : Inv s) {scheduledCount : Nat} (at_ : s.timerThread = .calling scheduledCount)
    (posted : s.wakeUpPosted = true) : Inv { s with timerThread := .called scheduledCount } := by
  have waking : s.Waking := inv.flag posted
  refine inv.of_waking inv.distinct ?_ (by rw [at_]; rfl) rfl
  simpa [Waking, at_] using waking

theorem timerExchanges (inv : Inv s) {scheduledCount : Nat} (at_ : s.timerThread = .calling scheduledCount) :
    Inv { s with wakeUpPosted := true, timerThread := .posting scheduledCount } :=
  inv.of_waking inv.distinct (.inr (.inr (.inr ⟨scheduledCount, rfl⟩))) (by rw [at_]; rfl) rfl

theorem timerPosts (inv : Inv s) {scheduledCount : Nat} (at_ : s.timerThread = .posting scheduledCount) :
    Inv { s with messages := s.messages + 1, timerThread := .called scheduledCount } :=
  inv.of_waking inv.distinct (.inl (Nat.succ_pos _)) (by rw [at_]; rfl) rfl

theorem timerReturns (inv : Inv s) {scheduledCount : Nat} {nextFireTime : Int}
    (at_ : s.timerThread = .called scheduledCount)
    (armed : s.TimerArmed → nextFireTime < kMaxNanoseconds) :
    Inv { s with nextFireTime := nextFireTime, timerThread := .waiting } := by
  have waking : s.Waking → Waking { s with nextFireTime := nextFireTime, timerThread := .waiting } := by
    intro waking
    simpa [Waking, at_] using waking
  exact {
    distinct := inv.distinct
    flag := fun posted => waking (inv.flag posted)
    count := fun _ read => nomatch read
    covered := by
      intro delegate member task queued near
      refine (inv.covered delegate member task queued near).imp waking (Or.imp_right (Or.imp_left ?_))
      intro before
      exact .inr ⟨armed before, fun called => nomatch called⟩ }

/-! ### The main thread -/

theorem createTaskRunner (inv : Inv s) {id : Nat} (fresh : s.find id = none) (timePoint : Int) :
    Inv { s with
      delegates := s.delegates ++ [⟨id, .empty⟩], mainThread := .addDelegate timePoint :: s.mainThread } := by
  have grown : ∀ frame ∈ s.mainThread, frame ∈ Frame.addDelegate timePoint :: s.mainThread :=
    fun frame member => List.mem_cons_of_mem _ member
  have waking : s.Waking → Waking { s with
      delegates := s.delegates ++ [⟨id, .empty⟩], mainThread := .addDelegate timePoint :: s.mainThread } :=
    Or.imp_right (Or.imp_left (grown _))
  exact {
    distinct := by
      rw [List.map_append, List.nodup_append]
      refine ⟨inv.distinct, List.nodup_singleton _, ?_⟩
      intro a known b new same
      obtain ⟨delegate, member, rfl⟩ := List.mem_map.mp known
      have other := List.find?_eq_none.mp fresh delegate member
      simp only [List.map_cons, List.map_nil, List.mem_singleton] at new
      exact other (by simp [same, new])
    flag := fun posted => waking (inv.flag posted)
    count := inv.count
    covered := by
      intro delegate member task queued near
      rcases List.mem_append.mp member with member | new
      · refine (inv.covered delegate member task queued near).imp waking (Or.imp_right (Or.imp_right ?_))
        rintro ⟨frame, inside, covers⟩
        exact ⟨frame, grown frame inside, covers⟩
      · rw [List.mem_singleton.mp new] at queued
        cases queued }

theorem destroyTaskRunner (inv : Inv s) (id : Nat) :
    Inv { s with delegates := s.delegates.filter fun delegate => delegate.id ≠ id } where
  distinct := inv.distinct.sublist (List.filter_sublist.map _)
  flag := inv.flag
  count := inv.count
  covered delegate member := inv.covered delegate (List.mem_of_mem_filter member)

theorem getMessage (inv : Inv s) :
    Inv { s with messages := s.messages - 1, mainThread := .handleMessage :: s.mainThread } :=
  inv.of_waking inv.distinct (.inr (.inl List.mem_cons_self)) rfl rfl

theorem handle (inv : Inv s) (rest : List (Frame α)) :
    Inv { s with
      wakeUpPosted := false
      mainThread := .processTasks kMaxNanoseconds (s.delegates.map TaskRunner.id) :: rest } where
  distinct := inv.distinct
  flag := fun posted => nomatch posted
  count := inv.count
  covered := by
    intro delegate member _ _ _
    exact .inr (.inr (.inr ⟨_, List.mem_cons_self, .inl (List.mem_map_of_mem member)⟩))

variable {rest : List (Frame α)}

theorem advance (inv : Inv s) {frame frame' : Frame α} (at_ : s.mainThread = frame :: rest)
    (other : frame ≠ .handleMessage) (covers : ∀ delegate ∈ s.delegates, ∀ task ∈ delegate.taskQueue.items,
      frame.Covers s.now delegate.id task → frame'.Covers s.now delegate.id task) :
    Inv { s with mainThread := frame' :: rest } where
  distinct := inv.distinct
  flag posted := (inv.flag posted).main at_ other
  count := inv.count
  covered delegate member task queued near :=
    (inv.covered delegate member task queued near).main at_ other (covers delegate member task queued)

variable {next : Int} {delegates : List Nat}

theorem pass (inv : Inv s)
    (at_ : s.mainThread = .processTasks next (runner :: delegates) :: rest) (removed : s.find runner = none) :
    Inv { s with mainThread := .processTasks next delegates :: rest } := by
  refine inv.advance at_ (fun same => nomatch same) ?_
  intro delegate member _ _
  refine Or.imp_left fun todo => (List.mem_cons.mp todo).resolve_left ?_
  intro same
  exact List.find?_eq_none.mp removed delegate member (by simp [same])

theorem collect (inv : Inv s) {now : Nat} {expiredTasks : List (Task α)}
    (at_ : s.mainThread = .collect next delegates runner now :: rest) (found : s.find runner = some delegate) :
    Inv { s.setTaskQueue runner (popExpiredTasks delegate.taskQueue now) with
      mainThread := .fire next delegates runner now expiredTasks false :: rest } := by
  have entered : Inv { s with mainThread := .fire next delegates runner now expiredTasks false :: rest } :=
    inv.advance at_ (fun same => nomatch same) fun _ _ _ _ covers => covers
  exact {
    distinct := by simpa using inv.distinct
    flag := entered.flag
    count := inv.count
    covered := by
      intro delegate₁ member task queued near
      rcases mem_setTaskQueue member queued with ⟨delegate₂, member₂, same, before⟩ | ⟨same, left_⟩
      · rw [← same]
        exact entered.covered delegate₂ member₂ task before near
      · have before : task ∈ delegate.taskQueue.items := (List.dropWhile_sublist _).mem left_
        have covered := entered.covered delegate (mem_of_find found) task before near
        rw [id_of_find found] at covered
        rw [same]
        exact covered }

theorem leave (inv : Inv s) {duration : Int} {now : Nat} {expiredTasks : List (Task α)} {running : Bool}
    (at_ : s.mainThread = .fire next delegates runner now expiredTasks running :: rest)
    (found : s.find runner = some delegate) (computed : durationToNext delegate.taskQueue now = .ok duration) :
    Inv { s with mainThread := .processTasks (min next duration) delegates :: rest } := by
  refine inv.advance at_ (fun same => nomatch same) ?_
  rintro delegate₁ member task queued (same | todo | before)
  · rw [← same] at found
    rw [eq_of_find inv.distinct found member] at queued
    exact .inr (Int.le_trans (Int.min_le_right _ _) (durationToNext_le computed queued))
  · exact .inl todo
  · exact .inr (Int.le_trans (Int.min_le_left _ _) before)

theorem setTimer (inv : Inv s) (at_ : s.mainThread = .processTasks next [] :: rest) :
    Inv { s with mainThread := .scheduleAt (s.setTimer next) :: rest } := by
  refine inv.advance at_ (fun same => nomatch same) ?_
  intro delegate _ task _ covers
  have deadline : next ≤ task.fireTime := covers.resolve_left List.not_mem_nil
  change s.now + min next (kMaxNanoseconds - s.now) ≤ task.fireTime + s.now
  omega

theorem schedule (inv : Inv s) {frame : Frame α} {timePoint : Int}
    (at_ : s.mainThread = frame :: rest) (other : frame ≠ .handleMessage)
    (covers : ∀ runner task, frame.Covers s.now runner task → timePoint ≤ task.fireTime + s.now) :
    Inv { s.scheduleAt timePoint with mainThread := rest } := by
  have waking : s.Waking → Waking { s.scheduleAt timePoint with mainThread := rest } := by
    rintro (queued | member | waking)
    · exact .inl queued
    · rw [at_] at member
      exact .inr (.inl ((List.mem_cons.mp member).resolve_left (Ne.symm other)))
    · exact .inr (.inr waking)
  exact {
    distinct := inv.distinct
    flag := fun posted => waking (inv.flag posted)
    count := fun scheduledCount read => Nat.le_succ_of_le (inv.count scheduledCount read)
    covered := by
      intro delegate member task queued near
      rcases inv.covered delegate member task queued near with before | posting | armed | ⟨frame₁, inside, covers₁⟩
      · exact .inl (waking before)
      · exact .inr (.inl posting)
      · exact .inr (.inr (.inl (armed_scheduleAt inv.count (.inr armed) rest)))
      · rw [at_] at inside
        rcases List.mem_cons.mp inside with rfl | inside
        · have finite : timePoint < kMaxNanoseconds := Int.lt_of_le_of_lt (covers _ _ covers₁) near
          exact .inr (.inr (.inl (armed_scheduleAt inv.count (.inl finite) rest)))
        · exact .inr (.inr (.inr ⟨frame₁, inside, covers₁⟩)) }

theorem step {s' : TaskRunnerWindow α} {op : Op α} (inv : Inv s) (steps : s.Steps op s') : Inv s' := by
  cases steps with
  | tick nanos => exact inv.tick nanos
  | post => exact inv.post _ _ _
  | create fresh timePoint => exact inv.createTaskRunner fresh timePoint
  | destroy => exact inv.destroyTaskRunner _
  | getMessage queued => exact inv.getMessage
  | push call found => exact inv.push call
  | skip call posted => exact inv.skip call posted
  | exchange call => exact inv.exchange call
  | postMessage call => exact inv.postMessage
  | timerFires at_ => exact inv.timerFires at_
  | timerSkips at_ posted => exact inv.timerSkips at_ posted
  | timerExchanges at_ => exact inv.timerExchanges at_
  | timerPosts at_ => exact inv.timerPosts at_
  | timerParks at_ =>
    -- The counter has not moved since the callback: what it sent sees to every task.
    refine inv.timerReturns at_ ?_
    rintro (calling | ⟨_, moved⟩)
    · rw [at_] at calling
      cases calling
    · exact absurd at_ moved
  | timerStays at_ =>
    refine inv.timerReturns at_ ?_
    rintro (calling | ⟨finite, _⟩)
    · rw [at_] at calling
      cases calling
    · exact finite
  | handle at_ => exact inv.handle _
  | enter at_ =>
    refine inv.advance at_ (fun same => nomatch same) ?_
    rintro _ _ _ _ (todo | before)
    · exact (List.mem_cons.mp todo).imp_right .inl
    · exact .inr (.inr before)
  | pass at_ removed => exact inv.pass at_ removed
  | setTimer at_ => exact inv.setTimer at_
  | collect at_ found => exact inv.collect at_ found
  | fire at_ => exact inv.advance at_ (fun same => nomatch same) fun _ _ _ _ covers => covers
  | leave at_ found computed => exact inv.leave at_ found computed
  | schedule at_ => exact inv.schedule at_ (fun same => nomatch same) fun _ _ covers => covers
  | added at_ => exact inv.schedule at_ (fun same => nomatch same) fun _ _ covers => nomatch covers

end Inv

/-! ## Runs -/

theorem inv_of_runs {log : List (Op α × Unit)} (runs : Runs step (fun _ _ => True) create log s) : Inv s :=
  runs.preserves (P := Inv) Inv.create fun _ _ _ _ inv _ stepped => inv.step (steps_of_step stepped)

theorem Covered.seen {task : Task α} (covered : s.Covered runner task) :
    s.MessageSent ∨ s.PostInProgress ∨ s.TimerArmed := by
  rcases covered with waking | waking | armed | ⟨frame, inside, covers⟩
  · rcases waking with queued | handled | posting | ⟨scheduledCount, posting⟩
    · exact .inl (.inl queued)
    · exact .inl (.inr ⟨_, handled, rfl⟩)
    · exact .inr (.inl (.inr posting))
    · exact .inr (.inr (.inl (by rw [posting]; rfl)))
  · exact .inr (.inl (.inl waking))
  · exact .inr (.inr armed)
  · refine .inl (.inr ⟨frame, inside, ?_⟩)
    cases frame with
    | addDelegate timePoint => cases covers
    | _ => rfl

/-- In every run a task that is due before the end of the range of the clock, less the time that the clock shows, is
    seen to as long as it is in the queue of a task runner. -/
theorem seen_of_runs {log : List (Op α × Unit)} {s : TaskRunnerWindow α}
    (runs : Runs step (fun _ _ => True) create log s) :
    ∀ delegate ∈ s.delegates, ∀ task ∈ delegate.taskQueue.items, task.fireTime + s.now < kMaxNanoseconds →
      s.MessageSent ∨ s.PostInProgress ∨ s.TimerArmed :=
  fun delegate member task queued near => ((inv_of_runs runs).covered delegate member task queued near).seen

def postedAndLeft (flutterTargetTimeNanos : UInt64) : List (Op Unit) :=
  [.createTaskRunner 1, .advanceMainThread, .advanceTimerThread, .advanceTimerThread, .advanceTimerThread,
    .advanceTimerThread, .getMessage, .advanceMainThread, .advanceMainThread, .advanceMainThread, .advanceMainThread,
    .advanceMainThread, .advanceMainThread, .postFlutterTask 1 () flutterTargetTimeNanos 0, .advanceCall 0,
    .advanceCall 0, .advanceCall 0, .getMessage, .advanceMainThread, .advanceMainThread, .advanceMainThread,
    .advanceMainThread, .advanceMainThread, .advanceMainThread]

theorem seen_of_runs_delayed : ∃ log s, Runs step (fun _ _ => True) (create : TaskRunnerWindow Unit) log s ∧
    (∃ delegate ∈ s.delegates, delegate.taskQueue.items = [⟨1, 1000, ()⟩]) ∧
    (s.MessageSent ∨ s.PostInProgress ∨ s.TimerArmed) := by
  have ran : ∃ log s, run step (create : TaskRunnerWindow Unit) (postedAndLeft 1000) = .ok (log, s) ∧
      s.now = 0 ∧ ∃ delegate, s.delegates = [delegate] ∧ delegate.taskQueue.items = [⟨1, 1000, ()⟩] :=
    ⟨_, _, rfl, rfl, _, rfl, rfl⟩
  obtain ⟨log, s, ran, now, delegate, delegates, items⟩ := ran
  have runs : Runs step (fun _ _ => True) (create : TaskRunnerWindow Unit) log s :=
    runs_of_run (fun _ _ _ => trivial) ran
  have member : delegate ∈ s.delegates := by simp [delegates]
  have seen := seen_of_runs runs delegate member ⟨1, 1000, ()⟩ (by simp [items]) (by simp [now, kMaxNanoseconds])
  exact ⟨log, s, runs, ⟨delegate, member, items⟩, seen⟩

/-- A task that is due at the end of the range of the clock: `SetTimer` arms the timer thread for the time at which it
    is parked. -/
theorem not_seen_at_end_of_clock : ¬ ∀ log (s : TaskRunnerWindow Unit), Runs step (fun _ _ => True) create log s →
    (∃ delegate ∈ s.delegates, delegate.taskQueue.items ≠ []) →
      s.MessageSent ∨ s.PostInProgress ∨ s.nextFireTime < kMaxNanoseconds ∨ s.timerThread.callsBack = true := by
  intro always
  have ran : ∃ log s, run step (create : TaskRunnerWindow Unit) (postedAndLeft 0x7FFFFFFFFFFFFFFF) = .ok (log, s) ∧
      (∃ delegate, s.delegates = [delegate] ∧ delegate.taskQueue.items = [⟨1, kMaxNanoseconds, ()⟩]) ∧
      s.messages = 0 ∧ s.mainThread = [] ∧ s.calls = [] ∧ s.nextFireTime = kMaxNanoseconds ∧
      s.timerThread = .waiting :=
    ⟨_, _, rfl, ⟨_, rfl, rfl⟩, rfl, rfl, rfl, rfl, rfl⟩
  obtain ⟨log, s, ran, ⟨delegate, delegates, items⟩, messages, mainThread, calls, nextFireTime, timerThread⟩ := ran
  have seen := always log s (runs_of_run (fun _ _ _ => trivial) ran) ⟨delegate, by simp [delegates], by simp [items]⟩
  simp [MessageSent, PostInProgress, messages, mainThread, calls, nextFireTime, timerThread,
    TimerThread.callsBack] at seen

end TaskRunnerWindow

end FlutterZero.Platform.Windows
