import FlutterZero.Fml.MessageLoopTaskQueues

/-! # Which task comes next, and who is woken for it

The shape invariant of the task queues (`WellFormed`) and, under it, what the
unlocked helpers compute: `hasPendingTasksUnlocked` tells whether a queue and the
queues it owns offer a task, `peekNextTaskUnlocked` returns the least of them
(`peekNextTaskUnlocked_spec`), and a wake-up changes nothing but the wakeable
of one entry (`Wakes`).
-/

namespace FlutterZero.Fml.MessageLoopTaskQueues

open FlutterZero.Lib

variable {α : Type} {s s' : MessageLoopTaskQueues α}

/-! ## Entries -/

@[simp] theorem find_setEntry (s : MessageLoopTaskQueues α) (q q' : TaskQueueId)
    (e : TaskQueueEntry α) :
    (s.setEntry q e).find q' = if q = q' then some e else s.find q' := by
  simp [setEntry, find, Std.TreeMap.getElem?_insert]

@[simp] theorem find_eraseEntry (s : MessageLoopTaskQueues α) (q q' : TaskQueueId) :
    (s.eraseEntry q).find q' = if q = q' then none else s.find q' := by
  simp [eraseEntry, find, Std.TreeMap.getElem?_erase]

theorem find_setEntry_self (s : MessageLoopTaskQueues α) (q : TaskQueueId) (e : TaskQueueEntry α) :
    (s.setEntry q e).find q = some e := by
  simp

@[simp] theorem find_initial (q : TaskQueueId) :
    (initial : MessageLoopTaskQueues α).find q = none := by
  simp [initial, find]

variable {q : TaskQueueId} {e : TaskQueueEntry α}

theorem entryAt_eq_ok : s.entryAt q = .ok e ↔ s.find q = some e := by
  unfold entryAt
  cases s.find q <;> simp

theorem entryAt_of_find (found : s.find q = some e) : s.entryAt q = .ok e :=
  entryAt_eq_ok.mpr found

/-! ## The shape invariant -/

/-- The two ownership relations are inverse to each other, an owner is not itself subsumed, and
    every id names the entry it was handed out for. -/
structure WellFormed (s : MessageLoopTaskQueues α) : Prop where
  subsumed_of_owned : ∀ {owner subsumed e}, s.find owner = some e → subsumed ∈ e.ownerOf →
    ∃ e', s.find subsumed = some e' ∧ e'.subsumedBy = some owner
  owned_of_subsumed : ∀ {owner subsumed e}, s.find subsumed = some e →
    e.subsumedBy = some owner → ∃ e', s.find owner = some e' ∧ subsumed ∈ e'.ownerOf
  owner_unsubsumed : ∀ {q q' e}, s.find q = some e → q' ∈ e.ownerOf → e.subsumedBy = none
  source_id : ∀ {q e}, s.find q = some e → e.taskSource.taskQueueId = q
  fresh : ∀ {q e}, s.find q = some e → q < s.taskQueueIdCounter

variable {owner : TaskQueueId} {e' : TaskQueueEntry α}

theorem WellFormed.subsumedBy_eq (wf : WellFormed s) {subsumed : TaskQueueId}
    (found : s.find owner = some e) (owned : subsumed ∈ e.ownerOf)
    (found' : s.find subsumed = some e') : e'.subsumedBy = some owner := by
  obtain ⟨e'', found'', by_owner⟩ := wf.subsumed_of_owned found owned
  rw [found'] at found''
  cases found''
  exact by_owner

theorem WellFormed.mem_ownerOf (wf : WellFormed s) {subsumed : TaskQueueId}
    (found' : s.find subsumed = some e') (by_owner : e'.subsumedBy = some owner)
    (found : s.find owner = some e) : subsumed ∈ e.ownerOf := by
  obtain ⟨e'', found'', owned⟩ := wf.owned_of_subsumed found' by_owner
  rw [found] at found''
  cases found''
  exact owned

theorem WellFormed.not_owned (wf : WellFormed s) {q' : TaskQueueId}
    (found : s.find q = some e) (unsubsumed : e.subsumedBy = none) (found' : s.find q' = some e') :
    q ∉ e'.ownerOf := by
  intro owned
  have by_owner := wf.subsumedBy_eq found' owned found
  simp [unsubsumed] at by_owner

theorem WellFormed.not_self_owned (wf : WellFormed s) (found : s.find q = some e) : q ∉ e.ownerOf := by
  intro owned
  exact wf.not_owned found (wf.owner_unsubsumed found owned) found owned

/-- What `WellFormed` reads of an entry. -/
def shape (e : TaskQueueEntry α) : Std.TreeSet TaskQueueId × Option TaskQueueId × TaskQueueId :=
  (e.ownerOf, e.subsumedBy, e.taskSource.taskQueueId)

structure SameShape (s s' : MessageLoopTaskQueues α) : Prop where
  counter : s'.taskQueueIdCounter = s.taskQueueIdCounter
  entries : ∀ q, (s'.find q).map shape = (s.find q).map shape

theorem SameShape.refl (s : MessageLoopTaskQueues α) : SameShape s s := ⟨rfl, fun _ => rfl⟩

theorem SameShape.symm (same : SameShape s s') : SameShape s' s :=
  ⟨same.counter.symm, fun q => (same.entries q).symm⟩

theorem SameShape.trans {s₁ s₂ s₃ : MessageLoopTaskQueues α} (first : SameShape s₁ s₂)
    (second : SameShape s₂ s₃) : SameShape s₁ s₃ :=
  ⟨second.counter.trans first.counter, fun q => (second.entries q).trans (first.entries q)⟩

theorem SameShape.find (same : SameShape s s')
    (found : s'.find q = some e') : ∃ e, s.find q = some e ∧ shape e' = shape e := by
  have entries := same.entries q
  rw [found] at entries
  cases old : s.find q with
  | none => simp [old] at entries
  | some e =>
    simp only [old, Option.map_some, Option.some.injEq] at entries
    exact ⟨e, rfl, entries⟩

theorem sameShape_setEntry (found : s.find q = some e)
    (same : shape e' = shape e) : SameShape s (s.setEntry q e') := by
  refine ⟨rfl, fun q' => ?_⟩
  by_cases eq : q = q'
  · subst eq
    simp [found, same]
  · simp [eq]

theorem WellFormed.of_sameShape (wf : WellFormed s) (same : SameShape s s') : WellFormed s' where
  subsumed_of_owned := by
    intro owner subsumed e' found owned
    obtain ⟨e, oldFound, shaped⟩ := same.find found
    simp only [shape, Prod.mk.injEq] at shaped
    obtain ⟨f, subsumedFound, subsumedBy⟩ := wf.subsumed_of_owned oldFound (shaped.1 ▸ owned)
    obtain ⟨f', newFound, shaped'⟩ := same.symm.find subsumedFound
    simp only [shape, Prod.mk.injEq] at shaped'
    exact ⟨f', newFound, shaped'.2.1.symm.trans subsumedBy⟩
  owned_of_subsumed := by
    intro owner subsumed e' found subsumedBy
    obtain ⟨e, oldFound, shaped⟩ := same.find found
    simp only [shape, Prod.mk.injEq] at shaped
    obtain ⟨f, ownerFound, owned⟩ := wf.owned_of_subsumed oldFound (shaped.2.1.symm.trans subsumedBy)
    obtain ⟨f', newFound, shaped'⟩ := same.symm.find ownerFound
    simp only [shape, Prod.mk.injEq] at shaped'
    exact ⟨f', newFound, shaped'.1 ▸ owned⟩
  owner_unsubsumed := by
    intro q q' e' found owned
    obtain ⟨e, oldFound, shaped⟩ := same.find found
    simp only [shape, Prod.mk.injEq] at shaped
    exact shaped.2.1.trans (wf.owner_unsubsumed oldFound (shaped.1 ▸ owned))
  source_id := by
    intro q e' found
    obtain ⟨e, oldFound, shaped⟩ := same.find found
    simp only [shape, Prod.mk.injEq] at shaped
    exact shaped.2.2.trans (wf.source_id oldFound)
  fresh := by
    intro q e' found
    obtain ⟨e, oldFound, _⟩ := same.find found
    exact same.counter ▸ wf.fresh oldFound

theorem wellFormed_initial : WellFormed (initial : MessageLoopTaskQueues α) := by
  constructor <;> simp

/-! ## The tasks a queue offers -/

/-- The tasks `source` offers under the id `q`. -/
def offers (s : MessageLoopTaskQueues α) (q : TaskQueueId) : List (TopTask α) :=
  match s.find q with
  | some e => e.taskSource.pendingTasks.map (TopTask.mk q)
  | none => []

/-- Every task that is pending in the heaps of `q` and of the queues it owns, unless `q` is
    subsumed; with the queue whose source holds it. -/
def pending (s : MessageLoopTaskQueues α) (q : TaskQueueId) : List (TopTask α) :=
  match s.find q with
  | some e => if e.subsumedBy.isSome then [] else (q :: e.ownerOf.toList).flatMap s.offers
  | none => []

theorem mem_offers {p : TopTask α} : p ∈ s.offers q ↔ p.taskQueueId = q ∧
      ∃ e, s.find q = some e ∧ p.task ∈ e.taskSource.pendingTasks := by
  unfold offers
  cases s.find q with
  | none => simp
  | some e =>
    obtain ⟨q', t⟩ := p
    simp only [List.mem_map, TopTask.mk.injEq, Option.some.injEq, exists_eq_left']
    constructor
    · rintro ⟨t', member, rfl, rfl⟩
      exact ⟨rfl, member⟩
    · rintro ⟨rfl, member⟩
      exact ⟨t, member, rfl, rfl⟩

theorem mem_pending {p : TopTask α} : p ∈ s.pending q ↔ ∃ e, s.find q = some e ∧ e.subsumedBy = none ∧
      (p.taskQueueId = q ∨ p.taskQueueId ∈ e.ownerOf) ∧
      ∃ e', s.find p.taskQueueId = some e' ∧ p.task ∈ e'.taskSource.pendingTasks := by
  unfold pending
  cases found : s.find q with
  | none => simp
  | some e =>
    cases subsumed : e.subsumedBy with
    | some owner => simp [subsumed]
    | none =>
      simp only [subsumed, Option.isSome_none, Bool.false_eq_true, if_false, List.mem_flatMap,
        List.mem_cons, Std.TreeSet.mem_toList, Option.some.injEq, exists_eq_left', true_and,
        mem_offers]
      constructor
      · rintro ⟨q', among, rfl, rest⟩
        exact ⟨among, rest⟩
      · rintro ⟨among, rest⟩
        exact ⟨_, among, rfl, rest⟩

theorem pending_of_unsubsumed (found : s.find q = some e) (unsubsumed : e.subsumedBy = none) :
    s.pending q = s.offers q ++ e.ownerOf.toList.flatMap s.offers := by
  simp [pending, found, unsubsumed]

theorem pending_of_subsumed
    (found : s.find q = some e) (subsumed : e.subsumedBy = some owner) : s.pending q = [] := by
  simp [pending, found, subsumed]

theorem offers_eq_nil_iff (found : s.find q = some e) : s.offers q = [] ↔ e.taskSource.isEmpty = true := by
  simp [offers, found, TaskSource.isEmpty_iff]

/-! ## `HasPendingTasksUnlocked` -/

theorem anyM_offers (s : MessageLoopTaskQueues α) (queues : List TaskQueueId)
    (exist : ∀ q ∈ queues, ∃ e, s.find q = some e) :
    (queues.anyM fun subsumed => do
      let subsumedEntry ← s.entryAt subsumed
      return !subsumedEntry.taskSource.isEmpty) =
      (.ok (!(queues.flatMap s.offers).isEmpty) : Except Fault Bool) := by
  induction queues with
  | nil => rfl
  | cons q queues ih =>
    obtain ⟨e, found⟩ := exist q (by simp)
    have rest := ih (fun q' member => exist q' (List.mem_cons_of_mem _ member))
    simp only [pure_eq_ok] at rest
    simp only [List.anyM_cons, entryAt_of_find found, ok_bind, pure_eq_ok, rest]
    cases empty : e.taskSource.isEmpty with
    | true => simp [(offers_eq_nil_iff found).mpr empty]
    | false =>
      have offered : s.offers q ≠ [] := by simp [ne_eq, offers_eq_nil_iff found, empty]
      simp [offered]

theorem hasPendingTasksUnlocked_spec (wf : WellFormed s) (found : s.find q = some e) :
    s.hasPendingTasksUnlocked q = .ok (!(s.pending q).isEmpty) := by
  unfold hasPendingTasksUnlocked
  simp only [entryAt_of_find found, ok_bind, pure_eq_ok]
  cases subsumed : e.subsumedBy with
  | some owner => simp [pending_of_subsumed found subsumed]
  | none =>
    simp only [pending_of_unsubsumed found subsumed, Option.isSome_none, Bool.false_eq_true, if_false]
    cases empty : e.taskSource.isEmpty with
    | false =>
      have offered : s.offers q ≠ [] := by simp [ne_eq, offers_eq_nil_iff found, empty]
      simp [offered]
    | true =>
      have exist : ∀ q' ∈ e.ownerOf.toList, ∃ e', s.find q' = some e' := by
        intro q' member
        obtain ⟨e', found', _⟩ := wf.subsumed_of_owned found (Std.TreeSet.mem_toList.mp member)
        exact ⟨e', found'⟩
      have any := anyM_offers s e.ownerOf.toList exist
      simp only [pure_eq_ok] at any
      simp [any, (offers_eq_nil_iff found).mpr empty]

/-! ## `PeekNextTaskUnlocked` -/

/-- `top` is the least of `tops`, and heads the source of its queue. -/
structure IsNext (s : MessageLoopTaskQueues α) (tops : List (TopTask α)) (top : TopTask α) : Prop where
  mem : top ∈ tops
  least : ∀ p ∈ tops, top.task.NotAfter p.task
  heads : ∃ e, s.find top.taskQueueId = some e ∧ e.taskSource.IsTop top.task

/-- The optional of `PeekNextTaskUnlocked` after the sources that offer `tops`. -/
def Tracks (s : MessageLoopTaskQueues α) (tops : List (TopTask α)) : Option (TopTask α) → Prop
  | none => tops = []
  | some top => IsNext s tops top

theorem isNext_of_isTop (found : s.find q = some e)
    {task : DelayedTask α} (isTop : e.taskSource.IsTop task) : IsNext s (s.offers q) ⟨q, task⟩ where
  mem := mem_offers.mpr ⟨rfl, e, found, isTop.pending⟩
  least := by
    intro p member
    obtain ⟨_, e', found', offered⟩ := mem_offers.mp member
    rw [found] at found'
    cases found'
    exact isTop.least p.task offered
  heads := ⟨e, found, isTop⟩

variable {tops : List (TopTask α)} {top : TopTask α}

theorem IsNext.append_of_notAfter {others : List (TopTask α)}
    (next : IsNext s tops top) {other : TopTask α} (otherNext : IsNext s others other)
    (before : top.task.NotAfter other.task) : IsNext s (tops ++ others) top where
  mem := List.mem_append_left _ next.mem
  least := by
    intro p member
    rcases List.mem_append.mp member with old | new
    · exact next.least p old
    · exact IsTrans.trans _ _ _ before (otherNext.least p new)
  heads := next.heads

theorem IsNext.append_comm {others : List (TopTask α)}
    (next : IsNext s (tops ++ others) top) : IsNext s (others ++ tops) top where
  mem := List.mem_append.mpr (List.mem_append.mp next.mem).symm
  least := fun p member => next.least p (List.mem_append.mpr (List.mem_append.mp member).symm)
  heads := next.heads

theorem topTaskUpdater_spec (wf : WellFormed s) (found : s.find q = some e) {best : Option (TopTask α)}
    (tracks : Tracks s tops best) :
    ∃ best', topTaskUpdater best e.taskSource = .ok best' ∧ Tracks s (tops ++ s.offers q) best' := by
  unfold topTaskUpdater
  cases empty : e.taskSource.isEmpty with
  | true =>
    refine ⟨best, rfl, ?_⟩
    rw [(offers_eq_nil_iff found).mpr empty, List.append_nil]
    exact tracks
  | false =>
    obtain ⟨task, returned, isTop⟩ := TaskSource.top_spec empty
    rw [wf.source_id found] at returned
    have other := isNext_of_isTop found isTop
    simp only [returned, Bool.false_eq_true, if_false, ok_bind, pure_eq_ok]
    cases best with
    | none =>
      have none : tops = [] := tracks
      exact ⟨some ⟨q, task⟩, rfl, by rw [none]; exact other⟩
    | some top =>
      have next : IsNext s tops top := tracks
      by_cases greater : top.task.gt task = true
      · refine ⟨some ⟨q, task⟩, by simp [greater], ?_⟩
        have before : task.NotAfter top.task :=
          (Std.Total.total task top.task).resolve_right (DelayedTask.gt_iff.mp greater)
        exact (other.append_of_notAfter next before).append_comm
      · refine ⟨some top, by simp [greater], ?_⟩
        have before : top.task.NotAfter task := by
          simpa [DelayedTask.NotAfter] using greater
        exact next.append_of_notAfter other before

theorem topTaskUpdater_foldlM (wf : WellFormed s) (queues : List TaskQueueId)
    (exist : ∀ q ∈ queues, ∃ e, s.find q = some e) {best : Option (TopTask α)} (tracks : Tracks s tops best) :
    ∃ best', queues.foldlM (fun topTask subsumed => do
        let subsumedEntry ← s.entryAt subsumed
        topTaskUpdater topTask subsumedEntry.taskSource) best = .ok best' ∧
      Tracks s (tops ++ queues.flatMap s.offers) best' := by
  induction queues generalizing tops best with
  | nil => exact ⟨best, rfl, by simpa using tracks⟩
  | cons q queues ih =>
    obtain ⟨e, found⟩ := exist q (by simp)
    obtain ⟨updated, returned, tracked⟩ := topTaskUpdater_spec wf found tracks
    obtain ⟨best', rest, tracked'⟩ :=
      ih (fun q' member => exist q' (List.mem_cons_of_mem _ member)) tracked
    refine ⟨best', ?_, by simpa [List.append_assoc] using tracked'⟩
    simp only [List.foldlM_cons, entryAt_of_find found, ok_bind, returned]
    exact rest

theorem peekNextTaskUnlocked_spec (wf : WellFormed s) (some_pending : s.pending q ≠ []) :
    ∃ top, s.peekNextTaskUnlocked q = .ok top ∧ IsNext s (s.pending q) top := by
  obtain ⟨p, member⟩ := List.exists_mem_of_ne_nil _ some_pending
  obtain ⟨e, found, unsubsumed, -, -⟩ := mem_pending.mp member
  have shape := pending_of_unsubsumed found unsubsumed
  unfold peekNextTaskUnlocked
  have has : (s.pending q).isEmpty = false := by simpa using some_pending
  simp only [hasPendingTasksUnlocked_spec wf found, has, Bool.not_false, ok_bind, fmlDcheck_true,
    entryAt_of_find found, pure_eq_ok]
  by_cases alone : e.ownerOf.isEmpty = true
  · -- an owner of nothing is asked for its own top
    have owned : e.ownerOf.toList = [] :=
      List.isEmpty_iff.mp (Std.TreeSet.isEmpty_toList.trans alone)
    rw [owned] at shape
    simp only [List.flatMap_nil, List.append_nil] at shape
    have nonempty : e.taskSource.isEmpty = false := by
      rw [shape, ne_eq, offers_eq_nil_iff found, Bool.not_eq_true] at some_pending
      exact some_pending
    obtain ⟨task, returned, isTop⟩ := TaskSource.top_spec nonempty
    rw [wf.source_id found] at returned
    refine ⟨⟨q, task⟩, by simp [alone, nonempty, returned], ?_⟩
    rw [shape]
    exact isNext_of_isTop found isTop
  · have exist : ∀ q' ∈ e.ownerOf.toList, ∃ e', s.find q' = some e' := by
      intro q' listed
      obtain ⟨e', found', _⟩ := wf.subsumed_of_owned found (Std.TreeSet.mem_toList.mp listed)
      exact ⟨e', found'⟩
    obtain ⟨first, firstReturned, firstTracked⟩ :=
      topTaskUpdater_spec wf found (show Tracks s [] none from rfl)
    obtain ⟨best, returned, tracked⟩ := topTaskUpdater_foldlM wf _ exist firstTracked
    simp only [List.nil_append, ← shape] at tracked
    cases best with
    | none => exact absurd tracked some_pending
    | some top => exact ⟨top, by simp [alone, firstReturned, returned], tracked⟩

/-! ## Wake-ups -/

/-- The entry after its wakeable, if there is one, has received `WakeUp(time)`. -/
def wokenAt (time : TimePoint) (e : TaskQueueEntry α) : TaskQueueEntry α :=
  { e with wakeable := e.wakeable.map fun wakeable => ⟨time :: wakeable.wakeUps⟩ }

/-- `s'` is `s` after one `WakeUp(time)` to the loop of `q`. -/
structure Wakes (s s' : MessageLoopTaskQueues α) (q : TaskQueueId) (time : TimePoint) : Prop where
  counter : s'.taskQueueIdCounter = s.taskQueueIdCounter
  order : s'.order = s.order
  find : ∀ q', s'.find q' = if q' = q then (s.find q').map (wokenAt time) else s.find q'

theorem wakeUpUnlocked_spec (found : s.find q = some e)
    (time : TimePoint) : ∃ s', s.wakeUpUnlocked q time = .ok s' ∧ Wakes s s' q time := by
  unfold wakeUpUnlocked
  simp only [entryAt_of_find found, ok_bind, pure_eq_ok]
  cases wakeable : e.wakeable with
  | some w =>
    refine ⟨_, rfl, rfl, rfl, fun q' => ?_⟩
    by_cases eq : q' = q
    · subst eq
      simp [found, wokenAt, wakeable]
    · simp [eq, Ne.symm eq]
  | none =>
    refine ⟨_, rfl, rfl, rfl, fun q' => ?_⟩
    by_cases eq : q' = q
    · subst eq
      simp [found, wokenAt, wakeable]
      cases e
      simp_all
    · simp [eq]

structure SameCore (s s' : MessageLoopTaskQueues α) : Prop where
  counter : s'.taskQueueIdCounter = s.taskQueueIdCounter
  order : s'.order = s.order
  entries : ∀ q, (s'.find q).map (fun e => (e.ownerOf, e.subsumedBy, e.taskSource)) =
    (s.find q).map (fun e => (e.ownerOf, e.subsumedBy, e.taskSource))

theorem SameCore.refl (s : MessageLoopTaskQueues α) : SameCore s s := ⟨rfl, rfl, fun _ => rfl⟩

theorem SameCore.trans {s₁ s₂ s₃ : MessageLoopTaskQueues α} (first : SameCore s₁ s₂)
    (second : SameCore s₂ s₃) : SameCore s₁ s₃ :=
  ⟨second.counter.trans first.counter, second.order.trans first.order,
    fun q => (second.entries q).trans (first.entries q)⟩

theorem SameCore.symm (same : SameCore s s') : SameCore s' s :=
  ⟨same.counter.symm, same.order.symm, fun q => (same.entries q).symm⟩

theorem SameCore.find (same : SameCore s s') (found : s'.find q = some e') : ∃ e, s.find q = some e ∧
      e'.ownerOf = e.ownerOf ∧ e'.subsumedBy = e.subsumedBy ∧ e'.taskSource = e.taskSource := by
  have entries := same.entries q
  rw [found] at entries
  cases old : s.find q with
  | none => simp [old] at entries
  | some e =>
    simp only [old, Option.map_some, Option.some.injEq, Prod.mk.injEq] at entries
    exact ⟨e, rfl, entries⟩

theorem SameCore.sameShape (same : SameCore s s') : SameShape s s' := by
  refine ⟨same.counter, fun q => ?_⟩
  have entries := congrArg (Option.map fun core : Std.TreeSet TaskQueueId × Option TaskQueueId ×
    TaskSource α => (core.1, core.2.1, core.2.2.taskQueueId)) (same.entries q)
  rw [Option.map_map, Option.map_map] at entries
  exact entries

theorem SameCore.offers (same : SameCore s s') (q : TaskQueueId) : s'.offers q = s.offers q := by
  have entries := same.entries q
  unfold MessageLoopTaskQueues.offers
  cases old : s.find q <;> cases new : s'.find q <;> simp_all

theorem SameCore.pending (same : SameCore s s') (q : TaskQueueId) : s'.pending q = s.pending q := by
  have entries := same.entries q
  have offers : s'.offers = s.offers := funext same.offers
  unfold MessageLoopTaskQueues.pending
  cases old : s.find q <;> cases new : s'.find q <;> simp_all

theorem Wakes.sameCore {time : TimePoint} (wakes : Wakes s s' q time) : SameCore s s' := by
  refine ⟨wakes.counter, wakes.order, fun q' => ?_⟩
  rw [wakes.find q']
  by_cases eq : q' = q
  · simp [eq, Option.map_map, Function.comp_def, wokenAt]
  · simp [eq]

/-- The effect of `wakeIfPendingUnlocked`: nothing where nothing is pending, else a wake-up
    for the next task. -/
inductive WakesForNext (s : MessageLoopTaskQueues α) (q : TaskQueueId) :
    MessageLoopTaskQueues α → Prop where
  | idle : s.pending q = [] → WakesForNext s q s
  | wake {s' : MessageLoopTaskQueues α} {top : TopTask α} : IsNext s (s.pending q) top →
      Wakes s s' q top.task.targetTime → WakesForNext s q s'

theorem WakesForNext.sameCore (woken : WakesForNext s q s') : SameCore s s' := by
  cases woken with
  | idle => exact SameCore.refl s
  | wake _ wakes => exact wakes.sameCore

theorem getNextWakeTimeUnlocked_of_peek (peeked : s.peekNextTaskUnlocked q = .ok top) :
    s.getNextWakeTimeUnlocked q = .ok top.task.targetTime := by
  simp [getNextWakeTimeUnlocked, peeked]

theorem wakeIfPendingUnlocked_spec (wf : WellFormed s) (found : s.find q = some e) :
    ∃ s', s.wakeIfPendingUnlocked q = .ok s' ∧ WakesForNext s q s' := by
  unfold wakeIfPendingUnlocked
  simp only [hasPendingTasksUnlocked_spec wf found, ok_bind, pure_eq_ok]
  by_cases none : s.pending q = []
  · exact ⟨s, by simp [none], .idle none⟩
  · obtain ⟨top, peeked, next⟩ := peekNextTaskUnlocked_spec wf none
    obtain ⟨s', woken, wakes⟩ := wakeUpUnlocked_spec found top.task.targetTime
    refine ⟨s', ?_, .wake next wakes⟩
    simp [none, getNextWakeTimeUnlocked_of_peek peeked, woken]

end FlutterZero.Fml.MessageLoopTaskQueues
