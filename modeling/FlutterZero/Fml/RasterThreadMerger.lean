import FlutterZero.Fml.MessageLoopTaskQueues

/-! # Merging the raster and the platform thread

`SharedThreadMerger` (`shared_thread_merger.cc`) keeps a lease for each of the
`RasterThreadMerger`s that share it and merges or un-merges the two task queues
accordingly.  `RasterThreadMerger` (`raster_thread_merger.cc`) is the proxy each
rasterizer holds; `Sharers` is a group of them over one shared merger, with the
task queues they act on.

A `RasterThreadMerger` is identified by its address, which is also its key in the
lease map.
-/

namespace FlutterZero.Fml

open FlutterZero.Lib

abbrev RasterThreadMergerId := Nat

structure SharedThreadMerger where
  owner : TaskQueueId
  subsumed : TaskQueueId
  enabled : Bool
  leaseTermByCaller : Std.TreeMap RasterThreadMergerId Nat

namespace SharedThreadMerger

variable {α : Type}

def create (owner subsumed : TaskQueueId) : SharedThreadMerger where
  owner := owner
  subsumed := subsumed
  enabled := true
  leaseTermByCaller := ∅

def isAllLeaseTermsZeroUnSafe (m : SharedThreadMerger) : Bool :=
  m.leaseTermByCaller.toList.all fun item => item.2 == 0

def isMergedUnSafe (m : SharedThreadMerger) : Bool := !m.isAllLeaseTermsZeroUnSafe

def isEnabledUnSafe (m : SharedThreadMerger) : Bool := m.enabled

def setEnabledUnSafe (m : SharedThreadMerger) (enabled : Bool) : SharedThreadMerger :=
  { m with enabled := enabled }

/-- `lease_term_by_caller_[caller] = lease_term`. -/
def setLease (m : SharedThreadMerger) (caller : RasterThreadMergerId) (leaseTerm : Nat) :
    SharedThreadMerger :=
  { m with leaseTermByCaller := m.leaseTermByCaller.insert caller leaseTerm }

/-- `lease_term_by_caller_.erase(caller)`. -/
def eraseLease (m : SharedThreadMerger) (caller : RasterThreadMergerId) : SharedThreadMerger :=
  { m with leaseTermByCaller := m.leaseTermByCaller.erase caller }

def mergeWithLease (m : SharedThreadMerger) (taskQueues : MessageLoopTaskQueues α)
    (caller : RasterThreadMergerId) (leaseTerm : Nat) :
    Except Fault (Bool × SharedThreadMerger × MessageLoopTaskQueues α) := do
  fmlDcheck (decide (leaseTerm > 0))
  if m.isMergedUnSafe then
    return (true, m, taskQueues)
  let (success, taskQueues) ← taskQueues.merge m.owner m.subsumed
  fmlCheck success
  return (success, m.setLease caller leaseTerm, taskQueues)

def unMergeNowUnSafe (m : SharedThreadMerger) (taskQueues : MessageLoopTaskQueues α) :
    Except Fault (Bool × MessageLoopTaskQueues α) := do
  fmlCheck m.isAllLeaseTermsZeroUnSafe
  let (success, taskQueues) ← taskQueues.unmerge m.owner m.subsumed
  fmlCheck success
  return (success, taskQueues)

def unMergeNowIfLastOne (m : SharedThreadMerger) (taskQueues : MessageLoopTaskQueues α)
    (caller : RasterThreadMergerId) :
    Except Fault (Bool × SharedThreadMerger × MessageLoopTaskQueues α) := do
  let m := m.eraseLease caller
  if m.leaseTermByCaller.isEmpty ∨ m.isAllLeaseTermsZeroUnSafe then
    let (success, taskQueues) ← m.unMergeNowUnSafe taskQueues
    return (success, m, taskQueues)
  return (true, m, taskQueues)

/-- The part of `DecrementLease` that changes the record of the caller. -/
def decrementRecord (m : SharedThreadMerger) (caller : RasterThreadMergerId) :
    Except Fault SharedThreadMerger :=
  match m.leaseTermByCaller[caller]? with
  | some leaseTerm => do
    fmlCheck (decide (leaseTerm > 0))
    return m.setLease caller (leaseTerm - 1)
  | none =>
    -- only a warning is logged
    return m

def decrementLease (m : SharedThreadMerger) (taskQueues : MessageLoopTaskQueues α)
    (caller : RasterThreadMergerId) :
    Except Fault (Bool × SharedThreadMerger × MessageLoopTaskQueues α) := do
  let m ← m.decrementRecord caller
  if m.isAllLeaseTermsZeroUnSafe then
    let (_, taskQueues) ← m.unMergeNowUnSafe taskQueues
    return (true, m, taskQueues)
  return (false, m, taskQueues)

def extendLeaseTo (m : SharedThreadMerger) (caller : RasterThreadMergerId) (leaseTerm : Nat) :
    Except Fault SharedThreadMerger := do
  fmlDcheck (decide (leaseTerm > 0))
  fmlDcheck m.isMergedUnSafe
  return m.setLease caller leaseTerm

end SharedThreadMerger

inductive RasterThreadStatus where
  | remainsMerged
  | remainsUnmerged
  | unmergedNow
deriving DecidableEq, Repr

/-- The `RasterThreadMerger`s over one `SharedThreadMerger`, and the task queues. -/
structure Sharers (α : Type) where
  platformQueueId : TaskQueueId
  gpuQueueId : TaskQueueId
  sharedMerger : SharedThreadMerger
  /-- The mergers whose `merge_unmerge_callback_` is set. -/
  mergeUnmergeCallback : Std.TreeSet RasterThreadMergerId
  taskQueues : MessageLoopTaskQueues α

/-- What a call of one merger does apart from the state: the status it returns, whether its
    callback ran and whether a thread that waits for the merge was notified. -/
structure MergerAnswer where
  status : Option RasterThreadStatus
  callbackRan : Bool
  notified : Bool
deriving DecidableEq, Repr

namespace MergerAnswer

def noop : MergerAnswer := ⟨none, false, false⟩

end MergerAnswer

namespace Sharers

variable {α : Type}

/-- The first merger for the two queues creates the shared one, and the others share it. -/
def create (platformQueueId gpuQueueId : TaskQueueId) (taskQueues : MessageLoopTaskQueues α) :
    Sharers α where
  platformQueueId := platformQueueId
  gpuQueueId := gpuQueueId
  sharedMerger := .create platformQueueId gpuQueueId
  mergeUnmergeCallback := ∅
  taskQueues := taskQueues

def taskQueuesAreSame (s : Sharers α) : Bool := s.platformQueueId == s.gpuQueueId

def isMerged (s : Sharers α) : Bool := s.taskQueuesAreSame || s.sharedMerger.isMergedUnSafe

def isEnabled (s : Sharers α) : Bool := s.sharedMerger.isEnabledUnSafe

def update (s : Sharers α) (sharedMerger : SharedThreadMerger) (taskQueues : MessageLoopTaskQueues α) :
    Sharers α :=
  { s with sharedMerger := sharedMerger, taskQueues := taskQueues }

def setMergeUnmergeCallback (s : Sharers α) (caller : RasterThreadMergerId) (isSet : Bool) : Sharers α :=
  { s with mergeUnmergeCallback :=
      if isSet then s.mergeUnmergeCallback.insert caller else s.mergeUnmergeCallback.erase caller }

def mergeWithLease (s : Sharers α) (caller : RasterThreadMergerId) (leaseTerm : Nat) :
    Except Fault (MergerAnswer × Sharers α) := do
  if s.taskQueuesAreSame then
    return (.noop, s)
  if !s.isEnabled then
    return (.noop, s)
  fmlDcheck (decide (leaseTerm > 0))
  if s.isMerged then
    return (⟨none, false, true⟩, s)
  let (success, m, taskQueues) ← s.sharedMerger.mergeWithLease s.taskQueues caller leaseTerm
  return (⟨none, success && s.mergeUnmergeCallback.contains caller, true⟩, s.update m taskQueues)

def unMergeNowIfLastOne (s : Sharers α) (caller : RasterThreadMergerId) :
    Except Fault (MergerAnswer × Sharers α) := do
  if s.taskQueuesAreSame then
    return (.noop, s)
  if !s.isEnabled then
    return (.noop, s)
  let (success, m, taskQueues) ← s.sharedMerger.unMergeNowIfLastOne s.taskQueues caller
  return (⟨none, success && s.mergeUnmergeCallback.contains caller, false⟩, s.update m taskQueues)

def extendLeaseTo (s : Sharers α) (caller : RasterThreadMergerId) (leaseTerm : Nat) :
    Except Fault (MergerAnswer × Sharers α) := do
  fmlDcheck (decide (leaseTerm > 0))
  if s.taskQueuesAreSame then
    return (.noop, s)
  if !s.isEnabled then
    return (.noop, s)
  let m ← s.sharedMerger.extendLeaseTo caller leaseTerm
  return (.noop, s.update m s.taskQueues)

def decrementLease (s : Sharers α) (caller : RasterThreadMergerId) :
    Except Fault (MergerAnswer × Sharers α) := do
  if s.taskQueuesAreSame then
    return (⟨some .remainsMerged, false, false⟩, s)
  if !s.isMerged then
    return (⟨some .remainsUnmerged, false, false⟩, s)
  if !s.isEnabled then
    return (⟨some .remainsMerged, false, false⟩, s)
  let (unmergedAfterDecrement, m, taskQueues) ← s.sharedMerger.decrementLease s.taskQueues caller
  if unmergedAfterDecrement then
    return (⟨some .unmergedNow, s.mergeUnmergeCallback.contains caller, false⟩, s.update m taskQueues)
  return (⟨some .remainsMerged, false, false⟩, s.update m taskQueues)

def enable (s : Sharers α) : Sharers α := s.update (s.sharedMerger.setEnabledUnSafe true) s.taskQueues

def disable (s : Sharers α) : Sharers α := s.update (s.sharedMerger.setEnabledUnSafe false) s.taskQueues

/-! ## Operations -/

inductive Call where
  | setMergeUnmergeCallback (isSet : Bool)
  | mergeWithLease (leaseTerm : Nat)
  | unMergeNowIfLastOne
  | extendLeaseTo (leaseTerm : Nat)
  | decrementLease
  | enable
  | disable
deriving DecidableEq, Repr

def call (s : Sharers α) (caller : RasterThreadMergerId) :
    Call → Except Fault (MergerAnswer × Sharers α)
  | .setMergeUnmergeCallback isSet => return (.noop, s.setMergeUnmergeCallback caller isSet)
  | .mergeWithLease leaseTerm => s.mergeWithLease caller leaseTerm
  | .unMergeNowIfLastOne => s.unMergeNowIfLastOne caller
  | .extendLeaseTo leaseTerm => s.extendLeaseTo caller leaseTerm
  | .decrementLease => s.decrementLease caller
  | .enable => return (.noop, s.enable)
  | .disable => return (.noop, s.disable)

inductive Op (α : Type) where
  | call (caller : RasterThreadMergerId) (call : Call)
  | queues (op : MessageLoopTaskQueues.Op α)

def step (s : Sharers α) : Op α → Except Fault (MergerAnswer × Sharers α)
  | .call caller call => s.call caller call
  | .queues op => do
    let (_, taskQueues) ← s.taskQueues.step op
    return (.noop, { s with taskQueues := taskQueues })

end Sharers

end FlutterZero.Fml
