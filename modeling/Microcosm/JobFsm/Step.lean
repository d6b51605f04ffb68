import Microcosm.JobFsm.Basic

/-!
# Runs of the job FSM

The mutating methods of `JobFsm` as one operation type `Op`, applied by `Op.apply`. `Op.Allowed`
is what the callers promise: `JobDispatched` gets a job whose id is no key yet, a loop visits
each key of its map once (in any order), and the ids `IterPendingJobs`'s `dispatchJobFn` returns
are no key of any map but, possibly, the pending key being dispatched (`FreshIds`).

`Reach s log` says that `s` is reached from `newJobFsm` by allowed operations, with `log` the
history of dispatches and requeues they made (`Mark`); it is ghost state, read only by the
theorems about double dispatch.
-/

namespace Microcosm

/-- A call of a mutating method of `JobFsm`. -/
inductive Op
  | jobDispatched (job : Ptr) (addFromFailover : Bool)
  | iterPendingJobs (dispatchJobFn : DispatchJobFn) (order : List MasterID)
  | iterWaitAckJobs (dispatchJobFn : DispatchJobFn) (order : List MasterID)
  | jobOnline (worker : WorkerHandle)
  | jobOffline (worker : WorkerHandle) (needFailover : Bool)
  | jobDispatchFailed (worker : WorkerHandle)

/-- What a run records about a record: `dispatchJobFn` succeeded on it, or an operation put it
back up for dispatch. -/
inductive Mark
  | dispatched (job : Ptr)
  | requeued (job : Ptr)
  deriving DecidableEq, Repr

namespace JobFsm

/-- `id` is a key of none of the three maps. -/
def Fresh (s : JobFsm) (id : MasterID) : Prop :=
  id ∉ s.pendingJobs ∧ id ∉ s.waitAckJobs ∧ id ∉ s.onlineJobs

/-- Every id `dispatchJobFn` returns during `IterPendingJobs` is fresh once the key being
dispatched is deleted. -/
def FreshIds (dispatchJobFn : DispatchJobFn) : List MasterID → JobFsm → Prop
  | [], _ => True
  | oldJobID :: order, s =>
    match s.pendingJobs.lookup oldJobID with
    | none => FreshIds dispatchJobFn order s
    | some job =>
      match dispatchJobFn (s.heap job) with
      | .error _ => True
      | .ok id => Fresh { s with pendingJobs := s.pendingJobs.erase oldJobID } id ∧
          FreshIds dispatchJobFn order (s.pendingDispatched oldJobID job id)

section FreshIds

variable {f : DispatchJobFn} {order : List MasterID} {s : JobFsm} {k : MasterID} {p : Ptr}

theorem freshIds_cons_none (hk : s.pendingJobs.lookup k = none) :
    FreshIds f (k :: order) s ↔ FreshIds f order s := by
  simp [FreshIds, hk]

theorem freshIds_cons_ok (hk : s.pendingJobs.lookup k = some p) {id : MasterID}
    (ho : f (s.heap p) = .ok id) :
    FreshIds f (k :: order) s ↔ Fresh { s with pendingJobs := s.pendingJobs.erase k } id ∧
      FreshIds f order (s.pendingDispatched k p id) := by
  simp [FreshIds, hk, ho]

instance (s : JobFsm) (id : MasterID) : Decidable (s.Fresh id) :=
  inferInstanceAs (Decidable (_ ∧ _ ∧ _))

/-- `FreshIds` is decided by running the loop it follows. -/
def decFreshIds (f : DispatchJobFn) : ∀ order s, Decidable (FreshIds f order s)
  | [], _ => isTrue trivial
  | k :: order, s =>
    match hk : s.pendingJobs.lookup k with
    | none => @decidable_of_iff _ _ (freshIds_cons_none hk).symm (decFreshIds f order s)
    | some p =>
      match ho : f (s.heap p) with
      | .error _ => isTrue (by simp [FreshIds, hk, ho])
      | .ok id => @decidable_of_iff _ _ (freshIds_cons_ok hk ho).symm
          (@instDecidableAnd _ _ inferInstance (decFreshIds f order _))

instance (f : DispatchJobFn) (order : List MasterID) (s : JobFsm) :
    Decidable (FreshIds f order s) :=
  decFreshIds f order s

end FreshIds

/-- The record `JobOffline` takes out of `onlineJobs` or, failing that, `waitAckJobs`. -/
def offlineJob (s : JobFsm) (id : MasterID) : Option Ptr :=
  ((s.onlineJobs.lookup id).orElse fun _ => s.waitAckJobs.lookup id).map (·.masterMeta)

end JobFsm

namespace Op

open JobFsm

/-- The state after the call. -/
def apply : Op → JobFsm → JobFsm
  | jobDispatched job addFromFailover, s => s.jobDispatched job addFromFailover
  | iterPendingJobs f order, s => (JobFsm.iterPendingJobs f order s).fsm
  | iterWaitAckJobs f order, s => (JobFsm.iterWaitAckJobs f order s).fsm
  | jobOnline worker, s => (s.jobOnline worker).1
  | jobOffline worker needFailover, s => s.jobOffline worker needFailover
  | jobDispatchFailed worker, s => (s.jobDispatchFailed worker).1

/-- The callers' side of the contract. -/
def Allowed : Op → JobFsm → Prop
  | jobDispatched job _, s => s.Fresh (s.heap job).id
  | iterPendingJobs f order, s => order.Perm s.pendingJobs.keys ∧ s.FreshIds f order
  | iterWaitAckJobs _ order, s => order.Perm s.waitAckJobs.keys
  | _, _ => True

instance decAllowed : ∀ (op : Op) (s : JobFsm), Decidable (op.Allowed s)
  | jobDispatched job _, s => inferInstanceAs (Decidable (s.Fresh (s.heap job).id))
  | iterPendingJobs _ _, _ => inferInstanceAs (Decidable (_ ∧ _))
  | iterWaitAckJobs _ _, _ => inferInstanceAs (Decidable (List.Perm _ _))
  | jobOnline _, _ => isTrue trivial
  | jobOffline _ _, _ => isTrue trivial
  | jobDispatchFailed _, _ => isTrue trivial

/-- The dispatches and requeues of the call. -/
def marks : Op → JobFsm → List Mark
  | jobDispatched job addFromFailover, _ => if addFromFailover then [.requeued job] else []
  | iterPendingJobs f order, s => (JobFsm.iterPendingJobs f order s).dispatched.map .dispatched
  | iterWaitAckJobs f order, s => (JobFsm.iterWaitAckJobs f order s).dispatched.map .dispatched
  | jobOnline _, _ => []
  | jobOffline worker needFailover, s =>
    if needFailover then ((s.offlineJob worker.id).map .requeued).toList else []
  | jobDispatchFailed worker, s =>
    ((s.waitAckJobs.lookup worker.id).map fun job => .requeued job.masterMeta).toList

end Op

/-- The states reached from `NewJobFsm` by allowed calls, with their history. -/
inductive Reach : JobFsm → List Mark → Prop
  | init (heap : Heap) : Reach (newJobFsm heap) []
  | step {s : JobFsm} {log : List Mark} {op : Op} :
      Reach s log → op.Allowed s → Reach (op.apply s) (log ++ op.marks s)

/-- A state reached from `NewJobFsm` by allowed calls. -/
def Reachable (s : JobFsm) : Prop := ∃ log, Reach s log

end Microcosm
