import Microcosm.GoMap

/-!
# The job FSM of the server master

`servermaster/job_fsm.go`. `JobFsm` keeps the running job masters in three Go maps,
`pendingJobs`, `waitAckJobs` and `onlineJobs`. The maps hold pointers to `MasterMeta` objects,
and `IterPendingJobs` writes through such a pointer, so the model keeps the objects in a heap
(`JobFsm.heap`) and the maps hold addresses (`Ptr`). Every method takes `jobsMu` for its whole
body, so each is one atomic function of the state; `queryJob` takes it three times and reads
three states.

The two `Iter*` loops range over a map: they take the visiting order the Go runtime picks as a
list of keys, and return a `Pass` with the records `dispatchJobFn` succeeded on and the one it
failed on.
-/

namespace Microcosm

/-- An address of a `libModel.MasterMeta` object. -/
abbrev Ptr := ℕ

/-- `libModel.MasterMeta`, with the fields the FSM reads or writes. -/
structure MasterMeta where
  id : MasterID
  tp : Int
  config : List UInt8
  deriving DecidableEq, Repr

/-- The `MasterMeta` objects of the process, by address. -/
abbrev Heap := Ptr → MasterMeta

/-- `pb.JobMasterInfo`, opaque to the FSM. -/
structure JobMasterInfo where
  info : List UInt8
  deriving DecidableEq, Repr

/-- `lib.WorkerHandle`: its `ID()` and the pair `(jobInfo, err)` its `ToPB()` returns, the error by
its message. -/
structure WorkerHandle where
  id : MasterID
  toPB : Option JobMasterInfo × Option String
  deriving DecidableEq

/-- `jobHolder`; `workerHandle = none` is a nil `lib.WorkerHandle`. -/
structure JobHolder where
  workerHandle : Option WorkerHandle
  masterMeta : Ptr
  addFromFailover : Bool
  deriving DecidableEq

/-- `JobFsm`, with the heap its maps point into. -/
structure JobFsm where
  heap : Heap
  pendingJobs : GoMap Ptr
  waitAckJobs : GoMap JobHolder
  onlineJobs : GoMap JobHolder

/-- `NewJobFsm`, over the objects the callers have allocated. -/
def newJobFsm (heap : Heap) : JobFsm := ⟨heap, ∅, ∅, ∅⟩

/-- `errors.ErrWorkerNotFound`, raised with the worker's id. -/
inductive FsmError
  | workerNotFound (id : MasterID)
  deriving DecidableEq, Repr

/-- The error of a `dispatchJobFn`, by its message. -/
abbrev DispatchError := String

/-- `func(job *libModel.MasterMeta) (string, error)`, applied to the object the pointer reaches. -/
abbrev DispatchJobFn := MasterMeta → Except DispatchError MasterID

/-- `pb.QueryJobResponse_JobStatus`; `other` is every value `JobCount` does not count. -/
inductive JobStatus
  | pending
  | dispatched
  | online
  | other
  deriving DecidableEq, Repr

/-- `pb.ErrorCode`, of which `QueryJob` uses one value. -/
inductive ErrorCode
  | unknownError
  deriving DecidableEq, Repr

/-- `pb.Error`. -/
structure PbError where
  code : ErrorCode
  message : String
  deriving DecidableEq, Repr

/-- `pb.QueryJobResponse`. -/
structure QueryJobResponse where
  tp : Int
  config : List UInt8
  status : JobStatus
  err : Option PbError := none
  jobMasterInfo : Option JobMasterInfo := none
  deriving DecidableEq, Repr

/-- One loop over a map: the state it leaves, the records `dispatchJobFn` succeeded on in call
order, and the record it failed on with the error the loop returns. -/
structure Pass where
  fsm : JobFsm
  dispatched : List Ptr
  failed : Option (Ptr × DispatchError)

/-- The error a loop returns. -/
def Pass.err (r : Pass) : Option DispatchError := r.failed.map Prod.snd

namespace JobFsm

/-! ## Transitions -/

/-- `JobDispatched`. -/
def jobDispatched (s : JobFsm) (job : Ptr) (addFromFailover : Bool) : JobFsm :=
  { s with waitAckJobs := s.waitAckJobs.insert (s.heap job).id ⟨none, job, addFromFailover⟩ }

/-- The body of `IterPendingJobs` once `dispatchJobFn` returned `id` for `job`, found under
`oldJobID`. -/
def pendingDispatched (s : JobFsm) (oldJobID : MasterID) (job : Ptr) (id : MasterID) : JobFsm :=
  { s with
    heap := Function.update s.heap job { s.heap job with id := id }
    pendingJobs := s.pendingJobs.erase oldJobID
    waitAckJobs := s.waitAckJobs.insert id ⟨none, job, false⟩ }

/-- `IterPendingJobs`, visiting the keys of `pendingJobs` in `order`. -/
def iterPendingJobs (dispatchJobFn : DispatchJobFn) : List MasterID → JobFsm → Pass
  | [], s => ⟨s, [], none⟩
  | oldJobID :: order, s =>
    match s.pendingJobs.lookup oldJobID with
    | none => iterPendingJobs dispatchJobFn order s
    | some job =>
      match dispatchJobFn (s.heap job) with
      | .error err => ⟨s, [], some (job, err)⟩
      | .ok id =>
        let r := iterPendingJobs dispatchJobFn order (s.pendingDispatched oldJobID job id)
        { r with dispatched := job :: r.dispatched }

section IterPendingJobs

variable {f : DispatchJobFn} {order : List MasterID} {s : JobFsm} {k : MasterID} {p : Ptr}

theorem iterPendingJobs_cons_none (hk : s.pendingJobs.lookup k = none) :
    iterPendingJobs f (k :: order) s = iterPendingJobs f order s := by
  simp [iterPendingJobs, hk]

theorem iterPendingJobs_cons_error (hk : s.pendingJobs.lookup k = some p) {err : DispatchError}
    (he : f (s.heap p) = .error err) : iterPendingJobs f (k :: order) s = ⟨s, [], some (p, err)⟩ := by
  simp [iterPendingJobs, hk, he]

theorem iterPendingJobs_cons_ok (hk : s.pendingJobs.lookup k = some p) {id : MasterID}
    (ho : f (s.heap p) = .ok id) :
    iterPendingJobs f (k :: order) s =
      { iterPendingJobs f order (s.pendingDispatched k p id) with
        dispatched := p :: (iterPendingJobs f order (s.pendingDispatched k p id)).dispatched } := by
  simp [iterPendingJobs, hk, ho]

end IterPendingJobs

/-- `fsm.waitAckJobs[id].addFromFailover = false`. -/
def clearFailover (s : JobFsm) (id : MasterID) (job : JobHolder) : JobFsm :=
  { s with waitAckJobs := s.waitAckJobs.insert id { job with addFromFailover := false } }

/-- `IterWaitAckJobs`, visiting the keys of `waitAckJobs` in `order`. The id `dispatchJobFn`
returns is dropped. -/
def iterWaitAckJobs (dispatchJobFn : DispatchJobFn) : List MasterID → JobFsm → Pass
  | [], s => ⟨s, [], none⟩
  | id :: order, s =>
    match s.waitAckJobs.lookup id with
    | none => iterWaitAckJobs dispatchJobFn order s
    | some job =>
      if job.addFromFailover then
        match dispatchJobFn (s.heap job.masterMeta) with
        | .error err => ⟨s, [], some (job.masterMeta, err)⟩
        | .ok _ =>
          let r := iterWaitAckJobs dispatchJobFn order (s.clearFailover id job)
          { r with dispatched := job.masterMeta :: r.dispatched }
      else iterWaitAckJobs dispatchJobFn order s

section IterWaitAckJobs

variable {f : DispatchJobFn} {order : List MasterID} {s : JobFsm} {k : MasterID} {job : JobHolder}

theorem iterWaitAckJobs_cons_none (hk : s.waitAckJobs.lookup k = none) :
    iterWaitAckJobs f (k :: order) s = iterWaitAckJobs f order s := by
  simp [iterWaitAckJobs, hk]

theorem iterWaitAckJobs_cons_skip (hk : s.waitAckJobs.lookup k = some job)
    (hb : job.addFromFailover = false) :
    iterWaitAckJobs f (k :: order) s = iterWaitAckJobs f order s := by
  simp [iterWaitAckJobs, hk, hb]

theorem iterWaitAckJobs_cons_error (hk : s.waitAckJobs.lookup k = some job)
    (hb : job.addFromFailover = true) {err : DispatchError}
    (he : f (s.heap job.masterMeta) = .error err) :
    iterWaitAckJobs f (k :: order) s = ⟨s, [], some (job.masterMeta, err)⟩ := by
  simp [iterWaitAckJobs, hk, hb, he]

theorem iterWaitAckJobs_cons_ok (hk : s.waitAckJobs.lookup k = some job)
    (hb : job.addFromFailover = true) {id : MasterID} (ho : f (s.heap job.masterMeta) = .ok id) :
    iterWaitAckJobs f (k :: order) s =
      { iterWaitAckJobs f order (s.clearFailover k job) with
        dispatched := job.masterMeta ::
          (iterWaitAckJobs f order (s.clearFailover k job)).dispatched } := by
  simp [iterWaitAckJobs, hk, hb, ho]

end IterWaitAckJobs

/-- `JobOnline`. -/
def jobOnline (s : JobFsm) (worker : WorkerHandle) : JobFsm × Option FsmError :=
  match s.waitAckJobs.lookup worker.id with
  | none => (s, some (.workerNotFound worker.id))
  | some job =>
    ({ s with
        onlineJobs := s.onlineJobs.insert worker.id ⟨some worker, job.masterMeta, false⟩
        waitAckJobs := s.waitAckJobs.erase worker.id }, none)

theorem jobOnline_of_lookup_none {s : JobFsm} {worker : WorkerHandle}
    (h : s.waitAckJobs.lookup worker.id = none) :
    s.jobOnline worker = (s, some (.workerNotFound worker.id)) := by
  simp [jobOnline, h]

theorem jobOnline_of_lookup_some {s : JobFsm} {worker : WorkerHandle} {job : JobHolder}
    (h : s.waitAckJobs.lookup worker.id = some job) :
    s.jobOnline worker =
      ({ s with
        onlineJobs := s.onlineJobs.insert worker.id ⟨some worker, job.masterMeta, false⟩
        waitAckJobs := s.waitAckJobs.erase worker.id }, none) := by
  simp [jobOnline, h]

/-- The tail of `JobOffline`: with `needFailover` the job goes back to `pendingJobs`. -/
def requeue (s : JobFsm) (id : MasterID) (job : JobHolder) (needFailover : Bool) : JobFsm :=
  if needFailover then { s with pendingJobs := s.pendingJobs.insert id job.masterMeta } else s

/-- `JobOffline`. -/
def jobOffline (s : JobFsm) (worker : WorkerHandle) (needFailover : Bool) : JobFsm :=
  match s.onlineJobs.lookup worker.id with
  | some job =>
    requeue { s with onlineJobs := s.onlineJobs.erase worker.id } worker.id job needFailover
  | none =>
    match s.waitAckJobs.lookup worker.id with
    | none => s
    | some job =>
      requeue { s with waitAckJobs := s.waitAckJobs.erase worker.id } worker.id job needFailover

section JobOffline

variable {s : JobFsm} {worker : WorkerHandle} {needFailover : Bool} {job : JobHolder}

theorem jobOffline_of_online (h : s.onlineJobs.lookup worker.id = some job) :
    s.jobOffline worker needFailover =
      requeue { s with onlineJobs := s.onlineJobs.erase worker.id } worker.id job needFailover := by
  simp [jobOffline, h]

theorem jobOffline_of_waitAck (ho : s.onlineJobs.lookup worker.id = none)
    (h : s.waitAckJobs.lookup worker.id = some job) :
    s.jobOffline worker needFailover =
      requeue { s with waitAckJobs := s.waitAckJobs.erase worker.id } worker.id job needFailover := by
  simp [jobOffline, ho, h]

theorem jobOffline_of_unknown (ho : s.onlineJobs.lookup worker.id = none)
    (h : s.waitAckJobs.lookup worker.id = none) : s.jobOffline worker needFailover = s := by
  simp [jobOffline, ho, h]

end JobOffline

/-- `JobDispatchFailed`. -/
def jobDispatchFailed (s : JobFsm) (worker : WorkerHandle) : JobFsm × Option FsmError :=
  match s.waitAckJobs.lookup worker.id with
  | none => (s, some (.workerNotFound worker.id))
  | some job =>
    ({ s with
        pendingJobs := s.pendingJobs.insert worker.id job.masterMeta
        waitAckJobs := s.waitAckJobs.erase worker.id }, none)

theorem jobDispatchFailed_of_lookup_none {s : JobFsm} {worker : WorkerHandle}
    (h : s.waitAckJobs.lookup worker.id = none) :
    s.jobDispatchFailed worker = (s, some (.workerNotFound worker.id)) := by
  simp [jobDispatchFailed, h]

theorem jobDispatchFailed_of_lookup_some {s : JobFsm} {worker : WorkerHandle} {job : JobHolder}
    (h : s.waitAckJobs.lookup worker.id = some job) :
    s.jobDispatchFailed worker =
      ({ s with
        pendingJobs := s.pendingJobs.insert worker.id job.masterMeta
        waitAckJobs := s.waitAckJobs.erase worker.id }, none) := by
  simp [jobDispatchFailed, h]

/-! ## Queries -/

/-- `JobCount`. -/
def jobCount (s : JobFsm) : JobStatus → ℕ
  | .pending => s.pendingJobs.len
  | .dispatched => s.waitAckJobs.len
  | .online => s.onlineJobs.len
  | .other => 0

/-- `QueryOnlineJob`. -/
def queryOnlineJob (s : JobFsm) (jobID : MasterID) : Option JobHolder :=
  s.onlineJobs.lookup jobID

/-- The response `QueryJob` builds for the object at `job`. -/
def response (s : JobFsm) (job : Ptr) (status : JobStatus) : QueryJobResponse :=
  { tp := (s.heap job).tp, config := (s.heap job).config, status := status }

/-- `checkPendingJob` of `QueryJob`. -/
def checkPendingJob (s : JobFsm) (jobID : MasterID) : Option QueryJobResponse :=
  (s.pendingJobs.lookup jobID).map fun job => s.response job .pending

/-- `checkWaitAckJob` of `QueryJob`. -/
def checkWaitAckJob (s : JobFsm) (jobID : MasterID) : Option QueryJobResponse :=
  (s.waitAckJobs.lookup jobID).map fun job => s.response job.masterMeta .dispatched

/-- `checkOnlineJob` of `QueryJob`. An online holder always has a handle (`JobOnline` stores
it); without one Go's call of `ToPB` would not return, and the model answers `none`. -/
def checkOnlineJob (s : JobFsm) (jobID : MasterID) : Option QueryJobResponse :=
  match s.onlineJobs.lookup jobID with
  | none => none
  | some job =>
    match job.workerHandle with
    | none => none
    | some worker =>
      match worker.toPB with
      | (_, some err) => some { s.response job.masterMeta .online with err := some ⟨.unknownError, err⟩ }
      | (some jobInfo, none) => some { s.response job.masterMeta .online with jobMasterInfo := jobInfo }
      | (none, none) => none

end JobFsm

/-- `QueryJob`, whose three lookups each take `jobsMu` on their own: they run against the states
`s₀`, `s₁` and `s₂` the FSM is in when each gets the lock. -/
def queryJob (jobID : MasterID) (s₀ s₁ s₂ : JobFsm) : Option QueryJobResponse :=
  s₀.checkPendingJob jobID <|> s₁.checkWaitAckJob jobID <|> s₂.checkOnlineJob jobID

end Microcosm
