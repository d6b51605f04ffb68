import Microcosm.JobFsm.Passes

/-!
# Racing queries

`QueryJob` takes `jobsMu` once for each map it looks in, so other calls run between its three
lookups: they read the states `s`, `Op.run ops₁ s` and `Op.run ops₂ (Op.run ops₁ s)`.

A call that moves a job back to `pendingJobs` (`Op.Requeues`) runs against the order of the
lookups, and can hide a job that was held all along from all three
(`queryJob_misses_requeued_job`). Without such a call a job held all along is found, by the
lookup of a map that held it at that moment, unless it is online and its handle reports neither
info nor error (`queryJob_of_no_requeue`).

Over a whole run of calls, the records of `Records` are accounted for: those at the end and
those the run dropped are those at the start and those it added (`records_run`).
-/

namespace Microcosm

namespace JobFsm

/-- `jobID` is a key of one of the three maps. -/
def Holds (s : JobFsm) (jobID : MasterID) : Prop :=
  jobID ∈ s.pendingJobs ∨ jobID ∈ s.waitAckJobs ∨ jobID ∈ s.onlineJobs

instance (s : JobFsm) (jobID : MasterID) : Decidable (s.Holds jobID) :=
  inferInstanceAs (Decidable (_ ∨ _ ∨ _))

/-- Every online holder has a worker handle. -/
def Handled (m : GoMap JobHolder) : Prop :=
  ∀ k v, m.lookup k = some v → v.workerHandle.isSome

theorem handled_empty : Handled ∅ := fun _ _ h => by simp at h

theorem Handled.erase {m : GoMap JobHolder} (h : Handled m) (k : MasterID) : Handled (m.erase k) :=
  fun _ _ hk => h _ _ (GoMap.lookup_erase_eq_some.1 hk).2

theorem Handled.insert {m : GoMap JobHolder} (h : Handled m) (k : MasterID) {v : JobHolder}
    (hv : v.workerHandle.isSome) : Handled (m.insert k v) := fun _ _ hk => by
  rcases GoMap.lookup_insert_eq_some.1 hk with ⟨-, rfl⟩ | ⟨-, hk⟩
  · exact hv
  · exact h _ _ hk

/-! ## What each call does to a key -/

section Keys

variable {s : JobFsm} {worker : WorkerHandle} {b : Bool} {k : MasterID}

theorem exists_lookup_of_mem {V : Type} {m : GoMap V} (h : k ∈ m) : ∃ v, m.lookup k = some v :=
  Option.isSome_iff_exists.1 (AList.lookup_isSome.2 h)

theorem pendingJobs_jobOnline : (s.jobOnline worker).1.pendingJobs = s.pendingJobs := by
  cases hw : s.waitAckJobs.lookup worker.id with
  | none => rw [jobOnline_of_lookup_none hw]
  | some job => rw [jobOnline_of_lookup_some hw]

theorem onlineJobs_jobOnline (s : JobFsm) (worker : WorkerHandle) :
    (s.jobOnline worker).1.onlineJobs = s.onlineJobs ∨
      ∃ job, s.waitAckJobs.lookup worker.id = some job ∧ (s.jobOnline worker).1.onlineJobs =
        s.onlineJobs.insert worker.id ⟨some worker, job.masterMeta, false⟩ := by
  cases hw : s.waitAckJobs.lookup worker.id with
  | none => rw [jobOnline_of_lookup_none hw]; exact .inl rfl
  | some job => rw [jobOnline_of_lookup_some hw]; exact .inr ⟨job, rfl, rfl⟩

theorem onlineJobs_requeue (id : MasterID) (job : JobHolder) :
    (s.requeue id job b).onlineJobs = s.onlineJobs := by
  cases b <;> rfl

theorem mem_pending_requeue {id : MasterID} {job : JobHolder}
    (h : k ∈ (s.requeue id job b).pendingJobs) : k ∈ s.pendingJobs ∨ b = true ∧ k = id := by
  cases b
  · exact .inl h
  · exact ((AList.mem_insert _).1 h).symm.imp_right (⟨rfl, ·⟩)

/-- `JobOffline` deletes the worker's key from `onlineJobs`, whichever map held it. -/
theorem onlineJobs_jobOffline : (s.jobOffline worker b).onlineJobs = s.onlineJobs.erase worker.id := by
  cases ho : s.onlineJobs.lookup worker.id with
  | some job => rw [jobOffline_of_online ho, onlineJobs_requeue]
  | none =>
    have hn : worker.id ∉ s.onlineJobs := AList.lookup_eq_none.1 ho
    rw [GoMap.erase_of_not_mem hn]
    cases hw : s.waitAckJobs.lookup worker.id with
    | none => rw [jobOffline_of_unknown ho hw]
    | some job => rw [jobOffline_of_waitAck ho hw, onlineJobs_requeue]

theorem mem_pending_jobOffline (h : k ∈ (s.jobOffline worker b).pendingJobs) :
    k ∈ s.pendingJobs ∨ b = true ∧ k = worker.id := by
  cases ho : s.onlineJobs.lookup worker.id with
  | some job => rw [jobOffline_of_online ho] at h; exact (mem_pending_requeue h :)
  | none =>
    cases hw : s.waitAckJobs.lookup worker.id with
    | none => rw [jobOffline_of_unknown ho hw] at h; exact .inl h
    | some job => rw [jobOffline_of_waitAck ho hw] at h; exact (mem_pending_requeue h :)

theorem onlineJobs_jobDispatchFailed : (s.jobDispatchFailed worker).1.onlineJobs = s.onlineJobs := by
  cases hw : s.waitAckJobs.lookup worker.id with
  | none => rw [jobDispatchFailed_of_lookup_none hw]
  | some job => rw [jobDispatchFailed_of_lookup_some hw]

theorem mem_pending_jobDispatchFailed (h : k ∈ (s.jobDispatchFailed worker).1.pendingJobs) :
    k ∈ s.pendingJobs ∨ k = worker.id := by
  cases hw : s.waitAckJobs.lookup worker.id with
  | none => rw [jobDispatchFailed_of_lookup_none hw] at h; exact .inl h
  | some job =>
    rw [jobDispatchFailed_of_lookup_some hw] at h
    exact ((AList.mem_insert _).1 h).symm

end Keys

/-! ## The lookups -/

section Lookups

variable {s : JobFsm} {jobID : MasterID}

theorem checkPendingJob_of_mem (h : jobID ∈ s.pendingJobs) :
    ∃ r, s.checkPendingJob jobID = some r ∧ r.status = .pending := by
  obtain ⟨p, hp⟩ := exists_lookup_of_mem h
  exact ⟨_, by rw [checkPendingJob, hp]; rfl, rfl⟩

theorem checkPendingJob_of_not_mem (h : jobID ∉ s.pendingJobs) : s.checkPendingJob jobID = none := by
  rw [checkPendingJob, AList.lookup_eq_none.2 h]; rfl

theorem checkWaitAckJob_of_mem (h : jobID ∈ s.waitAckJobs) :
    ∃ r, s.checkWaitAckJob jobID = some r ∧ r.status = .dispatched := by
  obtain ⟨p, hp⟩ := exists_lookup_of_mem h
  exact ⟨_, by rw [checkWaitAckJob, hp]; rfl, rfl⟩

theorem checkWaitAckJob_of_not_mem (h : jobID ∉ s.waitAckJobs) : s.checkWaitAckJob jobID = none := by
  rw [checkWaitAckJob, AList.lookup_eq_none.2 h]; rfl

/-- An online job is reported, unless its handle gives neither info nor error. -/
theorem checkOnlineJob_of_mem (hh : Handled s.onlineJobs) (h : jobID ∈ s.onlineJobs) :
    (∃ r, s.checkOnlineJob jobID = some r ∧ r.status = .online) ∨
      ∃ job worker, s.onlineJobs.lookup jobID = some job ∧ job.workerHandle = some worker ∧
        worker.toPB = (none, none) := by
  obtain ⟨job, hj⟩ := exists_lookup_of_mem h
  obtain ⟨worker, hw⟩ := Option.isSome_iff_exists.1 (hh _ _ hj)
  rcases e : worker.toPB with ⟨_ | info, _ | err⟩
  · exact .inr ⟨job, worker, hj, hw, e⟩
  all_goals exact .inl ⟨_, by simp only [checkOnlineJob, hj, hw, e]; rfl, rfl⟩

end Lookups

end JobFsm

/-! ## Calls between the lookups -/

namespace Op

/-- The state after the calls `ops`, made one after another. -/
def run : List Op → JobFsm → JobFsm
  | [], s => s
  | op :: ops, s => run ops (op.apply s)

/-- Each call of `ops` is allowed in the state it is made in. -/
def Valid : List Op → JobFsm → Prop
  | [], _ => True
  | op :: ops, s => op.Allowed s ∧ Valid ops (op.apply s)

/-- `P` holds in every state the calls `ops` pass through, the first and the last included. -/
def Always (P : JobFsm → Prop) : List Op → JobFsm → Prop
  | [], s => P s
  | op :: ops, s => P s ∧ Always P ops (op.apply s)

/-- The call moves the job held under `jobID` back to `pendingJobs`. -/
def Requeues (jobID : MasterID) : Op → Prop
  | jobOffline worker needFailover => needFailover = true ∧ worker.id = jobID
  | jobDispatchFailed worker => worker.id = jobID
  | _ => False

instance decValid : ∀ (ops : List Op) (s : JobFsm), Decidable (Valid ops s)
  | [], _ => isTrue trivial
  | op :: ops, s => @instDecidableAnd _ _ (op.decAllowed s) (decValid ops _)

instance decAlways (P : JobFsm → Prop) [DecidablePred P] :
    ∀ (ops : List Op) (s : JobFsm), Decidable (Always P ops s)
  | [], s => inferInstanceAs (Decidable (P s))
  | _ :: ops, s => @instDecidableAnd _ _ (inferInstanceAs (Decidable (P s))) (decAlways P ops _)

instance decRequeues (jobID : MasterID) : ∀ op : Op, Decidable (op.Requeues jobID)
  | jobDispatched _ _ => isFalse not_false
  | iterPendingJobs _ _ => isFalse not_false
  | iterWaitAckJobs _ _ => isFalse not_false
  | jobOnline _ => isFalse not_false
  | jobOffline _ _ => inferInstanceAs (Decidable (_ ∧ _))
  | jobDispatchFailed _ => inferInstanceAs (Decidable (_ = _))

/-- What the calls `ops` drop from the records, each in the state it is made in. -/
def runDrops : List Op → JobFsm → Multiset Ptr
  | [], _ => 0
  | op :: ops, s => op.drops s + runDrops ops (op.apply s)

theorem Always.head {P : JobFsm → Prop} : ∀ {ops : List Op} {s : JobFsm}, Always P ops s → P s
  | [], _, h => h
  | _ :: _, _, h => h.1

end Op

/-! ## Runs between the lookups -/

section Runs

open JobFsm

variable {s : JobFsm} {jobID : MasterID}

theorem Reachable.step (hs : Reachable s) {op : Op} (ha : op.Allowed s) : Reachable (op.apply s) :=
  let ⟨_, h⟩ := hs
  ⟨_, h.step ha⟩

theorem Reachable.run {ops : List Op} (hs : Reachable s) (ha : Op.Valid ops s) :
    Reachable (Op.run ops s) := by
  induction ops generalizing s with
  | nil => exact hs
  | cons op ops ih => exact ih (hs.step ha.1) ha.2

/-- Only `JobOnline` adds to `onlineJobs`, with the worker's handle. -/
theorem JobFsm.Handled.apply (h : Handled s.onlineJobs) (op : Op) : Handled (op.apply s).onlineJobs := by
  cases op with
  | jobDispatched job b => exact h
  | iterPendingJobs f order => simpa only [Op.apply, onlineJobs_iterPendingJobs] using h
  | iterWaitAckJobs f order => simpa only [Op.apply, (iterWaitAckJobs_frame order s).2.2.1] using h
  | jobOnline worker =>
    rcases onlineJobs_jobOnline s worker with e | ⟨job, -, e⟩
    · simpa only [Op.apply, e] using h
    · simpa only [Op.apply, e] using h.insert worker.id (v := ⟨some worker, job.masterMeta, false⟩) rfl
  | jobOffline worker b => simpa only [Op.apply, onlineJobs_jobOffline] using h.erase worker.id
  | jobDispatchFailed worker => simpa only [Op.apply, onlineJobs_jobDispatchFailed] using h

theorem Reach.handled {log : List Mark} (h : Reach s log) : Handled s.onlineJobs := by
  induction h with
  | init heap => exact handled_empty
  | step _ _ ih => exact ih.apply _

/-- Only a requeue adds a key to `pendingJobs`. -/
theorem mem_pending_of_apply {op : Op} (hr : ¬ op.Requeues jobID)
    (h : jobID ∈ (op.apply s).pendingJobs) : jobID ∈ s.pendingJobs := by
  cases op with
  | jobDispatched job b => exact h
  | iterPendingJobs f order =>
    obtain ⟨v, hv⟩ := exists_lookup_of_mem h
    exact GoMap.mem_of_lookup (lookup_pending_of_iterPendingJobs order s hv)
  | iterWaitAckJobs f order => simpa only [Op.apply, (iterWaitAckJobs_frame order s).2.1] using h
  | jobOnline worker => simpa only [Op.apply, pendingJobs_jobOnline] using h
  | jobOffline worker b =>
    exact (mem_pending_jobOffline h).resolve_right fun ⟨hb, hk⟩ => hr ⟨hb, hk.symm⟩
  | jobDispatchFailed worker =>
    exact (mem_pending_jobDispatchFailed h).resolve_right fun hk => hr hk.symm

/-- An online key stays online through any call but `JobOffline`, and through a
`JobOffline(_, false)` of another worker; one of its own worker leaves it in no map. -/
theorem mem_online_apply (hi : Inv s) {op : Op} (hr : ¬ op.Requeues jobID)
    (hh : (op.apply s).Holds jobID) (h : jobID ∈ s.onlineJobs) : jobID ∈ (op.apply s).onlineJobs := by
  cases op with
  | jobDispatched job b => exact h
  | iterPendingJobs f order => simpa only [Op.apply, onlineJobs_iterPendingJobs] using h
  | iterWaitAckJobs f order => simpa only [Op.apply, (iterWaitAckJobs_frame order s).2.2.1] using h
  | jobOnline worker =>
    rcases onlineJobs_jobOnline s worker with e | ⟨job, -, e⟩
    · simpa only [Op.apply, e] using h
    · simpa only [Op.apply, e] using (AList.mem_insert _).2 (.inr h)
  | jobOffline worker b =>
    simp only [Op.apply, onlineJobs_jobOffline, AList.mem_erase]
    refine ⟨fun hk => ?_, h⟩
    subst hk
    cases b
    · obtain ⟨job, ho⟩ := exists_lookup_of_mem h
      have hh' : (s.jobOffline worker false).Holds worker.id := hh
      rw [jobOffline_of_online ho] at hh'
      rcases hh' with hp | hw | ho'
      · exact hi.pending_online _ hp h
      · exact hi.waitAck_online _ hw h
      · exact (AList.mem_erase.1 ho').1 rfl
    · exact hr ⟨rfl, rfl⟩
  | jobDispatchFailed worker => simpa only [Op.apply, onlineJobs_jobDispatchFailed] using h

theorem mem_pending_of_run {ops : List Op} (hr : ∀ op ∈ ops, ¬ op.Requeues jobID)
    (h : jobID ∈ (Op.run ops s).pendingJobs) : jobID ∈ s.pendingJobs := by
  induction ops generalizing s with
  | nil => exact h
  | cons op ops ih =>
    exact mem_pending_of_apply (hr op (.head _)) (ih (fun o ho => hr o (.tail _ ho)) h)

theorem mem_online_run {ops : List Op} (hs : Reachable s) (ha : Op.Valid ops s)
    (hh : Op.Always (·.Holds jobID) ops s) (hr : ∀ op ∈ ops, ¬ op.Requeues jobID)
    (h : jobID ∈ s.onlineJobs) : jobID ∈ (Op.run ops s).onlineJobs := by
  induction ops generalizing s with
  | nil => exact h
  | cons op ops ih =>
    exact ih (hs.step ha.1) ha.2 hh.2 (fun o ho => hr o (.tail _ ho))
      (mem_online_apply hs.inv (hr op (.head _)) hh.2.head h)

/-- Over any run of allowed calls from a reachable state, no job is lost or held twice: the
records at the end, with those the run's `JobOffline(w, false)` calls dropped, are the records at
the start with the jobs its `JobDispatched` calls added. -/
theorem records_run {ops : List Op} (hs : Reachable s) (ha : Op.Valid ops s) :
    (Op.run ops s).records + Op.runDrops ops s = s.records + (ops.map Op.adds).sum ∧
      (Op.run ops s).records.Nodup := by
  refine ⟨?_, (hs.run ha).inv.records_nodup⟩
  induction ops generalizing s with
  | nil => simp [Op.run, Op.runDrops]
  | cons op ops ih =>
    have e := records_apply hs.inv ha.1
    have ih' := ih (hs.step ha.1) ha.2
    simp only [Op.run, Op.runDrops, List.map_cons, List.sum_cons]
    calc (Op.run ops (op.apply s)).records + (op.drops s + Op.runDrops ops (op.apply s))
        = op.drops s + ((Op.run ops (op.apply s)).records + Op.runDrops ops (op.apply s)) :=
          add_left_comm _ _ _
      _ = ((op.apply s).records + op.drops s) + (ops.map Op.adds).sum := by
          rw [ih', ← add_assoc, add_comm (op.drops s)]
      _ = s.records + (op.adds + (ops.map Op.adds).sum) := by rw [e, add_assoc]

/-- Two jobs dispatched one after the other are both held, once each. -/
theorem records_run_two_jobs :
    Reachable (newJobFsm fun n => ⟨s!"job-{n}", 0, []⟩) ∧
      Op.Valid [.jobDispatched 0 false, .jobDispatched 1 false]
        (newJobFsm fun n => ⟨s!"job-{n}", 0, []⟩) ∧
      ((Op.run [.jobDispatched 0 false, .jobDispatched 1 false]
          (newJobFsm fun n => ⟨s!"job-{n}", 0, []⟩)).records +
          Op.runDrops [.jobDispatched 0 false, .jobDispatched 1 false]
            (newJobFsm fun n => ⟨s!"job-{n}", 0, []⟩) =
        (newJobFsm fun n => ⟨s!"job-{n}", 0, []⟩).records +
          ([Op.jobDispatched 0 false, .jobDispatched 1 false].map Op.adds).sum ∧
        (Op.run [.jobDispatched 0 false, .jobDispatched 1 false]
          (newJobFsm fun n => ⟨s!"job-{n}", 0, []⟩)).records.Nodup) :=
  have hs : Reachable (newJobFsm fun n => ⟨s!"job-{n}", 0, []⟩) := ⟨_, .init _⟩
  have ha : Op.Valid [.jobDispatched 0 false, .jobDispatched 1 false]
      (newJobFsm fun n => ⟨s!"job-{n}", 0, []⟩) := by decide
  ⟨hs, ha, records_run hs ha⟩

end Runs

open JobFsm in
/-- `QueryJob` misses a job held all along: it is online when the first two lookups run, and a
`JobOffline(_, true)` moves it back to `pendingJobs` before the last. -/
theorem queryJob_misses_requeued_job :
    ¬ ∀ s : JobFsm, Reachable s → ∀ (jobID : MasterID) (ops₁ ops₂ : List Op),
      Op.Valid ops₁ s → Op.Valid ops₂ (Op.run ops₁ s) →
      Op.Always (·.Holds jobID) ops₁ s → Op.Always (·.Holds jobID) ops₂ (Op.run ops₁ s) →
      (queryJob jobID s (Op.run ops₁ s) (Op.run ops₂ (Op.run ops₁ s))).isSome ∨
        ∃ job worker, (Op.run ops₂ (Op.run ops₁ s)).onlineJobs.lookup jobID = some job ∧
          job.workerHandle = some worker ∧ worker.toPB = (none, none) := by
  intro h
  have hs : Reachable (((newJobFsm fun n => ⟨s!"job-{n}", 0, []⟩).jobDispatched 0 false).jobOnline
      ⟨"job-0", (some ⟨[]⟩, none)⟩).1 :=
    ⟨_, @Reach.step _ _ (.jobOnline ⟨"job-0", (some ⟨[]⟩, none)⟩)
      (@Reach.step _ _ (.jobDispatched 0 false) (.init _) (by decide)) trivial⟩
  rcases h _ hs "job-0" [] [.jobOffline ⟨"job-0", (some ⟨[]⟩, none)⟩ true] trivial
      ⟨trivial, trivial⟩ (by decide) (by decide) with h | ⟨job, -, hj, -⟩
  · exact absurd h (by decide)
  · have h' := congrArg Option.isSome hj
    rw [Option.isSome_some] at h'
    revert h'
    decide

open JobFsm in
/-- When no call between its lookups moves the job back to `pendingJobs`, `QueryJob` finds a job
held from its second lookup on, in the map its lookup reads; the one miss is an online job whose
handle reports neither info nor error. -/
theorem queryJob_of_no_requeue {s : JobFsm} (hs : Reachable s) {jobID : MasterID}
    {ops₁ ops₂ : List Op} (ha₁ : Op.Valid ops₁ s) (ha₂ : Op.Valid ops₂ (Op.run ops₁ s))
    (hh : Op.Always (·.Holds jobID) ops₂ (Op.run ops₁ s))
    (hr : ∀ op ∈ ops₁ ++ ops₂, ¬ op.Requeues jobID) :
    (∃ r, queryJob jobID s (Op.run ops₁ s) (Op.run ops₂ (Op.run ops₁ s)) = some r ∧
      (r.status = .pending ∧ jobID ∈ s.pendingJobs ∨
        r.status = .dispatched ∧ jobID ∈ (Op.run ops₁ s).waitAckJobs ∨
        r.status = .online ∧ jobID ∈ (Op.run ops₂ (Op.run ops₁ s)).onlineJobs)) ∨
    ∃ job worker, (Op.run ops₂ (Op.run ops₁ s)).onlineJobs.lookup jobID = some job ∧
      job.workerHandle = some worker ∧ worker.toPB = (none, none) := by
  by_cases hp : jobID ∈ s.pendingJobs
  · obtain ⟨r, e, hst⟩ := checkPendingJob_of_mem hp
    exact .inl ⟨r, by simp only [queryJob, e]; rfl, .inl ⟨hst, hp⟩⟩
  have hp₁ : jobID ∉ (Op.run ops₁ s).pendingJobs :=
    fun h => hp (mem_pending_of_run (fun op h' => hr op (List.mem_append_left _ h')) h)
  by_cases hw : jobID ∈ (Op.run ops₁ s).waitAckJobs
  · obtain ⟨r, e, hst⟩ := checkWaitAckJob_of_mem hw
    exact .inl ⟨r, by simp only [queryJob, checkPendingJob_of_not_mem hp, e]; rfl,
      .inr (.inl ⟨hst, hw⟩)⟩
  have ho₁ : jobID ∈ (Op.run ops₁ s).onlineJobs := (hh.head.resolve_left hp₁).resolve_left hw
  have hs₁ := hs.run ha₁
  have ho₂ := mem_online_run hs₁ ha₂ hh (fun op h' => hr op (List.mem_append_right _ h')) ho₁
  obtain ⟨_, hl⟩ := hs₁.run ha₂
  refine (checkOnlineJob_of_mem hl.handled ho₂).imp_left fun ⟨r, e, hst⟩ => ⟨r, ?_, .inr (.inr ⟨hst, ho₂⟩)⟩
  simp only [queryJob, checkPendingJob_of_not_mem hp, checkWaitAckJob_of_not_mem hw, e]; rfl

/-- A job dispatched before the query and brought online between its first two lookups is
found online. -/
theorem queryJob_finds_job_brought_online :
    (∃ r, queryJob "job-0" ((newJobFsm fun n => ⟨s!"job-{n}", 0, []⟩).jobDispatched 0 false)
        (Op.run [.jobOnline ⟨"job-0", (some ⟨[]⟩, none)⟩]
          ((newJobFsm fun n => ⟨s!"job-{n}", 0, []⟩).jobDispatched 0 false))
        (Op.run [] (Op.run [.jobOnline ⟨"job-0", (some ⟨[]⟩, none)⟩]
          ((newJobFsm fun n => ⟨s!"job-{n}", 0, []⟩).jobDispatched 0 false))) = some r ∧
      (r.status = .pending ∧
          "job-0" ∈ ((newJobFsm fun n => ⟨s!"job-{n}", 0, []⟩).jobDispatched 0 false).pendingJobs ∨
        r.status = .dispatched ∧ "job-0" ∈ (Op.run [.jobOnline ⟨"job-0", (some ⟨[]⟩, none)⟩]
          ((newJobFsm fun n => ⟨s!"job-{n}", 0, []⟩).jobDispatched 0 false)).waitAckJobs ∨
        r.status = .online ∧ "job-0" ∈ (Op.run [] (Op.run [.jobOnline ⟨"job-0", (some ⟨[]⟩, none)⟩]
          ((newJobFsm fun n => ⟨s!"job-{n}", 0, []⟩).jobDispatched 0 false))).onlineJobs)) ∨
    ∃ job worker, (Op.run [] (Op.run [.jobOnline ⟨"job-0", (some ⟨[]⟩, none)⟩]
        ((newJobFsm fun n => ⟨s!"job-{n}", 0, []⟩).jobDispatched 0 false))).onlineJobs.lookup
          "job-0" = some job ∧
      job.workerHandle = some worker ∧ worker.toPB = (none, none) :=
  queryJob_of_no_requeue ⟨_, @Reach.step _ _ (.jobDispatched 0 false) (.init _) (by decide)⟩
    (by decide) (by decide) (by decide) (by decide)

end Microcosm
