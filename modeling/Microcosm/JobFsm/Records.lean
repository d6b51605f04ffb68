import Mathlib.Data.Multiset.Nodup
import Microcosm.JobFsm.Invariant

/-!
# No record is lost or held twice

The records of the FSM are the `MasterMeta` pointers its maps hold (`JobFsm.recs`, one multiset
per `Place`). Each call moves records between places in one way only, stated once per call as a
`Shift`: the records of `D` leave place `a` and enter place `b`, and nothing else changes. From
the shifts, the multiset of all records (`records`) is kept by every call but `JobDispatched`,
which adds its job, and `JobOffline(w, false)`, which drops `w`'s record (`records_step`); and in a
reachable state no record is held twice (`Inv.records_nodup`).
-/

namespace Microcosm

/-- The map a record is held in. -/
inductive Place
  | pending
  | waitAck
  | online
  deriving DecidableEq, Repr

namespace JobFsm

/-- The records held in one map. -/
def recs (s : JobFsm) : Place → Multiset Ptr
  | .pending => GoMap.vals s.pendingJobs
  | .waitAck => (GoMap.vals s.waitAckJobs).map JobHolder.masterMeta
  | .online => (GoMap.vals s.onlineJobs).map JobHolder.masterMeta

/-- All records of the FSM. -/
def records (s : JobFsm) : Multiset Ptr := s.recs .pending + s.recs .waitAck + s.recs .online

/-- `s'` holds the records of `s`, but those of `D` left place `a` and entered place `b`; `none`
is outside the FSM. -/
def Shift (s s' : JobFsm) (D : Multiset Ptr) (a b : Option Place) : Prop :=
  ∀ pl, s'.recs pl + (if a = some pl then D else 0) = s.recs pl + (if b = some pl then D else 0)

/-! ## Shifts -/

section Shift

variable {s s' s'' : JobFsm} {D D' : Multiset Ptr} {a b : Option Place}

theorem Shift.zero : Shift s s 0 a b := by
  intro pl; simp

theorem Shift.trans (h₁ : Shift s s' D a b) (h₂ : Shift s' s'' D' a b) : Shift s s'' (D + D') a b := by
  intro pl
  have e₁ := h₁ pl
  have e₂ := h₂ pl
  split_ifs at e₁ e₂ ⊢
  · rw [add_right_cancel e₂, add_right_cancel e₁]
  · rw [add_comm D, ← add_assoc, e₂, add_zero, e₁]
  · rw [add_zero] at e₁; rw [e₂, e₁, add_assoc]
  · rw [e₂, e₁]

/-- The records entering or leaving the FSM in a shift. -/
theorem ite_isSome (c : Option Place) (D : Multiset Ptr) :
    (if c.isSome then D else 0) = (if c = some .pending then D else 0) +
      (if c = some .waitAck then D else 0) + (if c = some .online then D else 0) := by
  rcases c with _ | _ | _ | _ <;> simp

theorem add_three_add_three (a b c x y z : Multiset Ptr) :
    a + b + c + (x + y + z) = (a + x) + (b + y) + (c + z) := by
  rw [add_add_add_comm, add_add_add_comm a]

/-- A shift moves the whole multiset of records by what enters and leaves the FSM. -/
theorem Shift.records (h : Shift s s' D a b) :
    s'.records + (if a.isSome then D else 0) = s.records + (if b.isSome then D else 0) := by
  rw [ite_isSome a, ite_isSome b, JobFsm.records, JobFsm.records, add_three_add_three,
    add_three_add_three, h .pending, h .waitAck, h .online]

end Shift

/-! ## One shift per call -/

section Calls

private theorem add_singleton (X : Multiset Ptr) (p : Ptr) : X + {p} = p ::ₘ X := by
  rw [add_comm, Multiset.singleton_add]

variable {s : JobFsm} {k : MasterID} {p : Ptr} {job : JobHolder} {worker : WorkerHandle}

theorem shift_jobDispatched {job : Ptr} (hf : s.Fresh (s.heap job).id) (b : Bool) :
    Shift s (s.jobDispatched job b) {job} none (some .waitAck) := by
  rintro (_ | _ | _) <;>
    simp [recs, jobDispatched, GoMap.vals_insert_of_not_mem _ hf.2.1, add_singleton]

theorem shift_pendingDispatched (hk : s.pendingJobs.lookup k = some p) {id : MasterID}
    (hf : Fresh { s with pendingJobs := s.pendingJobs.erase k } id) :
    Shift s (s.pendingDispatched k p id) {p} (some .pending) (some .waitAck) := by
  have hw : id ∉ s.waitAckJobs := hf.2.1
  rintro (_ | _ | _) <;>
    simp [recs, pendingDispatched, GoMap.vals_eq_cons_erase hk, GoMap.vals_insert_of_not_mem _ hw,
      add_singleton]

theorem shift_iterPendingJobs (f : DispatchJobFn) (order : List MasterID)
    (hf : s.FreshIds f order) :
    Shift s (s.iterPendingJobs f order).fsm (s.iterPendingJobs f order).dispatched
      (some .pending) (some .waitAck) := by
  induction order, s using JobFsm.iterPendingJobs.induct f with
  | case1 s => exact Shift.zero
  | case2 k order s hk ih =>
    rw [iterPendingJobs_cons_none hk]
    exact ih ((freshIds_cons_none hk).1 hf)
  | case3 k order s p hk err he =>
    rw [iterPendingJobs_cons_error hk he]
    exact Shift.zero
  | case4 k order s p hk id ho ih =>
    rw [freshIds_cons_ok hk ho] at hf
    rw [iterPendingJobs_cons_ok hk ho]
    dsimp only
    rw [← Multiset.cons_coe, ← Multiset.singleton_add]
    exact (shift_pendingDispatched hk hf.1).trans (ih hf.2)

theorem recs_clearFailover (hk : s.waitAckJobs.lookup k = some job) :
    (s.clearFailover k job).recs = s.recs := by
  funext pl
  cases pl <;> simp [recs, clearFailover, GoMap.vals_insert, GoMap.vals_eq_cons_erase hk]

theorem recs_iterWaitAckJobs (f : DispatchJobFn) (order : List MasterID) :
    (s.iterWaitAckJobs f order).fsm.recs = s.recs := by
  induction order, s using JobFsm.iterWaitAckJobs.induct f with
  | case1 s => rfl
  | case2 k order s hk ih => rw [iterWaitAckJobs_cons_none hk, ih]
  | case3 k order s job hk hb err he => rw [iterWaitAckJobs_cons_error hk hb he]
  | case4 k order s job hk hb id ho ih =>
    rw [iterWaitAckJobs_cons_ok hk hb ho]
    exact ih.trans (recs_clearFailover hk)
  | case5 k order s job hk hb ih =>
    rw [iterWaitAckJobs_cons_skip hk (by simpa using hb), ih]

theorem shift_jobOnline (hk : s.waitAckJobs.lookup worker.id = some job)
    (ho : worker.id ∉ s.onlineJobs) :
    Shift s (s.jobOnline worker).1 {job.masterMeta} (some .waitAck) (some .online) := by
  rw [jobOnline_of_lookup_some hk]
  rintro (_ | _ | _) <;>
    simp [recs, GoMap.vals_eq_cons_erase hk, GoMap.vals_insert_of_not_mem _ ho,
      add_singleton]

theorem recs_requeue (hp : k ∉ s.pendingJobs) (b : Bool) (pl : Place) :
    (s.requeue k job b).recs pl =
      s.recs pl + (if (if b then some Place.pending else none) = some pl then {job.masterMeta} else 0) := by
  cases b <;> cases pl <;>
    simp [requeue, recs, GoMap.vals_insert_of_not_mem _ hp, add_singleton]

theorem shift_jobOffline_of_online (hk : s.onlineJobs.lookup worker.id = some job)
    (hp : worker.id ∉ s.pendingJobs) (b : Bool) :
    Shift s (s.jobOffline worker b) {job.masterMeta} (some .online)
      (if b then some .pending else none) := by
  have hp' : worker.id ∉ ({ s with onlineJobs := s.onlineJobs.erase worker.id } : JobFsm).pendingJobs := hp
  rw [jobOffline_of_online hk]
  intro pl
  rw [recs_requeue hp']
  cases pl <;> simp [recs, GoMap.vals_eq_cons_erase hk, add_singleton]

theorem shift_jobOffline_of_waitAck (ho : s.onlineJobs.lookup worker.id = none)
    (hk : s.waitAckJobs.lookup worker.id = some job) (hp : worker.id ∉ s.pendingJobs) (b : Bool) :
    Shift s (s.jobOffline worker b) {job.masterMeta} (some .waitAck)
      (if b then some .pending else none) := by
  have hp' : worker.id ∉ ({ s with waitAckJobs := s.waitAckJobs.erase worker.id } : JobFsm).pendingJobs := hp
  rw [jobOffline_of_waitAck ho hk]
  intro pl
  rw [recs_requeue hp']
  cases pl <;> simp [recs, GoMap.vals_eq_cons_erase hk, add_singleton]

theorem shift_jobDispatchFailed (hk : s.waitAckJobs.lookup worker.id = some job)
    (hp : worker.id ∉ s.pendingJobs) :
    Shift s (s.jobDispatchFailed worker).1 {job.masterMeta} (some .waitAck) (some .pending) := by
  rw [jobDispatchFailed_of_lookup_some hk]
  rintro (_ | _ | _) <;>
    simp [recs, GoMap.vals_eq_cons_erase hk, GoMap.vals_insert_of_not_mem _ hp,
      add_singleton]

end Calls

/-! ## No record is held twice -/

section Nodup

variable {V : Type} {heap : Heap} {m : GoMap V} {ptr : V → Ptr}

theorem Keyed.nodup (h : Keyed heap m ptr) : ((GoMap.vals m).map ptr).Nodup := by
  unfold GoMap.vals
  rw [Multiset.map_coe, Multiset.coe_nodup, List.map_map]
  refine List.Nodup.map_on ?_ m.nodupKeys.nodup
  rintro ⟨k, v⟩ hx ⟨k', v'⟩ hy e
  have hx' : m.lookup k = some v := AList.mem_lookup_iff.2 hx
  have hy' : m.lookup k' = some v' := AList.mem_lookup_iff.2 hy
  have hk : k = k' := by rw [← h k v hx', ← h k' v' hy']; exact congrArg _ (congrArg heap e)
  subst hk
  rw [hx'] at hy'
  cases hy'
  rfl

theorem Keyed.id_mem (h : Keyed heap m ptr) {p : Ptr} (hp : p ∈ (GoMap.vals m).map ptr) :
    (heap p).id ∈ m := by
  obtain ⟨v, hv, rfl⟩ := Multiset.mem_map.1 hp
  obtain ⟨k, hk⟩ := GoMap.mem_vals.1 hv
  rw [h k v hk]
  exact GoMap.mem_of_lookup hk

end Nodup

theorem Inv.recs_nodup {s : JobFsm} (h : Inv s) (pl : Place) : (s.recs pl).Nodup := by
  cases pl
  · simpa using h.pending_keyed.nodup
  · exact h.waitAck_keyed.nodup
  · exact h.online_keyed.nodup

/-- In a state that keeps the invariant, no record is held twice. -/
theorem Inv.records_nodup {s : JobFsm} (h : Inv s) : s.records.Nodup := by
  have hp {p} (hp : p ∈ s.recs .pending) := h.pending_keyed.id_mem (by simpa using hp)
  have hw {p} (hw : p ∈ s.recs .waitAck) := h.waitAck_keyed.id_mem hw
  have ho {p} (ho : p ∈ s.recs .online) := h.online_keyed.id_mem ho
  have dpw : Disjoint (s.recs .pending) (s.recs .waitAck) :=
    Multiset.disjoint_left.2 fun p w => h.pending_waitAck _ (hp p) (hw w)
  have dpo : Disjoint (s.recs .pending) (s.recs .online) :=
    Multiset.disjoint_left.2 fun p o => h.pending_online _ (hp p) (ho o)
  have dwo : Disjoint (s.recs .waitAck) (s.recs .online) :=
    Multiset.disjoint_left.2 fun w o => h.waitAck_online _ (hw w) (ho o)
  rw [records, Multiset.nodup_add, Multiset.nodup_add, Multiset.disjoint_add_left]
  exact ⟨⟨h.recs_nodup _, h.recs_nodup _, dpw⟩, h.recs_nodup _, dpo, dwo⟩

theorem card_records (s : JobFsm) :
    Multiset.card s.records = s.jobCount .pending + s.jobCount .dispatched + s.jobCount .online := by
  simp [records, recs, jobCount, GoMap.card_vals]

theorem Shift.records_eq {s s' : JobFsm} {D : Multiset Ptr} {a b : Place}
    (h : Shift s s' D (some a) (some b)) : s'.records = s.records := by
  simpa using h.records

end JobFsm

namespace Op

/-- What a call adds to the records: `JobDispatched` adds its job. -/
def adds : Op → Multiset Ptr
  | jobDispatched job _ => {job}
  | _ => 0

/-- What a call drops from the records: `JobOffline(w, false)` drops `w`'s record. -/
def drops : Op → JobFsm → Multiset Ptr
  | jobOffline worker false, s => ((s.offlineJob worker.id).map fun p => {p}).getD 0
  | _, _ => 0

end Op

namespace JobFsm

variable {s : JobFsm}

theorem records_jobOffline (h : Inv s) (worker : WorkerHandle) (b : Bool) :
    (s.jobOffline worker b).records + (Op.jobOffline worker b).drops s = s.records := by
  rcases ho : s.onlineJobs.lookup worker.id with _ | job
  · rcases hw : s.waitAckJobs.lookup worker.id with _ | job
    · have hd : (Op.jobOffline worker b).drops s = 0 := by
        cases b <;> simp [Op.drops, offlineJob, ho, hw]
      rw [jobOffline_of_unknown ho hw, hd, add_zero]
    · have hp : worker.id ∉ s.pendingJobs := fun hp => h.pending_waitAck _ hp (GoMap.mem_of_lookup hw)
      have e := (shift_jobOffline_of_waitAck ho hw hp b).records
      cases b <;> simpa [Op.drops, offlineJob, ho, hw] using e
  · have hp : worker.id ∉ s.pendingJobs := fun hp => h.pending_online _ hp (GoMap.mem_of_lookup ho)
    have e := (shift_jobOffline_of_online ho hp b).records
    cases b <;> simpa [Op.drops, offlineJob, ho] using e

/-- Every allowed call keeps the records, but for what `JobDispatched` adds and what
`JobOffline(w, false)` drops. -/
theorem records_apply (h : Inv s) {op : Op} (ha : op.Allowed s) :
    (op.apply s).records + op.drops s = s.records + op.adds := by
  cases op with
  | jobDispatched job b => simpa [Op.apply, Op.drops, Op.adds] using (shift_jobDispatched ha b).records
  | iterPendingJobs f order =>
    simpa [Op.apply, Op.drops, Op.adds] using (shift_iterPendingJobs f order ha.2).records_eq
  | iterWaitAckJobs f order =>
    simp [Op.apply, Op.drops, Op.adds, records, recs_iterWaitAckJobs]
  | jobOnline worker =>
    simp only [Op.apply, Op.drops, Op.adds, add_zero]
    rcases hw : s.waitAckJobs.lookup worker.id with _ | job
    · rw [jobOnline_of_lookup_none hw]
    · exact (shift_jobOnline hw (h.waitAck_online _ (GoMap.mem_of_lookup hw))).records_eq
  | jobOffline worker b => simpa [Op.apply, Op.adds] using records_jobOffline h worker b
  | jobDispatchFailed worker =>
    simp only [Op.apply, Op.drops, Op.adds, add_zero]
    rcases hw : s.waitAckJobs.lookup worker.id with _ | job
    · rw [jobDispatchFailed_of_lookup_none hw]
    · exact (shift_jobDispatchFailed hw
        fun hp => h.pending_waitAck _ hp (GoMap.mem_of_lookup hw)).records_eq

end JobFsm

open JobFsm in
/-- From any reachable state, every allowed call, whether it succeeds or fails, keeps the
multiset of records held across the three maps, but `JobDispatched` adds its job and
`JobOffline(w, false)` drops `w`'s record; no record is held twice; and the three job counts
move by the same amounts. -/
theorem records_step {s : JobFsm} (hs : Reachable s) {op : Op} (ha : op.Allowed s) :
    (op.apply s).records + op.drops s = s.records + op.adds ∧ (op.apply s).records.Nodup ∧
    (op.apply s).jobCount .pending + (op.apply s).jobCount .dispatched +
        (op.apply s).jobCount .online + Multiset.card (op.drops s) =
      s.jobCount .pending + s.jobCount .dispatched + s.jobCount .online + Multiset.card op.adds := by
  have e := records_apply hs.inv ha
  refine ⟨e, (hs.inv.apply ha).records_nodup, ?_⟩
  rw [← card_records, ← card_records, ← Multiset.card_add, e, Multiset.card_add]

/-- Dispatching a second job adds it to the records. -/
theorem records_step_second_job :
    Reachable ((newJobFsm fun n => ⟨s!"job-{n}", 0, []⟩).jobDispatched 0 false) ∧
      (Op.jobDispatched 1 true).Allowed
        ((newJobFsm fun n => ⟨s!"job-{n}", 0, []⟩).jobDispatched 0 false) ∧
      ((Op.jobDispatched 1 true).apply
        ((newJobFsm fun n => ⟨s!"job-{n}", 0, []⟩).jobDispatched 0 false)).records.Nodup :=
  have h : Reachable ((newJobFsm fun n => ⟨s!"job-{n}", 0, []⟩).jobDispatched 0 false) :=
    ⟨_, @Reach.step _ _ (.jobDispatched 0 false) (.init _) (by decide)⟩
  have ha : (Op.jobDispatched 1 true).Allowed
      ((newJobFsm fun n => ⟨s!"job-{n}", 0, []⟩).jobDispatched 0 false) := by decide
  ⟨h, ha, (records_step h ha).2.1⟩

end Microcosm
