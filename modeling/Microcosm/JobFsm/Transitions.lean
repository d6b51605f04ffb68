import Microcosm.JobFsm.Passes

/-!
# The transition table

Abstracting a state to the status of each record (`JobFsm.status`: the map holding it, `none`
when it is absent), every allowed call changes a record's status only by a move of the table in
the comment on `JobFsm` and in the spec (`Op.Legal`): a dispatched job waits for its ack, a pending
job is dispatched, a waiting job comes online, goes back to pending on a failed dispatch or a
failover, and a waiting or online job goes back to pending or leaves the FSM when it goes
offline. `status_moves_legal` collects this, with the new key of a re-dispatched job and the
calls that change nothing because their worker is unknown.

The proof reads the statuses off the shift each call makes (`Shift.status_source`,
`Shift.status_target`, `Shift.status_of_not_mem`).
-/

namespace Microcosm

namespace JobFsm

variable {s s' : JobFsm} {p q : Ptr}

/-- The map holding a record, `none` when the FSM does not hold it. -/
def status (s : JobFsm) (p : Ptr) : Option Place :=
  if p ∈ s.recs .pending then some .pending
  else if p ∈ s.recs .waitAck then some .waitAck
  else if p ∈ s.recs .online then some .online
  else none

theorem Inv.place_unique (h : Inv s) {pl pl' : Place} (hp : p ∈ s.recs pl) (hp' : p ∈ s.recs pl') :
    pl = pl' := by
  -- `p` is counted once in all the records, so it is in one place only
  have hc := Multiset.nodup_iff_count_le_one.1 h.records_nodup p
  rw [records, Multiset.count_add, Multiset.count_add] at hc
  have c := Multiset.count_pos.2 hp
  have c' := Multiset.count_pos.2 hp'
  cases pl <;> cases pl' <;> first | rfl | omega

theorem Inv.status_eq (h : Inv s) {pl : Place} (hp : p ∈ s.recs pl) : s.status p = some pl := by
  have u {pl'} (hp' : p ∈ s.recs pl') := h.place_unique hp' hp
  unfold status
  split_ifs with h₁ h₂ h₃
  · rw [u h₁]
  · rw [u h₂]
  · rw [u h₃]
  · cases pl <;> contradiction

theorem status_eq_none (h : ∀ pl, p ∉ s.recs pl) : s.status p = none := by
  simp [status, h]

theorem Shift.symm {D : Multiset Ptr} {a b : Option Place} (h : Shift s s' D a b) :
    Shift s' s D b a :=
  fun pl => (h pl).symm

theorem Shift.mem_iff {D : Multiset Ptr} {a b : Option Place} (h : Shift s s' D a b)
    (hq : q ∉ D) (pl : Place) : q ∈ s'.recs pl ↔ q ∈ s.recs pl := by
  have e := congrArg (q ∈ ·) (h pl)
  split_ifs at e <;> simpa [hq] using e

/-- A shift leaves the status of the records it does not move. -/
theorem Shift.status_of_not_mem {D : Multiset Ptr} {a b : Option Place} (h : Shift s s' D a b)
    (hq : q ∉ D) : s'.status q = s.status q := by
  simp only [status, h.mem_iff hq]

/-- A record a shift moves had the shift's source status. -/
theorem Shift.status_source {D : Multiset Ptr} {a b : Option Place} (hs : Inv s) (hs' : Inv s')
    (h : Shift s s' D a b) (hq : q ∈ D) (hab : a ≠ b) : s.status q = a := by
  rcases a with _ | pl
  · obtain ⟨pl', rfl⟩ := Option.ne_none_iff_exists'.1 hab.symm
    have e' : s'.recs pl' = s.recs pl' + D := by simpa using h pl'
    have hin : q ∈ s'.recs pl' := e' ▸ Multiset.mem_add.2 (Or.inr hq)
    refine status_eq_none fun pl hp => ?_
    by_cases hpl : pl = pl'
    · subst hpl
      have hnd := hs'.recs_nodup pl
      rw [e', Multiset.nodup_add] at hnd
      exact Multiset.disjoint_left.1 hnd.2.2 hp hq
    · have e : s'.recs pl = s.recs pl := by simpa [Ne.symm hpl] using h pl
      exact hpl (hs'.place_unique (e ▸ hp) hin)
  · apply hs.status_eq
    have e := h pl
    simp only [if_true, Ne.symm hab, if_false, add_zero] at e
    exact e ▸ Multiset.mem_add.2 (Or.inr hq)

theorem Shift.status_target {D : Multiset Ptr} {a b : Option Place} (hs : Inv s) (hs' : Inv s')
    (h : Shift s s' D a b) (hq : q ∈ D) (hab : a ≠ b) : s'.status q = b :=
  h.symm.status_source hs' hs hq hab.symm

/-- A shift moves the records it moves from `a` to `b`, and no other. -/
theorem Shift.status_moves {D : Multiset Ptr} {a b : Option Place} (hs : Inv s) (hs' : Inv s')
    (h : Shift s s' D a b) (hab : a ≠ b) (p : Ptr) :
    s'.status p = s.status p ∨ (p ∈ D ∧ s.status p = a ∧ s'.status p = b) := by
  by_cases hp : p ∈ D
  · exact .inr ⟨hp, h.status_source hs hs' hp hab, h.status_target hs hs' hp hab⟩
  · exact .inl (h.status_of_not_mem hp)

end JobFsm

/-- The moves of the transition table: `op.Legal a b` when `op` may take a record of status `a`
to status `b`. -/
def Op.Legal : Op → Option Place → Option Place → Prop
  | .jobDispatched _ _, none, some .waitAck => True
  | .iterPendingJobs _ _, some .pending, some .waitAck => True
  | .jobOnline _, some .waitAck, some .online => True
  | .jobOffline _ true, some .waitAck, some .pending => True
  | .jobOffline _ true, some .online, some .pending => True
  | .jobOffline _ false, some .waitAck, none => True
  | .jobOffline _ false, some .online, none => True
  | .jobDispatchFailed _, some .waitAck, some .pending => True
  | _, _, _ => False

namespace JobFsm

variable {s : JobFsm}

theorem status_moves_of_shift {op : Op} (hs : Inv s) (hs' : Inv (op.apply s)) {D : Multiset Ptr}
    {a b : Option Place} (h : Shift s (op.apply s) D a b) (hl : op.Legal a b) (p : Ptr) :
    (op.apply s).status p = s.status p ∨ op.Legal (s.status p) ((op.apply s).status p) := by
  have hab : a ≠ b := by
    rintro rfl
    rcases op with _ | _ | _ | _ | ⟨_, _ | _⟩ | _ <;> rcases a with _ | _ | _ | _ <;>
      exact hl.elim
  rcases h.status_moves hs hs' hab p with e | ⟨-, ha, hb⟩
  · exact .inl e
  · exact .inr (ha ▸ hb ▸ hl)

theorem status_apply (h : Inv s) {op : Op} (ha : op.Allowed s) (p : Ptr) :
    (op.apply s).status p = s.status p ∨ op.Legal (s.status p) ((op.apply s).status p) := by
  have h' := h.apply ha
  cases op with
  | jobDispatched job b => exact status_moves_of_shift h h' (shift_jobDispatched ha b) trivial p
  | iterPendingJobs f order =>
    exact status_moves_of_shift h h' (shift_iterPendingJobs f order ha.2) trivial p
  | iterWaitAckJobs f order =>
    exact .inl (by simp only [Op.apply, status, recs_iterWaitAckJobs])
  | jobOnline worker =>
    rcases hw : s.waitAckJobs.lookup worker.id with _ | job
    · exact .inl (by simp [Op.apply, jobOnline_of_lookup_none hw])
    · exact status_moves_of_shift h h'
        (shift_jobOnline hw (h.waitAck_online _ (GoMap.mem_of_lookup hw))) trivial p
  | jobOffline worker b =>
    rcases ho : s.onlineJobs.lookup worker.id with _ | job
    · rcases hw : s.waitAckJobs.lookup worker.id with _ | job
      · exact .inl (by simp [Op.apply, jobOffline_of_unknown ho hw])
      · exact status_moves_of_shift h h' (shift_jobOffline_of_waitAck ho hw
          (fun hp => h.pending_waitAck _ hp (GoMap.mem_of_lookup hw)) b) (by cases b <;> trivial) p
    · exact status_moves_of_shift h h' (shift_jobOffline_of_online ho
        (fun hp => h.pending_online _ hp (GoMap.mem_of_lookup ho)) b) (by cases b <;> trivial) p
  | jobDispatchFailed worker =>
    rcases hw : s.waitAckJobs.lookup worker.id with _ | job
    · exact .inl (by simp [Op.apply, jobDispatchFailed_of_lookup_none hw])
    · exact status_moves_of_shift h h'
        (shift_jobDispatchFailed hw fun hp => h.pending_waitAck _ hp (GoMap.mem_of_lookup hw))
        trivial p

end JobFsm

/-- From a reachable state, every allowed call moves a record only by a move of the transition
table (so never online to waiting, pending to online or pending out of the FSM, and
`IterWaitAckJobs` not at all); `IterPendingJobs` holds each record it moves under the id
`dispatchJobFn` returned for it; and a `JobOnline` or `JobDispatchFailed` that fails, or a
`JobOffline` of an unknown worker, leaves the state as it was. -/
theorem status_moves_legal {s : JobFsm} (hs : Reachable s) :
    (∀ op : Op, op.Allowed s → ∀ p,
      (op.apply s).status p = s.status p ∨ op.Legal (s.status p) ((op.apply s).status p)) ∧
    (∀ f order, (Op.iterPendingJobs f order).Allowed s → ∀ p ∈ (s.iterPendingJobs f order).dispatched,
      ∃ w, f (s.heap p) = .ok w ∧
        (s.iterPendingJobs f order).fsm.waitAckJobs.lookup w = some ⟨none, p, false⟩) ∧
    (∀ worker, (s.jobOnline worker).2.isSome → (s.jobOnline worker).1 = s) ∧
    (∀ worker, (s.jobDispatchFailed worker).2.isSome → (s.jobDispatchFailed worker).1 = s) ∧
    (∀ worker b, worker.id ∉ s.onlineJobs → worker.id ∉ s.waitAckJobs → s.jobOffline worker b = s) := by
  refine ⟨fun op ha => JobFsm.status_apply hs.inv ha, fun f order ha p hp => ?_,
    fun worker he => ?_, fun worker he => ?_, fun worker b ho hw => ?_⟩
  · obtain ⟨k, hk⟩ := GoMap.mem_vals.1 (JobFsm.mem_pending_of_dispatched order s hp)
    obtain ⟨w, hw, -, -, hl⟩ := JobFsm.iterPendingJobs_moves order s hs.inv ha.2 hk hp
    exact ⟨w, hw, hl⟩
  · rcases hw : s.waitAckJobs.lookup worker.id with _ | job
    · rw [JobFsm.jobOnline_of_lookup_none hw]
    · simp [JobFsm.jobOnline_of_lookup_some hw] at he
  · rcases hw : s.waitAckJobs.lookup worker.id with _ | job
    · rw [JobFsm.jobDispatchFailed_of_lookup_none hw]
    · simp [JobFsm.jobDispatchFailed_of_lookup_some hw] at he
  · exact JobFsm.jobOffline_of_unknown (AList.lookup_eq_none.2 ho) (AList.lookup_eq_none.2 hw)

/-- From a fresh FSM, dispatching a job makes it wait for its ack. -/
theorem status_moves_legal_fresh :
    Reachable (newJobFsm fun n => ⟨s!"job-{n}", 0, []⟩) ∧
      (Op.jobDispatched 0 false).Allowed (newJobFsm fun n => ⟨s!"job-{n}", 0, []⟩) ∧
      (((Op.jobDispatched 0 false).apply (newJobFsm fun n => ⟨s!"job-{n}", 0, []⟩)).status 0 =
          (newJobFsm fun n => ⟨s!"job-{n}", 0, []⟩).status 0 ∨
        (Op.jobDispatched 0 false).Legal ((newJobFsm fun n => ⟨s!"job-{n}", 0, []⟩).status 0)
          (((Op.jobDispatched 0 false).apply (newJobFsm fun n => ⟨s!"job-{n}", 0, []⟩)).status 0)) :=
  have h : Reachable (newJobFsm fun n => ⟨s!"job-{n}", 0, []⟩) := ⟨_, .init _⟩
  have ha : (Op.jobDispatched 0 false).Allowed (newJobFsm fun n => ⟨s!"job-{n}", 0, []⟩) := by
    decide
  ⟨h, ha, (status_moves_legal h).1 _ ha 0⟩

end Microcosm
