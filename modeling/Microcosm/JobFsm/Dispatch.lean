import Microcosm.JobFsm.Transitions

/-!
# No double dispatch

The history `log` of a run (`Reach s log`) lists, in order, every successful call of a
`dispatchJobFn` on a record (`Mark.dispatched`) and every call that put a record back up for
dispatch (`Mark.requeued`: `JobDispatchFailed` or `JobOffline(_, true)` moving it to
`pendingJobs`, `JobDispatched(_, true)` flagging it). `dispatch_needs_requeue`: between two
successful dispatches of one record there is always a requeue of it; in particular a single pass
of either loop dispatches a record at most once.

The invariant behind it: a record `dispatchJobFn` may be called on (`Dispatchable`: pending, or
waiting with the failover flag) has been requeued since its last dispatch (`Ready`).
-/

namespace Microcosm

/-- Every successful dispatch of `p` in `log` is followed by a requeue of `p`. -/
def Ready (log : List Mark) (p : Ptr) : Prop :=
  ∀ l₁ l₂, log = l₁ ++ .dispatched p :: l₂ → .requeued p ∈ l₂

/-- Between two successful dispatches of a record in `log` there is a requeue of it. -/
def NoRedispatch (log : List Mark) : Prop :=
  ∀ p l₁ l₂ l₃, log = l₁ ++ .dispatched p :: (l₂ ++ .dispatched p :: l₃) → .requeued p ∈ l₂

/-! ## Histories -/

section Log

variable {log : List Mark} {p q : Ptr} {m : Mark}

theorem ready_nil : Ready [] p := by
  intro l₁ l₂ e
  simp at e

theorem noRedispatch_nil : NoRedispatch [] := by
  intro p l₁ l₂ l₃ e
  simp at e

/-- Where the last mark of `log ++ [m]` falls in a split of it around `x`. -/
theorem snoc_eq_append_cons {l₁ l₂ : List Mark} {x : Mark} (e : log ++ [m] = l₁ ++ x :: l₂) :
    (log = l₁ ∧ m = x) ∨ ∃ l₂', l₂ = l₂' ++ [m] ∧ log = l₁ ++ x :: l₂' := by
  rcases List.eq_nil_or_concat l₂ with rfl | ⟨l₂', y, rfl⟩
  · obtain ⟨e₁, e₂⟩ := List.append_inj' e rfl
    exact .inl ⟨e₁, List.singleton_inj.1 e₂⟩
  · obtain ⟨e₁, e₂⟩ := List.append_inj'
      (show log ++ [m] = (l₁ ++ x :: l₂') ++ [y] by simpa using e) rfl
    cases List.singleton_inj.1 e₂
    exact .inr ⟨l₂', List.concat_eq_append _ _, e₁⟩

theorem noRedispatch_snoc (h : NoRedispatch log) (hm : ∀ p, m = .dispatched p → Ready log p) :
    NoRedispatch (log ++ [m]) := by
  intro p l₁ l₂ l₃ e
  have e' : log ++ [m] = (l₁ ++ .dispatched p :: l₂) ++ .dispatched p :: l₃ := by simpa using e
  rcases snoc_eq_append_cons e' with ⟨e₁, rfl⟩ | ⟨l₃, rfl, e₁⟩
  · exact hm p rfl l₁ l₂ e₁
  · exact h p l₁ l₂ l₃ (by simpa using e₁)

theorem ready_snoc (h : Ready log q) (hm : m ≠ .dispatched q) : Ready (log ++ [m]) q := by
  intro l₁ l₂ e
  rcases snoc_eq_append_cons e with ⟨-, rfl⟩ | ⟨l₂, rfl, e₁⟩
  · exact absurd rfl hm
  · exact List.mem_append_left _ (h l₁ l₂ e₁)

theorem ready_snoc_requeued : Ready (log ++ [.requeued q]) q := by
  intro l₁ l₂ e
  rcases snoc_eq_append_cons e with ⟨-, ⟨⟩⟩ | ⟨l₂, rfl, -⟩
  exact List.mem_append_right _ (List.mem_singleton_self _)

/-- Appending the dispatches of one pass, on distinct records each requeued since its last
dispatch. -/
theorem append_dispatched :
    ∀ (log : List Mark) (D : List Ptr), NoRedispatch log → D.Nodup → (∀ p ∈ D, Ready log p) →
      NoRedispatch (log ++ D.map .dispatched) ∧
        ∀ q, Ready log q → q ∉ D → Ready (log ++ D.map .dispatched) q
  | log, [], h, _, _ => by simpa using h
  | log, p :: D, h, hnd, hr => by
    obtain ⟨hp, hnd⟩ := List.nodup_cons.1 hnd
    have h₁ : NoRedispatch (log ++ [.dispatched p]) :=
      noRedispatch_snoc h fun q e => by cases e; exact hr p (List.mem_cons_self _ _)
    have ih := append_dispatched (log ++ [.dispatched p]) D h₁ hnd fun q hq =>
      ready_snoc (hr q (List.mem_cons_of_mem _ hq)) fun e => by cases e; exact hp hq
    rw [List.map_cons, List.append_cons]
    refine ⟨ih.1, fun q hq hqD => ih.2 q (ready_snoc hq fun e => ?_) fun h' => hqD (.tail _ h')⟩
    cases e
    exact hqD (List.mem_cons_self _ _)

/-- Appending marks that are no dispatches. -/
theorem append_requeued :
    ∀ (log M : List Mark), (∀ p, .dispatched p ∉ M) → NoRedispatch log →
      NoRedispatch (log ++ M) ∧ (∀ q, Ready log q → Ready (log ++ M) q) ∧
        ∀ q, .requeued q ∈ M → Ready (log ++ M) q
  | log, [], _, h => by simpa using And.intro h fun q (hq : Ready log q) => hq
  | log, m :: M, hM, h => by
    have hm : ∀ p, m ≠ .dispatched p := fun p e => hM p (e ▸ List.mem_cons_self _ _)
    have ih := append_requeued (log ++ [m]) M (fun p hp => hM p (.tail _ hp))
      (noRedispatch_snoc h fun p e => absurd e (hm p))
    rw [List.append_cons]
    refine ⟨ih.1, fun q hq => ih.2.1 q (ready_snoc hq (hm q)), fun q hq => ?_⟩
    rcases List.mem_cons.1 hq with rfl | hq
    · exact ih.2.1 q ready_snoc_requeued
    · exact ih.2.2 q hq

end Log

/-! ## What a call can dispatch -/

namespace JobFsm

/-- A record `dispatchJobFn` may be called on: it is pending, or waiting with the failover
flag. -/
def Dispatchable (s : JobFsm) (p : Ptr) : Prop :=
  p ∈ s.recs .pending ∨
    ∃ k v, s.waitAckJobs.lookup k = some v ∧ v.masterMeta = p ∧ v.addFromFailover = true

variable {s : JobFsm}

theorem Dispatchable.mem_recs {p : Ptr} (h : s.Dispatchable p) :
    p ∈ s.recs .pending ∨ p ∈ s.recs .waitAck := by
  refine h.imp_right fun ⟨k, v, hk, hv, _⟩ => ?_
  exact Multiset.mem_map.2 ⟨v, GoMap.mem_vals.2 ⟨k, hk⟩, hv⟩

theorem dispatchable_iterPendingJobs (h : Inv s) {f : DispatchJobFn} {order : List MasterID}
    (hf : s.FreshIds f order) {p : Ptr} (hp : (s.iterPendingJobs f order).fsm.Dispatchable p) :
    s.Dispatchable p ∧ p ∉ (s.iterPendingJobs f order).dispatched := by
  have e := shift_iterPendingJobs f order hf .pending
  simp only [Option.some.injEq, reduceCtorEq, if_true, if_false, add_zero] at e
  have hnd := h.recs_nodup .pending
  rw [← e, Multiset.nodup_add] at hnd
  have hD {q} (hq : q ∈ (s.iterPendingJobs f order).dispatched) : q ∈ s.recs .pending :=
    mem_pending_of_dispatched order s hq
  rcases hp with hp | ⟨k, v, hk, rfl, hv⟩
  · exact ⟨.inl (e ▸ Multiset.mem_add.2 (.inl hp)),
      fun hq => Multiset.disjoint_left.1 hnd.2.2 hp (Multiset.mem_coe.2 hq)⟩
  · have hk' := iterPendingJobs_flagged order s hf hk hv
    refine ⟨.inr ⟨k, v, hk', rfl, hv⟩, fun hq => ?_⟩
    have hw : v.masterMeta ∈ s.recs .waitAck := Multiset.mem_map.2 ⟨v, GoMap.mem_vals.2 ⟨k, hk'⟩, rfl⟩
    cases h.place_unique (hD hq) hw

theorem dispatchable_iterWaitAckJobs (h : Inv s) {f : DispatchJobFn} {order : List MasterID}
    {p : Ptr} (hp : (s.iterWaitAckJobs f order).fsm.Dispatchable p) :
    s.Dispatchable p ∧ p ∉ (s.iterWaitAckJobs f order).dispatched := by
  obtain ⟨-, hpend, -, -⟩ := iterWaitAckJobs_frame (f := f) order s
  rcases hp with hp | ⟨k, v, hk, rfl, hv⟩
  · have hp' : p ∈ s.recs .pending := by simpa [recs, hpend] using hp
    refine ⟨.inl hp', fun hq => ?_⟩
    obtain ⟨⟨k, v, hk, rfl, -⟩, -⟩ := iterWaitAckJobs_dispatched order s h hq
    have hw : v.masterMeta ∈ s.recs .waitAck := Multiset.mem_map.2 ⟨v, GoMap.mem_vals.2 ⟨k, hk⟩, rfl⟩
    cases h.place_unique hp' hw
  · obtain ⟨hk', hnot⟩ := iterWaitAckJobs_flagged order s h hk hv
    exact ⟨.inr ⟨k, v, hk', rfl, hv⟩, hnot⟩

theorem dispatchable_jobDispatched {job p : Ptr} {b : Bool}
    (hp : (s.jobDispatched job b).Dispatchable p) :
    s.Dispatchable p ∨ .requeued p ∈ (Op.jobDispatched job b).marks s := by
  rcases hp with hp | ⟨k, v, hk, rfl, hv⟩
  · exact .inl (.inl hp)
  · rcases GoMap.lookup_insert_eq_some.1 hk with ⟨-, rfl⟩ | ⟨-, hk⟩
    · cases hv; simp [Op.marks]
    · exact .inl (.inr ⟨k, v, hk, rfl, hv⟩)

theorem dispatchable_jobOnline {worker : WorkerHandle} {p : Ptr}
    (hp : (s.jobOnline worker).1.Dispatchable p) : s.Dispatchable p := by
  cases hw : s.waitAckJobs.lookup worker.id with
  | none => rwa [jobOnline_of_lookup_none hw] at hp
  | some job =>
    rw [jobOnline_of_lookup_some hw] at hp
    rcases hp with hp | ⟨k, v, hk, rfl, hv⟩
    · exact .inl hp
    · exact .inr ⟨k, v, (GoMap.lookup_erase_eq_some.1 hk).2, rfl, hv⟩

theorem dispatchable_requeue {id : MasterID} {job : JobHolder} {b : Bool} {p : Ptr}
    (hp : (s.requeue id job b).Dispatchable p) :
    s.Dispatchable p ∨ (b = true ∧ p = job.masterMeta) := by
  cases b
  · exact .inl hp
  · rcases hp with hp | hp
    · exact (GoMap.mem_vals_insert hp).symm.imp .inl (⟨rfl, ·⟩)
    · exact .inl (.inr hp)

theorem dispatchable_jobOffline {worker : WorkerHandle} {b : Bool} {p : Ptr}
    (hp : (s.jobOffline worker b).Dispatchable p) :
    s.Dispatchable p ∨ .requeued p ∈ (Op.jobOffline worker b).marks s := by
  cases ho : s.onlineJobs.lookup worker.id with
  | some job =>
    rw [jobOffline_of_online ho] at hp
    rcases dispatchable_requeue hp with hp | ⟨rfl, rfl⟩
    · exact .inl hp
    · simp [Op.marks, offlineJob, ho]
  | none =>
    cases hw : s.waitAckJobs.lookup worker.id with
    | none => rw [jobOffline_of_unknown ho hw] at hp; exact .inl hp
    | some job =>
      rw [jobOffline_of_waitAck ho hw] at hp
      rcases dispatchable_requeue hp with (hp | ⟨k, v, hk, rfl, hv⟩) | ⟨rfl, rfl⟩
      · exact .inl (.inl hp)
      · exact .inl (.inr ⟨k, v, (GoMap.lookup_erase_eq_some.1 hk).2, rfl, hv⟩)
      · simp [Op.marks, offlineJob, ho, hw]

theorem dispatchable_jobDispatchFailed {worker : WorkerHandle} {p : Ptr}
    (hp : (s.jobDispatchFailed worker).1.Dispatchable p) :
    s.Dispatchable p ∨ .requeued p ∈ (Op.jobDispatchFailed worker).marks s := by
  cases hw : s.waitAckJobs.lookup worker.id with
  | none => rw [jobDispatchFailed_of_lookup_none hw] at hp; exact .inl hp
  | some job =>
    rw [jobDispatchFailed_of_lookup_some hw] at hp
    rcases hp with hp | ⟨k, v, hk, rfl, hv⟩
    · rcases GoMap.mem_vals_insert hp with rfl | hp
      · simp [Op.marks, hw]
      · exact .inl (.inl hp)
    · exact .inl (.inr ⟨k, v, (GoMap.lookup_erase_eq_some.1 hk).2, rfl, hv⟩)

end JobFsm

/-! ## Runs -/

section Run

open JobFsm

variable {s s' : JobFsm} {log : List Mark}

/-- A call that dispatches nothing keeps the history invariant when every record it makes
dispatchable was so before or is requeued by it. -/
theorem ready_of_requeues (hn : NoRedispatch log) (hr : ∀ p, s.Dispatchable p → Ready log p)
    {M : List Mark} (hM : ∀ p, .dispatched p ∉ M)
    (hd : ∀ p, s'.Dispatchable p → s.Dispatchable p ∨ .requeued p ∈ M) :
    NoRedispatch (log ++ M) ∧ ∀ p, s'.Dispatchable p → Ready (log ++ M) p := by
  obtain ⟨h₁, h₂, h₃⟩ := append_requeued log M hM hn
  exact ⟨h₁, fun p hp => (hd p hp).elim (fun hp => h₂ p (hr p hp)) (h₃ p)⟩

/-- A pass keeps the history invariant when it dispatches distinct dispatchable records and
leaves dispatchable only records it did not dispatch. -/
theorem ready_of_pass (hn : NoRedispatch log) (hr : ∀ p, s.Dispatchable p → Ready log p)
    {D : List Ptr} (hD : D.Nodup) (hDs : ∀ p ∈ D, s.Dispatchable p)
    (hd : ∀ p, s'.Dispatchable p → s.Dispatchable p ∧ p ∉ D) :
    NoRedispatch (log ++ D.map .dispatched) ∧
      ∀ p, s'.Dispatchable p → Ready (log ++ D.map .dispatched) p := by
  obtain ⟨h₁, h₂⟩ := append_dispatched log D hn hD fun p hp => hr p (hDs p hp)
  exact ⟨h₁, fun p hp => h₂ p (hr p (hd p hp).1) (hd p hp).2⟩

theorem marks_no_dispatch_of_ite {b : Bool} {M : List Mark} (hM : ∀ p, .dispatched p ∉ M) (p : Ptr) :
    Mark.dispatched p ∉ (if b then M else []) := by
  cases b
  · exact List.not_mem_nil _
  · exact hM p

theorem option_no_dispatch {o : Option Ptr} (p : Ptr) :
    Mark.dispatched p ∉ (o.map .requeued).toList := by
  cases o <;> simp

/-- The history invariant of a run: dispatches of one record are separated by requeues of it,
and every record `dispatchJobFn` may be called on has been requeued since its last dispatch. -/
theorem Reach.ready (h : Reach s log) :
    NoRedispatch log ∧ ∀ p, s.Dispatchable p → Ready log p := by
  induction h with
  | init heap => exact ⟨noRedispatch_nil, fun p _ => ready_nil⟩
  | @step s log op hs ha ih =>
    have hi := hs.inv
    cases op with
    | jobDispatched job b =>
      exact ready_of_requeues ih.1 ih.2 (marks_no_dispatch_of_ite fun p => by simp)
        fun p => dispatchable_jobDispatched
    | iterPendingJobs f order =>
      exact ready_of_pass ih.1 ih.2 (List.nodup_append.1 (iterPendingJobs_calls_nodup order s hi ha.2)).1
        (fun p hp => .inl (mem_pending_of_dispatched order s hp))
        fun p => dispatchable_iterPendingJobs hi ha.2
    | iterWaitAckJobs f order =>
      exact ready_of_pass ih.1 ih.2 (iterWaitAckJobs_nodup order s hi)
        (fun p hp => .inr (iterWaitAckJobs_dispatched order s hi hp).1)
        fun p => dispatchable_iterWaitAckJobs hi
    | jobOnline worker =>
      exact ready_of_requeues ih.1 ih.2 (fun p => List.not_mem_nil _)
        fun p hp => .inl (dispatchable_jobOnline hp)
    | jobOffline worker b =>
      exact ready_of_requeues ih.1 ih.2 (marks_no_dispatch_of_ite option_no_dispatch)
        fun p => dispatchable_jobOffline
    | jobDispatchFailed worker =>
      exact ready_of_requeues ih.1 ih.2 (fun p => by simp [Op.marks])
        fun p => dispatchable_jobDispatchFailed

end Run

/-- In every run, `dispatchJobFn` succeeds on a record a second time only after a call put the
record back up for dispatch (`Mark.requeued`); so one pass of either loop dispatches each record
at most once. -/
theorem dispatch_needs_requeue {s : JobFsm} {log : List Mark} (h : Reach s log) :
    (∀ p l₁ l₂ l₃, log = l₁ ++ .dispatched p :: (l₂ ++ .dispatched p :: l₃) → .requeued p ∈ l₂) ∧
    (∀ f order, (Op.iterPendingJobs f order).Allowed s →
      (s.iterPendingJobs f order).dispatched.Nodup) ∧
    ∀ f order, (Op.iterWaitAckJobs f order).Allowed s →
      (s.iterWaitAckJobs f order).dispatched.Nodup :=
  ⟨h.ready.1, fun _ order ha => (List.nodup_append.1
      (JobFsm.iterPendingJobs_calls_nodup order s h.inv ha.2)).1,
    fun _ order _ => JobFsm.iterWaitAckJobs_nodup order s h.inv⟩

/-- A job loaded on failover is dispatched again only after the requeue its loading logged. -/
theorem failover_job_dispatched_once :
    Reach ((Op.iterWaitAckJobs (fun _ => .ok "worker-1") ["job-0"]).apply
        ((newJobFsm fun n => ⟨s!"job-{n}", 0, []⟩).jobDispatched 0 true))
      [.requeued 0, .dispatched 0] ∧
    ∀ (p : Ptr) (l₁ l₂ l₃ : List Mark),
      [.requeued 0, .dispatched 0] = l₁ ++ .dispatched p :: (l₂ ++ .dispatched p :: l₃) →
        .requeued p ∈ l₂ :=
  have h : Reach ((Op.iterWaitAckJobs (fun _ => .ok "worker-1") ["job-0"]).apply
      ((newJobFsm fun n => ⟨s!"job-{n}", 0, []⟩).jobDispatched 0 true))
      [.requeued 0, .dispatched 0] :=
    .step (@Reach.step _ _ (.jobDispatched 0 true) (.init _) (by decide)) (by decide)
  ⟨h, (dispatch_needs_requeue h).1⟩

end Microcosm
