import Microcosm.JobFsm.Step

/-!
# One map per master id

The invariant `JobFsm.Inv` of the job FSM: the key sets of the three maps are pairwise disjoint
(`KeysDisjoint`), and every entry is held under the id of the `MasterMeta` it points to (`Keyed`).
Every allowed operation keeps it (`Inv.apply`), so it holds in every reachable state
(`reachable_keys_disjoint_keyed`). A consequence used throughout is that a record is held in
one place only (`Inv.pending_unique`, `Inv.waitAck_unique`).
-/

namespace Microcosm

namespace JobFsm

variable {V W : Type}

/-- Each value of `m` points to an object whose id is its key. -/
def Keyed (heap : Heap) (m : GoMap V) (ptr : V → Ptr) : Prop :=
  ∀ k v, m.lookup k = some v → (heap (ptr v)).id = k

/-- No key of `m₁` is a key of `m₂`. -/
def KeysDisjoint (m₁ : GoMap V) (m₂ : GoMap W) : Prop :=
  ∀ k, k ∈ m₁ → k ∉ m₂

/-! ## Map edits -/

section Edits

variable {heap : Heap} {m : GoMap V} {ptr : V → Ptr} {m₁ : GoMap V} {m₂ : GoMap W}
  {k : MasterID}

theorem Keyed.insert (h : Keyed heap m ptr) {v : V} (hv : (heap (ptr v)).id = k) :
    Keyed heap (m.insert k v) ptr := by
  intro k' v' hl
  rcases GoMap.lookup_insert_eq_some.1 hl with ⟨rfl, rfl⟩ | ⟨-, hl⟩
  exacts [hv, h k' v' hl]

theorem Keyed.erase (h : Keyed heap m ptr) : Keyed heap (m.erase k) ptr :=
  fun k' v hl => h k' v (GoMap.lookup_erase_eq_some.1 hl).2

theorem Keyed.update (h : Keyed heap m ptr) {p : Ptr} (hp : ∀ k v, m.lookup k = some v → ptr v ≠ p)
    (x : MasterMeta) : Keyed (Function.update heap p x) m ptr :=
  fun k v hl => by rw [Function.update_noteq (hp k v hl)]; exact h k v hl

theorem KeysDisjoint.symm (h : KeysDisjoint m₁ m₂) : KeysDisjoint m₂ m₁ :=
  fun k h₂ h₁ => h k h₁ h₂

theorem KeysDisjoint.erase_left (h : KeysDisjoint m₁ m₂) : KeysDisjoint (m₁.erase k) m₂ :=
  fun k' hk => h k' (AList.mem_erase.1 hk).2

theorem KeysDisjoint.erase_right (h : KeysDisjoint m₁ m₂) : KeysDisjoint m₁ (m₂.erase k) :=
  (h.symm.erase_left).symm

theorem KeysDisjoint.insert_left (h : KeysDisjoint m₁ m₂) (hk : k ∉ m₂) (v : V) :
    KeysDisjoint (m₁.insert k v) m₂ := by
  intro k' hk'
  rcases (AList.mem_insert _).1 hk' with rfl | hk'
  exacts [hk, h k' hk']

theorem KeysDisjoint.insert_right (h : KeysDisjoint m₁ m₂) (hk : k ∉ m₁) (w : W) :
    KeysDisjoint m₁ (m₂.insert k w) :=
  (h.symm.insert_left hk w).symm

/-- Moving a key from `m₂` to `m₁`. -/
theorem KeysDisjoint.insert_erase (h : KeysDisjoint m₁ m₂) (v : V) :
    KeysDisjoint (m₁.insert k v) (m₂.erase k) := by
  intro k' hk' hk₂
  rcases (AList.mem_insert _).1 hk' with rfl | hk'
  · exact (AList.mem_erase.1 hk₂).1 rfl
  · exact h k' hk' (AList.mem_erase.1 hk₂).2

theorem KeysDisjoint.erase_insert (h : KeysDisjoint m₁ m₂) (w : W) :
    KeysDisjoint (m₁.erase k) (m₂.insert k w) :=
  (h.symm.insert_erase w).symm

end Edits

/-! ## The invariant -/

/-- A master id is a key of at most one map, and each entry is held under the id of its
`MasterMeta`. -/
structure Inv (s : JobFsm) : Prop where
  pending_waitAck : KeysDisjoint s.pendingJobs s.waitAckJobs
  pending_online : KeysDisjoint s.pendingJobs s.onlineJobs
  waitAck_online : KeysDisjoint s.waitAckJobs s.onlineJobs
  pending_keyed : Keyed s.heap s.pendingJobs fun p => p
  waitAck_keyed : Keyed s.heap s.waitAckJobs JobHolder.masterMeta
  online_keyed : Keyed s.heap s.onlineJobs JobHolder.masterMeta

theorem inv_newJobFsm (heap : Heap) : Inv (newJobFsm heap) :=
  ⟨fun _ h => absurd h (AList.not_mem_empty _), fun _ h => absurd h (AList.not_mem_empty _),
    fun _ h => absurd h (AList.not_mem_empty _), fun _ _ h => by simp [newJobFsm] at h,
    fun _ _ h => by simp [newJobFsm] at h, fun _ _ h => by simp [newJobFsm] at h⟩

namespace Inv

variable {s : JobFsm} {k k' : MasterID} {p : Ptr} {job : JobHolder}

/-- The pending record under `k` is held nowhere else. -/
theorem pending_unique (h : Inv s) (hk : s.pendingJobs.lookup k = some p) :
    (∀ k' q, (s.pendingJobs.erase k).lookup k' = some q → q ≠ p) ∧
    (∀ k' v, s.waitAckJobs.lookup k' = some v → v.masterMeta ≠ p) ∧
    (∀ k' v, s.onlineJobs.lookup k' = some v → v.masterMeta ≠ p) := by
  have hp := h.pending_keyed k p hk
  refine ⟨fun k' q hq hqp => ?_, fun k' v hv hvp => ?_, fun k' v hv hvp => ?_⟩
  · obtain ⟨hne, hq⟩ := GoMap.lookup_erase_eq_some.1 hq
    subst hqp
    exact hne ((h.pending_keyed k' q hq).symm.trans hp)
  · have : k' = k := by rw [← h.waitAck_keyed k' v hv, hvp, hp]
    subst this
    exact h.pending_waitAck k' (GoMap.mem_of_lookup hk) (GoMap.mem_of_lookup hv)
  · have : k' = k := by rw [← h.online_keyed k' v hv, hvp, hp]
    subst this
    exact h.pending_online k' (GoMap.mem_of_lookup hk) (GoMap.mem_of_lookup hv)

/-- The record of the waiting holder under `k` is held nowhere else. -/
theorem waitAck_unique (h : Inv s) (hk : s.waitAckJobs.lookup k = some job) :
    (∀ k' q, s.pendingJobs.lookup k' = some q → q ≠ job.masterMeta) ∧
    (∀ k' v, (s.waitAckJobs.erase k).lookup k' = some v → v.masterMeta ≠ job.masterMeta) ∧
    (∀ k' v, s.onlineJobs.lookup k' = some v → v.masterMeta ≠ job.masterMeta) := by
  have hp := h.waitAck_keyed k job hk
  refine ⟨fun k' q hq hqp => ?_, fun k' v hv hvp => ?_, fun k' v hv hvp => ?_⟩
  · have : k' = k := by rw [← h.pending_keyed k' q hq, hqp, hp]
    subst this
    exact h.pending_waitAck k' (GoMap.mem_of_lookup hq) (GoMap.mem_of_lookup hk)
  · obtain ⟨hne, hv⟩ := GoMap.lookup_erase_eq_some.1 hv
    exact hne (by rw [← h.waitAck_keyed k' v hv, hvp, hp])
  · have : k' = k := by rw [← h.online_keyed k' v hv, hvp, hp]
    subst this
    exact h.waitAck_online k' (GoMap.mem_of_lookup hk) (GoMap.mem_of_lookup hv)

/-! ### One lemma per transition -/

theorem jobDispatched (h : Inv s) {job : Ptr} (hf : s.Fresh (s.heap job).id) (b : Bool) :
    Inv (s.jobDispatched job b) where
  pending_waitAck := h.pending_waitAck.insert_right hf.1 _
  pending_online := h.pending_online
  waitAck_online := h.waitAck_online.insert_left hf.2.2 _
  pending_keyed := h.pending_keyed
  waitAck_keyed := h.waitAck_keyed.insert rfl
  online_keyed := h.online_keyed

theorem pendingDispatched (h : Inv s) (hk : s.pendingJobs.lookup k = some p) {id : MasterID}
    (hf : Fresh { s with pendingJobs := s.pendingJobs.erase k } id) :
    Inv (s.pendingDispatched k p id) := by
  obtain ⟨hpend, hwait, honl⟩ := h.pending_unique hk
  exact
    { pending_waitAck := h.pending_waitAck.erase_left.insert_right hf.1 _
      pending_online := h.pending_online.erase_left
      waitAck_online := h.waitAck_online.insert_left hf.2.2 _
      pending_keyed := (h.pending_keyed.erase.update hpend _)
      waitAck_keyed := (h.waitAck_keyed.update hwait _).insert (by simp)
      online_keyed := h.online_keyed.update honl _ }

theorem iterPendingJobs (f : DispatchJobFn) (order : List MasterID) (h : Inv s)
    (hf : s.FreshIds f order) : Inv (s.iterPendingJobs f order).fsm := by
  induction order, s using JobFsm.iterPendingJobs.induct f with
  | case1 s => exact h
  | case2 k order s hk ih =>
    rw [iterPendingJobs_cons_none hk]
    exact ih h ((freshIds_cons_none hk).1 hf)
  | case3 k order s p hk err he => rwa [iterPendingJobs_cons_error hk he]
  | case4 k order s p hk id ho ih =>
    rw [freshIds_cons_ok hk ho] at hf
    rw [iterPendingJobs_cons_ok hk ho]
    exact ih (h.pendingDispatched hk hf.1) hf.2

theorem clearFailover (h : Inv s) (hk : s.waitAckJobs.lookup k = some job) :
    Inv (s.clearFailover k job) where
  pending_waitAck := h.pending_waitAck.insert_right
    (fun hp => h.pending_waitAck k hp (GoMap.mem_of_lookup hk)) _
  pending_online := h.pending_online
  waitAck_online := h.waitAck_online.insert_left
    (h.waitAck_online k (GoMap.mem_of_lookup hk)) _
  pending_keyed := h.pending_keyed
  waitAck_keyed := h.waitAck_keyed.insert (h.waitAck_keyed k job hk)
  online_keyed := h.online_keyed

theorem iterWaitAckJobs (f : DispatchJobFn) (order : List MasterID) (h : Inv s) :
    Inv (s.iterWaitAckJobs f order).fsm := by
  induction order, s using JobFsm.iterWaitAckJobs.induct f with
  | case1 s => exact h
  | case2 k order s hk ih => rw [iterWaitAckJobs_cons_none hk]; exact ih h
  | case3 k order s job hk hb err he => rwa [iterWaitAckJobs_cons_error hk hb he]
  | case4 k order s job hk hb id ho ih =>
    rw [iterWaitAckJobs_cons_ok hk hb ho]
    exact ih (h.clearFailover hk)
  | case5 k order s job hk hb ih =>
    rw [iterWaitAckJobs_cons_skip hk (by simpa using hb)]
    exact ih h

theorem jobOnline (h : Inv s) (worker : WorkerHandle) : Inv (s.jobOnline worker).1 := by
  unfold JobFsm.jobOnline
  split
  · exact h
  · rename_i job hk
    have hmem := GoMap.mem_of_lookup hk
    exact
      { pending_waitAck := h.pending_waitAck.erase_right
        pending_online := h.pending_online.insert_right
          (fun hp => h.pending_waitAck _ hp hmem) _
        waitAck_online := h.waitAck_online.erase_insert _
        pending_keyed := h.pending_keyed
        waitAck_keyed := h.waitAck_keyed.erase
        online_keyed := h.online_keyed.insert (h.waitAck_keyed _ job hk) }

theorem requeue (h : Inv s) (hw : k ∉ s.waitAckJobs) (ho : k ∉ s.onlineJobs)
    (hk : (s.heap job.masterMeta).id = k) (b : Bool) : Inv (s.requeue k job b) := by
  unfold JobFsm.requeue
  split
  · exact
      { h with
        pending_waitAck := h.pending_waitAck.insert_left hw _
        pending_online := h.pending_online.insert_left ho _
        pending_keyed := h.pending_keyed.insert hk }
  · exact h

theorem jobOffline (h : Inv s) (worker : WorkerHandle) (b : Bool) :
    Inv (s.jobOffline worker b) := by
  unfold JobFsm.jobOffline
  split
  · rename_i job hk
    have hmem := GoMap.mem_of_lookup hk
    have h' : Inv { s with onlineJobs := s.onlineJobs.erase worker.id } :=
      { h with
        pending_online := h.pending_online.erase_right
        waitAck_online := h.waitAck_online.erase_right
        online_keyed := h.online_keyed.erase }
    exact h'.requeue (fun hw => h.waitAck_online _ hw hmem) (by simp) (h.online_keyed _ job hk) b
  · rename_i hno
    split
    · exact h
    · rename_i job hk
      have h' : Inv { s with waitAckJobs := s.waitAckJobs.erase worker.id } :=
        { h with
          pending_waitAck := h.pending_waitAck.erase_right
          waitAck_online := h.waitAck_online.erase_left
          waitAck_keyed := h.waitAck_keyed.erase }
      exact h'.requeue (by simp) (AList.lookup_eq_none.1 hno) (h.waitAck_keyed _ job hk) b

theorem jobDispatchFailed (h : Inv s) (worker : WorkerHandle) :
    Inv (s.jobDispatchFailed worker).1 := by
  unfold JobFsm.jobDispatchFailed
  split
  · exact h
  · rename_i job hk
    have hmem := GoMap.mem_of_lookup hk
    exact
      { pending_waitAck := h.pending_waitAck.insert_erase _
        pending_online := h.pending_online.insert_left (h.waitAck_online _ hmem) _
        waitAck_online := h.waitAck_online.erase_left
        pending_keyed := h.pending_keyed.insert (h.waitAck_keyed _ job hk)
        waitAck_keyed := h.waitAck_keyed.erase
        online_keyed := h.online_keyed }

/-- Every allowed call keeps the invariant. -/
theorem apply (h : Inv s) {op : Op} (ha : op.Allowed s) : Inv (op.apply s) := by
  cases op with
  | jobDispatched job b => exact h.jobDispatched ha b
  | iterPendingJobs f order => exact h.iterPendingJobs f order ha.2
  | iterWaitAckJobs f order => exact h.iterWaitAckJobs f order
  | jobOnline worker => exact h.jobOnline worker
  | jobOffline worker b => exact h.jobOffline worker b
  | jobDispatchFailed worker => exact h.jobDispatchFailed worker

end Inv

end JobFsm

theorem Reach.inv {s : JobFsm} {log : List Mark} (h : Reach s log) : s.Inv := by
  induction h with
  | init heap => exact JobFsm.inv_newJobFsm heap
  | step _ ha ih => exact ih.apply ha

theorem Reachable.inv {s : JobFsm} (h : Reachable s) : s.Inv :=
  h.elim fun _ hr => hr.inv

open JobFsm in
/-- In every reachable state the key sets of the three maps are pairwise disjoint, and every
entry is held under the id of the `MasterMeta` it points to. -/
theorem reachable_keys_disjoint_keyed {s : JobFsm} (h : Reachable s) :
    KeysDisjoint s.pendingJobs s.waitAckJobs ∧ KeysDisjoint s.pendingJobs s.onlineJobs ∧
    KeysDisjoint s.waitAckJobs s.onlineJobs ∧ Keyed s.heap s.pendingJobs (fun p => p) ∧
    Keyed s.heap s.waitAckJobs JobHolder.masterMeta ∧
    Keyed s.heap s.onlineJobs JobHolder.masterMeta :=
  let hi := h.inv
  ⟨hi.pending_waitAck, hi.pending_online, hi.waitAck_online, hi.pending_keyed, hi.waitAck_keyed,
    hi.online_keyed⟩

/-- A job just dispatched is held under its own id. -/
theorem keyed_after_jobDispatched :
    Reachable ((newJobFsm fun n => ⟨s!"job-{n}", 0, []⟩).jobDispatched 0 false) ∧
      JobFsm.Keyed ((newJobFsm fun n => ⟨s!"job-{n}", 0, []⟩).jobDispatched 0 false).heap
        ((newJobFsm fun n => ⟨s!"job-{n}", 0, []⟩).jobDispatched 0 false).waitAckJobs
        JobHolder.masterMeta :=
  have h : Reachable ((newJobFsm fun n => ⟨s!"job-{n}", 0, []⟩).jobDispatched 0 false) :=
    ⟨_, @Reach.step _ _ (.jobDispatched 0 false) (.init _) (by decide)⟩
  ⟨h, (reachable_keys_disjoint_keyed h).2.2.2.2.1⟩

end Microcosm
