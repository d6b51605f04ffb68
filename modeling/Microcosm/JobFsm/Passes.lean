import Microcosm.JobFsm.Records

/-!
# The dispatch loops

What one `IterPendingJobs` pass does to the FSM (`iterPendingJobs_spec`): `dispatchJobFn` is
called on the pending records in the order their keys are visited, up to and including the first
one it fails on (`iterPendingJobs_visits`), so at most once on each and never after a failure;
each record it succeeded on is moved to `waitAckJobs` under the id it returned, with that id
written into its `MasterMeta`; every other record stays where it was; a pass that returns nil
empties `pendingJobs`; `onlineJobs` and the old waiting entries are untouched.

`IterWaitAckJobs` only clears the `addFromFailover` flag of the entries it re-dispatches, under
their old keys: the id `dispatchJobFn` returns is dropped (`iterWaitAckJobs_keeps_old_key`), so the
re-created worker's `JobOnline` finds no entry.
-/

namespace Microcosm

namespace JobFsm

/-! ## `IterPendingJobs` -/

section IterPendingJobs

variable {f : DispatchJobFn}

theorem onlineJobs_iterPendingJobs (order : List MasterID) (s : JobFsm) :
    (s.iterPendingJobs f order).fsm.onlineJobs = s.onlineJobs := by
  induction order, s using iterPendingJobs.induct f with
  | case1 s => rfl
  | case2 k order s hk ih => rw [iterPendingJobs_cons_none hk, ih]
  | case3 k order s p hk e he => rw [iterPendingJobs_cons_error hk he]
  | case4 k order s p hk w ho ih => rw [iterPendingJobs_cons_ok hk ho]; exact ih

/-- A pass only deletes from `pendingJobs`. -/
theorem lookup_pending_of_iterPendingJobs (order : List MasterID) (s : JobFsm) {k : MasterID}
    {q : Ptr} (h : (s.iterPendingJobs f order).fsm.pendingJobs.lookup k = some q) :
    s.pendingJobs.lookup k = some q := by
  induction order, s using iterPendingJobs.induct f with
  | case1 s => exact h
  | case2 k' order s hk ih => rw [iterPendingJobs_cons_none hk] at h; exact ih h
  | case3 k' order s p hk e he => rwa [iterPendingJobs_cons_error hk he] at h
  | case4 k' order s p hk w ho ih =>
    rw [iterPendingJobs_cons_ok hk ho] at h
    exact (GoMap.lookup_erase_eq_some.1 (ih h)).2

/-- A pass writes only the `MasterMeta`s of the records it dispatched. -/
theorem heap_iterPendingJobs (order : List MasterID) (s : JobFsm) {q : Ptr}
    (hq : q ∉ (s.iterPendingJobs f order).dispatched) :
    (s.iterPendingJobs f order).fsm.heap q = s.heap q := by
  induction order, s using iterPendingJobs.induct f with
  | case1 s => rfl
  | case2 k order s hk ih => rw [iterPendingJobs_cons_none hk] at hq ⊢; exact ih hq
  | case3 k order s p hk e he => rw [iterPendingJobs_cons_error hk he]
  | case4 k order s p hk w ho ih =>
    rw [iterPendingJobs_cons_ok hk ho] at hq ⊢
    rw [List.mem_cons, not_or] at hq
    exact (ih hq.2).trans (Function.update_noteq hq.1 _ _)

theorem mem_pending_of_dispatched (order : List MasterID) (s : JobFsm) {q : Ptr}
    (hq : q ∈ (s.iterPendingJobs f order).dispatched) : q ∈ GoMap.vals s.pendingJobs := by
  induction order, s using iterPendingJobs.induct f with
  | case1 s => cases hq
  | case2 k order s hk ih => rw [iterPendingJobs_cons_none hk] at hq; exact ih hq
  | case3 k order s p hk e he => rw [iterPendingJobs_cons_error hk he] at hq; cases hq
  | case4 k order s p hk w ho ih =>
    rw [iterPendingJobs_cons_ok hk ho] at hq
    rcases List.mem_cons.1 hq with rfl | hq
    · exact GoMap.mem_vals.2 ⟨k, hk⟩
    · obtain ⟨k', hk'⟩ := GoMap.mem_vals.1 (ih hq)
      exact GoMap.mem_vals.2 ⟨k', (GoMap.lookup_erase_eq_some.1 hk').2⟩

/-- With fresh ids, a pass never overwrites a waiting entry. -/
theorem lookup_waitAck_iterPendingJobs (order : List MasterID) (s : JobFsm)
    (hf : s.FreshIds f order) {k : MasterID} {v : JobHolder} (h : s.waitAckJobs.lookup k = some v) :
    (s.iterPendingJobs f order).fsm.waitAckJobs.lookup k = some v := by
  induction order, s using iterPendingJobs.induct f with
  | case1 s => exact h
  | case2 k' order s hk ih =>
    rw [iterPendingJobs_cons_none hk]; exact ih ((freshIds_cons_none hk).1 hf) h
  | case3 k' order s p hk e he => rwa [iterPendingJobs_cons_error hk he]
  | case4 k' order s p hk w ho ih =>
    rw [freshIds_cons_ok hk ho] at hf
    rw [iterPendingJobs_cons_ok hk ho]
    have hne : k ≠ w := fun e => hf.1.2.1 (e ▸ GoMap.mem_of_lookup h)
    exact ih hf.2 (by simpa [pendingDispatched, AList.lookup_insert_ne hne] using h)

/-- A pending record outside the dispatched ones stays under its key, with its id. -/
theorem iterPendingJobs_stays (order : List MasterID) (s : JobFsm) {k : MasterID} {p : Ptr}
    (hk : s.pendingJobs.lookup k = some p) (hp : p ∉ (s.iterPendingJobs f order).dispatched) :
    (s.iterPendingJobs f order).fsm.pendingJobs.lookup k = some p ∧
      (s.iterPendingJobs f order).fsm.heap p = s.heap p := by
  refine ⟨?_, heap_iterPendingJobs order s hp⟩
  induction order, s using iterPendingJobs.induct f with
  | case1 s => exact hk
  | case2 k' order s hk' ih => rw [iterPendingJobs_cons_none hk'] at hp ⊢; exact ih hk hp
  | case3 k' order s p' hk' e he => rwa [iterPendingJobs_cons_error hk' he]
  | case4 k' order s p' hk' w ho ih =>
    rw [iterPendingJobs_cons_ok hk' ho] at hp ⊢
    rw [List.mem_cons, not_or] at hp
    have hne : k ≠ k' := by rintro rfl; exact hp.1 (Option.some.inj (hk.symm.trans hk'))
    exact ih (by simpa [pendingDispatched, AList.lookup_erase_ne hne] using hk) hp.2

/-- A record `dispatchJobFn` succeeded on has left `pendingJobs` for `waitAckJobs`, under the id
returned for it, which is now its `MasterMeta`'s id. -/
theorem iterPendingJobs_moves (order : List MasterID) (s : JobFsm) (h : Inv s)
    (hf : s.FreshIds f order) {k : MasterID} {p : Ptr} (hk : s.pendingJobs.lookup k = some p)
    (hp : p ∈ (s.iterPendingJobs f order).dispatched) :
    ∃ w, f (s.heap p) = .ok w ∧ (s.iterPendingJobs f order).fsm.pendingJobs.lookup k = none ∧
      (s.iterPendingJobs f order).fsm.heap p = { s.heap p with id := w } ∧
      (s.iterPendingJobs f order).fsm.waitAckJobs.lookup w = some ⟨none, p, false⟩ := by
  induction order, s using iterPendingJobs.induct f with
  | case1 s => cases hp
  | case2 k' order s hk' ih =>
    rw [freshIds_cons_none hk'] at hf
    rw [iterPendingJobs_cons_none hk'] at hp ⊢
    exact ih h hf hk hp
  | case3 k' order s p' hk' e he => rw [iterPendingJobs_cons_error hk' he] at hp; cases hp
  | case4 k' order s p' hk' w ho ih =>
    rw [freshIds_cons_ok hk' ho] at hf
    rw [iterPendingJobs_cons_ok hk' ho] at hp ⊢
    have h₁ := h.pendingDispatched hk' hf.1
    by_cases hpp : p = p'
    · subst hpp
      have hkk : k = k' := by rw [← h.pending_keyed k p hk, h.pending_keyed k' p hk']
      subst hkk
      have hgone : p ∉ GoMap.vals (s.pendingDispatched k p w).pendingJobs := fun hm => by
        obtain ⟨k'', hk''⟩ := GoMap.mem_vals.1 hm
        exact (h.pending_unique hk).1 k'' p hk'' rfl
      refine ⟨w, ho, ?_, ?_, ?_⟩
      · rcases hl : (iterPendingJobs f order (s.pendingDispatched k p w)).fsm.pendingJobs.lookup k
          with _ | q
        · rfl
        · have := lookup_pending_of_iterPendingJobs order _ hl
          simp [pendingDispatched] at this
      · rw [heap_iterPendingJobs order _ fun hd => hgone (mem_pending_of_dispatched order _ hd)]
        simp [pendingDispatched]
      · exact lookup_waitAck_iterPendingJobs order _ hf.2 (by simp [pendingDispatched])
    · have hne : k ≠ k' := by rintro rfl; exact hpp (Option.some.inj (hk.symm.trans hk'))
      have hk₁ : (s.pendingDispatched k' p' w).pendingJobs.lookup k = some p := by
        simpa [pendingDispatched, AList.lookup_erase_ne hne] using hk
      have hheap : (s.pendingDispatched k' p' w).heap p = s.heap p :=
        Function.update_noteq hpp _ _
      rw [← hheap]
      exact ih h₁ hf.2 hk₁ ((List.mem_cons.1 hp).resolve_left hpp)

/-- The call a pass failed on is on a record it did not move, which stays pending. -/
theorem iterPendingJobs_failed (order : List MasterID) (s : JobFsm) (h : Inv s)
    (hf : s.FreshIds f order) {p : Ptr} {err : DispatchError}
    (hfail : (s.iterPendingJobs f order).failed = some (p, err)) :
    f (s.heap p) = .error err ∧ p ∉ (s.iterPendingJobs f order).dispatched ∧
      ∃ k, s.pendingJobs.lookup k = some p := by
  induction order, s using iterPendingJobs.induct f with
  | case1 s => cases hfail
  | case2 k order s hk ih =>
    rw [freshIds_cons_none hk] at hf
    rw [iterPendingJobs_cons_none hk] at hfail ⊢
    exact ih h hf hfail
  | case3 k order s p' hk e he =>
    rw [iterPendingJobs_cons_error hk he] at hfail ⊢
    cases hfail
    exact ⟨he, List.not_mem_nil _, k, hk⟩
  | case4 k order s p' hk w ho ih =>
    rw [freshIds_cons_ok hk ho] at hf
    rw [iterPendingJobs_cons_ok hk ho] at hfail ⊢
    obtain ⟨he, hnot, k', hk'⟩ := ih (h.pendingDispatched hk hf.1) hf.2 hfail
    obtain ⟨hne, hk''⟩ := GoMap.lookup_erase_eq_some.1 hk'
    have hpp : p ≠ p' := by
      rintro rfl
      exact (h.pending_unique hk).1 k' p hk' rfl
    refine ⟨?_, ?_, k', hk''⟩
    · rwa [show (s.pendingDispatched k p' w).heap p = s.heap p from Function.update_noteq hpp _ _]
        at he
    · simp [hpp, hnot]

/-- A pass that returns nil has visited, and emptied, every key of its order. -/
theorem iterPendingJobs_err_none (order : List MasterID) (s : JobFsm)
    (he : (s.iterPendingJobs f order).err = none) :
    ∀ k ∈ order, k ∉ (s.iterPendingJobs f order).fsm.pendingJobs := by
  have gone {s' : JobFsm} {k : MasterID} (hk : k ∉ s'.pendingJobs) (order' : List MasterID) :
      k ∉ (s'.iterPendingJobs f order').fsm.pendingJobs := fun hm => by
    obtain ⟨q, hq⟩ := Option.isSome_iff_exists.1 (AList.lookup_isSome.2 hm)
    exact hk (GoMap.mem_of_lookup (lookup_pending_of_iterPendingJobs order' s' hq))
  induction order, s using iterPendingJobs.induct f with
  | case1 s => simp
  | case2 k order s hk ih =>
    rw [iterPendingJobs_cons_none hk] at he ⊢
    intro k' hk'
    rcases List.mem_cons.1 hk' with rfl | hk'
    · exact gone (AList.lookup_eq_none.1 hk) order
    · exact ih he k' hk'
  | case3 k order s p hk e he' => rw [iterPendingJobs_cons_error hk he'] at he; cases he
  | case4 k order s p hk w ho ih =>
    rw [iterPendingJobs_cons_ok hk ho] at he ⊢
    intro k' hk'
    rcases List.mem_cons.1 hk' with rfl | hk'
    · exact gone (by simp [pendingDispatched]) order
    · exact ih he k' hk'

/-- The waiting holders a pass adds are unflagged: a flagged one was there before. -/
theorem iterPendingJobs_flagged (order : List MasterID) (s : JobFsm) (hf : s.FreshIds f order)
    {k : MasterID} {v : JobHolder}
    (hk : (s.iterPendingJobs f order).fsm.waitAckJobs.lookup k = some v)
    (hv : v.addFromFailover = true) : s.waitAckJobs.lookup k = some v := by
  induction order, s using iterPendingJobs.induct f with
  | case1 s => exact hk
  | case2 k' order s hk' ih =>
    rw [iterPendingJobs_cons_none hk'] at hk; exact ih ((freshIds_cons_none hk').1 hf) hk
  | case3 k' order s p hk' e he => rwa [iterPendingJobs_cons_error hk' he] at hk
  | case4 k' order s p hk' w ho ih =>
    rw [freshIds_cons_ok hk' ho] at hf
    rw [iterPendingJobs_cons_ok hk' ho] at hk
    obtain ⟨rfl, rfl⟩ | ⟨-, hk₂⟩ := GoMap.lookup_insert_eq_some.1 (ih hf.2 hk)
    · simp at hv
    · exact hk₂

/-- The calls of a pass, in order: the pending records of `order`, up to and including the first
one `dispatchJobFn` fails on. `H` is any heap that agrees with the FSM's on those records. -/
theorem iterPendingJobs_visits (order : List MasterID) (s : JobFsm) (h : Inv s)
    (hf : s.FreshIds f order) (hnd : order.Nodup) {H : Ptr → MasterMeta}
    (hH : ∀ q ∈ order.filterMap s.pendingJobs.lookup, H q = s.heap q) :
    (s.iterPendingJobs f order).dispatched =
        (order.filterMap s.pendingJobs.lookup).takeWhile (fun p => (f (H p)).toBool) ∧
      (s.iterPendingJobs f order).failed.map Prod.fst =
        (order.filterMap s.pendingJobs.lookup).find? (fun p => !(f (H p)).toBool) := by
  induction order, s using iterPendingJobs.induct f with
  | case1 s => exact ⟨rfl, rfl⟩
  | case2 k order s hk ih =>
    simp only [List.filterMap_cons, hk] at hH ⊢
    rw [iterPendingJobs_cons_none hk]
    exact ih h ((freshIds_cons_none hk).1 hf) hnd.of_cons hH
  | case3 k order s p hk e he =>
    simp only [List.filterMap_cons, hk] at hH ⊢
    rw [iterPendingJobs_cons_error hk he, List.takeWhile_cons, List.find?_cons,
      hH p (List.mem_cons_self _ _), he]
    exact ⟨rfl, rfl⟩
  | case4 k order s p hk w ho ih =>
    rw [freshIds_cons_ok hk ho] at hf
    obtain ⟨hk', hnd'⟩ := List.nodup_cons.1 hnd
    simp only [List.filterMap_cons, hk] at hH ⊢
    -- the dispatch erases `k` only, and rewrites the heap at `p` only
    have hL : order.filterMap (s.pendingDispatched k p w).pendingJobs.lookup =
        order.filterMap s.pendingJobs.lookup :=
      List.filterMap_congr fun k' hk'' => by
        simp [pendingDispatched, AList.lookup_erase_ne (ne_of_mem_of_not_mem hk'' hk')]
    have hH' : ∀ q ∈ order.filterMap (s.pendingDispatched k p w).pendingJobs.lookup,
        H q = (s.pendingDispatched k p w).heap q := by
      rw [hL]
      intro q hq
      obtain ⟨k', hko, hq'⟩ := List.mem_filterMap.1 hq
      have hne : q ≠ p := by
        rintro rfl
        exact hk' ((h.pending_keyed k q hk).symm.trans (h.pending_keyed k' q hq') ▸ hko)
      rw [hH q (List.mem_cons_of_mem _ hq)]
      exact (Function.update_noteq hne _ _).symm
    obtain ⟨ih₁, ih₂⟩ := ih (h.pendingDispatched hk hf.1) hf.2 hnd' hH'
    rw [hL] at ih₁ ih₂
    rw [iterPendingJobs_cons_ok hk ho, List.takeWhile_cons, List.find?_cons,
      hH p (List.mem_cons_self _ _), ho]
    exact ⟨congrArg (p :: ·) ih₁, ih₂⟩

/-- The calls of a pass are on distinct pending records. -/
theorem iterPendingJobs_calls_nodup (order : List MasterID) (s : JobFsm) (h : Inv s)
    (hf : s.FreshIds f order) :
    ((s.iterPendingJobs f order).dispatched ++
      ((s.iterPendingJobs f order).failed.map Prod.fst).toList).Nodup := by
  have e := shift_iterPendingJobs f order hf .pending
  simp only [Option.some.injEq, reduceCtorEq, if_true, if_false, add_zero] at e
  have hnd := h.recs_nodup .pending
  rw [← e, add_comm, Multiset.nodup_add] at hnd
  obtain ⟨hd, -, hdisj⟩ := hnd
  rcases hfail : (s.iterPendingJobs f order).failed with _ | ⟨p, err⟩
  · simpa using hd
  · obtain ⟨-, hp, k, hk⟩ := iterPendingJobs_failed order s h hf hfail
    have hin : p ∈ (s.iterPendingJobs f order).fsm.recs .pending :=
      GoMap.mem_vals.2 ⟨k, (iterPendingJobs_stays order s hk hp).1⟩
    simpa [List.nodup_append_comm, hp] using hd

end IterPendingJobs

/-! ## `IterWaitAckJobs` -/

section IterWaitAckJobs

variable {f : DispatchJobFn}

/-- A re-dispatch pass changes nothing but the waiting holders' flags. -/
theorem iterWaitAckJobs_frame (order : List MasterID) (s : JobFsm) :
    (s.iterWaitAckJobs f order).fsm.heap = s.heap ∧
      (s.iterWaitAckJobs f order).fsm.pendingJobs = s.pendingJobs ∧
      (s.iterWaitAckJobs f order).fsm.onlineJobs = s.onlineJobs ∧
      ∀ k, k ∈ (s.iterWaitAckJobs f order).fsm.waitAckJobs ↔ k ∈ s.waitAckJobs := by
  induction order, s using iterWaitAckJobs.induct f with
  | case1 s => exact ⟨rfl, rfl, rfl, fun _ => Iff.rfl⟩
  | case2 k order s hk ih => rw [iterWaitAckJobs_cons_none hk]; exact ih
  | case3 k order s job hk hb e he => rw [iterWaitAckJobs_cons_error hk hb he]; simp
  | case4 k order s job hk hb w ho ih =>
    rw [iterWaitAckJobs_cons_ok hk hb ho]
    refine ⟨ih.1, ih.2.1, ih.2.2.1, fun k' => (ih.2.2.2 k').trans ?_⟩
    simp only [clearFailover, AList.mem_insert]
    exact ⟨fun h => h.elim (· ▸ GoMap.mem_of_lookup hk) id, Or.inr⟩
  | case5 k order s job hk hb ih =>
    rw [iterWaitAckJobs_cons_skip hk (by simpa using hb)]; exact ih

/-- A holder still flagged after the pass was flagged before, and was not re-dispatched. -/
theorem iterWaitAckJobs_flagged (order : List MasterID) (s : JobFsm) (h : Inv s) {k : MasterID}
    {v : JobHolder} (hk : (s.iterWaitAckJobs f order).fsm.waitAckJobs.lookup k = some v)
    (hv : v.addFromFailover = true) :
    s.waitAckJobs.lookup k = some v ∧ v.masterMeta ∉ (s.iterWaitAckJobs f order).dispatched := by
  induction order, s using iterWaitAckJobs.induct f with
  | case1 s => exact ⟨hk, List.not_mem_nil _⟩
  | case2 k' order s hk' ih => rw [iterWaitAckJobs_cons_none hk'] at hk ⊢; exact ih h hk
  | case3 k' order s job hk' hb e he =>
    rw [iterWaitAckJobs_cons_error hk' hb he] at hk ⊢; exact ⟨hk, List.not_mem_nil _⟩
  | case4 k' order s job hk' hb w ho ih =>
    rw [iterWaitAckJobs_cons_ok hk' hb ho] at hk ⊢
    obtain ⟨hk₁, hnot⟩ := ih (h.clearFailover hk') hk
    obtain ⟨rfl, rfl⟩ | ⟨hne, hk₂⟩ := GoMap.lookup_insert_eq_some.1 hk₁
    · simp at hv
    refine ⟨hk₂, List.not_mem_cons_of_ne_of_not_mem (fun e => hne ?_) hnot⟩
    rw [← h.waitAck_keyed k v hk₂, e, h.waitAck_keyed k' job hk']
  | case5 k' order s job hk' hb ih =>
    rw [iterWaitAckJobs_cons_skip hk' (by simpa using hb)] at hk ⊢; exact ih h hk

/-- Each record a re-dispatch pass dispatched was held by a flagged waiting holder, and
`dispatchJobFn` succeeded on it. -/
theorem iterWaitAckJobs_dispatched (order : List MasterID) (s : JobFsm) (h : Inv s) {p : Ptr}
    (hp : p ∈ (s.iterWaitAckJobs f order).dispatched) :
    (∃ k v, s.waitAckJobs.lookup k = some v ∧ v.masterMeta = p ∧ v.addFromFailover = true) ∧
      ∃ w, f (s.heap p) = .ok w := by
  induction order, s using iterWaitAckJobs.induct f with
  | case1 s => cases hp
  | case2 k order s hk ih => rw [iterWaitAckJobs_cons_none hk] at hp; exact ih h hp
  | case3 k order s job hk hb e he => rw [iterWaitAckJobs_cons_error hk hb he] at hp; cases hp
  | case4 k order s job hk hb w ho ih =>
    rw [iterWaitAckJobs_cons_ok hk hb ho] at hp
    rcases List.mem_cons.1 hp with rfl | hp
    · exact ⟨⟨k, job, hk, rfl, hb⟩, w, ho⟩
    · obtain ⟨⟨k', v, hk', rfl, hv⟩, hw⟩ := ih (h.clearFailover hk) hp
      obtain ⟨rfl, rfl⟩ | ⟨-, hk''⟩ := GoMap.lookup_insert_eq_some.1 hk'
      · simp at hv
      · exact ⟨⟨k', v, hk'', rfl, hv⟩, hw⟩
  | case5 k order s job hk hb ih =>
    rw [iterWaitAckJobs_cons_skip hk (by simpa using hb)] at hp; exact ih h hp

/-- A re-dispatch pass dispatches each record at most once. -/
theorem iterWaitAckJobs_nodup (order : List MasterID) (s : JobFsm) (h : Inv s) :
    (s.iterWaitAckJobs f order).dispatched.Nodup := by
  induction order, s using iterWaitAckJobs.induct f with
  | case1 s => exact List.nodup_nil
  | case2 k order s hk ih => rw [iterWaitAckJobs_cons_none hk]; exact ih h
  | case3 k order s job hk hb e he => rw [iterWaitAckJobs_cons_error hk hb he]; exact List.nodup_nil
  | case4 k order s job hk hb w ho ih =>
    rw [iterWaitAckJobs_cons_ok hk hb ho]
    have h₁ := h.clearFailover hk
    refine List.nodup_cons.2 ⟨fun hp => ?_, ih h₁⟩
    obtain ⟨⟨k', v, hk', hvp, hv⟩, -⟩ := iterWaitAckJobs_dispatched order _ h₁ hp
    have : k' = k := by
      rw [← h₁.waitAck_keyed k' v hk', hvp]; exact h.waitAck_keyed k job hk
    subst this
    simp [clearFailover] at hk'
    rw [← hk'] at hv
    simp at hv
  | case5 k order s job hk hb ih =>
    rw [iterWaitAckJobs_cons_skip hk (by simpa using hb)]; exact ih h

end IterWaitAckJobs

end JobFsm

/-- One `IterPendingJobs` pass, from a reachable state, over the keys of `pendingJobs` in any
order and with ids that are fresh: `dispatchJobFn` is called on the pending records in the order
their keys are visited, once each, up to and including the first one it fails on, and never
after; a record it succeeded on with `w` is now held in `waitAckJobs` under `w`, without the
failover flag, and its id is `w`; every other record, the failing one and the unvisited ones
included, is still pending under its key with its id; a pass that returns nil moved every record
and left `pendingJobs` empty; `onlineJobs` and the waiting entries already there are
unchanged. -/
theorem iterPendingJobs_spec {s : JobFsm} (hs : Reachable s) {f : DispatchJobFn}
    {order : List MasterID} (ha : (Op.iterPendingJobs f order).Allowed s) :
    let r := s.iterPendingJobs f order
    (r.dispatched ++ (r.failed.map Prod.fst).toList).Nodup ∧
    (r.dispatched =
        (order.filterMap s.pendingJobs.lookup).takeWhile (fun p => (f (s.heap p)).toBool) ∧
      r.failed.map Prod.fst =
        (order.filterMap s.pendingJobs.lookup).find? (fun p => !(f (s.heap p)).toBool)) ∧
    (∀ p ∈ r.dispatched ++ (r.failed.map Prod.fst).toList, p ∈ GoMap.vals s.pendingJobs) ∧
    (∀ k p, s.pendingJobs.lookup k = some p → p ∈ r.dispatched →
      ∃ w, f (s.heap p) = .ok w ∧ r.fsm.pendingJobs.lookup k = none ∧
        r.fsm.heap p = { s.heap p with id := w } ∧
        r.fsm.waitAckJobs.lookup w = some ⟨none, p, false⟩) ∧
    (∀ k p, s.pendingJobs.lookup k = some p → p ∉ r.dispatched →
      r.fsm.pendingJobs.lookup k = some p ∧ r.fsm.heap p = s.heap p) ∧
    (∀ p err, r.failed = some (p, err) → f (s.heap p) = .error err ∧ p ∉ r.dispatched) ∧
    (r.err = none →
      (∀ k p, s.pendingJobs.lookup k = some p → p ∈ r.dispatched) ∧ r.fsm.pendingJobs.keys = []) ∧
    r.fsm.onlineJobs = s.onlineJobs ∧
    (∀ k v, s.waitAckJobs.lookup k = some v → r.fsm.waitAckJobs.lookup k = some v) := by
  intro r
  obtain ⟨hperm, hf⟩ := ha
  have h := hs.inv
  have gone := @JobFsm.iterPendingJobs_err_none f order s
  have stays := @JobFsm.iterPendingJobs_stays f order s
  refine ⟨JobFsm.iterPendingJobs_calls_nodup order s h hf,
    JobFsm.iterPendingJobs_visits order s h hf (hperm.nodup_iff.2 s.pendingJobs.nodupKeys)
      fun _ _ => rfl, fun p hp => ?_,
    fun k p hk hp => JobFsm.iterPendingJobs_moves order s h hf hk hp, fun k p hk hp => stays hk hp,
    fun p err hfail => (JobFsm.iterPendingJobs_failed order s h hf hfail).imp_right And.left,
    fun he => ?_, JobFsm.onlineJobs_iterPendingJobs order s,
    fun k v hk => JobFsm.lookup_waitAck_iterPendingJobs order s hf hk⟩
  · rcases List.mem_append.1 hp with hp | hp
    · exact JobFsm.mem_pending_of_dispatched order s hp
    · obtain ⟨⟨q, err⟩, hfail, rfl⟩ := Option.map_eq_some'.1 (Option.mem_toList.1 hp)
      obtain ⟨-, -, k, hk⟩ := JobFsm.iterPendingJobs_failed order s h hf hfail
      exact GoMap.mem_vals.2 ⟨k, hk⟩
  · have hvisit : ∀ k, k ∈ s.pendingJobs → k ∉ r.fsm.pendingJobs := fun k hk =>
      gone he k (hperm.symm.subset (AList.mem_keys.1 hk))
    refine ⟨fun k p hk => by_contra fun hp =>
      hvisit k (GoMap.mem_of_lookup hk) (GoMap.mem_of_lookup (stays hk hp).1), ?_⟩
    refine List.eq_nil_iff_forall_not_mem.2 fun k hk => ?_
    obtain ⟨q, hq⟩ := Option.isSome_iff_exists.1 (AList.lookup_isSome.2 (AList.mem_keys.2 hk))
    exact hvisit k (GoMap.mem_of_lookup (JobFsm.lookup_pending_of_iterPendingJobs order s hq))
      (AList.mem_keys.2 hk)

/-- A job put back to pending by a failed dispatch is re-dispatched, and the pass empties
`pendingJobs`. -/
theorem iterPendingJobs_spec_redispatch :
    Reachable ((((newJobFsm fun n => ⟨s!"job-{n}", 0, []⟩).jobDispatched 0 false).jobDispatchFailed
      ⟨"job-0", (none, none)⟩).1) ∧
    (Op.iterPendingJobs (fun _ => .ok "worker-1") ["job-0"]).Allowed
      (((newJobFsm fun n => ⟨s!"job-{n}", 0, []⟩).jobDispatched 0 false).jobDispatchFailed
        ⟨"job-0", (none, none)⟩).1 ∧
    ((((newJobFsm fun n => ⟨s!"job-{n}", 0, []⟩).jobDispatched 0 false).jobDispatchFailed
      ⟨"job-0", (none, none)⟩).1.iterPendingJobs (fun _ => .ok "worker-1")
        ["job-0"]).fsm.pendingJobs.keys = [] :=
  have h : Reachable ((((newJobFsm fun n => ⟨s!"job-{n}", 0, []⟩).jobDispatched 0 false).jobDispatchFailed
      ⟨"job-0", (none, none)⟩).1) :=
    ⟨_, @Reach.step _ _ (.jobDispatchFailed ⟨"job-0", (none, none)⟩)
      (@Reach.step _ _ (.jobDispatched 0 false) (.init _) (by decide)) trivial⟩
  have ha : (Op.iterPendingJobs (fun _ => .ok "worker-1") ["job-0"]).Allowed
      (((newJobFsm fun n => ⟨s!"job-{n}", 0, []⟩).jobDispatched 0 false).jobDispatchFailed
        ⟨"job-0", (none, none)⟩).1 := by decide
  ⟨h, ha, ((iterPendingJobs_spec h ha).2.2.2.2.2.2.1 (by decide)).2⟩

/-- A job loaded on failover (`JobDispatched(job-0, true)`) is re-dispatched by `IterWaitAckJobs`
to a worker `worker-1`: the entry stays under `job-0` with id `job-0`, only unflagged, so the
worker's first `JobOnline` is refused. -/
theorem iterWaitAckJobs_keeps_old_key :
    ((newJobFsm fun n => ⟨s!"job-{n}", 0, []⟩).jobDispatched 0 true).iterWaitAckJobs
        (fun _ => .ok "worker-1") ["job-0"] =
      ⟨(newJobFsm fun n => ⟨s!"job-{n}", 0, []⟩).jobDispatched 0 false, [0], none⟩ ∧
    (((newJobFsm fun n => ⟨s!"job-{n}", 0, []⟩).jobDispatched 0 false).jobOnline
        ⟨"worker-1", (none, none)⟩).2 = some (.workerNotFound "worker-1") :=
  ⟨rfl, by decide⟩

end Microcosm
