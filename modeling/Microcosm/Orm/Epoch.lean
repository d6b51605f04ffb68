import Mathlib.Data.List.Range
import Mathlib.Data.List.Pairwise
import Mathlib.Tactic.Ring

/-!
# Epochs of the metastore

`InitializeEpoch` creates the `logic_epochs` row with `defaultMinEpoch` when there is none, and
`GenEpoch` runs one transaction: `UPDATE epoch = epoch + 1`, then `SELECT epoch`, then commit. The
store holds the row's write lock from a transaction's `UPDATE` to its commit or rollback, so the
`GenEpoch` calls, interleaved in any order (`EpochReach`), see one another's commits only:

* the epochs the successful calls return, in commit order, are `e₀ + 1, e₀ + 2, …` where `e₀` is
  the epoch `InitializeEpoch` left (`genEpoch_increasing`);
* the stored epoch changes only at the commit of a successful call, so a call that returns an
  error leaves it as it was;
* the lock is held only by a call between its `UPDATE` and its commit (`EpochReach.lock_holder`),
  so the holder's own steps always release it, committing the next epoch
  (`genEpoch_holder_commits`): a waiting `UPDATE` is never blocked for good.

`defaultMinEpoch` and `defaultEpochPK` are not in the sources: the first is a parameter, and
the one row they key is the only row modelled. Database errors are the `ok = false` steps.
-/

namespace Microcosm

namespace Orm

/-- A `GenEpoch` call, numbered. -/
abbrev CallID := ℕ

/-- The `logic_epochs` row: its committed epoch (`none` before the row is created) and the
call whose transaction holds its write lock, with the epoch that transaction wrote. -/
structure EpochRow where
  epoch : Option ℤ
  lock : Option (CallID × ℤ)
  deriving DecidableEq, Repr

/-- Where a `GenEpoch` call is: before `UPDATE`, after it, after `SELECT` read `epoch`, returned
`epoch`, or returned an error. -/
inductive GenEpochPc
  | start
  | updated
  | selected (epoch : ℤ)
  | returned (epoch : ℤ)
  | failed
  deriving DecidableEq, Repr

/-- The row, every `GenEpoch` call, and the epochs the successful calls returned, in commit
order. -/
structure EpochSys where
  row : EpochRow
  calls : CallID → GenEpochPc
  returned : List ℤ

/-- A step of one call; `ok = false` is an error of the database at that step. -/
inductive EpochEvent
  | update (call : CallID) (ok : Bool)
  | select (call : CallID) (ok : Bool)
  | commit (call : CallID) (ok : Bool)
  deriving DecidableEq, Repr

/-- `InitializeEpoch`, given the outcomes of `First` (`firstFails`: an error other than
`ErrRecordNotFound`) and `Create`: the row afterwards, and whether an error was returned. -/
def initializeEpoch (defaultMinEpoch : ℤ) (firstFails createFails : Bool) :
    Option ℤ → Option ℤ × Bool
  | some epoch => (some epoch, firstFails)
  | none => if firstFails || createFails then (none, true) else (some defaultMinEpoch, false)

namespace EpochRow

/-- The epoch `call` reads: its own uncommitted write, or the committed epoch. -/
def read (r : EpochRow) (call : CallID) : Option ℤ :=
  match r.lock with
  | some (c, epoch) => if c = call then some epoch else r.epoch
  | none => r.epoch

/-- `call`'s transaction commits: its write becomes the epoch and the lock is released. -/
def commit (r : EpochRow) (call : CallID) : EpochRow :=
  match r.lock with
  | some (c, epoch) => if c = call then ⟨some epoch, none⟩ else r
  | none => r

/-- `call`'s transaction rolls back: the lock is released if it holds it. -/
def release (r : EpochRow) (call : CallID) : EpochRow :=
  match r.lock with
  | some (c, _) => if c = call then ⟨r.epoch, none⟩ else r
  | none => r

variable {r : EpochRow} {call c : CallID} {e : ℤ}

theorem epoch_release : (r.release call).epoch = r.epoch := by
  unfold release; split <;> [split <;> rfl; rfl]

theorem lock_release (r : EpochRow) (call : CallID) :
    (r.release call).lock = none ∨ (r.release call).lock = r.lock := by
  unfold release; split <;> [split <;> simp; simp]

theorem release_of_ne (h : r.lock = some (c, e)) (hc : c ≠ call) : r.release call = r := by
  simp [release, h, hc]

theorem read_of_lock (h : r.lock = some (call, e)) : r.read call = some e := by
  simp [read, h]

theorem commit_of_lock (h : r.lock = some (call, e)) : r.commit call = ⟨some e, none⟩ := by
  simp [commit, h]

/-- A lock left after a rollback was held before, by another call. -/
theorem lock_of_release (h : (r.release call).lock = some (c, e)) : r.lock = some (c, e) ∧ c ≠ call := by
  unfold release at h
  split at h
  · split at h
    · cases h
    · simp_all
  · simp_all

/-- A lock left after a commit was held before, by another call. -/
theorem lock_of_commit (h : (r.commit call).lock = some (c, e)) : r.lock = some (c, e) ∧ c ≠ call := by
  unfold commit at h
  split at h
  · split at h
    · cases h
    · simp_all
  · simp_all

end EpochRow

namespace EpochSys

/-- Every call at its start, and no epoch returned. -/
def init (epoch : Option ℤ) : EpochSys := ⟨⟨epoch, none⟩, fun _ => .start, []⟩

/-- `call` returns an error: its transaction rolls back. -/
def fail (σ : EpochSys) (call : CallID) : EpochSys :=
  { σ with row := σ.row.release call, calls := Function.update σ.calls call .failed }

/-- One step of `GenEpoch`; `none` when `call` is not at that step, or its `UPDATE` waits for the
lock. An `UPDATE` with no row changes nothing and takes no lock, and the `SELECT` then fails with
`ErrRecordNotFound`. -/
def step (σ : EpochSys) : EpochEvent → Option EpochSys
  | .update call ok =>
    match σ.calls call, ok, σ.row.lock, σ.row.epoch with
    | .start, false, _, _ => some (σ.fail call)
    | .start, true, none, some epoch =>
      some { σ with row := ⟨some epoch, some (call, epoch + 1)⟩,
                    calls := Function.update σ.calls call .updated }
    | .start, true, none, none => some { σ with calls := Function.update σ.calls call .updated }
    | _, _, _, _ => none
  | .select call ok =>
    match σ.calls call, ok, σ.row.read call with
    | .updated, true, some epoch =>
      some { σ with calls := Function.update σ.calls call (.selected epoch) }
    | .updated, _, _ => some (σ.fail call)
    | _, _, _ => none
  | .commit call ok =>
    match σ.calls call, ok with
    | .selected epoch, true =>
      some ⟨σ.row.commit call, Function.update σ.calls call (.returned epoch), σ.returned ++ [epoch]⟩
    | .selected _, false => some (σ.fail call)
    | _, _ => none

variable {σ σ' : EpochSys} {ev : EpochEvent}

/-- What one step can do: fail a call, or move it one step on. -/
theorem step_cases (h : σ.step ev = some σ') :
    (∃ c, σ' = σ.fail c) ∨
    (∃ c e, σ.calls c = .start ∧ σ.row.lock = none ∧ σ.row.epoch = some e ∧
      σ' = { σ with row := ⟨some e, some (c, e + 1)⟩, calls := Function.update σ.calls c .updated }) ∨
    (∃ c, σ.calls c = .start ∧ σ.row.epoch = none ∧
      σ' = { σ with calls := Function.update σ.calls c .updated }) ∨
    (∃ c e, σ.calls c = .updated ∧ σ.row.read c = some e ∧
      σ' = { σ with calls := Function.update σ.calls c (.selected e) }) ∨
    (∃ c e, ev = .commit c true ∧ σ.calls c = .selected e ∧
      σ' = ⟨σ.row.commit c, Function.update σ.calls c (.returned e), σ.returned ++ [e]⟩) := by
  cases ev with
  | update c ok =>
    simp only [step] at h
    split at h <;> cases h
    · exact .inl ⟨c, rfl⟩
    · exact .inr (.inl ⟨c, _, ‹_›, ‹_›, ‹_›, rfl⟩)
    · exact .inr (.inr (.inl ⟨c, ‹_›, ‹_›, rfl⟩))
  | select c ok =>
    simp only [step] at h
    split at h <;> cases h
    · exact .inr (.inr (.inr (.inl ⟨c, _, ‹_›, ‹_›, rfl⟩)))
    · exact .inl ⟨c, rfl⟩
  | commit c ok =>
    simp only [step] at h
    split at h <;> cases h
    · exact .inr (.inr (.inr (.inr ⟨c, _, rfl, ‹_›, rfl⟩)))
    · exact .inl ⟨c, rfl⟩

end EpochSys

/-- The states the `GenEpoch` calls reach from the row `epoch`, in any interleaving. -/
inductive EpochReach (epoch : Option ℤ) : EpochSys → Prop
  | init : EpochReach epoch (EpochSys.init epoch)
  | step {σ : EpochSys} (ev : EpochEvent) {σ' : EpochSys} :
      EpochReach epoch σ → σ.step ev = some σ' → EpochReach epoch σ'

/-- The epochs `e₀ + 1, …, e₀ + n`. -/
def epochsAfter (e₀ : ℤ) (n : ℕ) : List ℤ := (List.range n).map fun i : ℕ => e₀ + 1 + (i : ℤ)

theorem epochsAfter_succ (e₀ : ℤ) (n : ℕ) :
    epochsAfter e₀ (n + 1) = epochsAfter e₀ n ++ [e₀ + 1 + n] := by
  simp [epochsAfter, List.range_succ]

theorem pairwise_epochsAfter (e₀ : ℤ) (n : ℕ) : (epochsAfter e₀ n).Pairwise (· < ·) :=
  List.pairwise_map.2 ((List.pairwise_lt_range n).imp fun h => by simpa using h)

theorem lt_of_mem_epochsAfter {e₀ e : ℤ} {n : ℕ} (h : e ∈ epochsAfter e₀ n) : e₀ < e := by
  obtain ⟨i, -, rfl⟩ := List.mem_map.1 h
  omega

/-- While the calls run from the row `e₀`: the successful calls returned `e₀ + 1, …, e₀ + n`, in
commit order, and the row holds `e₀ + n`; a lock holder wrote `e₀ + n + 1`; and a call between
its `UPDATE` and its commit holds the lock. -/
structure EpochInv (e₀ : ℤ) (σ : EpochSys) : Prop where
  returned_eq : σ.returned = epochsAfter e₀ σ.returned.length
  epoch_eq : σ.row.epoch = some (e₀ + σ.returned.length)
  lock_eq : ∀ c e, σ.row.lock = some (c, e) → e = e₀ + σ.returned.length + 1
  updated_locked : ∀ c, σ.calls c = .updated → ∃ e, σ.row.lock = some (c, e)
  selected_locked : ∀ c e, σ.calls c = .selected e → σ.row.lock = some (c, e)

theorem update_apply_eq {f : CallID → GenEpochPc} {c c' : CallID} {v w : GenEpochPc}
    (h : Function.update f c v c' = w) : c' = c ∧ v = w ∨ c' ≠ c ∧ f c' = w := by
  by_cases hc : c' = c
  · subst hc
    exact .inl ⟨rfl, by simpa using h⟩
  · exact .inr ⟨hc, by rwa [Function.update_noteq hc] at h⟩

namespace EpochInv

variable {e₀ : ℤ} {σ σ' : EpochSys}

theorem init : EpochInv e₀ (EpochSys.init (some e₀)) where
  returned_eq := rfl
  epoch_eq := by simp [EpochSys.init]
  lock_eq _ _ h := Option.noConfusion h
  updated_locked _ h := GenEpochPc.noConfusion h
  selected_locked _ _ h := GenEpochPc.noConfusion h

theorem fail (hi : EpochInv e₀ σ) (c : CallID) : EpochInv e₀ (σ.fail c) := by
  have hrow : ∀ {c' e}, c' ≠ c → σ.row.lock = some (c', e) → (σ.fail c).row = σ.row :=
    fun hc h => EpochRow.release_of_ne h hc
  refine ⟨hi.returned_eq, EpochRow.epoch_release.trans hi.epoch_eq, fun c' e h => ?_,
    fun c' h => ?_, fun c' e h => ?_⟩
  · rcases EpochRow.lock_release σ.row c with h' | h'
    · rw [EpochSys.fail, h'] at h; cases h
    · rw [EpochSys.fail, h'] at h; exact hi.lock_eq c' e h
  · obtain ⟨-, ⟨⟩⟩ | ⟨hc, h⟩ := update_apply_eq h
    obtain ⟨e, he⟩ := hi.updated_locked c' h
    exact ⟨e, by rw [hrow hc he]; exact he⟩
  · obtain ⟨-, ⟨⟩⟩ | ⟨hc, h⟩ := update_apply_eq h
    have he := hi.selected_locked c' e h
    rw [hrow hc he]; exact he

/-- Another call holds the lock: so `c` is neither waiting for commit nor holds it. -/
theorem not_updated_of_lock (hi : EpochInv e₀ σ) {c c' : CallID} {e : ℤ}
    (hl : σ.row.lock = some (c, e)) (hc : c' ≠ c) :
    σ.calls c' ≠ .updated ∧ ∀ e', σ.calls c' ≠ .selected e' := by
  refine ⟨fun h => ?_, fun e' h => ?_⟩
  · obtain ⟨_, h'⟩ := hi.updated_locked c' h
    rw [hl] at h'
    exact hc (Prod.mk.inj (Option.some.inj h')).1.symm
  · rw [hi.selected_locked c' e' h] at hl
    exact hc (Prod.mk.inj (Option.some.inj hl)).1

theorem step (hi : EpochInv e₀ σ) {ev : EpochEvent} (h : σ.step ev = some σ') : EpochInv e₀ σ' := by
  rcases EpochSys.step_cases h with ⟨c, rfl⟩ | ⟨c, e, -, hl, he, rfl⟩ | ⟨c, -, he, rfl⟩ |
    ⟨c, e, hc, hr, rfl⟩ | ⟨c, e, -, hc, rfl⟩
  · exact hi.fail c
  · -- `UPDATE`: `c` takes the lock and writes the next epoch
    have he' : e = e₀ + σ.returned.length := Option.some.inj (he.symm.trans hi.epoch_eq)
    refine ⟨hi.returned_eq, congrArg some he', fun c' e' h' => ?_, fun c' h' => ?_,
      fun c' e' h' => ?_⟩
    · obtain ⟨-, rfl⟩ := Prod.mk.inj (Option.some.inj h')
      rw [he']
    · obtain ⟨rfl, -⟩ | ⟨-, h'⟩ := update_apply_eq h'
      · exact ⟨_, rfl⟩
      · obtain ⟨_, hl'⟩ := hi.updated_locked c' h'
        rw [hl] at hl'; cases hl'
    · obtain ⟨-, ⟨⟩⟩ | ⟨-, h'⟩ := update_apply_eq h'
      rw [hi.selected_locked c' e' h'] at hl; cases hl
  · rw [hi.epoch_eq] at he; cases he
  · -- `SELECT`: `c` reads its own write
    obtain ⟨e', hl⟩ := hi.updated_locked c hc
    rw [EpochRow.read_of_lock hl] at hr
    cases hr
    refine ⟨hi.returned_eq, hi.epoch_eq, hi.lock_eq, fun c' h' => ?_, fun c' e'' h' => ?_⟩
    · obtain ⟨-, ⟨⟩⟩ | ⟨-, h'⟩ := update_apply_eq h'
      exact hi.updated_locked c' h'
    · obtain ⟨rfl, ⟨⟩⟩ | ⟨-, h'⟩ := update_apply_eq h'
      · exact hl
      · exact hi.selected_locked c' e'' h'
  · -- commit: `c`'s write becomes the epoch, one past the last returned
    have hl := hi.selected_locked c e hc
    have he := hi.lock_eq c e hl
    have hrow := EpochRow.commit_of_lock hl
    refine ⟨?_, ?_, fun c' e' h' => ?_, fun c' h' => ?_, fun c' e' h' => ?_⟩
    · rw [List.length_append, List.length_singleton, epochsAfter_succ, ← hi.returned_eq, he,
        add_right_comm]
    · simp only [hrow, he, List.length_append, List.length_singleton]
      push_cast; ring_nf
    · simp only [hrow] at h'; cases h'
    · obtain ⟨-, ⟨⟩⟩ | ⟨hc', h'⟩ := update_apply_eq h'
      exact ((hi.not_updated_of_lock hl hc').1 h').elim
    · obtain ⟨-, ⟨⟩⟩ | ⟨hc', h'⟩ := update_apply_eq h'
      exact ((hi.not_updated_of_lock hl hc').2 e' h').elim

end EpochInv

theorem EpochReach.inv {e₀ : ℤ} {σ : EpochSys} (h : EpochReach (some e₀) σ) : EpochInv e₀ σ := by
  induction h with
  | init => exact EpochInv.init
  | step _ _ hs ih => exact ih.step hs

theorem initializeEpoch_ok {defaultMinEpoch : ℤ} {firstFails createFails : Bool} {epoch : Option ℤ}
    (h : (initializeEpoch defaultMinEpoch firstFails createFails epoch).2 = false) :
    ∃ e₀, (initializeEpoch defaultMinEpoch firstFails createFails epoch).1 = some e₀ := by
  cases epoch with
  | some e => exact ⟨e, rfl⟩
  | none =>
    by_cases hb : (firstFails || createFails) = true
    · simp [initializeEpoch, hb] at h
    · exact ⟨defaultMinEpoch, by simp [initializeEpoch, hb]⟩

/-- On a row `InitializeEpoch` set up, `GenEpoch` calls in any interleaving return, in commit
order, strictly increasing epochs above the initial one; the row holds the last of them; and only
the commit of a successful call changes it. -/
theorem genEpoch_increasing {defaultMinEpoch : ℤ} {firstFails createFails : Bool}
    {epoch : Option ℤ} (hinit : (initializeEpoch defaultMinEpoch firstFails createFails epoch).2 = false)
    {σ : EpochSys} (h : EpochReach (initializeEpoch defaultMinEpoch firstFails createFails epoch).1 σ) :
    ∃ e₀, (initializeEpoch defaultMinEpoch firstFails createFails epoch).1 = some e₀ ∧
      σ.returned.Pairwise (· < ·) ∧ σ.returned.Nodup ∧ (∀ e ∈ σ.returned, e₀ < e) ∧
      σ.row.epoch = some (e₀ + σ.returned.length) ∧
      ∀ ev σ', σ.step ev = some σ' → σ'.row.epoch ≠ σ.row.epoch →
        ∃ c e, ev = .commit c true ∧ σ.calls c = .selected e ∧ σ'.row.epoch = some e ∧
          σ'.returned = σ.returned ++ [e] := by
  obtain ⟨e₀, he₀⟩ := initializeEpoch_ok hinit
  rw [he₀] at h
  have hi := h.inv
  have hp : σ.returned.Pairwise (· < ·) := hi.returned_eq ▸ pairwise_epochsAfter e₀ _
  refine ⟨e₀, he₀, hp, hp.imp ne_of_lt, fun e he => lt_of_mem_epochsAfter (hi.returned_eq ▸ he),
    hi.epoch_eq, fun ev σ' hs hne => ?_⟩
  rcases EpochSys.step_cases hs with ⟨c, rfl⟩ | ⟨c, e, -, -, he, rfl⟩ | ⟨c, -, -, rfl⟩ |
    ⟨c, e, -, -, rfl⟩ | ⟨c, e, rfl, hc, rfl⟩
  · exact absurd EpochRow.epoch_release hne
  · exact absurd he.symm hne
  · exact absurd rfl hne
  · exact absurd rfl hne
  · exact ⟨c, e, rfl, hc, by rw [EpochRow.commit_of_lock (hi.selected_locked c e hc)], rfl⟩

/-- The first of two calls commits the epoch after `defaultMinEpoch` while the second fails. -/
theorem genEpoch_first_commit :
    ∃ σ : EpochSys, EpochReach (initializeEpoch 1 false false none).1 σ ∧ σ.returned = [2] ∧
      ∃ e₀, (initializeEpoch 1 false false none).1 = some e₀ ∧ ∀ e ∈ σ.returned, e₀ < e :=
  have h : EpochReach (initializeEpoch 1 false false none).1 _ := EpochReach.step (.commit 0 true) (EpochReach.step (.select 0 true)
    (EpochReach.step (.update 1 false) (EpochReach.step (.update 0 true) .init rfl) rfl) rfl) rfl
  let ⟨e₀, he₀, _, _, hlt, _⟩ := genEpoch_increasing (by rfl) h
  ⟨_, h, rfl, e₀, he₀, hlt⟩

/-! ## The lock holder can always finish -/

/-- In every interleaving, the call holding the row's lock is between its `UPDATE` and its
commit, and if it ran `SELECT`, it read the epoch it wrote. -/
theorem EpochReach.lock_holder {epoch : Option ℤ} {σ : EpochSys} (h : EpochReach epoch σ)
    {c : CallID} {e : ℤ} (hl : σ.row.lock = some (c, e)) :
    σ.calls c = .updated ∨ σ.calls c = .selected e := by
  induction h generalizing c e with
  | init => cases hl
  | step _ _ hs ih =>
    rcases EpochSys.step_cases hs with ⟨c', rfl⟩ | ⟨c', e', -, -, -, rfl⟩ | ⟨c', hc', -, rfl⟩ |
      ⟨c', e', hc', hr, rfl⟩ | ⟨c', e', -, -, rfl⟩
    · obtain ⟨hl', hne⟩ := EpochRow.lock_of_release hl
      simpa [EpochSys.fail, Function.update_noteq hne] using ih hl'
    · obtain ⟨rfl, -⟩ := Prod.mk.inj (Option.some.inj hl)
      simp
    · have hne : c ≠ c' := by rintro rfl; rcases ih hl with h | h <;> rw [h] at hc' <;> cases hc'
      simpa [Function.update_noteq hne] using ih hl
    · by_cases hc : c = c'
      · subst hc
        rw [EpochRow.read_of_lock hl] at hr
        cases hr
        simp
      · simpa [Function.update_noteq hc] using ih hl
    · obtain ⟨hl', hne⟩ := EpochRow.lock_of_commit hl
      simpa [Function.update_noteq hne] using ih hl'

/-- No call holds the row's lock for good: from any state the calls reach, the holder's own
`SELECT`, if it has not run yet, and its commit succeed, release the lock, and return the epoch
after the last one returned, which the row then holds. -/
theorem genEpoch_holder_commits {e₀ : ℤ} {σ : EpochSys} (h : EpochReach (some e₀) σ) {c : CallID}
    {e : ℤ} (hl : σ.row.lock = some (c, e)) :
    ∃ σ', ((σ.step (.select c true)).bind (·.step (.commit c true)) = some σ' ∨
        σ.step (.commit c true) = some σ') ∧
      σ'.row = ⟨some (e₀ + σ.returned.length + 1), none⟩ ∧
      σ'.returned = σ.returned ++ [e₀ + σ.returned.length + 1] := by
  have he := h.inv.lock_eq c e hl
  subst he
  rcases h.lock_holder hl with hc | hc
  · exact ⟨_, .inl (by simp [EpochSys.step, hc, EpochRow.read_of_lock hl]; rfl),
      EpochRow.commit_of_lock hl, rfl⟩
  · exact ⟨_, .inr (by simp [EpochSys.step, hc]; rfl), EpochRow.commit_of_lock hl, rfl⟩

/-- A call that took the lock of the row `InitializeEpoch` created with `1` commits `2`. -/
theorem genEpoch_holder_commits_after_update :
    ∃ σ : EpochSys, EpochReach (some 1) σ ∧ σ.row.lock = some (0, 2) ∧
      ∃ σ', ((σ.step (.select 0 true)).bind (·.step (.commit 0 true)) = some σ' ∨
          σ.step (.commit 0 true) = some σ') ∧
        σ'.row = ⟨some ((1 : ℤ) + σ.returned.length + 1), none⟩ ∧
        σ'.returned = σ.returned ++ [(1 : ℤ) + σ.returned.length + 1] :=
  have h : EpochReach (some 1) _ := EpochReach.step (.update 0 true) .init rfl
  ⟨_, h, rfl, genEpoch_holder_commits h rfl⟩

end Orm

end Microcosm
