import Mathlib.Data.List.Perm.Basic

/-!
# The executor runtime

`executor/runtime`. `Runtime.Run` loops: it returns once `ctx` is cancelled, and otherwise pops
the head of its FIFO queue of task containers, calls `Poll` on it, and pushes it back to the tail
unless `Poll` returned `Blocked` and `tryBlock` then claimed the container's blocked slot.
`taskContainer` is not under src: the outcomes of `Poll` and `tryBlock` are the inputs of each
pass of the loop (`Iteration`), and `setRunnable` changes nothing the runtime holds. `Poll`'s
three outcomes, `Ready`, `Pending` and `Blocked` (`PollStatus`), are modelled from the spec; the
loop itself compares with `Blocked` only.

* `runOnce_cons`, `runOnce_requeues_unless_parked`: a pass parks the container it pops exactly
  when `Poll` returned `Blocked` and `tryBlock` claimed it, and pushes it back behind the others
  otherwise, `Ready` included.
* `run_perm`: over any run, the queue left and the containers parked are the first queue
  reordered: no container is lost or duplicated.
* `mem_polled_of_position`: the queue is fair: a container `i` places from the head is polled
  within `i + 1` passes, whatever `Poll` and `tryBlock` return.
* `runOnce_keeps_ready`: a container whose `Poll` returned `Ready` stays queued and is polled
  again.
-/

namespace Microcosm

namespace Runtime

/-- The outcome of `taskContainer.Poll`. Modelled from the spec: `taskContainer` is not under
src. -/
inductive PollStatus
  | ready
  | pending
  | blocked
  deriving DecidableEq, Repr

/-- A pass of `Run`'s loop: `ctx.Done()` is ready, or the outcome of `Poll` and of `tryBlock` on
the container the pass pops (`tryBlock` runs only when `Poll` returned `Blocked`). -/
inductive Iteration
  | done
  | poll (status : PollStatus) (claimed : Bool)
  deriving DecidableEq, Repr

/-- What passes of `Run` did: the containers they polled and those they parked, in order, and the
queue they left. -/
structure Trace (α : Type) where
  polled : List α
  parked : List α
  queue : List α
  deriving DecidableEq, Repr

variable {α : Type}

/-- `queue.pop`: the head of the queue and the rest; `nil` when it is empty. -/
def pop : List α → Option α × List α
  | [] => (none, [])
  | t :: ts => (some t, ts)

/-- `queue.push`. -/
def push (q : List α) (t : α) : List α := q ++ [t]

/-- The body of `Run`'s loop past its `select`, on the queue `q`. -/
def runOnce (q : List α) (status : PollStatus) (claimed : Bool) : Trace α :=
  match pop q with
  | (none, q) => ⟨[], [], q⟩
  | (some t, q) =>
    if status = .blocked then
      if claimed then ⟨[t], [t], q⟩ else ⟨[t], [], push q t⟩
    else ⟨[t], [], push q t⟩

/-- `Run` over its passes, until `ctx` is cancelled or the passes run out. -/
def run (q : List α) : List Iteration → Trace α
  | [] => ⟨[], [], q⟩
  | .done :: _ => ⟨[], [], q⟩
  | .poll status claimed :: its =>
    let p := runOnce q status claimed
    let r := run p.queue its
    ⟨p.polled ++ r.polled, p.parked ++ r.parked, r.queue⟩

/-! ## One pass -/

/-- A pass polls the head; it parks it when `Poll` returned `Blocked` and `tryBlock` claimed it,
and otherwise pushes it back behind the other containers, in their order. -/
theorem runOnce_cons (t : α) (ts : List α) (status : PollStatus) (claimed : Bool) :
    runOnce (t :: ts) status claimed =
      if status = .blocked ∧ claimed = true then ⟨[t], [t], ts⟩
      else ⟨[t], [], ts ++ [t]⟩ := by
  cases status <;> cases claimed <;> rfl

/-- A pass loses and duplicates no container. -/
theorem runOnce_perm (q : List α) (status : PollStatus) (claimed : Bool) :
    ((runOnce q status claimed).queue ++ (runOnce q status claimed).parked).Perm q := by
  cases q with
  | nil => exact .nil
  | cons t ts =>
    rw [runOnce_cons]
    split
    · exact List.perm_append_comm
    · rw [List.append_nil]
      exact List.perm_append_singleton t ts

/-- One pass on a non-empty queue polls its head `t`, and pushes it back behind the others, in
their order, exactly unless `Poll` returned `Blocked` and `tryBlock` claimed it; then `t` is
parked and the queue is the others. `Ready` is no exception: the loop has no branch for it. -/
theorem runOnce_requeues_unless_parked (t : α) (ts : List α) (status : PollStatus)
    (claimed : Bool) :
    (runOnce (t :: ts) status claimed).polled = [t] ∧
      ((runOnce (t :: ts) status claimed).queue = ts ++ [t] ∧
          (runOnce (t :: ts) status claimed).parked = [] ↔
        ¬(status = .blocked ∧ claimed = true)) ∧
      ((runOnce (t :: ts) status claimed).queue = ts ∧
          (runOnce (t :: ts) status claimed).parked = [t] ↔
        status = .blocked ∧ claimed = true) := by
  rw [runOnce_cons]
  split <;> simp [*]

/-! ## Runs -/

open List in
/-- Over any run, the queue left and the containers parked are the first queue, reordered. -/
theorem run_perm (q : List α) (its : List Iteration) :
    ((run q its).queue ++ (run q its).parked).Perm q := by
  induction its generalizing q with
  | nil => simp [run]
  | cons it its ih =>
    cases it with
    | done => simp [run]
    | poll status claimed =>
      -- the pass, then the rest of the run from the queue it leaves
      set P := runOnce q status claimed
      set R := run P.queue its
      calc R.queue ++ (P.parked ++ R.parked)
          ~ R.queue ++ (R.parked ++ P.parked) := perm_append_comm.append_left _
        _ = (R.queue ++ R.parked) ++ P.parked := (append_assoc _ _ _).symm
        _ ~ P.queue ++ P.parked := (ih P.queue).append_right _
        _ ~ q := runOnce_perm q status claimed

/-- A container at position `i` of the queue is polled within `i + 1` passes, whatever `Poll` and
`tryBlock` return: each pass moves the containers behind the head one place forward. -/
theorem mem_polled_of_position (pre post : List α) (t : α) (its : List Iteration)
    (hits : ∀ it ∈ its, it ≠ .done) (hlen : pre.length < its.length) :
    t ∈ (run (pre ++ t :: post) its).polled := by
  induction its generalizing pre post with
  | nil => exact absurd hlen (Nat.not_lt_zero _)
  | cons it its ih =>
    obtain ⟨status, claimed, rfl⟩ : ∃ status claimed, it = .poll status claimed := by
      cases it with
      | done => exact absurd rfl (hits .done (List.mem_cons_self _ _))
      | poll status claimed => exact ⟨status, claimed, rfl⟩
    have hits' := fun it hit => hits it (List.mem_cons_of_mem _ hit)
    cases pre with
    | nil =>
      simp only [run, List.nil_append, runOnce_cons]
      split <;> simp
    | cons h pre =>
      have hlen' : pre.length < its.length := by simpa using hlen
      simp only [run, List.cons_append, runOnce_cons]
      split
      · exact List.mem_append_right _ (ih pre post hits' hlen')
      · rw [List.append_assoc, List.cons_append]
        exact List.mem_append_right [h] (ih pre (post ++ [h]) hits' hlen')

/-- The container second in line is polled by the second pass, though the first parked the
head. -/
theorem mem_polled_second_after_park :
    (∀ it ∈ [Iteration.poll .blocked true, .poll .pending false], it ≠ .done) ∧
      [1].length < [Iteration.poll .blocked true, .poll .pending false].length ∧
      2 ∈ (run ([1] ++ 2 :: [3]) [.poll .blocked true, .poll .pending false]).polled :=
  have hits : ∀ it ∈ [Iteration.poll .blocked true, .poll .pending false], it ≠ .done := by decide
  have hlen : [1].length < [Iteration.poll .blocked true, .poll .pending false].length := by decide
  ⟨hits, hlen, mem_polled_of_position [1] [3] 2 _ hits hlen⟩

/-- A container alone in the queue whose `Poll` returned `Ready` is pushed back, and the next
pass polls it again. -/
theorem runOnce_keeps_ready :
    runOnce [0] .ready false = ⟨[0], [], [0]⟩ ∧
      (run [0] [.poll .ready false, .poll .ready false]).polled = [0, 0] :=
  ⟨rfl, rfl⟩

end Runtime

end Microcosm
