import Microcosm.CvsTask.Basic
import Microcosm.CvsTask.Limiter

/-!
# The cvs task's tick

`Tick` asks the task's limiter for a token. When it grants one, `Tick` reports `Status()` with
`UpdateStatus` and returns; otherwise it calls `Exit` with the status and the run error if the
status code is `WorkerStatusFinished` or `WorkerStatusError`. The status code, the run error and
the fields `Status()` encodes are the goroutines' (`CvsTask`); `Tick` writes only the limiter,
which is kept beside the task.

* `tick_updateStatus_iff`: a tick reports the status exactly when the limiter grants it, whatever
  the status code, and the limiter moves as `Allow` moves it (`tick_fst`).
* `tick_exit_iff`: on a task that has finished or failed, a tick calls `Exit` exactly when the
  limiter refuses it.
* `tick_error_no_exit`: a task whose upstream dial failed, ticked at one second and at two,
  reports its status at both and calls `Exit` at neither.
-/

namespace Microcosm

/-- The `Status` that `cvsTask.Status` encodes into `ExtBytes`. -/
structure CvsStatus where
  taskConfig : Config
  currentLoc : String
  count : BitVec 64
  deriving DecidableEq, Repr

/-- `lib.WorkerStatus`, with its `ExtBytes` as the `Status` they encode. -/
structure WorkerStatus where
  code : WorkerStatusCode
  errorMessage : String
  extBytes : CvsStatus
  deriving DecidableEq, Repr

/-- The call of `BaseWorker` that `Tick` makes. -/
inductive TickCall
  | updateStatus (status : WorkerStatus)
  | exit (status : WorkerStatus) (err : Option CvsError)
  deriving DecidableEq, Repr

namespace CvsTask

/-- `cvsTask.Status`. -/
def status (t : CvsTask) : WorkerStatus :=
  ⟨t.statusCode, "", ⟨t.config, t.curLoc, t.counter⟩⟩

/-- `cvsTask.Tick` at `now`, with the task's limiter `lim`: the limiter after its one `Allow`,
and the call it makes of `BaseWorker`, if any. -/
def tick (t : CvsTask) (lim : Limiter) (now : ℕ) : Limiter × Option TickCall :=
  ((lim.allow now).1,
    if (lim.allow now).2 then some (.updateStatus t.status)
    else match t.statusCode with
      | .finished | .error => some (.exit t.status t.runError)
      | _ => none)

variable {t : CvsTask} {lim : Limiter} {now : ℕ}

/-- The limiter moves as `Allow` moves it. -/
theorem tick_fst (t : CvsTask) (lim : Limiter) (now : ℕ) :
    (t.tick lim now).1 = (lim.allow now).1 := rfl

/-- A tick reports the status exactly when the limiter grants it, and the status it reports is
`Status()`. -/
theorem tick_updateStatus_iff {s : WorkerStatus} :
    (t.tick lim now).2 = some (.updateStatus s) ↔ (lim.allow now).2 = true ∧ s = t.status := by
  cases h : (lim.allow now).2
  case false => simp only [tick, h, Bool.false_eq_true, if_false]; split <;> simp
  case true => simp [tick, h, eq_comm]

/-- A tick on a task that has finished or failed calls `Exit` exactly when the limiter refuses
it. -/
theorem tick_exit_iff (hc : t.statusCode = .finished ∨ t.statusCode = .error) :
    (t.tick lim now).2 = some (.exit t.status t.runError) ↔ (lim.allow now).2 = false := by
  cases h : (lim.allow now).2
  case false =>
    simp only [tick, h, Bool.false_eq_true, if_false, iff_true]
    rcases hc with hc | hc <;> simp [hc]
  case true => simp [tick, h]

end CvsTask

/-- A task whose upstream dial failed has reported `WorkerStatusError`; ticked at one second and
at two, it reports its status at both and calls `Exit` at neither. -/
theorem tick_error_no_exit :
    ∃ t, CvsReach ⟨0, "out", "start"⟩ [] t ∧ t.statusCode = .error ∧
      (t.tick Limiter.newLimiter second).2 = some (.updateStatus t.status) ∧
      (t.tick (t.tick Limiter.newLimiter second).1 (2 * second)).2 =
        some (.updateStatus t.status) :=
  ⟨_, .step (.receive true) (.step (.receive true) (.step (.receive false) .init rfl) rfl) rfl,
    rfl, rfl, rfl⟩

end Microcosm
