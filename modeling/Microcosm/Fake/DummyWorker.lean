import Microcosm.CvsTask.Basic

/-!
# The dummy worker

`fake.dummyWorker`. `InitImpl` sets `init` the first time and fails with `"repeated init"`
afterwards; `Tick` fails with `"not yet init"` before `InitImpl`, does nothing once `CloseImpl`
stored `closed = 1`, and otherwise counts itself in `tick`; `Status()` reports
`WorkerStatusCreated` before `InitImpl`, and `WorkerStatusNormal` with `tick` as `Ext` after it.

Over any sequence of calls from `NewDummyWorker` (`run`):

* `status_run`: `Status()` is `WorkerStatusCreated` until the first `InitImpl`; after it, its
  `Ext` counts, modulo 2^64, the `Tick`s made after the first `InitImpl` and before the first
  `CloseImpl` (`countedTicks`), whatever calls come in between.
* `errors_run`: `InitImpl` succeeds exactly when no `InitImpl` came before it, and `Tick` fails
  exactly when none did.
-/

namespace Microcosm

namespace Fake

/-- `dummyWorker`, with the fields its methods read and write. -/
structure DummyWorker where
  init : Bool
  closed : BitVec 32
  tick : BitVec 64
  deriving DecidableEq, Repr

/-- `lib.WorkerStatus` as `dummyWorker.Status` fills it: `Ext` is `tick` after `InitImpl`, `nil`
before. -/
structure DummyStatus where
  code : WorkerStatusCode
  errorMessage : String
  ext : Option (BitVec 64)
  deriving DecidableEq, Repr

/-- A call of the framework on the worker. -/
inductive DummyCall
  | initImpl
  | tick
  | closeImpl
  deriving DecidableEq, Repr

/-- `NewDummyWorker`. -/
def newDummyWorker : DummyWorker := ⟨false, 0, 0⟩

/-- `dummyWorker.InitImpl`, with the error it returns. -/
def initImpl (d : DummyWorker) : DummyWorker × Option String :=
  if !d.init then ({ d with init := true }, none) else (d, some "repeated init")

/-- `dummyWorker.Tick`, with the error it returns. -/
def tick (d : DummyWorker) : DummyWorker × Option String :=
  if !d.init then (d, some "not yet init")
  else if d.closed = 1 then (d, none)
  else ({ d with tick := d.tick + 1 }, none)

/-- `dummyWorker.Status`. -/
def status (d : DummyWorker) : DummyStatus :=
  if d.init then ⟨.normal, "", some d.tick⟩ else ⟨.created, "", none⟩

/-- `dummyWorker.CloseImpl`: `atomic.StoreInt32(&d.closed, 1)`. -/
def closeImpl (d : DummyWorker) : DummyWorker := { d with closed := 1 }

/-- The worker after a call. -/
def DummyWorker.call (d : DummyWorker) : DummyCall → DummyWorker
  | .initImpl => (Fake.initImpl d).1
  | .tick => (Fake.tick d).1
  | .closeImpl => Fake.closeImpl d

/-- The worker after the calls, in order. -/
def DummyWorker.run (d : DummyWorker) (calls : List DummyCall) : DummyWorker :=
  calls.foldl DummyWorker.call d

/-! ## What a run counts -/

/-- The calls before the first `CloseImpl`. -/
def beforeClose (calls : List DummyCall) : List DummyCall := calls.takeWhile (· != .closeImpl)

/-- The `Tick`s made after the first `InitImpl` and before the first `CloseImpl`. -/
def countedTicks (calls : List DummyCall) : ℕ :=
  (((beforeClose calls).dropWhile (· != .initImpl)).drop 1).countP (· == .tick)

/-- The `Tick`s a run from `d` counts: none once `d` is closed, those before the first
`CloseImpl` once it is initialised, and `countedTicks` before that. -/
def ticksFrom (d : DummyWorker) (calls : List DummyCall) : ℕ :=
  if d.closed = 1 then 0
  else if d.init then (beforeClose calls).countP (· == .tick)
  else countedTicks calls

/-- A `Tick` before the first `CloseImpl` counts. -/
theorem countP_beforeClose_tick (calls : List DummyCall) :
    (beforeClose (.tick :: calls)).countP (· == .tick) =
      (beforeClose calls).countP (· == .tick) + 1 :=
  List.countP_cons_of_pos _ _ rfl

/-! ## One call -/

variable {d : DummyWorker}

/-- `InitImpl` leaves the worker initialised, whether or not it already was. -/
@[simp]
theorem call_initImpl : d.call .initImpl = { d with init := true } := by
  obtain ⟨_ | _, closed, tick⟩ := d <;> rfl

/-- `Tick` counts itself once `InitImpl` ran, until `CloseImpl`. -/
@[simp]
theorem call_tick :
    d.call .tick = { d with tick := if d.init ∧ d.closed ≠ 1 then d.tick + 1 else d.tick } := by
  obtain ⟨_ | _, closed, tick⟩ := d <;> simp only [DummyWorker.call, Fake.tick] <;> split_ifs <;>
    simp_all

@[simp]
theorem call_closeImpl : d.call .closeImpl = { d with closed := 1 } := rfl

@[simp]
theorem run_nil (d : DummyWorker) : d.run [] = d := rfl

@[simp]
theorem run_cons (d : DummyWorker) (c : DummyCall) (calls : List DummyCall) :
    d.run (c :: calls) = (d.call c).run calls := rfl

/-! ## Runs -/

theorem init_run (d : DummyWorker) (calls : List DummyCall) :
    (d.run calls).init = true ↔ d.init = true ∨ DummyCall.initImpl ∈ calls := by
  induction calls generalizing d with
  | nil => simp
  | cons c calls ih => cases c <;> simp [ih]

theorem add_one_add_ofNat (x : BitVec 64) (n : ℕ) :
    x + 1 + BitVec.ofNat 64 n = x + BitVec.ofNat 64 (n + 1) := by
  rw [BitVec.ofNat_add, BitVec.add_assoc, BitVec.add_comm 1]
  rfl

/-- The tick counter of a run from `d` grows by `ticksFrom d calls`. -/
theorem tick_run (d : DummyWorker) (calls : List DummyCall) :
    (d.run calls).tick = d.tick + BitVec.ofNat 64 (ticksFrom d calls) := by
  induction calls generalizing d with
  | nil => simp [ticksFrom, beforeClose, countedTicks]
  | cons c calls ih =>
    rw [run_cons, ih]
    by_cases hc : d.closed = 1
    · cases c <;> simp [ticksFrom, hc]
    cases c with
    | closeImpl => simp [ticksFrom, beforeClose, countedTicks]
    | initImpl => cases d.init <;> simp [ticksFrom, beforeClose, countedTicks, hc]
    | tick =>
      cases hi : d.init
      · simp [ticksFrom, beforeClose, countedTicks, hi, hc]
      · rw [call_tick, if_pos ⟨hi, hc⟩]
        simp only [ticksFrom, hc, hi, if_false, if_true, countP_beforeClose_tick]
        exact add_one_add_ofNat _ _

theorem ticksFrom_newDummyWorker (calls : List DummyCall) :
    ticksFrom newDummyWorker calls = countedTicks calls := rfl

/-- A run from `NewDummyWorker` is initialised exactly when it made an `InitImpl`. -/
theorem init_run_newDummyWorker (calls : List DummyCall) :
    (newDummyWorker.run calls).init = decide (DummyCall.initImpl ∈ calls) := by
  rw [Bool.eq_iff_iff, init_run, decide_eq_true_iff]
  simp [newDummyWorker]

/-- After any calls from `NewDummyWorker`, `Status()` is `WorkerStatusCreated` if no `InitImpl`
was made, and otherwise `WorkerStatusNormal` with the `Tick`s made after the first `InitImpl` and
before the first `CloseImpl` as `Ext`, modulo 2^64. -/
theorem status_run (calls : List DummyCall) :
    status (newDummyWorker.run calls) =
      if DummyCall.initImpl ∈ calls then ⟨.normal, "", some (BitVec.ofNat 64 (countedTicks calls))⟩
      else ⟨.created, "", none⟩ := by
  rw [status, init_run_newDummyWorker, tick_run, ticksFrom_newDummyWorker]
  by_cases h : DummyCall.initImpl ∈ calls <;> simp [h, newDummyWorker]

/-- After any calls from `NewDummyWorker`, `InitImpl` succeeds exactly when no `InitImpl` was
made, and `Tick` fails exactly then. -/
theorem errors_run (calls : List DummyCall) :
    (initImpl (newDummyWorker.run calls)).2 =
        (if DummyCall.initImpl ∈ calls then some "repeated init" else none) ∧
      (tick (newDummyWorker.run calls)).2 =
        (if DummyCall.initImpl ∈ calls then none else some "not yet init") := by
  rw [initImpl, tick, init_run_newDummyWorker]
  by_cases h : DummyCall.initImpl ∈ calls <;> simp [h, apply_ite Prod.snd]

end Fake

end Microcosm
