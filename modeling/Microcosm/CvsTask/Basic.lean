import Mathlib.Logic.Relation
import Mathlib.Data.List.Basic

/-!
# The cvs task

`InitImpl` starts two goroutines that share a buffered channel of `bufferSize` pairs: `Receive`
reads the upstream stream and sends each pair into the buffer, closing it at EOF; `Send` takes
the pairs out and writes each to the downstream writer, and closes the writer once the buffer is
closed and empty. Each goroutine reports the error it returns with `setRunError` and
`setStatusCode(WorkerStatusError)`; `Send` returning nil reports `WorkerStatusFinished`.
`CloseImpl` cancels the context both goroutines watch.

A `CvsTask` holds the task's fields, where each goroutine is (`ReceivePc`, `SendPc`), and what the
environment sees: the pairs the upstream still holds and the requests the downstream was sent. A
step (`CvsTask.step`) is one goroutine's next statement, `CloseImpl` or `Tick`; the `Bool` of an
event is the outcome of the call the goroutine makes (an RPC succeeds or fails), or, at a
`select`, whether the channel case or the `ctx.Done()` case runs. `CvsReach` is every interleaving
of them.

One step merges three statements: a successful `writer.Send` of a pair, the `counter.Add(1)` and
the `curLoc = kv.firstStr` after it (the `.send kv` step of `sendStep`). In the code `Status()`,
called on `Tick`'s goroutine, can run between them, and reads `curLoc` without a lock; the model
has no state between them, and no result here is about `counter` or `curLoc`.

Two ghost fields record the history the proofs speak of: the pairs `Send` took from the buffer
(`popped`) and every status written (`statusWrites`).
-/

namespace Microcosm

/-- `BUFFERSIZE`. -/
def bufferSize : ℕ := 1024

/-- `strPair`. -/
structure StrPair where
  firstStr : String
  secondStr : String
  deriving DecidableEq, Repr

/-- The fields of `Config` the data path reads. -/
structure Config where
  idx : ℤ
  dstDir : String
  startLoc : String
  deriving DecidableEq, Repr

/-- `pb.WriteLinesRequest`. -/
structure WriteLinesRequest where
  fileIdx : BitVec 32
  key : String
  value : String
  dir : String
  deriving DecidableEq, Repr

/-- The request `Send` writes for `kv`. -/
def writeLinesRequest (cfg : Config) (kv : StrPair) : WriteLinesRequest :=
  ⟨BitVec.ofInt 32 cfg.idx, kv.firstStr, kv.secondStr, cfg.dstDir⟩

/-- Modelled from the spec: `WorkerStatusCode`; the sources' `lib` lacks
`WorkerStatusFinished`. -/
inductive WorkerStatusCode
  | created
  | init
  | normal
  | error
  | finished
  deriving DecidableEq, Repr

/-- The call an error comes from; `canceled` is `ctx.Err()`. -/
inductive CvsError
  | dialSrc
  | readLines
  | recv
  | dialDst
  | writeLines
  | send
  | closeAndRecv
  | canceled
  deriving DecidableEq, Repr

/-- Where the `Receive` goroutine is. `push kv` is the `select` that sends `kv` into the buffer;
`failed err` has returned `err`, with `setRunError` next; `reportError` has
`setStatusCode(WorkerStatusError)` next; `exited ok` has ended, `ok` when `Receive` returned
nil. -/
inductive ReceivePc
  | dial
  | readLines
  | recv
  | push (kv : StrPair)
  | failed (err : CvsError)
  | reportError
  | exited (ok : Bool)
  deriving DecidableEq, Repr

/-- Where the `Send` goroutine is. `loop` is the `select` on the buffer and `ctx.Done()`;
`send kv` has taken `kv` and calls `writer.Send`; `succeeded` has returned nil, with
`setStatusCode(WorkerStatusFinished)` next. -/
inductive SendPc
  | dial
  | writeLines
  | loop
  | send (kv : StrPair)
  | closeAndRecv
  | succeeded
  | failed (err : CvsError)
  | reportError
  | exited (ok : Bool)
  deriving DecidableEq, Repr

/-- The task, its goroutines, and what the upstream and the downstream hold. -/
structure CvsTask where
  config : Config
  counter : BitVec 64
  curLoc : String
  buffer : List StrPair
  closed : Bool
  isEOF : Bool
  canceled : Bool
  statusCode : WorkerStatusCode
  runError : Option CvsError
  receivePc : ReceivePc
  sendPc : SendPc
  upstream : List StrPair
  written : List WriteLinesRequest
  popped : List StrPair
  statusWrites : List WorkerStatusCode

/-- A step: one statement of `Receive` or `Send`, `CloseImpl`, or `Tick`. -/
inductive CvsEvent
  | receive (ok : Bool)
  | send (ok : Bool)
  | closeImpl
  | tick
  deriving DecidableEq, Repr

namespace CvsTask

/-- `NewCvsTask`, over an upstream that holds `rs` before EOF. -/
def newCvsTask (cfg : Config) (rs : List StrPair) : CvsTask where
  config := cfg
  counter := 0
  curLoc := cfg.startLoc
  buffer := []
  closed := false
  isEOF := false
  canceled := false
  statusCode := .created
  runError := none
  receivePc := .dial
  sendPc := .dial
  upstream := rs
  written := []
  popped := []
  statusWrites := []

/-- `setStatusCode`. -/
def setStatusCode (t : CvsTask) (status : WorkerStatusCode) : CvsTask :=
  { t with statusCode := status, statusWrites := t.statusWrites ++ [status] }

/-- `InitImpl`: the status becomes `WorkerStatusNormal` and both goroutines start. -/
def initImpl (t : CvsTask) : CvsTask :=
  { t.setStatusCode .normal with canceled := false, receivePc := .dial, sendPc := .dial }

/-- The next statement of `Receive`. -/
def receiveStep (t : CvsTask) (ok : Bool) : Option CvsTask :=
  match t.receivePc, ok with
  | .dial, true => some { t with receivePc := .readLines }
  | .dial, false => some { t with receivePc := .failed .dialSrc }
  | .readLines, true => some { t with receivePc := .recv }
  | .readLines, false => some { t with receivePc := .failed .readLines }
  | .recv, true =>
    match t.upstream with
    | kv :: rest => some { t with upstream := rest, receivePc := .push kv }
    | [] => some { t with closed := true, receivePc := .exited true }
  | .recv, false => some { t with canceled := t.canceled || !t.isEOF, receivePc := .failed .recv }
  | .push kv, true =>
    if t.buffer.length < bufferSize then
      some { t with buffer := t.buffer ++ [kv], receivePc := .recv }
    else none
  | .push _, false => if t.canceled then some { t with receivePc := .exited true } else none
  | .failed err, _ => some { t with runError := some err, receivePc := .reportError }
  | .reportError, _ => some { t.setStatusCode .error with receivePc := .exited false }
  | .exited _, _ => none

/-- The next statement of `Send`; at `.send kv`, the `writer.Send` of the pair, then, when it
succeeds, `counter.Add(1)` and `curLoc = kv.firstStr`, as one step. -/
def sendStep (t : CvsTask) (ok : Bool) : Option CvsTask :=
  match t.sendPc, ok with
  | .dial, true => some { t with sendPc := .writeLines }
  | .dial, false => some { t with sendPc := .failed .dialDst }
  | .writeLines, true => some { t with sendPc := .loop }
  | .writeLines, false => some { t with canceled := true, sendPc := .failed .writeLines }
  | .loop, true =>
    match t.buffer, t.closed with
    | kv :: rest, _ => some { t with buffer := rest, popped := t.popped ++ [kv], sendPc := .send kv }
    | [], true => some { t with sendPc := .closeAndRecv }
    | [], false => none
  | .loop, false => if t.canceled then some { t with sendPc := .failed .canceled } else none
  | .send kv, true =>
    some { t with written := t.written ++ [writeLinesRequest t.config kv],
                  counter := t.counter + 1, curLoc := kv.firstStr, sendPc := .loop }
  | .send _, false => some { t with canceled := true, sendPc := .failed .send }
  | .closeAndRecv, true => some { t with sendPc := .succeeded }
  | .closeAndRecv, false => some { t with sendPc := .failed .closeAndRecv }
  | .succeeded, _ => some { t.setStatusCode .finished with sendPc := .exited true }
  | .failed err, _ => some { t with runError := some err, sendPc := .reportError }
  | .reportError, _ => some { t.setStatusCode .error with sendPc := .exited false }
  | .exited _, _ => none

/-- One step of the task; `none` when the goroutine has ended or is blocked. -/
def step (t : CvsTask) : CvsEvent → Option CvsTask
  | .receive ok => t.receiveStep ok
  | .send ok => t.sendStep ok
  | .closeImpl => some { t with canceled := true }
  -- `Tick` reads the status and the run error to report them, and writes only its limiter, which
  -- is kept beside the task (`CvsTask.tick`)
  | .tick => some t

/-- `t'` follows `t` by one step. -/
def Next (t t' : CvsTask) : Prop := ∃ ev, t.step ev = some t'

/-! ## What one statement does -/

/-- The statements of `Receive`, by what they change. -/
inductive ReceiveMove (t : CvsTask) : CvsTask → Prop
  | connect {p : ReceivePc} :
      t.receivePc = .dial ∧ p = .readLines ∨ t.receivePc = .readLines ∧ p = .recv →
      ReceiveMove t { t with receivePc := p }
  | fail (c : Bool) (err : CvsError) :
      t.receivePc = .dial ∨ t.receivePc = .readLines ∨ t.receivePc = .recv →
      (t.canceled = true → c = true) →
      ReceiveMove t { t with canceled := c, receivePc := .failed err }
  | read {kv : StrPair} {rest : List StrPair} : t.receivePc = .recv → t.upstream = kv :: rest →
      ReceiveMove t { t with upstream := rest, receivePc := .push kv }
  | eof : t.receivePc = .recv → t.upstream = [] →
      ReceiveMove t { t with closed := true, receivePc := .exited true }
  | push {kv : StrPair} : t.receivePc = .push kv → t.buffer.length < bufferSize →
      ReceiveMove t { t with buffer := t.buffer ++ [kv], receivePc := .recv }
  | canceled {kv : StrPair} : t.receivePc = .push kv → t.canceled = true →
      ReceiveMove t { t with receivePc := .exited true }
  | setRunError {err : CvsError} : t.receivePc = .failed err →
      ReceiveMove t { t with runError := some err, receivePc := .reportError }
  | reportError : t.receivePc = .reportError →
      ReceiveMove t { t.setStatusCode .error with receivePc := .exited false }

/-- The statements of `Send`, by what they change. -/
inductive SendMove (t : CvsTask) : CvsTask → Prop
  | connect {p : SendPc} :
      t.sendPc = .dial ∧ p = .writeLines ∨ t.sendPc = .writeLines ∧ p = .loop →
      SendMove t { t with sendPc := p }
  | fail (c : Bool) (err : CvsError) :
      t.sendPc = .dial ∨ t.sendPc = .writeLines ∨ t.sendPc = .loop ∨ (∃ kv, t.sendPc = .send kv) ∨
        t.sendPc = .closeAndRecv →
      (t.canceled = true → c = true) →
      SendMove t { t with canceled := c, sendPc := .failed err }
  | take {kv : StrPair} {rest : List StrPair} : t.sendPc = .loop → t.buffer = kv :: rest →
      SendMove t { t with buffer := rest, popped := t.popped ++ [kv], sendPc := .send kv }
  | drained : t.sendPc = .loop → t.buffer = [] → t.closed = true →
      SendMove t { t with sendPc := .closeAndRecv }
  | write {kv : StrPair} : t.sendPc = .send kv →
      SendMove t { t with written := t.written ++ [writeLinesRequest t.config kv],
                          counter := t.counter + 1, curLoc := kv.firstStr, sendPc := .loop }
  | closeWriter : t.sendPc = .closeAndRecv → SendMove t { t with sendPc := .succeeded }
  | setRunError {err : CvsError} : t.sendPc = .failed err →
      SendMove t { t with runError := some err, sendPc := .reportError }
  | reportError : t.sendPc = .reportError →
      SendMove t { t.setStatusCode .error with sendPc := .exited false }
  | reportFinished : t.sendPc = .succeeded →
      SendMove t { t.setStatusCode .finished with sendPc := .exited true }

variable {t t' : CvsTask} {ok : Bool}

theorem receiveStep_move (h : t.receiveStep ok = some t') : ReceiveMove t t' := by
  rcases hp : t.receivePc with _ | _ | _ | kv | err | _ | b <;> cases ok <;>
    (unfold receiveStep at h; rw [hp] at h; dsimp only at h)
  case dial.false => cases h; exact .fail t.canceled .dialSrc (.inl hp) id
  case dial.true => cases h; exact .connect (.inl ⟨hp, rfl⟩)
  case readLines.false => cases h; exact .fail t.canceled .readLines (.inr (.inl hp)) id
  case readLines.true => cases h; exact .connect (.inr ⟨hp, rfl⟩)
  case recv.false => cases h; exact .fail _ .recv (.inr (.inr hp)) fun hc => by rw [hc]; rfl
  case recv.true =>
    split at h <;> cases h
    · exact .read hp ‹_›
    · exact .eof hp ‹_›
  case push.false => split at h <;> cases h; exact .canceled hp ‹_›
  case push.true => split at h <;> cases h; exact .push hp ‹_›
  all_goals cases h
  case failed.false => exact .setRunError hp
  case failed.true => exact .setRunError hp
  case reportError.false => exact .reportError hp
  case reportError.true => exact .reportError hp

/-- A goroutine that moves has not ended. -/
theorem ReceiveMove.not_exited (h : ReceiveMove t t') (b : Bool) : t.receivePc ≠ .exited b := by
  cases h <;> intro e <;> simp_all

theorem SendMove.not_exited (h : SendMove t t') (b : Bool) : t.sendPc ≠ .exited b := by
  cases h <;> intro e <;> simp_all

theorem sendStep_move (h : t.sendStep ok = some t') : SendMove t t' := by
  rcases hp : t.sendPc with _ | _ | _ | kv | _ | _ | err | _ | b <;> cases ok <;>
    (unfold sendStep at h; rw [hp] at h; dsimp only at h)
  case dial.false => cases h; exact .fail t.canceled .dialDst (.inl hp) id
  case dial.true => cases h; exact .connect (.inl ⟨hp, rfl⟩)
  case writeLines.false => cases h; exact .fail true .writeLines (.inr (.inl hp)) fun _ => rfl
  case writeLines.true => cases h; exact .connect (.inr ⟨hp, rfl⟩)
  case loop.false =>
    split at h <;> cases h; exact .fail t.canceled .canceled (.inr (.inr (.inl hp))) id
  case loop.true =>
    split at h <;> cases h
    · exact .take hp ‹_›
    · exact .drained hp ‹_› ‹_›
  case send.false => cases h; exact .fail true .send (.inr (.inr (.inr (.inl ⟨kv, hp⟩)))) fun _ => rfl
  case send.true => cases h; exact .write hp
  case closeAndRecv.false =>
    cases h; exact .fail t.canceled .closeAndRecv (.inr (.inr (.inr (.inr hp)))) id
  case closeAndRecv.true => cases h; exact .closeWriter hp
  all_goals cases h
  case succeeded.false => exact .reportFinished hp
  case succeeded.true => exact .reportFinished hp
  case failed.false => exact .setRunError hp
  case failed.true => exact .setRunError hp
  case reportError.false => exact .reportError hp
  case reportError.true => exact .reportError hp

end CvsTask

/-- The states of the task `InitImpl` started on `cfg`, over an upstream holding `rs`, in every
interleaving of its goroutines and `CloseImpl`. -/
inductive CvsReach (cfg : Config) (rs : List StrPair) : CvsTask → Prop
  | init : CvsReach cfg rs (CvsTask.newCvsTask cfg rs).initImpl
  | step {t : CvsTask} (ev : CvsEvent) {t' : CvsTask} :
      CvsReach cfg rs t → t.step ev = some t' → CvsReach cfg rs t'

end Microcosm
