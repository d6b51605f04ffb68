import Microcosm.CvsTask.Pipeline

/-!
# Backpressure and progress of the cvs task

* `Bounded`: the buffer never holds more than `BUFFERSIZE` pairs, and `Receive` returns without
  error only once it closed the buffer or the context was cancelled.
* `CvsTask.work`: the steps the two goroutines have left. Every step lowers it, so over an
  upstream of `n` pairs they take at most `11 + 4 * n` steps in any interleaving
  (`goroutine_steps_le`). A step is one statement, but for the send of a pair, which is one step
  for three statements (`writer.Send`, `counter.Add(1)`, `curLoc = kv.firstStr`).
* `CvsTask.Quiet`: neither goroutine can run. After `CloseImpl` a quiet task has both goroutines
  returned (`Quiet.exited_of_canceled`). Before it, a reachable quiet task has both returned, or
  one goroutine waits on the buffer for a partner that failed without calling `cancelFn`
  (`quiet_cases`): a `Send` that cannot dial leaves `Receive` on a full buffer, and a `Receive`
  that cannot dial or call `ReadLines` leaves `Send` on an empty one.
* `Healthy`: no call failed and `CloseImpl` was not called. Then, from every state such a run
  reaches, successful statements lead to a state where neither goroutine can go on, and wherever
  they stop the status is `WorkerStatusFinished` and the downstream got the upstream's pairs
  (`ok_runs_finish`).
-/

namespace Microcosm

namespace ReceivePc

/-- The steps `Receive` and its wrapper have left, apart from those of the pairs upstream. -/
def work : ReceivePc → ℕ
  | dial => 5
  | readLines => 4
  | recv => 3
  | push _ => 6
  | failed _ => 2
  | reportError => 1
  | exited _ => 0

/-- `Receive` has not failed. -/
def Ok : ReceivePc → Prop
  | failed _ | reportError | exited false => False
  | _ => True

end ReceivePc

namespace SendPc

/-- The steps `Send` and its wrapper have left, apart from those of the pairs in the
buffer. -/
def work : SendPc → ℕ
  | dial => 6
  | writeLines => 5
  | loop => 4
  | send _ => 5
  | closeAndRecv => 3
  | succeeded => 1
  | failed _ => 2
  | reportError => 1
  | exited _ => 0

end SendPc

namespace CvsTask

/-- The steps the goroutines have left: a pair upstream is still to be read, pushed, taken
and written, and a pair in the buffer still to be taken and written. -/
def work (t : CvsTask) : ℕ :=
  t.receivePc.work + t.sendPc.work + 4 * t.upstream.length + 2 * t.buffer.length

/-- The events run in order from `t`; `none` once one of them cannot run. -/
def run (t : CvsTask) : List CvsEvent → Option CvsTask
  | [] => some t
  | ev :: evs => (t.step ev).bind fun t' => t'.run evs

/-- Neither goroutine can run its next statement, whatever the outcome of its call. -/
def Quiet (t : CvsTask) : Prop := ∀ ok, t.receiveStep ok = none ∧ t.sendStep ok = none

instance (t : CvsTask) : Decidable t.Quiet :=
  decidable_of_iff (∀ ok : Bool, (t.receiveStep ok).isNone ∧ (t.sendStep ok).isNone)
    (by simp only [Quiet, Option.isNone_iff_eq_none])

end CvsTask

namespace CvsEvent

/-- A statement of `Receive` or `Send`, as against `CloseImpl` and `Tick`. -/
def isGoroutine : CvsEvent → Bool
  | receive _ | send _ => true
  | closeImpl | tick => false

end CvsEvent

/-! ## Work -/

namespace CvsTask

variable {t t' : CvsTask}

theorem ReceiveMove.work_lt (h : ReceiveMove t t') : t'.work < t.work := by
  cases h
  case connect h => rcases h with ⟨hp, rfl⟩ | ⟨hp, rfl⟩ <;> simp [work, hp, ReceivePc.work]
  case fail hp _ => rcases hp with hp | hp | hp <;> simp [work, hp, ReceivePc.work]
  all_goals simp_all [work, setStatusCode, ReceivePc.work] <;> omega

theorem SendMove.work_lt (h : SendMove t t') : t'.work < t.work := by
  cases h
  case connect h => rcases h with ⟨hp, rfl⟩ | ⟨hp, rfl⟩ <;> simp [work, hp, SendPc.work]
  case fail hp _ => rcases hp with hp | hp | hp | ⟨_, hp⟩ | hp <;> simp [work, hp, SendPc.work]
  all_goals simp_all [work, setStatusCode, SendPc.work] <;> omega

/-- A statement of a goroutine lowers `work`; `CloseImpl` and `Tick` keep it. -/
theorem step_work {ev : CvsEvent} (h : t.step ev = some t') :
    t'.work + (if ev.isGoroutine then 1 else 0) ≤ t.work := by
  cases ev with
  | receive ok => exact (receiveStep_move h).work_lt
  | send ok => exact (sendStep_move h).work_lt
  | closeImpl | tick => cases h; exact le_rfl

theorem run_work {evs : List CvsEvent} (h : t.run evs = some t') :
    t'.work + evs.countP CvsEvent.isGoroutine ≤ t.work := by
  induction evs generalizing t with
  | nil => cases h; exact le_rfl
  | cons ev evs ih =>
    obtain ⟨t₁, h₁, h₂⟩ := Option.bind_eq_some.1 h
    have hs := step_work h₁
    have hr := ih h₂
    rw [List.countP_cons]
    omega

end CvsTask

theorem CvsReach.run {cfg : Config} {rs : List StrPair} {t t' : CvsTask} {evs : List CvsEvent}
    (h : CvsReach cfg rs t) (hr : t.run evs = some t') : CvsReach cfg rs t' := by
  induction evs generalizing t with
  | nil => cases hr; exact h
  | cons ev evs ih =>
    obtain ⟨t₁, h₁, h₂⟩ := Option.bind_eq_some.1 hr
    exact ih (h.step ev h₁) h₂

/-- Over an upstream of `n` pairs, in every interleaving with `CloseImpl` and `Tick`, the two
goroutines take at most `11 + 4 * n` steps of the model: one per statement, but one for the three
statements that send a pair. -/
theorem goroutine_steps_le {cfg : Config} {rs : List StrPair} {evs : List CvsEvent} {t : CvsTask}
    (h : (CvsTask.newCvsTask cfg rs).initImpl.run evs = some t) :
    evs.countP CvsEvent.isGoroutine + t.work ≤ 11 + 4 * rs.length := by
  have hw := CvsTask.run_work h
  have h₀ : (CvsTask.newCvsTask cfg rs).initImpl.work = 5 + 6 + 4 * rs.length + 2 * 0 := rfl
  omega

/-- Both goroutines dial, on an empty upstream. -/
theorem goroutine_steps_le_dials :
    ∃ t, (CvsTask.newCvsTask ⟨0, "out", "start"⟩ []).initImpl.run [.receive true, .send true] =
        some t ∧
      [CvsEvent.receive true, .send true].countP CvsEvent.isGoroutine + t.work ≤
        11 + 4 * ([] : List StrPair).length :=
  ⟨_, rfl, goroutine_steps_le rfl⟩

/-! ## The buffer bound -/

/-- Facts of a reachable task beside `Pipeline`: the channel's capacity bounds the buffer, and
`Receive` returns `nil` only after closing the buffer or on a cancelled context. -/
structure Bounded (t : CvsTask) : Prop where
  buffer_le : t.buffer.length ≤ bufferSize
  exited_true : t.receivePc = .exited true → t.closed = true ∨ t.canceled = true

namespace Bounded

variable {cfg : Config} {rs : List StrPair} {t t' : CvsTask}

theorem init : Bounded (CvsTask.newCvsTask cfg rs).initImpl where
  buffer_le := Nat.zero_le _
  exited_true h := by cases h

theorem receive (hb : Bounded t) (h : CvsTask.ReceiveMove t t') : Bounded t' := by
  cases h
  case connect h => rcases h with ⟨-, rfl⟩ | ⟨-, rfl⟩ <;> exact ⟨hb.buffer_le, fun e => by cases e⟩
  case push hlt =>
    exact ⟨by rw [List.length_append, List.length_singleton]; exact hlt, fun e => by cases e⟩
  case eof => exact ⟨hb.buffer_le, fun _ => .inl rfl⟩
  case canceled hc => exact ⟨hb.buffer_le, fun _ => .inr hc⟩
  all_goals exact ⟨hb.buffer_le, fun e => by cases e⟩

theorem send (hb : Bounded t) (h : CvsTask.SendMove t t') : Bounded t' := by
  cases h
  case fail hc => exact ⟨hb.buffer_le, fun e => (hb.exited_true e).imp_right hc⟩
  case take hbuf => exact ⟨le_trans (by simp [hbuf]) hb.buffer_le, hb.exited_true⟩
  all_goals exact { hb with }

end Bounded

theorem CvsReach.bounded {cfg : Config} {rs : List StrPair} {t : CvsTask} (h : CvsReach cfg rs t) :
    Bounded t := by
  induction h with
  | init => exact Bounded.init
  | step ev _ hs ih =>
    cases ev with
    | receive ok => exact ih.receive (CvsTask.receiveStep_move hs)
    | send ok => exact ih.send (CvsTask.sendStep_move hs)
    | closeImpl => cases hs; exact ⟨ih.buffer_le, fun _ => .inr rfl⟩
    | tick => cases hs; exact ih

/-! ## Quiet states -/

namespace CvsTask

variable {t : CvsTask}

/-- `Receive` cannot run only at a push into a full buffer on a live context, or once it
returned. -/
theorem receive_blocked (h : ∀ ok, t.receiveStep ok = none) :
    (∃ kv, t.receivePc = .push kv) ∧ bufferSize ≤ t.buffer.length ∧ t.canceled = false ∨
      ∃ b, t.receivePc = .exited b := by
  have h₀ := h false
  have h₁ := h true
  rcases hp : t.receivePc with _ | _ | _ | kv | err | _ | b <;>
    simp only [receiveStep, hp, reduceCtorEq] at h₀ h₁
  case push => simp_all
  case exited => exact .inr ⟨b, rfl⟩

/-- `Send` cannot run only on an empty, open buffer and a live context, or once it returned. -/
theorem send_blocked (h : ∀ ok, t.sendStep ok = none) :
    t.sendPc = .loop ∧ t.buffer = [] ∧ t.closed = false ∧ t.canceled = false ∨
      ∃ b, t.sendPc = .exited b := by
  have h₀ := h false
  have h₁ := h true
  rcases hp : t.sendPc with _ | _ | _ | kv | _ | _ | err | _ | b <;>
    simp only [sendStep, hp, reduceCtorEq] at h₀ h₁
  case loop =>
    rcases hb : t.buffer with _ | ⟨kv, rest⟩ <;> cases hc : t.closed <;> simp_all
  case exited => exact .inr ⟨b, rfl⟩

/-- After `CloseImpl`, a task where neither goroutine can run has both returned. -/
theorem Quiet.exited_of_canceled (hq : t.Quiet) (hc : t.canceled = true) :
    (∃ b, t.receivePc = .exited b) ∧ ∃ b, t.sendPc = .exited b :=
  ⟨(receive_blocked fun ok => (hq ok).1).resolve_left (by simp [hc]),
    (send_blocked fun ok => (hq ok).2).resolve_left (by simp [hc])⟩

end CvsTask

/-- Before `CloseImpl`, a reachable task where neither goroutine can run has both returned, or
one waits on the buffer for a partner that returned an error without calling `cancelFn`. -/
theorem quiet_cases {cfg : Config} {rs : List StrPair} {t : CvsTask} (h : CvsReach cfg rs t)
    (hq : t.Quiet) :
    (∃ b, t.receivePc = .exited b) ∧ (∃ b, t.sendPc = .exited b) ∨
    t.canceled = false ∧
      ((∃ kv, t.receivePc = .push kv) ∧ t.buffer.length = bufferSize ∧ t.sendPc = .exited false ∨
        t.receivePc = .exited false ∧ t.sendPc = .loop ∧ t.buffer = [] ∧ t.closed = false) := by
  have hp := h.inv.1
  have hb := h.bounded
  rcases CvsTask.receive_blocked (fun ok => (hq ok).1) with ⟨⟨kv, hr⟩, hfull, hc⟩ | ⟨br, hr⟩ <;>
    rcases CvsTask.send_blocked (fun ok => (hq ok).2) with ⟨hl, hnil, hcl, hc'⟩ | ⟨bs, hs⟩
  · -- both at the buffer, which cannot be full and empty
    rw [hnil] at hfull
    exact absurd hfull (by decide)
  · -- `Send` succeeded only after `Receive` closed the buffer
    cases bs
    · exact .inr ⟨hc, .inl ⟨⟨kv, hr⟩, le_antisymm hb.buffer_le hfull, hs⟩⟩
    · have := (hp.closed (hp.drained (hs ▸ trivial)).1).1
      rw [hr] at this; cases this
  · -- `Receive` returned `nil` only after closing the buffer or on a cancelled context
    cases br
    · exact .inr ⟨hc', .inr ⟨hr, hl, hnil, hcl⟩⟩
    · rcases hb.exited_true hr with e | e <;> simp_all
  · exact .inl ⟨⟨br, hr⟩, bs, hs⟩

/-- A `Receive` that cannot dial leaves `Send` waiting on the empty buffer until `CloseImpl`. -/
theorem quiet_cases_receive_dial_failed :
    ∃ t, CvsReach ⟨0, "out", "start"⟩ [⟨"k1", "v1"⟩] t ∧ t.Quiet ∧
      ((∃ b, t.receivePc = .exited b) ∧ (∃ b, t.sendPc = .exited b) ∨
        t.canceled = false ∧
          ((∃ kv, t.receivePc = .push kv) ∧ t.buffer.length = bufferSize ∧ t.sendPc = .exited false ∨
            t.receivePc = .exited false ∧ t.sendPc = .loop ∧ t.buffer = [] ∧ t.closed = false)) :=
  have h : CvsReach ⟨0, "out", "start"⟩ [⟨"k1", "v1"⟩] _ :=
    .step (.send true) (.step (.send true) (.step (.receive true) (.step (.receive true)
      (.step (.receive false) .init rfl) rfl) rfl) rfl) rfl
  ⟨_, h, by decide, quiet_cases h (by decide)⟩

/-! ## Runs where every call succeeds -/

/-- No call of the task has failed, and `CloseImpl` has not been called. -/
structure Healthy (t : CvsTask) : Prop where
  receive_ok : t.receivePc.Ok
  send_ok : t.sendPc.Ok
  not_canceled : t.canceled = false
  finished : t.sendPc = .exited true → t.statusCode = .finished

/-- An event of a run where every call succeeds and `CloseImpl` is not called. -/
def CvsEvent.Succeeds (ev : CvsEvent) : Prop := ev = .receive true ∨ ev = .send true ∨ ev = .tick

instance (ev : CvsEvent) : Decidable ev.Succeeds := inferInstanceAs (Decidable (_ ∨ _ ∨ _))

namespace Healthy

variable {cfg : Config} {rs : List StrPair} {t t' : CvsTask}

theorem init : Healthy (CvsTask.newCvsTask cfg rs).initImpl where
  receive_ok := trivial
  send_ok := trivial
  not_canceled := rfl
  finished h := by cases h

theorem receive (hh : Healthy t) (h : t.receiveStep true = some t') : Healthy t' := by
  have hr := hh.receive_ok
  rcases hp : t.receivePc with _ | _ | _ | kv | err | _ | b <;> rw [hp] at hr <;>
    simp only [CvsTask.receiveStep, hp, reduceCtorEq] at h
  case recv => split at h <;> cases h <;> exact { hh with receive_ok := trivial }
  case push => split at h <;> cases h; exact { hh with receive_ok := trivial }
  case failed | reportError => cases hr
  all_goals cases h; exact { hh with receive_ok := trivial }

theorem send (hh : Healthy t) (h : t.sendStep true = some t') : Healthy t' := by
  have hs := hh.send_ok
  rcases hp : t.sendPc with _ | _ | _ | kv | _ | _ | err | _ | b <;> rw [hp] at hs <;>
    simp only [CvsTask.sendStep, hp, reduceCtorEq] at h
  case loop =>
    split at h <;> cases h <;> exact { hh with send_ok := trivial, finished := nofun }
  case succeeded => cases h; exact { hh with send_ok := trivial, finished := fun _ => rfl }
  case failed | reportError => cases hs
  all_goals cases h; exact { hh with send_ok := trivial, finished := nofun }

theorem step (hh : Healthy t) {ev : CvsEvent} (hev : ev.Succeeds) (h : t.step ev = some t') :
    Healthy t' := by
  rcases hev with rfl | rfl | rfl
  · exact hh.receive h
  · exact hh.send h
  · cases h; exact hh

theorem run (hh : Healthy t) {evs : List CvsEvent} (hev : ∀ ev ∈ evs, ev.Succeeds)
    (h : t.run evs = some t') : Healthy t' := by
  induction evs generalizing t with
  | nil => cases h; exact hh
  | cons ev evs ih =>
    obtain ⟨t₁, h₁, h₂⟩ := Option.bind_eq_some.1 h
    exact ih (hh.step (hev ev (.head _)) h₁) (fun e he => hev e (.tail _ he)) h₂

end Healthy

namespace CvsTask

variable {t : CvsTask}

/-- A `Receive` that has not failed stops only at a push into a full buffer, or once it
returned `nil`. -/
theorem receive_blocked_ok (hr : t.receivePc.Ok) (h : t.receiveStep true = none) :
    (∃ kv, t.receivePc = .push kv) ∧ bufferSize ≤ t.buffer.length ∨ t.receivePc = .exited true := by
  rcases hp : t.receivePc with _ | _ | _ | kv | err | _ | b <;> rw [hp] at hr <;>
    simp only [receiveStep, hp, reduceCtorEq] at h
  case recv => split at h <;> cases h
  case push => exact .inl ⟨⟨kv, rfl⟩, by simpa using h⟩
  case exited =>
    cases b
    · cases hr
    · exact .inr rfl

/-- A `Send` that has not failed stops only on an empty, open buffer, or once it returned
`nil`. -/
theorem send_blocked_ok (hs : t.sendPc.Ok) (h : t.sendStep true = none) :
    t.sendPc = .loop ∧ t.buffer = [] ∧ t.closed = false ∨ t.sendPc = .exited true := by
  rcases hp : t.sendPc with _ | _ | _ | kv | _ | _ | err | _ | b <;> rw [hp] at hs <;>
    simp only [sendStep, hp, reduceCtorEq] at h
  case loop =>
    rcases hb : t.buffer with _ | ⟨kv, rest⟩ <;> cases hc : t.closed <;> simp_all
  case exited =>
    cases b
    · cases hs
    · exact .inr rfl

end CvsTask

/-- Where a run of successful statements stops, both goroutines returned `nil` and `Send` reported
`WorkerStatusFinished`. -/
theorem Healthy.exited_of_stopped {cfg : Config} {rs : List StrPair} {t : CvsTask}
    (h : CvsReach cfg rs t) (hh : Healthy t) (hr : t.receiveStep true = none)
    (hs : t.sendStep true = none) :
    t.receivePc = .exited true ∧ t.sendPc = .exited true ∧ t.statusCode = .finished := by
  have hp := h.inv.1
  have hb := h.bounded
  rcases CvsTask.receive_blocked_ok hh.receive_ok hr with ⟨⟨kv, hr⟩, hfull⟩ | hr <;>
    rcases CvsTask.send_blocked_ok hh.send_ok hs with ⟨hl, hnil, hcl⟩ | hs
  · -- both at the buffer, which cannot be full and empty
    rw [hnil] at hfull
    exact absurd hfull (by decide)
  · -- `Send` succeeded only after `Receive` closed the buffer
    have := (hp.closed (hp.drained (hs ▸ trivial)).1).1
    rw [hr] at this; cases this
  · -- `Receive` returned `nil` on a context never cancelled: it closed the buffer
    rcases hb.exited_true hr with e | e
    · rw [hcl] at e; cases e
    · rw [hh.not_canceled] at e; cases e
  · exact ⟨hr, hs, hh.finished hs⟩

/-- From a reachable task none of whose calls failed, successful statements always lead to a
state where neither goroutine can go on. -/
theorem Healthy.exists_stop {cfg : Config} {rs : List StrPair} {t : CvsTask}
    (h : CvsReach cfg rs t) (hh : Healthy t) :
    ∃ evs t', t.run evs = some t' ∧ (∀ ev ∈ evs, ev.Succeeds) ∧
      t'.receiveStep true = none ∧ t'.sendStep true = none := by
  obtain ⟨w, hw⟩ : ∃ w, t.work = w := ⟨_, rfl⟩
  induction w using Nat.strong_induction_on generalizing t with
  | _ w ih =>
    by_cases hr : t.receiveStep true = none
    · by_cases hs : t.sendStep true = none
      · exact ⟨[], t, rfl, fun _ => nofun, hr, hs⟩
      · obtain ⟨t₁, h₁⟩ := Option.ne_none_iff_exists'.1 hs
        obtain ⟨evs, t', hrun, hev, hstop⟩ := ih _ (hw ▸ (CvsTask.sendStep_move h₁).work_lt)
          (h.step (.send true) h₁) (hh.send h₁) rfl
        exact ⟨.send true :: evs, t', by simpa [CvsTask.run, CvsTask.step, h₁] using hrun,
          List.forall_mem_cons.2 ⟨.inr (.inl rfl), hev⟩, hstop⟩
    · obtain ⟨t₁, h₁⟩ := Option.ne_none_iff_exists'.1 hr
      obtain ⟨evs, t', hrun, hev, hstop⟩ := ih _ (hw ▸ (CvsTask.receiveStep_move h₁).work_lt)
        (h.step (.receive true) h₁) (hh.receive h₁) rfl
      exact ⟨.receive true :: evs, t', by simpa [CvsTask.run, CvsTask.step, h₁] using hrun,
        List.forall_mem_cons.2 ⟨.inl rfl, hev⟩, hstop⟩

/-- When every call succeeds and `CloseImpl` is not called, the task finishes: from every state
such a run reaches, successful statements lead to a state where neither goroutine can go on, and
wherever they stop, the status is `WorkerStatusFinished` and the downstream got the upstream's
pairs in order. -/
theorem ok_runs_finish {cfg : Config} {rs : List StrPair} {evs : List CvsEvent} {t : CvsTask}
    (hrun : (CvsTask.newCvsTask cfg rs).initImpl.run evs = some t)
    (hev : ∀ ev ∈ evs, ev.Succeeds) :
    (∃ evs' t', t.run evs' = some t' ∧ (∀ ev ∈ evs', ev.Succeeds) ∧
      t'.receiveStep true = none ∧ t'.sendStep true = none) ∧
    (t.receiveStep true = none → t.sendStep true = none →
      t.statusCode = .finished ∧ t.written = rs.map (writeLinesRequest cfg)) := by
  have h := CvsReach.init.run hrun
  have hh := Healthy.init.run hev hrun
  refine ⟨Healthy.exists_stop h hh, fun hr hs => ?_⟩
  have hx := Healthy.exited_of_stopped h hh hr hs
  exact ⟨hx.2.2, (h.inv.1.sent_all hx.2.1).1⟩

/-- After `Receive` dialled, on an upstream of one pair. -/
theorem ok_runs_finish_after_dial :
    ∃ t, (CvsTask.newCvsTask ⟨0, "out", "start"⟩ [⟨"k1", "v1"⟩]).initImpl.run [.receive true] =
        some t ∧ (∀ ev ∈ [CvsEvent.receive true], ev.Succeeds) ∧
      (∃ evs' t', t.run evs' = some t' ∧ (∀ ev ∈ evs', ev.Succeeds) ∧
        t'.receiveStep true = none ∧ t'.sendStep true = none) ∧
      (t.receiveStep true = none → t.sendStep true = none →
        t.statusCode = .finished ∧
          t.written = [⟨"k1", "v1"⟩].map (writeLinesRequest ⟨0, "out", "start"⟩)) :=
  have hrun : (CvsTask.newCvsTask ⟨0, "out", "start"⟩ [⟨"k1", "v1"⟩]).initImpl.run
      [.receive true] = some _ := rfl
  have hev : ∀ ev ∈ [CvsEvent.receive true], ev.Succeeds := by decide
  ⟨_, hrun, hev, ok_runs_finish hrun hev⟩

end Microcosm
