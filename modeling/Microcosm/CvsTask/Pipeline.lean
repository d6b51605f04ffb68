import Microcosm.CvsTask.Basic

/-!
# What the cvs task delivers, and the statuses it writes

Two invariants over every interleaving (`CvsReach`):

* `Pipeline`: the upstream's pairs are, in order, taken by `Send`, in the buffer, held by
  `Receive`, or still upstream, for as long as `Receive` runs; the buffer is closed only once all
  of them went in; until it fails, `Send` has written exactly the pairs it took; and it closes the
  writer only on a closed, empty buffer.
* `StatusInv`: after `InitImpl`'s `WorkerStatusNormal`, the statuses written are errors, or the
  one `WorkerStatusFinished` of a `Send` that succeeded; an error is written only by a goroutine
  that failed.

So a task whose status is `WorkerStatusFinished` sent the downstream exactly the upstream's pairs,
in order (`finished_sent_all`), and the status, once terminal, never changes
(`status_writes_terminal`).
-/

namespace Microcosm

namespace ReceivePc

/-- The pair `Receive` has read and not yet put into the buffer. -/
def held : ReceivePc → List StrPair
  | push kv => [kv]
  | _ => []

/-- `Receive` has not returned. -/
def Live : ReceivePc → Prop
  | dial | readLines | recv | push _ => True
  | _ => False

end ReceivePc

namespace SendPc

/-- The pair `Send` has taken and not yet written. -/
def held : SendPc → List StrPair
  | send kv => [kv]
  | _ => []

/-- `Send` has not failed. -/
def Ok : SendPc → Prop
  | failed _ | reportError | exited false => False
  | _ => True

/-- `Send` has found the buffer closed and empty. -/
def Drained : SendPc → Prop
  | closeAndRecv | succeeded | exited true => True
  | _ => False

end SendPc

/-- The pipeline invariant of the task started on `cfg` over the upstream `rs`. -/
structure Pipeline (cfg : Config) (rs : List StrPair) (t : CvsTask) : Prop where
  config_eq : t.config = cfg
  live : t.receivePc.Live → rs = t.popped ++ t.buffer ++ t.receivePc.held ++ t.upstream
  closed : t.closed = true → t.receivePc = .exited true ∧ rs = t.popped ++ t.buffer
  written : t.sendPc.Ok →
    t.popped.map (writeLinesRequest cfg) = t.written ++ t.sendPc.held.map (writeLinesRequest cfg)
  drained : t.sendPc.Drained → t.closed = true ∧ t.buffer = []
  counter_eq : t.counter = BitVec.ofNat 64 t.written.length
  curLoc_eq : t.curLoc = (t.written.getLast?.map (·.key)).getD cfg.startLoc

namespace Pipeline

variable {cfg : Config} {rs : List StrPair} {t t' : CvsTask}

theorem init : Pipeline cfg rs (CvsTask.newCvsTask cfg rs).initImpl where
  config_eq := rfl
  live _ := by simp [CvsTask.initImpl, CvsTask.newCvsTask, CvsTask.setStatusCode, ReceivePc.held]
  closed h := Bool.noConfusion h
  written _ := rfl
  drained h := h.elim
  counter_eq := rfl
  curLoc_eq := rfl

/-- While `Receive` has not ended the buffer is open. -/
theorem closed_eq_false (hi : Pipeline cfg rs t) (h : t.receivePc ≠ .exited true) :
    t.closed = false :=
  Bool.eq_false_iff.2 fun hc => h (hi.closed hc).1

/-- At a pc that holds no pair, `Send` has written all it took. -/
theorem written_eq (hi : Pipeline cfg rs t) {p : SendPc} (hp : t.sendPc = p) (hok : p.Ok)
    (hh : p.held = []) : t.popped.map (writeLinesRequest cfg) = t.written := by
  simpa [hp, hh] using hi.written (hp ▸ hok)

theorem live_eq (hi : Pipeline cfg rs t) {p : ReceivePc} (hp : t.receivePc = p) (hl : p.Live) :
    rs = t.popped ++ t.buffer ++ p.held ++ t.upstream :=
  hp ▸ hi.live (hp ▸ hl)

theorem receive (hi : Pipeline cfg rs t) (h : CvsTask.ReceiveMove t t') : Pipeline cfg rs t' := by
  have hcl := hi.closed_eq_false (h.not_exited true)
  have hno : ∀ {X : Prop}, t.closed = true → X := fun hc => absurd (hcl.symm.trans hc) Bool.false_ne_true
  cases h with
  | connect h =>
    obtain ⟨hp, rfl⟩ | ⟨hp, rfl⟩ := h <;>
      exact { hi with
        live := fun _ => by simpa [ReceivePc.held] using hi.live_eq hp trivial
        closed := hno }
  | fail c err hp => exact { hi with live := False.elim, closed := hno }
  | read hp hu =>
    have e := hi.live_eq hp trivial
    exact { hi with live := fun _ => by simpa [hu, ReceivePc.held] using e, closed := hno }
  | eof hp hu =>
    have e := hi.live_eq hp trivial
    exact { hi with
      live := False.elim
      closed := fun _ => ⟨rfl, by simpa [hu, ReceivePc.held] using e⟩
      drained := fun hd => hno (hi.drained hd).1 }
  | push hp hb =>
    have e := hi.live_eq hp trivial
    exact { hi with
      live := fun _ => by simpa [ReceivePc.held] using e
      closed := hno
      drained := fun hd => hno (hi.drained hd).1 }
  | canceled hp hc => exact { hi with live := False.elim, closed := hno }
  | setRunError hp => exact { hi with live := False.elim, closed := hno }
  | reportError hp => exact { hi with live := False.elim, closed := hno }

theorem send (hi : Pipeline cfg rs t) (h : CvsTask.SendMove t t') : Pipeline cfg rs t' := by
  cases h with
  | connect h =>
    obtain ⟨hp, rfl⟩ | ⟨hp, rfl⟩ := h <;>
      exact { hi with
        written := fun _ => by simpa [SendPc.held] using hi.written_eq hp trivial rfl
        drained := False.elim }
  | fail c err hp => exact { hi with written := False.elim, drained := False.elim }
  | take hp hb =>
    exact { hi with
      live := fun hl => by simpa [hb] using hi.live hl
      closed := fun hc => by simpa [hb] using hi.closed hc
      written := fun _ => by simpa [SendPc.held] using hi.written_eq hp trivial rfl
      drained := False.elim }
  | drained hp hb hc =>
    exact { hi with
      written := fun _ => by simpa [SendPc.held] using hi.written_eq hp trivial rfl
      drained := fun _ => ⟨hc, hb⟩ }
  | write hp =>
    exact { hi with
      written := fun _ => by simpa [hp, SendPc.held, hi.config_eq] using hi.written (hp ▸ trivial)
      drained := False.elim
      counter_eq := by simp [hi.counter_eq, BitVec.ofNat_add]
      curLoc_eq := by simp [writeLinesRequest] }
  | closeWriter hp =>
    exact { hi with
      written := fun _ => by simpa [SendPc.held] using hi.written_eq hp trivial rfl
      drained := fun _ => hi.drained (hp ▸ trivial) }
  | setRunError hp => exact { hi with written := False.elim, drained := False.elim }
  | reportError hp => exact { hi with written := False.elim, drained := False.elim }
  | reportFinished hp =>
    exact { hi with
      written := fun _ => by simpa [SendPc.held] using hi.written_eq hp trivial rfl
      drained := fun _ => hi.drained (hp ▸ trivial) }

/-- Once `Send` has returned `nil`, the downstream got the upstream's pairs, each once and in
order. -/
theorem sent_all (hi : Pipeline cfg rs t) (hx : t.sendPc = .exited true) :
    t.written = rs.map (writeLinesRequest cfg) ∧ t.counter = BitVec.ofNat 64 rs.length ∧
      t.curLoc = (rs.getLast?.map (·.firstStr)).getD cfg.startLoc := by
  obtain ⟨hc, hb⟩ := hi.drained (hx ▸ trivial)
  have hrs : rs = t.popped := by simpa [hb] using (hi.closed hc).2
  have hw : t.written = rs.map (writeLinesRequest cfg) := by
    rw [hrs, hi.written_eq hx trivial rfl]
  refine ⟨hw, by rw [hi.counter_eq, hw, List.length_map], ?_⟩
  rw [hi.curLoc_eq, hw, List.getLast?_map, Option.map_map]
  rfl

end Pipeline

/-- The statuses written: `InitImpl`'s `WorkerStatusNormal`, then errors, or the one
`WorkerStatusFinished` of a `Send` that succeeded; an error only from a goroutine that failed. -/
structure StatusInv (t : CvsTask) : Prop where
  writes_eq : t.statusWrites = .normal :: t.statusWrites.tail
  last : t.statusWrites.getLast? = some t.statusCode
  codes : ∀ c ∈ t.statusWrites.tail, c = .error ∨ c = .finished
  finished : .finished ∈ t.statusWrites.tail →
    t.sendPc = .exited true ∧ t.statusWrites.tail = [.finished]
  error : .error ∈ t.statusWrites.tail → t.receivePc = .exited false ∨ t.sendPc = .exited false

namespace StatusInv

variable {cfg : Config} {rs : List StrPair} {t t' : CvsTask}

theorem init : StatusInv (CvsTask.newCvsTask cfg rs).initImpl where
  writes_eq := rfl
  last := rfl
  codes _ h := (List.not_mem_nil _ h).elim
  finished h := (List.not_mem_nil _ h).elim
  error h := (List.not_mem_nil _ h).elim

/-- The status is the last one written: `WorkerStatusNormal` if no other was. -/
theorem code_mem (hs : StatusInv t) :
    t.statusCode = .normal ∧ t.statusWrites.tail = [] ∨ t.statusCode ∈ t.statusWrites.tail := by
  have hl := hs.last
  rw [hs.writes_eq] at hl
  rcases htl : t.statusWrites.tail with _ | ⟨c, cs⟩
  · rw [htl] at hl
    exact .inl ⟨(Option.some.inj hl).symm, rfl⟩
  · rw [htl, List.getLast?_cons_cons] at hl
    exact .inr (List.mem_of_getLast?_eq_some hl)

theorem tail_setStatusCode (hs : StatusInv t) (c : WorkerStatusCode) :
    (t.setStatusCode c).statusWrites.tail = t.statusWrites.tail ++ [c] := by
  simp only [CvsTask.setStatusCode]
  rw [hs.writes_eq]
  rfl

/-- A step that writes `c`. -/
theorem write (hs : StatusInv t) {c : WorkerStatusCode} (hc : c = .error ∨ c = .finished)
    (hw : t'.statusWrites = t.statusWrites ++ [c]) (hcode : t'.statusCode = c)
    (hfin : .finished ∈ t.statusWrites.tail ++ [c] →
      t'.sendPc = .exited true ∧ t.statusWrites.tail ++ [c] = [.finished])
    (herr : .error ∈ t.statusWrites.tail ++ [c] →
      t'.receivePc = .exited false ∨ t'.sendPc = .exited false) : StatusInv t' := by
  have htl : t'.statusWrites.tail = t.statusWrites.tail ++ [c] := by
    rw [hw, hs.writes_eq]; rfl
  refine ⟨?_, ?_, fun c' h => ?_, htl ▸ hfin, htl ▸ herr⟩
  · rw [htl, hw, hs.writes_eq]; rfl
  · rw [hw, hcode, List.getLast?_concat]
  · rcases List.mem_append.1 (htl ▸ h) with h | h
    · exact hs.codes c' h
    · exact (List.mem_singleton.1 h) ▸ hc

/-- A step of `Receive` that writes nothing. -/
theorem quiet_receive (hs : StatusInv t) (hw : t'.statusWrites = t.statusWrites)
    (hcode : t'.statusCode = t.statusCode) (hsend : t'.sendPc = t.sendPc)
    (hr : t.receivePc ≠ .exited false) : StatusInv t' where
  writes_eq := hw ▸ hs.writes_eq
  last := hw ▸ hcode ▸ hs.last
  codes := hw ▸ hs.codes
  finished h := hsend ▸ hw ▸ hs.finished (hw ▸ h)
  error h := .inr (hsend ▸ (hs.error (hw ▸ h)).resolve_left hr)

/-- A step of `Send` that writes nothing. -/
theorem quiet_send (hs : StatusInv t) (hw : t'.statusWrites = t.statusWrites)
    (hcode : t'.statusCode = t.statusCode) (hrecv : t'.receivePc = t.receivePc)
    (hp : ∀ b, t.sendPc ≠ .exited b) : StatusInv t' where
  writes_eq := hw ▸ hs.writes_eq
  last := hw ▸ hcode ▸ hs.last
  codes := hw ▸ hs.codes
  finished h := absurd (hs.finished (hw ▸ h)).1 (hp true)
  error h := .inl (hrecv ▸ (hs.error (hw ▸ h)).resolve_right (hp false))

theorem receive (hs : StatusInv t) (hi : Pipeline cfg rs t) (h : CvsTask.ReceiveMove t t') :
    StatusInv t' := by
  have hne := h.not_exited false
  have hne' := h.not_exited true
  cases h
  case reportError hp =>
    refine hs.write (.inl rfl) rfl rfl (fun hf => ?_) fun _ => .inl rfl
    have hf' : .finished ∈ t.statusWrites.tail := by simpa using hf
    exact absurd (hi.drained ((hs.finished hf').1 ▸ trivial)).1 (by
      simp [hi.closed_eq_false hne'])
  all_goals exact hs.quiet_receive rfl rfl rfl hne

theorem send (hs : StatusInv t) (hi : Pipeline cfg rs t) (h : CvsTask.SendMove t t') :
    StatusInv t' := by
  have hne := h.not_exited
  cases h
  case reportError hp =>
    refine hs.write (.inl rfl) rfl rfl (fun hf => ?_) fun _ => .inr rfl
    have hf' : .finished ∈ t.statusWrites.tail := by simpa using hf
    exact absurd (hs.finished hf').1 (hne true)
  case reportFinished hp =>
    -- `Send` succeeded: `Receive` closed the buffer, so nothing was written yet
    have hr := (hi.closed (hi.drained (hp ▸ trivial)).1).1
    have hnil : t.statusWrites.tail = [] := List.eq_nil_iff_forall_not_mem.2 fun c hc => by
      rcases hs.codes c hc with rfl | rfl
      · rcases hs.error hc with h | h
        · rw [hr] at h; cases h
        · exact hne false h
      · exact hne true (hs.finished hc).1
    refine hs.write (.inr rfl) rfl rfl (fun _ => ⟨rfl, by rw [hnil]; rfl⟩) fun he => ?_
    rw [hnil] at he
    cases List.mem_singleton.1 he
  all_goals exact hs.quiet_send rfl rfl rfl hne

end StatusInv

/-! ## Runs -/

section Runs

variable {cfg : Config} {rs : List StrPair} {t t' : CvsTask}

theorem CvsReach.inv (h : CvsReach cfg rs t) : Pipeline cfg rs t ∧ StatusInv t := by
  induction h with
  | init => exact ⟨Pipeline.init, StatusInv.init⟩
  | step ev _ hs ih =>
    cases ev with
    | receive ok =>
      have m := CvsTask.receiveStep_move hs
      exact ⟨ih.1.receive m, ih.2.receive ih.1 m⟩
    | send ok =>
      have m := CvsTask.sendStep_move hs
      exact ⟨ih.1.send m, ih.2.send ih.1 m⟩
    | closeImpl =>
      cases hs
      exact ⟨{ ih.1 with }, { ih.2 with }⟩
    | tick => cases hs; exact ih

/-- A step only adds to the statuses written. -/
theorem CvsTask.statusWrites_step {ev : CvsEvent} (h : t.step ev = some t') :
    ∃ l, t'.statusWrites = t.statusWrites ++ l := by
  cases ev with
  | receive ok =>
    cases CvsTask.receiveStep_move h <;>
      first | exact ⟨[], (List.append_nil _).symm⟩ | exact ⟨[_], rfl⟩
  | send ok =>
    cases CvsTask.sendStep_move h <;>
      first | exact ⟨[], (List.append_nil _).symm⟩ | exact ⟨[_], rfl⟩
  | closeImpl | tick => cases h; exact ⟨[], (List.append_nil _).symm⟩

theorem CvsReach.later (h : CvsReach cfg rs t) (ht : Relation.ReflTransGen CvsTask.Next t t') :
    CvsReach cfg rs t' ∧ ∃ l, t'.statusWrites = t.statusWrites ++ l := by
  induction ht with
  | refl => exact ⟨h, [], (List.append_nil _).symm⟩
  | tail _ hn ih =>
    obtain ⟨ev, hs⟩ := hn
    obtain ⟨l', hl'⟩ := CvsTask.statusWrites_step hs
    obtain ⟨l, hl⟩ := ih.2
    exact ⟨ih.1.step ev hs, l ++ l', by rw [hl', hl, List.append_assoc]⟩

end Runs

/-- A task whose status became `WorkerStatusFinished` sent the downstream exactly the pairs of
the upstream, each once and in order; `counter` is their number and `curLoc` the key of the last
(`StartLoc` when there is none). -/
theorem finished_sent_all {cfg : Config} {rs : List StrPair} {t : CvsTask} (h : CvsReach cfg rs t)
    (hf : t.statusCode = .finished) :
    t.written = rs.map (writeLinesRequest cfg) ∧ t.counter = BitVec.ofNat 64 rs.length ∧
      t.curLoc = (rs.getLast?.map (·.firstStr)).getD cfg.startLoc := by
  obtain ⟨hp, hs⟩ := h.inv
  have hmem : WorkerStatusCode.finished ∈ t.statusWrites.tail :=
    hf ▸ hs.code_mem.resolve_left fun h' => by rw [hf] at h'; cases h'.1
  exact hp.sent_all (hs.finished hmem).1

/-- One pair goes through, and the task finishes. -/
theorem finished_after_one_pair :
    ∃ t, CvsReach ⟨0, "out", "start"⟩ [⟨"k1", "v1"⟩] t ∧ t.statusCode = .finished ∧
      t.written = [writeLinesRequest ⟨0, "out", "start"⟩ ⟨"k1", "v1"⟩] ∧ t.curLoc = "k1" :=
  have h : CvsReach ⟨0, "out", "start"⟩ [⟨"k1", "v1"⟩] _ :=
    .step (.send true) (.step (.send true) (.step (.send true) (.step (.send true)
      (.step (.send true) (.step (.receive true) (.step (.receive true) (.step (.receive true)
      (.step (.send true) (.step (.send true) (.step (.receive true) (.step (.receive true)
      .init rfl) rfl) rfl) rfl) rfl) rfl) rfl) rfl) rfl) rfl) rfl) rfl
  ⟨_, h, rfl, (finished_sent_all h rfl).1, (finished_sent_all h rfl).2.2⟩

/-- After `InitImpl`'s `WorkerStatusNormal` the task writes either one `WorkerStatusFinished` or
only `WorkerStatusError`s; so once its status is `WorkerStatusError` or `WorkerStatusFinished`
it keeps it in every later state. -/
theorem status_writes_terminal {cfg : Config} {rs : List StrPair} {t : CvsTask}
    (h : CvsReach cfg rs t) :
    t.statusWrites.head? = some .normal ∧
    (t.statusWrites.tail = [.finished] ∨ ∀ c ∈ t.statusWrites.tail, c = .error) ∧
    ∀ t', Relation.ReflTransGen CvsTask.Next t t' →
      t.statusCode = .error ∨ t.statusCode = .finished → t'.statusCode = t.statusCode := by
  have hs := h.inv.2
  refine ⟨by rw [hs.writes_eq]; rfl, ?_, fun t' ht hc => ?_⟩
  · by_cases hf : WorkerStatusCode.finished ∈ t.statusWrites.tail
    · exact .inl (hs.finished hf).2
    · exact .inr fun c hm => (hs.codes c hm).resolve_right fun e => hf (e ▸ hm)
  obtain ⟨h', l, hl⟩ := h.later ht
  have hs' := h'.inv.2
  have htl : t'.statusWrites.tail = t.statusWrites.tail ++ l := by rw [hl, hs.writes_eq]; rfl
  have hm : t.statusCode ∈ t'.statusWrites.tail := htl ▸ List.mem_append_left l
    (hs.code_mem.resolve_left fun h'' => by rcases hc with hc | hc <;> rw [hc] at h'' <;> cases h''.1)
  rcases hs'.code_mem with ⟨-, hnil⟩ | hm'
  · rw [hnil] at hm; cases hm
  rcases hc with hc | hc <;> rw [hc] at hm ⊢
  · -- an error was written: `Send` did not finish, so every write is an error
    have hf : WorkerStatusCode.finished ∉ t'.statusWrites.tail := fun hf => by
      rw [(hs'.finished hf).2] at hm; cases List.mem_singleton.1 hm
    exact (hs'.codes _ hm').resolve_right fun e => hf (e ▸ hm')
  · rw [(hs'.finished hm).2] at hm'
    exact List.mem_singleton.1 hm'

/-- A task whose `Receive` cannot dial the source reports the error, and keeps it. -/
theorem status_error_kept :
    ∃ t, CvsReach ⟨0, "out", "start"⟩ [] t ∧ t.statusCode = .error ∧
      ∀ t', Relation.ReflTransGen CvsTask.Next t t' → t'.statusCode = .error :=
  have h : CvsReach ⟨0, "out", "start"⟩ [] _ :=
    .step (.receive true) (.step (.receive true) (.step (.receive false) .init rfl) rfl) rfl
  ⟨_, h, rfl, fun t' ht => (status_writes_terminal h).2.2 t' ht (.inl rfl)⟩

end Microcosm
