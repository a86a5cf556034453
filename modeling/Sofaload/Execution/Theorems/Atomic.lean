import Sofaload.Execution.Theorems.Failure
import Sofaload.Execution.System

namespace Sofaload

namespace Ctx

-- The budget left plus the requests sent, as one thread sees them.
def budgetSum (c : Ctx) : Nat := c.g.totalReqLeft + c.g.totalReqSend

-- `c'` follows `c` by code that sends nothing: the globals stay, and no request is counted as
-- started.
def Idle (c c' : Ctx) : Prop := c'.g = c.g ∧ c'.w.stats.reqStarted = c.w.stats.reqStarted

-- `c'` follows `c` by code that never raises `total_req_left` nor the budget left plus the
-- requests sent, and counts no more requests as started than it sends.
def Kept (c c' : Ctx) : Prop :=
  c'.g.totalReqLeft ≤ c.g.totalReqLeft ∧ c'.budgetSum ≤ c.budgetSum ∧
    c'.w.stats.reqStarted + c.g.totalReqSend ≤ c.w.stats.reqStarted + c'.g.totalReqSend

-- `c'` follows `c` by code that, when the thread holds no value of `total_req_left` loaded
-- earlier, keeps the counters and loads none for later.
def Budgets (c c' : Ctx) : Prop := c.g.loaded = none → c'.g.loaded = none ∧ Kept c c'

-- `c'` follows `c` by code that keeps the counters whatever value of `total_req_left` the thread
-- loaded before it ran, and loads none for later.
def Steady (c c' : Ctx) : Prop := (c.g.loaded = none → c'.g.loaded = none) ∧ Kept c c'

variable {cfg : Config} {c c₁ c₂ c₃ : Ctx} {i sid : Nat}

namespace Idle

theorem refl (c : Ctx) : Idle c c := ⟨rfl, rfl⟩

theorem trans (h₁ : Idle c₁ c₂) (h₂ : Idle c₂ c₃) : Idle c₁ c₃ := ⟨h₂.1.trans h₁.1, h₂.2.trans h₁.2⟩

end Idle

theorem Kept.trans (h₁ : Kept c₁ c₂) (h₂ : Kept c₂ c₃) : Kept c₁ c₃ :=
  have := h₁.2.2; have := h₂.2.2
  ⟨h₂.1.trans h₁.1, h₂.2.1.trans h₁.2.1, by omega⟩

namespace Budgets

theorem refl (c : Ctx) : Budgets c c := fun hl => ⟨hl, le_rfl, le_rfl, le_rfl⟩

theorem trans (h₁ : Budgets c₁ c₂) (h₂ : Budgets c₂ c₃) : Budgets c₁ c₃ := fun hl =>
  let ⟨hl₂, k₁⟩ := h₁ hl
  let ⟨hl₃, k₂⟩ := h₂ hl₂
  ⟨hl₃, k₁.trans k₂⟩

theorem steady (h : Budgets c₁ c₂) (hl : c₁.g.loaded = none) : Steady c₁ c₂ :=
  ⟨fun _ => (h hl).1, (h hl).2⟩

end Budgets

namespace Steady

theorem trans (h₁ : Steady c₁ c₂) (h₂ : Steady c₂ c₃) : Steady c₁ c₃ :=
  ⟨fun hl => h₂.1 (h₁.1 hl), h₁.2.trans h₂.2⟩

theorem budgets (h : Steady c₁ c₂) : Budgets c₁ c₂ := fun hl => ⟨h.1 hl, h.2⟩

end Steady

theorem Idle.steady (h : Idle c₁ c₂) : Steady c₁ c₂ :=
  ⟨fun hl => h.1 ▸ hl, h.1 ▸ le_rfl, by simp only [budgetSum, h.1]; rfl, by rw [h.1, h.2]⟩

theorem Idle.budgets (h : Idle c₁ c₂) : Budgets c₁ c₂ := h.steady.budgets

theorem idle_modClient {f : Client → Client} : Idle c (c.modClient i f) := ⟨rfl, rfl⟩

theorem idle_modStats {f : Stats → Stats} (hf : ∀ st, (f st).reqStarted = st.reqStarted) :
    Idle c (c.modStats f) :=
  ⟨rfl, hf _⟩

theorem idle_disconnect : Idle c (c.disconnect i) := ⟨rfl, rfl⟩

theorem idle_terminateSession : Idle c (c.terminateSession i) := ⟨rfl, rfl⟩

theorem idle_recordRtt {rtt : Nat} : Idle c (c.recordRtt rtt) := ⟨rfl, rfl⟩

theorem idle_setClients {l : List Client} : Idle c { c with w.clients := l } :=
  ⟨rfl, rfl⟩

theorem idle_restartTimeout : Idle c (c.restartTimeout cfg i) := by
  unfold restartTimeout; split <;> exact ⟨rfl, rfl⟩

theorem loadLeft_loaded : c.loadLeft.2.g.loaded = none := by
  unfold loadLeft; split
  · rfl
  · assumption

-- A load uses up whatever value the thread loaded before, and changes no counter.
theorem steady_loadLeft : Steady c c.loadLeft.2 :=
  ⟨fun _ => loadLeft_loaded, by unfold loadLeft; split <;> exact ⟨le_rfl, le_rfl, le_rfl⟩⟩

theorem idle_makeSocket : Idle c (c.makeSocket i).2 := by
  unfold makeSocket; split <;> exact ⟨rfl, rfl⟩

theorem idle_connectNext (l : List Nat) (a : Option Nat) : Idle c (c.connectNext i l a).2 := by
  induction l generalizing c a with
  | nil => exact Idle.refl c
  | cons x l ih =>
    unfold connectNext; dsimp only; split
    · exact idle_modClient.trans idle_makeSocket
    · exact (idle_modClient.trans idle_makeSocket).trans (ih _)

theorem idle_processAbandonedStreams : Idle c (c.processAbandonedStreams i) := by
  unfold processAbandonedStreams; split <;> exact ⟨rfl, rfl⟩

theorem idle_processRequestFailure : Idle c c.processRequestFailure := by
  unfold processRequestFailure; split <;> exact ⟨rfl, rfl⟩

theorem idle_fail : Idle c (c.fail i) := idle_disconnect.trans idle_processAbandonedStreams

theorem idle_timeout : Idle c (c.timeout i) := by
  refine Idle.trans ?_ idle_disconnect
  unfold processTimedoutStreams; split
  · exact (idle_modStats (by intro; rfl)).trans idle_processAbandonedStreams
  · exact Idle.refl c

theorem idle_connectPhase : Idle c (c.connectPhase cfg i) := by
  unfold connectPhase; split_ifs <;> exact ⟨rfl, rfl⟩

theorem idle_openSocket : Idle c (c.openSocket i).2 := by
  unfold openSocket; split
  · exact idle_makeSocket
  · dsimp only; split
    · exact idle_connectNext _ _
    · exact (idle_connectNext _ _).trans idle_modClient

theorem idle_connect : Idle c (c.connect cfg i).2 := by
  have h : Idle c (((c.connectPhase cfg i).restartTimeout cfg i).openSocket i).2 :=
    idle_connectPhase.trans (idle_restartTimeout.trans idle_openSocket)
  unfold connect; dsimp only; split
  · exact h.trans idle_modClient
  · exact h

-- A passed check sends the request and counts it as started at most once; with a session it
-- then opens a stream.
theorem submitPassed_sends :
    (c.submitPassed cfg i).2.g = { c.g with totalReqSend := c.g.totalReqSend + 1 } ∧
      (c.submitPassed cfg i).2.w.stats.reqStarted ≤ c.w.stats.reqStarted + 1 := by
  have hs (c : Ctx) : (c.sessionSubmit i).2.g = c.g ∧ (c.sessionSubmit i).2.w.stats = c.w.stats := by
    unfold sessionSubmit; split
    · exact ⟨rfl, rfl⟩
    · split <;> exact ⟨rfl, rfl⟩
  have hc (c : Ctx) : (c.countStarted cfg i).g = c.g ∧
      (c.countStarted cfg i).w.stats.reqStarted = c.w.stats.reqStarted + 1 := by
    unfold countStarted; split <;> exact ⟨rfl, rfl⟩
  obtain ⟨h₁, h₂⟩ := hs { c with g.totalReqSend := c.g.totalReqSend + 1 }
  unfold submitPassed; dsimp only; split
  · exact ⟨h₁, by rw [h₂]; exact Nat.le_succ _⟩
  · split
    · obtain ⟨h₃, h₄⟩ := hc ({ c with g.totalReqSend := c.g.totalReqSend + 1 }.sessionSubmit i).2
      exact ⟨h₃.trans h₁, by rw [h₄, h₂]⟩
    · exact ⟨h₁, by rw [h₂]; exact Nat.le_succ _⟩

-- Outside QPS mode a request is sent only after its check took one from a positive
-- `total_req_left`, which it loaded right before.
theorem budgets_submitRequest (hq : cfg.isQpsMode = false) : Budgets c (c.submitRequest cfg i).2 := by
  intro hl
  unfold submitRequest gate
  simp only [hq, Bool.false_eq_true, if_false, loadLeft, hl]
  by_cases h₀ : c.g.totalReqLeft = 0
  · simp only [h₀, if_true]
    exact ⟨hl, le_rfl, le_rfl, le_rfl⟩
  · simp only [h₀, if_false, decWrap_of_pos (Nat.pos_of_ne_zero h₀)]
    obtain ⟨hg, hs⟩ :=
      @submitPassed_sends cfg { c with g.totalReqLeft := c.g.totalReqLeft - 1, g.loaded := none } i
    simp only [Kept, budgetSum, hg]
    refine ⟨trivial, Nat.sub_le _ _, by omega, ?_⟩
    dsimp only at hs ⊢; omega

theorem budgets_submitInitial (hq : cfg.isQpsMode = false) (n : Nat) :
    Budgets c (c.submitInitial cfg i n) := by
  induction n generalizing c with
  | zero => exact Budgets.refl c
  | succ n ih =>
    unfold submitInitial; dsimp only; split
    · exact (budgets_submitRequest hq).trans ih
    · exact (budgets_submitRequest hq).trans idle_processRequestFailure.budgets

theorem budgets_connectionMade (hq : cfg.isQpsMode = false) : Budgets c (c.connectionMade cfg i).2 := by
  unfold connectionMade; split
  · exact Idle.budgets ⟨rfl, rfl⟩
  · exact Budgets.trans (by exact Idle.budgets ⟨rfl, rfl⟩) ((budgets_submitInitial hq _).trans idle_modClient.budgets)

theorem budgets_tlsHandshake (hq : cfg.isQpsMode = false) : Budgets c (c.tlsHandshake cfg i).2 := by
  unfold tlsHandshake; split
  · exact Idle.budgets ⟨rfl, rfl⟩
  · exact Idle.budgets ⟨rfl, rfl⟩
  · exact Idle.budgets ⟨rfl, rfl⟩
  · exact Budgets.trans (by exact Idle.budgets ⟨rfl, rfl⟩) (budgets_connectionMade hq)

theorem budgets_connected (hq : cfg.isQpsMode = false) : Budgets c (c.connected cfg i).2 := by
  unfold connected; split
  · exact Budgets.refl c
  · dsimp only; split
    · exact Budgets.trans (by exact Idle.budgets ⟨rfl, rfl⟩) (budgets_tlsHandshake hq)
    · exact Budgets.trans (by exact Idle.budgets ⟨rfl, rfl⟩) (budgets_connectionMade hq)

theorem idle_onRead {len : Nat} : Idle c (c.onRead i len) := by
  unfold onRead; split <;> exact ⟨rfl, rfl⟩

theorem idle_readSteady : Idle c (c.readSteady i).2 := by
  unfold readSteady; split <;> exact idle_onRead

theorem idle_writeSteady : Idle c (c.writeSteady i).2 := by
  unfold writeSteady; split <;> exact ⟨rfl, rfl⟩

theorem budgets_doWrite (hq : cfg.isQpsMode = false) : Budgets c (c.doWrite cfg i).2 := by
  unfold doWrite; split
  · exact budgets_connected hq
  · exact budgets_tlsHandshake hq
  all_goals exact idle_writeSteady.budgets

theorem budgets_doRead (hq : cfg.isQpsMode = false) : Budgets c (c.doRead cfg i).2 := by
  unfold doRead; split
  · exact Budgets.refl c
  · exact budgets_tlsHandshake hq
  all_goals exact idle_readSteady.budgets

-- The check of `try_again_or_fail` comes before anything that could send.
theorem steady_tryAgainOrFail : Steady c (c.tryAgainOrFail cfg i).2 := by
  unfold tryAgainOrFail; dsimp only; split
  · have h : Steady c ((c.disconnect i).modClient i
        ({ · with newConnectionRequested := false })).loadLeft.2 :=
      (idle_disconnect.trans idle_modClient).steady.trans steady_loadLeft
    split
    · split
      · exact h.trans (idle_processAbandonedStreams.trans idle_connect).steady
      · exact h.trans ((idle_processAbandonedStreams.trans idle_connect).trans idle_processAbandonedStreams).steady
    · exact h.trans idle_processAbandonedStreams.steady
  · exact (idle_disconnect.trans idle_processAbandonedStreams).steady

-- What `writecb` does after `do_write` sends nothing.
theorem writecb_of {R : Ctx → Ctx → Prop} (hR : ∀ {c₁ c₂ c₃}, R c₁ c₂ → Idle c₂ c₃ → R c₁ c₃)
    (h : R c ((c.restartTimeout cfg i).doWrite cfg i).2) : R c (c.writecb cfg i) := by
  unfold writecb; dsimp only; split
  · split
    · exact hR h ((idle_disconnect.trans idle_modClient).trans idle_connect)
    · exact hR h (((idle_disconnect.trans idle_modClient).trans idle_connect).trans idle_fail)
  · split
    · exact hR h idle_fail
    · exact h

theorem budgets_writecb (hq : cfg.isQpsMode = false) : Budgets c (c.writecb cfg i) :=
  writecb_of (fun h h' => h.trans h'.budgets) (idle_restartTimeout.budgets.trans (budgets_doWrite hq))

theorem budgets_readcb (hq : cfg.isQpsMode = false) : Budgets c (c.readcb cfg i) := by
  have h : Budgets c ((c.restartTimeout cfg i).doRead cfg i).2 :=
    idle_restartTimeout.budgets.trans (budgets_doRead hq)
  unfold readcb; dsimp only; split
  · exact h.trans steady_tryAgainOrFail.budgets
  · exact h.trans (budgets_writecb hq)

-- Once the connection is made, `do_read` and `do_write` are the steady reads and writes, which
-- leave the I/O functions as they are.
theorem io_restartTimeout : ((c.restartTimeout cfg i).client i).io = (c.client i).io :=
  proj_restartTimeout (·.io) (fun _ => rfl)

theorem io_readSteady : ((c.readSteady i).2.client i).io = (c.client i).io := by
  have h {len : Nat} : ((c.onRead i len).client i).io = (c.client i).io := by
    unfold onRead signalWrite
    refine (proj_modClient (·.io) (fun _ => ?_) i).trans ?_
    · rfl
    · split <;> rfl
  unfold readSteady; split <;> exact h

-- With the connection made, `writecb` sends nothing and `readcb` loads `total_req_left` only in
-- `try_again_or_fail`.
theorem idle_writecb_of_made (hio : (c.client i).io = .clear ∨ (c.client i).io = .tls) :
    Idle c (c.writecb cfg i) := by
  have e : (c.restartTimeout cfg i).doWrite cfg i = (c.restartTimeout cfg i).writeSteady i := by
    unfold doWrite; rcases hio with h | h <;> rw [io_restartTimeout, h]
  refine writecb_of Idle.trans ?_
  rw [e]
  exact idle_restartTimeout.trans idle_writeSteady

theorem steady_readcb_of_made (hio : (c.client i).io = .clear ∨ (c.client i).io = .tls) :
    Steady c (c.readcb cfg i) := by
  have e : (c.restartTimeout cfg i).doRead cfg i = (c.restartTimeout cfg i).readSteady i := by
    unfold doRead; rcases hio with h | h <;> rw [io_restartTimeout, h]
  have h : Idle c ((c.restartTimeout cfg i).readSteady i).2 := idle_restartTimeout.trans idle_readSteady
  unfold readcb; rw [e]; dsimp only; split
  · exact h.steady.trans steady_tryAgainOrFail
  · exact (h.trans (idle_writecb_of_made (by rwa [io_readSteady, io_restartTimeout]))).steady

-- The check of `on_stream_close` comes before its replacement request, whose check loads again.
theorem steady_replenish (hq : cfg.isQpsMode = false) {final : Bool} :
    Steady c (c.replenish cfg i final) := by
  unfold replenish; dsimp only; split
  · exact steady_loadLeft.trans idle_terminateSession.steady
  · split
    · exact steady_loadLeft
    · split
      · exact steady_loadLeft.trans ((budgets_submitRequest hq).steady loadLeft_loaded)
      · exact steady_loadLeft.trans
          (((budgets_submitRequest hq).trans idle_processRequestFailure.budgets).steady loadLeft_loaded)

theorem idle_recordClose {st : Stream} {success : Bool} : Idle c (c.recordClose i st success) := by
  refine Idle.trans ?_ (((idle_modStats (by intro; rfl)).trans idle_modClient).trans idle_recordRtt)
  split
  · dsimp only
    refine Idle.trans ?_ (idle_modStats (by intro; rfl))
    split <;> exact ((idle_modStats (by intro; rfl)).trans idle_modClient).trans
      (idle_modStats (by intro; rfl))
  · exact (idle_modStats (by intro; rfl))

theorem steady_onStreamClose (hq : cfg.isQpsMode = false) {success final : Bool} :
    Steady c (c.onStreamClose cfg i sid success final) := by
  unfold onStreamClose closeTail; split
  · dsimp only; split
    · exact Idle.steady ⟨rfl, rfl⟩
    · exact ((idle_modClient.trans idle_recordClose).trans idle_modClient).steady.trans (steady_replenish hq)
  · exact idle_modClient.steady.trans (steady_replenish hq)

theorem idle_classifyStatus {s : Nat} : Idle c (c.classifyStatus i sid s) := by
  unfold classifyStatus; split_ifs <;> exact ⟨rfl, rfl⟩

theorem idle_onHeader {name value : List UInt8} : Idle c (c.onHeader i sid name value) := by
  unfold onHeader; split
  · exact Idle.refl c
  · split
    · exact ⟨rfl, rfl⟩
    · split
      · split
        · exact ⟨rfl, rfl⟩
        · exact idle_classifyStatus
      · exact Idle.refl c

theorem idle_onStatusCode {s : UInt16} : Idle c (c.onStatusCode i sid s) := by
  unfold onStatusCode; split
  · exact Idle.refl c
  · split
    · exact ⟨rfl, rfl⟩
    · exact idle_classifyStatus

theorem idle_onSofarpcStatus {s : UInt16} : Idle c (c.onSofarpcStatus i sid s) := by
  unfold onSofarpcStatus; split
  · exact Idle.refl c
  · split <;> exact ⟨rfl, rfl⟩

theorem idle_connTimeoutCb {b : Bool} : Idle c (c.connTimeoutCb i b) := by
  unfold connTimeoutCb; dsimp only; split
  · exact idle_modClient.trans idle_timeout
  · exact idle_modClient

theorem budgets_drainBlocked (hq : cfg.isQpsMode = false) (n : Nat) :
    Budgets c (c.drainBlocked cfg n) := by
  induction n generalizing c with
  | zero => exact Budgets.refl c
  | succ n ih =>
    unfold drainBlocked; split
    · exact Budgets.refl c
    · next j rest _ =>
      split
      · exact Budgets.refl c
      · have h : Budgets c ({ c with w.clientsBlockedDueToQps := rest }.submitRequest cfg j).2 :=
          Budgets.trans (by exact Idle.budgets ⟨rfl, rfl⟩) (budgets_submitRequest hq)
        refine Budgets.trans ?_ ih
        split
        · exact h.trans idle_modClient.budgets
        · exact h.trans (idle_processRequestFailure.trans idle_modClient).budgets

theorem idle_stopAllClients : Idle c c.stopAllClients := by
  have hs (c : Ctx) (i : Nat) : Idle c (c.stopClient i) := by
    unfold stopClient; dsimp only
    refine Idle.trans ?_ (idle_modStats (by intro; rfl))
    split
    · exact idle_modClient.trans (idle_terminateSession.trans idle_disconnect)
    · exact idle_modClient
  unfold stopAllClients
  generalize List.range c.w.clients.length = l
  induction l generalizing c with
  | nil => exact Idle.refl c
  | cons i l ih => exact (hs c i).trans ih

-- The duration timer stores 0 into `total_req_left`.
theorem steady_durationTimeoutCb : Steady c c.durationTimeoutCb := by
  obtain ⟨hg, hs⟩ := @idle_stopAllClients { c with
    g.totalReqLeft := 0, w.phase := .durationOver, w.durationWatcher := false, w.qpsUpdater := false }
  unfold durationTimeoutCb Steady Kept budgetSum
  dsimp only at hg hs ⊢
  rw [hg, hs]
  exact ⟨id, Nat.zero_le _, Nat.add_le_add_right (Nat.zero_le _) _, le_rfl⟩

theorem budgets_updateWorkerQpsLeft (hq : cfg.isQpsMode = false) : Budgets c (c.updateWorkerQpsLeft cfg) := by
  unfold updateWorkerQpsLeft
  exact Budgets.trans (Idle.budgets ⟨by split <;> rfl, by split <;> rfl⟩) (budgets_drainBlocked hq _)

-- With no client waiting for a QPS token the refill submits nothing.
theorem idle_updateWorkerQpsLeft (h : c.w.clientsBlockedDueToQps = []) : Idle c (c.updateWorkerQpsLeft cfg) := by
  unfold updateWorkerQpsLeft; split <;> (dsimp only; rw [h]; exact ⟨rfl, rfl⟩)

-- The loop of `Worker::run` connects clients and sends nothing.
theorem idle_runClients : ∀ (n : Nat) (socks : List (List (Option Nat))) {c : Ctx},
    Idle c (c.runClients cfg n socks)
  | 0, _, c => Idle.refl c
  | n + 1, socks, c => by
    have h : Idle c (({ c with
        w.clients := c.w.clients ++ [Client.create c.w.nextClientId cfg.addrs]
        w.nextClientId := c.w.nextClientId + 1
        w.nconnsMade := c.w.nconnsMade + 1
        ans := { sockets := socks.headD [] } } : Ctx).connect cfg c.w.clients.length).2 :=
      Idle.trans (by exact ⟨rfl, rfl⟩) idle_connect
    unfold runClients; dsimp only; split
    · exact h.trans (idle_runClients n _)
    · refine h.trans (Idle.trans ?_ (idle_runClients n _))
      exact idle_fail.trans idle_setClients

end Ctx

-- Outside QPS mode, every callback run with no load of `total_req_left` pending leaves none
-- pending, never raises `total_req_left`, and never raises it plus the requests sent.
theorem Event.budgets_dispatch {cfg : Config} {c : Ctx} {e : Event} (hq : cfg.isQpsMode = false) :
    c.Budgets (e.dispatch cfg c) := by
  cases e with
  | readcb => exact Ctx.budgets_readcb hq
  | writecb => exact Ctx.budgets_writecb hq
  | connTimeout => exact Ctx.idle_connTimeoutCb.budgets
  | onHeader => exact Ctx.idle_onHeader.budgets
  | onStatusCode => exact Ctx.idle_onStatusCode.budgets
  | onSofarpcStatus => exact Ctx.idle_onSofarpcStatus.budgets
  | onStreamClose => exact (Ctx.steady_onStreamClose hq).budgets
  | tryNewConnection => exact Ctx.idle_modClient.budgets
  | recordTtfb => exact Ctx.Idle.budgets ⟨rfl, rfl⟩
  | warmupTimeout => exact Ctx.Idle.budgets ⟨rfl, rfl⟩
  | durationTimeout => exact Ctx.steady_durationTimeoutCb.budgets
  | qpsTick => exact Ctx.budgets_updateWorkerQpsLeft hq

-- The I/O functions of a client whose connection is made: `read_clear`/`write_clear` or
-- `read_tls`/`write_tls`.
def IoFn.made : IoFn → Bool
  | .clear | .tls => true
  | .connected | .tlsHandshake => false

theorem IoFn.made_iff {io : IoFn} : io.made = true ↔ io = .clear ∨ io = .tls := by
  cases io <;> simp [made]

-- The callbacks whose first load of `total_req_left` can be the one of `Client::submit_request`:
-- the read or write callback of a client whose connection is not made yet (making it submits
-- the first requests), and the QPS refill while a client waits for a token.
def Event.mayLoadInSubmit (w : Worker) : Event → Bool
  | .readcb i _ | .writecb i _ => !(w.client i).io.made
  | .qpsTick _ => !w.clientsBlockedDueToQps.isEmpty
  | _ => false

-- Outside QPS mode a callback keeps the counters when its thread holds no loaded value, or when
-- its first load cannot be that of `Client::submit_request`: a value the thread loaded before is
-- then used by the check of `on_stream_close` or `try_again_or_fail`, or by none.
theorem Event.kept_dispatch {cfg : Config} {c : Ctx} {e : Event} (hq : cfg.isQpsMode = false)
    (h : c.g.loaded = none ∨ e.mayLoadInSubmit c.w = false) : c.Kept (e.dispatch cfg c) := by
  rcases h with hl | hm
  · exact (budgets_dispatch hq hl).2
  have made {i : Nat} (h : (!(c.w.client i).io.made) = false) :
      (c.client i).io = .clear ∨ (c.client i).io = .tls :=
    IoFn.made_iff.mp (by simpa using h)
  cases e with
  | readcb => exact (Ctx.steady_readcb_of_made (made hm)).2
  | writecb => exact (Ctx.idle_writecb_of_made (made hm)).steady.2
  | connTimeout => exact Ctx.idle_connTimeoutCb.steady.2
  | onHeader => exact Ctx.idle_onHeader.steady.2
  | onStatusCode => exact Ctx.idle_onStatusCode.steady.2
  | onSofarpcStatus => exact Ctx.idle_onSofarpcStatus.steady.2
  | onStreamClose => exact (Ctx.steady_onStreamClose hq).2
  | tryNewConnection => exact Ctx.idle_modClient.steady.2
  | recordTtfb => exact (Ctx.Idle.steady ⟨rfl, rfl⟩).2
  | warmupTimeout => exact (Ctx.Idle.steady ⟨rfl, rfl⟩).2
  | durationTimeout => exact Ctx.steady_durationTimeoutCb.2
  | qpsTick =>
    exact (Ctx.idle_updateWorkerQpsLeft (by simpa [mayLoadInSubmit] using hm)).steady.2

namespace System

variable {cfg : Config} {s : System}

-- Thread `k` resumes, after a load of `total_req_left` it was preempted at, in a callback whose
-- first load can be that of `Client::submit_request`: it was preempted between that load and
-- the post-decrement.
def resumesSubmit (s : System) : Action → Bool
  | .event k e => (s.loaded.getD k none).isSome && match s.workers[k]? with
    | some w => e.mayLoadInSubmit w
    | none => false
  | _ => false

-- No step of the run from `s` is such a resumption; every other preemption may happen.
def NoSubmitPreemption (cfg : Config) (s : System) : List Action → Bool
  | [] => true
  | a :: as => !s.resumesSubmit a && NoSubmitPreemption cfg (step cfg s a) as

-- The budget left plus the requests sent is within the budget `main` stored, and the workers
-- count no more requests as started than were sent.
structure WithinBudget (cfg : Config) (s : System) : Prop where
  within : s.totalReqLeft + s.totalReqSend ≤ cfg.budget
  started : (s.workers.map (·.stats.reqStarted)).sum ≤ s.totalReqSend

namespace WithinBudget

-- `Worker::run` sends nothing, so every worker starts with no request counted.
theorem init (rands : Nat → List Nat) (socks : Nat → List (List (Option Nat))) :
    WithinBudget cfg (System.init cfg rands socks) := by
  refine ⟨le_refl _, (List.sum_eq_zero fun x hx => ?_).le⟩
  obtain ⟨w, hw, rfl⟩ := List.mem_map.mp hx
  obtain ⟨i, -, rfl⟩ := List.mem_mapIdx.mp hw
  exact (Ctx.idle_runClients _ _).2

-- A step other than such a resumption keeps the invariant and does not raise `total_req_left`.
theorem step (hq : cfg.isQpsMode = false) (h : WithinBudget cfg s) {a : Action}
    (ha : s.resumesSubmit a = false) :
    WithinBudget cfg (System.step cfg s a) ∧ (System.step cfg s a).totalReqLeft ≤ s.totalReqLeft := by
  cases a with
  | event k e =>
    cases hw : s.workers[k]? with
    | none => rw [System.step, hw]; exact ⟨h, le_rfl⟩
    | some w =>
      have hk : (s.view k).loaded = none ∨ e.mayLoadInSubmit w = false := by
        cases hl : s.loaded.getD k none with
        | none => exact .inl hl
        | some v => exact .inr (by simpa only [resumesSubmit, hw, hl, Option.isSome_some, Bool.true_and] using ha)
      rw [System.step, hw]
      obtain ⟨h₂, h₃, h₄⟩ := @Event.kept_dispatch cfg ⟨w, s.view k, e.answers⟩ e hq hk
      have hsum := List.sum_map_modify (·.stats.reqStarted)
        (fun _ => (e.dispatch cfg ⟨w, s.view k, e.answers⟩).w) k s.workers
      simp only [hw, Option.map_some', Option.getD_some, Function.comp_apply] at hsum
      refine ⟨⟨Nat.le_trans h₃ h.within, ?_⟩, h₂⟩
      have := h.started
      dsimp only [Worker.step, view] at h₄ hsum ⊢
      rw [List.set_eq_modify]
      omega
  | load k => exact ⟨⟨h.within, h.started⟩, le_rfl⟩
  | tick => exact ⟨⟨h.within, h.started⟩, le_rfl⟩

theorem exec (hq : cfg.isQpsMode = false) : ∀ {s : System} (as : List Action), WithinBudget cfg s →
    NoSubmitPreemption cfg s as = true → WithinBudget cfg (System.exec cfg s as)
  | _, [], h, _ => h
  | _, a :: as, h, hp => by
    simp only [NoSubmitPreemption, Bool.and_eq_true, Bool.not_eq_true'] at hp
    exact exec hq as (h.step hq hp.1).1 hp.2

end WithinBudget

-- Outside QPS mode, over every run in which no thread is preempted between the load of
-- `total_req_left` in `Client::submit_request` and its post-decrement (a preemption after the
-- load of `on_stream_close` or `try_again_or_fail` may happen), `total_req_left` never increases
-- and the requests sent plus those left stay within the budget, so a count-mode run sends at
-- most `-n` requests.
theorem budget_holds_without_submit_preemption (hq : cfg.isQpsMode = false) (rands : Nat → List Nat)
    (socks : Nat → List (List (Option Nat))) (as : List Action)
    (hp : NoSubmitPreemption cfg (init cfg rands socks) as = true) :
    (exec cfg (init cfg rands socks) as).totalReqLeft + (exec cfg (init cfg rands socks) as).totalReqSend ≤
        cfg.budget ∧
      (cfg.isTimingBasedMode = false → (exec cfg (init cfg rands socks) as).totalReqSend ≤ cfg.nreqs) ∧
      ∀ a, (exec cfg (init cfg rands socks) as).resumesSubmit a = false →
        (step cfg (exec cfg (init cfg rands socks) as) a).totalReqLeft ≤
          (exec cfg (init cfg rands socks) as).totalReqLeft := by
  have h := WithinBudget.exec hq as (WithinBudget.init rands socks) hp
  refine ⟨h.within, fun ht => ?_, fun a ha => (h.step hq ha).2⟩
  have := h.within
  rw [Config.budget, ht, if_neg Bool.false_ne_true] at this
  omega

-- A budget of two requests over two threads: the first thread sends one and is preempted after
-- loading 1 in `on_stream_close`; the second takes the last request; the first then finds 1, and
-- its replacement request is refused by its own load of 0.
theorem budget_holds_with_preempted_close :
    let cfg : Config := ⟨2, 2, 2, 1, 0, 0, 0, 0, 0, false, .http2, false, false, [7]⟩
    let as : List Action := [.event 0 (.writecb 0 {}), .load 0, .event 1 (.writecb 0 {}),
      .event 0 (.onStreamClose 0 1 true false {})]
    (exec cfg (init cfg (fun _ => []) fun _ => [[some 3]]) (as.take 3)).totalReqLeft = 0 ∧
      (exec cfg (init cfg (fun _ => []) fun _ => [[some 3]]) (as.take 3)).loaded = [some 1, none] ∧
      (exec cfg (init cfg (fun _ => []) fun _ => [[some 3]]) as).totalReqSend = 2 ∧
      (exec cfg (init cfg (fun _ => []) fun _ => [[some 3]]) as).totalReqLeft +
          (exec cfg (init cfg (fun _ => []) fun _ => [[some 3]]) as).totalReqSend ≤ cfg.budget ∧
        (cfg.isTimingBasedMode = false →
          (exec cfg (init cfg (fun _ => []) fun _ => [[some 3]]) as).totalReqSend ≤ cfg.nreqs) ∧
        ∀ a, (exec cfg (init cfg (fun _ => []) fun _ => [[some 3]]) as).resumesSubmit a = false →
          (step cfg (exec cfg (init cfg (fun _ => []) fun _ => [[some 3]]) as) a).totalReqLeft ≤
            (exec cfg (init cfg (fun _ => []) fun _ => [[some 3]]) as).totalReqLeft :=
  ⟨by decide, by decide, by decide,
    @budget_holds_without_submit_preemption ⟨2, 2, 2, 1, 0, 0, 0, 0, 0, false, .http2, false, false, [7]⟩
      rfl _ _ _ (by decide)⟩

-- Two threads of a count-mode run with a budget of one request both load 1 before either
-- decrements: the second post-decrement takes `total_req_left` from 0 to `SIZE_MAX`, after
-- which the first thread's replacement request is sent as well.
theorem budget_race :
    (∃ s a, Reachable ⟨1, 2, 2, 1, 0, 0, 0, 0, 0, false, .http2, false, false, [7]⟩ s ∧
      a.enabled s ∧ s.totalReqLeft = 0 ∧
      (step ⟨1, 2, 2, 1, 0, 0, 0, 0, 0, false, .http2, false, false, [7]⟩ s a).totalReqLeft =
        sizeMax) ∧
    ∃ s, Reachable ⟨1, 2, 2, 1, 0, 0, 0, 0, 0, false, .http2, false, false, [7]⟩ s ∧
      1 < s.totalReqSend :=
  ⟨⟨_, .event 1 (.writecb 0 {}),
      Reachable.exec [.load 0, .load 1, .event 0 (.writecb 0 {})] (.init (fun _ => []) fun _ => [[some 3]])
        (by decide), by decide, by decide, by decide⟩,
    _, Reachable.exec [.load 0, .load 1, .event 0 (.writecb 0 {}), .event 1 (.writecb 0 {}),
        .event 0 (.onStreamClose 0 1 true false {})] (.init (fun _ => []) fun _ => [[some 3]])
      (by decide), by decide⟩

end System

end Sofaload
