import Sofaload.Execution.Theorems.Basic

namespace Sofaload

namespace Ctx

-- The QPS tokens a worker has left plus the requests sent: a passed token check moves one from
-- the first to the second.
def tokens (c : Ctx) : Nat := c.w.qpsLeft + c.g.totalReqSend

-- `c'` follows `c` by code that credits no token and leaves the slot array and its index: the
-- tokens left plus the requests sent stay, and requests are only ever sent.
def Tokens (c c' : Ctx) : Prop :=
  c'.tokens = c.tokens ∧ c.g.totalReqSend ≤ c'.g.totalReqSend ∧ c'.w.qpsCounts = c.w.qpsCounts ∧
    c'.w.qpsCountIndex = c.w.qpsCountIndex

variable {cfg : Config} {c c₁ c₂ c₃ : Ctx} {i sid : Nat}

namespace Tokens

theorem refl (c : Ctx) : Tokens c c := ⟨rfl, le_rfl, rfl, rfl⟩

theorem trans (h₁ : Tokens c₁ c₂) (h₂ : Tokens c₂ c₃) : Tokens c₁ c₃ :=
  ⟨h₂.1.trans h₁.1, h₁.2.1.trans h₂.2.1, h₂.2.2.1.trans h₁.2.2.1, h₂.2.2.2.trans h₁.2.2.2⟩

end Tokens

theorem tokens_modClient {f : Client → Client} : Tokens c (c.modClient i f) := ⟨rfl, le_rfl, rfl, rfl⟩

theorem tokens_modStats {f : Stats → Stats} : Tokens c (c.modStats f) := ⟨rfl, le_rfl, rfl, rfl⟩

theorem tokens_disconnect : Tokens c (c.disconnect i) := ⟨rfl, le_rfl, rfl, rfl⟩

theorem tokens_terminateSession : Tokens c (c.terminateSession i) := ⟨rfl, le_rfl, rfl, rfl⟩

theorem tokens_recordRtt {rtt : Nat} : Tokens c (c.recordRtt rtt) := ⟨rfl, le_rfl, rfl, rfl⟩

theorem tokens_setClients {l : List Client} : Tokens c { c with w.clients := l } :=
  ⟨rfl, le_rfl, rfl, rfl⟩

theorem tokens_restartTimeout : Tokens c (c.restartTimeout cfg i) := by
  unfold restartTimeout; split <;> exact ⟨rfl, le_rfl, rfl, rfl⟩

theorem tokens_loadLeft : Tokens c c.loadLeft.2 := by
  unfold loadLeft; split <;> exact ⟨rfl, le_rfl, rfl, rfl⟩

theorem tokens_makeSocket : Tokens c (c.makeSocket i).2 := by
  unfold makeSocket; split <;> exact ⟨rfl, le_rfl, rfl, rfl⟩

theorem tokens_connectNext (l : List Nat) (a : Option Nat) : Tokens c (c.connectNext i l a).2 := by
  induction l generalizing c a with
  | nil => exact Tokens.refl c
  | cons x l ih =>
    unfold connectNext; dsimp only; split
    · exact tokens_modClient.trans tokens_makeSocket
    · exact (tokens_modClient.trans tokens_makeSocket).trans (ih _)

theorem tokens_sessionSubmit : Tokens c (c.sessionSubmit i).2 := by
  unfold sessionSubmit; split
  · exact Tokens.refl c
  · split <;> exact ⟨rfl, le_rfl, rfl, rfl⟩

theorem tokens_processAbandonedStreams : Tokens c (c.processAbandonedStreams i) := by
  unfold processAbandonedStreams; split <;> exact ⟨rfl, le_rfl, rfl, rfl⟩

theorem tokens_processRequestFailure : Tokens c c.processRequestFailure := by
  unfold processRequestFailure; split <;> exact ⟨rfl, le_rfl, rfl, rfl⟩

theorem tokens_fail : Tokens c (c.fail i) := tokens_disconnect.trans tokens_processAbandonedStreams

theorem tokens_timeout : Tokens c (c.timeout i) := by
  refine Tokens.trans ?_ tokens_disconnect
  unfold processTimedoutStreams; split
  · exact tokens_modStats.trans tokens_processAbandonedStreams
  · exact Tokens.refl c

theorem tokens_connectPhase : Tokens c (c.connectPhase cfg i) := by
  unfold connectPhase; split_ifs <;> exact ⟨rfl, le_rfl, rfl, rfl⟩

theorem tokens_openSocket : Tokens c (c.openSocket i).2 := by
  unfold openSocket; split
  · exact tokens_makeSocket
  · dsimp only; split
    · exact tokens_connectNext _ _
    · exact (tokens_connectNext _ _).trans tokens_modClient

theorem tokens_connect : Tokens c (c.connect cfg i).2 := by
  have h : Tokens c (((c.connectPhase cfg i).restartTimeout cfg i).openSocket i).2 :=
    tokens_connectPhase.trans (tokens_restartTimeout.trans tokens_openSocket)
  unfold connect; dsimp only; split
  · exact h.trans tokens_modClient
  · exact h

-- A passed check sends the request; with a session it then opens a stream.
theorem tokens_submitPassed :
    Tokens { c with g.totalReqSend := c.g.totalReqSend + 1 } (c.submitPassed cfg i).2 := by
  have hc (c : Ctx) : Tokens c (c.countStarted cfg i) := by
    unfold countStarted; split <;> exact ⟨rfl, le_rfl, rfl, rfl⟩
  unfold submitPassed; dsimp only; split
  · exact tokens_sessionSubmit
  · split
    · exact tokens_sessionSubmit.trans (hc _)
    · exact tokens_sessionSubmit

-- In QPS mode a request is sent exactly when a token is taken.
theorem tokens_submitRequest (hq : cfg.isQpsMode = true) : Tokens c (c.submitRequest cfg i).2 := by
  unfold submitRequest gate; rw [if_pos hq]; split
  · exact ⟨rfl, le_rfl, rfl, rfl⟩
  · refine Tokens.trans ?_ tokens_submitPassed
    exact ⟨by simp only [tokens]; omega, Nat.le_succ _, rfl, rfl⟩

theorem tokens_submitInitial (hq : cfg.isQpsMode = true) (n : Nat) :
    Tokens c (c.submitInitial cfg i n) := by
  induction n generalizing c with
  | zero => exact Tokens.refl c
  | succ n ih =>
    unfold submitInitial; dsimp only; split
    · exact (tokens_submitRequest hq).trans ih
    · exact (tokens_submitRequest hq).trans tokens_processRequestFailure

theorem tokens_connectionMade (hq : cfg.isQpsMode = true) : Tokens c (c.connectionMade cfg i).2 := by
  unfold connectionMade; split
  · exact ⟨rfl, le_rfl, rfl, rfl⟩
  · exact Tokens.trans (by exact ⟨rfl, le_rfl, rfl, rfl⟩) ((tokens_submitInitial hq _).trans tokens_modClient)

theorem tokens_tlsHandshake (hq : cfg.isQpsMode = true) : Tokens c (c.tlsHandshake cfg i).2 := by
  unfold tlsHandshake; split
  · exact ⟨rfl, le_rfl, rfl, rfl⟩
  · exact ⟨rfl, le_rfl, rfl, rfl⟩
  · exact ⟨rfl, le_rfl, rfl, rfl⟩
  · exact Tokens.trans (by exact ⟨rfl, le_rfl, rfl, rfl⟩) (tokens_connectionMade hq)

theorem tokens_connected (hq : cfg.isQpsMode = true) : Tokens c (c.connected cfg i).2 := by
  unfold connected; split
  · exact Tokens.refl c
  · dsimp only; split
    · exact Tokens.trans (by exact ⟨rfl, le_rfl, rfl, rfl⟩) (tokens_tlsHandshake hq)
    · exact Tokens.trans (by exact ⟨rfl, le_rfl, rfl, rfl⟩) (tokens_connectionMade hq)

theorem tokens_onRead {len : Nat} : Tokens c (c.onRead i len) := by
  unfold onRead; split <;> exact ⟨rfl, le_rfl, rfl, rfl⟩

theorem tokens_doWrite (hq : cfg.isQpsMode = true) : Tokens c (c.doWrite cfg i).2 := by
  unfold doWrite; split
  · exact tokens_connected hq
  · exact tokens_tlsHandshake hq
  all_goals unfold writeSteady; split <;> exact ⟨rfl, le_rfl, rfl, rfl⟩

theorem tokens_doRead (hq : cfg.isQpsMode = true) : Tokens c (c.doRead cfg i).2 := by
  unfold doRead; split
  · exact Tokens.refl c
  · exact tokens_tlsHandshake hq
  all_goals unfold readSteady; split <;> exact tokens_onRead

theorem tokens_tryAgainOrFail : Tokens c (c.tryAgainOrFail cfg i).2 := by
  unfold tryAgainOrFail; dsimp only; split
  · have h : Tokens c ((c.disconnect i).modClient i
        ({ · with newConnectionRequested := false })).loadLeft.2 :=
      (tokens_disconnect.trans tokens_modClient).trans tokens_loadLeft
    split
    · split
      · exact h.trans (tokens_processAbandonedStreams.trans tokens_connect)
      · exact h.trans
          ((tokens_processAbandonedStreams.trans tokens_connect).trans tokens_processAbandonedStreams)
    · exact h.trans tokens_processAbandonedStreams
  · exact tokens_disconnect.trans tokens_processAbandonedStreams

theorem tokens_writecb (hq : cfg.isQpsMode = true) : Tokens c (c.writecb cfg i) := by
  have h : Tokens c ((c.restartTimeout cfg i).doWrite cfg i).2 :=
    tokens_restartTimeout.trans (tokens_doWrite hq)
  unfold writecb; dsimp only; split
  · split
    · exact h.trans ((tokens_disconnect.trans tokens_modClient).trans tokens_connect)
    · exact h.trans ((tokens_disconnect.trans tokens_modClient).trans (tokens_connect.trans tokens_fail))
  · split
    · exact h.trans tokens_fail
    · exact h

theorem tokens_readcb (hq : cfg.isQpsMode = true) : Tokens c (c.readcb cfg i) := by
  have h : Tokens c ((c.restartTimeout cfg i).doRead cfg i).2 :=
    tokens_restartTimeout.trans (tokens_doRead hq)
  unfold readcb; dsimp only; split
  · exact h.trans tokens_tryAgainOrFail
  · exact h.trans (tokens_writecb hq)

theorem tokens_replenish (hq : cfg.isQpsMode = true) {final : Bool} :
    Tokens c (c.replenish cfg i final) := by
  unfold replenish; dsimp only; split
  · exact tokens_loadLeft.trans ⟨rfl, le_rfl, rfl, rfl⟩
  · split
    · exact tokens_loadLeft
    · split
      · exact tokens_loadLeft.trans (tokens_submitRequest hq)
      · exact tokens_loadLeft.trans ((tokens_submitRequest hq).trans tokens_processRequestFailure)

theorem tokens_recordClose {st : Stream} {success : Bool} : Tokens c (c.recordClose i st success) := by
  refine Tokens.trans ?_ ((tokens_modStats.trans tokens_modClient).trans tokens_recordRtt)
  split
  · dsimp only
    refine Tokens.trans ?_ tokens_modStats
    split <;> exact (tokens_modStats.trans tokens_modClient).trans tokens_modStats
  · exact tokens_modStats

theorem tokens_onStreamClose (hq : cfg.isQpsMode = true) {success final : Bool} :
    Tokens c (c.onStreamClose cfg i sid success final) := by
  unfold onStreamClose closeTail; split
  · dsimp only; split
    · exact ⟨rfl, le_rfl, rfl, rfl⟩
    · exact (tokens_modClient.trans tokens_recordClose).trans
        (tokens_modClient.trans (tokens_replenish hq))
  · exact tokens_modClient.trans (tokens_replenish hq)

theorem tokens_classifyStatus {s : Nat} : Tokens c (c.classifyStatus i sid s) := by
  unfold classifyStatus; split_ifs <;> exact ⟨rfl, le_rfl, rfl, rfl⟩

theorem tokens_onHeader {name value : List UInt8} : Tokens c (c.onHeader i sid name value) := by
  unfold onHeader; split
  · exact Tokens.refl c
  · split
    · exact ⟨rfl, le_rfl, rfl, rfl⟩
    · split
      · split
        · exact ⟨rfl, le_rfl, rfl, rfl⟩
        · exact tokens_classifyStatus
      · exact Tokens.refl c

theorem tokens_onStatusCode {s : UInt16} : Tokens c (c.onStatusCode i sid s) := by
  unfold onStatusCode; split
  · exact Tokens.refl c
  · split
    · exact ⟨rfl, le_rfl, rfl, rfl⟩
    · exact tokens_classifyStatus

theorem tokens_onSofarpcStatus {s : UInt16} : Tokens c (c.onSofarpcStatus i sid s) := by
  unfold onSofarpcStatus; split
  · exact Tokens.refl c
  · split <;> exact ⟨rfl, le_rfl, rfl, rfl⟩

theorem tokens_connTimeoutCb {b : Bool} : Tokens c (c.connTimeoutCb i b) := by
  unfold connTimeoutCb; dsimp only; split
  · exact tokens_modClient.trans tokens_timeout
  · exact tokens_modClient

theorem tokens_drainBlocked (hq : cfg.isQpsMode = true) (n : Nat) :
    Tokens c (c.drainBlocked cfg n) := by
  induction n generalizing c with
  | zero => exact Tokens.refl c
  | succ n ih =>
    unfold drainBlocked; split
    · exact Tokens.refl c
    · next j rest _ =>
      split
      · exact Tokens.refl c
      · have h : Tokens c ({ c with w.clientsBlockedDueToQps := rest }.submitRequest cfg j).2 :=
          Tokens.trans (by exact ⟨rfl, le_rfl, rfl, rfl⟩) (tokens_submitRequest hq)
        refine Tokens.trans ?_ ih
        split
        · exact h.trans tokens_modClient
        · exact h.trans (tokens_processRequestFailure.trans tokens_modClient)

theorem tokens_stopAllClients : Tokens c c.stopAllClients := by
  have hs (c : Ctx) (i : Nat) : Tokens c (c.stopClient i) := by
    unfold stopClient; dsimp only
    refine Tokens.trans ?_ tokens_modStats
    split
    · exact tokens_modClient.trans (tokens_terminateSession.trans tokens_disconnect)
    · exact tokens_modClient
  unfold stopAllClients
  generalize List.range c.w.clients.length = l
  induction l generalizing c with
  | nil => exact Tokens.refl c
  | cons i l ih => exact (hs c i).trans ih

theorem tokens_durationTimeoutCb : Tokens c c.durationTimeoutCb := by
  have h := @tokens_stopAllClients { c with
    g.totalReqLeft := 0, w.phase := .durationOver, w.durationWatcher := false, w.qpsUpdater := false }
  exact ⟨h.1, h.2.1, h.2.2.1, h.2.2.2⟩

-- A refill tick credits the tokens of the current slot and moves to the next slot before the
-- queue is drained.
theorem tokens_updateWorkerQpsLeft (hq : cfg.isQpsMode = true) (hne : c.w.qpsCounts ≠ []) :
    (c.updateWorkerQpsLeft cfg).tokens = c.tokens + c.w.qpsCounts.getD c.w.qpsCountIndex 0 ∧
      c.g.totalReqSend ≤ (c.updateWorkerQpsLeft cfg).g.totalReqSend ∧
      (c.updateWorkerQpsLeft cfg).w.qpsCounts = c.w.qpsCounts ∧
      (c.updateWorkerQpsLeft cfg).w.qpsCountIndex = (c.w.qpsCountIndex + 1) % c.w.qpsCounts.length := by
  unfold updateWorkerQpsLeft; rw [if_pos hne]; dsimp only
  obtain ⟨h₁, h₂, h₃, h₄⟩ := @tokens_drainBlocked cfg { c with
    w.qpsLeft := c.w.qpsLeft + c.w.qpsCounts.getD c.w.qpsCountIndex 0
    w.qpsCountIndex := (c.w.qpsCountIndex + 1) % c.w.qpsCounts.length } hq _
  exact ⟨by rw [h₁]; simp only [tokens]; omega, h₂, h₃, h₄⟩

-- The loop of `Worker::run` connects clients and sends nothing.
theorem tokens_runClients : ∀ (n : Nat) (socks : List (List (Option Nat))) {c : Ctx},
    Tokens c (c.runClients cfg n socks)
  | 0, _, c => Tokens.refl c
  | n + 1, socks, c => by
    have h : Tokens c (({ c with
        w.clients := c.w.clients ++ [Client.create c.w.nextClientId cfg.addrs]
        w.nextClientId := c.w.nextClientId + 1
        w.nconnsMade := c.w.nconnsMade + 1
        ans := { sockets := socks.headD [] } } : Ctx).connect cfg c.w.clients.length).2 :=
      Tokens.trans (by exact ⟨rfl, le_rfl, rfl, rfl⟩) tokens_connect
    unfold runClients; dsimp only; split
    · exact h.trans (tokens_runClients n _)
    · refine h.trans (Tokens.trans ?_ (tokens_runClients n _))
      exact tokens_fail.trans tokens_setClients

end Ctx

def Event.isTick : Event → Bool
  | .qpsTick _ => true
  | _ => false

-- Every callback but the refill tick takes a token exactly when it sends a request.
theorem Event.tokens_dispatch {cfg : Config} {c : Ctx} {e : Event} (hq : cfg.isQpsMode = true)
    (ht : e.isTick = false) : c.Tokens (e.dispatch cfg c) := by
  cases e with
  | readcb => exact Ctx.tokens_readcb hq
  | writecb => exact Ctx.tokens_writecb hq
  | connTimeout => exact Ctx.tokens_connTimeoutCb
  | onHeader => exact Ctx.tokens_onHeader
  | onStatusCode => exact Ctx.tokens_onStatusCode
  | onSofarpcStatus => exact Ctx.tokens_onSofarpcStatus
  | onStreamClose => exact Ctx.tokens_onStreamClose hq
  | tryNewConnection => exact Ctx.tokens_modClient
  | recordTtfb => exact ⟨rfl, le_rfl, rfl, rfl⟩
  | warmupTimeout => exact ⟨rfl, le_rfl, rfl, rfl⟩
  | durationTimeout => exact Ctx.tokens_durationTimeoutCb
  | qpsTick => nomatch ht

end Sofaload
