import Sofaload.Execution.Theorems.Failure
import Sofaload.Report.Theorems.Latency

namespace Sofaload

-- `Worker::record_rtt` keeps the samples within the extremes it updates.
theorem Worker.RttInv.recordRtt {c : Ctx} {x : Nat} (h : c.w.RttInv) : (c.recordRtt x).w.RttInv := by
  intro y hy
  simp only [Ctx.recordRtt, List.mem_append, List.mem_singleton] at hy ⊢
  rcases hy with hy | rfl
  · have := h y hy; omega
  · omega

namespace Ctx

-- `c'` follows `c` by code that moves no client's address cursor back (each `next_addr` is a
-- suffix of what it was) and keeps every recorded sample within the worker's extremes.
def Advances (c c' : Ctx) : Prop :=
  (∀ k, (c'.client k).nextAddr <:+ (c.client k).nextAddr) ∧ (c.w.RttInv → c'.w.RttInv)

variable {cfg : Config} {c c₁ c₂ c₃ : Ctx} {i sid : Nat}

namespace Advances

theorem refl (c : Ctx) : Advances c c := ⟨fun _ => List.suffix_refl _, id⟩

theorem trans (h₁ : Advances c₁ c₂) (h₂ : Advances c₂ c₃) : Advances c₁ c₃ :=
  ⟨fun k => (h₂.1 k).trans (h₁.1 k), h₂.2 ∘ h₁.2⟩

end Advances

theorem advances_modClient {f : Client → Client}
    (hf : (f (c.client i)).nextAddr <:+ (c.client i).nextAddr) : Advances c (c.modClient i f) := by
  refine ⟨fun k => ?_, id⟩
  rw [client_modClient]; split_ifs with h
  · obtain ⟨rfl, -⟩ := h; exact hf
  · exact List.suffix_refl _

theorem advances_setAns {a : Answers} : Advances c { c with ans := a } :=
  ⟨fun _ => List.suffix_refl _, id⟩

theorem advances_modStats {f : Stats → Stats} : Advances c (c.modStats f) := Advances.refl c

theorem advances_recordRtt {rtt : Nat} : Advances c (c.recordRtt rtt) :=
  ⟨fun _ => List.suffix_refl _, fun h => h.recordRtt⟩

theorem advances_modCstat {f : ClientStat → ClientStat} : Advances c (c.modCstat i f) :=
  advances_modClient (List.suffix_refl _)

theorem advances_modStream {f : Stream → Stream} : Advances c (c.modStream i sid f) := by
  refine advances_modClient ?_; split <;> exact List.suffix_refl _

theorem advances_signalWrite : Advances c (c.signalWrite i) :=
  advances_modClient (List.suffix_refl _)

theorem advances_disconnect : Advances c (c.disconnect i) :=
  advances_modCstat.trans (advances_modClient (by exact List.suffix_refl _))

theorem advances_terminateSession : Advances c (c.terminateSession i) :=
  (advances_modClient (by exact List.suffix_refl _)).trans advances_signalWrite

theorem advances_restartTimeout : Advances c (c.restartTimeout cfg i) := by
  unfold restartTimeout; split
  · exact advances_modClient (by exact List.suffix_refl _)
  · exact Advances.refl c

theorem advances_loadLeft : Advances c c.loadLeft.2 := by
  unfold loadLeft; split <;> exact ⟨fun _ => List.suffix_refl _, id⟩

theorem advances_makeSocket : Advances c (c.makeSocket i).2 := by
  unfold makeSocket; split
  all_goals exact advances_setAns.trans (advances_modClient (by exact List.suffix_refl _))

-- Each round of the loop pops the address it tries.
theorem advances_connectNext (l : List Nat) (hl : l <:+ (c.client i).nextAddr) (a : Option Nat) :
    Advances c (c.connectNext i l a).2 := by
  induction l generalizing c a with
  | nil => exact Advances.refl c
  | cons x l ih =>
    have h : Advances c (c.modClient i ({ · with nextAddr := l })) :=
      advances_modClient ((List.suffix_cons x l).trans hl)
    unfold connectNext; dsimp only; split
    · exact h.trans advances_makeSocket
    · refine (h.trans advances_makeSocket).trans (ih ?_ _)
      rw [proj_makeSocket Client.nextAddr fun _ _ => rfl, client_modClient]
      split_ifs with hi
      · exact List.suffix_refl _
      · have : (c.client i).nextAddr = [] := by
          rw [client, Worker.client, List.getD_eq_default _ _ (by omega)]; rfl
        exact absurd (this ▸ hl) (by simp)

theorem advances_sessionSubmit : Advances c (c.sessionSubmit i).2 := by
  unfold sessionSubmit; split
  · exact Advances.refl c
  · split
    · exact advances_setAns.trans (advances_modClient (by exact List.suffix_refl _))
    · exact advances_setAns

theorem advances_processAbandonedStreams : Advances c (c.processAbandonedStreams i) := by
  unfold processAbandonedStreams; split
  · exact advances_modStats.trans (advances_modClient (by exact List.suffix_refl _))
  · exact Advances.refl c

theorem advances_processRequestFailure : Advances c c.processRequestFailure := by
  unfold processRequestFailure; split <;> exact ⟨fun _ => List.suffix_refl _, id⟩

theorem advances_fail : Advances c (c.fail i) := advances_disconnect.trans advances_processAbandonedStreams

theorem advances_timeout : Advances c (c.timeout i) := by
  refine Advances.trans ?_ advances_disconnect
  unfold processTimedoutStreams; split
  · exact advances_modStats.trans advances_processAbandonedStreams
  · exact Advances.refl c

theorem advances_connectPhase : Advances c (c.connectPhase cfg i) := by
  unfold connectPhase; split_ifs
  · exact advances_modCstat
  all_goals exact ⟨fun _ => List.suffix_refl _, id⟩

theorem advances_openSocket : Advances c (c.openSocket i).2 := by
  unfold openSocket; split
  · exact advances_makeSocket
  · dsimp only; split
    · exact advances_connectNext _ (List.suffix_refl _) _
    · exact (advances_connectNext _ (List.suffix_refl _) _).trans
        (advances_modClient (by exact List.suffix_refl _))

theorem advances_connect : Advances c (c.connect cfg i).2 := by
  have h : Advances c (((c.connectPhase cfg i).restartTimeout cfg i).openSocket i).2 :=
    advances_connectPhase.trans (advances_restartTimeout.trans advances_openSocket)
  unfold connect; dsimp only; split
  · exact h.trans (advances_modClient (by exact List.suffix_refl _))
  · exact h

theorem advances_gate : Advances c (c.gate cfg i).2 := by
  unfold gate; split
  · split <;> exact ⟨fun _ => List.suffix_refl _, id⟩
  · dsimp only; split
    · exact advances_loadLeft
    · split <;> exact advances_loadLeft.trans ⟨fun _ => List.suffix_refl _, id⟩

theorem advances_submitPassed : Advances c (c.submitPassed cfg i).2 := by
  have hs : Advances c ({ c with g.totalReqSend := c.g.totalReqSend + 1 }.sessionSubmit i).2 :=
    Advances.trans ⟨fun _ => List.suffix_refl _, id⟩ advances_sessionSubmit
  have hc (c : Ctx) : Advances c (c.countStarted cfg i) := by
    unfold countStarted; dsimp only
    have h : Advances c ((c.modStats fun st => { st with reqStarted := st.reqStarted + 1 }).modClient i
        fun cl => { cl with reqStarted := cl.reqStarted + 1, reqInflight := cl.reqInflight + 1 }) :=
      advances_modStats.trans (advances_modClient (by exact List.suffix_refl _))
    split
    · exact h.trans (advances_modClient (by exact List.suffix_refl _))
    · exact h
  unfold submitPassed; dsimp only; split
  · exact hs
  · split
    · exact hs.trans (hc _)
    · exact hs

theorem advances_submitRequest : Advances c (c.submitRequest cfg i).2 := by
  unfold submitRequest; dsimp only; split
  · exact advances_gate
  · exact advances_gate
  · exact advances_gate.trans advances_submitPassed

theorem advances_submitInitial (n : Nat) : Advances c (c.submitInitial cfg i n) := by
  induction n generalizing c with
  | zero => exact Advances.refl c
  | succ n ih =>
    unfold submitInitial; dsimp only; split
    · exact advances_submitRequest.trans ih
    · exact advances_submitRequest.trans advances_processRequestFailure

theorem advances_connectionMade : Advances c (c.connectionMade cfg i).2 := by
  unfold connectionMade; split
  · exact advances_disconnect
  · exact ((advances_modClient (by exact List.suffix_refl _)).trans advances_modCstat).trans
      ((advances_submitInitial _).trans advances_signalWrite)

theorem advances_tlsHandshake : Advances c (c.tlsHandshake cfg i).2 := by
  unfold tlsHandshake; split
  · exact advances_setAns.trans (advances_modClient (by exact List.suffix_refl _))
  · exact advances_setAns.trans (advances_modClient (by exact List.suffix_refl _))
  · exact advances_setAns
  · exact advances_setAns.trans
      ((advances_modClient (by exact List.suffix_refl _)).trans advances_connectionMade)

theorem advances_connected : Advances c (c.connected cfg i).2 := by
  unfold connected; split
  · exact Advances.refl c
  · dsimp only; split
    · exact (advances_modClient (by exact List.suffix_refl _)).trans
        ((advances_modClient (by exact List.suffix_refl _)).trans advances_tlsHandshake)
    · exact (advances_modClient (by exact List.suffix_refl _)).trans
        ((advances_modClient (by exact List.suffix_refl _)).trans advances_connectionMade)

theorem advances_onRead {len : Nat} : Advances c (c.onRead i len) := by
  unfold onRead; split
  · exact advances_modStats.trans advances_signalWrite
  · exact advances_signalWrite

theorem advances_writeSteady : Advances c (c.writeSteady i).2 := by
  unfold writeSteady; split
  · exact advances_modClient (by exact List.suffix_refl _)
  · exact advances_modClient (by exact List.suffix_refl _)
  · exact Advances.refl c

theorem advances_doWrite : Advances c (c.doWrite cfg i).2 := by
  unfold doWrite; split
  · exact advances_connected
  · exact advances_tlsHandshake
  all_goals exact advances_writeSteady

theorem advances_readSteady : Advances c (c.readSteady i).2 := by
  unfold readSteady; split <;> exact advances_onRead

theorem advances_doRead : Advances c (c.doRead cfg i).2 := by
  unfold doRead; split
  · exact Advances.refl c
  · exact advances_tlsHandshake
  all_goals exact advances_readSteady

theorem advances_tryAgainOrFail : Advances c (c.tryAgainOrFail cfg i).2 := by
  unfold tryAgainOrFail; dsimp only; split
  · have h : Advances c ((c.disconnect i).modClient i
        ({ · with newConnectionRequested := false })).loadLeft.2 :=
      (advances_disconnect.trans (advances_modClient (by exact List.suffix_refl _))).trans advances_loadLeft
    split
    · split
      · exact h.trans (advances_processAbandonedStreams.trans advances_connect)
      · exact h.trans
          ((advances_processAbandonedStreams.trans advances_connect).trans advances_processAbandonedStreams)
    · exact h.trans advances_processAbandonedStreams
  · exact advances_fail

theorem advances_writecb : Advances c (c.writecb cfg i) := by
  have h : Advances c ((c.restartTimeout cfg i).doWrite cfg i).2 :=
    advances_restartTimeout.trans advances_doWrite
  have hc (c : Ctx) : Advances c ((c.disconnect i).modClient i ({ · with currentAddr := none })) :=
    advances_disconnect.trans (advances_modClient (by exact List.suffix_refl _))
  unfold writecb; dsimp only; split
  · split
    · exact h.trans ((hc _).trans advances_connect)
    · exact h.trans ((hc _).trans (advances_connect.trans advances_fail))
  · split
    · exact h.trans advances_fail
    · exact h

theorem advances_readcb : Advances c (c.readcb cfg i) := by
  have h : Advances c ((c.restartTimeout cfg i).doRead cfg i).2 :=
    advances_restartTimeout.trans advances_doRead
  unfold readcb; dsimp only; split
  · exact h.trans advances_tryAgainOrFail
  · exact h.trans advances_writecb

theorem advances_replenish {final : Bool} : Advances c (c.replenish cfg i final) := by
  unfold replenish; dsimp only; split
  · exact advances_loadLeft.trans advances_terminateSession
  · split
    · exact advances_loadLeft
    · split
      · exact advances_loadLeft.trans advances_submitRequest
      · exact advances_loadLeft.trans (advances_submitRequest.trans advances_processRequestFailure)

theorem advances_recordClose {st : Stream} {success : Bool} :
    Advances c (c.recordClose i st success) := by
  refine Advances.trans ?_
    ((advances_modStats.trans (advances_modClient (by exact List.suffix_refl _))).trans advances_recordRtt)
  split
  · dsimp only
    refine Advances.trans ?_ advances_modStats
    split <;> exact (advances_modStats.trans advances_modCstat).trans advances_modStats
  · exact advances_modStats

theorem advances_onStreamClose {success final : Bool} :
    Advances c (c.onStreamClose cfg i sid success final) := by
  have ht (c : Ctx) : Advances c (c.closeTail cfg i sid final) :=
    (advances_modClient (by exact List.suffix_refl _)).trans advances_replenish
  unfold onStreamClose; split
  · dsimp only; split
    · exact advances_modClient (by exact List.suffix_refl _)
    · exact (advances_modClient (by exact List.suffix_refl _)).trans (advances_recordClose.trans (ht _))
  · exact ht c

theorem advances_classifyStatus {s : Nat} : Advances c (c.classifyStatus i sid s) := by
  unfold classifyStatus; split_ifs
  all_goals first
    | exact advances_modStats.trans advances_modStream
    | exact advances_modStream

theorem advances_onHeader {name value : List UInt8} : Advances c (c.onHeader i sid name value) := by
  unfold onHeader; split
  · exact Advances.refl c
  · split
    · exact advances_modStream
    · split
      · split
        · exact advances_modStream
        · exact advances_classifyStatus
      · exact Advances.refl c

theorem advances_onStatusCode {s : UInt16} : Advances c (c.onStatusCode i sid s) := by
  unfold onStatusCode; split
  · exact Advances.refl c
  · split
    · exact advances_modStream
    · exact advances_classifyStatus

theorem advances_onSofarpcStatus {s : UInt16} : Advances c (c.onSofarpcStatus i sid s) := by
  unfold onSofarpcStatus; split
  · exact Advances.refl c
  · split
    · exact advances_modStream
    · exact advances_modStream.trans advances_modStats

theorem advances_connTimeoutCb {b : Bool} : Advances c (c.connTimeoutCb i b) := by
  unfold connTimeoutCb; dsimp only; split
  · exact (advances_modClient (by exact List.suffix_refl _)).trans advances_timeout
  · exact advances_modClient (by exact List.suffix_refl _)

theorem advances_warmupTimeoutCb : Advances c c.warmupTimeoutCb := by
  refine ⟨fun k => ?_, id⟩
  simp only [client, Worker.client, warmupTimeoutCb, List.getD_eq_getElem?_getD, List.getElem?_map]
  cases c.w.clients[k]? <;> exact List.suffix_refl _

theorem advances_drainBlocked (n : Nat) : Advances c (c.drainBlocked cfg n) := by
  induction n generalizing c with
  | zero => exact Advances.refl c
  | succ n ih =>
    unfold drainBlocked; split
    · exact Advances.refl c
    · next j rest _ =>
      split
      · exact Advances.refl c
      · have h : Advances c ({ c with w.clientsBlockedDueToQps := rest }.submitRequest cfg j).2 :=
          Advances.trans ⟨fun _ => List.suffix_refl _, id⟩ advances_submitRequest
        refine Advances.trans ?_ ih
        split
        · exact h.trans advances_signalWrite
        · exact h.trans (advances_processRequestFailure.trans advances_signalWrite)

theorem advances_updateWorkerQpsLeft : Advances c (c.updateWorkerQpsLeft cfg) := by
  unfold updateWorkerQpsLeft; dsimp only
  refine Advances.trans ?_ (advances_drainBlocked _)
  split <;> exact ⟨fun _ => List.suffix_refl _, id⟩

theorem advances_stopAllClients : Advances c c.stopAllClients := by
  have hs (c : Ctx) (i : Nat) : Advances c (c.stopClient i) := by
    unfold stopClient; dsimp only
    refine Advances.trans ?_ advances_modStats
    split
    · exact advances_modCstat.trans (advances_terminateSession.trans advances_disconnect)
    · exact advances_modCstat
  unfold stopAllClients
  generalize List.range c.w.clients.length = l
  induction l generalizing c with
  | nil => exact Advances.refl c
  | cons i l ih => exact (hs c i).trans ih

theorem advances_durationTimeoutCb : Advances c c.durationTimeoutCb := by
  have h := @advances_stopAllClients { c with
    g.totalReqLeft := 0, w.phase := .durationOver, w.durationWatcher := false, w.qpsUpdater := false }
  exact ⟨h.1, h.2⟩

end Ctx

-- Every callback moves the address cursors only forward.
theorem Event.advances_dispatch {cfg : Config} {c : Ctx} (e : Event) : c.Advances (e.dispatch cfg c) := by
  cases e with
  | readcb => exact Ctx.advances_readcb
  | writecb => exact Ctx.advances_writecb
  | connTimeout => exact Ctx.advances_connTimeoutCb
  | onHeader => exact Ctx.advances_onHeader
  | onStatusCode => exact Ctx.advances_onStatusCode
  | onSofarpcStatus => exact Ctx.advances_onSofarpcStatus
  | onStreamClose => exact Ctx.advances_onStreamClose
  | tryNewConnection => exact Ctx.advances_modClient (by exact List.suffix_refl _)
  | recordTtfb => exact Ctx.advances_modCstat
  | warmupTimeout => exact Ctx.advances_warmupTimeoutCb
  | durationTimeout => exact Ctx.advances_durationTimeoutCb
  | qpsTick => exact Ctx.advances_updateWorkerQpsLeft

namespace Worker

variable {cfg : Config}

-- What `Advances` keeps over a whole run: each client's cursor is what remains of the resolved
-- addresses, and the recorded samples lie within the worker's extremes.
def WithinBounds (cfg : Config) (w : Worker) : Prop :=
  (∀ k, (w.client k).nextAddr <:+ cfg.addrs) ∧ w.RttInv

namespace WithinBounds

theorem of_advances {c c' : Ctx} (h : WithinBounds cfg c.w) (ha : c.Advances c') :
    WithinBounds cfg c'.w :=
  ⟨fun k => (ha.1 k).trans (h.1 k), ha.2 h.2⟩

theorem create {id n : Nat} {rands : List Nat} : WithinBounds cfg (Worker.create cfg id n rands) :=
  ⟨fun _ => List.nil_suffix, nofun⟩

-- `Worker::run` appends a client whose cursor starts at the first address.
theorem push {w : Worker} (h : WithinBounds cfg w) (id next made : Nat) :
    WithinBounds cfg { w with
      clients := w.clients ++ [Client.create id cfg.addrs], nextClientId := next, nconnsMade := made } := by
  refine ⟨fun k => ?_, h.2⟩
  rcases Nat.lt_or_ge k w.clients.length with hk | hk
  · rw [client, List.getD_append _ _ _ _ hk]; exact h.1 k
  · rw [client, List.getD_append_right _ _ _ _ hk]
    cases k - w.clients.length
    · exact List.suffix_refl _
    · exact List.nil_suffix

-- A client whose connect failed is dropped again.
theorem take {w : Worker} (h : WithinBounds cfg w) (k : Nat) :
    WithinBounds cfg { w with clients := w.clients.take k } := by
  refine ⟨fun j => ?_, h.2⟩
  have hj := h.1 j
  simp only [client, List.getD_eq_getElem?_getD, List.getElem?_take] at hj ⊢
  split_ifs
  · exact hj
  · exact List.nil_suffix

theorem runClients : ∀ (n : Nat) (socks : List (List (Option Nat))) {c : Ctx},
    WithinBounds cfg c.w → WithinBounds cfg (c.runClients cfg n socks).w
  | 0, _, _, h => h
  | n + 1, socks, c, h => by
    unfold Ctx.runClients; dsimp only; split
    · refine runClients n _ (of_advances ?_ Ctx.advances_connect)
      exact h.push _ _ _
    · refine runClients n _ ((of_advances (of_advances ?_ Ctx.advances_connect) Ctx.advances_fail).take _)
      exact h.push _ _ _

end WithinBounds

-- In every reachable state each client's address cursor is a suffix of the resolved address
-- list, and every recorded sample lies within the worker's extremes.
theorem Reachable.withinBounds {w : Worker} (h : Reachable cfg w) : WithinBounds cfg w := by
  induction h with
  | init => exact WithinBounds.create.runClients _ _
  | step e g _ _ ih => exact ih.of_advances (@Event.advances_dispatch cfg ⟨_, g, e.answers⟩ e)

end Worker

end Sofaload
