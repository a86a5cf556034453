import Sofaload.Execution.Theorems.Basic

namespace Sofaload

-- The request counters of a worker and of each of its clients: what may change only while the
-- worker is in its main phase.
structure Counters where
  reqStarted : Nat
  reqDone : Nat
  reqSuccess : Nat
  reqStatusSuccess : Nat
  reqFailed : Nat
  reqError : Nat
  reqTimedout : Nat
  bytesTotal : Nat
  status : Nat → Nat
  sofarpcStatus : Nat → Nat
  reqStats : List RequestStat
  rtts : List Nat
  clients : List (Nat × Nat × Nat)

def Client.counters (cl : Client) : Nat × Nat × Nat := (cl.reqInflight, cl.reqStarted, cl.reqDone)

def Worker.counters (w : Worker) : Counters :=
  ⟨w.stats.reqStarted, w.stats.reqDone, w.stats.reqSuccess, w.stats.reqStatusSuccess,
    w.stats.reqFailed, w.stats.reqError, w.stats.reqTimedout, w.stats.bytesTotal, w.stats.status,
    w.stats.sofarpcStatus, w.stats.reqStats, w.rtts, w.clients.map Client.counters⟩

-- The fields only `Client::connect` and the phase callbacks write: the phase and whether the
-- warm-up, duration and QPS timers are active.
structure Ctl where
  phase : Phase
  warmup : Bool
  duration : Bool
  qps : Bool
  deriving DecidableEq

def Worker.ctl (w : Worker) : Ctl := ⟨w.phase, w.warmupWatcher, w.durationWatcher, w.qpsUpdater⟩

namespace Ctx

-- `c'` follows `c` by client code: the phase and the timers stay, except that `Client::connect`
-- may leave the initial phase and start the warm-up timer; outside the main phase no counter
-- moves; no client is added or removed.
def Quiet (c c' : Ctx) : Prop :=
  (c'.w.ctl = c.w.ctl ∨
    c.w.phase = .initialIdle ∧ c'.w.ctl = { c.w.ctl with phase := .warmUp, warmup := true }) ∧
  (c.w.phase ≠ .mainDuration → c'.w.counters = c.w.counters) ∧
  c'.w.clients.length = c.w.clients.length

variable {cfg : Config} {c c₁ c₂ c₃ : Ctx} {i sid : Nat}

namespace Quiet

theorem refl (c : Ctx) : Quiet c c := ⟨.inl rfl, fun _ => rfl, rfl⟩

theorem of_ctl (hc : c₂.w.ctl = c₁.w.ctl)
    (h : c₁.w.phase ≠ .mainDuration → c₂.w.counters = c₁.w.counters)
    (hl : c₂.w.clients.length = c₁.w.clients.length) : Quiet c₁ c₂ :=
  ⟨.inl hc, h, hl⟩

theorem of_main (hm : c₁.w.phase = .mainDuration) (hc : c₂.w.ctl = c₁.w.ctl)
    (hl : c₂.w.clients.length = c₁.w.clients.length) : Quiet c₁ c₂ :=
  of_ctl hc (fun hp => absurd hm hp) hl

theorem phase_ne_main (h : Quiet c₁ c₂) (hp : c₁.w.phase ≠ .mainDuration) :
    c₂.w.phase ≠ .mainDuration := by
  rcases h.1 with h | ⟨_, h⟩ <;> rw [show c₂.w.phase = c₂.w.ctl.phase from rfl, h]
  · exact hp
  · nofun

theorem trans (h₁ : Quiet c₁ c₂) (h₂ : Quiet c₂ c₃) : Quiet c₁ c₃ := by
  refine ⟨?_, fun hp => (h₂.2.1 (h₁.phase_ne_main hp)).trans (h₁.2.1 hp), h₂.2.2.trans h₁.2.2⟩
  rcases h₁.1 with e₁ | ⟨p₁, e₁⟩ <;> rcases h₂.1 with e₂ | ⟨p₂, e₂⟩
  · exact .inl (e₂.trans e₁)
  · exact .inr ⟨by rw [← p₂, show c₂.w.phase = c₂.w.ctl.phase from rfl, e₁]; rfl, by rw [e₂, e₁]⟩
  · exact .inr ⟨p₁, e₂.trans e₁⟩
  · rw [show c₂.w.phase = c₂.w.ctl.phase from rfl, e₁] at p₂; nomatch p₂

end Quiet

-- Code that changes neither the phase, nor a timer, nor a counter, in any phase.
def Frame (c c' : Ctx) : Prop := c'.w.ctl = c.w.ctl ∧ c'.w.counters = c.w.counters

namespace Frame

theorem refl (c : Ctx) : Frame c c := ⟨rfl, rfl⟩

theorem trans (h₁ : Frame c₁ c₂) (h₂ : Frame c₂ c₃) : Frame c₁ c₃ :=
  ⟨h₂.1.trans h₁.1, h₂.2.trans h₁.2⟩

theorem quiet (h : Frame c₁ c₂) : Quiet c₁ c₂ :=
  Quiet.of_ctl h.1 (fun _ => h.2) (by simpa [Worker.counters] using congrArg (·.clients.length) h.2)

end Frame

theorem frame_modClient {f : Client → Client} (hf : ∀ cl, (f cl).counters = cl.counters) :
    Frame c (c.modClient i f) :=
  ⟨rfl, by simp [Worker.counters, modClient, List.map_modify_of_comp hf]⟩

theorem frame_signalWrite : Frame c (c.signalWrite i) := frame_modClient (by intro; rfl)

theorem frame_restartTimeout : Frame c (c.restartTimeout cfg i) := by
  unfold restartTimeout; split
  · exact frame_modClient (by intro; rfl)
  · exact Frame.refl c

theorem frame_modCstat {f : ClientStat → ClientStat} : Frame c (c.modCstat i f) :=
  frame_modClient (by intro; rfl)

theorem frame_modStream {f : Stream → Stream} : Frame c (c.modStream i sid f) :=
  frame_modClient fun cl => by split <;> rfl

theorem frame_disconnect : Frame c (c.disconnect i) := by
  refine Frame.trans frame_modCstat (frame_modClient ?_); intro; rfl

theorem frame_loadLeft : Frame c c.loadLeft.2 := by
  unfold loadLeft; split <;> exact ⟨rfl, rfl⟩

theorem frame_makeSocket : Frame c (c.makeSocket i).2 := by
  unfold makeSocket; split <;> exact frame_modClient (by intro; rfl)

theorem frame_connectNext (l : List Nat) (a : Option Nat) :
    Frame c (c.connectNext i l a).2 := by
  induction l generalizing c a with
  | nil => exact Frame.refl c
  | cons x l ih =>
    have h : Frame c (makeSocket i (c.modClient i ({ · with nextAddr := l }))).2 := by
      refine Frame.trans (frame_modClient ?_) frame_makeSocket; intro; rfl
    unfold connectNext; dsimp only; split
    · exact h
    · exact h.trans (ih _)

theorem frame_terminateSession : Frame c (c.terminateSession i) := by
  unfold terminateSession
  refine Frame.trans ?_ frame_signalWrite
  exact frame_modClient (by intro; rfl)

theorem frame_sessionSubmit : Frame c (c.sessionSubmit i).2 := by
  unfold sessionSubmit; split
  · exact Frame.refl c
  · split
    · exact frame_modClient (by intro; rfl)
    · exact ⟨rfl, rfl⟩

theorem frame_gate : Frame c (c.gate cfg i).2 := by
  unfold gate; split
  · split <;> exact ⟨rfl, rfl⟩
  · dsimp only; split
    · exact frame_loadLeft
    · split <;> exact frame_loadLeft.trans ⟨rfl, rfl⟩

theorem quiet_processAbandonedStreams : Quiet c (c.processAbandonedStreams i) := by
  unfold processAbandonedStreams; split
  · exact Quiet.of_ctl rfl (fun h => absurd ‹_› h) (by simp)
  · exact Quiet.refl c

theorem quiet_processTimedoutStreams : Quiet c (c.processTimedoutStreams i) := by
  unfold processTimedoutStreams; split
  · refine Quiet.trans ?_ quiet_processAbandonedStreams
    exact Quiet.of_ctl rfl (fun h => absurd ‹_› h) rfl
  · exact Quiet.refl c

theorem frame_processRequestFailure : Frame c c.processRequestFailure := by
  unfold processRequestFailure; split
  · exact Frame.refl c
  · exact ⟨rfl, rfl⟩

theorem quiet_fail : Quiet c (c.fail i) :=
  frame_disconnect.quiet.trans quiet_processAbandonedStreams

theorem quiet_timeout : Quiet c (c.timeout i) :=
  quiet_processTimedoutStreams.trans frame_disconnect.quiet

theorem quiet_connectPhase : Quiet c (c.connectPhase cfg i) := by
  unfold connectPhase; split
  · exact frame_modCstat.quiet
  · split
    · exact ⟨.inr ⟨‹_›, rfl⟩, fun _ => rfl, rfl⟩
    · exact Quiet.refl c

theorem frame_openSocket : Frame c (c.openSocket i).2 := by
  unfold openSocket; split
  · exact frame_makeSocket
  · dsimp only; split
    · exact frame_connectNext _ _
    · exact (frame_connectNext _ _).trans (frame_modClient (by intro; rfl))

theorem quiet_connect : Quiet c (c.connect cfg i).2 := by
  have h : Quiet c ((c.connectPhase cfg i).restartTimeout cfg i |>.openSocket i).2 :=
    quiet_connectPhase.trans (frame_restartTimeout.trans frame_openSocket).quiet
  unfold connect; dsimp only; split
  · exact h.trans (frame_modClient (by intro; rfl)).quiet
  · exact h

theorem quiet_submitPassed : Quiet c (c.submitPassed cfg i).2 := by
  have h : Frame c ({ c with g.totalReqSend := c.g.totalReqSend + 1 }.sessionSubmit i).2 :=
    Frame.trans ⟨rfl, rfl⟩ frame_sessionSubmit
  unfold submitPassed; dsimp only; split
  · exact h.quiet
  · split
    · next hm =>
      exact h.quiet.trans (Quiet.of_main hm (by unfold countStarted; split <;> rfl)
        (by unfold countStarted; split <;> simp))
    · exact h.quiet

theorem quiet_submitRequest : Quiet c (c.submitRequest cfg i).2 := by
  unfold submitRequest; dsimp only; split
  · exact frame_gate.quiet
  · exact frame_gate.quiet
  · exact frame_gate.quiet.trans quiet_submitPassed

theorem quiet_replenish {final : Bool} : Quiet c (c.replenish cfg i final) := by
  unfold replenish; dsimp only; split
  · exact (frame_loadLeft.trans frame_terminateSession).quiet
  · split
    · exact frame_loadLeft.quiet
    · split
      · exact frame_loadLeft.quiet.trans quiet_submitRequest
      · exact frame_loadLeft.quiet.trans (quiet_submitRequest.trans frame_processRequestFailure.quiet)

theorem quiet_closeTail {final : Bool} : Quiet c (c.closeTail cfg i sid final) :=
  (frame_modClient (by intro; rfl)).quiet.trans quiet_replenish

@[simp] theorem ctl_modClient {f : Client → Client} : (c.modClient i f).w.ctl = c.w.ctl := rfl

@[simp] theorem ctl_modStats {f : Stats → Stats} : (c.modStats f).w.ctl = c.w.ctl := rfl

@[simp] theorem ctl_recordRtt {rtt : Nat} : (c.recordRtt rtt).w.ctl = c.w.ctl := rfl

@[simp] theorem recordRtt_clients {rtt : Nat} : (c.recordRtt rtt).w.clients = c.w.clients := rfl

theorem ctl_recordClose {st : Stream} {success : Bool} :
    (c.recordClose i st success).w.ctl = c.w.ctl := by
  unfold recordClose; split <;> (try split) <;>
    simp only [modCstat, ctl_modClient, ctl_modStats, ctl_recordRtt]

theorem length_recordClose {st : Stream} {success : Bool} :
    (c.recordClose i st success).w.clients.length = c.w.clients.length := by
  unfold recordClose; split <;> (try split) <;>
    simp only [modCstat, modClient_clients, modStats_clients, recordRtt_clients, List.length_modify]

theorem quiet_onStreamClose {success final : Bool} :
    Quiet c (c.onStreamClose cfg i sid success final) := by
  unfold onStreamClose; split
  · next hm =>
    dsimp only; split
    · exact Quiet.of_main hm rfl (by simp)
    · refine Quiet.trans ?_ quiet_closeTail
      exact Quiet.of_main hm ctl_recordClose (length_recordClose.trans (by simp))
  · exact quiet_closeTail

theorem quiet_submitInitial (n : Nat) : Quiet c (c.submitInitial cfg i n) := by
  induction n generalizing c with
  | zero => exact Quiet.refl c
  | succ n ih =>
    unfold submitInitial; dsimp only; split
    · exact quiet_submitRequest.trans ih
    · exact quiet_submitRequest.trans frame_processRequestFailure.quiet

theorem quiet_connectionMade : Quiet c (c.connectionMade cfg i).2 := by
  unfold connectionMade; split
  · exact frame_disconnect.quiet
  · refine Quiet.trans ?_ (Quiet.trans (quiet_submitInitial _) frame_signalWrite.quiet)
    exact ((frame_modClient (by intro; rfl)).trans frame_modCstat).quiet

theorem quiet_tryAgainOrFail : Quiet c (c.tryAgainOrFail cfg i).2 := by
  unfold tryAgainOrFail; dsimp only; split
  · have h : Frame c ((c.disconnect i).modClient i
        ({ · with newConnectionRequested := false })).loadLeft.2 :=
      frame_disconnect.trans ((frame_modClient (by intro; rfl)).trans frame_loadLeft)
    split
    · split
      · exact h.quiet.trans (quiet_processAbandonedStreams.trans quiet_connect)
      · exact h.quiet.trans
          ((quiet_processAbandonedStreams.trans quiet_connect).trans quiet_processAbandonedStreams)
    · exact h.quiet.trans quiet_processAbandonedStreams
  · exact frame_disconnect.quiet.trans quiet_processAbandonedStreams

theorem quiet_tlsHandshake : Quiet c (c.tlsHandshake cfg i).2 := by
  unfold tlsHandshake; split
  · exact frame_modClient (by intro; rfl) |>.quiet
  · exact frame_modClient (by intro; rfl) |>.quiet
  · exact Quiet.refl c
  · refine Quiet.trans ?_ quiet_connectionMade
    exact ((Frame.refl c).trans (frame_modClient (by intro; rfl))).quiet

theorem quiet_connected : Quiet c (c.connected cfg i).2 := by
  unfold connected; split
  · exact Quiet.refl c
  · dsimp only; split
    · exact (frame_modClient (by intro; rfl)).quiet.trans
        ((frame_modClient (by intro; rfl)).quiet.trans quiet_tlsHandshake)
    · exact (frame_modClient (by intro; rfl)).quiet.trans
        ((frame_modClient (by intro; rfl)).quiet.trans quiet_connectionMade)

theorem frame_writeSteady : Frame c (c.writeSteady i).2 := by
  unfold writeSteady; split
  · exact frame_modClient (by intro; rfl)
  · exact frame_modClient (by intro; rfl)
  · exact Frame.refl c

theorem quiet_onRead {len : Nat} : Quiet c (c.onRead i len) := by
  refine Quiet.trans ?_ frame_signalWrite.quiet
  split
  · exact Quiet.of_ctl rfl (fun h => absurd ‹_› h) rfl
  · exact Quiet.refl c

theorem quiet_readSteady : Quiet c (c.readSteady i).2 := by
  unfold readSteady; split <;> exact quiet_onRead

theorem quiet_doWrite : Quiet c (c.doWrite cfg i).2 := by
  unfold doWrite; split
  · exact quiet_connected
  · exact quiet_tlsHandshake
  · exact frame_writeSteady.quiet
  · exact frame_writeSteady.quiet

theorem quiet_doRead : Quiet c (c.doRead cfg i).2 := by
  unfold doRead; split
  · exact Quiet.refl c
  · exact quiet_tlsHandshake
  · exact quiet_readSteady
  · exact quiet_readSteady

theorem ctl_classifyStatus {s : Nat} : (c.classifyStatus i sid s).w.ctl = c.w.ctl := by
  unfold classifyStatus; split_ifs <;> rfl

theorem length_classifyStatus {s : Nat} :
    (c.classifyStatus i sid s).w.clients.length = c.w.clients.length := by
  unfold classifyStatus; split_ifs <;> simp [modStream]

theorem quiet_markWarmUp : Quiet c (c.markWarmUp i sid) := frame_modStream.quiet

theorem quiet_onHeader {name value : List UInt8} : Quiet c (c.onHeader i sid name value) := by
  unfold onHeader; split
  · exact Quiet.refl c
  · split
    · exact quiet_markWarmUp
    · refine Quiet.of_main (not_not.mp ‹_›) ?_ ?_ <;> split
      · split
        · rfl
        · exact ctl_classifyStatus
      · rfl
      · split
        · simp [modStream]
        · exact length_classifyStatus
      · rfl

theorem quiet_onStatusCode {s : UInt16} : Quiet c (c.onStatusCode i sid s) := by
  unfold onStatusCode; split
  · exact Quiet.refl c
  · split
    · exact quiet_markWarmUp
    · exact Quiet.of_main (not_not.mp ‹_›) ctl_classifyStatus length_classifyStatus

theorem quiet_onSofarpcStatus {s : UInt16} : Quiet c (c.onSofarpcStatus i sid s) := by
  unfold onSofarpcStatus; split
  · exact Quiet.refl c
  · split
    · exact quiet_markWarmUp
    · exact Quiet.of_main (not_not.mp ‹_›) rfl (by simp [modStream])

theorem quiet_writecb : Quiet c (c.writecb cfg i) := by
  have h : Quiet c ((c.restartTimeout cfg i).doWrite cfg i).2 :=
    frame_restartTimeout.quiet.trans quiet_doWrite
  unfold writecb; dsimp only; split
  · split
    · exact h.trans ((frame_disconnect.trans (frame_modClient (by intro; rfl))).quiet.trans
        quiet_connect)
    · exact h.trans ((frame_disconnect.trans (frame_modClient (by intro; rfl))).quiet.trans
        (quiet_connect.trans quiet_fail))
  · split
    · exact h.trans quiet_fail
    · exact h

theorem quiet_readcb : Quiet c (c.readcb cfg i) := by
  have h : Quiet c ((c.restartTimeout cfg i).doRead cfg i).2 :=
    frame_restartTimeout.quiet.trans quiet_doRead
  unfold readcb; dsimp only; split
  · exact h.trans quiet_tryAgainOrFail
  · exact h.trans quiet_writecb

theorem quiet_connTimeoutCb {b : Bool} : Quiet c (c.connTimeoutCb i b) := by
  unfold connTimeoutCb; dsimp only; split
  · exact (frame_modClient (by intro; rfl)).quiet.trans quiet_timeout
  · exact (frame_modClient (by intro; rfl)).quiet

theorem quiet_drainBlocked (n : Nat) : Quiet c (c.drainBlocked cfg n) := by
  induction n generalizing c with
  | zero => exact Quiet.refl c
  | succ n ih =>
    unfold drainBlocked; split
    · exact Quiet.refl c
    · next j rest _ =>
      split
      · exact Quiet.refl c
      · have h0 : Frame c { c with w.clientsBlockedDueToQps := rest } := ⟨rfl, rfl⟩
        have h1 : Quiet c ({ c with w.clientsBlockedDueToQps := rest }.submitRequest cfg j).2 :=
          h0.quiet.trans quiet_submitRequest
        refine Quiet.trans ?_ ih
        refine Quiet.trans ?_ frame_signalWrite.quiet
        split
        · exact h1
        · exact h1.trans frame_processRequestFailure.quiet

theorem quiet_updateWorkerQpsLeft : Quiet c (c.updateWorkerQpsLeft cfg) := by
  unfold updateWorkerQpsLeft; dsimp only
  refine Quiet.trans ?_ (quiet_drainBlocked _)
  split <;> exact Frame.quiet ⟨rfl, rfl⟩

theorem frame_processClientStat {cs : ClientStat} : Frame c (c.processClientStat cs) := ⟨rfl, rfl⟩

theorem frame_stopClient : Frame c (c.stopClient i) := by
  unfold stopClient; dsimp only
  refine Frame.trans ?_ frame_processClientStat
  split
  · exact frame_modCstat.trans (frame_terminateSession.trans frame_disconnect)
  · exact frame_modCstat

theorem frame_stopAllClients : Frame c c.stopAllClients := by
  unfold stopAllClients
  generalize List.range c.w.clients.length = l
  induction l generalizing c with
  | nil => exact Frame.refl c
  | cons i l ih => exact frame_stopClient.trans ih

-- Every callback but the two phase timers is client code.
theorem quiet_dispatch {e : Event} (hw : e ≠ .warmupTimeout) (hd : e ≠ .durationTimeout) :
    Quiet c (e.dispatch cfg c) := by
  cases e with
  | readcb => exact quiet_readcb
  | writecb => exact quiet_writecb
  | connTimeout => exact quiet_connTimeoutCb
  | onHeader => exact quiet_onHeader
  | onStatusCode => exact quiet_onStatusCode
  | onSofarpcStatus => exact quiet_onSofarpcStatus
  | onStreamClose => exact quiet_onStreamClose
  | tryNewConnection => exact (frame_modClient (by intro; rfl)).quiet
  | recordTtfb => exact frame_modCstat.quiet
  | qpsTick => exact quiet_updateWorkerQpsLeft
  | warmupTimeout => exact absurd rfl hw
  | durationTimeout => exact absurd rfl hd

end Ctx

end Sofaload
