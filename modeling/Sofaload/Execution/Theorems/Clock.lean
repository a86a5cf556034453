import Sofaload.Execution.Theorems.Basic
import Sofaload.Execution.System

namespace Sofaload

-- The stamps of one connection: its connect start is not in the future, and the connect time and
-- the first byte, once recorded, are no earlier than it.
structure ClientStat.Stamped (now : Nat) (cs : ClientStat) : Prop where
  connectStart : cs.connectStartTime ≤ now
  connect : cs.connectTime ≠ 0 → cs.connectStartTime ≤ cs.connectTime
  ttfb : cs.ttfb ≠ 0 → cs.connectStartTime ≤ cs.ttfb

-- Every open stream of a connection was sent at a time the clock has reached.
structure Client.Stamped (now : Nat) (cl : Client) : Prop where
  streams : ∀ e ∈ cl.streams.entries, e.2.reqStat.requestTime ≤ now
  cstat : cl.cstat.Stamped now

-- The stamps of a worker: its connections', and those of the requests and connections it kept
-- for the report, each request closed no earlier than it was sent.
structure Worker.Stamped (now : Nat) (w : Worker) : Prop where
  clients : ∀ cl ∈ w.clients, cl.Stamped now
  reqStats : ∀ rs ∈ w.stats.reqStats, rs.requestTime ≤ rs.streamCloseTime
  clientStats : ∀ cs ∈ w.stats.clientStats, cs.Stamped now

variable {now now' : Nat}

namespace ClientStat.Stamped

variable {cs : ClientStat}

theorem mono (h : cs.Stamped now) (hn : now ≤ now') : cs.Stamped now' :=
  ⟨h.connectStart.trans hn, h.connect, h.ttfb⟩

theorem restartTimes (cs : ClientStat) : (Client.restartTimes now cs).Stamped now :=
  ⟨le_rfl, fun h => absurd rfl h, fun h => absurd rfl h⟩

theorem recordClientEndTime (h : cs.Stamped now) (t : Nat) : (Client.recordClientEndTime t cs).Stamped now :=
  ⟨h.1, h.2, h.3⟩

theorem recordConnectTime (h : cs.Stamped now) : (Client.recordConnectTime now cs).Stamped now :=
  ⟨h.1, fun _ => h.1, h.3⟩

theorem recordTtfb (h : cs.Stamped now) : (Client.recordTtfb now cs).Stamped now := by
  unfold Client.recordTtfb; split
  · exact h
  · exact ⟨h.1, h.2, fun _ => h.1⟩

end ClientStat.Stamped

section Streams

variable {k : Nat} {v : Stream}

private theorem mem_kreplace :
    ∀ {l : List (Sigma fun _ : Nat => Stream)} {e}, e ∈ l.kreplace k v → e = ⟨k, v⟩ ∨ e ∈ l
  | [], _, h => by simp [List.kreplace] at h
  | ⟨x, b⟩ :: l, e, h => by
    by_cases hx : k = x
    · subst hx
      rw [List.kreplace, @List.lookmap_cons_some _ _ _ ⟨k, v⟩ l (if_pos rfl), List.mem_cons] at h
      exact h.imp_right (List.mem_cons_of_mem _)
    · rw [List.kreplace, List.lookmap_cons_none _ _ (by simp [hx]), List.mem_cons] at h
      rcases h with rfl | h
      · exact .inr (List.mem_cons_self _ _)
      · exact (mem_kreplace h).imp_right (List.mem_cons_of_mem _)

theorem mem_replace_entries {s : Streams} {e} (h : e ∈ (s.replace k v).entries) :
    e = ⟨k, v⟩ ∨ e ∈ s.entries :=
  mem_kreplace h

theorem mem_insert_entries {s : Streams} {e} (h : e ∈ (s.insert k v).entries) :
    e = ⟨k, v⟩ ∨ e ∈ s.entries := by
  rw [AList.insert_entries, List.mem_cons] at h
  exact h.imp_right fun h => (List.kerase_sublist _ _).subset h

theorem mem_erase_entries {s : Streams} {e} (h : e ∈ (s.erase k).entries) : e ∈ s.entries :=
  (List.kerase_sublist _ _).subset h

end Streams

namespace Client.Stamped

variable {cl : Client}

theorem mono (h : cl.Stamped now) (hn : now ≤ now') : cl.Stamped now' :=
  ⟨fun e he => (h.streams e he).trans hn, h.cstat.mono hn⟩

theorem lookup (h : cl.Stamped now) {sid : Nat} {st : Stream} (hl : cl.streams.lookup sid = some st) :
    st.reqStat.requestTime ≤ now :=
  h.streams _ (List.of_mem_dlookup hl)

theorem create (id : Nat) (addrs : List Nat) : (Client.create id addrs).Stamped now :=
  ⟨nofun, ⟨Nat.zero_le _, fun _ => le_rfl, fun _ => Nat.zero_le _⟩⟩

end Client.Stamped

namespace Worker.Stamped

variable {w : Worker}

theorem mono (h : w.Stamped now) (hn : now ≤ now') : w.Stamped now' :=
  ⟨fun cl hc => (h.clients cl hc).mono hn, h.reqStats, fun cs hc => (h.clientStats cs hc).mono hn⟩

theorem client (h : w.Stamped now) (i : Nat) : (w.client i).Stamped now := by
  by_cases hi : i < w.clients.length
  · exact h.clients _ (Worker.client_mem hi)
  · rw [Worker.client, List.getD_eq_default _ _ (Nat.le_of_not_lt hi)]
    exact Client.Stamped.create 0 []

end Worker.Stamped

namespace Ctx

-- `c'` follows `c` by code that reads the clock only to stamp with it and keeps the worker's
-- stamps no later than the clock.
def Stamps (c c' : Ctx) : Prop := c.w.Stamped c.g.now → c'.g.now = c.g.now ∧ c'.w.Stamped c.g.now

variable {cfg : Config} {c c₁ c₂ c₃ : Ctx} {i sid : Nat}

namespace Stamps

theorem refl (c : Ctx) : Stamps c c := fun h => ⟨rfl, h⟩

theorem trans (h₁ : Stamps c₁ c₂) (h₂ : Stamps c₂ c₃) : Stamps c₁ c₃ := fun h =>
  have ⟨e₁, h₁'⟩ := h₁ h
  have ⟨e₂, h₂'⟩ := h₂ (e₁ ▸ h₁')
  ⟨e₂.trans e₁, e₁ ▸ h₂'⟩

theorem of_imp (h : c₁.w.Stamped c₁.g.now → Stamps c₁ c₂) : Stamps c₁ c₂ := fun hs => h hs hs

-- Code that touches no stream, no `ClientStat` and none of the kept stats.
theorem of_parts (hc : c₂.w.clients = c₁.w.clients) (hr : c₂.w.stats.reqStats = c₁.w.stats.reqStats)
    (hs : c₂.w.stats.clientStats = c₁.w.stats.clientStats) (hg : c₂.g.now = c₁.g.now) : Stamps c₁ c₂ :=
  fun h => ⟨hg, hc ▸ h.clients, hr ▸ h.reqStats, hs ▸ h.clientStats⟩

-- Code that only adds connections that have stamped nothing yet, or drops some.
theorem of_clients (hc : ∀ cl ∈ c₂.w.clients, cl ∈ c₁.w.clients ∨ ∀ t, cl.Stamped t)
    (hr : c₂.w.stats.reqStats = c₁.w.stats.reqStats) (hs : c₂.w.stats.clientStats = c₁.w.stats.clientStats)
    (hg : c₂.g.now = c₁.g.now) : Stamps c₁ c₂ :=
  fun h => ⟨hg, fun cl hcl => (hc cl hcl).elim (h.clients cl) (· _), hr ▸ h.reqStats, hs ▸ h.clientStats⟩

end Stamps

theorem stamps_modClient {f : Client → Client} (hf : ∀ cl, cl.Stamped c.g.now → (f cl).Stamped c.g.now) :
    Stamps c (c.modClient i f) :=
  fun h => ⟨rfl, List.forall_mem_modify f i _ h.clients fun hi => hf _ (h.clients _ (List.getElem_mem hi)),
    h.reqStats, h.clientStats⟩

-- A client update that keeps the streams and the `ClientStat`.
theorem stamps_modClient_of_eq {f : Client → Client}
    (hf : ∀ cl, (f cl).streams = cl.streams ∧ (f cl).cstat = cl.cstat) : Stamps c (c.modClient i f) :=
  stamps_modClient fun cl h => ⟨(hf cl).1 ▸ h.streams, (hf cl).2 ▸ h.cstat⟩

theorem stamps_modCstat {f : ClientStat → ClientStat} (hf : ∀ cs, cs.Stamped c.g.now → (f cs).Stamped c.g.now) :
    Stamps c (c.modCstat i f) :=
  stamps_modClient fun _ h => ⟨h.streams, hf _ h.cstat⟩

theorem stamps_modStats {f : Stats → Stats} (hr : (f c.w.stats).reqStats = c.w.stats.reqStats)
    (hs : (f c.w.stats).clientStats = c.w.stats.clientStats) : Stamps c (c.modStats f) :=
  Stamps.of_parts rfl hr hs rfl

theorem stamps_modStream {f : Stream → Stream} (hf : ∀ st, (f st).reqStat.requestTime = st.reqStat.requestTime) :
    Stamps c (c.modStream i sid f) := by
  refine stamps_modClient fun cl h => ?_
  split
  · next st hl =>
    refine ⟨fun e he => ?_, h.cstat⟩
    rcases mem_replace_entries he with rfl | he
    · exact (hf st).symm ▸ h.lookup hl
    · exact h.streams e he
  · exact h

theorem stamps_signalWrite : Stamps c (c.signalWrite i) := stamps_modClient_of_eq (by intro; exact ⟨rfl, rfl⟩)

theorem stamps_restartTimeout : Stamps c (c.restartTimeout cfg i) := by
  unfold restartTimeout; split
  · exact stamps_modClient_of_eq (by intro; exact ⟨rfl, rfl⟩)
  · exact Stamps.refl c

theorem stamps_disconnect : Stamps c (c.disconnect i) :=
  (stamps_modCstat (by intro _ h; exact h.recordClientEndTime _)).trans
    (stamps_modClient (by intro _ h; exact ⟨nofun, h.cstat⟩))

theorem stamps_processAbandonedStreams : Stamps c (c.processAbandonedStreams i) := by
  unfold processAbandonedStreams; split
  · exact (stamps_modStats rfl rfl).trans (stamps_modClient_of_eq (by intro; exact ⟨rfl, rfl⟩))
  · exact Stamps.refl c

theorem stamps_processTimedoutStreams : Stamps c (c.processTimedoutStreams i) := by
  unfold processTimedoutStreams; split
  · exact (stamps_modStats rfl rfl).trans stamps_processAbandonedStreams
  · exact Stamps.refl c

theorem stamps_processRequestFailure : Stamps c c.processRequestFailure := by
  unfold processRequestFailure; split
  · exact Stamps.refl c
  · exact Stamps.of_parts rfl rfl rfl rfl

theorem stamps_fail : Stamps c (c.fail i) := stamps_disconnect.trans stamps_processAbandonedStreams

theorem stamps_timeout : Stamps c (c.timeout i) := stamps_processTimedoutStreams.trans stamps_disconnect

theorem stamps_loadLeft : Stamps c c.loadLeft.2 := by
  unfold loadLeft; split <;> exact Stamps.of_parts rfl rfl rfl rfl

theorem stamps_makeSocket : Stamps c (c.makeSocket i).2 := by
  unfold makeSocket; split <;> exact stamps_modClient_of_eq (by intro; exact ⟨rfl, rfl⟩)

theorem stamps_connectNext (l : List Nat) (a : Option Nat) : Stamps c (c.connectNext i l a).2 := by
  induction l generalizing c a with
  | nil => exact Stamps.refl c
  | cons x l ih =>
    have h : Stamps c (makeSocket i (c.modClient i ({ · with nextAddr := l }))).2 :=
      (stamps_modClient_of_eq (by intro; exact ⟨rfl, rfl⟩)).trans stamps_makeSocket
    unfold connectNext; dsimp only; split
    · exact h
    · exact h.trans (ih _)

theorem stamps_connectPhase : Stamps c (c.connectPhase cfg i) := by
  unfold connectPhase; split
  · exact stamps_modCstat (by intro cs _; exact ClientStat.Stamped.restartTimes cs)
  · split <;> exact Stamps.of_parts rfl rfl rfl rfl

theorem stamps_openSocket : Stamps c (c.openSocket i).2 := by
  unfold openSocket; split
  · exact stamps_makeSocket
  · dsimp only; split
    · exact stamps_connectNext _ _
    · exact (stamps_connectNext _ _).trans (stamps_modClient_of_eq (by intro; exact ⟨rfl, rfl⟩))

theorem stamps_connect : Stamps c (c.connect cfg i).2 := by
  have h : Stamps c ((c.connectPhase cfg i).restartTimeout cfg i |>.openSocket i).2 :=
    stamps_connectPhase.trans (stamps_restartTimeout.trans stamps_openSocket)
  unfold connect; dsimp only; split
  · exact h.trans (stamps_modClient_of_eq (by intro; exact ⟨rfl, rfl⟩))
  · exact h

theorem stamps_terminateSession : Stamps c (c.terminateSession i) :=
  (stamps_modClient_of_eq (by intro; exact ⟨rfl, rfl⟩)).trans stamps_signalWrite

-- The request a session accepts is stamped with the clock.
theorem stamps_sessionSubmit : Stamps c (c.sessionSubmit i).2 := by
  unfold sessionSubmit; split
  · exact Stamps.refl c
  · split
    · refine stamps_modClient fun cl h => ⟨fun e he => ?_, h.cstat⟩
      rcases mem_insert_entries he with rfl | he
      · exact le_rfl
      · exact h.streams e he
    · exact Stamps.of_parts rfl rfl rfl rfl

theorem stamps_gate : Stamps c (c.gate cfg i).2 := by
  unfold gate; split
  · split <;> exact Stamps.of_parts rfl rfl rfl rfl
  · dsimp only; split
    · exact stamps_loadLeft
    · split <;> exact stamps_loadLeft.trans (Stamps.of_parts rfl rfl rfl rfl)

theorem stamps_countStarted : Stamps c (c.countStarted cfg i) := by
  have h : Stamps c ((c.modStats fun st => { st with reqStarted := st.reqStarted + 1 }).modClient i
      fun cl => { cl with reqStarted := cl.reqStarted + 1, reqInflight := cl.reqInflight + 1 }) :=
    (stamps_modStats rfl rfl).trans (stamps_modClient_of_eq (by intro; exact ⟨rfl, rfl⟩))
  unfold countStarted; dsimp only; split
  · exact h.trans (stamps_modClient_of_eq (by intro; exact ⟨rfl, rfl⟩))
  · exact h

theorem stamps_submitPassed : Stamps c (c.submitPassed cfg i).2 := by
  have h : Stamps c ({ c with g.totalReqSend := c.g.totalReqSend + 1 }.sessionSubmit i).2 :=
    (Stamps.of_parts (by rfl) (by rfl) (by rfl) (by rfl)).trans stamps_sessionSubmit
  unfold submitPassed; dsimp only; split
  · exact h
  · split
    · exact h.trans stamps_countStarted
    · exact h

theorem stamps_submitRequest : Stamps c (c.submitRequest cfg i).2 := by
  unfold submitRequest; dsimp only; split
  · exact stamps_gate
  · exact stamps_gate
  · exact stamps_gate.trans stamps_submitPassed

theorem stamps_recordRtt {rtt : Nat} : Stamps c (c.recordRtt rtt) := Stamps.of_parts rfl rfl rfl rfl

theorem stamps_keepReqStat {rs : RequestStat} (hrs : rs.requestTime ≤ rs.streamCloseTime) :
    Stamps c (c.modStats fun s => { s with reqStats := s.reqStats ++ [rs] }) :=
  fun h => ⟨rfl, h.clients, fun r hr => (List.mem_append.mp hr).elim (h.reqStats r)
    fun hr => (List.mem_singleton.mp hr) ▸ hrs, h.clientStats⟩

-- A close keeps the stream's `RequestStat` with the clock as its close time.
theorem stamps_recordClose {st : Stream} {success : Bool} (hst : st.reqStat.requestTime ≤ c.g.now) :
    Stamps c (c.recordClose i st success) := by
  unfold recordClose; dsimp only
  refine Stamps.trans ?_ ((stamps_modStats rfl rfl).trans
    ((stamps_modClient_of_eq (by intro; exact ⟨rfl, rfl⟩)).trans stamps_recordRtt))
  split
  · refine Stamps.trans ?_ (stamps_keepReqStat hst)
    split <;> exact ((stamps_modStats rfl rfl).trans
      (stamps_modCstat (by intro _ h; exact ⟨h.1, h.2, h.3⟩))).trans (stamps_modStats rfl rfl)
  · exact stamps_modStats rfl rfl

theorem stamps_replenish {final : Bool} : Stamps c (c.replenish cfg i final) := by
  unfold replenish; dsimp only; split
  · exact stamps_loadLeft.trans stamps_terminateSession
  · split
    · exact stamps_loadLeft
    · split
      · exact stamps_loadLeft.trans stamps_submitRequest
      · exact stamps_loadLeft.trans (stamps_submitRequest.trans stamps_processRequestFailure)

theorem stamps_closeTail {final : Bool} : Stamps c (c.closeTail cfg i sid final) :=
  (stamps_modClient (by intro _ h; exact ⟨fun e he => h.streams e (mem_erase_entries he), h.cstat⟩)).trans
    stamps_replenish

theorem stamps_onStreamClose {success final : Bool} :
    Stamps c (c.onStreamClose cfg i sid success final) := by
  unfold onStreamClose; split
  · dsimp only; split
    · exact stamps_modClient_of_eq (by intro; exact ⟨rfl, rfl⟩)
    · next st hl =>
      exact (stamps_modClient_of_eq (by intro; exact ⟨rfl, rfl⟩)).trans
        ((Stamps.of_imp fun h => stamps_recordClose ((h.client i).lookup hl)).trans stamps_closeTail)
  · exact stamps_closeTail

theorem stamps_submitInitial (n : Nat) : Stamps c (c.submitInitial cfg i n) := by
  induction n generalizing c with
  | zero => exact Stamps.refl c
  | succ n ih =>
    unfold submitInitial; dsimp only; split
    · exact stamps_submitRequest.trans ih
    · exact stamps_submitRequest.trans stamps_processRequestFailure

theorem stamps_connectionMade : Stamps c (c.connectionMade cfg i).2 := by
  unfold connectionMade; split
  · exact stamps_disconnect
  · exact ((stamps_modClient_of_eq (by intro; exact ⟨rfl, rfl⟩)).trans
      (stamps_modCstat (by intro _ h; exact h.recordConnectTime))).trans
      ((stamps_submitInitial _).trans stamps_signalWrite)

theorem stamps_tryAgainOrFail : Stamps c (c.tryAgainOrFail cfg i).2 := by
  unfold tryAgainOrFail; dsimp only; split
  · have h : Stamps c ((c.disconnect i).modClient i
        ({ · with newConnectionRequested := false })).loadLeft.2 :=
      stamps_disconnect.trans ((stamps_modClient_of_eq (by intro; exact ⟨rfl, rfl⟩)).trans stamps_loadLeft)
    split
    · split
      · exact h.trans (stamps_processAbandonedStreams.trans stamps_connect)
      · exact h.trans
          ((stamps_processAbandonedStreams.trans stamps_connect).trans stamps_processAbandonedStreams)
    · exact h.trans stamps_processAbandonedStreams
  · exact stamps_fail

theorem stamps_tlsHandshake : Stamps c (c.tlsHandshake cfg i).2 := by
  unfold tlsHandshake; split
  · exact stamps_modClient_of_eq (by intro; exact ⟨rfl, rfl⟩)
  · exact stamps_modClient_of_eq (by intro; exact ⟨rfl, rfl⟩)
  · exact Stamps.of_parts rfl rfl rfl rfl
  · exact (Stamps.of_parts (by rfl) (by rfl) (by rfl) (by rfl)).trans
      ((stamps_modClient_of_eq (by intro; exact ⟨rfl, rfl⟩)).trans stamps_connectionMade)

theorem stamps_connected : Stamps c (c.connected cfg i).2 := by
  unfold connected; split
  · exact Stamps.refl c
  · dsimp only; split
    · exact (stamps_modClient_of_eq (by intro; exact ⟨rfl, rfl⟩)).trans
        ((stamps_modClient_of_eq (by intro; exact ⟨rfl, rfl⟩)).trans stamps_tlsHandshake)
    · exact (stamps_modClient_of_eq (by intro; exact ⟨rfl, rfl⟩)).trans
        ((stamps_modClient_of_eq (by intro; exact ⟨rfl, rfl⟩)).trans stamps_connectionMade)

theorem stamps_onRead {len : Nat} : Stamps c (c.onRead i len) := by
  unfold onRead
  refine Stamps.trans ?_ stamps_signalWrite
  split
  · exact stamps_modStats (by rfl) (by rfl)
  · exact Stamps.refl c

theorem stamps_doWrite : Stamps c (c.doWrite cfg i).2 := by
  unfold doWrite writeSteady; split
  · exact stamps_connected
  · exact stamps_tlsHandshake
  all_goals split
  all_goals first
    | exact stamps_modClient_of_eq (by intro; exact ⟨rfl, rfl⟩)
    | exact Stamps.refl c

theorem stamps_doRead : Stamps c (c.doRead cfg i).2 := by
  unfold doRead readSteady; split
  · exact Stamps.refl c
  · exact stamps_tlsHandshake
  all_goals split <;> exact stamps_onRead

theorem stamps_writecb : Stamps c (c.writecb cfg i) := by
  have h : Stamps c ((c.restartTimeout cfg i).doWrite cfg i).2 := stamps_restartTimeout.trans stamps_doWrite
  have hc (c : Ctx) : Stamps c ((c.disconnect i).modClient i ({ · with currentAddr := none })) :=
    stamps_disconnect.trans (stamps_modClient_of_eq (by intro; exact ⟨rfl, rfl⟩))
  unfold writecb; dsimp only; split
  · split
    · exact h.trans ((hc _).trans stamps_connect)
    · exact h.trans ((hc _).trans (stamps_connect.trans stamps_fail))
  · split
    · exact h.trans stamps_fail
    · exact h

theorem stamps_readcb : Stamps c (c.readcb cfg i) := by
  have h : Stamps c ((c.restartTimeout cfg i).doRead cfg i).2 := stamps_restartTimeout.trans stamps_doRead
  unfold readcb; dsimp only; split
  · exact h.trans stamps_tryAgainOrFail
  · exact h.trans stamps_writecb

theorem stamps_classifyStatus {s : Nat} : Stamps c (c.classifyStatus i sid s) := by
  unfold classifyStatus; dsimp only
  split_ifs <;> first
    | exact (stamps_modStats (by rfl) (by rfl)).trans (stamps_modStream (by intro; rfl))
    | exact stamps_modStream (by intro; rfl)

theorem stamps_markWarmUp : Stamps c (c.markWarmUp i sid) := stamps_modStream (by intro; rfl)

theorem stamps_onHeader {name value : List UInt8} : Stamps c (c.onHeader i sid name value) := by
  unfold onHeader; split
  · exact Stamps.refl c
  · split
    · exact stamps_markWarmUp
    · split
      · split
        · exact stamps_modStream (by intro; rfl)
        · exact stamps_classifyStatus
      · exact Stamps.refl c

theorem stamps_onStatusCode {s : UInt16} : Stamps c (c.onStatusCode i sid s) := by
  unfold onStatusCode; split
  · exact Stamps.refl c
  · split
    · exact stamps_markWarmUp
    · exact stamps_classifyStatus

theorem stamps_onSofarpcStatus {s : UInt16} : Stamps c (c.onSofarpcStatus i sid s) := by
  unfold onSofarpcStatus; split
  · exact Stamps.refl c
  · split
    · exact stamps_markWarmUp
    · exact (stamps_modStream (by intro; rfl)).trans (stamps_modStats (by rfl) (by rfl))

theorem stamps_connTimeoutCb {b : Bool} : Stamps c (c.connTimeoutCb i b) := by
  unfold connTimeoutCb; dsimp only; split
  · exact (stamps_modClient_of_eq (by intro; exact ⟨rfl, rfl⟩)).trans stamps_timeout
  · exact stamps_modClient_of_eq (by intro; exact ⟨rfl, rfl⟩)

-- The warm-up restarts every connection's timing at the clock.
theorem stamps_warmupTimeoutCb : Stamps c c.warmupTimeoutCb := by
  refine fun h => ⟨rfl, fun cl hc => ?_, h.reqStats, h.clientStats⟩
  obtain ⟨cl, hcl, rfl⟩ := List.mem_map.mp hc
  exact ⟨(h.clients cl hcl).streams, ClientStat.Stamped.restartTimes _⟩

theorem stamps_processClientStat {cs : ClientStat} (hcs : c.w.Stamped c.g.now → cs.Stamped c.g.now) :
    Stamps c (c.processClientStat cs) :=
  fun h => ⟨rfl, h.clients, h.reqStats, fun x hx => (List.mem_append.mp hx).elim (h.clientStats x)
    fun hx => (List.mem_singleton.mp hx) ▸ hcs h⟩

theorem stamps_stopClient (i : Nat) : Stamps c (c.stopClient i) := by
  have h : Stamps c (c.modCstat i (Client.recordClientEndTime c.g.now)) :=
    stamps_modCstat (by intro _ h; exact h.recordClientEndTime _)
  unfold stopClient; dsimp only
  split
  · exact h.trans ((stamps_terminateSession.trans stamps_disconnect).trans
      (stamps_processClientStat fun hs => (hs.client i).cstat))
  · exact h.trans (stamps_processClientStat fun hs => (hs.client i).cstat)

theorem stamps_stopAllClients : Stamps c c.stopAllClients := by
  unfold stopAllClients
  generalize List.range c.w.clients.length = l
  induction l generalizing c with
  | nil => exact Stamps.refl c
  | cons j l ih => exact (stamps_stopClient j).trans ih

theorem stamps_durationTimeoutCb : Stamps c c.durationTimeoutCb := by
  have h : Stamps c { c with g.totalReqLeft := 0, w.phase := .durationOver,
                             w.durationWatcher := false, w.qpsUpdater := false } :=
    Stamps.of_parts rfl rfl rfl rfl
  exact (h.trans stamps_stopAllClients).trans (Stamps.of_parts rfl rfl rfl rfl)

theorem stamps_drainBlocked (n : Nat) : Stamps c (c.drainBlocked cfg n) := by
  induction n generalizing c with
  | zero => exact Stamps.refl c
  | succ n ih =>
    unfold drainBlocked; split
    · exact Stamps.refl c
    · next j rest _ =>
      split
      · exact Stamps.refl c
      · have h : Stamps c ({ c with w.clientsBlockedDueToQps := rest }.submitRequest cfg j).2 :=
          (Stamps.of_parts (by rfl) (by rfl) (by rfl) (by rfl)).trans stamps_submitRequest
        refine Stamps.trans ?_ ih
        split
        · exact h.trans stamps_signalWrite
        · exact h.trans (stamps_processRequestFailure.trans stamps_signalWrite)

theorem stamps_updateWorkerQpsLeft : Stamps c (c.updateWorkerQpsLeft cfg) := by
  unfold updateWorkerQpsLeft; dsimp only
  refine Stamps.trans ?_ (stamps_drainBlocked _)
  split <;> exact Stamps.of_parts rfl rfl rfl rfl

-- `Worker::run` adds a connection that has stamped nothing yet.
theorem stamps_addClient {ss : List (Option Nat)} :
    Stamps c { c with w.clients := c.w.clients ++ [Client.create c.w.nextClientId cfg.addrs],
                      w.nextClientId := c.w.nextClientId + 1, w.nconnsMade := c.w.nconnsMade + 1,
                      ans := { sockets := ss } } := by
  refine Stamps.of_clients (fun cl hcl => ?_) rfl rfl rfl
  rcases List.mem_append.mp hcl with hcl | hcl
  · exact .inl hcl
  · rw [List.mem_singleton.mp hcl]; exact .inr fun _ => Client.Stamped.create _ _

-- A connection whose connect failed is dropped.
theorem stamps_takeClients (k : Nat) : Stamps c { c with w.clients := c.w.clients.take k } :=
  Stamps.of_clients (fun _ hcl => .inl (List.take_subset _ _ hcl)) rfl rfl rfl

theorem stamps_runClients : ∀ (n : Nat) (socks : List (List (Option Nat))) {c : Ctx},
    Stamps c (c.runClients cfg n socks)
  | 0, _, c => Stamps.refl c
  | n + 1, socks, c => by
    unfold runClients; dsimp only; split
    · exact (stamps_addClient.trans stamps_connect).trans (stamps_runClients n _)
    · exact ((stamps_addClient.trans (stamps_connect.trans stamps_fail)).trans (stamps_takeClients _)).trans
        (stamps_runClients n _)

end Ctx

-- Every callback keeps the worker's stamps no later than the clock.
theorem Event.stamps_dispatch {cfg : Config} {c : Ctx} (e : Event) : c.Stamps (e.dispatch cfg c) := by
  cases e with
  | readcb => exact Ctx.stamps_readcb
  | writecb => exact Ctx.stamps_writecb
  | connTimeout => exact Ctx.stamps_connTimeoutCb
  | onHeader => exact Ctx.stamps_onHeader
  | onStatusCode => exact Ctx.stamps_onStatusCode
  | onSofarpcStatus => exact Ctx.stamps_onSofarpcStatus
  | onStreamClose => exact Ctx.stamps_onStreamClose
  | tryNewConnection => exact Ctx.stamps_modClient_of_eq (by intro; exact ⟨rfl, rfl⟩)
  | recordTtfb => exact Ctx.stamps_modCstat (by intro _ h; exact h.recordTtfb)
  | warmupTimeout => exact Ctx.stamps_warmupTimeoutCb
  | durationTimeout => exact Ctx.stamps_durationTimeoutCb
  | qpsTick => exact Ctx.stamps_updateWorkerQpsLeft

theorem Worker.stamped_create (cfg : Config) (id n : Nat) (rands : List Nat) :
    (Worker.create cfg id n rands).Stamped now :=
  ⟨fun _ h => absurd h (List.not_mem_nil _), fun _ h => absurd h (List.not_mem_nil _),
    fun _ h => absurd h (List.not_mem_nil _)⟩

theorem Worker.stamped_run {cfg : Config} (socks : List (List (Option Nat))) (g : Globals) (w : Worker)
    (h : w.Stamped g.now) : (Worker.run cfg socks g w).Stamped g.now :=
  (@Ctx.stamps_runClients cfg w.nclients socks ⟨w, g, {}⟩ h).2

namespace System

variable {cfg : Config} {s : System}

theorem now_le_step (a : Action) : s.now ≤ (System.step cfg s a).now := by
  cases a with
  | event k e => simp only [System.step]; split <;> exact le_rfl
  | load k => exact le_rfl
  | tick => exact Nat.le_succ _

-- The clock of the process only moves forward and every callback stamps with it, so at every
-- reachable state, whatever the interleaving of the threads, no stamp a worker holds is later
-- than the clock.
theorem Reachable.stamped (h : Reachable cfg s) : ∀ w ∈ s.workers, w.Stamped s.now := by
  induction h with
  | init rands socks =>
    intro w hw
    obtain ⟨i, -, rfl⟩ := List.mem_mapIdx.mp hw
    exact Worker.stamped_run (socks i) ⟨cfg.budget, 0, 0, none⟩ _ (Worker.stamped_create _ _ _ _)
  | @step s a _ _ ih =>
    intro w hw
    refine Worker.Stamped.mono ?_ (now_le_step a)
    cases a with
    | event k e =>
      simp only [System.step] at hw
      split at hw
      · next v hk =>
        rcases List.mem_or_eq_of_mem_set hw with hw | rfl
        · exact ih w hw
        · exact (@Event.stamps_dispatch cfg ⟨v, s.view k, e.answers⟩ e (ih v (List.getElem?_mem hk))).2
      · exact ih w hw
    | load k => exact ih w hw
    | tick => exact ih w hw

end System

end Sofaload
