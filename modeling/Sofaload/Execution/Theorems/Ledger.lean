import Sofaload.Execution.Theorems.Phase

namespace Sofaload

-- The counters the final report is computed from: the outcomes of the requests, the
-- `RequestStat`s kept for `process_time_stats`, and the latency samples kept for the
-- distribution.
structure Books where
  reqSuccess : Nat
  reqStatusSuccess : Nat
  reqFailed : Nat
  reqError : Nat
  reqDone : Nat
  reqTimedout : Nat
  reqStats : List RequestStat
  rtts : List Nat

def Counters.books (k : Counters) : Books :=
  ⟨k.reqSuccess, k.reqStatusSuccess, k.reqFailed, k.reqError, k.reqDone, k.reqTimedout, k.reqStats,
    k.rtts⟩

-- How `on_stream_close`, `process_abandoned_streams` and `process_timedout_streams` keep the
-- books: one `RequestStat` per success, each of a completed request; one latency sample per
-- counted close; a success is either status-successful or failed, and a failed close or an
-- abandoned request is both failed and errored; a close is a success or an error; a timed-out
-- request is also abandoned.
structure Books.Balanced (b : Books) : Prop where
  completed : ∀ rs ∈ b.reqStats, rs.completed = true
  samples : b.reqStats.length = b.reqSuccess
  rtts : b.rtts.length = b.reqDone
  outcome : b.reqStatusSuccess + b.reqFailed = b.reqSuccess + b.reqError
  done : b.reqDone ≤ b.reqSuccess + b.reqError
  timedout : b.reqTimedout ≤ b.reqError

namespace Books.Balanced

variable {b : Books} (h : b.Balanced)
include h

-- `n` requests abandoned, of which `m` timed out.
theorem abandon (n m : Nat) (hm : m ≤ n) :
    ({ b with reqTimedout := b.reqTimedout + m, reqFailed := b.reqFailed + n,
              reqError := b.reqError + n } : Books).Balanced :=
  ⟨h.completed, h.samples, h.rtts, by have := h.outcome; dsimp only; omega,
    by have := h.done; dsimp only; omega, by have := h.timedout; dsimp only; omega⟩

-- A close counted in the main phase: a success keeps its `RequestStat` and is status-successful
-- or not, a failure is an error.
theorem close (rs : RequestStat) (hrs : rs.completed = true) (success ok : Bool) (rtt : Nat) :
    ({ reqSuccess := b.reqSuccess + if success then 1 else 0
       reqStatusSuccess := b.reqStatusSuccess + if success && ok then 1 else 0
       reqFailed := b.reqFailed + if success && ok then 0 else 1
       reqError := b.reqError + if success then 0 else 1
       reqDone := b.reqDone + 1
       reqTimedout := b.reqTimedout
       reqStats := if success then b.reqStats ++ [rs] else b.reqStats
       rtts := b.rtts ++ [rtt] } : Books).Balanced := by
  have := h.outcome; have := h.done; have := h.timedout; have := h.samples
  refine ⟨fun r hr => ?_, ?_, by simp [h.rtts], ?_, ?_, ?_⟩
  · cases success <;> simp only [if_false, if_true, List.mem_append, List.mem_singleton] at hr
    · exact h.completed r hr
    · rcases hr with hr | rfl
      · exact h.completed r hr
      · exact hrs
  all_goals cases success <;> cases ok <;> simp <;> omega

end Books.Balanced

namespace Ctx

-- `c'` follows `c` by code that keeps the books balanced.
def Keeps (c c' : Ctx) : Prop := c.w.counters.books.Balanced → c'.w.counters.books.Balanced

variable {cfg : Config} {c c₁ c₂ c₃ : Ctx} {i sid : Nat}

namespace Keeps

theorem refl (c : Ctx) : Keeps c c := id

theorem trans (h₁ : Keeps c₁ c₂) (h₂ : Keeps c₂ c₃) : Keeps c₁ c₃ := h₂ ∘ h₁

theorem of_books (h : c₂.w.counters.books = c₁.w.counters.books) : Keeps c₁ c₂ :=
  fun hb => h ▸ hb

end Keeps

theorem Frame.keeps (h : Frame c₁ c₂) : Keeps c₁ c₂ := Keeps.of_books (congrArg Counters.books h.2)

theorem keeps_modClient {f : Client → Client} : Keeps c (c.modClient i f) := Keeps.of_books rfl

theorem keeps_setClients {l : List Client} : Keeps c { c with w.clients := l } := Keeps.of_books rfl

theorem keeps_processAbandonedStreams : Keeps c (c.processAbandonedStreams i) := by
  unfold processAbandonedStreams; split
  · exact fun hb => hb.abandon _ 0 (Nat.zero_le _)
  · exact Keeps.refl c

theorem keeps_processTimedoutStreams : Keeps c (c.processTimedoutStreams i) := by
  unfold processTimedoutStreams; split
  · next hm =>
    intro hb
    have := hb.abandon (c.client i).reqInflight (c.client i).reqInflight le_rfl
    unfold processAbandonedStreams; rw [if_pos (show (c.modStats _).w.phase = _ from hm)]; exact this
  · exact Keeps.refl c

theorem keeps_fail : Keeps c (c.fail i) := frame_disconnect.keeps.trans keeps_processAbandonedStreams

theorem keeps_timeout : Keeps c (c.timeout i) :=
  keeps_processTimedoutStreams.trans frame_disconnect.keeps

theorem keeps_connectPhase : Keeps c (c.connectPhase cfg i) := by
  unfold connectPhase; split
  · exact frame_modCstat.keeps
  · split <;> exact Keeps.of_books rfl

theorem keeps_connect : Keeps c (c.connect cfg i).2 := by
  have h : Keeps c ((c.connectPhase cfg i).restartTimeout cfg i |>.openSocket i).2 :=
    keeps_connectPhase.trans (frame_restartTimeout.trans frame_openSocket).keeps
  unfold connect; dsimp only; split
  · exact h.trans keeps_modClient
  · exact h

theorem keeps_submitPassed : Keeps c (c.submitPassed cfg i).2 := by
  have hc (c : Ctx) : Keeps c (c.countStarted cfg i) := by
    unfold countStarted; split <;> exact Keeps.of_books rfl
  have h : Keeps c ({ c with g.totalReqSend := c.g.totalReqSend + 1 }.sessionSubmit i).2 :=
    Frame.keeps (Frame.trans ⟨rfl, rfl⟩ frame_sessionSubmit)
  unfold submitPassed; dsimp only; split
  · exact h
  · split
    · exact h.trans (hc _)
    · exact h

theorem keeps_submitRequest : Keeps c (c.submitRequest cfg i).2 := by
  unfold submitRequest; dsimp only; split
  · exact frame_gate.keeps
  · exact frame_gate.keeps
  · exact frame_gate.keeps.trans keeps_submitPassed

theorem keeps_replenish {final : Bool} : Keeps c (c.replenish cfg i final) := by
  unfold replenish; dsimp only; split
  · exact (frame_loadLeft.trans frame_terminateSession).keeps
  · split
    · exact frame_loadLeft.keeps
    · split
      · exact frame_loadLeft.keeps.trans keeps_submitRequest
      · exact frame_loadLeft.keeps.trans (keeps_submitRequest.trans frame_processRequestFailure.keeps)

theorem keeps_recordClose {st : Stream} {success : Bool} : Keeps c (c.recordClose i st success) := by
  intro hb
  have := hb.close { st.reqStat with streamCloseTime := c.g.now, completed := true } rfl success
    (st.statusSuccess = 1) (c.g.now - st.reqStat.requestTime)
  unfold recordClose; cases success
  · exact this
  · by_cases hs : st.statusSuccess = 1
    · simp only [hs, if_true, Bool.true_and, decide_True] at this ⊢; exact this
    · simp only [hs, if_false, Bool.true_and, decide_False] at this ⊢; exact this

theorem keeps_onStreamClose {success final : Bool} :
    Keeps c (c.onStreamClose cfg i sid success final) := by
  have ht (c : Ctx) : Keeps c (c.closeTail cfg i sid final) := keeps_modClient.trans keeps_replenish
  unfold onStreamClose; split
  · dsimp only; split
    · exact keeps_modClient
    · exact keeps_modClient.trans (keeps_recordClose.trans (ht _))
  · exact ht c

theorem keeps_submitInitial (n : Nat) : Keeps c (c.submitInitial cfg i n) := by
  induction n generalizing c with
  | zero => exact Keeps.refl c
  | succ n ih =>
    unfold submitInitial; dsimp only; split
    · exact keeps_submitRequest.trans ih
    · exact keeps_submitRequest.trans frame_processRequestFailure.keeps

theorem keeps_connectionMade : Keeps c (c.connectionMade cfg i).2 := by
  unfold connectionMade; split
  · exact frame_disconnect.keeps
  · exact (keeps_modClient.trans keeps_modClient).trans
      ((keeps_submitInitial _).trans frame_signalWrite.keeps)

theorem keeps_tryAgainOrFail : Keeps c (c.tryAgainOrFail cfg i).2 := by
  unfold tryAgainOrFail; dsimp only; split
  · have h : Keeps c ((c.disconnect i).modClient i
        ({ · with newConnectionRequested := false })).loadLeft.2 :=
      (frame_disconnect.trans ((frame_modClient (by intro; rfl)).trans frame_loadLeft)).keeps
    split
    · split
      · exact h.trans (keeps_processAbandonedStreams.trans keeps_connect)
      · exact h.trans
          ((keeps_processAbandonedStreams.trans keeps_connect).trans keeps_processAbandonedStreams)
    · exact h.trans keeps_processAbandonedStreams
  · exact keeps_fail

theorem keeps_tlsHandshake : Keeps c (c.tlsHandshake cfg i).2 := by
  unfold tlsHandshake; split
  · exact keeps_modClient
  · exact keeps_modClient
  · exact Keeps.refl c
  · exact (Keeps.of_books (by rfl)).trans (keeps_modClient.trans keeps_connectionMade)

theorem keeps_connected : Keeps c (c.connected cfg i).2 := by
  unfold connected; split
  · exact Keeps.refl c
  · dsimp only; split
    · exact keeps_modClient.trans (keeps_modClient.trans keeps_tlsHandshake)
    · exact keeps_modClient.trans (keeps_modClient.trans keeps_connectionMade)

theorem keeps_onRead {len : Nat} : Keeps c (c.onRead i len) := by
  unfold onRead; split <;> exact Keeps.of_books rfl

theorem keeps_doWrite : Keeps c (c.doWrite cfg i).2 := by
  unfold doWrite; split
  · exact keeps_connected
  · exact keeps_tlsHandshake
  all_goals exact frame_writeSteady.keeps

theorem keeps_doRead : Keeps c (c.doRead cfg i).2 := by
  unfold doRead readSteady; split
  · exact Keeps.refl c
  · exact keeps_tlsHandshake
  all_goals split <;> exact keeps_onRead

theorem keeps_writecb : Keeps c (c.writecb cfg i) := by
  have h : Keeps c ((c.restartTimeout cfg i).doWrite cfg i).2 :=
    frame_restartTimeout.keeps.trans keeps_doWrite
  have hc (c : Ctx) : Keeps c ((c.disconnect i).modClient i ({ · with currentAddr := none })) :=
    frame_disconnect.keeps.trans keeps_modClient
  unfold writecb; dsimp only; split
  · split
    · exact h.trans ((hc _).trans keeps_connect)
    · exact h.trans ((hc _).trans (keeps_connect.trans keeps_fail))
  · split
    · exact h.trans keeps_fail
    · exact h

theorem keeps_readcb : Keeps c (c.readcb cfg i) := by
  have h : Keeps c ((c.restartTimeout cfg i).doRead cfg i).2 :=
    frame_restartTimeout.keeps.trans keeps_doRead
  unfold readcb; dsimp only; split
  · exact h.trans keeps_tryAgainOrFail
  · exact h.trans keeps_writecb

-- The status callbacks count into the status buckets, which are not part of the books.
theorem keeps_classifyStatus {s : Nat} : Keeps c (c.classifyStatus i sid s) := by
  unfold classifyStatus; split_ifs <;> exact Keeps.of_books rfl

theorem keeps_onHeader {name value : List UInt8} : Keeps c (c.onHeader i sid name value) := by
  unfold onHeader; split
  · exact Keeps.refl c
  · split
    · exact keeps_modClient
    · split
      · split
        · exact keeps_modClient
        · exact keeps_classifyStatus
      · exact Keeps.refl c

theorem keeps_onStatusCode {s : UInt16} : Keeps c (c.onStatusCode i sid s) := by
  unfold onStatusCode; split
  · exact Keeps.refl c
  · split
    · exact keeps_modClient
    · exact keeps_classifyStatus

theorem keeps_onSofarpcStatus {s : UInt16} : Keeps c (c.onSofarpcStatus i sid s) := by
  unfold onSofarpcStatus; split
  · exact Keeps.refl c
  · split
    · exact keeps_modClient
    · exact Keeps.of_books rfl

theorem keeps_connTimeoutCb {b : Bool} : Keeps c (c.connTimeoutCb i b) := by
  unfold connTimeoutCb; dsimp only; split
  · exact keeps_modClient.trans keeps_timeout
  · exact keeps_modClient

theorem keeps_drainBlocked (n : Nat) : Keeps c (c.drainBlocked cfg n) := by
  induction n generalizing c with
  | zero => exact Keeps.refl c
  | succ n ih =>
    unfold drainBlocked; split
    · exact Keeps.refl c
    · next j rest _ =>
      split
      · exact Keeps.refl c
      · have h : Keeps c ({ c with w.clientsBlockedDueToQps := rest }.submitRequest cfg j).2 :=
          (Keeps.of_books (by rfl)).trans keeps_submitRequest
        refine Keeps.trans ?_ ih
        split
        · exact h.trans keeps_modClient
        · exact h.trans (frame_processRequestFailure.keeps.trans keeps_modClient)

theorem keeps_updateWorkerQpsLeft : Keeps c (c.updateWorkerQpsLeft cfg) := by
  unfold updateWorkerQpsLeft; dsimp only
  refine Keeps.trans ?_ (keeps_drainBlocked _)
  split <;> exact Keeps.of_books rfl

end Ctx

-- Every callback keeps the books balanced.
theorem Event.keeps_dispatch {cfg : Config} {c : Ctx} (e : Event) : c.Keeps (e.dispatch cfg c) := by
  cases e with
  | readcb => exact Ctx.keeps_readcb
  | writecb => exact Ctx.keeps_writecb
  | connTimeout => exact Ctx.keeps_connTimeoutCb
  | onHeader => exact Ctx.keeps_onHeader
  | onStatusCode => exact Ctx.keeps_onStatusCode
  | onSofarpcStatus => exact Ctx.keeps_onSofarpcStatus
  | onStreamClose => exact Ctx.keeps_onStreamClose
  | tryNewConnection => exact Ctx.keeps_modClient
  | recordTtfb => exact Ctx.keeps_modClient
  | warmupTimeout => exact Ctx.Keeps.of_books (congrArg Counters.books Ctx.counters_warmupTimeoutCb)
  | durationTimeout => exact Ctx.Keeps.of_books (congrArg Counters.books Ctx.counters_durationTimeoutCb)
  | qpsTick => exact Ctx.keeps_updateWorkerQpsLeft

namespace Worker

variable {cfg : Config}

theorem balanced_runClients : ∀ (n : Nat) (socks : List (List (Option Nat))) {c : Ctx},
    c.w.counters.books.Balanced → (c.runClients cfg n socks).w.counters.books.Balanced
  | 0, _, _, h => h
  | n + 1, socks, c, h => by
    unfold Ctx.runClients; dsimp only; split
    · exact balanced_runClients n _ (Ctx.keeps_connect h)
    · exact balanced_runClients n _ (Ctx.keeps_setClients (Ctx.keeps_fail (Ctx.keeps_connect h)))

-- In every reachable state the books the report reads are balanced.
theorem Reachable.balanced {w : Worker} (h : Reachable cfg w) : w.counters.books.Balanced := by
  induction h with
  | init =>
    refine balanced_runClients _ _ ⟨nofun, rfl, rfl, rfl, Nat.le_refl 0, Nat.le_refl 0⟩
  | step e g _ _ ih => exact @Event.keeps_dispatch cfg ⟨_, g, e.answers⟩ e ih

end Worker

end Sofaload
