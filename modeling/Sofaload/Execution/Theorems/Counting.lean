import Sofaload.Execution.Theorems.CountInv

namespace Sofaload

namespace Stats

-- One more response in status class `b` is one more in a successful bucket for 2xx and 3xx only.
theorem successful_bump (st : Stats) (b : Nat) :
    ({ st with status := Function.update st.status b (st.status b + 1) } : Stats).successful =
      st.successful + if b = 2 ∨ b = 3 then 1 else 0 := by
  simp only [successful, Function.update_apply]
  split_ifs <;> subst_vars <;> omega

theorem successful_bumpSofarpc (st : Stats) (b : Nat) :
    ({ st with sofarpcStatus := Function.update st.sofarpcStatus b (st.sofarpcStatus b + 1) } :
      Stats).successful = st.successful + if b = Ctx.responseStatusSuccess then 1 else 0 := by
  simp only [successful, Function.update_apply]
  split_ifs <;> subst_vars <;> omega

end Stats

namespace Ctx

variable {c : Ctx} {i : Nat}

-- A failed client keeps no request in flight and no open stream.
theorem fail_client (hp : c.w.phase = .mainDuration) (hi : i < c.w.clients.length) :
    ((c.fail i).client i).reqInflight = 0 ∧ ((c.fail i).client i).nsucceeded = 0 := by
  have hi' : i < (c.disconnect i).w.clients.length := lt_of_quiet frame_disconnect.quiet hi
  have hp' : (c.disconnect i).w.phase = .mainDuration :=
    (congrArg Ctl.phase (@frame_disconnect c i).1).trans hp
  refine ⟨?_, ?_⟩
  · unfold fail processAbandonedStreams; rw [if_pos hp']; dsimp only
    rw [modClient_client_self]; exact hi'
  · rw [Client.nsucceeded, fail, (processAbandonedStreams_client hi').2]
    unfold disconnect; rw [modClient_client_self]; exacts [rfl, by simpa [modCstat] using hi]

theorem recordClose_client {st : Stream} {success : Bool} (hi : i < c.w.clients.length) :
    ((c.recordClose i st success).client i).session = (c.client i).session ∧
      ((c.recordClose i st success).client i).streams = (c.client i).streams := by
  unfold recordClose; dsimp only; rw [recordRtt_client]
  split <;> (try split) <;> simp only [modCstat, modClient_client_self, modStats_client,
    modClient_clients, modStats_clients, List.length_modify, hi, and_self]

end Ctx

namespace Worker.CountInv

open Ctx

variable {cfg : Config} {c : Ctx} {i : Nat} {w w' : Worker}

-- `Client::connection_made` runs on a connection that is usable and has no session yet.
theorem connectionMade (h : c.w.CountInv) (hi : i < c.w.clients.length)
    (hs : (c.client i).session = none) (hio : (c.client i).io.connecting = false) :
    (c.connectionMade cfg i).2.w.CountInv := by
  have ok := h.clientOk hi
  unfold Ctx.connectionMade; split
  · exact h.disconnect hi
  · next p _ =>
    have h₁ : (c.modClient i fun cl =>
        { cl with session := some (Session.create cfg p), state := .connected }).w.CountInv :=
      h.modClient hi ⟨fun e => by simp at e, fun e => by simp [hio] at e,
        fun _ _ => by show (c.client i).nstreams ≤ _; rw [ok.noSession hs]; exact Nat.zero_le _,
        ok.inflight⟩ rfl le_rfl
    dsimp only
    refine same_signalWrite.countInv (@CountInv.submitInitial cfg i
      (Session.create cfg p).maxConcurrentStreams _ _ (same_modCstat.countInv h₁)
      (by simpa [modCstat] using hi) ?_ ?_)
    · simp only [modCstat, modClient_client_self, modClient_clients, List.length_modify, hi,
        Option.map_some']
    · simp only [modCstat, modClient_client_self, modClient_clients, List.length_modify, hi]
      show (c.client i).nstreams + _ ≤ _
      rw [ok.noSession hs, Nat.zero_add]

-- The handshake runs before the session exists.
theorem tlsHandshake (h : c.w.CountInv) (hi : i < c.w.clients.length)
    (hs : (c.client i).session = none) : (c.tlsHandshake cfg i).2.w.CountInv := by
  have ok := h.clientOk hi
  unfold Ctx.tlsHandshake; split <;> dsimp only
  · exact CountInv.modClient h hi (ok.of_shape rfl) rfl le_rfl
  · exact CountInv.modClient h hi (ok.of_shape rfl) rfl le_rfl
  · exact h
  · have h₁ : (({ c with ans.handshakes := c.ans.handshakes.tail } : Ctx).modClient i
        ({ · with wev := false, io := .tls })).w.CountInv :=
      h.modClient hi ⟨ok.noSession, nofun, ok.cap, ok.inflight⟩ rfl le_rfl
    exact h₁.connectionMade (by simpa using hi)
      (by rw [modClient_client_self]; exacts [hs, hi]) (by rw [modClient_client_self]; exacts [rfl, hi])

theorem connected (h : c.w.CountInv) (hi : i < c.w.clients.length)
    (hs : (c.client i).session = none) : (c.connected cfg i).2.w.CountInv := by
  have ok := h.clientOk hi
  unfold Ctx.connected; split
  · exact h
  · simp only [modClient_modClient]; split
    · have h₁ : (c.modClient i (({ · with io := .tlsHandshake }) ∘
          ({ · with rev := true, wev := false }))).w.CountInv :=
        h.modClient hi ⟨ok.noSession, fun _ => hs, ok.cap, ok.inflight⟩ rfl le_rfl
      exact h₁.tlsHandshake (by simpa using hi) (by rw [modClient_client_self hi]; exact hs)
    · have h₁ : (c.modClient i (({ · with io := .clear }) ∘
          ({ · with rev := true, wev := false }))).w.CountInv :=
        h.modClient hi ⟨ok.noSession, nofun, ok.cap, ok.inflight⟩ rfl le_rfl
      exact h₁.connectionMade (by simpa using hi) (by rw [modClient_client_self hi]; exact hs)
        (by rw [modClient_client_self hi]; rfl)

theorem doWrite (h : c.w.CountInv) (hi : i < c.w.clients.length) :
    (c.doWrite cfg i).2.w.CountInv := by
  have ok := h.clientOk hi
  unfold Ctx.doWrite; split
  · next e => exact h.connected hi (ok.connecting (by rw [e]; rfl))
  · next e => exact h.tlsHandshake hi (ok.connecting (by rw [e]; rfl))
  · exact same_writeSteady.countInv h
  · exact same_writeSteady.countInv h

-- Bytes read are counted in `bytes_total` only, which the invariant does not read.
theorem onRead {len : Nat} (h : c.w.CountInv) : (c.onRead i len).w.CountInv := by
  have h₁ : (c.modStats fun s => { s with bytesTotal := s.bytesTotal + len }).w.CountInv :=
    ⟨h.ctl, h.clients, h.started, h.statusSuccess, h.clientStats⟩
  unfold Ctx.onRead; rw [if_pos h.phase]
  exact Same.countInv h₁ same_signalWrite

theorem doRead (h : c.w.CountInv) (hi : i < c.w.clients.length) :
    (c.doRead cfg i).2.w.CountInv := by
  have ok := h.clientOk hi
  have hr : (c.readSteady i).2.w.CountInv := by unfold Ctx.readSteady; split <;> exact h.onRead
  unfold Ctx.doRead; split
  · exact h
  · next e => exact h.tlsHandshake hi (ok.connecting (by rw [e]; rfl))
  · exact hr
  · exact hr

-- A read error: the client is disconnected, its requests in flight are abandoned, and a
-- requested reconnection starts from a client without a session.
theorem tryAgainOrFail (h : c.w.CountInv) (hi : i < c.w.clients.length) :
    (c.tryAgainOrFail cfg i).2.w.CountInv := by
  have hd := h.disconnect hi
  have hid : i < (c.disconnect i).w.clients.length := lt_of_quiet frame_disconnect.quiet hi
  obtain ⟨hs, hn, -⟩ := disconnect_client hi
  unfold Ctx.tryAgainOrFail; dsimp only; split
  · have hsame : Same (c.disconnect i)
        ((c.disconnect i).modClient i ({ · with newConnectionRequested := false })).loadLeft.2 :=
      (same_modClient (by intro; rfl)).trans same_loadLeft
    have hi₁ := lt_of_same hsame hid
    have hn₁ := (hsame.nstreams i).trans hn
    have h₂ := (hsame.countInv hd).processAbandonedStreams hi₁ hn₁
    have hi₂ := lt_of_quiet (@quiet_processAbandonedStreams _ i) hi₁
    obtain ⟨hs₂, hst₂⟩ := processAbandonedStreams_client hi₁
    have hc := @CountInv.connect cfg _ i h₂ hi₂ (hs₂.trans ((hsame.session_streams i).1.trans hs))
    split
    · split
      · exact hc
      · refine hc.processAbandonedStreams (lt_of_quiet quiet_connect hi₂) ?_
        rw [Client.nstreams, (connect_client h₂.phase hi₂).2, hst₂]; exact hn₁
    · exact h₂
  · exact hd.processAbandonedStreams hid hn

theorem writecb (h : c.w.CountInv) (hi : i < c.w.clients.length) : (c.writecb cfg i).w.CountInv := by
  have hsame : Same c (c.restartTimeout cfg i) := same_restartTimeout
  have h₂ : ((c.restartTimeout cfg i).doWrite cfg i).2.w.CountInv :=
    (hsame.countInv h).doWrite (lt_of_same hsame hi)
  have hi₂ := lt_of_quiet (@quiet_doWrite cfg _ i) (lt_of_same hsame hi)
  unfold Ctx.writecb; dsimp only; split
  · have h₃ : (((c.restartTimeout cfg i).doWrite cfg i).2.disconnect i |>.modClient i
        ({ · with currentAddr := none })).w.CountInv :=
      Same.countInv (h₂.disconnect hi₂) (same_modClient fun _ => rfl)
    have hi₃ : i < (((c.restartTimeout cfg i).doWrite cfg i).2.disconnect i |>.modClient i
        ({ · with currentAddr := none })).w.clients.length := by
      simpa using lt_of_quiet frame_disconnect.quiet hi₂
    have h₄ := @CountInv.connect cfg _ i h₃ hi₃ (by
      rw [modClient_client_self (lt_of_quiet frame_disconnect.quiet hi₂)]
      exact (disconnect_client hi₂).1)
    split
    · exact h₄
    · exact h₄.fail (lt_of_quiet quiet_connect hi₃)
  · split
    · exact h₂.fail hi₂
    · exact h₂

theorem readcb (h : c.w.CountInv) (hi : i < c.w.clients.length) : (c.readcb cfg i).w.CountInv := by
  have hsame : Same c (c.restartTimeout cfg i) := same_restartTimeout
  have h₂ : ((c.restartTimeout cfg i).doRead cfg i).2.w.CountInv :=
    (hsame.countInv h).doRead (lt_of_same hsame hi)
  have hi₂ := lt_of_quiet (@quiet_doRead cfg _ i) (lt_of_same hsame hi)
  unfold Ctx.readcb; dsimp only; split
  · exact h₂.tryAgainOrFail hi₂
  · exact h₂.writecb hi₂

theorem connTimeoutCb {b : Bool} (h : c.w.CountInv) (hi : i < c.w.clients.length) :
    (c.connTimeoutCb i b).w.CountInv := by
  have h₁ : (c.modClient i ({ · with connInactivityWatcher := false, connActiveWatcher := false })).w.CountInv :=
    h.modClient hi ((h.clientOk hi).of_shape rfl) rfl le_rfl
  unfold Ctx.connTimeoutCb; dsimp only; split
  · exact h₁.timeout (by simpa using hi)
  · exact h₁

-- Updating one stream with the statistics: a stream classified successful anew comes with one
-- more response in a successful bucket.
theorem modStream {S : Stats → Stats} {f : Stream → Stream} {sid : Nat} (h : c.w.CountInv)
    (hi : i < c.w.clients.length)
    (hS : (S c.w.stats).reqStarted = c.w.stats.reqStarted ∧
      (S c.w.stats).reqSuccess = c.w.stats.reqSuccess ∧ (S c.w.stats).reqError = c.w.stats.reqError ∧
      (S c.w.stats).reqStatusSuccess = c.w.stats.reqStatusSuccess ∧
      (S c.w.stats).clientStats = c.w.stats.clientStats)
    (hmono : c.w.stats.successful ≤ (S c.w.stats).successful)
    (hf : ∀ st, (if (f st).statusSuccess = 1 then 1 else 0) + c.w.stats.successful ≤
      (if st.statusSuccess = 1 then 1 else 0) + (S c.w.stats).successful) :
    ((c.modStats S).modStream i sid f).w.CountInv := by
  have ok := h.clientOk hi
  obtain ⟨h₁, h₂, h₃, h₄, h₅⟩ := hS
  unfold Ctx.modStream
  rcases hl : (c.client i).streams.lookup sid with _ | st
  · refine h.update hi ?_ ?_ ?_ h₅ <;> simp only [hl]
    · exact ok
    · omega
    · omega
  · have hr : streamSum (fun st => if st.statusSuccess = 1 then 1 else 0)
        ((c.client i).streams.replace sid (f st)) + (if st.statusSuccess = 1 then 1 else 0) =
        (c.client i).nsucceeded + (if (f st).statusSuccess = 1 then 1 else 0) :=
      streamSum_replace hl
    have hn : ((c.client i).streams.replace sid (f st)).entries.length =
        (c.client i).streams.entries.length := length_replace hl
    have hf := hf st
    have hin := ok.inflight
    refine h.update hi ?_ ?_ ?_ h₅ <;> simp only [hl]
    · exact ok.mono rfl rfl (le_of_eq hn) (by simp only [Client.nstreams] at hin ⊢; omega)
    · omega
    · simp only [Client.nsucceeded] at hr ⊢; omega

-- A stream marked failed, with no count.
theorem modStream_fail {sid : Nat} {f : Stream → Stream} (h : c.w.CountInv)
    (hi : i < c.w.clients.length) (hf : ∀ st, (f st).statusSuccess = 0) :
    (c.modStream i sid f).w.CountInv := by
  have e : ((c.modStats fun st => st).modStream i sid f).w.CountInv :=
    h.modStream hi ⟨rfl, rfl, rfl, rfl, rfl⟩ le_rfl fun st => by rw [hf st]; split_ifs <;> omega
  exact e

theorem classifyStatus {sid s : Nat} (h : c.w.CountInv) (hi : i < c.w.clients.length) :
    (c.classifyStatus i sid s).w.CountInv := by
  have hb := Stats.successful_bump c.w.stats
  unfold Ctx.classifyStatus; dsimp only
  split_ifs
  any_goals
    exact h.modStream hi ⟨rfl, rfl, rfl, rfl, rfl⟩ (by simp only [hb]; omega)
      fun _ => by simp only [hb, true_or, or_true, if_true]; split_ifs <;> omega
  exact h.modStream_fail hi fun _ => rfl

theorem onHeader {sid : Nat} {name value : List UInt8} (h : c.w.CountInv)
    (hi : i < c.w.clients.length) : (c.onHeader i sid name value).w.CountInv := by
  unfold Ctx.onHeader; split
  · exact h
  · rw [if_neg (not_not.mpr h.phase)]
    split
    · split
      · exact h.modStream_fail hi fun _ => rfl
      · exact h.classifyStatus hi
    · exact h

theorem onStatusCode {sid : Nat} {status : UInt16} (h : c.w.CountInv)
    (hi : i < c.w.clients.length) : (c.onStatusCode i sid status).w.CountInv := by
  unfold Ctx.onStatusCode; split
  · exact h
  · rw [if_neg (not_not.mpr h.phase)]; exact h.classifyStatus hi

theorem onSofarpcStatus {sid : Nat} {status : UInt16} (h : c.w.CountInv)
    (hi : i < c.w.clients.length) : (c.onSofarpcStatus i sid status).w.CountInv := by
  have hb := Stats.successful_bumpSofarpc c.w.stats
  unfold Ctx.onSofarpcStatus; split
  · exact h
  · rw [if_neg (not_not.mpr h.phase), modStream_modStats]
    exact h.modStream hi ⟨rfl, rfl, rfl, rfl, rfl⟩ (by simp only [hb]; omega)
      fun _ => by simp only [hb, true_or, or_true, if_true]; split_ifs <;> omega

-- `Client::on_stream_close` for an open stream in the main phase, up to the erasure: the request
-- leaves the requests in flight and is counted as completed or errored.
theorem close {sid : Nat} {st : Stream} {success : Bool} (h : c.w.CountInv)
    (hi : i < c.w.clients.length) (hl : (c.client i).streams.lookup sid = some st) :
    (((c.modClient i fun cl => { cl with reqInflight := cl.reqInflight - 1 }).recordClose i st
      success).modClient i fun cl => { cl with streams := cl.streams.erase sid }).w.CountInv := by
  have ok := h.clientOk hi
  have hn : ((c.client i).streams.erase sid).entries.length + 1 = (c.client i).nstreams :=
    length_erase hl
  have hs : streamSum (fun st => if st.statusSuccess = 1 then 1 else 0)
      ((c.client i).streams.erase sid) + (if st.statusSuccess = 1 then 1 else 0) =
      (c.client i).nsucceeded := streamSum_erase hl
  have hin := ok.inflight
  unfold Ctx.recordClose; dsimp only
  rw [modClient_recordRtt]; refine Same.countInv ?_ same_recordRtt
  split <;> (try split) <;>
    simp only [modCstat, modClient_modStats, modClient_modClient, modStats_modStats] <;>
    refine h.update hi (ok.mono ?_ ?_ ?_ ?_) ?_ ?_ rfl <;>
    simp only [Function.comp_apply, Client.nstreams, Client.nsucceeded, Stats.successful] at hn hs hin ⊢ <;>
    split_ifs at hs <;> omega

-- The end of `Client::on_stream_close`: terminate the session, or submit a replacement into the
-- room the closed stream left.
theorem replenish {final : Bool} (h : c.w.CountInv) (hi : i < c.w.clients.length) (hr : c.Room i) :
    (c.replenish cfg i final).w.CountInv := by
  have h₁ := Same.countInv h same_loadLeft
  have hi₁ := lt_of_same same_loadLeft hi
  have hs := @CountInv.submitRequest cfg _ i h₁ hi₁ (same_loadLeft.room hr)
  unfold Ctx.replenish; dsimp only; split
  · exact h₁.terminateSession hi₁
  · split
    · exact h₁
    · split
      · exact hs
      · exact same_processRequestFailure.countInv hs

theorem onStreamClose {sid : Nat} {success final : Bool} (h : c.w.CountInv)
    (hi : i < c.w.clients.length) (hl : ((c.client i).streams.lookup sid).isSome) :
    (c.onStreamClose cfg i sid success final).w.CountInv := by
  have ok := h.clientOk hi
  unfold Ctx.onStreamClose; rw [if_pos h.phase]; dsimp only; split
  · next hnone =>
    rw [modClient_client_self hi] at hnone
    have e : (c.client i).streams.lookup sid = none := hnone
    simp [e] at hl
  · next st hst =>
    rw [modClient_client_self hi] at hst
    have hl' : (c.client i).streams.lookup sid = some st := hst
    have hiD : i < (c.modClient i fun cl => { cl with reqInflight := cl.reqInflight - 1 }).w.clients.length := by
      simpa using hi
    have hiY : i < ((c.modClient i fun cl => { cl with reqInflight := cl.reqInflight - 1 }).recordClose
        i st success).w.clients.length := by rw [length_recordClose]; exact hiD
    obtain ⟨e₁, e₂⟩ := @recordClose_client _ i st success hiD
    rw [modClient_client_self hi] at e₁ e₂
    unfold Ctx.closeTail
    refine (h.close hi hl').replenish (by simpa using hiY) fun s hs => ?_
    rw [modClient_client_self hiY] at hs ⊢
    have hn := length_erase hl'
    have hc := ok.cap s (e₁ ▸ hs)
    show ((((c.modClient i _).recordClose i st success).client i).streams.erase sid).entries.length < _
    rw [e₂]; show ((c.client i).streams.erase sid).entries.length < s.maxConcurrentStreams
    simp only [Client.nstreams] at hc; omega

-- Every callback the loop can dispatch keeps the invariant: in count mode the phase timers and
-- the QPS tick never run.
theorem dispatch {e : Event} (h : c.w.CountInv) (he : e.enabled c.w) :
    (e.dispatch cfg c).w.CountInv := by
  have hc := h.ctl
  simp only [Worker.ctl, Ctl.mk.injEq] at hc
  cases e <;> simp only [Event.enabled, Bool.and_eq_true, decide_eq_true_eq] at he
  case readcb => exact h.readcb he.1.2
  case writecb => exact h.writecb he.1.2
  case connTimeout => exact h.connTimeoutCb he.1.2
  case onHeader => exact h.onHeader he.1.2
  case onStatusCode => exact h.onStatusCode he.1.2
  case onSofarpcStatus => exact h.onSofarpcStatus he.1.2
  case onStreamClose => exact h.onStreamClose he.1.1.2 he.2
  case tryNewConnection i => exact h.modClient he.1.2 ((h.clientOk he.1.2).of_shape rfl) rfl le_rfl
  case recordTtfb => exact Same.countInv h same_modCstat
  case warmupTimeout => simp [hc.2.1] at he
  case durationTimeout => simp [hc.2.2.1] at he
  case qpsTick => simp [hc.2.2.2] at he

-- A client appended to the worker, fresh from `Client::Client`, carries nothing the invariant
-- counts; dropping the last client once it failed forgets nothing either.
theorem append {cl : Client} (h : w.CountInv) (hcl : cl.CountOk) (h0 : cl.reqInflight = 0)
    (h0' : cl.nsucceeded = 0) (hc : w'.ctl = w.ctl) (hs : w'.stats = w.stats)
    (hw : w'.clients = w.clients ++ [cl]) : w'.CountInv := by
  have e₁ : w'.inflight = w.inflight := by simp [Worker.inflight, hw, h0]
  have e₂ : w'.nsucceeded = w.nsucceeded := by simp [Worker.nsucceeded, hw, h0']
  refine ⟨hc.trans h.ctl, fun x hx => ?_, by rw [hs, e₁]; exact h.started,
    by rw [hs, e₂]; exact h.statusSuccess, by rw [hs]; exact h.clientStats⟩
  rw [hw, List.mem_append, List.mem_singleton] at hx
  rcases hx with hx | rfl
  exacts [h.clients x hx, hcl]

theorem take {k : Nat} (h : w.CountInv) (hk : w.clients.length = k + 1)
    (h0 : (w.client k).reqInflight = 0) (h0' : (w.client k).nsucceeded = 0) (hc : w'.ctl = w.ctl)
    (hs : w'.stats = w.stats) (hw : w'.clients = w.clients.take k) : w'.CountInv := by
  have e₁ : w'.inflight = w.inflight := by
    rw [Worker.inflight, hw]; exact List.sum_map_take_of_last _ hk h0
  have e₂ : w'.nsucceeded = w.nsucceeded := by
    rw [Worker.nsucceeded, hw]; exact List.sum_map_take_of_last _ hk h0'
  refine ⟨hc.trans h.ctl, fun x hx => h.clients x ?_, by rw [hs, e₁]; exact h.started,
    by rw [hs, e₂]; exact h.statusSuccess, by rw [hs]; exact h.clientStats⟩
  rw [hw] at hx; exact List.mem_of_mem_take hx

-- A new client of `Worker::run` is connected, or failed and dropped.
theorem connectOrDrop {k : Nat} (h : c.w.CountInv) (hk : c.w.clients.length = k + 1)
    (hs : (c.client k).session = none) :
    (c.connect cfg k).2.w.CountInv ∧ ({ (c.connect cfg k).2.fail k with
      w.clients := ((c.connect cfg k).2.fail k).w.clients.take k } : Ctx).w.CountInv := by
  have hl : k < c.w.clients.length := by omega
  have h₂ := @CountInv.connect cfg _ k h hl hs
  have hl₂ := lt_of_quiet (@quiet_connect cfg _ k) hl
  refine ⟨h₂, take (h₂.fail hl₂) ?_ (fail_client h₂.phase hl₂).1 (fail_client h₂.phase hl₂).2 rfl rfl
    rfl⟩
  rw [quiet_fail.2.2, quiet_connect.2.2, hk]

-- The loop of `Worker::run`.
theorem runClients : ∀ (n : Nat) (socks : List (List (Option Nat))) {c : Ctx}, c.w.CountInv →
    (c.runClients cfg n socks).w.CountInv
  | 0, _, _, h => h
  | n + 1, socks, c, h => by
    have hcl : (Client.create c.w.nextClientId cfg.addrs).CountOk :=
      ⟨fun _ => rfl, fun _ => rfl, fun _ e => Option.noConfusion e, Nat.le_refl 0⟩
    have h₁ : ({ c with
        w.clients := c.w.clients ++ [Client.create c.w.nextClientId cfg.addrs]
        w.nextClientId := c.w.nextClientId + 1
        w.nconnsMade := c.w.nconnsMade + 1
        ans := { sockets := socks.headD [] } } : Ctx).w.CountInv :=
      h.append hcl rfl rfl rfl rfl rfl
    have h₂ := @CountInv.connectOrDrop cfg _ c.w.clients.length h₁ (by simp)
      (by simp only [Ctx.client, Worker.client, List.getD_eq_getElem?_getD,
        List.getElem?_concat_length, Option.getD_some]; rfl)
    unfold Ctx.runClients; dsimp only; split
    · exact runClients n _ h₂.1
    · exact runClients n _ h₂.2

end Worker.CountInv

namespace Worker

variable {cfg : Config} {w : Worker}

theorem CountInv.create (hm : cfg.isTimingBasedMode = false) {id n : Nat} {rands : List Nat} :
    (Worker.create cfg id n rands).CountInv :=
  ⟨by simp [Worker.ctl, Worker.create, hm], fun _ h => by simp [Worker.create] at h,
    by simp [Worker.create, Stats.empty, inflight],
    by simp [Worker.create, Stats.empty, nsucceeded], rfl⟩

-- In count mode the invariant holds at every state a worker's loop reaches.
theorem Reachable.countInv (h : Reachable cfg w) (hm : cfg.isTimingBasedMode = false) :
    w.CountInv := by
  induction h with
  | init id n rands socks g => exact CountInv.runClients n socks (CountInv.create hm)
  | step e g _ he ih => rw [step_fst]; exact ih.dispatch he

end Worker

end Sofaload
