import Sofaload.Execution.Theorems.Quiet

namespace Sofaload

-- The state of a client and which of its watchers are active: the I/O watchers `rev` and `wev`,
-- then the timers `conn_inactivity_watcher`, `conn_active_watcher` and `request_timeout_watcher`.
def Client.watchers (cl : Client) : ClientState × Bool × Bool × Bool × Bool × Bool :=
  (cl.state, cl.rev, cl.wev, cl.connInactivityWatcher, cl.connActiveWatcher, cl.requestTimeoutWatcher)

-- A client as a failure should leave it: no socket, idle, and no watcher active, so that nothing
-- of it keeps the worker's loop running.
def Client.Released (cl : Client) : Prop :=
  cl.fd = -1 ∧ cl.watchers = (.idle, false, false, false, false, false)

instance : DecidablePred Client.Released := fun _ => inferInstanceAs (Decidable (_ ∧ _))

namespace Ctx

variable {cfg : Config} {c : Ctx} {i k : Nat} {f : Client → Client}

theorem client_modClient (k : Nat) : (c.modClient i f).client k =
    if k = i ∧ i < c.w.clients.length then f (c.client k) else c.client k := by
  split_ifs with h
  · obtain ⟨rfl, hi⟩ := h
    exact Worker.client_modify_self hi
  · by_cases hk : k = i
    · subst hk
      show Worker.client { c.w with clients := c.w.clients.modify f k } k = c.w.client k
      rw [List.modify_eq_self (by omega)]
    · exact Worker.client_modify_ne hk

-- A view of the clients that an update keeps is kept for every client.
theorem proj_modClient {β : Type} (p : Client → β) (hf : ∀ cl, p (f cl) = p cl) (k : Nat) :
    p ((c.modClient i f).client k) = p (c.client k) := by
  rw [client_modClient]; split_ifs
  exacts [hf _, rfl]

theorem loadLeft_fst : c.loadLeft.1 = c.g.loaded.getD c.g.totalReqLeft := by
  unfold loadLeft; split <;> simp_all

theorem loadLeft_client : c.loadLeft.2.client k = c.client k := by
  unfold loadLeft; split <;> rfl

section Frame

variable {β : Type} (p : Client → β)

-- `process_abandoned_streams` writes only `req_inflight`.
theorem proj_processAbandonedStreams (hp : ∀ cl n, p { cl with reqInflight := n } = p cl) :
    p ((c.processAbandonedStreams i).client k) = p (c.client k) := by
  unfold processAbandonedStreams; split
  · exact proj_modClient p (fun cl => hp cl 0) k
  · rfl

-- `make_socket` writes only `fd`.
theorem proj_makeSocket (hp : ∀ cl n, p { cl with fd := n } = p cl) :
    p ((c.makeSocket i).2.client k) = p (c.client k) := by
  unfold makeSocket; split
  all_goals exact proj_modClient p (fun cl => hp cl _) k

-- The loop over the addresses writes only `fd` and the cursor `next_addr`.
theorem proj_connectNext (hp : ∀ cl n l, p { cl with fd := n, nextAddr := l } = p cl) :
    ∀ (l : List Nat) (a : Option Nat) {c : Ctx}, p ((c.connectNext i l a).2.client k) = p (c.client k)
  | [], _, _ => rfl
  | x :: l, _, c => by
    have h : p ((makeSocket i (c.modClient i ({ · with nextAddr := l }))).2.client k) = p (c.client k) :=
      (proj_makeSocket p fun cl n => hp cl n cl.nextAddr).trans (proj_modClient p (fun cl => hp cl cl.fd l) k)
    unfold connectNext; dsimp only; split
    · exact h
    · exact (proj_connectNext hp l _).trans h

-- Opening a socket writes only `fd`, `next_addr` and `current_addr`.
theorem proj_openSocket (hp : ∀ cl n l a, p { cl with fd := n, nextAddr := l, currentAddr := a } = p cl) :
    p ((c.openSocket i).2.client k) = p (c.client k) := by
  have hn := proj_connectNext p (fun cl n l => hp cl n l cl.currentAddr) (i := i) (k := k)
  unfold openSocket; split
  · exact proj_makeSocket p fun cl n => hp cl n cl.nextAddr cl.currentAddr
  · dsimp only; split
    · exact hn _ _
    · exact (proj_modClient p (fun cl => hp cl cl.fd cl.nextAddr _) k).trans (hn _ _)

-- The first lines of `Client::connect` write only the client's times.
theorem proj_connectPhase (hp : ∀ cl t, p { cl with cstat := t } = p cl) :
    p ((c.connectPhase cfg i).client k) = p (c.client k) := by
  unfold connectPhase; split_ifs
  · exact proj_modClient p (fun cl => hp cl _) k
  all_goals rfl

theorem proj_restartTimeout (hp : ∀ cl, p { cl with connInactivityWatcher := true } = p cl) :
    p ((c.restartTimeout cfg i).client k) = p (c.client k) := by
  unfold restartTimeout; split
  · exact proj_modClient p hp k
  · rfl

end Frame

theorem ans_connectPhase : (c.connectPhase cfg i).ans = c.ans := by
  unfold connectPhase; split_ifs <;> rfl

theorem ans_restartTimeout : (c.restartTimeout cfg i).ans = c.ans := by
  unfold restartTimeout; split <;> rfl

theorem length_connectPhase_restartTimeout :
    ((c.connectPhase cfg i).restartTimeout cfg i).w.clients.length = c.w.clients.length :=
  (quiet_connectPhase.trans frame_restartTimeout.quiet).2.2

theorem watchers_restartTimeout (hi : i < c.w.clients.length) {s : ClientState} {r w a b q : Bool}
    (hw : (c.client i).watchers = (s, r, w, a, b, q)) :
    ((c.restartTimeout cfg i).client i).watchers =
      (s, r, w, a || decide (0 < cfg.connInactivityTimeout), b, q) := by
  unfold restartTimeout; split_ifs with ht
  · rw [client_modClient, if_pos ⟨rfl, hi⟩]
    simp only [Client.watchers, Prod.mk.injEq] at hw ⊢
    simp [hw, ht]
  · simpa [ht] using hw

-- An open that fails leaves the client without a socket.
theorem fd_openSocket (hi : i < c.w.clients.length) (hf : (c.openSocket i).1 = false) :
    ((c.openSocket i).2.client i).fd = -1 := by
  revert hf; unfold openSocket; split
  · unfold makeSocket; split
    · nofun
    · intro; rw [client_modClient, if_pos ⟨rfl, hi⟩]
  · dsimp only; split
    · exact fun _ => ‹_›
    · nofun

-- A failed `Client::connect` leaves the client without a socket and with its watchers as they
-- were, except for the inactivity timer it started.
theorem connect_failed (hi : i < c.w.clients.length) {s : ClientState} {r w a b q : Bool}
    (hw : (c.client i).watchers = (s, r, w, a, b, q)) (hf : (c.connect cfg i).1 = false) :
    ((c.connect cfg i).2.client i).fd = -1 ∧
      ((c.connect cfg i).2.client i).watchers =
        (s, r, w, a || decide (0 < cfg.connInactivityTimeout), b, q) := by
  revert hf; unfold connect; dsimp only; split
  · nofun
  · next ho =>
    refine fun _ => ⟨fd_openSocket (hi.trans_eq length_connectPhase_restartTimeout.symm)
      (by simpa using ho), ?_⟩
    rw [proj_openSocket Client.watchers fun _ _ _ _ => rfl]
    exact watchers_restartTimeout (hi.trans_eq quiet_connectPhase.2.2.symm)
      ((proj_connectPhase Client.watchers fun _ _ => rfl).trans hw)

theorem released_disconnect (hi : i < c.w.clients.length) : ((c.disconnect i).client i).Released := by
  rw [disconnect, client_modClient, if_pos ⟨rfl, hi.trans_eq frame_modCstat.quiet.2.2.symm⟩]
  exact ⟨rfl, rfl⟩

theorem released_modClient (hf : ∀ cl, cl.Released → (f cl).Released) (h : (c.client k).Released) :
    ((c.modClient i f).client k).Released := by
  rw [client_modClient]; split_ifs
  exacts [hf _ h, h]

theorem released_processAbandonedStreams (h : (c.client k).Released) :
    ((c.processAbandonedStreams i).client k).Released :=
  ⟨(proj_processAbandonedStreams Client.fd (fun _ _ => rfl)).trans h.1,
    (proj_processAbandonedStreams Client.watchers (fun _ _ => rfl)).trans h.2⟩

-- `Client::fail` releases the client.
theorem released_fail (hi : i < c.w.clients.length) : ((c.fail i).client i).Released :=
  released_processAbandonedStreams (released_disconnect hi)

-- When `Client::try_again_or_fail` returns -1 the client is left idle, without a socket, an I/O
-- watcher or the active and request timers; but when it tried to reconnect (a new connection was
-- requested and requests were left) and a timeout is configured, the inactivity timer that
-- `Client::connect` restarted is left running.
theorem failed_retry_leaves_inactivity_timer (hi : i < c.w.clients.length)
    (hf : (c.tryAgainOrFail cfg i).1 = false) :
    ((c.tryAgainOrFail cfg i).2.client i).fd = -1 ∧
      ((c.tryAgainOrFail cfg i).2.client i).watchers = (.idle, false, false,
        (c.client i).newConnectionRequested && c.g.loaded.getD c.g.totalReqLeft ≠ 0 &&
          0 < cfg.connInactivityTimeout, false, false) := by
  have hd := released_disconnect (c := c) hi
  have hn : ((c.disconnect i).client i).newConnectionRequested = (c.client i).newConnectionRequested := by
    refine (proj_modClient Client.newConnectionRequested (fun _ => ?_) i).trans
      (proj_modClient _ (fun _ => ?_) i) <;> rfl
  have hr : ((((c.disconnect i).modClient i ({ · with newConnectionRequested := false })).loadLeft.2
      |>.processAbandonedStreams i).client i).Released := by
    refine released_processAbandonedStreams ?_
    rw [loadLeft_client]
    exact released_modClient (fun _ h => h) hd
  have hlen : (((c.disconnect i).modClient i ({ · with newConnectionRequested := false })).loadLeft.2
      |>.processAbandonedStreams i).w.clients.length = c.w.clients.length := by
    refine (((frame_disconnect.trans (frame_modClient fun _ => ?_)).trans frame_loadLeft).quiet.trans
      quiet_processAbandonedStreams).2.2
    rfl
  revert hf; unfold tryAgainOrFail; dsimp only; split
  · next hq =>
    rw [hn] at hq
    rw [loadLeft_fst]
    split
    · next hl =>
      have hl : c.g.loaded.getD c.g.totalReqLeft ≠ 0 := hl
      split
      · nofun
      · next hc =>
        intro; dsimp only
        obtain ⟨h₁, h₂⟩ := connect_failed (hi.trans_eq hlen.symm) hr.2 (by simpa using hc)
        refine ⟨(proj_processAbandonedStreams Client.fd (fun _ _ => rfl)).trans h₁,
          (proj_processAbandonedStreams Client.watchers (fun _ _ => rfl)).trans ?_⟩
        simpa [hq, hl] using h₂
    · next hl =>
      have hl : c.g.loaded.getD c.g.totalReqLeft = 0 := not_not.mp hl
      intro
      simpa [hq, hl] using hr
  · next hq =>
    intro
    simpa [← hn, hq] using released_processAbandonedStreams hd

end Ctx

namespace Worker

-- One count-mode client with an inactivity timeout: after the session asks for a new connection,
-- a failed read makes `try_again_or_fail` reconnect to the pinned address, whose socket fails.
-- The client is left idle without a socket, yet its inactivity timer keeps the loop running
-- until that timer fires.
theorem failed_retry_leaves_inactivity_timer_pinned :
    let cfg : Config := ⟨2, 1, 1, 1, 0, 0, 1, 0, 0, false, .http2, false, false, [7]⟩
    let s := exec cfg (run cfg [[some 3]] ⟨2, 0, 0, none⟩ (create cfg 0 1 []), ⟨2, 0, 0, none⟩)
      [.writecb 0 {}, .tryNewConnection 0]
    let e := Event.readcb 0 { read := .fail 0, sockets := [none] }
    let r := ((⟨s.1, s.2, e.answers⟩ : Ctx).restartTimeout cfg 0).doRead cfg 0
    let w := (step cfg e s.1 s.2).1
    Reachable cfg s.1 ∧ e.enabled s.1 = true ∧ r.1 ≠ 0 ∧ w = (r.2.tryAgainOrFail cfg 0).2.w ∧
      ((r.2.tryAgainOrFail cfg 0).2.client 0).connInactivityWatcher = true ∧ w.stopped = false ∧
      (step cfg (.connTimeout 0 false) w s.2).1.stopped = true ∧
      ((r.2.tryAgainOrFail cfg 0).2.client 0).fd = -1 ∧
      ((r.2.tryAgainOrFail cfg 0).2.client 0).watchers = (.idle, false, false,
        (r.2.client 0).newConnectionRequested && r.2.g.loaded.getD r.2.g.totalReqLeft ≠ 0 &&
          0 < cfg.connInactivityTimeout, false, false) :=
  ⟨Reachable.exec _ _ (.init 0 1 [] [[some 3]] ⟨2, 0, 0, none⟩) (by decide), by decide, by decide, rfl,
    by decide, by decide, by decide, Ctx.failed_retry_leaves_inactivity_timer (by decide) (by decide)⟩

end Worker

end Sofaload
