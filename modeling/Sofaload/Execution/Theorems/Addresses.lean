import Sofaload.Execution.Theorems.Advances
import Sofaload.Execution.Theorems.Quiet

namespace Sofaload

namespace Ctx

variable {cfg : Config} {c : Ctx} {i : Nat}

-- `make_socket` takes the next answer: a descriptor opens the socket, a failure leaves `fd = -1`.
theorem makeSocket_spec (hi : i < c.w.clients.length) :
    (c.makeSocket i).2.ans.sockets = c.ans.sockets.tail ∧
      ((c.makeSocket i).1 = false ↔ c.ans.sockets.headD none = none) ∧
      (((c.makeSocket i).2.client i).fd = -1 ↔ (c.makeSocket i).1 = false) := by
  unfold makeSocket; split <;> rename_i h <;> rw [client_modClient, if_pos ⟨rfl, hi⟩]
  · refine ⟨rfl, by rw [h]; simp, ?_⟩
    simp only [Bool.true_eq_false, iff_false]; omega
  · exact ⟨rfl, by rw [h]; simp, by simp⟩

-- The `while (next_addr)` loop pops as many addresses as it consumes `make_socket` answers; it
-- ends without a socket only once every remaining address has failed, and it leaves `fd` alone
-- only when no address remained.
theorem connectNext_pops : ∀ (l : List Nat) (a : Option Nat) {c : Ctx}, i < c.w.clients.length →
    (c.client i).nextAddr = l →
    ∃ n ≤ l.length, (c.connectNext i l a).2.ans.sockets = c.ans.sockets.drop n ∧
      ((c.connectNext i l a).2.client i).nextAddr = l.drop n ∧
      (((c.connectNext i l a).2.client i).fd = -1 →
        n = l.length ∧ ∀ j < n, c.ans.sockets.getD j none = none) ∧
      (n = 0 → ((c.connectNext i l a).2.client i).fd = (c.client i).fd)
  | [], _, _, _, hl => ⟨0, le_rfl, rfl, hl, fun _ => ⟨rfl, nofun⟩, fun _ => rfl⟩
  | x :: l, _, c, hi, _ => by
    have hi₁ : i < (c.modClient i ({ · with nextAddr := l })).w.clients.length := by simpa using hi
    obtain ⟨hs, hb, hf⟩ := makeSocket_spec hi₁
    have hn : (((c.modClient i ({ · with nextAddr := l })).makeSocket i).2.client i).nextAddr = l := by
      rw [proj_makeSocket Client.nextAddr fun _ _ => rfl, client_modClient, if_pos ⟨rfl, hi⟩]
    unfold connectNext; dsimp only; split
    · next ht =>
      exact ⟨1, by simp, by rw [hs, modClient_ans, List.drop_one], hn,
        fun h => absurd (hf.mp h) (by simp [ht]), nofun⟩
    · next ht =>
      obtain ⟨n, hnl, h₁, h₂, h₃, -⟩ :=
        connectNext_pops l _ (hi₁.trans_eq frame_makeSocket.quiet.2.2.symm) hn
      refine ⟨n + 1, by simpa using hnl, by rw [h₁, hs, modClient_ans, List.drop_tail], h₂,
        fun h => ?_, nofun⟩
      obtain ⟨e, h'⟩ := h₃ h
      have h0 : c.ans.sockets.headD none = none := hb.mp (by simpa using ht)
      rw [hs, modClient_ans] at h'
      refine ⟨by simp [e], fun j hj => ?_⟩
      cases hsk : c.ans.sockets with
      | nil => rfl
      | cons y ys =>
        rw [hsk] at h0 h'
        cases j with
        | zero => exact h0
        | succ j => exact h' j (by omega)

-- With no current address, opening a socket walks the cursor: it pops as many addresses as it
-- consumes answers, fails only once all of them failed, and, from a closed socket, succeeds only
-- after popping the address that connected.
theorem openSocket_pops (hi : i < c.w.clients.length) (hc : (c.client i).currentAddr = none) :
    ∃ n ≤ (c.client i).nextAddr.length, (c.openSocket i).2.ans.sockets = c.ans.sockets.drop n ∧
      ((c.openSocket i).2.client i).nextAddr = (c.client i).nextAddr.drop n ∧
      ((c.openSocket i).1 = false →
        n = (c.client i).nextAddr.length ∧ ∀ j < n, c.ans.sockets.getD j none = none) ∧
      ((c.client i).fd = -1 → (c.openSocket i).1 = true → 0 < n) := by
  obtain ⟨n, hn, h₁, h₂, h₃, h₄⟩ := connectNext_pops (c.client i).nextAddr none hi rfl
  simp only [openSocket, hc]
  split
  · next hf => exact ⟨n, hn, h₁, h₂, fun _ => h₃ hf, nofun⟩
  · next hf =>
    refine ⟨n, hn, h₁, (proj_modClient Client.nextAddr (fun _ => ?_) i).trans h₂, nofun,
      fun hfd _ => Nat.pos_of_ne_zero fun h0 => hf ((h₄ h0).trans hfd)⟩
    rfl

-- The same for `Client::connect`, whose first lines touch neither the socket nor the cursor.
theorem connect_pops (hi : i < c.w.clients.length) (hc : (c.client i).currentAddr = none) :
    ∃ n ≤ (c.client i).nextAddr.length, (c.connect cfg i).2.ans.sockets = c.ans.sockets.drop n ∧
      ((c.connect cfg i).2.client i).nextAddr = (c.client i).nextAddr.drop n ∧
      ((c.connect cfg i).1 = false →
        n = (c.client i).nextAddr.length ∧ ∀ j < n, c.ans.sockets.getD j none = none) ∧
      ((c.client i).fd = -1 → (c.connect cfg i).1 = true → 0 < n) := by
  have hp {β : Type} (p : Client → β) (h₁ : ∀ cl t, p { cl with cstat := t } = p cl)
      (h₂ : ∀ cl, p { cl with connInactivityWatcher := true } = p cl) :
      p (((c.connectPhase cfg i).restartTimeout cfg i).client i) = p (c.client i) :=
    (proj_restartTimeout p h₂).trans (proj_connectPhase p h₁)
  have hna := hp Client.nextAddr (fun _ _ => rfl) (fun _ => rfl)
  obtain ⟨n, hn, h₁, h₂, h₃, h₄⟩ :=
    @openSocket_pops ((c.connectPhase cfg i).restartTimeout cfg i) i
      (hi.trans_eq length_connectPhase_restartTimeout.symm)
      ((hp Client.currentAddr (fun _ _ => rfl) (fun _ => rfl)).trans hc)
  rw [hna] at hn h₂ h₃
  simp only [ans_restartTimeout, ans_connectPhase] at h₁ h₃
  unfold connect; dsimp only; split
  · next ht =>
    refine ⟨n, hn, h₁, (proj_modClient Client.nextAddr (fun _ => ?_) i).trans h₂, nofun,
      fun hfd _ => h₄ ((hp Client.fd (fun _ _ => rfl) (fun _ => rfl)).trans hfd) ht⟩
    rfl
  · next ht => exact ⟨n, hn, h₁, h₂, fun _ => h₃ (by simpa using ht), nofun⟩

-- A socket that failed to connect asynchronously (`ERR_CONNECT_FAIL` in `writecb`) either moves
-- the client's cursor strictly forward, by the reconnect through the next addresses, or, when no
-- address is left to connect, fails the client and releases it.
theorem writecb_connect_fail_progress (hi : i < c.w.clients.length)
    (he : ((c.restartTimeout cfg i).doWrite cfg i).1 = errConnectFail) :
    ((c.writecb cfg i).client i).nextAddr.length < (c.client i).nextAddr.length ∨
      ((c.writecb cfg i).client i).Released := by
  have hq : Quiet c ((c.restartTimeout cfg i).doWrite cfg i).2 :=
    frame_restartTimeout.quiet.trans quiet_doWrite
  have ha : Advances c ((c.restartTimeout cfg i).doWrite cfg i).2 :=
    advances_restartTimeout.trans advances_doWrite
  unfold writecb; dsimp only; rw [if_pos he]
  generalize ((c.restartTimeout cfg i).doWrite cfg i).2 = r at hq ha
  have hd : Advances r ((r.disconnect i).modClient i ({ · with currentAddr := none })) :=
    advances_disconnect.trans (advances_modClient (List.suffix_refl _))
  have hri : i < r.w.clients.length := hq.2.2 ▸ hi
  have hdi : i < ((r.disconnect i).modClient i ({ · with currentAddr := none })).w.clients.length := by
    simpa using hri.trans_eq frame_disconnect.quiet.2.2.symm
  split
  · next ht =>
    left
    have hcur : (((r.disconnect i).modClient i ({ · with currentAddr := none })).client i).currentAddr =
        none := by
      rw [client_modClient, if_pos ⟨rfl, hri.trans_eq frame_disconnect.quiet.2.2.symm⟩]
    have hfd : (((r.disconnect i).modClient i ({ · with currentAddr := none })).client i).fd = -1 := by
      refine (proj_modClient Client.fd (fun _ => ?_) i).trans (released_disconnect hri).1; rfl
    obtain ⟨n, hn, -, h₂, -, h₄⟩ := @connect_pops cfg _ i hdi hcur
    have hle := ((ha.trans hd).1 i).length_le
    have := h₄ hfd ht
    rw [h₂, List.length_drop]
    omega
  · exact .inr (released_fail (by rw [quiet_connect.2.2]; exact hdi))

end Ctx

namespace Worker

-- The addresses a client tries through its cursor: in every reachable state the cursor is what
-- remains of the resolved list, and no callback moves it back; a connect with no current address
-- tries the addresses at the cursor in order, popping each one it consumes a `make_socket` answer
-- for, and fails only after every remaining address failed; and each asynchronous connect failure
-- in `writecb` either pops at least one more address or releases the client, so the retry chain
-- makes at most as many attempts as there are addresses.
theorem cursor_tries_each_address_once (cfg : Config) :
    (∀ w, Reachable cfg w → ∀ k, (w.client k).nextAddr <:+ cfg.addrs) ∧
    (∀ (e : Event) (w : Worker) (g : Globals) (k : Nat),
      ((step cfg e w g).1.client k).nextAddr <:+ (w.client k).nextAddr) ∧
    (∀ (c : Ctx) (i : Nat), i < c.w.clients.length → (c.client i).currentAddr = none →
      ∃ n ≤ (c.client i).nextAddr.length, (c.connect cfg i).2.ans.sockets = c.ans.sockets.drop n ∧
        ((c.connect cfg i).2.client i).nextAddr = (c.client i).nextAddr.drop n ∧
        ((c.connect cfg i).1 = false →
          n = (c.client i).nextAddr.length ∧ ∀ j < n, c.ans.sockets.getD j none = none)) ∧
    (∀ (c : Ctx) (i : Nat), i < c.w.clients.length →
      ((c.restartTimeout cfg i).doWrite cfg i).1 = Ctx.errConnectFail →
      ((c.writecb cfg i).client i).nextAddr.length < (c.client i).nextAddr.length ∨
        ((c.writecb cfg i).client i).Released) := by
  refine ⟨fun w h => h.withinBounds.1,
    fun e w g k => (@Event.advances_dispatch cfg ⟨w, g, e.answers⟩ e).1 k,
    fun c i hi hc => ?_, fun c i => Ctx.writecb_connect_fail_progress⟩
  obtain ⟨n, hn, h₁, h₂, h₃, -⟩ := @Ctx.connect_pops cfg c i hi hc
  exact ⟨n, hn, h₁, h₂, h₃⟩

-- Two addresses: the client connects to the first; its connect then fails asynchronously and the
-- retry pops the second, which connects; when that one fails too, no address is left and the
-- client is released.
theorem cursor_tries_each_address_once_two_addresses :
    let cfg : Config := ⟨1, 1, 1, 1, 0, 0, 0, 0, 0, false, .http2, false, false, [7, 8]⟩
    let s := run cfg [[some 3]] ⟨1, 0, 0, none⟩ (create cfg 0 1 [])
    let c : Ctx := ⟨s, ⟨1, 0, 0, none⟩, { socketConnected := false, sockets := [some 4] }⟩
    let c' : Ctx := ⟨(c.writecb cfg 0).w, c.g, { socketConnected := false }⟩
    Reachable cfg s ∧ (Event.writecb 0 c.ans).enabled s = true ∧ (s.client 0).nextAddr = [8] ∧
      ((c.writecb cfg 0).client 0).nextAddr = [] ∧ ((c.writecb cfg 0).client 0).currentAddr = some 8 ∧
      (Event.writecb 0 c'.ans).enabled c'.w = true ∧ ((c'.writecb cfg 0).client 0).Released ∧
      (((c.writecb cfg 0).client 0).nextAddr.length < (c.client 0).nextAddr.length ∨
        ((c.writecb cfg 0).client 0).Released) ∧
      (((c'.writecb cfg 0).client 0).nextAddr.length < (c'.client 0).nextAddr.length ∨
        ((c'.writecb cfg 0).client 0).Released) :=
  ⟨.init 0 1 [] [[some 3]] ⟨1, 0, 0, none⟩, by decide, by decide, by decide, by decide, by decide,
    by decide, (cursor_tries_each_address_once _).2.2.2 _ 0 (by decide) (by decide),
    (cursor_tries_each_address_once _).2.2.2 _ 0 (by decide) (by decide)⟩

end Worker

end Sofaload
