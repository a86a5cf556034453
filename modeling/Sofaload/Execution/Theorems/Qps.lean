import Sofaload.Execution.Theorems.Tokens

namespace Sofaload.Worker

-- A QPS-mode client deferred twice for want of a token, once per connection: after the
-- reconnection both queue entries are drained onto the new session, whose cap is one stream.
theorem streams_exceed_cap :
    let cfg : Config := ⟨0, 1, 1, 1, 10, 0, 0, 2, 0, false, .http2, false, false, [7]⟩
    let w := (exec cfg (run cfg [[some 3]] ⟨20, 0, 0, none⟩ (create cfg 0 1 [0, 0]), ⟨20, 0, 0, none⟩)
      [.writecb 0 {}, .tryNewConnection 0, .readcb 0 { read := .fail 0, sockets := [some 4] },
        .writecb 0 {}, .warmupTimeout, .qpsTick {}]).1
    Reachable cfg w ∧ (w.client 0).session.map Session.maxConcurrentStreams = some 1 ∧
      (w.client 0).nstreams = 2 :=
  ⟨Reachable.exec _ _ (.init 0 1 [0, 0] [[some 3]] ⟨20, 0, 0, none⟩) (by decide), by decide, by decide⟩

-- A QPS-mode client deferred for want of a token loses its connection; the next refill tick pops
-- it and counts a request as started although no session sent it.
theorem start_counted_without_session :
    let cfg : Config := ⟨0, 1, 1, 1, 10, 0, 0, 2, 0, false, .http2, false, false, [7]⟩
    let s := exec cfg (run cfg [[some 3]] ⟨20, 0, 0, none⟩ (create cfg 0 1 [0, 0]), ⟨20, 0, 0, none⟩)
      [.writecb 0 {}, .warmupTimeout, .readcb 0 { read := .fail 0 }]
    let w' := (step cfg (.qpsTick {}) s.1 s.2).1
    Reachable cfg s.1 ∧ (Event.qpsTick {}).enabled s.1 ∧ (s.1.client 0).session = none ∧
      (w'.client 0).session = none ∧ (w'.client 0).reqStarted = (s.1.client 0).reqStarted + 1 ∧
      w'.stats.reqStarted = s.1.stats.reqStarted + 1 :=
  ⟨Reachable.exec _ _ (.init 0 1 [0, 0] [[some 3]] ⟨20, 0, 0, none⟩) (by decide), by decide, by decide,
    by decide, by decide, by decide⟩

variable {cfg : Config}

-- The requests the worker's callbacks in `es` sent: each callback's increments of
-- `total_req_send`, whatever the other threads added between two callbacks.
def sends (cfg : Config) : Worker → List (Event × Globals) → Nat
  | _, [] => 0
  | w, (e, g) :: es =>
    ((step cfg e w g).2.totalReqSend - g.totalReqSend) + sends cfg (step cfg e w g).1 es

-- The worker after the callbacks in `es`.
def after (cfg : Config) : Worker → List (Event × Globals) → Worker
  | w, [] => w
  | w, (e, g) :: es => after cfg (step cfg e w g).1 es

-- The refill ticks among the callbacks.
def ticks (es : List (Event × Globals)) : Nat := es.countP fun eg => eg.1.isTick

-- The tokens `t` refill ticks credit, the first reading slot `j`.
def credited (counts : List Nat) (j t : Nat) : Nat :=
  ((List.range t).map fun k => counts.getD ((j + k) % counts.length) 0).sum

-- One callback sends exactly the tokens it takes; a refill tick credits its slot and moves on.
theorem tokens_step (hq : cfg.isQpsMode = true) {e : Event} {w : Worker} {g : Globals}
    (hne : w.qpsCounts ≠ []) :
    (step cfg e w g).1.qpsLeft + ((step cfg e w g).2.totalReqSend - g.totalReqSend) =
        w.qpsLeft + (if e.isTick then w.qpsCounts.getD w.qpsCountIndex 0 else 0) ∧
      (step cfg e w g).1.qpsCounts = w.qpsCounts ∧
      (step cfg e w g).1.qpsCountIndex =
        if e.isTick then (w.qpsCountIndex + 1) % w.qpsCounts.length else w.qpsCountIndex := by
  have hs : step cfg e w g = ((e.dispatch cfg ⟨w, g, e.answers⟩).w, (e.dispatch cfg ⟨w, g, e.answers⟩).g) := rfl
  rw [hs]
  cases ht : e.isTick
  · obtain ⟨h₁, h₂, h₃, h₄⟩ := @Event.tokens_dispatch cfg ⟨w, g, e.answers⟩ e hq ht
    dsimp only [Ctx.tokens] at h₁ h₂
    exact ⟨by simp only [Bool.false_eq_true, if_false]; omega, h₃, h₄⟩
  · obtain ⟨h₁, h₂, h₃, h₄⟩ := @Ctx.tokens_updateWorkerQpsLeft cfg ⟨w, g, e.answers⟩ hq hne
    dsimp only [Ctx.tokens] at h₁ h₂
    cases e <;> simp only [Event.isTick, Bool.false_eq_true] at ht
    exact ⟨by simp only [Event.dispatch, if_true]; omega, h₃, h₄⟩

section Credited

variable {l : List Nat}

-- The first tick reads slot `j`, the others continue from the next slot.
theorem credited_succ (j t : Nat) :
    credited l j (t + 1) = l.getD (j % l.length) 0 + credited l (j + 1) t := by
  simp only [credited, List.range_succ_eq_map, List.map_cons, List.map_map, List.sum_cons,
    Nat.add_zero, Function.comp_def, Nat.add_right_comm j 1]
  rfl

-- The last of `t + 1` ticks reads slot `j + t`.
theorem credited_succ_last (j t : Nat) :
    credited l j (t + 1) = credited l j t + l.getD ((j + t) % l.length) 0 := by
  simp [credited, List.range_succ]

-- Only the slot modulo the array's length matters.
theorem credited_mod (j t : Nat) : credited l (j % l.length) t = credited l j t := by
  simp only [credited, Nat.mod_add_mod]

-- A full round of ticks, from any slot, credits every slot once.
theorem credited_length (j : Nat) : credited l j l.length = l.sum := by
  induction j with
  | zero =>
    have h : (List.range l.length).map (fun k => l.getD ((0 + k) % l.length) 0) = l :=
      List.ext_getElem (by simp) fun k _ hk => by simp [Nat.mod_eq_of_lt hk, hk]
    rw [credited, h]
  | succ j ih =>
    rw [← ih]
    cases hL : l.length with
    | zero => rfl
    | succ m =>
      rw [credited_succ_last, credited_succ, show j + 1 + m = j + (m + 1) by omega, ← hL,
        Nat.add_mod_right]
      omega

end Credited

-- Over any callbacks, the requests sent plus the tokens left are the tokens held at the start
-- plus those the refill ticks credited.
theorem sends_add_qpsLeft (hq : cfg.isQpsMode = true) :
    ∀ (es : List (Event × Globals)) {w : Worker}, w.qpsCounts ≠ [] →
      w.qpsCountIndex < w.qpsCounts.length →
      sends cfg w es + (after cfg w es).qpsLeft =
        w.qpsLeft + credited w.qpsCounts w.qpsCountIndex (ticks es)
  | [], w, _, _ => by simp [sends, after, ticks, credited]
  | (e, g) :: es, w, hne, hj => by
    obtain ⟨h₁, h₂, h₃⟩ := @tokens_step cfg hq e w g hne
    have hj' : (step cfg e w g).1.qpsCountIndex < (step cfg e w g).1.qpsCounts.length := by
      rw [h₃, h₂]; split
      · exact Nat.mod_lt _ (List.length_pos.mpr hne)
      · exact hj
    have ih := sends_add_qpsLeft hq es (h₂ ▸ hne) hj'
    rw [h₂, h₃] at ih
    simp only [sends, after, ticks, List.countP_cons] at ih ⊢
    cases ht : e.isTick <;> simp only [ht, Bool.false_eq_true, if_false, if_true, Nat.add_zero] at h₁ ih ⊢
    · omega
    · rw [credited_mod] at ih
      rw [credited_succ, Nat.mod_eq_of_lt hj]
      omega

-- `Worker::run` starts a QPS-mode worker with no token, at slot 0 of the array `main` built.
theorem run_create_qps (hq : cfg.isQpsMode = true) (socks : List (List (Option Nat))) (g : Globals)
    (id n : Nat) (rands : List Nat) :
    (run cfg socks g (create cfg id n rands)).qpsLeft = 0 ∧
      (run cfg socks g (create cfg id n rands)).qpsCounts = qpsCountsFor cfg id rands ∧
      (run cfg socks g (create cfg id n rands)).qpsCountIndex = 0 := by
  obtain ⟨h₁, h₂, h₃, h₄⟩ :=
    @Ctx.tokens_runClients cfg n socks ⟨create cfg id n rands, g, {}⟩
  dsimp only [Ctx.tokens] at h₁ h₂
  have h₀ : (Ctx.runClients cfg n socks ⟨create cfg id n rands, g, {}⟩).w.qpsLeft = 0 := by
    rw [show (create cfg id n rands).qpsLeft = 0 from rfl] at h₁
    omega
  exact ⟨h₀, h₃.trans (by simp [create, hq]), h₄⟩

-- Each token `main` places lands in one of the slots.
theorem placeTokens_length :
    ∀ (n : Nat) (rands counts : List Nat), (placeTokens n rands counts).length = counts.length
  | 0, _, _ => rfl
  | n + 1, rands, counts => by rw [placeTokens, placeTokens_length, List.length_modify]

theorem sum_modify_succ {l : List Nat} {k : Nat} (hk : k < l.length) :
    (l.modify (· + 1) k).sum = l.sum + 1 := by
  have := List.sum_map_modify (fun x => x) (· + 1) k l
  simp [List.getElem?_eq_getElem hk] at this
  omega

-- Placing `n` tokens into 200 slots adds `n` to their sum, whatever `std::rand` returns.
theorem placeTokens_sum : ∀ (n : Nat) (rands counts : List Nat),
    counts.length = qpsUpdatePerSecond → (placeTokens n rands counts).sum = counts.sum + n
  | 0, _, _, _ => rfl
  | n + 1, rands, counts, h => by
    have hk : rands.headD 0 % qpsUpdatePerSecond < counts.length := by
      rw [h]; exact Nat.mod_lt _ (by decide)
    rw [placeTokens, placeTokens_sum n _ _ (by rw [List.length_modify, h]), sum_modify_succ hk]
    omega

theorem qpsCountsFor_length (i : Nat) (rands : List Nat) :
    (qpsCountsFor cfg i rands).length = qpsUpdatePerSecond := by
  simp [qpsCountsFor, placeTokens_length]

theorem qpsCountsFor_sum (i : Nat) (rands : List Nat) :
    (qpsCountsFor cfg i rands).sum = qpsShare cfg i := by
  rw [qpsCountsFor, placeTokens_sum _ _ _ (List.length_replicate _ _)]
  simp

-- In QPS mode, over any callbacks of a worker, the requests it sends are the tokens its refill
-- ticks credited less those left, and `main`'s array hands it exactly its share of `qps` in
-- every 200 consecutive ticks, whatever `std::rand` returns.
theorem qps_tokens_bounded (hq : cfg.isQpsMode = true) (socks : List (List (Option Nat)))
    (g : Globals) (id n : Nat) (rands : List Nat) (es : List (Event × Globals)) :
    let w := run cfg socks g (create cfg id n rands)
    sends cfg w es + (after cfg w es).qpsLeft = credited (qpsCountsFor cfg id rands) 0 (ticks es) ∧
      sends cfg w es ≤ credited (qpsCountsFor cfg id rands) 0 (ticks es) ∧
      (qpsCountsFor cfg id rands).sum = qpsShare cfg id ∧
      ∀ j, credited (qpsCountsFor cfg id rands) j qpsUpdatePerSecond = qpsShare cfg id := by
  intro w
  obtain ⟨h₀, hc, hi⟩ := run_create_qps hq socks g id n rands
  have hlen : w.qpsCounts.length = qpsUpdatePerSecond := by rw [hc, qpsCountsFor_length]
  have h := sends_add_qpsLeft hq es (List.ne_nil_of_length_pos (by rw [hlen]; decide))
    (by rw [hi, hlen]; decide)
  rw [h₀, hc, hi, Nat.zero_add] at h
  refine ⟨h, by omega, qpsCountsFor_sum id rands, fun j => ?_⟩
  rw [← @qpsCountsFor_length cfg id rands, credited_length, qpsCountsFor_sum]

-- Two tokens placed in the first slot: the first tick releases the deferred request and the
-- close of its stream sends the second.
theorem qps_tokens_bounded_two_sent :
    let cfg : Config := ⟨0, 1, 1, 1, 10, 0, 0, 2, 0, false, .http2, false, false, [7]⟩
    let es : List (Event × Globals) :=
      [Event.writecb 0 {}, .warmupTimeout, .qpsTick {}, .onStreamClose 0 1 true false {}].map
        fun e => (e, ⟨20, 0, 0, none⟩)
    sends cfg (run cfg [[some 3]] ⟨20, 0, 0, none⟩ (create cfg 0 1 [0, 0])) es = 2 ∧
      let w := run cfg [[some 3]] ⟨20, 0, 0, none⟩ (create cfg 0 1 [0, 0])
      sends cfg w es + (after cfg w es).qpsLeft = credited (qpsCountsFor cfg 0 [0, 0]) 0 (ticks es) ∧
        sends cfg w es ≤ credited (qpsCountsFor cfg 0 [0, 0]) 0 (ticks es) ∧
        (qpsCountsFor cfg 0 [0, 0]).sum = qpsShare cfg 0 ∧
        ∀ j, credited (qpsCountsFor cfg 0 [0, 0]) j qpsUpdatePerSecond = qpsShare cfg 0 :=
  ⟨by decide, @qps_tokens_bounded ⟨0, 1, 1, 1, 10, 0, 0, 2, 0, false, .http2, false, false, [7]⟩ rfl
    [[some 3]] ⟨20, 0, 0, none⟩ 0 1 [0, 0] _⟩

end Sofaload.Worker
