import Sofaload.Execution.Theorems.Quiet

namespace Sofaload

-- What one callback may do to the phase and the timers: nothing, `Client::connect` leaving the
-- initial phase, or the warm-up or the duration timer firing.
def Ctl.Move (k k' : Ctl) : Prop :=
  k' = k ∨ k.phase = .initialIdle ∧ k' = { k with phase := .warmUp, warmup := true } ∨
    k.warmup ∧ k' = ⟨.mainDuration, false, true, true⟩ ∨
    k.duration ∧ k' = { k with phase := .durationOver, duration := false, qps := false }

theorem Phase.rank_le_next (p : Phase) : p.rank ≤ p.next.rank := by
  cases p <;> decide

-- A list of phases sorted by rank takes each step between two phases at most once.
theorem Phase.count_transition_le_one {p q : Phase} (hpq : p ≠ q) :
    ∀ {ps : List Phase}, ps.Pairwise (fun a b => a.rank ≤ b.rank) →
      (ps.zip ps.tail).count (p, q) ≤ 1
  | [], _ | [_], _ => by simp
  | a :: b :: ps, hs => by
    rw [List.pairwise_cons] at hs
    have ih := count_transition_le_one hpq hs.2
    simp only [List.tail_cons, List.zip_cons_cons, List.count_cons] at ih ⊢
    split
    · next hab =>
      obtain ⟨rfl, rfl⟩ : a = p ∧ b = q := by simpa using hab
      have hb : ∀ x ∈ a :: b :: ps, b.rank ≤ x.rank → x ≠ a := fun x _ hx hxa =>
        hpq (rank_injective (le_antisymm (hs.1 b (List.mem_cons_self _ _)) (hxa ▸ hx)))
      have : (a, b) ∉ (b :: ps).zip ps := fun hm => by
        have hm := (List.of_mem_zip hm).1
        refine hb a (List.mem_cons_self _ _) ?_ rfl
        rcases List.mem_cons.mp hm with h | h
        · rw [h]
        · exact (List.pairwise_cons.mp hs.2).1 a h
      rw [List.count_eq_zero.mpr this]
    · omega

namespace Ctx

variable {cfg : Config} {c : Ctx}

theorem Quiet.move {c' : Ctx} (h : Quiet c c') : c.w.ctl.Move c'.w.ctl := by
  rcases h.1 with h | h
  · exact .inl h
  · exact .inr (.inl h)

theorem ctl_durationTimeoutCb :
    c.durationTimeoutCb.w.ctl =
      { c.w.ctl with phase := .durationOver, duration := false, qps := false } :=
  frame_stopAllClients.1

theorem counters_durationTimeoutCb : c.durationTimeoutCb.w.counters = c.w.counters :=
  frame_stopAllClients.2

theorem counters_warmupTimeoutCb : c.warmupTimeoutCb.w.counters = c.w.counters := by
  simp [warmupTimeoutCb, Worker.counters, Client.counters, Function.comp_def]

end Ctx

namespace Event

variable {cfg : Config} {c : Ctx} {e : Event}

-- What every enabled callback does to the phase and the timers.
theorem move_dispatch (he : e.enabled c.w) : c.w.ctl.Move (e.dispatch cfg c).w.ctl := by
  by_cases hw : e = .warmupTimeout
  · subst hw
    simp only [enabled, Bool.and_eq_true] at he
    exact .inr (.inr (.inl ⟨he.2, rfl⟩))
  by_cases hd : e = .durationTimeout
  · subst hd
    simp only [enabled, Bool.and_eq_true] at he
    exact .inr (.inr (.inr ⟨he.2, Ctx.ctl_durationTimeoutCb⟩))
  exact (Ctx.quiet_dispatch hw hd).move

-- Outside the main phase no callback moves a counter.
theorem counters_dispatch (hp : c.w.phase ≠ .mainDuration) :
    (e.dispatch cfg c).w.counters = c.w.counters := by
  by_cases hw : e = .warmupTimeout
  · subst hw; exact Ctx.counters_warmupTimeoutCb
  by_cases hd : e = .durationTimeout
  · subst hd; exact Ctx.counters_durationTimeoutCb
  exact (Ctx.quiet_dispatch hw hd).2.1 hp

end Event

namespace Worker

-- The assertions of `warmup_timeout_cb`.
def warmupAsserts (w : Worker) : Bool :=
  w.stats.reqStarted == 0 && w.stats.reqDone == 0 &&
    w.clients.all fun cl => cl.reqInflight == 0 && cl.reqStarted == 0 && cl.reqDone == 0

theorem warmupAsserts_eq_of_counters {w w' : Worker} (h : w'.counters = w.counters) :
    w'.warmupAsserts = w.warmupAsserts := by
  have e (v : Worker) : v.warmupAsserts = (v.counters.reqStarted == 0 &&
      v.counters.reqDone == 0 && v.counters.clients.all fun x => x.1 == 0 && x.2.1 == 0 && x.2.2 == 0) := by
    rw [show v.counters.clients = v.clients.map Client.counters from rfl, List.all_map_comp]; rfl
  rw [e, e, h]

-- Each phase timer runs only in its phase, and nothing is counted before the main phase.
structure PhaseInv (w : Worker) : Prop where
  warmup : w.warmupWatcher → w.phase = .warmUp
  duration : w.durationWatcher → w.phase = .mainDuration
  idle : w.phase.rank < 2 → w.warmupAsserts

variable {cfg : Config} {w w' : Worker}

namespace PhaseInv

theorem of_ctl (h : w.PhaseInv) (hc : w'.ctl = w.ctl)
    (ha : w.phase.rank < 2 → w.warmupAsserts → w'.warmupAsserts) : w'.PhaseInv := by
  simp only [ctl, Ctl.mk.injEq] at hc
  obtain ⟨hp, hw, hd, -⟩ := hc
  exact ⟨fun h' => hp ▸ h.warmup (hw ▸ h'), fun h' => hp ▸ h.duration (hd ▸ h'),
    fun hr => ha (hp ▸ hr) (h.idle (hp ▸ hr))⟩

theorem move (h : w.PhaseInv) (hm : w.ctl.Move w'.ctl)
    (hc : w.phase ≠ .mainDuration → w'.counters = w.counters) : w'.PhaseInv := by
  have keep (hr : w.phase.rank < 2) (ha : w.warmupAsserts) : w'.warmupAsserts := by
    rwa [warmupAsserts_eq_of_counters (hc fun hm => by rw [hm] at hr; contradiction)]
  rcases hm with e | ⟨hp, e⟩ | ⟨-, e⟩ | ⟨hd, e⟩
  · exact h.of_ctl e keep
  all_goals simp only [ctl, Ctl.mk.injEq] at e
  · replace hp : w.phase = .initialIdle := hp
    have hr : w.phase.rank < 2 := by rw [hp]; decide
    exact ⟨fun _ => e.1, fun h' => absurd (h.duration (e.2.2.1 ▸ h')) (by rw [hp]; decide),
      fun _ => keep hr (h.idle hr)⟩
  · exact ⟨fun h' => absurd (e.2.1.symm.trans h') Bool.false_ne_true, fun _ => e.1,
      fun hr => absurd hr (by rw [e.1]; decide)⟩
  · exact ⟨fun h' => absurd (h.warmup (e.2.1 ▸ h')) (by rw [h.duration hd]; decide),
      fun h' => absurd (e.2.2.1.symm.trans h') Bool.false_ne_true,
      fun hr => absurd hr (by rw [e.1]; decide)⟩

-- The phase stays, or moves to the next one.
theorem advance (h : w.PhaseInv) (hm : w.ctl.Move w'.ctl) :
    w'.phase = w.phase ∨ w'.phase = w.phase.next := by
  rcases hm with e | ⟨hp, e⟩ | ⟨hw, e⟩ | ⟨hd, e⟩ <;> have e := congrArg Ctl.phase e
  · exact .inl e
  · exact .inr (by rw [show w.phase = .initialIdle from hp]; exact e)
  · exact .inr (by rw [h.warmup hw]; exact e)
  · exact .inr (by rw [h.duration hd]; exact e)

theorem quiet {c c' : Ctx} (h : c.w.PhaseInv) (hq : c.Quiet c') : c'.w.PhaseInv :=
  h.move hq.move hq.2.1

theorem step {e : Event} {g : Globals} (h : w.PhaseInv) (he : e.enabled w) :
    (Worker.step cfg e w g).1.PhaseInv := by
  rw [step_fst]; exact h.move (Event.move_dispatch he) fun hp => Event.counters_dispatch hp

theorem create {id n : Nat} {rands : List Nat} : (Worker.create cfg id n rands).PhaseInv :=
  ⟨nofun, nofun, fun _ => rfl⟩

theorem runClients {c : Ctx} (h : c.w.PhaseInv) :
    ∀ {n socks}, (c.runClients cfg n socks).w.PhaseInv := by
  intro n
  induction n generalizing c with
  | zero => exact h
  | succ n ih =>
    intro socks
    have h₁ : ({ c with
        w.clients := c.w.clients ++ [Client.create c.w.nextClientId cfg.addrs]
        w.nextClientId := c.w.nextClientId + 1
        w.nconnsMade := c.w.nconnsMade + 1
        ans := { sockets := socks.headD [] } } : Ctx).w.PhaseInv :=
      h.of_ctl rfl fun _ ha => by simpa [warmupAsserts, Client.create] using ha
    rw [Ctx.runClients]; dsimp only; split
    · exact ih (h₁.quiet Ctx.quiet_connect)
    · refine ih ?_
      have h₂ := (h₁.quiet (@Ctx.quiet_connect cfg _ c.w.clients.length)).quiet
        (@Ctx.quiet_fail _ c.w.clients.length)
      refine PhaseInv.of_ctl h₂ rfl fun _ ha => ?_
      simp only [warmupAsserts, Bool.and_eq_true, List.all_eq_true] at ha ⊢
      exact ⟨ha.1, fun x hx => ha.2 x (List.mem_of_mem_take hx)⟩

end PhaseInv

theorem Reachable.phaseInv (h : Reachable cfg w) : w.PhaseInv := by
  induction h with
  | init => exact PhaseInv.create.runClients
  | step e g _ he ih => exact ih.step he

-- The phase along the states `ws` of a run: it moves only to the next phase, takes each step at
-- most once, nothing is counted while it is not the main phase, and the assertions of
-- `warmup_timeout_cb` hold wherever the warm-up timer can fire.
def PhaseLifecycle (ws : List Worker) : Prop :=
  (ws.map phase).Chain' (fun p q => q = p ∨ q = p.next) ∧
  (∀ p q, p ≠ q → ((ws.map phase).zip (ws.map phase).tail).count (p, q) ≤ 1) ∧
  ws.Chain' (fun v v' => v.phase ≠ .mainDuration → v'.counters = v.counters) ∧
  ∀ v ∈ ws, Event.warmupTimeout.enabled v → v.warmupAsserts

theorem phase_lifecycle {w : Worker} {es : List (Event × Globals)} (h : Reachable cfg w)
    (hv : Enabled cfg w es) : PhaseLifecycle (trace cfg w es) := by
  have hadv : ((trace cfg w es).map phase).Chain' fun p q => q = p ∨ q = p.next :=
    (List.chain'_map phase).mpr <| h.chain_trace (fun _ _ hr he =>
      hr.phaseInv.advance (by rw [step_fst]; exact Event.move_dispatch he)) hv
  have hsorted : ((trace cfg w es).map phase).Pairwise fun a b => a.rank ≤ b.rank := by
    refine List.pairwise_map.mp (List.chain'_iff_pairwise.mp (List.chain'_map_of_chain' _ ?_ hadv))
    rintro a _ (rfl | rfl)
    exacts [le_rfl, Phase.rank_le_next a]
  refine ⟨hadv, fun p q hpq => Phase.count_transition_le_one hpq hsorted,
    h.chain_trace (fun _ _ _ _ hp => by rw [step_fst]; exact Event.counters_dispatch hp) hv,
    fun v hm he => ?_⟩
  have inv := (h.of_mem_trace hv hm).phaseInv
  simp only [Event.enabled, Bool.and_eq_true] at he
  exact inv.idle (by rw [inv.warmup he.2]; decide)

theorem phase_lifecycle_timed :
    PhaseLifecycle (trace ⟨0, 1, 1, 1, 10, 0, 0, 0, 0, false, .http2, false, false, [7]⟩
      (run ⟨0, 1, 1, 1, 10, 0, 0, 0, 0, false, .http2, false, false, [7]⟩ [[some 3]] ⟨0, 0, 0, none⟩
        (create ⟨0, 1, 1, 1, 10, 0, 0, 0, 0, false, .http2, false, false, [7]⟩ 0 1 []))
      [(.warmupTimeout, ⟨0, 0, 5, none⟩), (.durationTimeout, ⟨0, 0, 15, none⟩)]) :=
  phase_lifecycle (.init 0 1 [] [[some 3]] ⟨0, 0, 0, none⟩) (by decide)

end Worker

end Sofaload
