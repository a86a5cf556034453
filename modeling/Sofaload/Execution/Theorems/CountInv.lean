import Sofaload.Execution.Theorems.Phase
import Sofaload.Execution.Theorems.Streams

namespace Sofaload

-- The `io` of a client whose connection is not usable yet, before `Client::connection_made`.
def IoFn.connecting : IoFn → Bool
  | .connected | .tlsHandshake => true
  | .clear | .tls => false

namespace Client

-- The open streams whose response was classified successful.
def nsucceeded (cl : Client) : Nat :=
  streamSum (fun st => if st.statusSuccess = 1 then 1 else 0) cl.streams

-- What the count-mode invariant reads of a client.
def shape (cl : Client) : Option Session × Streams × IoFn × Nat :=
  (cl.session, cl.streams, cl.io, cl.reqInflight)

-- A client of a count-mode worker: streams exist only in a session and a session only once
-- the connection is made; the session's cap bounds its streams, and every open stream is
-- counted in `req_inflight`.
structure CountOk (cl : Client) : Prop where
  noSession : cl.session = none → cl.nstreams = 0
  connecting : cl.io.connecting → cl.session = none
  cap : ∀ s, cl.session = some s → cl.nstreams ≤ s.maxConcurrentStreams
  inflight : cl.nstreams ≤ cl.reqInflight

theorem CountOk.mono {cl cl' : Client} (h : cl.CountOk) (hs : cl'.session = cl.session)
    (hio : cl'.io = cl.io) (hn : cl'.nstreams ≤ cl.nstreams) (hin : cl'.nstreams ≤ cl'.reqInflight) :
    cl'.CountOk :=
  ⟨fun e => by have := h.noSession (hs ▸ e); omega, fun e => hs ▸ h.connecting (hio ▸ e),
    fun s e => le_trans hn (h.cap s (hs ▸ e)), hin⟩

theorem CountOk.of_shape {cl cl' : Client} (h : cl.CountOk) (hs : cl'.shape = cl.shape) :
    cl'.CountOk := by
  obtain ⟨h1, h2, h3, h4⟩ : cl'.session = cl.session ∧ cl'.streams = cl.streams ∧
      cl'.io = cl.io ∧ cl'.reqInflight = cl.reqInflight := by simpa [shape] using hs
  have hn : cl'.nstreams = cl.nstreams := by rw [nstreams, h2]; rfl
  exact ⟨by rw [hn, h1]; exact h.noSession, by rw [h1, h3]; exact h.connecting,
    by rw [hn, h1]; exact h.cap, by rw [hn, h4]; exact h.inflight⟩

end Client

-- The buckets a response classified successful is counted in: 2xx, 3xx and BOLT `SUCCESS`.
def Stats.successful (s : Stats) : Nat :=
  s.status 2 + s.status 3 + s.sofarpcStatus Ctx.responseStatusSuccess

namespace Worker

-- The requests in flight and the open streams classified successful, over all clients.
def inflight (w : Worker) : Nat := (w.clients.map Client.reqInflight).sum

def nsucceeded (w : Worker) : Nat := (w.clients.map Client.nsucceeded).sum

-- What holds at every reachable state of a count-mode worker: it stays in the main phase with
-- no phase timer; each client is `CountOk`; every request counted as started is completed,
-- errored or in flight; every request counted status-successful, or open and classified so, was
-- counted in a successful bucket; and no client's statistics were absorbed.
structure CountInv (w : Worker) : Prop where
  ctl : w.ctl = ⟨.mainDuration, false, false, false⟩
  clients : ∀ cl ∈ w.clients, cl.CountOk
  started : w.stats.reqStarted = w.stats.reqSuccess + w.stats.reqError + w.inflight
  statusSuccess : w.stats.reqStatusSuccess + w.nsucceeded ≤ w.stats.successful
  clientStats : w.stats.clientStats = []

theorem CountInv.phase {w : Worker} (h : w.CountInv) : w.phase = .mainDuration :=
  congrArg Ctl.phase h.ctl

end Worker

namespace Ctx

-- `c'` differs from `c` in nothing the count-mode invariant reads.
def Same (c c' : Ctx) : Prop :=
  c'.w.ctl = c.w.ctl ∧ c'.w.stats = c.w.stats ∧
    c'.w.clients.map Client.shape = c.w.clients.map Client.shape

-- Client `i` can take one more stream: it is below its session's cap.
def Room (c : Ctx) (i : Nat) : Prop :=
  ∀ s, (c.client i).session = some s → (c.client i).nstreams < s.maxConcurrentStreams

-- Client `i` keeps whether it has a session and the session's cap, and gains at most one stream.
def Grows (i : Nat) (c c' : Ctx) : Prop :=
  (c'.client i).session.map Session.maxConcurrentStreams =
      (c.client i).session.map Session.maxConcurrentStreams ∧
    (c'.client i).nstreams ≤ (c.client i).nstreams + 1

variable {cfg : Config} {c c₁ c₂ c₃ : Ctx} {i : Nat}

namespace Same

theorem refl (c : Ctx) : Same c c := ⟨rfl, rfl, rfl⟩

theorem trans (h₁ : Same c₁ c₂) (h₂ : Same c₂ c₃) : Same c₁ c₃ :=
  ⟨h₂.1.trans h₁.1, h₂.2.1.trans h₁.2.1, h₂.2.2.trans h₁.2.2⟩

theorem length (h : Same c₁ c₂) : c₂.w.clients.length = c₁.w.clients.length := by
  simpa using congrArg List.length h.2.2

theorem client (h : Same c₁ c₂) (j : Nat) : (c₂.client j).shape = (c₁.client j).shape := by
  have e (c : Ctx) :
      (c.client j).shape = ((c.w.clients.map Client.shape)[j]?).getD (default : Client).shape := by
    simp only [Ctx.client, Worker.client, List.getD_eq_getElem?_getD, List.getElem?_map,
      Option.getD_map]
  rw [e, e, h.2.2]

theorem session_streams (h : Same c₁ c₂) (j : Nat) :
    (c₂.client j).session = (c₁.client j).session ∧ (c₂.client j).streams = (c₁.client j).streams := by
  have e := h.client j
  simp only [Client.shape, Prod.mk.injEq] at e
  exact ⟨e.1, e.2.1⟩

theorem nstreams (h : Same c₁ c₂) (j : Nat) : (c₂.client j).nstreams = (c₁.client j).nstreams := by
  rw [Client.nstreams, (h.session_streams j).2]; rfl

theorem room (h : Same c₁ c₂) (hr : c₁.Room i) : c₂.Room i := by
  obtain ⟨e₁, e₂⟩ := h.session_streams i
  intro s hs; rw [Client.nstreams, e₂]; exact hr s (e₁ ▸ hs)

theorem grows (h : Same c₁ c₂) : Grows i c₁ c₂ := by
  obtain ⟨e₁, e₂⟩ := h.session_streams i
  refine ⟨by rw [e₁], ?_⟩
  rw [Client.nstreams, e₂]; exact Nat.le_succ _

theorem countInv (h : c₁.w.CountInv) (hs : Same c₁ c₂) : c₂.w.CountInv := by
  have hcl : ∀ cl ∈ c₂.w.clients, cl.CountOk := fun cl hm => by
    have : cl.shape ∈ c₁.w.clients.map Client.shape := hs.2.2 ▸ List.mem_map_of_mem _ hm
    obtain ⟨cl₀, hm₀, he⟩ := List.mem_map.mp this
    exact (h.clients cl₀ hm₀).of_shape he.symm
  have hsum (g : Option Session × Streams × IoFn × Nat → Nat) :
      (c₂.w.clients.map (g ∘ Client.shape)).sum = (c₁.w.clients.map (g ∘ Client.shape)).sum := by
    rw [← List.map_map, ← List.map_map, hs.2.2]
  have hin : c₂.w.inflight = c₁.w.inflight := hsum fun x => x.2.2.2
  have hss : c₂.w.nsucceeded = c₁.w.nsucceeded :=
    hsum fun x => streamSum (fun st => if st.statusSuccess = 1 then 1 else 0) x.2.1
  refine ⟨hs.1.trans h.ctl, hcl, ?_, ?_, ?_⟩
  · rw [hs.2.1, hin]; exact h.started
  · rw [hs.2.1, hss]; exact h.statusSuccess
  · rw [hs.2.1]; exact h.clientStats

end Same

theorem same_modClient {f : Client → Client} (hf : ∀ cl, (f cl).shape = cl.shape) :
    Same c (c.modClient i f) :=
  ⟨rfl, rfl, by simp only [modClient_clients, List.map_modify_of_comp hf]⟩

theorem same_of_w (h : c₂.w = c₁.w) : Same c₁ c₂ := by rw [Same, h]; exact ⟨rfl, rfl, rfl⟩

theorem same_signalWrite : Same c (c.signalWrite i) := same_modClient fun _ => rfl

theorem same_restartTimeout : Same c (c.restartTimeout cfg i) := by
  unfold restartTimeout; split
  · exact same_modClient fun _ => rfl
  · exact Same.refl c

theorem same_modCstat {f : ClientStat → ClientStat} : Same c (c.modCstat i f) :=
  same_modClient fun _ => rfl

theorem same_loadLeft : Same c c.loadLeft.2 := by
  unfold loadLeft; split <;> exact same_of_w rfl

theorem same_makeSocket : Same c (c.makeSocket i).2 := by
  unfold makeSocket; split <;> exact same_modClient fun _ => rfl

theorem same_openSocket : Same c (c.openSocket i).2 := by
  have hnext (l : List Nat) (a : Option Nat) : ∀ c : Ctx, Same c (c.connectNext i l a).2 := by
    induction l generalizing a with
    | nil => exact Same.refl
    | cons x l ih =>
      intro c
      have h : Same c (makeSocket i (c.modClient i ({ · with nextAddr := l }))).2 := by
        refine Same.trans ?_ same_makeSocket; exact same_modClient fun _ => rfl
      unfold connectNext; dsimp only; split
      · exact h
      · exact h.trans (ih _ _)
  unfold openSocket; split
  · exact same_makeSocket
  · dsimp only; split
    · exact hnext _ _ c
    · exact (hnext _ _ c).trans (same_modClient fun _ => rfl)

theorem same_gate : Same c (c.gate cfg i).2 := by
  unfold gate; split
  · split <;> exact ⟨rfl, rfl, rfl⟩
  · dsimp only; split
    · exact same_loadLeft
    · split <;> exact same_loadLeft.trans ⟨rfl, rfl, rfl⟩

theorem same_processRequestFailure : Same c c.processRequestFailure := by
  unfold processRequestFailure; split
  · exact Same.refl c
  · exact ⟨rfl, rfl, rfl⟩

theorem same_writeSteady : Same c (c.writeSteady i).2 := by
  unfold writeSteady; split
  · exact same_modClient fun _ => rfl
  · exact same_modClient fun _ => rfl
  · exact Same.refl c

theorem same_connectPhase (hp : c.w.phase = .mainDuration) : Same c (c.connectPhase cfg i) := by
  unfold connectPhase; rw [if_pos (by simp [hp])]; exact same_modCstat

theorem modClient_modClient {f g : Client → Client} :
    (c.modClient i f).modClient i g = c.modClient i (g ∘ f) := by
  simp only [modClient, List.modify_modify]

theorem modClient_modStats {f : Client → Client} {S : Stats → Stats} :
    (c.modClient i f).modStats S = (c.modStats S).modClient i f := rfl

theorem modStats_modStats {S T : Stats → Stats} : (c.modStats S).modStats T = c.modStats (T ∘ S) :=
  rfl

theorem lt_of_quiet {c' : Ctx} (hq : Quiet c c') (hi : i < c.w.clients.length) :
    i < c'.w.clients.length :=
  hq.2.2 ▸ hi

theorem lt_of_same {c' : Ctx} (hs : Same c c') (hi : i < c.w.clients.length) :
    i < c'.w.clients.length :=
  hs.length ▸ hi

theorem modClient_client_self {f : Client → Client} (hi : i < c.w.clients.length) :
    (c.modClient i f).client i = f (c.client i) :=
  Worker.client_modify_self hi

theorem disconnect_client (hi : i < c.w.clients.length) :
    ((c.disconnect i).client i).session = none ∧ ((c.disconnect i).client i).nstreams = 0 ∧
      ((c.disconnect i).client i).io = (c.client i).io := by
  have hi' : i < (c.modCstat i (Client.recordClientEndTime c.g.now)).w.clients.length := by
    simpa [modCstat] using hi
  unfold disconnect
  rw [modClient_client_self hi']
  unfold modCstat; rw [modClient_client_self hi]
  exact ⟨rfl, rfl, rfl⟩

theorem processAbandonedStreams_client (hi : i < c.w.clients.length) :
    ((c.processAbandonedStreams i).client i).session = (c.client i).session ∧
      ((c.processAbandonedStreams i).client i).streams = (c.client i).streams := by
  unfold processAbandonedStreams; split
  · dsimp only; rw [modClient_client_self]
    exacts [⟨rfl, rfl⟩, hi]
  · exact ⟨rfl, rfl⟩

theorem connect_client (hp : c.w.phase = .mainDuration) (hi : i < c.w.clients.length) :
    ((c.connect cfg i).2.client i).session = (c.client i).session ∧
      ((c.connect cfg i).2.client i).streams = (c.client i).streams := by
  have hs : Same c (((c.connectPhase cfg i).restartTimeout cfg i).openSocket i).2 :=
    (same_connectPhase hp).trans (same_restartTimeout.trans same_openSocket)
  have e := hs.client i
  simp only [Client.shape, Prod.mk.injEq] at e
  unfold connect; dsimp only; split
  · rw [modClient_client_self (lt_of_same hs hi)]; exact ⟨e.1, e.2.1⟩
  · exact ⟨e.1, e.2.1⟩

theorem client_eq_getElem (hi : i < c.w.clients.length) : c.client i = c.w.clients[i] := by
  simp [client, Worker.client, List.getD_eq_getElem?_getD, List.getElem?_eq_getElem hi]

theorem inflight_modClient (hi : i < c.w.clients.length) (f : Client → Client) :
    (c.modClient i f).w.inflight + (c.client i).reqInflight =
      c.w.inflight + (f (c.client i)).reqInflight := by
  have := List.sum_map_modify Client.reqInflight f i c.w.clients
  simpa [Worker.inflight, List.getElem?_eq_getElem hi, client_eq_getElem hi] using this

theorem nsucceeded_modClient (hi : i < c.w.clients.length) (f : Client → Client) :
    (c.modClient i f).w.nsucceeded + (c.client i).nsucceeded =
      c.w.nsucceeded + (f (c.client i)).nsucceeded := by
  have := List.sum_map_modify Client.nsucceeded f i c.w.clients
  simpa [Worker.nsucceeded, List.getElem?_eq_getElem hi, client_eq_getElem hi] using this

theorem recordRtt_client {r : Nat} : (c.recordRtt r).client i = c.client i := rfl

theorem modClient_recordRtt {r : Nat} {f : Client → Client} :
    (c.recordRtt r).modClient i f = (c.modClient i f).recordRtt r := rfl

theorem same_recordRtt {r : Nat} : Same c (c.recordRtt r) := ⟨rfl, rfl, rfl⟩

theorem modStream_modStats {sid : Nat} {f : Stream → Stream} {S : Stats → Stats} :
    (c.modStream i sid f).modStats S = (c.modStats S).modStream i sid f := rfl

theorem modClient_id : c.modClient i (fun cl => cl) = c := by
  show c.modClient i id = c; simp only [modClient, List.modify_id]

theorem countStarted_client (hi : i < c.w.clients.length) :
    ((c.countStarted cfg i).client i).session = (c.client i).session ∧
      ((c.countStarted cfg i).client i).streams = (c.client i).streams := by
  unfold countStarted; dsimp only; split <;>
    simp only [modClient_client_self, modClient_clients, List.length_modify, modStats_clients,
      modStats_client, hi, and_self]

theorem Grows.of_same (hs : Same c c₁) (h : Grows i c₁ c₂) : Grows i c c₂ := by
  rw [Grows, ← (hs.session_streams i).1, ← hs.nstreams i]; exact h

theorem Grows.of_client (h : Grows i c c₁) (e₁ : (c₂.client i).session = (c₁.client i).session)
    (e₂ : (c₂.client i).streams = (c₁.client i).streams) : Grows i c c₂ := by
  have e : (c₂.client i).nstreams = (c₁.client i).nstreams := by rw [Client.nstreams, e₂]; rfl
  rw [Grows, e₁, e]; exact h

theorem grows_sessionSubmit (hi : i < c.w.clients.length) : Grows i c (c.sessionSubmit i).2 := by
  unfold sessionSubmit; split
  · exact (Same.refl c).grows
  · next s hs =>
    split
    · dsimp only; rw [Grows, modClient_client_self]
      exacts [by rw [hs]; exact ⟨rfl, length_insert_le _ _ _⟩, hi]
    · exact (same_of_w rfl).grows

theorem grows_submitPassed (hi : i < c.w.clients.length) : Grows i c (c.submitPassed cfg i).2 := by
  have h : Grows i c ({ c with g.totalReqSend := c.g.totalReqSend + 1 }.sessionSubmit i).2 :=
    grows_sessionSubmit hi
  have hi' := lt_of_quiet (@frame_sessionSubmit { c with g.totalReqSend := c.g.totalReqSend + 1 }
    i).quiet hi
  unfold submitPassed; dsimp only; split
  · exact h
  · split
    · exact h.of_client (countStarted_client hi').1 (countStarted_client hi').2
    · exact h

theorem grows_submitRequest (hi : i < c.w.clients.length) : Grows i c (c.submitRequest cfg i).2 := by
  have hs : Same c (c.gate cfg i).2 := same_gate
  unfold submitRequest; dsimp only; split
  · exact hs.grows
  · exact hs.grows
  · exact Grows.of_same hs (grows_submitPassed (lt_of_same hs hi))

end Ctx

namespace Worker.CountInv

open Ctx

variable {cfg : Config} {c : Ctx} {i : Nat}

-- One update of the statistics and of client `i` keeps the invariant when the new client is
-- `CountOk` and the counters move together: what is started with what is completed, errored
-- or in flight, and what is status-successful with the successful buckets.
theorem update (h : c.w.CountInv) (hi : i < c.w.clients.length) {S : Stats → Stats}
    {F : Client → Client} (hf : (F (c.client i)).CountOk)
    (hst : (S c.w.stats).reqStarted + (c.client i).reqInflight + c.w.stats.reqSuccess +
        c.w.stats.reqError = c.w.stats.reqStarted + (S c.w.stats).reqSuccess +
        (S c.w.stats).reqError + (F (c.client i)).reqInflight)
    (hss : (S c.w.stats).reqStatusSuccess + (F (c.client i)).nsucceeded + c.w.stats.successful ≤
      c.w.stats.reqStatusSuccess + (c.client i).nsucceeded + (S c.w.stats).successful)
    (hcs : (S c.w.stats).clientStats = c.w.stats.clientStats) :
    ((c.modStats S).modClient i F).w.CountInv := by
  have e₁ : ((c.modStats S).modClient i F).w.inflight + (c.client i).reqInflight =
      c.w.inflight + (F (c.client i)).reqInflight := inflight_modClient hi F
  have e₂ : ((c.modStats S).modClient i F).w.nsucceeded + (c.client i).nsucceeded =
      c.w.nsucceeded + (F (c.client i)).nsucceeded := nsucceeded_modClient hi F
  have h₁ := h.started
  have h₂ := h.statusSuccess
  refine ⟨h.ctl, List.forall_mem_modify F i _ h.clients fun hi' => ?_, ?_, ?_, ?_⟩
  · rwa [← client_eq_getElem hi']
  · simp only [modClient_stats, modStats_stats]; omega
  · simp only [modClient_stats, modStats_stats]; omega
  · simp only [modClient_stats, modStats_stats, hcs, h.clientStats]

theorem modClient (h : c.w.CountInv) (hi : i < c.w.clients.length) {F : Client → Client}
    (hf : (F (c.client i)).CountOk) (hinf : (F (c.client i)).reqInflight = (c.client i).reqInflight)
    (hss : (F (c.client i)).nsucceeded ≤ (c.client i).nsucceeded) : (c.modClient i F).w.CountInv :=
  @update c i h hi (fun s => s) F hf (by dsimp only; rw [hinf]; omega) (by dsimp only; omega) rfl

theorem clientOk (h : c.w.CountInv) (hi : i < c.w.clients.length) : (c.client i).CountOk :=
  h.clients _ (Worker.client_mem hi)

theorem terminateSession (h : c.w.CountInv) (hi : i < c.w.clients.length) :
    (c.terminateSession i).w.CountInv := by
  have ok := h.clientOk hi
  refine Same.countInv ?_ same_signalWrite
  refine h.modClient hi ⟨fun e => ok.noSession (by simpa using e), fun e => by simpa using ok.connecting e,
    fun s e => ?_, ok.inflight⟩ rfl le_rfl
  obtain ⟨s₀, h₀, rfl⟩ := Option.map_eq_some'.mp e
  exact ok.cap s₀ h₀

theorem disconnect (h : c.w.CountInv) (hi : i < c.w.clients.length) :
    (c.disconnect i).w.CountInv := by
  have h' : (c.modCstat i (Client.recordClientEndTime c.g.now)).w.CountInv :=
    Same.countInv h same_modCstat
  exact h'.modClient (by simpa [modCstat] using hi) ⟨fun _ => rfl, fun _ => rfl, nofun, Nat.zero_le _⟩
    rfl (Nat.zero_le _)

theorem processAbandonedStreams (h : c.w.CountInv) (hi : i < c.w.clients.length)
    (hn : (c.client i).nstreams = 0) : (c.processAbandonedStreams i).w.CountInv := by
  have ok := h.clientOk hi
  unfold Ctx.processAbandonedStreams; rw [if_pos h.phase]
  exact h.update hi ⟨ok.noSession, ok.connecting, ok.cap, by show (c.client i).nstreams ≤ 0; omega⟩
    (by dsimp only; omega)
    (by simp only [Client.nsucceeded, Stats.successful]; omega) rfl

theorem fail (h : c.w.CountInv) (hi : i < c.w.clients.length) : (c.fail i).w.CountInv :=
  (h.disconnect hi).processAbandonedStreams (lt_of_quiet frame_disconnect.quiet hi)
    (disconnect_client hi).2.1

theorem timeout (h : c.w.CountInv) (hi : i < c.w.clients.length) : (c.timeout i).w.CountInv := by
  unfold Ctx.timeout Ctx.processTimedoutStreams Ctx.processAbandonedStreams Ctx.disconnect
    Ctx.modCstat
  simp only [h.phase, modStats_phase, if_true, modClient_modClient, modStats_modStats, modClient_g]
  exact h.update hi ⟨fun _ => rfl, fun _ => rfl, nofun, Nat.zero_le _⟩
    (by simp only [Function.comp_apply, modStats_client]; omega)
    (by simp only [Function.comp_apply, Client.nsucceeded, streamSum_empty, Stats.successful]; omega)
    rfl

theorem connect (h : c.w.CountInv) (hi : i < c.w.clients.length)
    (hs : (c.client i).session = none) : (c.connect cfg i).2.w.CountInv := by
  have hsame : Same c (((c.connectPhase cfg i).restartTimeout cfg i).openSocket i).2 :=
    (same_connectPhase h.phase).trans (same_restartTimeout.trans same_openSocket)
  unfold Ctx.connect
  generalize ((c.connectPhase cfg i).restartTimeout cfg i).openSocket i = r at hsame ⊢
  have h' := hsame.countInv h
  have e := hsame.client i
  simp only [Client.shape, Prod.mk.injEq] at e
  have ok := h'.clientOk (lt_of_same hsame hi)
  dsimp only; split
  · exact h'.modClient (lt_of_same hsame hi)
      ⟨ok.noSession, fun _ => e.1.trans hs, ok.cap, ok.inflight⟩ rfl le_rfl
  · exact h'

-- Counting a started request on client `i` after `F` opened at most its stream.
theorem countStarted (h : c.w.CountInv) (hi : i < c.w.clients.length) {F : Client → Client}
    (hf : ({ (F (c.client i)) with
      reqStarted := (F (c.client i)).reqStarted + 1
      reqInflight := (F (c.client i)).reqInflight + 1 } : Client).CountOk)
    (hinf : (F (c.client i)).reqInflight = (c.client i).reqInflight)
    (hss : (F (c.client i)).nsucceeded ≤ (c.client i).nsucceeded) :
    ((c.modClient i F).countStarted cfg i).w.CountInv := by
  have h' : ((c.modStats fun st => { st with reqStarted := st.reqStarted + 1 }).modClient i
      ((fun cl => { cl with reqStarted := cl.reqStarted + 1, reqInflight := cl.reqInflight + 1 }) ∘
        F)).w.CountInv :=
    h.update hi hf (by simp only [Function.comp_apply]; omega)
      (by simp only [Function.comp_apply, Client.nsucceeded, Stats.successful] at hss ⊢; omega) rfl
  unfold Ctx.countStarted; rw [modClient_modStats, modClient_modClient]; split
  · exact Same.countInv h' (same_modClient fun _ => rfl)
  · exact h'

-- A session's verdict: an accepted request is counted as started, a refused one changes nothing
-- the invariant reads.
theorem sessionSubmit (h : c.w.CountInv) (hi : i < c.w.clients.length) (hr : c.Room i) :
    ((c.sessionSubmit i).1 = true → ((c.sessionSubmit i).2.countStarted cfg i).w.CountInv) ∧
      ((c.sessionSubmit i).1 = false → (c.sessionSubmit i).2.w.CountInv) := by
  have ok := h.clientOk hi
  unfold Ctx.sessionSubmit
  split
  · refine ⟨fun _ => ?_, nofun⟩
    have e : ((c.modClient i fun cl => cl).countStarted cfg i).w.CountInv :=
      h.countStarted hi ⟨ok.noSession, ok.connecting, ok.cap, Nat.le_succ_of_le ok.inflight⟩ rfl le_rfl
    rwa [modClient_id] at e
  · next s hs =>
    have h₁ : ({ c with ans.accepts := c.ans.accepts.tail } : Ctx).w.CountInv := h
    have hn := length_insert_le (c.client i).streams s.nextStreamId (Stream.create c.g.now)
    have hroom := hr s hs
    have hin := ok.inflight
    split
    · refine ⟨fun _ => ?_, nofun⟩
      have e : ((({ c with ans.accepts := c.ans.accepts.tail } : Ctx).modClient i fun cl =>
          { cl with
            streams := cl.streams.insert s.nextStreamId (Stream.create c.g.now)
            session := some { s with nextStreamId := s.nextStreamId + 1 } }).countStarted
            cfg i).w.CountInv := by
        refine h₁.countStarted hi ⟨nofun, fun e => ?_, fun s' e => ?_, ?_⟩ rfl ?_
        · exact absurd (hs.symm.trans (ok.connecting e)) (Option.some_ne_none s)
        · cases Option.some.inj e
          show ((c.client i).streams.insert s.nextStreamId (Stream.create c.g.now)).entries.length ≤
            s.maxConcurrentStreams
          simp only [Client.nstreams] at hroom; omega
        · show ((c.client i).streams.insert s.nextStreamId (Stream.create c.g.now)).entries.length ≤
            (c.client i).reqInflight + 1
          simp only [Client.nstreams] at hin; omega
        · refine le_of_le_of_eq (streamSum_insert_le _) ?_
          simp [Stream.create, Client.nsucceeded]
      exact e
    · exact ⟨nofun, fun _ => h⟩

theorem submitPassed (h : c.w.CountInv) (hi : i < c.w.clients.length) (hr : c.Room i) :
    (c.submitPassed cfg i).2.w.CountInv := by
  have h₀ : ({ c with g.totalReqSend := c.g.totalReqSend + 1 } : Ctx).w.CountInv := h
  have hs := @CountInv.sessionSubmit cfg _ i h₀ hi hr
  have hp := congrArg Ctl.phase
    (@frame_sessionSubmit { c with g.totalReqSend := c.g.totalReqSend + 1 } i).1
  unfold Ctx.submitPassed; dsimp only
  split
  · next hb => exact hs.2 (by simpa using hb)
  · next hb =>
    split
    · exact hs.1 (by simpa using hb)
    · next hp' => exact absurd (hp.trans h.phase) hp'

theorem submitRequest (h : c.w.CountInv) (hi : i < c.w.clients.length) (hr : c.Room i) :
    (c.submitRequest cfg i).2.w.CountInv := by
  have hs : Same c (c.gate cfg i).2 := same_gate
  unfold Ctx.submitRequest; dsimp only; split
  · exact hs.countInv h
  · exact hs.countInv h
  · exact (hs.countInv h).submitPassed (lt_of_same hs hi) (hs.room hr)

-- The initial requests of a new session: each finds room while fewer than `n` streams remain
-- below the cap `M`.
theorem submitInitial {M : Nat} :
    ∀ (n : Nat) {c : Ctx}, c.w.CountInv → i < c.w.clients.length →
      (c.client i).session.map Session.maxConcurrentStreams = some M →
      (c.client i).nstreams + n ≤ M → (c.submitInitial cfg i n).w.CountInv
  | 0, _, h, _, _, _ => h
  | n + 1, c, h, hi, hM, hn => by
    have hr : c.Room i := fun s hs => by
      rw [hs, Option.map_some', Option.some.injEq] at hM; omega
    have h' := @CountInv.submitRequest cfg c i h hi hr
    obtain ⟨hM', hn'⟩ := @grows_submitRequest cfg c i hi
    unfold Ctx.submitInitial; dsimp only; split
    · exact submitInitial n h' (lt_of_quiet quiet_submitRequest hi) (hM'.trans hM) (by omega)
    · exact same_processRequestFailure.countInv h'

end Worker.CountInv

end Sofaload
