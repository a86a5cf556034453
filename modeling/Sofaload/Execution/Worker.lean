import Sofaload.Execution.Client

namespace Sofaload

namespace Ctx

variable (cfg : Config)

/-- Modelled from the spec: `RESPONSE_STATUS_SUCCESS` is declared in sofarpc.h, which is not
under src/; a SUCCESS response is counted in `sofarpcStatus[0]`. -/
def responseStatusSuccess : Nat := 0

-- The bytes of the header name `:status`.
def statusName : List UInt8 := [58, 115, 116, 97, 116, 117, 115]

-- The digit loop of `Client::on_header`: `none` once the value passes 999.
def parseStatus : List UInt8 → Nat → Option Nat
  | [], acc => some acc
  | b :: rest, acc =>
    if 48 ≤ b.toNat ∧ b.toNat ≤ 57 then
      if 999 < acc * 10 + (b.toNat - 48) then none else parseStatus rest (acc * 10 + (b.toNat - 48))
    else some acc

-- The classification `Client::on_header` and `Client::on_status_code` share in the main phase.
def classifyStatus (i sid status : Nat) (c : Ctx) : Ctx :=
  let bump (b : Nat) (c : Ctx) : Ctx :=
    c.modStats fun s => { s with status := Function.update s.status b (s.status b + 1) }
  let set (ss : Int) (c : Ctx) : Ctx :=
    c.modStream i sid fun st => { st with reqStat.status := status, statusSuccess := ss }
  if 200 ≤ status ∧ status < 300 then set 1 (bump 2 c)
  else if status < 400 then set 1 (bump 3 c)
  else if status < 600 then set 0 (bump (status / 100) c)
  else set 0 c

-- Outside the main phase every status callback marks the stream successful and counts nothing.
def markWarmUp (i sid : Nat) (c : Ctx) : Ctx :=
  c.modStream i sid ({ · with statusSuccess := 1 })

-- `Client::on_header`
def onHeader (i sid : Nat) (name value : List UInt8) (c : Ctx) : Ctx :=
  match (c.client i).streams.lookup sid with
  | none => c
  | some st =>
    if c.w.phase ≠ .mainDuration then c.markWarmUp i sid
    else if st.statusSuccess = -1 ∧ name = statusName then
      match parseStatus value 0 with
      | none => c.modStream i sid ({ · with statusSuccess := 0 })
      | some s => c.classifyStatus i sid s
    else c

-- `Client::on_status_code`
def onStatusCode (i sid : Nat) (status : UInt16) (c : Ctx) : Ctx :=
  match (c.client i).streams.lookup sid with
  | none => c
  | some _ =>
    if c.w.phase ≠ .mainDuration then c.markWarmUp i sid else c.classifyStatus i sid status.toNat

-- `Client::on_sofarpc_status`
def onSofarpcStatus (i sid : Nat) (status : UInt16) (c : Ctx) : Ctx :=
  match (c.client i).streams.lookup sid with
  | none => c
  | some _ =>
    if c.w.phase ≠ .mainDuration then c.markWarmUp i sid
    else
      (c.modStream i sid fun st => { st with
        reqStat.status := status.toNat
        statusSuccess := if status.toNat = responseStatusSuccess then 1 else 0 })
      |>.modStats fun s => { s with
        sofarpcStatus := Function.update s.sofarpcStatus status.toNat (s.sofarpcStatus status.toNat + 1) }

-- `writecb`. `Worker::free_client` has an empty body and is left out.
def writecb (i : Nat) (c : Ctx) : Ctx :=
  let r := (c.restartTimeout cfg i).doWrite cfg i
  if r.1 = errConnectFail then
    let s := ((r.2.disconnect i).modClient i ({ · with currentAddr := none })).connect cfg i
    if s.1 then s.2 else s.2.fail i
  else if r.1 ≠ 0 then r.2.fail i
  else r.2

-- `readcb`
def readcb (i : Nat) (c : Ctx) : Ctx :=
  let r := (c.restartTimeout cfg i).doRead cfg i
  if r.1 ≠ 0 then (r.2.tryAgainOrFail cfg i).2 else r.2.writecb cfg i

-- `conn_timeout_cb`; `socketConnected` is `util::check_socket_connected(client->fd)`.
def connTimeoutCb (i : Nat) (socketConnected : Bool) (c : Ctx) : Ctx :=
  let c := c.modClient i ({ · with connInactivityWatcher := false, connActiveWatcher := false })
  if socketConnected then c.timeout i else c

-- `warmup_timeout_cb`, after its assertions (`WarmupAsserts`).
def warmupTimeoutCb (c : Ctx) : Ctx :=
  { c with
    w.clients := c.w.clients.map fun cl => { cl with cstat := Client.restartTimes c.g.now cl.cstat }
    w.phase := .mainDuration, w.warmupWatcher := false, w.durationWatcher := true,
    w.qpsUpdater := true }

-- `Worker::process_client_stat`
def processClientStat (cs : ClientStat) (c : Ctx) : Ctx :=
  c.modStats fun s => { s with clientStats := s.clientStats ++ [cs] }

-- One round of `Worker::stop_all_clients`.
def stopClient (c : Ctx) (i : Nat) : Ctx :=
  let c := c.modCstat i (Client.recordClientEndTime c.g.now)
  let c := if (c.client i).session.isSome then (c.terminateSession i).disconnect i else c
  c.processClientStat (c.client i).cstat

-- `Worker::stop_all_clients`
def stopAllClients (c : Ctx) : Ctx :=
  (List.range c.w.clients.length).foldl stopClient c

-- `duration_timeout_cb`
def durationTimeoutCb (c : Ctx) : Ctx :=
  let c := { c with
    g.totalReqLeft := 0, w.phase := .durationOver, w.durationWatcher := false, w.qpsUpdater := false }
  { c.stopAllClients with w.running := false }

-- The loop `while (worker->qpsLeft && !worker->clientsBlockedDueToQps.empty())` of
-- `update_worker_qpsLeft`. A round pops one entry and pushes none (its submission finds a token),
-- so the queue's length bounds the rounds.
def drainBlocked : Nat → Ctx → Ctx
  | 0, c => c
  | n + 1, c =>
    match c.w.clientsBlockedDueToQps with
    | [] => c
    | j :: rest =>
      if c.w.qpsLeft = 0 then c
      else
        let r := { c with w.clientsBlockedDueToQps := rest }.submitRequest cfg j
        drainBlocked n ((if r.1 then r.2 else r.2.processRequestFailure).signalWrite j)

-- `update_worker_qpsLeft`
def updateWorkerQpsLeft (c : Ctx) : Ctx :=
  let c :=
    if c.w.qpsCounts ≠ [] then
      { c with
        w.qpsLeft := c.w.qpsLeft + c.w.qpsCounts.getD c.w.qpsCountIndex 0
        w.qpsCountIndex := (c.w.qpsCountIndex + 1) % c.w.qpsCounts.length }
    else { c with w.qpsLeft := intMax }
  c.drainBlocked cfg c.w.clientsBlockedDueToQps.length

-- The loop of `Worker::run` creating and connecting `n` clients; `socks` holds each client's
-- answers to `make_socket`. A client whose connect fails is failed and not kept.
def runClients : Nat → List (List (Option Nat)) → Ctx → Ctx
  | 0, _, c => c
  | n + 1, socks, c =>
    let k := c.w.clients.length
    let c := { c with
      w.clients := c.w.clients ++ [Client.create c.w.nextClientId cfg.addrs]
      w.nextClientId := c.w.nextClientId + 1
      w.nconnsMade := c.w.nconnsMade + 1
      ans := { sockets := socks.headD [] } }
    let r := c.connect cfg k
    if r.1 then runClients n socks.tail r.2
    else runClients n socks.tail { r.2.fail k with w.clients := (r.2.fail k).w.clients.take k }

end Ctx

-- The callbacks the worker's loop dispatches, with the answers they consume. Session callbacks
-- (`on_header` to `record_ttfb`) run inside the session's `on_read`/`on_write`.
inductive Event
  | readcb (i : Nat) (ans : Answers)
  | writecb (i : Nat) (ans : Answers)
  | connTimeout (i : Nat) (socketConnected : Bool)
  | onHeader (i sid : Nat) (name value : List UInt8)
  | onStatusCode (i sid : Nat) (status : UInt16)
  | onSofarpcStatus (i sid : Nat) (status : UInt16)
  | onStreamClose (i sid : Nat) (success final : Bool) (ans : Answers)
  | tryNewConnection (i : Nat)
  | recordTtfb (i : Nat)
  | warmupTimeout
  | durationTimeout
  | qpsTick (ans : Answers)

-- A session callback runs inside the `on_read` or `on_write` of a client that has a session.
def Client.inSession (cl : Client) : Bool := cl.session.isSome && (cl.rev || cl.wev)

namespace Event

def answers : Event → Answers
  | readcb _ a | writecb _ a | onStreamClose _ _ _ _ a | qpsTick a => a
  | _ => {}

-- When the loop can dispatch the event: its watcher is active or, for a session callback, the
-- client is in a session (and the stream is open, for a close).
def enabled (w : Worker) : Event → Bool
  | readcb i _ => w.running && decide (i < w.clients.length) && (w.client i).rev
  | writecb i _ => w.running && decide (i < w.clients.length) && (w.client i).wev
  | connTimeout i _ => w.running && decide (i < w.clients.length) &&
      ((w.client i).connInactivityWatcher || (w.client i).connActiveWatcher)
  | onHeader i .. | onStatusCode i .. | onSofarpcStatus i .. | tryNewConnection i | recordTtfb i =>
      w.running && decide (i < w.clients.length) && (w.client i).inSession
  | onStreamClose i sid .. => w.running && decide (i < w.clients.length) &&
      (w.client i).inSession && ((w.client i).streams.lookup sid).isSome
  | warmupTimeout => w.running && w.warmupWatcher
  | durationTimeout => w.running && w.durationWatcher
  | qpsTick _ => w.running && w.qpsUpdater

-- The callback the worker's loop runs for the event.
def dispatch (cfg : Config) (e : Event) (c : Ctx) : Ctx :=
  match e with
  | readcb i _ => c.readcb cfg i
  | writecb i _ => c.writecb cfg i
  | connTimeout i b => c.connTimeoutCb i b
  | onHeader i sid name value => c.onHeader i sid name value
  | onStatusCode i sid s => c.onStatusCode i sid s
  | onSofarpcStatus i sid s => c.onSofarpcStatus i sid s
  | onStreamClose i sid success final _ => c.onStreamClose cfg i sid success final
  | tryNewConnection i => c.modClient i ({ · with newConnectionRequested := true })
  | recordTtfb i => c.modCstat i (Client.recordTtfb c.g.now)
  | warmupTimeout => c.warmupTimeoutCb
  | durationTimeout => c.durationTimeoutCb
  | qpsTick _ => c.updateWorkerQpsLeft cfg

end Event

namespace Worker

-- One callback of the worker's loop, on the thread's view of the globals.
def step (cfg : Config) (e : Event) (w : Worker) (g : Globals) : Worker × Globals :=
  let c := e.dispatch cfg ⟨w, g, e.answers⟩
  (c.w, c.g)

-- `ev_run` has returned: the loop was broken, or no watcher is active.
def stopped (w : Worker) : Bool :=
  !w.running || !w.warmupWatcher && !w.durationWatcher && !w.qpsUpdater &&
    w.clients.all fun cl => !cl.rev && !cl.wev && !cl.connInactivityWatcher && !cl.connActiveWatcher

-- `Worker::run` up to `ev_run`.
def run (cfg : Config) (socks : List (List (Option Nat))) (g : Globals) (w : Worker) : Worker :=
  (Ctx.runClients cfg w.nclients socks ⟨w, g, {}⟩).w

-- The states a worker's loop can reach, whatever the other threads do to the globals between
-- its callbacks.
inductive Reachable (cfg : Config) : Worker → Prop
  | init (id nclients : Nat) (rands : List Nat) (socks : List (List (Option Nat))) (g : Globals) :
      Reachable cfg (run cfg socks g (create cfg id nclients rands))
  | step {w : Worker} (e : Event) (g : Globals) :
      Reachable cfg w → e.enabled w → Reachable cfg (step cfg e w g).1

end Worker

end Sofaload
