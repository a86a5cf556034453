import Sofaload.Objects.Client

namespace Sofaload

-- `Stats`: a worker's counters. `status` is the `std::array` of HTTP status classes indexed by
-- `status / 100`, `sofarpcStatus` the array of BOLT response statuses.
structure Stats where
  reqStarted : Nat
  reqDone : Nat
  reqSuccess : Nat
  reqStatusSuccess : Nat
  reqFailed : Nat
  reqError : Nat
  reqTimedout : Nat
  bytesTotal : Nat
  status : Nat → Nat
  sofarpcStatus : Nat → Nat
  reqStats : List RequestStat
  clientStats : List ClientStat

-- `Stats::Stats`
def Stats.empty : Stats :=
  ⟨0, 0, 0, 0, 0, 0, 0, 0, fun _ => 0, fun _ => 0, [], []⟩

-- `Worker`: one thread's event loop state. The watcher fields record whether `warmup_watcher`,
-- `duration_watcher` and the periodic `qpsUpdater` are active; `running` is false once the loop
-- was broken with `ev_break`. `clientsBlockedDueToQps` keeps the vector's back at its head.
structure Worker where
  id : Nat
  stats : Stats
  clients : List Client
  phase : Phase
  warmupWatcher : Bool
  durationWatcher : Bool
  qpsUpdater : Bool
  qpsLeft : Nat
  qpsCounts : List Nat
  qpsCountIndex : Nat
  clientsBlockedDueToQps : List Nat
  rtts : List Nat
  rttMin : Nat
  rttMax : Nat
  nconnsMade : Nat
  nclients : Nat
  nextClientId : Nat
  running : Bool

-- `qps_update_period_ms` and `qps_update_per_second`
def qpsUpdatePeriodMs : Nat := 5

def qpsUpdatePerSecond : Nat := 1000 / qpsUpdatePeriodMs

-- The worker's share of `config.qps` computed in `main`.
def qpsShare (cfg : Config) (i : Nat) : Nat :=
  cfg.qps / cfg.nthreads + if i < cfg.qps % cfg.nthreads then 1 else 0

-- The loop of `main` that puts each of `n` tokens into the slot `std::rand() % 200`; `rands` are
-- the values `std::rand` returns, in order.
def placeTokens : Nat → List Nat → List Nat → List Nat
  | 0, _, counts => counts
  | n + 1, rands, counts =>
    placeTokens n rands.tail (counts.modify (· + 1) (rands.headD 0 % qpsUpdatePerSecond))

-- The slot array `main` hands to worker `i` with `set_qps_counts`.
def qpsCountsFor (cfg : Config) (i : Nat) (rands : List Nat) : List Nat :=
  placeTokens (qpsShare cfg i) rands (List.replicate qpsUpdatePerSecond 0)

namespace Worker

-- `create_worker` (`Worker::Worker`), followed in QPS mode by `set_qps_counts`.
def create (cfg : Config) (id nclients : Nat) (rands : List Nat) : Worker where
  id := id
  stats := Stats.empty
  clients := []
  phase := if cfg.isTimingBasedMode then .initialIdle else .mainDuration
  warmupWatcher := false
  durationWatcher := false
  qpsUpdater := false
  qpsLeft := 0
  qpsCounts := if cfg.isQpsMode then qpsCountsFor cfg id rands else []
  qpsCountIndex := 0
  clientsBlockedDueToQps := []
  rtts := []
  rttMin := 2 ^ 64 - 1
  rttMax := 0
  nconnsMade := 0
  nclients := nclients
  nextClientId := 0
  running := true

def client (w : Worker) (i : Nat) : Client := w.clients.getD i default

-- The sum of `f` over the worker's clients.
def sumClients (w : Worker) (f : Client → Nat) : Nat := (w.clients.map f).sum

end Worker

end Sofaload
