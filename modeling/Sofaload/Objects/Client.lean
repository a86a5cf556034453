import Sofaload.Objects.Config

namespace Sofaload

-- `RequestStat`: the timestamps and outcome of one request, on the steady clock.
structure RequestStat where
  requestTime : Nat
  streamCloseTime : Nat
  status : Nat
  completed : Bool
  deriving DecidableEq, Repr

-- `Stream`: one in-flight request; `statusSuccess` is -1 (unknown), 0 (failed) or 1 (succeeded).
structure Stream where
  reqStat : RequestStat
  statusSuccess : Int
  deriving DecidableEq, Repr

-- A stream as `Client::on_request` creates it (`Stream::Stream()`), with the request time the
-- session records right after.
def Stream.create (now : Nat) : Stream :=
  { reqStat := { requestTime := now, streamCloseTime := 0, status := 0, completed := false }
    statusSuccess := -1 }

-- `ClientStat`: per-connection timestamps, absorbed into the worker's `client_stats`.
structure ClientStat where
  clientStartTime : Nat
  clientEndTime : Nat
  connectStartTime : Nat
  connectTime : Nat
  ttfb : Nat
  reqSuccess : Nat
  deriving DecidableEq, Repr

-- The protocol session behind a connection. Its code is not under src/; the model keeps what the
-- client relies on: the cap `max_concurrent_streams()`, fresh stream ids handed to `on_request`,
-- and whether `terminate()` was called.
structure Session where
  proto : Proto
  maxConcurrentStreams : Nat
  nextStreamId : Nat
  terminated : Bool
  deriving DecidableEq, Repr

/-- Modelled from the spec: the session classes (h2load_*_session.cc) are not under src/.
`max_concurrent_streams()` is the configured cap, except that HTTP/1.1 collapses its pipeline to
one request when a POST body is configured (spec 4.2); stream ids are fresh. -/
def Session.create (cfg : Config) (p : Proto) : Session where
  proto := p
  maxConcurrentStreams := if p = .http1_1 ∧ cfg.hasData then 1 else cfg.maxConcurrentStreams
  nextStreamId := 1
  terminated := false

inductive ClientState
  | idle
  | connected
  deriving DecidableEq, Repr

-- The `readfn`/`writefn` pair: `connected` while the TCP connection is pending (the write side
-- is `Client::connected`), then the TLS handshake, then steady-state clear or TLS I/O.
inductive IoFn
  | connected
  | tlsHandshake
  | clear
  | tls
  deriving DecidableEq, Repr

abbrev Streams := AList fun _ : Nat => Stream

namespace Client

-- The timestamp setters of `ClientStat`; a time point is recorded when it is non-zero.
def recordClientStartTime (now : Nat) (cs : ClientStat) : ClientStat :=
  if cs.clientStartTime ≠ 0 then cs else { cs with clientStartTime := now }

def clearConnectTimes (cs : ClientStat) : ClientStat :=
  { cs with connectStartTime := 0, connectTime := 0, ttfb := 0 }

def recordConnectStartTime (now : Nat) (cs : ClientStat) : ClientStat :=
  { cs with connectStartTime := now }

def recordClientEndTime (now : Nat) (cs : ClientStat) : ClientStat :=
  { cs with clientEndTime := now }

def recordConnectTime (now : Nat) (cs : ClientStat) : ClientStat :=
  { cs with connectTime := now }

def recordTtfb (now : Nat) (cs : ClientStat) : ClientStat :=
  if cs.ttfb ≠ 0 then cs else { cs with ttfb := now }

-- The three calls `Client::connect` and `warmup_timeout_cb` make together.
def restartTimes (now : Nat) (cs : ClientStat) : ClientStat :=
  recordConnectStartTime now (clearConnectTimes (recordClientStartTime now cs))

end Client

-- `Client`: one connection slot. `nextAddr` is the rest of the address list from `next_addr`;
-- `wev`/`rev` and the three timers record whether the watcher is active.
structure Client where
  id : Nat
  state : ClientState
  session : Option Session
  streams : Streams
  reqInflight : Nat
  reqStarted : Nat
  reqDone : Nat
  cstat : ClientStat
  fd : Int
  nextAddr : List Nat
  currentAddr : Option Nat
  io : IoFn
  wev : Bool
  rev : Bool
  connInactivityWatcher : Bool
  connActiveWatcher : Bool
  requestTimeoutWatcher : Bool
  newConnectionRequested : Bool

namespace Client

-- `Client::Client`
def create (id : Nat) (addrs : List Nat) : Client where
  id := id
  state := .idle
  session := none
  streams := ∅
  reqInflight := 0
  reqStarted := 0
  reqDone := 0
  cstat := ⟨0, 0, 0, 0, 0, 0⟩
  fd := -1
  nextAddr := addrs
  currentAddr := none
  io := .connected
  wev := false
  rev := false
  connInactivityWatcher := false
  connActiveWatcher := false
  requestTimeoutWatcher := false
  newConnectionRequested := false

instance : Inhabited Client := ⟨create 0 []⟩

-- The number of open streams, `streams.size()`.
def nstreams (c : Client) : Nat := c.streams.entries.length

end Client

end Sofaload
