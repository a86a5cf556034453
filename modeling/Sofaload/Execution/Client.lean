import Sofaload.Execution.Context

namespace Sofaload

namespace Ctx

variable (cfg : Config)

-- Applies `f` to the stream `sid` of client `i`, if it is open.
def modStream (i sid : Nat) (f : Stream → Stream) (c : Ctx) : Ctx :=
  c.modClient i fun cl =>
    match cl.streams.lookup sid with
    | some st => { cl with streams := cl.streams.replace sid (f st) }
    | none => cl

def modCstat (i : Nat) (f : ClientStat → ClientStat) (c : Ctx) : Ctx :=
  c.modClient i fun cl => { cl with cstat := f cl.cstat }

-- `Client::signal_write`
def signalWrite (i : Nat) (c : Ctx) : Ctx :=
  c.modClient i ({ · with wev := true })

-- `Client::restart_timeout`; `Client::connect` arms the same timer with the same code.
def restartTimeout (i : Nat) (c : Ctx) : Ctx :=
  if 0 < cfg.connInactivityTimeout then c.modClient i ({ · with connInactivityWatcher := true })
  else c

-- `Client::disconnect`. The TLS object's shutdown is not modelled.
def disconnect (i : Nat) (c : Ctx) : Ctx :=
  (c.modCstat i (Client.recordClientEndTime c.g.now)).modClient i fun cl =>
    { cl with
      connInactivityWatcher := false, connActiveWatcher := false, requestTimeoutWatcher := false,
      streams := ∅, session := none, state := .idle, wev := false, rev := false, fd := -1 }

-- `Client::process_abandoned_streams`
def processAbandonedStreams (i : Nat) (c : Ctx) : Ctx :=
  if c.w.phase = .mainDuration then
    let n := (c.client i).reqInflight
    (c.modStats fun st => { st with reqFailed := st.reqFailed + n, reqError := st.reqError + n })
      |>.modClient i ({ · with reqInflight := 0 })
  else c

-- `Client::process_timedout_streams`, without the close times the `disconnect` after it drops.
def processTimedoutStreams (i : Nat) (c : Ctx) : Ctx :=
  if c.w.phase = .mainDuration then
    let n := (c.client i).reqInflight
    (c.modStats fun st => { st with reqTimedout := st.reqTimedout + n }).processAbandonedStreams i
  else c

-- `Client::process_request_failure`: outside the main phase it breaks the loop.
def processRequestFailure (c : Ctx) : Ctx :=
  if c.w.phase = .mainDuration then c else { c with w.running := false }

-- `Client::fail`
def fail (i : Nat) (c : Ctx) : Ctx :=
  (c.disconnect i).processAbandonedStreams i

-- `Client::timeout`
def timeout (i : Nat) (c : Ctx) : Ctx :=
  (c.processTimedoutStreams i).disconnect i

-- `total_req_left.load()`: the value loaded before the thread was preempted, or the current one.
def loadLeft (c : Ctx) : Nat × Ctx :=
  match c.g.loaded with
  | some v => (v, { c with g.loaded := none })
  | none => (c.g.totalReqLeft, c)

-- `Client::make_socket`; the answer is the descriptor, or `none` when `socket` or `connect` failed.
def makeSocket (i : Nat) (c : Ctx) : Bool × Ctx :=
  let c' := { c with ans.sockets := c.ans.sockets.tail }
  match c.ans.sockets.headD none with
  | some fd => (true, c'.modClient i ({ · with fd := fd }))
  | none => (false, c'.modClient i ({ · with fd := -1 }))

-- The `while (next_addr)` loop of `Client::connect`; returns the last address tried.
def connectNext (i : Nat) : List Nat → Option Nat → Ctx → Option Nat × Ctx
  | [], addr, c => (addr, c)
  | a :: rest, _, c =>
    let r := makeSocket i (c.modClient i ({ · with nextAddr := rest }))
    if r.1 then (some a, r.2) else connectNext i rest (some a) r.2

-- The first lines of `Client::connect`: the start times, or the end of the initial phase.
def connectPhase (i : Nat) (c : Ctx) : Ctx :=
  if !cfg.isTimingBasedMode || c.w.phase = .mainDuration then
    c.modCstat i (Client.restartTimes c.g.now)
  else if c.w.phase = .initialIdle then
    { c with w.phase := .warmUp, w.warmupWatcher := true }
  else c

-- The socket part of `Client::connect`: the pinned `current_addr`, or the next addresses in turn.
def openSocket (i : Nat) (c : Ctx) : Bool × Ctx :=
  match (c.client i).currentAddr with
  | some _ => makeSocket i c
  | none =>
    let r := connectNext i (c.client i).nextAddr none c
    if (r.2.client i).fd = -1 then (false, r.2)
    else (true, r.2.modClient i ({ · with currentAddr := r.1 }))

-- `Client::connect`
def connect (i : Nat) (c : Ctx) : Bool × Ctx :=
  let r := ((c.connectPhase cfg i).restartTimeout cfg i).openSocket i
  if r.1 then (true, r.2.modClient i ({ · with io := .connected, wev := true })) else (false, r.2)

-- `Client::terminate_session`
def terminateSession (i : Nat) (c : Ctx) : Ctx :=
  (c.modClient i fun cl => { cl with session := cl.session.map ({ · with terminated := true }) })
    |>.signalWrite i

-- `session && session->submit_request() != 0`, with `Client::on_request`.
def sessionSubmit (i : Nat) (c : Ctx) : Bool × Ctx :=
  match (c.client i).session with
  | none => (true, c)
  | some s =>
    let c' := { c with ans.accepts := c.ans.accepts.tail }
    if c.ans.accepts.headD true then
      (true, c'.modClient i fun cl =>
        { cl with
          streams := cl.streams.insert s.nextStreamId (Stream.create c.g.now)
          session := some { s with nextStreamId := s.nextStreamId + 1 } })
    else (false, c')

-- The outcome of the pacing check at the top of `Client::submit_request`.
inductive Gate
  | deferred
  | refused
  | passed
  deriving DecidableEq, Repr

-- The pacing check: a QPS token, or the global budget with its load and post-decrement.
def gate (i : Nat) (c : Ctx) : Gate × Ctx :=
  if cfg.isQpsMode then
    if c.w.qpsLeft = 0 then
      (.deferred, { c with w.clientsBlockedDueToQps := i :: c.w.clientsBlockedDueToQps })
    else (.passed, { c with w.qpsLeft := c.w.qpsLeft - 1 })
  else
    let r := c.loadLeft
    if r.1 = 0 then (.refused, r.2)
    else
      let old := r.2.g.totalReqLeft
      let c := { r.2 with g.totalReqLeft := decWrap old }
      if old = 0 then (.refused, c) else (.passed, c)

-- The counting at the end of `Client::submit_request`, in the main phase.
def countStarted (i : Nat) (c : Ctx) : Ctx :=
  let c := (c.modStats fun st => { st with reqStarted := st.reqStarted + 1 }).modClient i fun cl =>
    { cl with reqStarted := cl.reqStarted + 1, reqInflight := cl.reqInflight + 1 }
  if 0 < cfg.connActiveTimeout then c.modClient i ({ · with connActiveWatcher := true }) else c

-- The rest of `Client::submit_request` once the pacing check passed.
def submitPassed (i : Nat) (c : Ctx) : Bool × Ctx :=
  let r := { c with g.totalReqSend := c.g.totalReqSend + 1 }.sessionSubmit i
  if !r.1 then (false, r.2)
  else if r.2.w.phase = .mainDuration then (true, r.2.countStarted cfg i)
  else (true, r.2)

-- `Client::submit_request`
def submitRequest (i : Nat) (c : Ctx) : Bool × Ctx :=
  let r := c.gate cfg i
  match r.1 with
  | .deferred => (true, r.2)
  | .refused => (false, r.2)
  | .passed => r.2.submitPassed cfg i

-- `Worker::record_rtt`
def recordRtt (rtt : Nat) (c : Ctx) : Ctx :=
  { c with w.rtts := c.w.rtts ++ [rtt], w.rttMin := min c.w.rttMin rtt, w.rttMax := max c.w.rttMax rtt }

-- The accounting `Client::on_stream_close` does in the main phase for a stream it found.
def recordClose (i : Nat) (st : Stream) (success : Bool) (c : Ctx) : Ctx :=
  let rs := { st.reqStat with
    streamCloseTime := c.g.now, completed := success || st.reqStat.completed }
  let c :=
    if success then
      let c := (c.modStats fun s => { s with reqSuccess := s.reqSuccess + 1 }).modCstat i
        fun cs => { cs with reqSuccess := cs.reqSuccess + 1 }
      let c :=
        if st.statusSuccess = 1 then c.modStats fun s => { s with reqStatusSuccess := s.reqStatusSuccess + 1 }
        else c.modStats fun s => { s with reqFailed := s.reqFailed + 1 }
      c.modStats fun s => { s with reqStats := s.reqStats ++ [rs] }
    else c.modStats fun s => { s with reqFailed := s.reqFailed + 1, reqError := s.reqError + 1 }
  let c := (c.modStats fun s => { s with reqDone := s.reqDone + 1 }).modClient i
    fun cl => { cl with reqDone := cl.reqDone + 1 }
  c.recordRtt (rs.streamCloseTime - rs.requestTime)

-- The end of `Client::on_stream_close`: the budget check, then a replacement unless `final`.
def replenish (i : Nat) (final : Bool) (c : Ctx) : Ctx :=
  let r := c.loadLeft
  if r.1 = 0 then r.2.terminateSession i
  else if final then r.2
  else
    let s := r.2.submitRequest cfg i
    if s.1 then s.2 else s.2.processRequestFailure

-- The part of `Client::on_stream_close` every phase runs: erase the stream, then `replenish`.
def closeTail (i sid : Nat) (final : Bool) (c : Ctx) : Ctx :=
  (c.modClient i fun cl => { cl with streams := cl.streams.erase sid }).replenish cfg i final

-- `Client::on_stream_close`
def onStreamClose (i sid : Nat) (success final : Bool) (c : Ctx) : Ctx :=
  if c.w.phase = .mainDuration then
    let c := c.modClient i fun cl => { cl with reqInflight := cl.reqInflight - 1 }
    match (c.client i).streams.lookup sid with
    | none => c
    | some st => (c.recordClose i st success).closeTail cfg i sid final
  else c.closeTail cfg i sid final

-- The protocol `Client::connection_made` instantiates.
def selectProto (c : Ctx) : Option Proto :=
  if cfg.https then
    match c.ans.negotiated with
    | .proto p => some p
    | .unsupported => none
    | .none => if cfg.npnHasH1 then some .http1_1 else none
  else some cfg.noTlsProto

-- The `for (; nreq > 0; --nreq)` loop of `Client::connection_made`.
def submitInitial (i : Nat) : Nat → Ctx → Ctx
  | 0, c => c
  | n + 1, c =>
    let r := c.submitRequest cfg i
    if r.1 then submitInitial i n r.2 else r.2.processRequestFailure

-- `Client::connection_made`
def connectionMade (i : Nat) (c : Ctx) : Bool × Ctx :=
  match c.selectProto cfg with
  | none => (false, c.disconnect i)
  | some p =>
    let s := Session.create cfg p
    let c := (c.modClient i fun cl => { cl with session := some s, state := .connected })
      |>.modCstat i (Client.recordConnectTime c.g.now)
    (true, (c.submitInitial cfg i s.maxConcurrentStreams).signalWrite i)

-- `Client::try_again_or_fail`
def tryAgainOrFail (i : Nat) (c : Ctx) : Bool × Ctx :=
  let c := c.disconnect i
  if (c.client i).newConnectionRequested then
    let r := (c.modClient i ({ · with newConnectionRequested := false })).loadLeft
    if r.1 ≠ 0 then
      let s := (r.2.processAbandonedStreams i).connect cfg i
      if s.1 then (true, s.2) else (false, s.2.processAbandonedStreams i)
    else (false, r.2.processAbandonedStreams i)
  else (false, c.processAbandonedStreams i)

-- `Client::tls_handshake`
def tlsHandshake (i : Nat) (c : Ctx) : Int × Ctx :=
  let c' := { c with ans.handshakes := c.ans.handshakes.tail }
  match c.ans.handshakes.headD .done with
  | .wantRead => (0, c'.modClient i ({ · with wev := false }))
  | .wantWrite => (0, c'.modClient i ({ · with wev := true }))
  | .error => (-1, c')
  | .done =>
    let r := (c'.modClient i ({ · with wev := false, io := .tls })).connectionMade cfg i
    (if r.1 then 0 else -1, r.2)

-- `Client::ERR_CONNECT_FAIL`, declared in h2load.h (not under src/): a code other than 0, -1.
def errConnectFail : Int := -100

-- `Client::connected`
def connected (i : Nat) (c : Ctx) : Int × Ctx :=
  if !c.ans.socketConnected then (errConnectFail, c)
  else
    let c := c.modClient i ({ · with rev := true, wev := false })
    if cfg.https then (c.modClient i ({ · with io := .tlsHandshake })).tlsHandshake cfg i
    else
      let r := (c.modClient i ({ · with io := .clear })).connectionMade cfg i
      (if r.1 then 0 else -1, r.2)

-- `Client::write_clear` / `Client::write_tls` with `Client::on_write`.
def writeSteady (i : Nat) (c : Ctx) : Int × Ctx :=
  match c.ans.write with
  | .drained => (0, c.modClient i ({ · with wev := false }))
  | .blocked => (0, c.modClient i ({ · with wev := true }))
  | .fail => (-1, c)

-- `Client::on_read` for the bytes a read delivered: counted in the main phase.
def onRead (i len : Nat) (c : Ctx) : Ctx :=
  (if c.w.phase = .mainDuration then
    c.modStats fun s => { s with bytesTotal := s.bytesTotal + len } else c).signalWrite i

-- `Client::read_clear` / `Client::read_tls`
def readSteady (i : Nat) (c : Ctx) : Int × Ctx :=
  match c.ans.read with
  | .ok len => (0, c.onRead i len)
  | .fail len => (-1, c.onRead i len)

-- `Client::do_write`
def doWrite (i : Nat) (c : Ctx) : Int × Ctx :=
  match (c.client i).io with
  | .connected => c.connected cfg i
  | .tlsHandshake => c.tlsHandshake cfg i
  | .clear | .tls => c.writeSteady i

-- `Client::do_read`; its first case is not reached from an enabled `readcb`.
def doRead (i : Nat) (c : Ctx) : Int × Ctx :=
  match (c.client i).io with
  | .connected => (0, c)
  | .tlsHandshake => c.tlsHandshake cfg i
  | .clear | .tls => c.readSteady i

end Ctx

end Sofaload
