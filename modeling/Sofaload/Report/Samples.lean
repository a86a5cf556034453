import Sofaload.Report.Stats

namespace Sofaload

-- `SDStats`: the statistics of request, connect, first-byte times and requests per second.
structure SDStats (α : Type) where
  request : SDStat α
  connect : SDStat α
  ttfb : SDStat α
  rps : SDStat α

-- `recorded`: a time point is recorded when it is not the clock's epoch.
def recorded (t : Nat) : Bool := t != 0

section

variable {α : Type} [LinearOrderedField α]

-- `std::chrono::duration<double>(t₁ - t₀).count()`, in seconds of a clock counting microseconds.
def elapsed (t₀ t₁ : Nat) : α := (((t₁ : ℤ) - t₀ : ℤ) : α) / 1000000

namespace Worker

-- The first loop of `process_time_stats` over one worker: a request time for each completed
-- `RequestStat`.
def requestTimes (w : Worker) : List α :=
  (w.stats.reqStats.filter (·.completed)).map fun rs => elapsed rs.requestTime rs.streamCloseTime

end Worker

namespace ClientStat

-- The requests per second of a connection whose start and end were recorded and which lasted
-- longer than `1e-9` seconds.
def rpsSample (cs : ClientStat) : Option α :=
  if recorded cs.clientStartTime && recorded cs.clientEndTime then
    let t : α := elapsed cs.clientStartTime cs.clientEndTime
    if 1 / 10 ^ 9 < t then some (cs.reqSuccess / t) else none
  else none

-- The connect time, when both ends of it were recorded.
def connectSample (cs : ClientStat) : Option α :=
  if !recorded cs.connectStartTime || !recorded cs.connectTime then none
  else some (elapsed cs.connectStartTime cs.connectTime)

-- The time to first byte, only taken with the connect time.
def ttfbSample (cs : ClientStat) : Option α :=
  if !recorded cs.connectStartTime || !recorded cs.connectTime then none
  else if !recorded cs.ttfb then none
  else some (elapsed cs.connectStartTime cs.ttfb)

end ClientStat

-- `process_time_stats`
def processTimeStats (ops : DoubleOps α) (ws : List Worker) : SDStats α where
  request := computeTimeStat ops (ws.flatMap Worker.requestTimes) false
  connect := computeTimeStat ops (ws.flatMap fun w => w.stats.clientStats.filterMap ClientStat.connectSample) false
  ttfb := computeTimeStat ops (ws.flatMap fun w => w.stats.clientStats.filterMap ClientStat.ttfbSample) false
  rps := computeTimeStat ops (ws.flatMap fun w => w.stats.clientStats.filterMap ClientStat.rpsSample) false

end

end Sofaload
