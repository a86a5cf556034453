import Mathlib

namespace Sofaload

-- The application protocols a session can speak: `Config::no_tls_proto` without TLS, the
-- ALPN/NPN selection with it.
inductive Proto
  | http2
  | http1_1
  | sofarpc
  deriving DecidableEq, Repr

-- `Phase`: the worker's coarse lifecycle, which decides whether statistics are recorded.
inductive Phase
  | initialIdle
  | warmUp
  | mainDuration
  | durationOver
  deriving DecidableEq, Repr

namespace Phase

def rank : Phase → Nat
  | initialIdle => 0
  | warmUp => 1
  | mainDuration => 2
  | durationOver => 3

-- The phase the worker enters next; `durationOver` is final.
def next : Phase → Phase
  | initialIdle => warmUp
  | warmUp => mainDuration
  | mainDuration => durationOver
  | durationOver => durationOver

theorem rank_injective : Function.Injective rank := by
  intro a b h; cases a <;> cases b <;> simp_all [rank]

@[simp] theorem rank_next_of_ne (p : Phase) (h : p ≠ durationOver) : p.next.rank = p.rank + 1 := by
  cases p <;> simp_all [rank, next]

end Phase

-- The fields of `Config` read by the modelled code. Durations and timeouts are only tested for
-- positivity there, so they are kept as naturals; `addrs` is the resolved address list,
-- each address named by a number.
structure Config where
  nreqs : Nat
  nclients : Nat
  nthreads : Nat
  maxConcurrentStreams : Nat
  duration : Nat
  connActiveTimeout : Nat
  connInactivityTimeout : Nat
  qps : Nat
  rate : Nat
  https : Bool
  noTlsProto : Proto
  npnHasH1 : Bool
  hasData : Bool
  addrs : List Nat
  deriving Repr

namespace Config

def isQpsMode (cfg : Config) : Bool := cfg.qps != 0

def isRateMode (cfg : Config) : Bool := cfg.rate != 0

def isTimingBasedMode (cfg : Config) : Bool := decide (0 < cfg.duration)

-- The checks by which `main` rejects a combination of options.
def accepted (cfg : Config) : Bool :=
  !(cfg.isQpsMode && cfg.isRateMode) && !(cfg.isQpsMode && cfg.duration == 0) &&
    !(cfg.isTimingBasedMode && cfg.isRateMode) && !(cfg.nreqs == 0 && !cfg.isTimingBasedMode) &&
    cfg.maxConcurrentStreams != 0 && cfg.nthreads != 0 &&
    !(cfg.nclients < cfg.nthreads && !cfg.isQpsMode) && !(cfg.isRateMode && cfg.rate < cfg.nthreads)

end Config

-- `std::numeric_limits<size_t>::max()`, the largest value of `total_req_left`.
def sizeMax : Nat := 2 ^ 64 - 1

-- `std::numeric_limits<int>::max()`, the budget `update_worker_qpsLeft` installs without slots.
def intMax : Nat := 2 ^ 31 - 1

-- `total_req_left--` on a `std::atomic_size_t`: wraps from 0 to `SIZE_MAX`.
def decWrap (v : Nat) : Nat := if v = 0 then sizeMax else v - 1

@[simp] theorem decWrap_zero : decWrap 0 = sizeMax := rfl

theorem decWrap_of_pos {v : Nat} (h : 0 < v) : decWrap v = v - 1 := by
  simp [decWrap, Nat.pos_iff_ne_zero.mp h]

-- A worker thread's view of the process-wide state: the two atomics, the steady clock, and the
-- value of `total_req_left` the thread loaded before other threads ran, which the first load of
-- its next callback returns (that of `submit_request`, `on_stream_close` or `try_again_or_fail`).
structure Globals where
  totalReqLeft : Nat
  totalReqSend : Nat
  now : Nat
  loaded : Option Nat
  deriving DecidableEq, Repr

end Sofaload
