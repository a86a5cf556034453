import Sofaload.Execution.Worker

namespace Sofaload

-- The budget `main` stores into `total_req_left`: `nreqs`, which timing-based mode first
-- replaces by `duration * qps` in QPS mode and by `SIZE_MAX` otherwise.
def Config.budget (cfg : Config) : Nat :=
  if cfg.isTimingBasedMode then
    if cfg.isQpsMode then cfg.duration * cfg.qps else sizeMax
  else cfg.nreqs

-- The loop of `main` sharing clients (or `rate`) among `n` threads: each gets `perThread`, plus
-- one taken from the remainder counter while it is positive.
def threadShares (perThread rem : Nat) : Nat → List Nat
  | 0 => []
  | n + 1 => (if 0 < rem then perThread + 1 else perThread) :: threadShares perThread (rem - 1) n

-- `nclients_per_thread` and `nclients_rem`
def Config.clientShares (cfg : Config) : List Nat :=
  threadShares (cfg.nclients / cfg.nthreads) (cfg.nclients % cfg.nthreads) cfg.nthreads

-- `rate_per_thread` and `rate_per_thread_rem`: the rates `main` passes to `create_worker`.
def Config.rateShares (cfg : Config) : List Nat :=
  threadShares (cfg.rate / cfg.nthreads) (cfg.rate % cfg.nthreads) cfg.nthreads

-- `nqps` of each worker in turn.
def Config.qpsShares (cfg : Config) : List Nat := (List.range cfg.nthreads).map (qpsShare cfg)

-- The process: the worker threads and the atomics they share. `loaded` holds, for each thread
-- preempted right after a load of `total_req_left`, the value it loaded.
structure System where
  totalReqLeft : Nat
  totalReqSend : Nat
  now : Nat
  workers : List Worker
  loaded : List (Option Nat)

namespace System

-- The globals as thread `k` sees them.
def view (s : System) (k : Nat) : Globals :=
  ⟨s.totalReqLeft, s.totalReqSend, s.now, s.loaded.getD k none⟩

-- What a thread does next: run one callback of its loop, or execute the first load of
-- `total_req_left` of its next callback and be preempted right after it; or the steady clock
-- advances.
inductive Action
  | event (k : Nat) (e : Event)
  | load (k : Nat)
  | tick
  deriving Inhabited

def Action.enabled (s : System) : Action → Bool
  | .event k e => match s.workers[k]? with
    | some w => e.enabled w
    | none => false
  | .load k => decide (k < s.workers.length) && (s.loaded.getD k none).isNone
  | .tick => true

-- A callback of thread `k` acts on the shared atomics through its view; a load it made and did
-- not use is dropped, as that load happened no earlier than the callback.
def step (cfg : Config) (s : System) : Action → System
  | .event k e => match s.workers[k]? with
    | some w =>
      let r := Worker.step cfg e w (s.view k)
      { s with
        totalReqLeft := r.2.totalReqLeft, totalReqSend := r.2.totalReqSend
        workers := s.workers.set k r.1, loaded := s.loaded.set k none }
    | none => s
  | .load k => { s with loaded := s.loaded.set k (some s.totalReqLeft) }
  | .tick => { s with now := s.now + 1 }

-- `main` up to the threads' event loops: the budget stored, worker `i` created with its share
-- of clients and QPS slots from the values `rands i` of `std::rand`, then `Worker::run` with the
-- answers `socks i` to its clients' `make_socket` calls.
def init (cfg : Config) (rands : Nat → List Nat) (socks : Nat → List (List (Option Nat))) :
    System :=
  let g : Globals := ⟨cfg.budget, 0, 0, none⟩
  { totalReqLeft := cfg.budget, totalReqSend := 0, now := 0
    workers := cfg.clientShares.mapIdx fun i n =>
      Worker.run cfg (socks i) g (Worker.create cfg i n (rands i))
    loaded := List.replicate cfg.nthreads none }

-- `size_t` arithmetic.
def sizeT (v : Int) : Nat := (v % 2 ^ 64).toNat

-- The requests `main` reports as not issued, from the sums of the workers' `req_status_success`
-- and `req_failed`.
def reqNotIssued (cfg : Config) (ws : List Worker) : Nat :=
  let succeeded := sizeT (ws.map (·.stats.reqStatusSuccess)).sum
  let failed := sizeT (ws.map (·.stats.reqFailed)).sum
  if cfg.isTimingBasedMode || cfg.isQpsMode then 0 else sizeT (cfg.nreqs - succeeded - failed)

inductive Reachable (cfg : Config) : System → Prop
  | init (rands : Nat → List Nat) (socks : Nat → List (List (Option Nat))) :
      Reachable cfg (init cfg rands socks)
  | step {s : System} (a : Action) : Reachable cfg s → a.enabled s → Reachable cfg (step cfg s a)

def exec (cfg : Config) (s : System) : List Action → System
  | [] => s
  | a :: as => exec cfg (step cfg s a) as

def Valid (cfg : Config) (s : System) : List Action → Bool
  | [] => true
  | a :: as => a.enabled s && Valid cfg (step cfg s a) as

theorem Reachable.exec {cfg : Config} {s : System} (as : List Action) (h : Reachable cfg s)
    (hv : Valid cfg s as) : Reachable cfg (System.exec cfg s as) := by
  induction as generalizing s with
  | nil => exact h
  | cons a as ih =>
    simp only [Valid, Bool.and_eq_true] at hv
    exact ih (h.step a hv.1) hv.2

end System

end Sofaload
