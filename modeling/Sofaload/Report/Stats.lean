import Sofaload.Objects.Worker

namespace Sofaload

-- `SDStat`
structure SDStat (α : Type) where
  min : α
  max : α
  mean : α
  sd : α
  withinSd : α
  deriving Repr

-- The `double` operations the statistics use besides field arithmetic: `sqrt`, and the limits
-- `std::numeric_limits<double>::max()` and `min()` the extremes start from.
structure DoubleOps (α : Type) where
  sqrt : α → α
  maxValue : α
  minValue : α

section TimeStat

variable {α : Type} [LinearOrderedField α]

-- `within_sd`: the percentage of samples within `mean ± sd`.
def withinSd (samples : List α) (mean sd : α) : α :=
  if samples.length = 0 then 0
  else (samples.countP fun t => mean - sd ≤ t ∧ t ≤ mean + sd : Nat) / (samples.length : α) * 100

-- The variables of the loop of `compute_time_stat`: `n`, the extremes `res.min` and `res.max`,
-- `sum`, and the running mean `a` with the running sum `q` of squared deviations.
structure TimeStatAcc (α : Type) where
  n : Nat
  min : α
  max : α
  sum : α
  a : α
  q : α

-- One iteration of the loop of `compute_time_stat`.
def TimeStatAcc.push (s : TimeStatAcc α) (t : α) : TimeStatAcc α :=
  let na := s.a + (t - s.a) / (s.n + 1 : Nat)
  { n := s.n + 1, min := Min.min s.min t, max := Max.max s.max t, sum := s.sum + t, a := na
    q := s.q + (t - s.a) * (t - na) }

-- `compute_time_stat`
def computeTimeStat (ops : DoubleOps α) (samples : List α) (sampling : Bool) : SDStat α :=
  if samples.isEmpty then ⟨0, 0, 0, 0, 0⟩
  else
    let r := samples.foldl TimeStatAcc.push ⟨0, ops.maxValue, ops.minValue, 0, 0, 0⟩
    let mean := r.sum / (r.n : α)
    let sd := ops.sqrt (r.q / ((if sampling && 1 < r.n then r.n - 1 else r.n : Nat) : α))
    ⟨r.min, r.max, mean, sd, withinSd samples mean sd⟩

end TimeStat

section Latency

-- The percentiles of the latency distribution.
def percentiles : List Nat := [50, 75, 90, 95, 99]

-- `rtt_min` and `rtt_max` of `main`, folded over the workers' own extremes.
def rttExtremes (ws : List Worker) : Nat × Nat :=
  ws.foldl (fun m w => (min m.1 w.rttMin, max m.2 w.rttMax)) (2 ^ 64 - 1, 0)

-- `++rtts[i - rtt_min]` for one sample, in `uint64_t` arithmetic; `none` when the index falls
-- outside the histogram.
def countSample (lo : Nat) (h : List Nat) (x : Nat) : Option (List Nat) :=
  let j := (x + 2 ^ 64 - lo) % 2 ^ 64
  if j < h.length then some (h.modify (· + 1) j) else none

-- The loops of `main` filling the dense histogram with every sample of every worker.
def histogram (lo : Nat) (h : List Nat) (ws : List Worker) : Option (List Nat) :=
  ws.foldlM (fun h w => w.rtts.foldlM (countSample lo) h) h

-- `std::round((percentile / 100.0) * rtt_counts + 0.5)`, in exact arithmetic.
def percentileRank (p n : Nat) : Nat := (round ((p : ℚ) / 100 * n + 1 / 2)).toNat

-- The scan `for (rtt = rtt_min; rtt <= rtt_max; ++rtt)` over the histogram, from the bucket of
-- `rtt` with `total` samples counted below it.
def scanRtt (rank : Nat) : List Nat → Nat → Nat → Nat
  | [], _, rtt => rtt
  | c :: cs, total, rtt => if rank ≤ total + c then rtt else scanRtt rank cs (total + c) (rtt + 1)

-- The latency distribution of `main`: the latency it prints for each percentile, 0 when no
-- worker recorded a sample.
def latencyDistribution (ws : List Worker) : Option (List Nat) :=
  let e := rttExtremes ws
  let invalid := decide (e.2 < e.1)
  let lo := if invalid then 0 else e.1
  let hi := if invalid then 0 else e.2
  let n := (ws.map fun w => w.rtts.length).sum
  (histogram lo (List.replicate ((hi - lo + 1) % 2 ^ 64) 0) ws).map fun h =>
    percentiles.map fun p => if invalid then 0 else scanRtt (percentileRank p n) h 0 lo

end Latency

end Sofaload
