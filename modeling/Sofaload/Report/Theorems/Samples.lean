import Sofaload.Report.Samples
import Sofaload.Execution.Theorems.Threads
import Sofaload.Execution.Theorems.Clock
import Sofaload.Execution.Theorems.Advances
import Sofaload.Execution.Theorems.Atomic
import Sofaload.Execution.Theorems.Counting
import Sofaload.Report.Theorems.TimeStat

namespace Sofaload

variable {α : Type} [LinearOrderedField α] {cfg : Config}

namespace Worker

variable {w : Worker} (h : w.counters.books.Balanced)
include h

-- With balanced books the test on `completed` in `process_time_stats` drops nothing.
theorem requestTimes_of_balanced :
    (w.requestTimes : List α) = w.stats.reqStats.map fun rs => elapsed rs.requestTime rs.streamCloseTime := by
  have e : w.stats.reqStats.filter (·.completed) = w.stats.reqStats :=
    List.filter_eq_self.mpr fun rs hrs => h.completed rs hrs
  rw [requestTimes, e]

theorem length_requestTimes_of_balanced : (w.requestTimes : List α).length = w.stats.reqSuccess := by
  rw [requestTimes_of_balanced h, List.length_map]; exact h.samples

end Worker

-- Sums over the workers of what their balanced books relate.
theorem sums_of_balanced : ∀ {ws : List Worker}, (∀ w ∈ ws, w.counters.books.Balanced) →
    (ws.map (·.stats.reqStatusSuccess)).sum + (ws.map (·.stats.reqFailed)).sum =
        (ws.map (·.stats.reqSuccess)).sum + (ws.map (·.stats.reqError)).sum ∧
      (ws.map (·.stats.reqDone)).sum ≤ (ws.map (·.stats.reqSuccess)).sum + (ws.map (·.stats.reqError)).sum ∧
      (ws.map (·.stats.reqTimedout)).sum ≤ (ws.map (·.stats.reqError)).sum ∧
      (ws.map fun w => w.rtts.length).sum = (ws.map (·.stats.reqDone)).sum
  | [], _ => by simp
  | w :: ws, hb => by
    have hw := hb w (List.mem_cons_self _ _)
    have := hw.outcome; have := hw.done; have := hw.timedout; have := hw.rtts
    have ih := sums_of_balanced fun v hv => hb v (List.mem_cons_of_mem _ hv)
    simp only [List.map_cons, List.sum_cons] at ih ⊢
    dsimp only [Counters.books, Worker.counters] at *
    omega

namespace System

variable {s : System}

variable (α) in
-- What `main` reads from the workers once the threads have joined: each worker's books are
-- balanced, and so are the sums of their stats before `req_not_issued` is added (each success
-- status-successful or failed, each error failed, each request counted done a success or an
-- error, each timed-out request an error); the latency distribution ranks one sample per request
-- counted done; and `process_time_stats` takes one request time from every `RequestStat` a worker
-- kept, `req_success` of them in all.
structure ReportBalanced (s : System) : Prop where
  books : ∀ w ∈ s.workers, w.counters.books.Balanced
  outcome : (s.workers.map (·.stats.reqStatusSuccess)).sum + (s.workers.map (·.stats.reqFailed)).sum =
    (s.workers.map (·.stats.reqSuccess)).sum + (s.workers.map (·.stats.reqError)).sum
  done : (s.workers.map (·.stats.reqDone)).sum ≤
    (s.workers.map (·.stats.reqSuccess)).sum + (s.workers.map (·.stats.reqError)).sum
  timedout : (s.workers.map (·.stats.reqTimedout)).sum ≤ (s.workers.map (·.stats.reqError)).sum
  rtts : (s.workers.map fun w => w.rtts.length).sum = (s.workers.map (·.stats.reqDone)).sum
  requestTimes : (s.workers.flatMap Worker.requestTimes : List α) =
    s.workers.flatMap fun w => w.stats.reqStats.map fun rs => elapsed rs.requestTime rs.streamCloseTime
  samples : (s.workers.flatMap Worker.requestTimes : List α).length = (s.workers.map (·.stats.reqSuccess)).sum

-- At every reachable state of the process, whatever the interleaving of its threads.
theorem report_books_balanced (h : Reachable cfg s) : s.ReportBalanced α := by
  have hb : ∀ w ∈ s.workers, w.counters.books.Balanced := fun w hw => (h.worker w hw).balanced
  obtain ⟨h₁, h₂, h₃, h₄⟩ := sums_of_balanced hb
  refine ⟨hb, h₁, h₂, h₃, h₄, ?_, ?_⟩
  · simp only [List.flatMap]
    exact congrArg List.flatten (List.map_congr_left fun w hw => Worker.requestTimes_of_balanced (hb w hw))
  · rw [List.length_flatMap]
    exact congrArg List.sum (List.map_congr_left fun w hw => Worker.length_requestTimes_of_balanced (hb w hw))

-- The run of the budget race, where two requests were sent for a budget of one.
theorem report_books_balanced_after_race :
    let s := System.exec ⟨1, 2, 2, 1, 0, 0, 0, 0, 0, false, .http2, false, false, [7]⟩
      (System.init ⟨1, 2, 2, 1, 0, 0, 0, 0, 0, false, .http2, false, false, [7]⟩ (fun _ => []) fun _ => [[some 3]])
      [.load 0, .load 1, .event 0 (.writecb 0 {}), .event 1 (.writecb 0 {}),
        .event 0 (.onStreamClose 0 1 true false {})]
    1 < s.totalReqSend ∧ s.ReportBalanced ℚ :=
  ⟨by decide, report_books_balanced (Reachable.exec _ (.init (fun _ => []) fun _ => [[some 3]]) (by decide))⟩

end System

section Clock

variable {now : Nat} {x : α}

theorem elapsed_nonneg {t₀ t₁ : Nat} (h : t₀ ≤ t₁) : (0 : α) ≤ elapsed t₀ t₁ :=
  div_nonneg (Int.cast_nonneg.mpr (by omega)) (by norm_num)

-- Requests per second are only taken over a positive duration.
theorem ClientStat.rpsSample_nonneg {cs : ClientStat} (hx : cs.rpsSample = some x) : 0 ≤ x := by
  unfold ClientStat.rpsSample at hx
  split at hx
  · dsimp only at hx
    split at hx
    · next ht =>
      cases hx
      exact div_nonneg (Nat.cast_nonneg _) ((lt_trans (by positivity) ht).le)
    · cases hx
  · cases hx

namespace ClientStat.Stamped

variable {cs : ClientStat} (h : cs.Stamped now)
include h

theorem connectSample_nonneg (hx : cs.connectSample = some x) : 0 ≤ x := by
  unfold ClientStat.connectSample at hx
  split at hx
  · cases hx
  · next hr =>
    cases hx
    simp only [recorded, Bool.or_eq_true, Bool.not_eq_true', bne_eq_false_iff_eq, not_or] at hr
    exact elapsed_nonneg (h.connect hr.2)

theorem ttfbSample_nonneg (hx : cs.ttfbSample = some x) : 0 ≤ x := by
  unfold ClientStat.ttfbSample at hx
  split at hx
  · cases hx
  · split at hx
    · cases hx
    · next hr =>
      cases hx
      simp only [recorded, Bool.not_eq_true', bne_eq_false_iff_eq] at hr
      exact elapsed_nonneg (h.ttfb hr)

end ClientStat.Stamped

theorem Worker.Stamped.requestTimes_nonneg {w : Worker} (h : w.Stamped now) (hx : x ∈ (w.requestTimes : List α)) :
    0 ≤ x := by
  obtain ⟨rs, hrs, rfl⟩ := List.mem_map.mp hx
  exact elapsed_nonneg (h.reqStats rs (List.mem_of_mem_filter hrs))

-- `compute_time_stat` of samples none of which is negative, from extremes that are not negative:
-- the minimum, the maximum and the mean are not negative.
theorem computeTimeStat_nonneg (ops : DoubleOps α) {l : List α} (sampling : Bool) (hl : ∀ x ∈ l, 0 ≤ x)
    (hmin : 0 ≤ ops.minValue) (hmax : 0 ≤ ops.maxValue) :
    0 ≤ (computeTimeStat ops l sampling).min ∧ 0 ≤ (computeTimeStat ops l sampling).max ∧
      0 ≤ (computeTimeStat ops l sampling).mean := by
  have bounds : ∀ (l : List α) (acc : TimeStatAcc α), (∀ x ∈ l, 0 ≤ x) → 0 ≤ acc.min → 0 ≤ acc.max →
      0 ≤ (l.foldl TimeStatAcc.push acc).min ∧ 0 ≤ (l.foldl TimeStatAcc.push acc).max := by
    intro l
    induction l with
    | nil => exact fun _ _ h₁ h₂ => ⟨h₁, h₂⟩
    | cons t l ih =>
      intro acc hl h₁ h₂
      exact ih _ (fun x hx => hl x (List.mem_cons_of_mem _ hx))
        (le_min h₁ (hl t (List.mem_cons_self _ _))) (le_max_of_le_left h₂)
  unfold computeTimeStat
  split
  · exact ⟨le_rfl, le_rfl, le_rfl⟩
  · obtain ⟨hn, hs, -⟩ := @TimeStatAcc.foldl_push α _ ops.maxValue ops.minValue l
    obtain ⟨h₁, h₂⟩ := bounds l ⟨0, ops.maxValue, ops.minValue, 0, 0, 0⟩ hl hmax hmin
    refine ⟨h₁, h₂, ?_⟩
    dsimp only
    rw [hs]
    exact div_nonneg (List.sum_nonneg hl) (Nat.cast_nonneg _)

end Clock

namespace System

variable {s : System}

-- The times the report prints: no stamp a worker holds is later than the clock, so no duration
-- `process_time_stats` collects is negative, nor is the minimum, maximum or mean of any of the
-- four statistics it computes.
structure TimesNonneg (ops : DoubleOps α) (s : System) : Prop where
  stamped : ∀ w ∈ s.workers, w.Stamped s.now
  requestTimes : ∀ x ∈ (s.workers.flatMap Worker.requestTimes : List α), 0 ≤ x
  connectTimes :
    ∀ x ∈ (s.workers.flatMap fun w => w.stats.clientStats.filterMap ClientStat.connectSample : List α), 0 ≤ x
  ttfbTimes : ∀ x ∈ (s.workers.flatMap fun w => w.stats.clientStats.filterMap ClientStat.ttfbSample : List α), 0 ≤ x
  rps : ∀ x ∈ (s.workers.flatMap fun w => w.stats.clientStats.filterMap ClientStat.rpsSample : List α), 0 ≤ x
  stats : ∀ st ∈ [(processTimeStats ops s.workers).request, (processTimeStats ops s.workers).connect,
      (processTimeStats ops s.workers).ttfb, (processTimeStats ops s.workers).rps],
    0 ≤ st.min ∧ 0 ≤ st.max ∧ 0 ≤ st.mean

-- At every reachable state of the process, whatever the interleaving of its threads.
theorem report_times_nonneg {ops : DoubleOps α} (hmin : 0 ≤ ops.minValue) (hmax : 0 ≤ ops.maxValue)
    (h : Reachable cfg s) : s.TimesNonneg ops := by
  have hs := h.stamped
  have hreq : ∀ x ∈ (s.workers.flatMap Worker.requestTimes : List α), 0 ≤ x := by
    intro x hx
    obtain ⟨w, hw, hx⟩ := List.mem_flatMap.mp hx
    exact (hs w hw).requestTimes_nonneg hx
  have hcs {f : ClientStat → Option α} (hf : ∀ cs x, cs.Stamped s.now → f cs = some x → 0 ≤ x) :
      ∀ x ∈ s.workers.flatMap (fun w => w.stats.clientStats.filterMap f), 0 ≤ x := by
    intro x hx
    obtain ⟨w, hw, hx⟩ := List.mem_flatMap.mp hx
    obtain ⟨cs, hc, hfx⟩ := List.mem_filterMap.mp hx
    exact hf cs x ((hs w hw).clientStats cs hc) hfx
  have hconn := hcs fun _ _ hc => hc.connectSample_nonneg
  have httfb := hcs fun _ _ hc => hc.ttfbSample_nonneg
  have hrps := hcs fun cs x _ (hx : cs.rpsSample = some x) => ClientStat.rpsSample_nonneg hx
  refine ⟨hs, hreq, hconn, httfb, hrps, ?_⟩
  simp only [List.mem_cons, List.mem_singleton, List.not_mem_nil, or_false]
  rintro st (rfl | rfl | rfl | rfl)
  · exact computeTimeStat_nonneg ops false hreq hmin hmax
  · exact computeTimeStat_nonneg ops false hconn hmin hmax
  · exact computeTimeStat_nonneg ops false httfb hmin hmax
  · exact computeTimeStat_nonneg ops false hrps hmin hmax

-- The run of the budget race with a clock tick before the first close, so that one request has a
-- latency of one microsecond.
theorem report_times_nonneg_after_race :
    let s := System.exec ⟨1, 2, 2, 1, 0, 0, 0, 0, 0, false, .http2, false, false, [7]⟩
      (System.init ⟨1, 2, 2, 1, 0, 0, 0, 0, 0, false, .http2, false, false, [7]⟩ (fun _ => []) fun _ => [[some 3]])
      [.load 0, .load 1, .event 0 (.writecb 0 {}), .event 1 (.writecb 0 {}), .tick,
        .event 0 (.onStreamClose 0 1 true false {})]
    s.now = 1 ∧ s.TimesNonneg (⟨Real.sqrt, 1, 0⟩ : DoubleOps ℝ) :=
  ⟨rfl, report_times_nonneg (by norm_num) (by norm_num)
    (Reachable.exec _ (.init (fun _ => []) fun _ => [[some 3]]) (by decide))⟩

-- Under any interleaving, every latency sample of every worker lies between the `rtt_min` and
-- `rtt_max` `main` folds from the workers' own extremes, so its dense histogram has a bucket for
-- each sample.
theorem latency_samples_within_extremes (h : Reachable cfg s) :
    ∀ x ∈ s.workers.flatMap Worker.rtts, (rttExtremes s.workers).1 ≤ x ∧ x ≤ (rttExtremes s.workers).2 :=
  rttExtremes_bounds fun w hw => (h.worker w hw).withinBounds.2

-- The same run: the one request closed has a latency sample of one microsecond.
theorem latency_samples_within_extremes_after_race :
    let s := System.exec ⟨1, 2, 2, 1, 0, 0, 0, 0, 0, false, .http2, false, false, [7]⟩
      (System.init ⟨1, 2, 2, 1, 0, 0, 0, 0, 0, false, .http2, false, false, [7]⟩ (fun _ => []) fun _ => [[some 3]])
      [.load 0, .load 1, .event 0 (.writecb 0 {}), .event 1 (.writecb 0 {}), .tick,
        .event 0 (.onStreamClose 0 1 true false {})]
    s.workers.flatMap Worker.rtts = [1] ∧
      ∀ x ∈ s.workers.flatMap Worker.rtts, (rttExtremes s.workers).1 ≤ x ∧ x ≤ (rttExtremes s.workers).2 :=
  ⟨by decide, latency_samples_within_extremes (Reachable.exec _ (.init (fun _ => []) fun _ => [[some 3]]) (by decide))⟩

-- The run of the budget race, once both requests the first thread sent have closed and every
-- client failed on a read: the loops have returned and `main` reports `SIZE_MAX` requests as not
-- issued.
theorem req_not_issued_wraps :
    ∃ s, Reachable ⟨1, 2, 2, 1, 0, 0, 0, 0, 0, false, .http2, false, false, [7]⟩ s ∧
      s.workers.all Worker.stopped ∧
      reqNotIssued ⟨1, 2, 2, 1, 0, 0, 0, 0, 0, false, .http2, false, false, [7]⟩ s.workers =
        sizeMax :=
  ⟨_, Reachable.exec [.load 0, .load 1, .event 0 (.writecb 0 {}), .event 1 (.writecb 0 {}),
      .event 0 (.onStreamClose 0 1 true false {}), .event 0 (.onStreamClose 0 2 true true {}),
      .event 0 (.readcb 0 { read := .fail 0 }), .event 1 (.readcb 0 { read := .fail 0 })]
      (.init (fun _ => []) fun _ => [[some 3]]) (by decide), by decide, by decide⟩

end System

end Sofaload
