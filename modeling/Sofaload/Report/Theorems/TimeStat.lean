import Sofaload.Report.Stats

namespace Sofaload

section

variable {α : Type} [LinearOrderedField α]

-- The squared deviations of a list from any centre, by its power sums.
theorem sum_sq_sub (l : List α) (c : α) :
    (l.map fun x => (x - c) ^ 2).sum = (l.map (· ^ 2)).sum - 2 * c * l.sum + l.length * c ^ 2 := by
  induction l with
  | nil => simp
  | cons x l ih => simp only [List.map_cons, List.sum_cons, ih, List.length_cons]; push_cast; ring

-- One step of the running update in closed form: the new mean of `n` samples of sum `S` and one
-- more sample `t`, and the squared deviations (power sum `P`) moved to that mean.
theorem push_step {n S P t : α} (hn : n ≠ 0) (hn' : n + 1 ≠ 0) :
    S / n + (t - S / n) / (n + 1) = (S + t) / (n + 1) ∧
      P - 2 * (S / n) * S + n * (S / n) ^ 2 + (t - S / n) * (t - (S + t) / (n + 1)) =
        P - 2 * ((S + t) / (n + 1)) * S + n * ((S + t) / (n + 1)) ^ 2 + (t - (S + t) / (n + 1)) ^ 2 := by
  have h₁ : S = S / n * n := (div_mul_cancel₀ S hn).symm
  have h₂ : S + t = (S + t) / (n + 1) * (n + 1) := (div_mul_cancel₀ _ hn').symm
  have h₃ : (n + 1)⁻¹ * (n + 1) = 1 := inv_mul_cancel₀ hn'
  constructor
  · linear_combination (-(S / n)) * h₃ - (n + 1)⁻¹ * h₁
  · linear_combination ((S + t) / (n + 1) - S / n) * h₁ + ((S + t) / (n + 1) - S / n) * h₂

namespace TimeStatAcc

variable {mx mn : α}

-- The loop of `compute_time_stat` after the samples `l`: it has counted and summed them, `a` is
-- their mean and `q` their sum of squared deviations from it.
theorem foldl_push (l : List α) :
    let r := l.foldl push ⟨0, mx, mn, 0, 0, 0⟩
    r.n = l.length ∧ r.sum = l.sum ∧ r.a = l.sum / l.length ∧
      r.q = (l.map fun x => (x - l.sum / l.length) ^ 2).sum := by
  induction l using List.reverseRecOn with
  | nil => simp
  | append_singleton l t ih =>
    obtain ⟨hn, hs, ha, hq⟩ := ih
    simp only [List.foldl_append, List.foldl_cons, List.foldl_nil, push, hn, hs, ha, hq,
      List.length_append, List.length_singleton, List.sum_append, List.sum_singleton, true_and]
    rcases Nat.eq_zero_or_pos l.length with h0 | hpos
    · rw [List.length_eq_zero.mp h0]; simp
    · obtain ⟨e₁, e₂⟩ := @push_step α _ l.length l.sum (l.map (· ^ 2)).sum t
        (Nat.cast_ne_zero.mpr hpos.ne') (by positivity)
      push_cast
      refine ⟨e₁, ?_⟩
      rw [e₁, List.map_append, List.sum_append, sum_sq_sub, sum_sq_sub]
      simpa only [List.map_cons, List.map_nil, List.sum_cons, List.sum_nil, add_zero] using e₂

end TimeStatAcc

end

-- In exact real arithmetic `compute_time_stat` returns the mean of the samples and the square root
-- of their squared deviations over `n`, or over `n - 1` for a sample variance of several samples;
-- its running update keeps `a` the mean and `q` the squared deviations of the samples seen so far.
theorem time_stat_welford (l : List ℝ) (hl : l ≠ []) (sampling : Bool) (mx mn : ℝ) :
    (computeTimeStat ⟨Real.sqrt, mx, mn⟩ l sampling).mean = l.sum / l.length ∧
      (computeTimeStat ⟨Real.sqrt, mx, mn⟩ l sampling).sd =
        Real.sqrt ((l.map fun t => (t - l.sum / l.length) ^ 2).sum /
          ((if sampling ∧ 1 < l.length then l.length - 1 else l.length : Nat) : ℝ)) ∧
      ∀ k ≤ l.length,
        ((l.take k).foldl TimeStatAcc.push ⟨0, mx, mn, 0, 0, 0⟩).a = (l.take k).sum / k ∧
          ((l.take k).foldl TimeStatAcc.push ⟨0, mx, mn, 0, 0, 0⟩).q =
            ((l.take k).map fun t => (t - (l.take k).sum / k) ^ 2).sum := by
  obtain ⟨hn, hs, -, hq⟩ := @TimeStatAcc.foldl_push ℝ _ mx mn l
  refine ⟨?_, ?_, fun k hk => ?_⟩
  · simp only [computeTimeStat, List.isEmpty_iff, hl, if_false, hn, hs]
  · simp only [computeTimeStat, List.isEmpty_iff, hl, if_false, hn, hq, Bool.and_eq_true,
      decide_eq_true_eq]
  · obtain ⟨-, -, ha, hq⟩ := @TimeStatAcc.foldl_push ℝ _ mx mn (l.take k)
    rw [List.length_take, Nat.min_eq_left hk] at ha hq
    exact ⟨ha, hq⟩

-- Two samples, 1 and 3, with a sample variance: mean 2 and standard deviation `√2`.
theorem time_stat_welford_two :
    let l : List ℝ := [1, 3]
    (computeTimeStat ⟨Real.sqrt, 0, 0⟩ l true).mean = 2 ∧
      (computeTimeStat ⟨Real.sqrt, 0, 0⟩ l true).sd = Real.sqrt 2 ∧
      (computeTimeStat ⟨Real.sqrt, 0, 0⟩ l true).mean = l.sum / l.length ∧
      (computeTimeStat ⟨Real.sqrt, 0, 0⟩ l true).sd =
        Real.sqrt ((l.map fun t => (t - l.sum / l.length) ^ 2).sum /
          ((if true ∧ 1 < l.length then l.length - 1 else l.length : Nat) : ℝ)) ∧
      ∀ k ≤ l.length,
        ((l.take k).foldl TimeStatAcc.push ⟨0, 0, 0, 0, 0, 0⟩).a = (l.take k).sum / k ∧
          ((l.take k).foldl TimeStatAcc.push ⟨0, 0, 0, 0, 0, 0⟩).q =
            ((l.take k).map fun t => (t - (l.take k).sum / k) ^ 2).sum := by
  have h := time_stat_welford [1, 3] (List.cons_ne_nil _ _) true 0 0
  refine ⟨?_, ?_, h⟩
  · rw [h.1]; norm_num
  · rw [h.2.1]; norm_num

end Sofaload
