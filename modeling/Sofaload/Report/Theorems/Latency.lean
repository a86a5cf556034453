import Sofaload.Report.Stats
import Sofaload.Execution.Worker

namespace Sofaload

-- Every sample a worker recorded lies between the extremes `Worker::record_rtt` keeps.
def Worker.RttInv (w : Worker) : Prop := ∀ x ∈ w.rtts, w.rttMin ≤ x ∧ x ≤ w.rttMax

instance : DecidablePred Worker.RttInv := fun w => inferInstanceAs (Decidable (∀ x ∈ w.rtts, _))

-- `v` is the sample of rank `r` (counted from 1) in ascending order: fewer than `r` samples lie
-- below it and at least `r` lie at or below it.
def IsRank (s : List Nat) (r v : Nat) : Prop := s.countP (· < v) < r ∧ r ≤ s.countP (· ≤ v)

instance (s : List Nat) (r v : Nat) : Decidable (IsRank s r v) :=
  inferInstanceAs (Decidable (_ ∧ _))

-- In exact arithmetic `round(p / 100 * n + 0.5)` is one more than the floor of `p * n / 100`.
theorem percentileRank_eq (p n : Nat) : percentileRank p n = p * n / 100 + 1 := by
  have e : (p : ℚ) / 100 * n + 1 / 2 + 1 / 2 = ((p * n : Nat) : ℚ) / (100 : Nat) + 1 := by
    push_cast; ring
  rw [percentileRank, round_eq, e, Int.floor_toNat, Nat.floor_add_one (by positivity),
    Nat.floor_div_eq_div]

section Scan

variable {s : List Nat}

theorem countP_lt_succ (s : List Nat) (b : Nat) :
    s.countP (· < b + 1) = s.countP (· < b) + s.count b := by
  induction s with
  | nil => rfl
  | cons x s ih =>
    simp only [List.countP_cons, List.count_cons, ih, decide_eq_true_eq, beq_iff_eq]
    split_ifs <;> omega

-- The scan stops at the first value at or below which `rank` samples lie: from a value with fewer
-- than `rank` samples below it, over buckets reaching a value with at least `rank` below it, it
-- ends on the sample of that rank.
theorem scanRtt_isRank {r : Nat} : ∀ (m b : Nat), s.countP (· < b) < r →
    r ≤ s.countP (· < b + m) →
    IsRank s r (scanRtt r ((List.range m).map fun j => s.count (b + j)) (s.countP (· < b)) b)
  | 0, b, h₁, h₂ => absurd h₂ (by simpa using h₁)
  | m + 1, b, h₁, h₂ => by
    have hle : s.countP (· ≤ b) = s.countP (· < b) + s.count b := by
      rw [← countP_lt_succ]; exact List.countP_congr fun x _ => by simp [Nat.lt_succ_iff]
    rw [List.range_succ_eq_map, List.map_cons, List.map_map, scanRtt, Nat.add_zero]
    split_ifs with h
    · exact ⟨h₁, hle ▸ h⟩
    · have e : (fun j => s.count (b + j)) ∘ Nat.succ = fun j => s.count (b + 1 + j) := by
        funext j; simp only [Function.comp_apply]; congr 1; omega
      rw [e, ← countP_lt_succ]
      exact scanRtt_isRank m (b + 1) (by rw [countP_lt_succ]; omega)
        (by rwa [Nat.add_right_comm, Nat.add_assoc])

end Scan

section Histogram

variable {lo : Nat}

-- A sample between `lo` and the end of the histogram is counted in bucket `x - lo`.
theorem countSample_eq {h : List Nat} {x : Nat} (hx : lo ≤ x) (hxl : x - lo < h.length)
    (hh : h.length ≤ 2 ^ 64) : countSample lo h x = some (h.modify (· + 1) (x - lo)) := by
  have hj : (x + 2 ^ 64 - lo) % 2 ^ 64 = x - lo := by
    rw [show x + 2 ^ 64 - lo = x - lo + 2 ^ 64 by omega, Nat.add_mod_right, Nat.mod_eq_of_lt (by omega)]
  simp only [countSample, hj, if_pos hxl]

-- Counting samples that all fall inside the histogram adds each one to its bucket.
theorem foldlM_countSample : ∀ (xs : List Nat) (h : List Nat), h.length ≤ 2 ^ 64 →
    (∀ x ∈ xs, lo ≤ x ∧ x - lo < h.length) →
    xs.foldlM (countSample lo) h =
      some ((List.range h.length).map fun j => h.getD j 0 + xs.count (lo + j))
  | [], h, _, _ => by
    refine congrArg some (List.ext_getElem (by simp) fun j h₁ h₂ => ?_)
    simp [List.getD_eq_getElem?_getD, List.getElem?_eq_getElem h₁]
  | x :: xs, h, hh, hx => by
    obtain ⟨hx₁, hx₂⟩ := hx x (List.mem_cons_self _ _)
    have hl : (h.modify (· + 1) (x - lo)).length = h.length := List.length_modify _ _ _
    rw [List.foldlM_cons, countSample_eq hx₁ hx₂ hh, Option.bind_eq_bind, Option.some_bind,
      foldlM_countSample xs _ (hl ▸ hh) fun y hy => hl ▸ hx y (List.mem_cons_of_mem _ hy), hl]
    refine congrArg some (List.map_congr_left fun j hj => ?_)
    rw [List.mem_range] at hj
    simp only [List.getD_eq_getElem?_getD, List.getElem?_modify, List.count_cons, beq_iff_eq]
    rw [List.getElem?_eq_getElem hj]
    simp only [Option.map_eq_map, Option.map_some', Option.getD_some]
    split_ifs <;> omega

-- The histogram of `main`, filled from the workers one after another.
theorem histogram_eq_foldlM (h : List Nat) : ∀ ws : List Worker,
    histogram lo h ws = (ws.flatMap Worker.rtts).foldlM (countSample lo) h := by
  intro ws
  induction ws generalizing h with
  | nil => rfl
  | cons w ws ih =>
    simp only [histogram, List.foldlM_cons, List.flatMap_cons, List.foldlM_append] at ih ⊢
    exact congrArg _ (funext ih)

end Histogram

section Extremes

private theorem foldl_extremes (w : Worker) : ∀ (ws : List Worker) (m : Nat × Nat),
    (w ∈ ws → (ws.foldl (fun m w => (min m.1 w.rttMin, max m.2 w.rttMax)) m).1 ≤ w.rttMin ∧
      w.rttMax ≤ (ws.foldl (fun m w => (min m.1 w.rttMin, max m.2 w.rttMax)) m).2) ∧
    (ws.foldl (fun m w => (min m.1 w.rttMin, max m.2 w.rttMax)) m).1 ≤ m.1 ∧
      m.2 ≤ (ws.foldl (fun m w => (min m.1 w.rttMin, max m.2 w.rttMax)) m).2
  | [], _ => ⟨nofun, le_rfl, le_rfl⟩
  | v :: ws, m => by
    obtain ⟨ih, h₁, h₂⟩ := foldl_extremes w ws (min m.1 v.rttMin, max m.2 v.rttMax)
    simp only [List.foldl_cons, List.mem_cons] at ih h₁ h₂ ⊢
    refine ⟨fun hw => hw.elim (fun e => ?_) ih, by omega, by omega⟩
    subst e; omega

-- Every sample of every worker lies between the extremes `main` computes.
theorem rttExtremes_bounds {ws : List Worker} (hw : ∀ w ∈ ws, w.RttInv) :
    ∀ x ∈ ws.flatMap Worker.rtts, (rttExtremes ws).1 ≤ x ∧ x ≤ (rttExtremes ws).2 := by
  intro x hx
  obtain ⟨w, hw', hx⟩ := List.mem_flatMap.mp hx
  have e := (foldl_extremes w ws (2 ^ 64 - 1, 0)).1 hw'
  have := hw w hw' x hx
  exact ⟨e.1.trans this.1, this.2.trans e.2⟩

end Extremes

-- Over workers whose recorded samples lie within their extremes, with `rtt_max - rtt_min + 1`
-- representable, `main` indexes its histogram only within bounds and reports for percentile `p`
-- the sample of rank `⌊p * N / 100⌋ + 1` in ascending order, `N` samples in all.
theorem latency_rank_floor_succ (ws : List Worker) (hw : ∀ w ∈ ws, w.RttInv)
    (hn : 0 < (ws.map fun w => w.rtts.length).sum)
    (hrep : (rttExtremes ws).2 - (rttExtremes ws).1 + 1 < 2 ^ 64) :
    ∃ vs, latencyDistribution ws = some vs ∧
      List.Forall₂ (fun p v => IsRank (ws.flatMap Worker.rtts)
        (p * (ws.map fun w => w.rtts.length).sum / 100 + 1) v) percentiles vs := by
  set s := ws.flatMap Worker.rtts
  set N := (ws.map fun w => w.rtts.length).sum
  have hN : s.length = N := by simp [s, N, List.length_flatMap, Function.comp_def]
  have hb := rttExtremes_bounds hw
  obtain ⟨x, hx⟩ := List.exists_mem_of_length_pos (hN ▸ hn)
  have hlo := hb x hx
  have hinv : decide ((rttExtremes ws).2 < (rttExtremes ws).1) = false := by
    simp only [decide_eq_false_iff_not]; omega
  set lo := (rttExtremes ws).1
  set m := (rttExtremes ws).2 - lo + 1
  have hH : histogram lo (List.replicate (m % 2 ^ 64) 0) ws =
      some ((List.range m).map fun j => s.count (lo + j)) := by
    rw [Nat.mod_eq_of_lt hrep, histogram_eq_foldlM, foldlM_countSample _ _ (by simp; omega)
      fun y hy => ⟨(hb y hy).1, by simp; have := hb y hy; omega⟩, List.length_replicate]
    refine congrArg some (List.map_congr_left fun j hj => ?_)
    simp [List.getD_eq_getElem?_getD, List.getElem?_replicate, (List.mem_range.mp hj)]
  simp only [latencyDistribution, hinv, Bool.false_eq_true, if_false]
  rw [hH, Option.map_some']
  refine ⟨_, rfl, List.forall₂_map_right_iff.mpr (List.forall₂_same.mpr fun p hp => ?_)⟩
  have h0 : s.countP (· < lo) = 0 :=
    List.countP_eq_zero.mpr fun y hy => by simpa using (hb y hy).1
  have hall : s.countP (· < lo + m) = N := by
    rw [← hN]; exact List.countP_eq_length.mpr fun y hy => by have := hb y hy; simp; omega
  rw [percentileRank_eq, ← h0]
  refine scanRtt_isRank m lo (by omega) (hall ▸ ?_)
  simp only [percentiles, List.mem_cons, List.mem_nil_iff, or_false] at hp
  rcases hp with rfl | rfl | rfl | rfl | rfl <;> omega

-- One worker recorded the samples 1 and 2: at the 50th percentile `main` reports 2, the sample of
-- rank 2, where the nearest rank `⌈50 * 2 / 100⌉ = 1` is the sample 1.
theorem latency_rank_floor_succ_two_samples :
    let w := ((⟨Worker.create ⟨1, 1, 1, 1, 0, 0, 0, 0, 0, false, .http2, false, false, [7]⟩ 0 1 [],
      ⟨1, 0, 0, none⟩, {}⟩ : Ctx).recordRtt 1 |>.recordRtt 2).w
    latencyDistribution [w] = some [2, 2, 2, 2, 2] ∧ IsRank [1, 2] 1 1 ∧
      ∃ vs, latencyDistribution [w] = some vs ∧
        List.Forall₂ (fun p v => IsRank ([w].flatMap Worker.rtts)
          (p * ([w].map fun w => w.rtts.length).sum / 100 + 1) v) percentiles vs :=
  ⟨by simp only [latencyDistribution, percentileRank_eq]; decide, by decide,
    latency_rank_floor_succ _ (by decide) (by decide) (by decide)⟩

end Sofaload
