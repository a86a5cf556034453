import Sofaload.Execution.System

namespace Sofaload

section

variable {p r n i : Nat}

theorem threadShares_length : ∀ {r : Nat} (n : Nat), (threadShares p r n).length = n
  | _, 0 => rfl
  | _, n + 1 => by rw [threadShares, List.length_cons, threadShares_length n]

-- Worker `i` gets one more than `perThread` exactly when it comes before the remainder runs out.
theorem threadShares_getD : ∀ {r i : Nat} (n : Nat), i < n →
    (threadShares p r n).getD i 0 = p + if i < r then 1 else 0
  | _, _, 0, h => absurd h (Nat.not_lt_zero _)
  | r, 0, n + 1, _ => by
    simp only [threadShares, List.getD_cons_zero]; split_ifs <;> rfl
  | r, i + 1, n + 1, h => by
    rw [threadShares, List.getD_cons_succ, threadShares_getD n (by omega)]
    split_ifs <;> first | rfl | omega

theorem threadShares_sum : ∀ {r : Nat} (n : Nat), (threadShares p r n).sum = p * n + min r n
  | _, 0 => by simp [threadShares]
  | r, n + 1 => by
    rw [threadShares, List.sum_cons, threadShares_sum n, Nat.mul_succ]
    split_ifs <;> omega

-- The index test `i < qps % nthreads` hands out the same shares as a decrementing remainder.
theorem map_range_eq_threadShares : ∀ {r : Nat} (n : Nat),
    (List.range n).map (fun i => p + if i < r then 1 else 0) = threadShares p r n
  | _, 0 => rfl
  | r, n + 1 => by
    rw [List.range_succ_eq_map, List.map_cons, List.map_map, threadShares,
      ← map_range_eq_threadShares n]
    congr 1
    · split_ifs <;> rfl
    · refine List.map_congr_left fun k _ => ?_
      simp only [Function.comp_apply]
      split_ifs <;> first | rfl | omega

-- Splitting a total over `n` threads the way `main` does gives the total back.
theorem threadShares_sum_div_mod (T : Nat) (hn : 0 < n) : (threadShares (T / n) (T % n) n).sum = T := by
  rw [threadShares_sum, Nat.min_eq_left (Nat.mod_lt _ hn).le, Nat.mul_comm]
  exact Nat.div_add_mod T n

end

namespace Config

variable {cfg : Config}

theorem qpsShares_eq :
    cfg.qpsShares = threadShares (cfg.qps / cfg.nthreads) (cfg.qps % cfg.nthreads) cfg.nthreads :=
  map_range_eq_threadShares _

-- The shares of clients, rate and QPS `main` gives its workers add up to the totals, and each is
-- the even share plus one for the first `total % nthreads` workers.
theorem shares_split_exactly (ht : 0 < cfg.nthreads) :
    cfg.clientShares.sum = cfg.nclients ∧ cfg.rateShares.sum = cfg.rate ∧
      cfg.qpsShares.sum = cfg.qps ∧
      ∀ i < cfg.nthreads,
        cfg.clientShares.getD i 0 =
          cfg.nclients / cfg.nthreads + (if i < cfg.nclients % cfg.nthreads then 1 else 0) ∧
        cfg.rateShares.getD i 0 =
          cfg.rate / cfg.nthreads + (if i < cfg.rate % cfg.nthreads then 1 else 0) ∧
        cfg.qpsShares.getD i 0 =
          cfg.qps / cfg.nthreads + (if i < cfg.qps % cfg.nthreads then 1 else 0) :=
  ⟨threadShares_sum_div_mod _ ht, threadShares_sum_div_mod _ ht,
    qpsShares_eq ▸ threadShares_sum_div_mod _ ht, fun _ hi =>
      ⟨threadShares_getD _ hi, threadShares_getD _ hi, qpsShares_eq ▸ threadShares_getD _ hi⟩⟩

-- Five clients, a rate of four and a QPS of seven over three threads.
theorem shares_split_exactly_three_threads :
    let cfg : Config := ⟨0, 5, 3, 1, 0, 0, 0, 7, 4, false, .http2, false, false, [7]⟩
    cfg.clientShares = [2, 2, 1] ∧ cfg.rateShares = [2, 1, 1] ∧ cfg.qpsShares = [3, 2, 2] ∧
      cfg.clientShares.sum = cfg.nclients ∧ cfg.rateShares.sum = cfg.rate ∧
      cfg.qpsShares.sum = cfg.qps ∧
      ∀ i < cfg.nthreads,
        cfg.clientShares.getD i 0 =
          cfg.nclients / cfg.nthreads + (if i < cfg.nclients % cfg.nthreads then 1 else 0) ∧
        cfg.rateShares.getD i 0 =
          cfg.rate / cfg.nthreads + (if i < cfg.rate % cfg.nthreads then 1 else 0) ∧
        cfg.qpsShares.getD i 0 =
          cfg.qps / cfg.nthreads + (if i < cfg.qps % cfg.nthreads then 1 else 0) :=
  ⟨by decide, by decide, by decide, shares_split_exactly (by decide)⟩

end Config

end Sofaload
