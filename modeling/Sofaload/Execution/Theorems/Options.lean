import Sofaload.Execution.Options
import Sofaload.Execution.Theorems.Shares

namespace Sofaload

theorem ite_error_eq_ok {ε α : Type} {c : Prop} [Decidable c] {e : ε} {x : Except ε α} {a : α} :
    (if c then .error e else x) = .ok a ↔ ¬c ∧ x = .ok a := by
  split <;> simp_all

theorem ite_error_eq_error {ε α : Type} {c : Prop} [Decidable c] {e m : ε} {x : Except ε α} :
    (if c then .error e else x) = .error m ↔ c ∧ e = m ∨ ¬c ∧ x = .error m := by
  split <;> simp_all

theorem mapM_eq_ok {ε α β : Type} {f : α → Except ε β} {l : List α} :
    ∀ {r : List β}, l.mapM f = .ok r ↔ List.Forall₂ (fun a b => f a = .ok b) l r := by
  induction l with
  | nil => intro r; rw [List.mapM_nil]; cases r <;> simp [pure, Except.pure]
  | cons a l ih =>
    intro r
    rw [List.mapM_cons]
    cases r with
    | nil => cases f a <;> cases l.mapM f <;> simp [Bind.bind, Except.bind, pure, Except.pure]
    | cons b bs =>
      rw [List.forall₂_cons, ← ih]
      cases f a <;> cases l.mapM f <;> simp [Bind.bind, Except.bind, pure, Except.pure]

-- A failed traversal fails with the error of one of the elements.
theorem mapM_eq_error {ε α β : Type} {f : α → Except ε β} {e : ε} {l : List α} (h : l.mapM f = .error e) :
    ∃ a ∈ l, f a = .error e := by
  induction l with
  | nil => rw [List.mapM_nil] at h; cases h
  | cons a l ih =>
    rw [List.mapM_cons] at h
    cases ha : f a with
    | error e' =>
      rw [ha] at h; cases h
      exact ⟨a, List.mem_cons_self _ _, ha⟩
    | ok b =>
      rw [ha] at h
      cases hl : l.mapM f with
      | error e' =>
        rw [hl] at h; cases h
        obtain ⟨a', hm, he⟩ := ih hl
        exact ⟨a', List.mem_cons_of_mem _ hm, he⟩
      | ok bs => rw [hl] at h; cases h

section ParseUris

variable {parseUrl : List Char → Option (Option (List Char) × Option (List Char))}
  {parseBaseUri : List Char → Bool} {uris reqlines : List (List Char)}

theorem parseUri_eq_ok {uri reqline : List Char} :
    parseUri parseUrl uri = .ok reqline ↔
      ∃ path query, parseUrl uri = some (path, query) ∧ reqline = getReqline path query := by
  cases h : parseUrl uri with
  | none => simp [parseUri, h]
  | some pq => obtain ⟨path, query⟩ := pq; simp [parseUri, h, eq_comm, and_assoc]

-- `parse_uris` fails on an empty list and on a first URI `parse_base_uri` rejects, and otherwise
-- turns each URI, in order, into the request line of its path and query.
theorem parseUris_eq_ok :
    parseUris parseUrl parseBaseUri uris = .ok reqlines ↔
      (∃ first ∈ uris.head?, parseBaseUri first) ∧
        List.Forall₂ (fun u l => ∃ path query, parseUrl u = some (path, query) ∧ l = getReqline path query)
          uris reqlines := by
  cases uris with
  | nil => simp [parseUris]
  | cons first rest =>
    simp only [parseUris, ite_error_eq_ok, Bool.not_eq_true', Bool.not_eq_false, mapM_eq_ok,
      parseUri_eq_ok, List.head?_cons, Option.mem_def, Option.some.injEq, exists_eq_left']

theorem ne_nil_of_parseUris (h : parseUris parseUrl parseBaseUri uris = .ok reqlines) : reqlines ≠ [] := by
  obtain ⟨⟨first, hf, -⟩, h⟩ := parseUris_eq_ok.mp h
  obtain ⟨rest, rfl⟩ : ∃ rest, uris = first :: rest := ⟨uris.tail, (List.eq_cons_of_mem_head? hf)⟩
  cases h
  exact List.cons_ne_nil _ _

-- What `parse_uris` exits with: that there is no URI, or the first URI it could not parse.
theorem parseUris_error (h : parseUris parseUrl parseBaseUri uris = .error msg) :
    msg = "no URI available".toList ∨ ∃ u ∈ uris, msg = "invalid URI: ".toList ++ u := by
  cases uris with
  | nil => cases h; exact .inl rfl
  | cons first rest =>
    rw [parseUris] at h
    split at h
    · cases h; exact .inr ⟨first, List.mem_cons_self _ _, rfl⟩
    · obtain ⟨u, hu, he⟩ := mapM_eq_error h
      unfold parseUri at he
      split at he
      · cases he
      · cases he; exact .inr ⟨u, hu, rfl⟩

end ParseUris

namespace Config

variable {cfg : Config}

theorem accepted_iff : cfg.accepted ↔
    (cfg.isQpsMode && cfg.isRateMode) = false ∧ (cfg.isQpsMode && cfg.duration == 0) = false ∧
      (cfg.isTimingBasedMode && cfg.isRateMode) = false ∧ (cfg.nreqs == 0 && !cfg.isTimingBasedMode) = false ∧
      ¬cfg.maxConcurrentStreams = 0 ∧ ¬cfg.nthreads = 0 ∧
      (decide (cfg.nclients < cfg.nthreads) && !cfg.isQpsMode) = false ∧
      (cfg.isRateMode && decide (cfg.rate < cfg.nthreads)) = false := by
  simp only [accepted, Bool.and_eq_true, Bool.not_eq_true', bne_iff_ne, ne_eq, and_assoc]

-- The check "-n, -D: Must have one" repeats the earlier check of `-n` on the value `main` has
-- just reset.
private theorem nreqs_check_redundant (h : (cfg.nreqs == 0 && !cfg.isTimingBasedMode) = false) :
    ((if cfg.isTimingBasedMode then 0 else cfg.nreqs) == 0 && !cfg.isTimingBasedMode) = false := by
  cases hT : cfg.isTimingBasedMode <;> simp_all

private theorem rate_check_iff :
    (cfg.isRateMode && decide (cfg.rate > cfg.nclients)) = false ↔ (cfg.isRateMode → cfg.rate ≤ cfg.nclients) := by
  cases cfg.isRateMode <;> simp

theorem checkOptions_eq_ok {u : Bool} {r : Except (List Char) (List (List Char))} {ls : List (List Char)} :
    cfg.checkOptions u r = .ok ls ↔ u ∧ r = .ok ls ∧ ls ≠ [] ∧ cfg.nclients ≠ 0 ∧ cfg.accepted ∧
      (cfg.isRateMode → cfg.rate ≤ cfg.nclients) := by
  unfold checkOptions
  cases u
  · simp only [Bool.not_false, if_true, reduceCtorEq, false_and]
  cases r with
  | error e => simp only [ite_error_eq_ok, reduceCtorEq, and_false, false_and]
  | ok l =>
    simp only [ite_error_eq_ok, Bool.not_true, Bool.false_eq_true, if_false, not_false_eq_true, true_and,
      Except.ok.injEq, List.isEmpty_iff, Bool.not_eq_true, accepted_iff, ← rate_check_iff]
    constructor
    · rintro ⟨hc, hl, h₁, h₂, h₃, h₄, h₅, h₆, h₇, h₈, hr, -, rfl⟩
      exact ⟨rfl, hl, hc, ⟨h₁, h₂, h₃, h₄, h₅, h₆, h₇, h₈⟩, hr⟩
    · rintro ⟨rfl, hl, hc, ⟨h₁, h₂, h₃, h₄, h₅, h₆, h₇, h₈⟩, hr⟩
      exact ⟨hc, hl, h₁, h₂, h₃, h₄, h₅, h₆, h₇, h₈, hr, nreqs_check_redundant h₄, rfl⟩

section Messages

variable {u : Bool} {parseUrl : List Char → Option (Option (List Char) × Option (List Char))}
  {parseBaseUri : List Char → Bool} {uris : List (List Char)}

-- One case for each check, in the order `main` makes them.
private theorem checkOptions_error_ne {m : List Char}
    (h : cfg.checkOptions u (parseUris parseUrl parseBaseUri uris) = .error m) :
    m ≠ "No URI given".toList ∧ m ≠ "-n, -D: Must have one".toList := by
  unfold checkOptions at h
  cases hr : parseUris parseUrl parseBaseUri uris with
  | error e =>
    simp only [hr, ite_error_eq_error, Except.error.injEq] at h
    rcases h with ⟨-, rfl⟩ | ⟨-, ⟨-, rfl⟩ | ⟨-, rfl⟩⟩
    · decide
    · decide
    · rcases parseUris_error hr with rfl | ⟨u, -, rfl⟩
      · decide
      · exact ⟨fun h => (nomatch congrArg List.head? h), fun h => (nomatch congrArg List.head? h)⟩
  | ok l =>
    simp only [hr, ite_error_eq_error, Except.error.injEq, reduceCtorEq, and_false, or_false] at h
    -- no URI or input file; no client
    rcases h with ⟨-, rfl⟩ | ⟨-, h⟩; · decide
    rcases h with ⟨-, rfl⟩ | ⟨-, h⟩; · decide
    -- "No URI given": `parse_uris` never returns an empty list
    rcases h with ⟨hl, -⟩ | ⟨-, h⟩; · exact absurd (List.isEmpty_iff.mp hl) (ne_nil_of_parseUris hr)
    -- the mutual exclusions and `-n`
    iterate 3 rcases h with ⟨-, rfl⟩ | ⟨-, h⟩; · decide
    rcases h with ⟨-, rfl⟩ | ⟨hn, h⟩; · decide
    -- `-m`, `-t`, `-c, -t`, `-r, -t`, `-r, -c`
    iterate 5 rcases h with ⟨-, rfl⟩ | ⟨-, h⟩; · decide
    -- "-n, -D: Must have one" repeats the check of `-n`
    rw [Bool.not_eq_true] at hn
    exact absurd h.1 (by rw [nreqs_check_redundant hn]; decide)

-- Two of the exits of `main` cannot happen: the messages "No URI given" and "-n, -D: Must have
-- one" are never printed.
theorem checkOptions_never_empty_or_unbudgeted :
    cfg.checkOptions u (parseUris parseUrl parseBaseUri uris) ≠ .error "No URI given".toList ∧
      cfg.checkOptions u (parseUris parseUrl parseBaseUri uris) ≠ .error "-n, -D: Must have one".toList :=
  ⟨fun h => (checkOptions_error_ne h).1 rfl, fun h => (checkOptions_error_ne h).2 rfl⟩

end Messages

-- Outside QPS mode the options `main` accepts give every worker thread at least one client.
theorem clientShares_pos_of_checkOptions {u : Bool} {r : Except (List Char) (List (List Char))}
    {ls : List (List Char)} (h : cfg.checkOptions u r = .ok ls) (hq : cfg.isQpsMode = false) :
    cfg.clientShares.length = cfg.nthreads ∧ ∀ n ∈ cfg.clientShares, 0 < n := by
  obtain ⟨-, -, -, -, ha, -⟩ := checkOptions_eq_ok.mp h
  obtain ⟨-, -, -, -, -, ht, hc, -⟩ := accepted_iff.mp ha
  have hle : cfg.nthreads ≤ cfg.nclients := by simpa [hq] using hc
  have hlen : cfg.clientShares.length = cfg.nthreads := threadShares_length _
  refine ⟨hlen, fun n hn => ?_⟩
  obtain ⟨i, hi, rfl⟩ := List.getElem_of_mem hn
  rw [← List.getD_eq_getElem _ 0 hi, clientShares, threadShares_getD _ (hlen ▸ hi)]
  exact Nat.add_pos_left (Nat.div_pos hle (Nat.pos_of_ne_zero ht)) _

-- Five clients over three threads, ten requests and one URI.
theorem clientShares_pos_five_over_three :
    let cfg : Config := ⟨10, 5, 3, 1, 0, 0, 0, 0, 0, false, .http2, false, false, [7]⟩
    cfg.checkOptions true (.ok ["/".toList]) = .ok ["/".toList] ∧ cfg.isQpsMode = false ∧
      cfg.clientShares.length = cfg.nthreads ∧ ∀ n ∈ cfg.clientShares, 0 < n :=
  ⟨rfl, rfl, @clientShares_pos_of_checkOptions _ true (.ok ["/".toList]) _ rfl rfl⟩

end Config

end Sofaload
