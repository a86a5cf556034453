import Sofaload.Request.Build

namespace Sofaload

section Split

variable {c : Char} {a b : List Char}

-- What `strchr` splits at is the first occurrence of the character.
theorem takeWhile_ne_append (h : c ∉ a) : (a ++ c :: b).takeWhile (· != c) = a := by
  rw [List.takeWhile_append_of_pos fun x hx => by simpa using ne_of_mem_of_not_mem hx h,
    List.takeWhile_cons_of_neg (by simp), List.append_nil]

theorem dropWhile_ne_append (h : c ∉ a) : (a ++ c :: b).dropWhile (· != c) = c :: b := by
  rw [List.dropWhile_append_of_pos fun x hx => by simpa using ne_of_mem_of_not_mem hx h,
    List.dropWhile_cons_of_neg (by simp)]

theorem eq_append_of_dropWhile_ne {l : List Char} {x : Char} (h : l.dropWhile (· != c) = x :: b) :
    x = c ∧ l = l.takeWhile (· != c) ++ c :: b ∧ c ∉ l.takeWhile (· != c) := by
  have hx : x = c := by
    have := List.head?_dropWhile_not (· != c) l
    rw [h] at this; simpa using this
  subst hx
  exact ⟨rfl, by rw [← h, List.takeWhile_append_dropWhile], fun hm => by simpa using List.mem_takeWhile_imp hm⟩

end Split

theorem dropWhile_space_append {s v : List Char} (hs : ∀ c ∈ s, isSpace c = true)
    (hv : ∀ c ∈ v.head?, isSpace c = false) : (s ++ v).dropWhile isSpace = v := by
  rw [List.dropWhile_append_of_pos hs]
  cases v with
  | nil => rfl
  | cons d v => exact List.dropWhile_cons_of_neg (by simpa using hv d rfl)

-- The arguments `-H` accepts: a name with no `:` after its first character that is not `:` alone,
-- a `:`, white space, and a value that does not start with white space.
structure HeaderArg (name spaces value : List Char) : Prop where
  name_ne_nil : name ≠ []
  colon_not_mem : ':' ∉ name.tail
  name_ne_colon : name ≠ [':']
  spaces : ∀ c ∈ spaces, isSpace c = true
  value_ne_nil : value ≠ []
  value_head : ∀ c ∈ value.head?, isSpace c = false

theorem HeaderArg.of_parseHeader {arg : List Char} {h : Header} (hp : parseHeader arg = .ok h) :
    ∃ name spaces, HeaderArg name spaces h.value ∧ arg = name ++ ':' :: (spaces ++ h.value) ∧
      h.name = strLower name := by
  match arg, hp with
  | c :: rest, hp =>
    simp only [parseHeader] at hp
    split at hp
    · cases hp
    · next x v hd =>
      obtain ⟨rfl, hr, hc⟩ := eq_append_of_dropWhile_ne hd
      split_ifs at hp with h₁ h₂
      cases hp
      refine ⟨c :: rest.takeWhile (· != ':'), v.takeWhile isSpace,
        ⟨nofun, hc, fun e => ?_, fun _ => List.mem_takeWhile_imp, h₂, fun d hd' => ?_⟩, ?_, rfl⟩
      · injection e with e₁ e₂; exact h₁ ⟨e₁, e₂⟩
      · have := List.head?_dropWhile_not isSpace v
        rwa [Option.mem_def.mp hd'] at this
      · dsimp only; rw [List.takeWhile_append_dropWhile, List.cons_append, ← hr]

-- `-H` accepts exactly the arguments `name: value` with a name that has no `:` after its first
-- character and is not `:` alone, and a value that is not empty after the white space that
-- follows the colon; it stores the name in lower case and the value without that white space.
theorem parseHeader_eq_ok {arg : List Char} {h : Header} :
    parseHeader arg = .ok h ↔
      ∃ name spaces, HeaderArg name spaces h.value ∧ arg = name ++ ':' :: (spaces ++ h.value) ∧
        h.name = strLower name := by
  refine ⟨HeaderArg.of_parseHeader, ?_⟩
  rintro ⟨n, s, ha, rfl, hn⟩
  obtain ⟨c, t, rfl⟩ := List.exists_cons_of_ne_nil ha.name_ne_nil
  have ht : ':' ∉ t := ha.colon_not_mem
  simp only [List.cons_append, parseHeader, dropWhile_ne_append ht, takeWhile_ne_append ht,
    dropWhile_space_append ha.spaces ha.value_head]
  rw [if_neg fun ⟨e₁, e₂⟩ => ha.name_ne_colon (by rw [e₁, e₂]), if_neg ha.value_ne_nil, ← hn]

section Override

-- The entry `nv` with the value of the last custom header that overrides it, if any.
def overridden (custom : List Header) (nv : Header) : Header :=
  match (custom.filter fun kv => decide (kv.name ∈ overrideHdrs) && overrides kv.name nv.name).getLast? with
  | some kv => { nv with value := kv.value }
  | none => nv

theorem overrides_false {kv nv : List Char} (hk : kv ∈ overrideHdrs) (hn : nv ∉ overrideHdrs) :
    overrides kv nv = false := by
  simp only [overrides, Bool.or_eq_false_iff, Bool.and_eq_false_iff, beq_eq_false_iff_ne]
  exact ⟨.inl fun e => hn (e ▸ by simp [overrideHdrs]), fun e => hn (e ▸ hk)⟩

theorem name_overridden (custom : List Header) (nv : Header) : (overridden custom nv).name = nv.name := by
  unfold overridden; split <;> rfl

theorem overridden_append (custom : List Header) (kv nv : Header) :
    overridden (custom ++ [kv]) nv =
      if kv.name ∈ overrideHdrs ∧ overrides kv.name nv.name then { nv with value := kv.value }
      else overridden custom nv := by
  unfold overridden
  rw [List.filter_append, List.filter_singleton]
  split_ifs with h
  · simp [h]
  · have h' : (decide (kv.name ∈ overrideHdrs) && overrides kv.name nv.name) = false := by simpa using h
    rw [h', cond_false, List.append_nil]

-- The loop over the custom headers leaves the entries it started from in place, each with the
-- value of the last custom header that overrides it, and appends the others in order.
theorem sharedNva_eq (base custom : List Header) :
    sharedNva base custom =
      base.map (overridden custom) ++ custom.filter fun kv => kv.name ∉ overrideHdrs := by
  induction custom using List.reverseRecOn with
  | nil =>
    have : overridden [] = id := funext fun _ => rfl
    simp [sharedNva, this]
  | append_singleton l kv ih =>
    rw [sharedNva, List.foldl_append, List.foldl_cons, List.foldl_nil, ← sharedNva, ih, addCustom,
      List.filter_append, List.filter_singleton]
    split_ifs with hk
    · rw [decide_eq_false (not_not_intro hk), cond_false, List.append_nil, List.map_append, List.map_map]
      congr 1
      · refine List.map_congr_left fun nv _ => ?_
        simp only [Function.comp_apply, overridden_append, name_overridden, hk, true_and]
      · refine (List.map_congr_left fun x hx => ?_).trans (List.map_id _)
        have hx : x.name ∉ overrideHdrs := by simpa using (List.mem_filter.mp hx).2
        rw [if_neg (by rw [overrides_false hk hx]; exact Bool.false_ne_true), id]
    · rw [decide_eq_true hk, cond_true, ← List.append_assoc]
      congr 2
      exact List.map_congr_left fun nv _ => by rw [overridden_append, if_neg fun h => hk h.1]

-- The value of the last custom header named in `names`, or `v`.
def lastValue (custom : List Header) (names : List (List Char)) (v : List Char) : List Char :=
  ((custom.filter (·.name ∈ names)).getLast?.map (·.value)).getD v

theorem overridden_eq (custom : List Header) (nv : Header) (names : List (List Char))
    (h : ∀ n, (decide (n ∈ overrideHdrs) && overrides n nv.name) = decide (n ∈ names)) :
    overridden custom nv = ⟨nv.name, lastValue custom names nv.value⟩ := by
  unfold overridden lastValue
  rw [List.filter_congr fun kv _ => h kv.name]
  split <;> next e => simp [e]

-- The custom headers that override an entry of `shared_nva`: those of its own name, and `:host`
-- for `:authority`.
theorem override_names {m : List Char} (hm : m ∈ overrideHdrs) (ha : m ≠ ":authority".toList)
    (n : List Char) : (decide (n ∈ overrideHdrs) && overrides n m) = decide (n ∈ [m]) := by
  by_cases h : n = m
  · subst h; simp [overrides, hm]
  · have e₁ : (m == ":authority".toList) = false := beq_eq_false_iff_ne.mpr ha
    have e₂ : (m == n) = false := beq_eq_false_iff_ne.mpr (Ne.symm h)
    rw [overrides, e₁, Bool.false_and, Bool.false_or, e₂, Bool.and_false]
    exact (decide_eq_false fun hn => h (List.mem_singleton.mp hn)).symm

theorem override_names_authority (n : List Char) :
    (decide (n ∈ overrideHdrs) && overrides n ":authority".toList) =
      decide (n ∈ [":authority".toList, ":host".toList]) := by
  by_cases h₁ : n = ":authority".toList
  · subst h₁; decide
  by_cases h₂ : n = ":host".toList
  · subst h₂; decide
  have e₁ : (n == ":host".toList) = false := beq_eq_false_iff_ne.mpr h₂
  have e₂ : (":authority".toList == n) = false := beq_eq_false_iff_ne.mpr (Ne.symm h₁)
  rw [overrides, e₁, Bool.and_false, Bool.false_or, e₂, Bool.and_false]
  refine (decide_eq_false fun hn => ?_).symm
  rcases List.mem_cons.mp hn with e | hn
  · exact h₁ e
  · exact h₂ (List.mem_singleton.mp hn)

-- `shared_nva` as `main` builds it: the scheme, the authority, the method and the user agent,
-- each with the value of the last custom header naming it (`:host` or `:authority` for the
-- authority) or else its own, followed by the custom headers that name none of them, in order.
theorem shared_nva_overrides (scheme host userAgent : List Char) (port defaultPort : Nat) (post : Bool)
    (custom : List Header) :
    sharedNva (baseNva scheme host port defaultPort post userAgent) custom =
      [⟨":scheme".toList, lastValue custom [":scheme".toList] scheme⟩,
       ⟨":authority".toList, lastValue custom [":authority".toList, ":host".toList]
          (if port ≠ defaultPort then host ++ ':' :: (Nat.repr port).toList else host)⟩,
       ⟨":method".toList, lastValue custom [":method".toList] (if post then "POST".toList else "GET".toList)⟩,
       ⟨"user-agent".toList, lastValue custom ["user-agent".toList] userAgent⟩] ++
      custom.filter fun kv => kv.name ∉ overrideHdrs := by
  rw [sharedNva_eq, baseNva]
  simp only [List.map_cons, List.map_nil,
    overridden_eq custom ⟨":scheme".toList, scheme⟩ _ (@override_names ":scheme".toList (by decide) (by decide)),
    overridden_eq custom ⟨":authority".toList, _⟩ _ override_names_authority,
    overridden_eq custom ⟨":method".toList, if post then "POST".toList else "GET".toList⟩ _
      (@override_names ":method".toList (by decide) (by decide)),
    overridden_eq custom ⟨"user-agent".toList, userAgent⟩ _
      (@override_names "user-agent".toList (by decide) (by decide))]

end Override

section Text

-- `Char.toLower` changes capital letters only, and into small ones.
theorem eq_of_toLower_eq {c d : Char} (h : c.toLower = d) (hd : d.toNat < 97) : c = d := by
  simp only [Char.toLower] at h
  split_ifs at h with hc
  · subst h
    have hv : (c.toNat + 32).isValidChar := Or.inl (by omega)
    have : (Char.ofNat (c.toNat + 32)).toNat = c.toNat + 32 := by rw [Char.ofNat, dif_pos hv]; rfl
    omega
  · exact h

theorem mem_of_mem_strLower {s : List Char} {d : Char} (hd : d.toNat < 97) (h : d ∈ strLower s) : d ∈ s := by
  obtain ⟨c, hc, e⟩ := List.mem_map.mp h
  exact eq_of_toLower_eq e hd ▸ hc

-- A stored name has no colon after its first character, nor a lone one there.
theorem colon_not_mem_of_parseHeader {arg : List Char} {kv : Header} (hp : parseHeader arg = .ok kv)
    (hh : kv.name.head? ≠ some ':') : ':' ∉ kv.name := by
  obtain ⟨n, s, ha, -, hn⟩ := HeaderArg.of_parseHeader hp
  obtain ⟨c, t, rfl⟩ := List.exists_cons_of_ne_nil ha.name_ne_nil
  rw [hn, strLower, List.map_cons] at hh ⊢
  intro hm
  rcases List.mem_cons.mp hm with e | hm
  · exact hh (by rw [List.head?_cons, ← e])
  · exact ha.colon_not_mem (mem_of_mem_strLower (by decide) hm)

theorem digitChar_ne_newline (k : Nat) : Nat.digitChar k ≠ '\n' := by
  by_cases hk : k < 16
  · have h16 : ∀ k < 16, Nat.digitChar k ≠ '\n' := by decide
    exact h16 k hk
  · unfold Nat.digitChar
    simp (disch := omega) only [if_neg]
    decide

theorem newline_not_mem_toDigitsCore {b : Nat} :
    ∀ {f n : Nat} {ds : List Char}, '\n' ∉ ds → '\n' ∉ Nat.toDigitsCore b f n ds
  | 0, _, _, h => h
  | f + 1, n, ds, h => by
    have h' := List.not_mem_cons_of_ne_of_not_mem (digitChar_ne_newline (n % b)).symm h
    rw [Nat.toDigitsCore]; split
    · exact h'
    · exact newline_not_mem_toDigitsCore h'

theorem newline_not_mem_repr (n : Nat) : '\n' ∉ (Nat.repr n).toList :=
  newline_not_mem_toDigitsCore (List.not_mem_nil _)

end Text

end Sofaload
