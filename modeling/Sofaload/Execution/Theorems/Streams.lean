import Sofaload.Objects.Client

namespace Sofaload

-- The sum of `f` over the open streams of a client.
def streamSum (f : Stream → Nat) (s : Streams) : Nat := (s.entries.map fun e => f e.2).sum

section

variable {f : Stream → Nat} {k : Nat} {v v₀ : Stream}

private def entrySum (f : Stream → Nat) (l : List (Sigma fun _ : Nat => Stream)) : Nat :=
  (l.map fun e => f e.2).sum

private theorem entrySum_kerase (f : Stream → Nat) :
    ∀ {l : List (Sigma fun _ : Nat => Stream)}, l.dlookup k = some v₀ →
      entrySum f (l.kerase k) + f v₀ = entrySum f l
  | [], h => by simp at h
  | ⟨x, b⟩ :: l, h => by
    by_cases hx : k = x
    · subst hx
      simp only [List.dlookup_cons_eq, Option.some.injEq] at h
      simp [entrySum, List.kerase_cons_eq, h]; omega
    · rw [List.dlookup_cons_ne _ _ hx] at h
      have := entrySum_kerase f h
      simp only [entrySum, List.kerase_cons_ne (show k ≠ (⟨x, b⟩ : Sigma fun _ : Nat => Stream).1 from hx)] at this ⊢
      simp only [List.map_cons, List.sum_cons]; omega

private theorem entrySum_kerase_le (f : Stream → Nat) (k : Nat) :
    ∀ l : List (Sigma fun _ : Nat => Stream), entrySum f (l.kerase k) ≤ entrySum f l
  | [] => le_rfl
  | ⟨x, b⟩ :: l => by
    have := entrySum_kerase_le f k l
    by_cases hx : k = x
    · subst hx; simp [entrySum, List.kerase_cons_eq]
    · simp only [entrySum, List.kerase_cons_ne (show k ≠ (⟨x, b⟩ : Sigma fun _ : Nat => Stream).1 from hx), List.map_cons, List.sum_cons] at this ⊢; omega

private theorem entrySum_kreplace (f : Stream → Nat) (v : Stream) :
    ∀ {l : List (Sigma fun _ : Nat => Stream)}, l.dlookup k = some v₀ →
      entrySum f (l.kreplace k v) + f v₀ = entrySum f l + f v
  | [], h => by simp at h
  | ⟨x, b⟩ :: l, h => by
    by_cases hx : k = x
    · subst hx
      simp only [List.dlookup_cons_eq, Option.some.injEq] at h
      simp [entrySum, List.kreplace, List.lookmap_cons_some, h]; omega
    · rw [List.dlookup_cons_ne _ _ hx] at h
      have := entrySum_kreplace f v h
      simp only [entrySum, List.kreplace] at this ⊢
      simp [List.lookmap_cons_none, hx]; omega

private theorem dlookup_kreplace (v : Stream) :
    ∀ {l : List (Sigma fun _ : Nat => Stream)}, l.dlookup k = some v₀ →
      (l.kreplace k v).dlookup k = some v
  | [], h => by simp at h
  | ⟨x, b⟩ :: l, h => by
    by_cases hx : k = x
    · subst hx; simp [List.kreplace, List.lookmap_cons_some]
    · rw [List.dlookup_cons_ne _ _ hx] at h
      have := dlookup_kreplace v h
      simp only [List.kreplace] at this ⊢
      simp [List.lookmap_cons_none, hx, this]

theorem lookup_replace {s : Streams} (h : s.lookup k = some v₀) : (s.replace k v).lookup k = some v :=
  dlookup_kreplace v h

theorem streamSum_erase {s : Streams} (h : s.lookup k = some v₀) :
    streamSum f (s.erase k) + f v₀ = streamSum f s :=
  entrySum_kerase f h

theorem streamSum_insert_le (s : Streams) : streamSum f (s.insert k v) ≤ streamSum f s + f v := by
  have := entrySum_kerase_le f k s.entries
  simp only [streamSum, AList.insert_entries, List.map_cons, List.sum_cons, entrySum] at this ⊢
  omega

theorem streamSum_replace {s : Streams} (h : s.lookup k = some v₀) :
    streamSum f (s.replace k v) + f v₀ = streamSum f s + f v :=
  entrySum_kreplace f v h

@[simp] theorem streamSum_empty : streamSum f ∅ = 0 := rfl

end

theorem length_eq_streamSum (s : Streams) : s.entries.length = streamSum (fun _ => 1) s := by
  unfold streamSum
  induction s.entries with
  | nil => rfl
  | cons _ l ih => simp only [List.length_cons, List.map_cons, List.sum_cons, ih]; omega

section

variable {s : Streams} {k : Nat} {v v₀ : Stream}

theorem length_insert_le (s : Streams) (k : Nat) (v : Stream) :
    (s.insert k v).entries.length ≤ s.entries.length + 1 := by
  rw [length_eq_streamSum, length_eq_streamSum]; exact streamSum_insert_le s

theorem length_erase (h : s.lookup k = some v₀) : (s.erase k).entries.length + 1 = s.entries.length := by
  rw [length_eq_streamSum, length_eq_streamSum]; exact streamSum_erase h

theorem length_replace (h : s.lookup k = some v₀) : (s.replace k v).entries.length = s.entries.length := by
  have e : streamSum (fun _ => 1) (s.replace k v) + 1 = streamSum (fun _ => 1) s + 1 := streamSum_replace h
  rw [length_eq_streamSum, length_eq_streamSum]; omega

end

end Sofaload
