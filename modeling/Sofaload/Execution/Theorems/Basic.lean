import Sofaload.Execution.Worker

namespace List

variable {α β : Type _} {f : α → α} {g : α → β}

theorem map_modify_of_comp (h : ∀ a, g (f a) = g a) :
    ∀ (n : Nat) (l : List α), (l.modify f n).map g = l.map g
  | _, [] => by simp
  | 0, a :: l => by simp [h]
  | n + 1, a :: l => by simp [map_modify_of_comp h n l]

theorem forall_mem_modify {p : α → Prop} (f : α → α) :
    ∀ (n : Nat) (l : List α), (∀ a ∈ l, p a) → (∀ h : n < l.length, p (f l[n])) →
      ∀ a ∈ l.modify f n, p a
  | _, [], _, _ => by simp
  | 0, a :: l, hl, hf => by
    simp only [modify_zero_cons, mem_cons, forall_eq_or_imp]
    exact ⟨hf (by simp), fun b hb => hl b (mem_cons_of_mem a hb)⟩
  | n + 1, a :: l, hl, hf => by
    simp only [modify_succ_cons, mem_cons, forall_eq_or_imp]
    exact ⟨hl a (mem_cons_self a l), forall_mem_modify f n l (fun b hb => hl b (mem_cons_of_mem a hb))
      fun h => hf (by simpa using h)⟩

theorem modify_modify (f g : α → α) :
    ∀ (n : Nat) (l : List α), (l.modify f n).modify g n = l.modify (g ∘ f) n
  | _, [] => by simp
  | 0, a :: l => by simp
  | n + 1, a :: l => by simp [modify_modify f g n l]

-- The core lemma `List.all_map` is stated for maps from a type to itself.
theorem all_map_comp (p : β → Bool) : ∀ l : List α, (l.map g).all p = l.all (p ∘ g)
  | [] => rfl
  | a :: l => by simp only [map_cons, all_cons, all_map_comp p l, Function.comp]

-- How a sum over a list moves when one entry is modified.
theorem sum_map_modify (g : α → Nat) (f : α → α) :
    ∀ (n : Nat) (l : List α), ((l.modify f n).map g).sum + (l[n]?.map g).getD 0 =
      (l.map g).sum + (l[n]?.map (g ∘ f)).getD 0
  | _, [] => by simp
  | 0, a :: l => by simp; omega
  | n + 1, a :: l => by have := sum_map_modify g f n l; simp; omega

-- Dropping the last entry of a list leaves a sum unchanged when that entry counts zero.
theorem sum_map_take_of_last [Inhabited α] (g : α → Nat) {l : List α} {k : Nat}
    (hk : l.length = k + 1) (h0 : g (l.getD k default) = 0) : ((l.take k).map g).sum = (l.map g).sum := by
  rcases eq_nil_or_concat l with rfl | ⟨l', a, rfl⟩
  · simp at hk
  · rw [concat_eq_append] at hk h0 ⊢
    simp only [length_append, length_singleton, Nat.add_right_cancel_iff] at hk
    subst hk
    simp only [getD_eq_getElem?_getD, getElem?_concat_length, Option.getD_some] at h0
    simp [take_left, h0]

end List

namespace Sofaload

namespace Worker

variable {cfg : Config}

theorem client_mem {w : Worker} {i : Nat} (h : i < w.clients.length) : w.client i ∈ w.clients := by
  simp only [client, List.getD_eq_getElem?_getD, List.getElem?_eq_getElem h, Option.getD_some,
    List.getElem_mem]

theorem step_fst {e : Event} {w : Worker} {g : Globals} :
    (step cfg e w g).1 = (e.dispatch cfg ⟨w, g, e.answers⟩).w := rfl

-- Runs the events one after another, threading the globals as a worker alone in the process
-- does.
def exec (cfg : Config) : Worker × Globals → List Event → Worker × Globals
  | s, [] => s
  | (w, g), e :: es => exec cfg (step cfg e w g) es

-- Every event of the list is enabled when it is dispatched.
def Valid (cfg : Config) : Worker × Globals → List Event → Bool
  | _, [] => true
  | (w, g), e :: es => e.enabled w && Valid cfg (step cfg e w g) es

theorem Reachable.exec {w : Worker} (g : Globals) (es : List Event) (h : Reachable cfg w)
    (hv : Valid cfg (w, g) es) : Reachable cfg (Worker.exec cfg (w, g) es).1 := by
  induction es generalizing w g with
  | nil => exact h
  | cons e es ih =>
    simp only [Valid, Bool.and_eq_true] at hv
    exact ih _ (h.step e g hv.1) hv.2

-- The states a worker passes through when the callbacks of `es` run in turn, each seeing the
-- globals the other threads left it.
def trace (cfg : Config) (w : Worker) : List (Event × Globals) → List Worker
  | [] => [w]
  | (e, g) :: es => w :: trace cfg (step cfg e w g).1 es

-- Every callback of the run is enabled when it is dispatched.
def Enabled (cfg : Config) (w : Worker) : List (Event × Globals) → Bool
  | [] => true
  | (e, g) :: es => e.enabled w && Enabled cfg (step cfg e w g).1 es

theorem trace_head? (w : Worker) (es : List (Event × Globals)) :
    (trace cfg w es).head? = some w := by
  cases es <;> rfl

-- A relation every enabled callback establishes between a reachable state and its successor
-- holds between consecutive states of every run from a reachable state.
theorem Reachable.chain_trace {R : Worker → Worker → Prop}
    (hR : ∀ {w} e g, Reachable cfg w → e.enabled w → R w (Worker.step cfg e w g).1) {w : Worker}
    {es : List (Event × Globals)} (h : Reachable cfg w) (hv : Enabled cfg w es) :
    (trace cfg w es).Chain' R := by
  induction es generalizing w with
  | nil => exact List.chain'_singleton w
  | cons eg es ih =>
    obtain ⟨e, g⟩ := eg
    simp only [Enabled, Bool.and_eq_true] at hv
    refine List.chain'_cons'.mpr ⟨?_, ih (h.step e g hv.1) hv.2⟩
    rw [trace_head?]; rintro _ ⟨⟩; exact hR e g h hv.1

theorem Reachable.of_mem_trace {w w' : Worker} {es : List (Event × Globals)} (h : Reachable cfg w)
    (hv : Enabled cfg w es) (hm : w' ∈ trace cfg w es) : Reachable cfg w' := by
  induction es generalizing w with
  | nil => rw [List.mem_singleton.mp hm]; exact h
  | cons eg es ih =>
    obtain ⟨e, g⟩ := eg
    simp only [Enabled, Bool.and_eq_true] at hv
    rcases List.mem_cons.mp hm with rfl | hm
    · exact h
    · exact ih (h.step e g hv.1) hv.2 hm

end Worker

end Sofaload
