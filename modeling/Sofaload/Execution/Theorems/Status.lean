import Sofaload.Execution.Theorems.Basic
import Sofaload.Execution.Theorems.Streams

namespace Sofaload

namespace Ctx

variable {c : Ctx} {i sid s : Nat} {st : Stream}

-- The digit loop of `Client::on_header` never lets its accumulator pass 999, so
-- `status * 10 + d` stays far inside an `int`.
theorem parseStatus_le : ∀ (v : List UInt8) {acc s : Nat}, acc ≤ 999 →
    parseStatus v acc = some s → s ≤ 999
  | [], _, _, h, e => by cases e; exact h
  | b :: v, acc, s, _, e => by
    unfold parseStatus at e
    split at e
    · split at e
      · cases e
      · exact parseStatus_le v (by omega) e
    · cases e; assumption

theorem lookup_modStream (hi : i < c.w.clients.length) (hl : (c.client i).streams.lookup sid = some st)
    {f : Stream → Stream} : ((c.modStream i sid f).client i).streams.lookup sid = some (f st) := by
  show ((Worker.client { c.w with clients := c.w.clients.modify _ i } i).streams.lookup sid) = _
  rw [Worker.client_modify_self hi, show (c.w.client i).streams.lookup sid = some st from hl]
  exact lookup_replace hl

-- The buckets of the classification: a code from 200 to 599 is counted under its hundreds digit,
-- a code below 200 under 3xx, a larger one nowhere.
theorem classifyStatus_status :
    (c.classifyStatus i sid s).w.stats.status = if s < 600 then
      Function.update c.w.stats.status (if s < 200 then 3 else s / 100)
        (c.w.stats.status (if s < 200 then 3 else s / 100) + 1)
    else c.w.stats.status := by
  unfold classifyStatus
  by_cases h₂ : 200 ≤ s ∧ s < 300
  · rw [if_pos h₂, if_pos (by omega), if_neg (by omega), show s / 100 = 2 by omega]; rfl
  by_cases h₄ : s < 400
  · rw [if_neg h₂, if_pos h₄, if_pos (by omega)]
    split_ifs
    · rfl
    · rw [show s / 100 = 3 by omega]; rfl
  by_cases h₆ : s < 600
  · rw [if_neg h₂, if_neg h₄, if_pos h₆, if_pos h₆, if_neg (by omega)]; rfl
  · rw [if_neg h₂, if_neg h₄, if_neg h₆, if_neg h₆]; rfl

theorem classifyStatus_phase : (c.classifyStatus i sid s).w.phase = c.w.phase := by
  unfold classifyStatus; split_ifs <;> rfl

-- The stream is marked successful exactly for a code below 400.
theorem classifyStatus_lookup (hi : i < c.w.clients.length)
    (hl : (c.client i).streams.lookup sid = some st) :
    ((c.classifyStatus i sid s).client i).streams.lookup sid =
      some { st with reqStat.status := s, statusSuccess := if s < 400 then 1 else 0 } := by
  unfold classifyStatus
  split_ifs <;> first | omega | exact lookup_modStream (by simpa using hi) hl

section Callbacks

variable {value : List UInt8} {u : UInt16}

-- In the main phase the first `:status` of a stream is classified by its parsed code.
theorem onHeader_first (hm : c.w.phase = .mainDuration)
    (hl : (c.client i).streams.lookup sid = some st) (hs : st.statusSuccess = -1)
    (hv : parseStatus value 0 = some s) :
    c.onHeader i sid statusName value = c.classifyStatus i sid s := by
  unfold onHeader
  rw [hl]
  simp only [hm, ne_eq, not_true_eq_false, if_false, hs, and_self, if_true, hv]

theorem onStatusCode_main (hm : c.w.phase = .mainDuration)
    (hl : (c.client i).streams.lookup sid = some st) :
    c.onStatusCode i sid u = c.classifyStatus i sid u.toNat := by
  unfold onStatusCode
  rw [hl]
  simp only [hm, ne_eq, not_true_eq_false, if_false]

-- In the main phase a first `:status` whose digits parse to a code below 200 (an empty or
-- non-numeric value, a 1xx code) is counted in the 3xx bucket and marks the stream successful;
-- and `on_status_code`, which has no first-status test, counts a stream once per callback.
theorem status_below_200_counted (hm : c.w.phase = .mainDuration) (hi : i < c.w.clients.length)
    (hl : (c.client i).streams.lookup sid = some st) (hs : st.statusSuccess = -1)
    (hv : parseStatus value 0 = some s) (h200 : s < 200) (hu : 200 ≤ u.toNat ∧ u.toNat < 300) :
    (c.onHeader i sid statusName value).w.stats.status 3 = c.w.stats.status 3 + 1 ∧
      ((c.onHeader i sid statusName value).client i).streams.lookup sid =
        some { st with reqStat.status := s, statusSuccess := 1 } ∧
      ((c.onStatusCode i sid u).onStatusCode i sid u).w.stats.status 2 = c.w.stats.status 2 + 2 := by
  rw [onHeader_first hm hl hs hv]
  refine ⟨?_, ?_, ?_⟩
  · rw [classifyStatus_status, if_pos (by omega), if_pos h200, Function.update_same]
  · rw [classifyStatus_lookup hi hl, if_pos (by omega)]
  · have hc : (c.classifyStatus i sid u.toNat).w.phase = .mainDuration := classifyStatus_phase.trans hm
    have hb : (if u.toNat < 200 then 3 else u.toNat / 100) = 2 := by
      rw [if_neg (by omega)]; omega
    rw [onStatusCode_main hm hl, onStatusCode_main hc (classifyStatus_lookup hi hl),
      classifyStatus_status, if_pos (by omega), hb, Function.update_same, classifyStatus_status,
      if_pos (by omega), hb, Function.update_same]

end Callbacks

end Ctx

namespace Worker

-- One count-mode request in flight: an empty `:status` value counts its stream under 3xx, and
-- two `on_status_code(200)` callbacks count it twice under 2xx.
theorem status_below_200_counted_empty :
    let cfg : Config := ⟨1, 1, 1, 1, 0, 0, 0, 0, 0, false, .http2, false, false, [7]⟩
    let s := exec cfg (run cfg [[some 3]] ⟨1, 0, 0, none⟩ (create cfg 0 1 []), ⟨1, 0, 0, none⟩)
      [.writecb 0 {}]
    let c : Ctx := ⟨s.1, s.2, {}⟩
    Reachable cfg s.1 ∧
      (c.onHeader 0 1 Ctx.statusName []).w.stats.status 3 = c.w.stats.status 3 + 1 ∧
      ((c.onHeader 0 1 Ctx.statusName []).client 0).streams.lookup 1 =
        some { Stream.create 0 with reqStat.status := 0, statusSuccess := 1 } ∧
      ((c.onStatusCode 0 1 200).onStatusCode 0 1 200).w.stats.status 2 = c.w.stats.status 2 + 2 :=
  ⟨Reachable.exec _ _ (.init 0 1 [] [[some 3]] ⟨1, 0, 0, none⟩) (by decide),
    Ctx.status_below_200_counted (by decide) (by decide) (by decide) (by decide) (by decide)
      (by decide) (by decide)⟩

end Worker

end Sofaload
