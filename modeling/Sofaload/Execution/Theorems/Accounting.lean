import Sofaload.Execution.Theorems.Counting

namespace Sofaload.Worker

variable {cfg : Config} {w : Worker}

-- In count mode every request counted as started is completed, errored or still in flight.
theorem req_started_accounted (h : Reachable cfg w) (hm : cfg.isTimingBasedMode = false) :
    w.stats.reqStarted =
      w.stats.reqSuccess + w.stats.reqError + (w.clients.map Client.reqInflight).sum :=
  (h.countInv hm).started

-- Two requests pipelined on one connection, both in flight.
theorem req_started_accounted_two_streams :
    let w := (exec ⟨2, 1, 1, 2, 0, 0, 0, 0, 0, false, .http2, false, false, [7]⟩
      (run ⟨2, 1, 1, 2, 0, 0, 0, 0, 0, false, .http2, false, false, [7]⟩ [[some 3]] ⟨2, 0, 0, none⟩
        (create ⟨2, 1, 1, 2, 0, 0, 0, 0, 0, false, .http2, false, false, [7]⟩ 0 1 []),
        ⟨2, 0, 0, none⟩) [.writecb 0 {}]).1
    w.stats.reqStarted = 2 ∧
      w.stats.reqStarted = w.stats.reqSuccess + w.stats.reqError + (w.clients.map Client.reqInflight).sum :=
  ⟨by decide,
    req_started_accounted (Reachable.exec _ _ (.init 0 1 [] [[some 3]] ⟨2, 0, 0, none⟩) (by decide)) rfl⟩

-- In timing-based mode a request submitted during the warm-up and closed after it is counted as
-- completed without having been counted as started.
theorem req_started_unaccounted_after_warmup :
    ∃ w, Reachable ⟨0, 1, 1, 1, 10, 0, 0, 0, 0, false, .http2, false, false, [7]⟩ w ∧
      w.stats.reqStarted ≠
        w.stats.reqSuccess + w.stats.reqError + (w.clients.map Client.reqInflight).sum :=
  ⟨_, Reachable.exec ⟨sizeMax, 0, 0, none⟩
      [.writecb 0 {}, .onStatusCode 0 1 200, .warmupTimeout, .onStreamClose 0 1 true true {}]
      (.init 0 1 [] [[some 3]] ⟨sizeMax, 0, 0, none⟩) (by decide), by decide⟩

-- In count mode every request counted status-successful was counted in a successful bucket.
theorem req_status_success_classified (h : Reachable cfg w) (hm : cfg.isTimingBasedMode = false) :
    w.stats.reqStatusSuccess ≤
      w.stats.status 2 + w.stats.status 3 + w.stats.sofarpcStatus Ctx.responseStatusSuccess :=
  le_trans (Nat.le_add_right _ _) (h.countInv hm).statusSuccess

-- A 200 response closed on one connection.
theorem req_status_success_classified_closed :
    let w := (exec ⟨1, 1, 1, 1, 0, 0, 0, 0, 0, false, .http2, false, false, [7]⟩
      (run ⟨1, 1, 1, 1, 0, 0, 0, 0, 0, false, .http2, false, false, [7]⟩ [[some 3]] ⟨1, 0, 0, none⟩
        (create ⟨1, 1, 1, 1, 0, 0, 0, 0, 0, false, .http2, false, false, [7]⟩ 0 1 []),
        ⟨1, 0, 0, none⟩) [.writecb 0 {}, .onStatusCode 0 1 200, .onStreamClose 0 1 true false {}]).1
    w.stats.reqStatusSuccess = 1 ∧ w.stats.reqStatusSuccess ≤
      w.stats.status 2 + w.stats.status 3 + w.stats.sofarpcStatus Ctx.responseStatusSuccess :=
  ⟨by decide, req_status_success_classified
    (Reachable.exec _ _ (.init 0 1 [] [[some 3]] ⟨1, 0, 0, none⟩) (by decide)) rfl⟩

-- In timing-based mode a status received during the warm-up marks the stream successful without
-- a bucket; its close after the warm-up counts it status-successful.
theorem req_status_success_unclassified_after_warmup :
    ∃ w, Reachable ⟨0, 1, 1, 1, 10, 0, 0, 0, 0, false, .http2, false, false, [7]⟩ w ∧
      w.stats.status 2 + w.stats.status 3 + w.stats.sofarpcStatus Ctx.responseStatusSuccess <
        w.stats.reqStatusSuccess :=
  ⟨_, Reachable.exec ⟨sizeMax, 0, 0, none⟩
      [.writecb 0 {}, .onStatusCode 0 1 200, .warmupTimeout, .onStreamClose 0 1 true true {}]
      (.init 0 1 [] [[some 3]] ⟨sizeMax, 0, 0, none⟩) (by decide), by decide⟩

-- With a cap of two streams and a budget of two requests, the first close finds the budget
-- exhausted and terminates the session while the second request is still open.
theorem session_terminated_with_stream_open :
    let cfg : Config := ⟨2, 1, 1, 2, 0, 0, 0, 0, 0, false, .http2, false, false, [7]⟩
    let s := exec cfg (run cfg [[some 3]] ⟨2, 0, 0, none⟩ (create cfg 0 1 []), ⟨2, 0, 0, none⟩)
      [.writecb 0 {}]
    let w' := (step cfg (.onStreamClose 0 1 true false {}) s.1 s.2).1
    Reachable cfg s.1 ∧ (Event.onStreamClose 0 1 true false {}).enabled s.1 ∧
      (s.1.client 0).session.map Session.terminated = some false ∧
      (w'.client 0).session.map Session.terminated = some true ∧ (w'.client 0).nstreams = 1 :=
  ⟨Reachable.exec _ _ (.init 0 1 [] [[some 3]] ⟨2, 0, 0, none⟩) (by decide), by decide, by decide,
    by decide, by decide⟩

-- In count mode no client's statistics are ever absorbed: only `duration_timeout_cb` calls
-- `stop_all_clients`, and no client is destroyed.
theorem client_stats_never_absorbed (h : Reachable cfg w) (hm : cfg.isTimingBasedMode = false) :
    w.stats.clientStats = [] :=
  (h.countInv hm).clientStats

-- A run whose one client completed its request and then failed on a read: the loop has returned.
theorem client_stats_never_absorbed_stopped :
    let w := (exec ⟨1, 1, 1, 1, 0, 0, 0, 0, 0, false, .http2, false, false, [7]⟩
      (run ⟨1, 1, 1, 1, 0, 0, 0, 0, 0, false, .http2, false, false, [7]⟩ [[some 3]] ⟨1, 0, 0, none⟩
        (create ⟨1, 1, 1, 1, 0, 0, 0, 0, 0, false, .http2, false, false, [7]⟩ 0 1 []),
        ⟨1, 0, 0, none⟩)
      [.writecb 0 {}, .onStreamClose 0 1 true false {}, .readcb 0 { read := .fail 0 }]).1
    w.stopped ∧ w.clients.length = 1 ∧ w.stats.clientStats = [] :=
  ⟨by decide, by decide, client_stats_never_absorbed
    (Reachable.exec _ _ (.init 0 1 [] [[some 3]] ⟨1, 0, 0, none⟩) (by decide)) rfl⟩

end Sofaload.Worker
