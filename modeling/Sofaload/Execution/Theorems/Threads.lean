import Sofaload.Execution.Theorems.Ledger
import Sofaload.Execution.System

namespace Sofaload

namespace System

variable {cfg : Config} {s : System}

-- Each thread of the process runs its worker's loop: the threads meet only in the globals,
-- which `Worker.Reachable` lets change arbitrarily between two callbacks, so every worker of a
-- reachable process state is a reachable worker.
theorem Reachable.worker (h : Reachable cfg s) : ∀ w ∈ s.workers, Worker.Reachable cfg w := by
  induction h with
  | init rands socks =>
    intro w hw
    obtain ⟨i, -, rfl⟩ := List.mem_mapIdx.mp hw
    exact .init _ _ _ _ _
  | step a _ ha ih =>
    intro w hw
    cases a with
    | event k e =>
      simp only [System.step] at hw
      split at hw
      · next v hk =>
        rcases List.mem_or_eq_of_mem_set hw with hw | rfl
        · exact ih w hw
        · simp only [Action.enabled, hk] at ha
          exact (ih v (List.getElem?_mem hk)).step e _ ha
      · exact ih w hw
    | load k => exact ih w hw
    | tick => exact ih w hw

end System

end Sofaload
