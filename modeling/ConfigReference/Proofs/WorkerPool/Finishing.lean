import ConfigReference.Proofs.WorkerPool.Sharing

/-!
# Runs of a pool

Whatever turns the workers of a pool have had, going on worker by worker brings all jobs to their
end, unless one crashes. So the result of a job that is watched is there after a run.
-/

set_option autoImplicit false

namespace ConfigReference

namespace SharedPool

variable {σ β : Type} {pool : SharedPool σ β} {worker : Nat}

theorem after_append (turns later : List Nat) (pool : SharedPool σ β) :
    pool.after (turns ++ later) = (pool.after turns).after later :=
  List.foldl_append

/-! ## What turns keep -/

theorem Turn.length_held {turned : SharedPool σ β} (h : Turn pool worker turned) :
    turned.held.length = pool.held.length := by
  cases h <;> simp

theorem length_held_after (turns : List Nat) (pool : SharedPool σ β) :
    (pool.after turns).held.length = pool.held.length := by
  induction turns generalizing pool with
  | nil => rfl
  | cons worker turns ih => exact (ih _).trans (turn_cases pool worker).length_held

theorem goOn_eq_after (worker times : Nat) (pool : SharedPool σ β) :
    ∃ turns, pool.goOn worker times = pool.after (List.replicate turns worker) := by
  induction times generalizing pool with
  | zero => exact ⟨0, rfl⟩
  | succ times ih =>
    obtain ⟨turns, hTurns⟩ :=
      ih ((pool.after (List.replicate (pool.turnsHeld worker) worker)).turn worker)
    refine ⟨pool.turnsHeld worker + (1 + turns), ?_⟩
    rw [goOn, hTurns, ← List.replicate_append_replicate, after_append, Nat.add_comm 1 turns]
    rfl

def finishFirst (workers : Nat) (pool : SharedPool σ β) : SharedPool σ β :=
  (List.range workers).foldl (fun pool worker => pool.goOn worker (pool.queue.length + 1)) pool

theorem finishFirst_succ (workers : Nat) (pool : SharedPool σ β) :
    pool.finishFirst (workers + 1) =
      (pool.finishFirst workers).goOn workers ((pool.finishFirst workers).queue.length + 1) := by
  simp [finishFirst, List.range_succ]

theorem finishFirst_eq_after (workers : Nat) (pool : SharedPool σ β) :
    ∃ turns, pool.finishFirst workers = pool.after turns := by
  induction workers with
  | zero => exact ⟨[], rfl⟩
  | succ workers ih =>
    obtain ⟨turns, hTurns⟩ := ih
    obtain ⟨times, hTimes⟩ := goOn_eq_after workers
      ((pool.finishFirst workers).queue.length + 1) (pool.finishFirst workers)
    exact ⟨turns ++ List.replicate times workers, by
      rw [finishFirst_succ, hTimes, hTurns, after_append]⟩

theorem finish_eq_after (pool : SharedPool σ β) : ∃ turns, pool.finish = pool.after turns :=
  finishFirst_eq_after pool.held.length pool

variable {workers : Nat} {turns : List Nat} {jobs : List (Work σ β)} {shared : σ}

/-- A run makes changes of one kind if all of its jobs do, crash or no crash. -/
theorem run_makes {change : σ → σ → Prop} (hRefl : ∀ s, change s s)
    (hTrans : ∀ s t u, change s t → change t u → change s u)
    (hJobs : ∀ job ∈ jobs, job.Makes change) :
    change shared (run turns workers jobs shared).1 := by
  obtain ⟨rest, hRest⟩ := finish_eq_after ((start workers jobs shared).after turns)
  rw [← after_append] at hRest
  rw [run, hRest]
  refine makes_after hRefl hTrans (isOrdered_start workers jobs shared) ?_ _
  rintro ⟨index, job⟩ hJob
  exact hJobs job (List.mem_of_getElem? (getElem?_of_mem_jobs_start hJob))

end SharedPool

end ConfigReference
