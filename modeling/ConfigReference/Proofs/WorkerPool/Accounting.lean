import ConfigReference.CommandLine.Run

/-!
# Accounting for the jobs of a pool

At any time a job is waiting, in the hands of one worker, or done, and the results are those of the
jobs that are done. Whatever the order of the turns, a pool in which no job is waiting or held has
done each job once and has the results in the order of the items. A turn that changes anything
brings the pool nearer to that, and as long as jobs are left some worker has such a turn.
-/

set_option autoImplicit false

namespace ConfigReference

namespace WorkerPool

variable {α β : Type}

/-! ## What is shared -/

def inHands (held : List (Option α)) : List α := held.filterMap id

theorem perm_inHands_set {held : List (Option α)} {worker : Nat} {before : Option α}
    (h : held[worker]? = some before) (after : Option α) :
    (before.toList ++ inHands (held.set worker after)).Perm (after.toList ++ inHands held) := by
  induction held generalizing worker with
  | nil => simp at h
  | cons first rest ih =>
    cases worker with
    | zero =>
      obtain rfl : first = before := by simpa using h
      cases first <;> cases after <;> simp [inHands, List.Perm.swap]
    | succ worker =>
      have hTail : rest[worker]? = some before := by simpa using h
      have hRest := ih hTail
      cases first with
      | none => simpa [inHands] using hRest
      | some a => simpa [inHands] using
          List.perm_middle.trans ((hRest.cons a).trans List.perm_middle.symm)

theorem perm_insertResult {index : Nat} {result : β} {results : List (Nat × β)}
    (hNew : ∀ r ∈ results, r.1 ≠ index) :
    (insertResult index result results).Perm ((index, result) :: results) := by
  induction results with
  | nil => exact List.Perm.refl _
  | cons r rest ih =>
    obtain ⟨hHere, hRest⟩ := List.forall_mem_cons.mp hNew
    rw [insertResult]
    split
    · exact List.Perm.refl _
    · rw [if_neg hHere.symm]
      exact ((ih hRest).cons r).trans (List.Perm.swap _ _ _)

theorem ascending_insertResult {index : Nat} {result : β} {results : List (Nat × β)}
    (hNew : ∀ r ∈ results, r.1 ≠ index) (h : results.Pairwise fun a b => a.1 < b.1) :
    (insertResult index result results).Pairwise fun a b => a.1 < b.1 := by
  induction results with
  | nil => exact List.pairwise_singleton _ _
  | cons r rest ih =>
    obtain ⟨hHere, hRest⟩ := List.forall_mem_cons.mp hNew
    obtain ⟨hFirst, hLater⟩ := List.pairwise_cons.mp h
    rw [insertResult]
    split
    · rename_i hLt
      refine List.pairwise_cons.mpr ⟨?_, h⟩
      intro q hq
      rcases List.mem_cons.mp hq with rfl | hq
      · exact hLt
      · exact Nat.lt_trans hLt (hFirst q hq)
    · rename_i hNotLt
      rw [if_neg hHere.symm]
      refine List.pairwise_cons.mpr ⟨?_, ih hRest hLater⟩
      intro q hq
      rcases List.mem_cons.mp ((perm_insertResult hRest).mem_iff.mp hq) with rfl | hq
      · exact Nat.lt_of_le_of_ne (Nat.le_of_not_lt hNotLt) hHere
      · exact hFirst q hq

/-! ## Turns -/

def finishing? (pool : WorkerPool α β) (worker : Nat) : Option (Nat × α) :=
  pool.held[worker]?.join

/-- The jobs that the workers of a list get done at their turns, in order. -/
def doneIn (job : α → β) : List Nat → WorkerPool α β → List (Nat × α)
  | [], _ => []
  | worker :: turns, pool =>
    (pool.finishing? worker).toList ++ doneIn job turns (turn job pool worker)

/-- What the turn of a worker can do: get a job done, take one, or nothing. -/
inductive Turn (job : α → β) (pool : WorkerPool α β) (worker : Nat) : WorkerPool α β → Prop where
  | finish (index : Nat) (item : α) (h : pool.held[worker]? = some (some (index, item))) :
    Turn job pool worker { pool with
      held := pool.held.set worker none
      results := insertResult index (job item) pool.results }
  | take (next : Nat × α) (queue : List (Nat × α)) (h : pool.held[worker]? = some none)
    (hQueue : pool.queue = next :: queue) :
    Turn job pool worker { pool with queue, held := pool.held.set worker (some next) }
  | rest (h : pool.held[worker]? = none ∨ pool.held[worker]? = some none ∧ pool.queue = []) :
    Turn job pool worker pool

theorem turn_cases (job : α → β) (pool : WorkerPool α β) (worker : Nat) :
    Turn job pool worker (turn job pool worker) := by
  rw [turn]
  split
  · rename_i index item hHeld
    exact .finish index item hHeld
  · rename_i next queue hHeld hQueue
    exact .take next queue hHeld hQueue
  · rename_i hNoFinish hNoTake
    apply Turn.rest
    cases hHeld : pool.held[worker]? with
    | none => exact Or.inl rfl
    | some job? =>
      cases job? with
      | some j => exact absurd (by rw [hHeld]) (hNoFinish j.1 j.2)
      | none =>
        cases hQueue : pool.queue with
        | nil => exact Or.inr ⟨rfl, rfl⟩
        | cons next queue => exact absurd hQueue (hNoTake next queue hHeld)

/-! ## The account of a run -/

/-- Each job is done, held or waiting, once. The results are those of the jobs that are done, by
index. -/
structure Accounts (job : α → β) (items : List α) (done : List (Nat × α))
    (pool : WorkerPool α β) : Prop where
  jobs : (done ++ (inHands pool.held ++ pool.queue)).Perm (numbered items)
  results : pool.results.Perm (done.map fun j => (j.1, job j.2))
  ascending : pool.results.Pairwise fun a b => a.1 < b.1

theorem map_index_numbered (items : List α) :
    (numbered items).map (·.1) = List.range items.length := by
  rw [numbered, List.map_map, List.range_eq_range', ← List.zipIdx_map_snd]
  rfl

theorem map_item_numbered (items : List α) : (numbered items).map (·.2) = items := by
  rw [numbered, List.map_map]
  exact List.zipIdx_map_fst 0 items

theorem ascending_numbered (items : List α) :
    (numbered items).Pairwise fun a b => a.1 < b.1 := by
  have hRange := List.pairwise_lt_range (n := items.length)
  rwa [← map_index_numbered, List.pairwise_map] at hRange

variable {job : α → β} {items : List α} {done : List (Nat × α)} {pool : WorkerPool α β}

theorem accounts_start (job : α → β) (workers : Nat) (items : List α) :
    Accounts job items [] (start workers items) where
  jobs := by simp [start, inHands]
  results := List.Perm.refl _
  ascending := List.Pairwise.nil

theorem Accounts.ne_index (h : Accounts job items done pool) {worker index : Nat} {item : α}
    (hHeld : pool.held[worker]? = some (some (index, item))) : ∀ r ∈ pool.results, r.1 ≠ index := by
  have hHands : (index, item) ∈ inHands pool.held :=
    List.mem_filterMap.mpr ⟨_, List.mem_of_getElem? hHeld, rfl⟩
  -- The indices of the whole account are distinct, so one that is held is not done.
  have hNodup : ((done ++ (inHands pool.held ++ pool.queue)).map (·.1)).Nodup := by
    rw [(h.jobs.map _).nodup_iff, map_index_numbered]
    exact List.nodup_range
  rw [List.map_append, List.nodup_append] at hNodup
  intro r hr hIndex
  obtain ⟨j, hj, rfl⟩ := List.mem_map.mp (h.results.mem_iff.mp hr)
  refine hNodup.2.2 j.1 (List.mem_map_of_mem hj) index ?_ hIndex
  exact List.mem_map.mpr ⟨_, List.mem_append_left _ hHands, rfl⟩

theorem Accounts.turn (h : Accounts job items done pool) (worker : Nat) :
    Accounts job items (done ++ (pool.finishing? worker).toList)
      (WorkerPool.turn job pool worker) := by
  have hTurn := turn_cases job pool worker
  generalize WorkerPool.turn job pool worker = turned at hTurn ⊢
  cases hTurn with
  | finish index item hHeld =>
    have hDone : pool.finishing? worker = some (index, item) := by rw [finishing?, hHeld]; rfl
    have hNew := h.ne_index hHeld
    have hHands := perm_inHands_set hHeld none
    rw [hDone]
    refine ⟨?_, ?_, ascending_insertResult hNew h.ascending⟩
    · refine List.Perm.trans ?_ h.jobs
      rw [List.append_assoc]
      refine List.Perm.append_left done ?_
      rw [← List.append_assoc]
      exact hHands.append_right pool.queue
    · rw [List.map_append]
      refine (perm_insertResult hNew).trans ?_
      exact (h.results.cons _).trans (List.perm_append_singleton _ _).symm
  | take next queue hHeld hQueue =>
    have hDone : pool.finishing? worker = none := by rw [finishing?, hHeld]; rfl
    have hHands := perm_inHands_set hHeld (some next)
    rw [hDone]
    refine ⟨?_, by simpa using h.results, h.ascending⟩
    refine List.Perm.trans ?_ h.jobs
    rw [Option.toList_none, List.append_nil, hQueue]
    refine List.Perm.append_left done ?_
    exact (hHands.append_right queue).trans List.perm_middle.symm
  | rest hRest =>
    have hDone : pool.finishing? worker = none := by
      rcases hRest with hNone | ⟨hIdle, -⟩
      · rw [finishing?, hNone]; rfl
      · rw [finishing?, hIdle]; rfl
    simpa [hDone] using h

theorem Accounts.after (h : Accounts job items done pool) (turns : List Nat) :
    Accounts job items (done ++ doneIn job turns pool) (WorkerPool.after job turns pool) := by
  induction turns generalizing done pool with
  | nil => simpa [doneIn, WorkerPool.after] using h
  | cons worker turns ih =>
    have hRest := ih (h.turn worker)
    rwa [List.append_assoc] at hRest

theorem Accounts.of_isFinished (h : Accounts job items done pool)
    (hFinished : pool.isFinished = true) :
    done.Perm (numbered items) ∧ pool.results.map (·.2) = items.map job := by
  obtain ⟨hQueue, hHeld⟩ := Bool.and_eq_true_iff.mp hFinished
  have hHands : inHands pool.held = [] := by
    rw [inHands, List.filterMap_eq_nil_iff]
    simpa using hHeld
  have hDone : done.Perm (numbered items) := by
    simpa [hHands, List.isEmpty_iff.mp hQueue] using h.jobs
  refine ⟨hDone, ?_⟩
  -- Both lists ascend by index, so with the same members they are the same.
  have hAll : pool.results = (numbered items).map fun j => (j.1, job j.2) := by
    refine List.Perm.eq_of_pairwise ?_ h.ascending ?_ (h.results.trans (hDone.map _))
    · intro a b _ _ hab hba
      omega
    · exact List.pairwise_map.mpr (ascending_numbered items)
  rw [hAll, List.map_map]
  calc (numbered items).map ((·.2) ∘ fun j => (j.1, job j.2))
      = ((numbered items).map (·.2)).map job := by rw [List.map_map]; rfl
    _ = items.map job := by rw [map_item_numbered]

/-! ## Progress -/

/-- The turns that the jobs which are left still take: two for one that is waiting, and one for one
that is held. -/
def turnsLeft (pool : WorkerPool α β) : Nat := 2 * pool.queue.length + (inHands pool.held).length

theorem turnsLeft_eq_zero_iff (pool : WorkerPool α β) :
    turnsLeft pool = 0 ↔ pool.isFinished = true := by
  rw [turnsLeft, isFinished, inHands, Bool.and_eq_true_iff, List.isEmpty_iff, Nat.add_eq_zero_iff,
    List.length_eq_zero_iff, List.filterMap_eq_nil_iff, Nat.mul_eq_zero, List.length_eq_zero_iff]
  simp

theorem turnsLeft_turn (job : α → β) (pool : WorkerPool α β) (worker : Nat) :
    turn job pool worker = pool ∧
      (pool.held[worker]? = none ∨ pool.held[worker]? = some none ∧ pool.queue = []) ∨
    turnsLeft (turn job pool worker) < turnsLeft pool := by
  have hTurn := turn_cases job pool worker
  generalize turn job pool worker = turned at hTurn ⊢
  cases hTurn with
  | finish index item hHeld =>
    have hHands := (perm_inHands_set hHeld none).length_eq
    simp only [Option.toList_some, Option.toList_none, List.length_append, List.length_singleton,
      List.length_nil] at hHands
    refine Or.inr ?_
    simp only [turnsLeft]
    omega
  | take next queue hHeld hQueue =>
    have hHands := (perm_inHands_set hHeld (some next)).length_eq
    simp only [Option.toList_some, Option.toList_none, List.length_append, List.length_singleton,
      List.length_nil] at hHands
    refine Or.inr ?_
    simp only [turnsLeft, hQueue, List.length_cons]
    omega
  | rest hRest => exact Or.inl ⟨rfl, hRest⟩

theorem length_held_turn (job : α → β) (pool : WorkerPool α β) (worker : Nat) :
    (turn job pool worker).held.length = pool.held.length := by
  have hTurn := turn_cases job pool worker
  generalize turn job pool worker = turned at hTurn ⊢
  cases hTurn <;> simp

theorem length_held_after (job : α → β) (turns : List Nat) (pool : WorkerPool α β) :
    (after job turns pool).held.length = pool.held.length := by
  induction turns generalizing pool with
  | nil => rfl
  | cons worker turns ih => exact (ih _).trans (length_held_turn job pool worker)

theorem turnsLeft_after (job : α → β) (turns : List Nat) (pool : WorkerPool α β) :
    after job turns pool = pool ∧ (∀ worker ∈ turns,
      pool.held[worker]? = none ∨ pool.held[worker]? = some none ∧ pool.queue = []) ∨
    turnsLeft (after job turns pool) < turnsLeft pool := by
  induction turns generalizing pool with
  | nil => exact Or.inl ⟨rfl, by simp⟩
  | cons worker turns ih =>
    change after job turns (turn job pool worker) = pool ∧ _ ∨
      turnsLeft (after job turns (turn job pool worker)) < turnsLeft pool
    rcases turnsLeft_turn job pool worker with ⟨hSame, hRest⟩ | hLess
    · rw [hSame]
      rcases ih pool with ⟨hAfter, hResting⟩ | hLess
      · exact Or.inl ⟨hAfter, List.forall_mem_cons.mpr ⟨hRest, hResting⟩⟩
      · exact Or.inr hLess
    · refine Or.inr ?_
      rcases ih (turn job pool worker) with ⟨hAfter, -⟩ | hMore
      · rwa [hAfter]
      · exact Nat.lt_trans hMore hLess

/-- A round in which every worker has a turn brings a pool with workers nearer to its end. -/
theorem turnsLeft_round (job : α → β) {pool : WorkerPool α β} {round : List Nat}
    (hWorkers : 0 < pool.held.length) (hRound : ∀ worker < pool.held.length, worker ∈ round) :
    turnsLeft (after job round pool) ≤ turnsLeft pool - 1 := by
  rcases turnsLeft_after job round pool with ⟨hAfter, hResting⟩ | hLess
  -- Without a change no worker could do anything, so no job is waiting or held.
  · have hIdle : ∀ worker < pool.held.length, pool.held[worker]? = some none ∧ pool.queue = [] := by
      intro worker hWorker
      rcases hResting worker (hRound worker hWorker) with hNone | hIdle
      · exact absurd hNone (by simpa using hWorker)
      · exact hIdle
    have hFinished : pool.isFinished = true := by
      rw [isFinished, (hIdle 0 hWorkers).2]
      simp only [List.isEmpty_nil, Bool.true_and, List.all_eq_true]
      intro job? hMem
      obtain ⟨worker, hWorker, rfl⟩ := List.getElem_of_mem hMem
      have hNone := (hIdle worker hWorker).1
      rw [List.getElem?_eq_getElem hWorker, Option.some.injEq] at hNone
      exact Option.isNone_iff_eq_none.mpr hNone
    have hNothing := (turnsLeft_eq_zero_iff pool).mpr hFinished
    rw [hAfter]
    omega
  · omega

theorem turnsLeft_rounds (job : α → β) {pool : WorkerPool α β} {rounds : List (List Nat)}
    (hWorkers : 0 < pool.held.length)
    (hRounds : ∀ round ∈ rounds, ∀ worker < pool.held.length, worker ∈ round) :
    turnsLeft (after job rounds.flatten pool) ≤ turnsLeft pool - rounds.length := by
  induction rounds generalizing pool with
  | nil => exact Nat.le_refl _
  | cons round rounds ih =>
    obtain ⟨hRound, hLater⟩ := List.forall_mem_cons.mp hRounds
    have hHere := turnsLeft_round job hWorkers hRound
    have hLength := length_held_after job round pool
    have hRest : turnsLeft (after job rounds.flatten (after job round pool)) ≤
        turnsLeft (after job round pool) - rounds.length :=
      ih (by rwa [hLength]) (by rwa [hLength])
    rw [List.flatten_cons, after, List.foldl_append]
    refine Nat.le_trans hRest ?_
    rw [List.length_cons]
    omega

theorem isFinished_rounds (job : α → β) {workers : Nat} {items : List α} {rounds : List (List Nat)}
    (hRounds : ∀ round ∈ rounds, ∀ worker < size workers items, worker ∈ round)
    (hLength : 2 * items.length ≤ rounds.length) :
    (after job rounds.flatten (start workers items)).isFinished = true := by
  have hHeld : (start workers items : WorkerPool α β).held.length = size workers items :=
    List.length_replicate
  have hSize : 0 < size workers items := Nat.lt_of_lt_of_le Nat.one_pos (Nat.le_max_left _ _)
  have hStart : turnsLeft (start workers items : WorkerPool α β) = 2 * items.length := by
    simp [turnsLeft, start, inHands, numbered]
  have hLeft := turnsLeft_rounds job (by rwa [hHeld]) (by rwa [hHeld])
  rw [← turnsLeft_eq_zero_iff]
  omega

theorem run_eq_map (job : α → β) (workers : Nat) (items : List α) :
    run job workers items = items.map job := by
  have hFinished : (after job (rounds (size workers items) items.length)
      (start workers items)).isFinished = true := by
    refine isFinished_rounds job ?_ (Nat.le_of_eq List.length_replicate.symm)
    intro round hRound worker hWorker
    rw [List.eq_of_mem_replicate hRound]
    exact List.mem_range.mpr hWorker
  exact (((accounts_start job workers items).after _).of_isFinished hFinished).2

end WorkerPool

namespace CommandLine

theorem gatherAll_eq (w : Workspace) (policy : Audit.Policy) (ignoreFile : String) (workers : Nat)
    (roots : List String) :
    gatherAll w policy ignoreFile workers roots = roots.map fun root =>
      let gathered := Documentation.gather w policy ignoreFile root
      ⟨root, gathered.1, gathered.2⟩ := by
  rw [gatherAll, WorkerPool.run_eq_map, List.zip_map_right, List.map_map]
  induction roots with
  | nil => rfl
  | cons root roots ih => simpa using ih

end CommandLine

namespace WorkerPool

variable {α β : Type}

/-- The workers do not show. After any turns each job is done, in the hands of one worker or
waiting, and it is so only once. However the turns of a pool were ordered, once no job is held or
waiting each was done once and the results are those of the items in their order; and rounds in
which all workers have turns lead there. So the roots of a program, too, come with what is gathered
at each. -/
theorem results_in_input_order (job : α → β) (workers : Nat) (items : List α) :
    (∀ turns : List Nat,
      let pool := after job turns (start workers items)
      let done := doneIn job turns (start workers items)
      (done ++ (inHands pool.held ++ pool.queue)).Perm (numbered items) ∧
      (pool.isFinished = true →
        done.Perm (numbered items) ∧ pool.results.map (·.2) = items.map job)) ∧
    (∀ rounds : List (List Nat),
      (∀ round ∈ rounds, ∀ worker < size workers items, worker ∈ round) →
      2 * items.length ≤ rounds.length →
      (after job rounds.flatten (start workers items)).isFinished = true) ∧
    run job workers items = items.map job ∧
    ∀ (w : Workspace) (policy : Audit.Policy) (ignoreFile : String) (roots : List String),
      CommandLine.gatherAll w policy ignoreFile workers roots = roots.map fun root =>
        let gathered := Documentation.gather w policy ignoreFile root
        ⟨root, gathered.1, gathered.2⟩ := by
  refine ⟨?_, ?_, run_eq_map job workers items, ?_⟩
  · intro turns pool done
    have hAccounts : Accounts job items done pool := (accounts_start job workers items).after turns
    exact ⟨hAccounts.jobs, hAccounts.of_isFinished⟩
  · intro rounds hRounds hLength
    exact isFinished_rounds job hRounds hLength
  · intro w policy ignoreFile roots
    exact CommandLine.gatherAll_eq w policy ignoreFile workers roots

/-- Three workers for three items, which are done in the order third, first, second. -/
theorem results_in_input_order_of_late_first :
    let turns := [0, 1, 2, 2, 0, 1]
    let pool := after String.length turns (start 3 ["a", "bcd", "ef"])
    let done := doneIn String.length turns (start 3 ["a", "bcd", "ef"])
    done = [(2, "ef"), (0, "a"), (1, "bcd")] ∧ pool.isFinished = true ∧
      done.Perm (numbered ["a", "bcd", "ef"]) ∧ pool.results.map (·.2) = [1, 3, 2] ∧
      (after String.length (List.replicate 6 [2, 0, 1]).flatten
        (start 3 ["a", "bcd", "ef"])).isFinished = true := by
  intro turns pool done
  have hFinished : pool.isFinished = true := by decide
  obtain ⟨hTurns, hRounds, -, -⟩ := results_in_input_order String.length 3 ["a", "bcd", "ef"]
  obtain ⟨hDone, hResults⟩ := (hTurns turns).2 hFinished
  refine ⟨by decide, hFinished, hDone, hResults.trans (by decide), ?_⟩
  exact hRounds (List.replicate 6 [2, 0, 1]) (by decide) (by decide)

end WorkerPool

end ConfigReference
