import ConfigReference.Proofs.WorkerPool.Accounting
import ConfigReference.WorkerPool.Shared

/-!
# One job among others

What holds of one job of a pool whose workers have turns in any order. At a turn a job goes on, or
jobs change hands. So a job that comes to a good result whatever changes of one kind there are
between its turns does so among jobs that make changes of this kind only.
-/

set_option autoImplicit false

namespace ConfigReference

namespace Work

variable {σ β : Type}

/-- Whatever it finds, a job makes changes of one kind only. -/
def Makes (change : σ → σ → Prop) : Work σ β → Prop
  | done _ => True
  | crash _ => True
  | turn act next => ∀ s, change s (act s) ∧ (next s).Makes change

/-- From `s` on, with changes of one kind between its turns, a job comes to a result that is good
and stays so. The turns are at states that occur. -/
def Yields (occurs : σ → Prop) (change : σ → σ → Prop) (good : β → σ → Prop) :
    Work σ β → σ → Prop
  | done result, s => ∀ t, change s t → good result t
  | crash _, _ => True
  | turn act next, s =>
    ∀ t, change s t → occurs t → (next t).Yields occurs change good (act t)

variable {occurs : σ → Prop} {change : σ → σ → Prop} {good : β → σ → Prop} {work : Work σ β}

theorem Yields.later (hTrans : ∀ s t u, change s t → change t u → change s u) {s t : σ}
    (h : work.Yields occurs change good s) (hChange : change s t) :
    work.Yields occurs change good t := by
  cases work with
  | done result => exact fun u hu => h u (hTrans s t u hChange hu)
  | crash c => trivial
  | turn act next => exact fun u hu => h u (hTrans s t u hChange hu)

end Work

namespace SharedPool

variable {σ β : Type}

/-! ## Turns -/

/-- What the turn of a worker can do: go on with its job, lay it aside, break down over it, take the
next one, or nothing. -/
inductive Turn (pool : SharedPool σ β) (worker : Nat) : SharedPool σ β → Prop where
  | goOn (index : Nat) (act : σ → σ) (next : σ → Work σ β)
    (h : pool.held[worker]? = some (some (index, .turn act next))) :
    Turn pool worker { pool with
      held := pool.held.set worker (some (index, next pool.shared))
      shared := act pool.shared }
  | layAside (index : Nat) (result : β)
    (h : pool.held[worker]? = some (some (index, .done result))) :
    Turn pool worker { pool with
      held := pool.held.set worker none
      results := WorkerPool.insertResult index result pool.results }
  | breakDown (index : Nat) (c : Crash) (h : pool.held[worker]? = some (some (index, .crash c))) :
    Turn pool worker { pool with crash? := some c }
  | take (next : Nat × Work σ β) (queue : List (Nat × Work σ β))
    (h : pool.held[worker]? = some none) (hQueue : pool.queue = next :: queue) :
    Turn pool worker { pool with queue, held := pool.held.set worker (some next) }
  | rest (h : pool.crash? = some .aborted ∨ pool.held[worker]? = none ∨
      pool.held[worker]? = some none ∧ pool.queue = []) :
    Turn pool worker pool

theorem turn_cases (pool : SharedPool σ β) (worker : Nat) : Turn pool worker (turn pool worker) := by
  rw [turn]
  split
  · rename_i hAborted
    exact .rest (.inl hAborted)
  · split
    · rename_i index act next hHeld
      exact .goOn index act next hHeld
    · rename_i index result hHeld
      exact .layAside index result hHeld
    · rename_i index c hHeld
      exact .breakDown index c hHeld
    · rename_i next queue hHeld hQueue
      exact .take next queue hHeld hQueue
    · rename_i hNoTurn hNoResult hNoCrash hNoTake
      refine .rest (.inr ?_)
      cases hHeld : pool.held[worker]? with
      | none => exact Or.inl rfl
      | some job? =>
        cases job? with
        | some job =>
          obtain ⟨index, work⟩ := job
          cases work with
          | done result => exact absurd hHeld (hNoResult index result)
          | crash c => exact absurd hHeld (hNoCrash index c)
          | turn act next => exact absurd hHeld (hNoTurn index act next)
        | none =>
          cases hQueue : pool.queue with
          | nil => exact Or.inr ⟨rfl, rfl⟩
          | cons next queue => exact absurd hQueue (hNoTake next queue hHeld)

/-- All jobs, as far as they are done. -/
def jobs (pool : SharedPool σ β) : List (Nat × Work σ β) :=
  pool.results.map (fun r => (r.1, .done r.2)) ++ (WorkerPool.inHands pool.held ++ pool.queue)

/-- What becomes of all jobs at a turn: one goes on, or they only change hands. -/
inductive Step (pool turned : SharedPool σ β) : Prop where
  | goOn (index : Nat) (act : σ → σ) (next : σ → Work σ β) (others : List (Nat × Work σ β))
    (h : pool.jobs.Perm ((index, .turn act next) :: others))
    (hTurned : turned.jobs.Perm ((index, next pool.shared) :: others))
    (hShared : turned.shared = act pool.shared)
  | changeHands (h : turned.jobs.Perm pool.jobs) (hShared : turned.shared = pool.shared)

/-- Each job is there once, and the results are in order. -/
structure IsOrdered (count : Nat) (pool : SharedPool σ β) : Prop where
  indices : (pool.jobs.map (·.1)).Perm (List.range count)
  ascending : pool.results.Pairwise fun a b => a.1 < b.1

variable {pool turned : SharedPool σ β} {count worker : Nat}

theorem mem_jobs_of_held {job : Nat × Work σ β} (h : pool.held[worker]? = some (some job)) :
    job ∈ WorkerPool.inHands pool.held :=
  List.mem_filterMap.mpr ⟨_, List.mem_of_getElem? h, rfl⟩

theorem IsOrdered.nodup (h : IsOrdered count pool) : (pool.jobs.map (·.1)).Nodup :=
  h.indices.nodup_iff.mpr List.nodup_range

theorem IsOrdered.ne_index (h : IsOrdered count pool) {job : Nat × Work σ β}
    (hHeld : pool.held[worker]? = some (some job)) : ∀ r ∈ pool.results, r.1 ≠ job.1 := by
  have hNodup := h.nodup
  rw [jobs, List.map_append, List.nodup_append, List.map_map] at hNodup
  intro r hr
  refine hNodup.2.2 r.1 (List.mem_map_of_mem hr) job.1 ?_
  exact List.mem_map_of_mem (List.mem_append_left _ (mem_jobs_of_held hHeld))

theorem perm_inHands_goOn {held : List (Option (Nat × Work σ β))} {job : Nat × Work σ β}
    (h : held[worker]? = some (some job)) (later : Nat × Work σ β) :
    ∃ others, (WorkerPool.inHands held).Perm (job :: others) ∧
      (WorkerPool.inHands (held.set worker (some later))).Perm (later :: others) := by
  have hLength : worker < held.length := (List.getElem?_eq_some_iff.mp h).1
  have hEmpty : (held.set worker none)[worker]? = some none := by simp [hLength]
  refine ⟨WorkerPool.inHands (held.set worker none), ?_, ?_⟩
  · exact (WorkerPool.perm_inHands_set h none).symm
  · have hPut := WorkerPool.perm_inHands_set hEmpty (some later)
    rwa [List.set_set] at hPut

theorem step_of_turn (hOrdered : IsOrdered count pool) (h : Turn pool worker turned) :
    Step pool turned := by
  cases h with
  | goOn index act next hHeld =>
    obtain ⟨others, hHere, hTurned⟩ := perm_inHands_goOn hHeld (index, next pool.shared)
    refine .goOn index act next
      (pool.results.map (fun r => (r.1, .done r.2)) ++ (others ++ pool.queue)) ?_ ?_ rfl
    · exact ((hHere.append_right _).append_left _).trans List.perm_middle
    · exact ((hTurned.append_right _).append_left _).trans List.perm_middle
  | layAside index result hHeld =>
    have hHands := WorkerPool.perm_inHands_set hHeld none
    have hResults : (WorkerPool.insertResult index result pool.results).Perm
        ((index, result) :: pool.results) :=
      WorkerPool.perm_insertResult (hOrdered.ne_index hHeld)
    have hDone := hResults.map fun r => (r.1, (.done r.2 : Work σ β))
    refine .changeHands ?_ rfl
    rw [jobs, jobs]
    refine (hDone.append_right _).trans ?_
    exact List.perm_middle.symm.trans ((hHands.append_right _).append_left _)
  | breakDown index c hHeld => exact .changeHands (List.Perm.refl _) rfl
  | take next queue hHeld hQueue =>
    have hHands := WorkerPool.perm_inHands_set hHeld (some next)
    refine .changeHands ?_ rfl
    rw [jobs, jobs, hQueue]
    exact ((hHands.append_right queue).trans List.perm_middle.symm).append_left _
  | rest hRest => exact .changeHands (List.Perm.refl _) rfl

theorem IsOrdered.turn (h : IsOrdered count pool) (worker : Nat) :
    IsOrdered count (pool.turn worker) := by
  have hTurn := turn_cases pool worker
  have hStep := step_of_turn h hTurn
  constructor
  · cases hStep with
    | goOn index act next others hHere hTurned hShared =>
      exact (hTurned.map (·.1)).trans ((hHere.map (·.1)).symm.trans h.indices)
    | changeHands hSame hShared => exact (hSame.map _).trans h.indices
  · generalize pool.turn worker = turned at hTurn ⊢
    cases hTurn with
    | layAside index result hHeld =>
      exact WorkerPool.ascending_insertResult (h.ne_index hHeld) h.ascending
    | _ => exact h.ascending

theorem isOrdered_start (workers : Nat) (jobs : List (Work σ β)) (shared : σ) :
    IsOrdered jobs.length (start workers jobs shared) where
  indices := by
    have hJobs : (start workers jobs shared).jobs = WorkerPool.numbered jobs := by
      simp [SharedPool.jobs, start, WorkerPool.inHands]
    rw [hJobs, WorkerPool.map_index_numbered]
  ascending := List.Pairwise.nil

theorem IsOrdered.after (h : IsOrdered count pool) (turns : List Nat) :
    IsOrdered count (pool.after turns) := by
  induction turns generalizing pool with
  | nil => exact h
  | cons worker turns ih => exact ih (h.turn worker)

theorem getElem?_of_mem_jobs_start {workers index : Nat} {jobs : List (Work σ β)} {shared : σ}
    {job : Work σ β} (h : (index, job) ∈ (start workers jobs shared).jobs) :
    jobs[index]? = some job := by
  have hNumbered : (index, job) ∈ WorkerPool.numbered jobs := by
    simpa [SharedPool.jobs, start, WorkerPool.inHands] using h
  obtain ⟨⟨item, k⟩, hItem, hEq⟩ := List.mem_map.mp hNumbered
  cases hEq
  exact List.mk_mem_zipIdx_iff_getElem?.mp hItem

/-! ## Changes of one kind -/

section

variable {change : σ → σ → Prop} (hRefl : ∀ s, change s s)

include hRefl

theorem makes_turn (hOrdered : IsOrdered count pool)
    (hJobs : ∀ job ∈ pool.jobs, job.2.Makes change) (worker : Nat) :
    change pool.shared (pool.turn worker).shared ∧
      ∀ job ∈ (pool.turn worker).jobs, job.2.Makes change := by
  cases step_of_turn hOrdered (turn_cases pool worker) with
  | changeHands hSame hShared =>
    rw [hShared]
    exact ⟨hRefl _, fun job hJob => hJobs job (hSame.mem_iff.mp hJob)⟩
  | goOn index act next others hHere hTurned hShared =>
    have hFirst := hJobs _ (hHere.mem_iff.mpr List.mem_cons_self) pool.shared
    rw [hShared]
    refine ⟨hFirst.1, fun job hJob => ?_⟩
    rcases List.mem_cons.mp (hTurned.mem_iff.mp hJob) with rfl | hJob
    · exact hFirst.2
    · exact hJobs job (hHere.mem_iff.mpr (List.mem_cons_of_mem _ hJob))

theorem makes_after (hTrans : ∀ s t u, change s t → change t u → change s u)
    (hOrdered : IsOrdered count pool) (hJobs : ∀ job ∈ pool.jobs, job.2.Makes change)
    (turns : List Nat) : change pool.shared (pool.after turns).shared := by
  induction turns generalizing pool with
  | nil => exact hRefl _
  | cons worker turns ih =>
    obtain ⟨hChange, hLater⟩ := makes_turn hRefl hOrdered hJobs worker
    exact hTrans _ _ _ hChange (ih (hOrdered.turn worker) hLater)

end

/-! ## A job that is watched -/

/-- The job of an index comes to a good result, and the others make changes of the kind that it
bears. -/
structure Watches (index : Nat) (occurs : σ → Prop) (change : σ → σ → Prop) (good : β → σ → Prop)
    (pool : SharedPool σ β) : Prop where
  others : ∀ job ∈ pool.jobs, job.1 ≠ index → job.2.Makes change
  watched : ∀ work, (index, work) ∈ pool.jobs → work.Yields occurs change good pool.shared

/-- What is shared at some time while the workers of a list have their turns. -/
def Occurs (pool : SharedPool σ β) (turns : List Nat) (s : σ) : Prop :=
  ∃ before, before <+: turns ∧ (pool.after before).shared = s

variable {index : Nat} {occurs : σ → Prop} {change : σ → σ → Prop} {good : β → σ → Prop}
  (hRefl : ∀ s, change s s) (hTrans : ∀ s t u, change s t → change t u → change s u)

include hRefl hTrans in
theorem Watches.turn (h : Watches index occurs change good pool) (hOrdered : IsOrdered count pool)
    (hOccurs : occurs pool.shared) (worker : Nat) :
    Watches index occurs change good (pool.turn worker) := by
  cases step_of_turn hOrdered (turn_cases pool worker) with
  | changeHands hSame hShared =>
    refine ⟨fun job hJob => h.others job (hSame.mem_iff.mp hJob), fun work hWork => ?_⟩
    rw [hShared]
    exact h.watched work (hSame.mem_iff.mp hWork)
  | goOn k act next others hHere hTurned hShared =>
    have hOthers : ∀ job ∈ others, job.1 ≠ k := by
      have hNodup := (hHere.map (·.1)).nodup_iff.mp hOrdered.nodup
      intro job hJob hIndex
      exact (List.nodup_cons.mp hNodup).1 (List.mem_map.mpr ⟨job, hJob, hIndex⟩)
    have hFirst : (k, Work.turn act next) ∈ pool.jobs := hHere.mem_iff.mpr List.mem_cons_self
    have hRest : ∀ job ∈ others, job ∈ pool.jobs := fun job hJob =>
      hHere.mem_iff.mpr (List.mem_cons_of_mem _ hJob)
    constructor
    · intro job hJob hIndex
      rcases List.mem_cons.mp (hTurned.mem_iff.mp hJob) with rfl | hJob
      · exact (h.others _ hFirst hIndex pool.shared).2
      · exact h.others job (hRest job hJob) hIndex
    · intro work hWork
      rw [hShared]
      rcases List.mem_cons.mp (hTurned.mem_iff.mp hWork) with hEq | hWork
      · cases hEq
        exact h.watched _ hFirst pool.shared (hRefl _) hOccurs
      · -- another job has gone on, with a change that the watched one bears
        have hNe : k ≠ index := (hOthers _ hWork).symm
        exact (h.watched work (hRest _ hWork)).later hTrans (h.others _ hFirst hNe pool.shared).1

include hRefl hTrans in
theorem Watches.after (h : Watches index occurs change good pool) (hOrdered : IsOrdered count pool)
    {turns : List Nat} (hOccurs : ∀ s, pool.Occurs turns s → occurs s) :
    Watches index occurs change good (pool.after turns) := by
  induction turns generalizing pool with
  | nil => exact h
  | cons worker turns ih =>
    have hNow : occurs pool.shared := hOccurs _ ⟨[], List.nil_prefix, rfl⟩
    refine ih (h.turn hRefl hTrans hOrdered hNow worker) (hOrdered.turn worker) ?_
    rintro s ⟨before, hPrefix, hShared⟩
    exact hOccurs s ⟨worker :: before, List.cons_prefix_cons.mpr ⟨rfl, hPrefix⟩, hShared⟩

end SharedPool

end ConfigReference
