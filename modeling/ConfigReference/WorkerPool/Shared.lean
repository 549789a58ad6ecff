import ConfigReference.Crash
import ConfigReference.WorkerPool

/-!
# Pools whose jobs share something

Jobs that look at what they all share and change it, one turn after the other. Between two turns of
a job any other jobs may have turns, so the order of the turns shows in what is shared. A worker
whose job panics is lost, and the others go on; when a job aborts the process, nothing goes on.
-/

set_option autoImplicit false

namespace ConfigReference

/-- A job on something of type `σ`. What a turn does, and what is left to do after it, depends on
what the turn finds. -/
inductive Work (σ β : Type) where
  | done (result : β)
  | crash (c : Crash)
  | turn (act : σ → σ) (next : σ → Work σ β)

namespace Work

variable {σ β : Type}

/-- What is there when a job is done that is never interrupted. -/
def alone : Work σ β → σ → σ × Except Crash β
  | done result, s => (s, .ok result)
  | crash c, s => (s, .error c)
  | turn act next, s => (next s).alone (act s)

/-- How many turns a job takes that is never interrupted, the one at which it is laid aside
included. -/
def turns : Work σ β → σ → Nat
  | turn act next, s => (next s).turns (act s) + 1
  | _, _ => 1

end Work

structure SharedPool (σ β : Type) where
  queue : List (Nat × Work σ β)
  held : List (Option (Nat × Work σ β))
  results : List (Nat × β) := []
  crash? : Option Crash := none
  shared : σ

namespace SharedPool

variable {σ β : Type}

def start (workers : Nat) (jobs : List (Work σ β)) (shared : σ) : SharedPool σ β where
  queue := WorkerPool.numbered jobs
  held := List.replicate (WorkerPool.size workers jobs) none
  shared

/-- The turn of a worker: it goes on with its job, lays it aside or takes the next one. It keeps a
job that has crashed, and so is lost. -/
def turn (pool : SharedPool σ β) (worker : Nat) : SharedPool σ β :=
  if pool.crash? = some .aborted then pool
  else
    match pool.held[worker]?, pool.queue with
    | some (some (index, .turn act next)), _ =>
      { pool with
        held := pool.held.set worker (some (index, next pool.shared))
        shared := act pool.shared }
    | some (some (index, .done result)), _ =>
      { pool with
        held := pool.held.set worker none
        results := WorkerPool.insertResult index result pool.results }
    | some (some (_, .crash c)), _ => { pool with crash? := some c }
    | some none, next :: queue =>
      { pool with queue, held := pool.held.set worker (some next) }
    | _, _ => pool

def after (turns : List Nat) (pool : SharedPool σ β) : SharedPool σ β := turns.foldl turn pool

def turnsHeld (pool : SharedPool σ β) (worker : Nat) : Nat :=
  match pool.held[worker]? with
  | some (some (_, work)) => work.turns pool.shared
  | _ => 0

/-- A worker lays its job aside and takes the next one, as often as the number tells, the others
resting. -/
def goOn (worker : Nat) : Nat → SharedPool σ β → SharedPool σ β
  | 0, pool => pool
  | times + 1, pool =>
    goOn worker times ((pool.after (List.replicate (pool.turnsHeld worker) worker)).turn worker)

/-- The workers go on in turn, each until there is nothing left to it. -/
def finish (pool : SharedPool σ β) : SharedPool σ β :=
  (List.range pool.held.length).foldl
    (fun pool worker => pool.goOn worker (pool.queue.length + 1)) pool

def result (pool : SharedPool σ β) : Except Crash (List β) :=
  match pool.crash? with
  | some c => .error c
  | none => .ok (pool.results.map (·.2))

/-- What is there when all jobs are done. Workers have turns as the list tells; what is then left is
done job by job. -/
def run (turns : List Nat) (workers : Nat) (jobs : List (Work σ β)) (shared : σ) :
    σ × Except Crash (List β) :=
  let pool := ((start workers jobs shared).after turns).finish
  (pool.shared, pool.result)

end SharedPool

end ConfigReference
