/-!
# Worker pools

Workers that take jobs from one queue. A job is finished under its own index, so the order in which
the workers take their turns does not show in the results.
-/

set_option autoImplicit false

namespace ConfigReference

structure WorkerPool (α β : Type) where
  queue : List (Nat × α)
  held : List (Option (Nat × α))
  results : List (Nat × β) := []

namespace WorkerPool

variable {α β : Type}

def insertResult (index : Nat) (result : β) : List (Nat × β) → List (Nat × β)
  | [] => [(index, result)]
  | r :: rest =>
    if index < r.1 then (index, result) :: r :: rest
    else if index = r.1 then (index, result) :: rest
    else r :: insertResult index result rest

def numbered (items : List α) : List (Nat × α) := items.zipIdx.map fun (item, i) => (i, item)

/-- At least one worker, and no more than there are jobs. -/
def size (workers : Nat) (items : List α) : Nat := max 1 (min workers items.length)

def start (workers : Nat) (items : List α) : WorkerPool α β where
  queue := numbered items
  held := List.replicate (size workers items) none

def turn (job : α → β) (pool : WorkerPool α β) (worker : Nat) : WorkerPool α β :=
  match pool.held[worker]?, pool.queue with
  | some (some (index, item)), _ =>
    { pool with
      held := pool.held.set worker none
      results := insertResult index (job item) pool.results }
  | some none, next :: queue =>
    { pool with queue, held := pool.held.set worker (some next) }
  | _, _ => pool

def after (job : α → β) (turns : List Nat) (pool : WorkerPool α β) : WorkerPool α β :=
  turns.foldl (turn job) pool

def isFinished (pool : WorkerPool α β) : Bool := pool.queue.isEmpty && pool.held.all (·.isNone)

/-- Rounds in which every worker has a turn, enough for all jobs. -/
def rounds (workers jobs : Nat) : List Nat :=
  (List.replicate (2 * jobs) (List.range workers)).flatten

def run (job : α → β) (workers : Nat) (items : List α) : List β :=
  let turns := rounds (size workers items) items.length
  (after job turns (start workers items)).results.map (·.2)

/-- Two workers for each processor, and one where the order of their output counts. -/
def workerCount (processors : Nat) (ordered : Bool) : Nat := if ordered then 1 else 2 * processors

end WorkerPool

end ConfigReference
