import SpokenForm.Selection

/-! Work on many items by several workers. Items are cut into batches that wait in a queue; a worker
takes the next batch, does it up to its first failure and sends what came of it. Workers take turns in
any order, and the results are put back into the order of the items. -/
namespace SpokenForm

/-- A batch of items and its number. -/
structure Job (α : Type) where
  number : Nat
  items : List α
deriving DecidableEq, Repr

/-- What a worker is doing: it waits for a batch, has one in hand, or has stopped. -/
inductive Worker (α : Type) where
  | ready
  | busy (job : Job α)
  | stopped
deriving DecidableEq, Repr

/-- Batches in the queue, the workers, and what they have sent, with the numbers of the batches, in
order of arrival. -/
structure Pool (α β ε : Type) where
  queue : List (Job α)
  workers : List (Worker α)
  sent : List (Nat × Except ε (List β))

namespace Pool

variable {α β ε : Type}

def setWorker (pool : Pool α β ε) (place : Nat) (worker : Worker α) : Pool α β ε :=
  { pool with workers := pool.workers.set place worker }

/-- One step of the worker at a place: it takes a batch, or sends what came of the one it has. It
stops when the queue is empty, or after a failure. -/
def step (work : α → Except ε β) (pool : Pool α β ε) (place : Nat) : Pool α β ε :=
  match pool.workers[place]? with
  | none => pool
  | some .stopped => pool
  | some .ready =>
    match pool.queue with
    | [] => pool.setWorker place .stopped
    | job :: rest => { pool.setWorker place (.busy job) with queue := rest }
  | some (.busy job) =>
    match job.items.mapM work with
    | .ok results =>
      { pool.setWorker place .ready with sent := pool.sent ++ [(job.number, .ok results)] }
    | .error fault =>
      { pool.setWorker place .stopped with sent := pool.sent ++ [(job.number, .error fault)] }

/-- The steps of workers in the order of a schedule. -/
def run (work : α → Except ε β) (pool : Pool α β ε) (schedule : List Nat) : Pool α β ε :=
  schedule.foldl (step work) pool

def isActive : Worker α → Bool
  | .ready | .busy _ => true
  | .stopped => false

def isFinished (pool : Pool α β ε) : Bool := pool.workers.all (!isActive ·)

/-- Lets the first worker that has not stopped do the next step, at most `steps` times. -/
def drain (work : α → Except ε β) : (steps : Nat) → Pool α β ε → Pool α β ε
  | 0, pool => pool
  | steps + 1, pool =>
    match pool.workers.findIdx? isActive with
    | none => pool
    | some place => drain work steps (pool.step work place)

/-- The results among messages up to the first failure, which is the outcome if there is one. -/
def results : List (Nat × Except ε (List β)) → Except ε (List (Nat × List β))
  | [] => .ok []
  | (number, .ok batch) :: rest => do return (number, batch) :: (← results rest)
  | (_, .error fault) :: _ => .error fault

/-- Puts the results of so many batches into the order of the batches. -/
def collect (count : Nat) (sent : List (Nat × Except ε (List β))) : Except ε (List β) := do
  let batches ← results sent
  return (List.range count).flatMap fun number => (batches.lookup number).getD []

end Pool

namespace Batch

variable {α β ε : Type}

/-- Cuts items into batches of a size, where `room` items still fit the open batch, which stands last
item first. -/
def cutFrom (size : Nat) : (room : Nat) → (batch items : List α) → List (List α)
  | _, batch, [] => if batch.isEmpty then [] else [batch.reverse]
  | 0, batch, item :: rest => batch.reverse :: cutFrom size (size - 1) [item] rest
  | room + 1, batch, item :: rest => cutFrom size room (item :: batch) rest

/-- Cuts items into batches of a size; the last one may be smaller. -/
def cut (size : Nat) (items : List α) : List (List α) := cutFrom size size [] items

def jobs (size : Nat) (items : List α) : List (Job α) :=
  (cut size items).zipIdx.map fun (batch, number) => ⟨number, batch⟩

def pool (workerCount size : Nat) (items : List α) : Pool α β ε :=
  ⟨jobs size items, List.replicate workerCount .ready, []⟩

/-- The number of workers that a setting asks for: zero stands for one a processor. -/
def resolveWorkers (processors setting : Nat) : Nat :=
  if setting = 0 then max processors 1 else setting

/-- The workers that find work: never more than batches. -/
def workersFor (workerCount size : Nat) (items : List α) : Nat :=
  min workerCount (cut size items).length

/-- Does all items, in batches of a size; the first failure that arrives is the outcome. Workers take
turns as a schedule says, and then as they come. Every worker takes at most two steps a batch and one
to stop. -/
def mapUnder (schedule : List Nat) (work : α → Except ε β) (workerCount batchSize : Nat)
    (items : List α) : Except ε (List β) :=
  let size := max batchSize 1
  let count := (cut size items).length
  let workers := workersFor workerCount size items
  if workers ≤ 1 then items.mapM work
  else
    let begun := (pool workers size items).run work schedule
    Pool.collect count (Pool.drain work (2 * count + workers) begun).sent

/-- Does all items, where the first worker that has not stopped takes every turn. -/
def parallelMap (work : α → Except ε β) (workerCount batchSize : Nat) (items : List α) :
    Except ε (List β) :=
  mapUnder [] work workerCount batchSize items

def normalizeAll (normalizer : Normalizer) (workerCount batchSize : Nat) (texts : List Text) :
    Except NormalizationError (List Text) :=
  parallelMap normalizer.normalize workerCount batchSize texts

/-- Normalizes texts with the help of what was heard. -/
def selectAll (selector : Selector) (normalizer : Normalizer) (workerCount batchSize : Nat)
    (items : List (Text × Text)) : Except NormalizationError (List Text) :=
  parallelMap (fun item => selector.normalize normalizer item.1 item.2) workerCount batchSize items

end Batch

end SpokenForm
