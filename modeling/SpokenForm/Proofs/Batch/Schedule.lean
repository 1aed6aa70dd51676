import Mathlib.Algebra.GroupWithZero.Nat
import Mathlib.Data.List.Perm.Basic
import SpokenForm.Batch

/-! Schedules of a pool. Whatever the order in which workers take their turns, a batch is in the
queue, in hand or answered, and a worker stops only when the queue is empty or after a failure. Every
turn of a worker that has not stopped brings the pool nearer to its end. -/
namespace SpokenForm

variable {α β ε : Type}

namespace Worker

/-- The batch that a worker has in hand. -/
def inHand : Worker α → List (Job α)
  | .busy job => [job]
  | .ready | .stopped => []

/-- The turns that a worker takes at most if the queue is empty. -/
def turns : Worker α → Nat
  | .busy _ => 2
  | .ready => 1
  | .stopped => 0

end Worker

namespace Pool

variable {work : α → Except ε β} {pool next : Pool α β ε}

/-- A turn of one worker: it takes the next batch, stops at an empty queue, delivers what it has done,
or stops after a failure. -/
inductive Moves (work : α → Except ε β) : Pool α β ε → Pool α β ε → Prop where
  | takes {job : Job α} {queue : List (Job α)} {before after : List (Worker α)}
      {sent : List (Nat × Except ε (List β))} :
      Moves work ⟨job :: queue, before ++ .ready :: after, sent⟩
        ⟨queue, before ++ .busy job :: after, sent⟩
  | rests {before after : List (Worker α)} {sent : List (Nat × Except ε (List β))} :
      Moves work ⟨[], before ++ .ready :: after, sent⟩ ⟨[], before ++ .stopped :: after, sent⟩
  | delivers {job : Job α} {queue : List (Job α)} {before after : List (Worker α)}
      {sent : List (Nat × Except ε (List β))} {results : List β}
      (done : job.items.mapM work = .ok results) :
      Moves work ⟨queue, before ++ .busy job :: after, sent⟩
        ⟨queue, before ++ .ready :: after, sent ++ [(job.number, .ok results)]⟩
  | fails {job : Job α} {queue : List (Job α)} {before after : List (Worker α)}
      {sent : List (Nat × Except ε (List β))} {fault : ε}
      (failed : job.items.mapM work = .error fault) :
      Moves work ⟨queue, before ++ .busy job :: after, sent⟩
        ⟨queue, before ++ .stopped :: after, sent ++ [(job.number, .error fault)]⟩

/-- Whether the worker at a place still has something to do. -/
def ActiveAt (pool : Pool α β ε) (place : Nat) : Prop :=
  ∃ worker, pool.workers[place]? = some worker ∧ isActive worker = true

theorem exists_split_of_getElem? {items : List α} {place : Nat} {item : α}
    (found : items[place]? = some item) :
    ∃ before after, items = before ++ item :: after ∧ before.length = place := by
  obtain ⟨inside, rfl⟩ := List.getElem?_eq_some_iff.mp found
  exact ⟨items.take place, items.drop (place + 1), by simp, by simp; omega⟩

theorem step_moves {place : Nat} (active : pool.ActiveAt place) :
    Moves work pool (pool.step work place) := by
  obtain ⟨queue, workers, sent⟩ := pool
  obtain ⟨worker, found, isActive⟩ := active
  obtain ⟨before, after, rfl, rfl⟩ := exists_split_of_getElem? found
  cases worker with
  | stopped => simp [Pool.isActive] at isActive
  | ready =>
    cases queue with
    | nil => simpa [step, setWorker] using Moves.rests
    | cons job queue => simpa [step, setWorker] using Moves.takes
  | busy job =>
    cases done : job.items.mapM work with
    | ok results => simpa [step, setWorker, done] using Moves.delivers done
    | error fault => simpa [step, setWorker, done] using Moves.fails done

theorem step_of_not_active {place : Nat} (idle : ¬ pool.ActiveAt place) :
    pool.step work place = pool := by
  unfold step
  cases found : pool.workers[place]? with
  | none => rfl
  | some worker =>
    cases worker with
    | stopped => rfl
    | ready => exact absurd ⟨_, found, rfl⟩ idle
    | busy job => exact absurd ⟨_, found, rfl⟩ idle

theorem step_eq_or_moves (pool : Pool α β ε) (place : Nat) :
    pool.step work place = pool ∨ Moves work pool (pool.step work place) := by
  by_cases active : pool.ActiveAt place
  · exact .inr (step_moves active)
  · exact .inl (step_of_not_active active)

theorem exists_active_of_not_finished (unfinished : pool.isFinished = false) :
    ∃ place, pool.workers.findIdx? isActive = some place ∧ pool.ActiveAt place := by
  obtain ⟨worker, member, active⟩ : ∃ worker ∈ pool.workers, isActive worker = true := by
    simpa [isFinished] using unfinished
  cases found : pool.workers.findIdx? isActive with
  | none => simp [List.findIdx?_eq_none_iff.mp found worker member] at active
  | some place =>
    obtain ⟨inside, isActive, -⟩ := List.findIdx?_eq_some_iff_getElem.mp found
    exact ⟨place, rfl, _, List.getElem?_eq_getElem inside, isActive⟩

/-! Turns are used up. -/

/-- The turns that all workers together take at most. -/
def turns (pool : Pool α β ε) : Nat :=
  2 * pool.queue.length + (pool.workers.map Worker.turns).sum

theorem Moves.turns_lt (moves : Moves work pool next) : next.turns < pool.turns := by
  cases moves <;> (simp [turns, Worker.turns]; try omega)

theorem turns_pos (work : α → Except ε β) {place : Nat} (active : pool.ActiveAt place) :
    0 < pool.turns := by
  have moves : Moves work pool (pool.step work place) := step_moves active
  exact Nat.zero_lt_of_lt moves.turns_lt

/-- Every step of the schedule is a turn of a worker that has not stopped. -/
def Productive (work : α → Except ε β) : Pool α β ε → (schedule : List Nat) → Prop
  | _, [] => True
  | pool, place :: rest => pool.ActiveAt place ∧ Productive work (pool.step work place) rest

theorem length_le_of_productive {schedule : List Nat} (productive : pool.Productive work schedule) :
    schedule.length ≤ pool.turns := by
  induction schedule generalizing pool with
  | nil => exact Nat.zero_le _
  | cons place rest ih =>
    obtain ⟨active, later⟩ := productive
    have moves : Moves work pool (pool.step work place) := step_moves active
    exact Nat.lt_of_le_of_lt (ih later) moves.turns_lt

theorem turns_run_le (pool : Pool α β ε) (schedule : List Nat) :
    (pool.run work schedule).turns ≤ pool.turns := by
  induction schedule generalizing pool with
  | nil => exact Nat.le_refl _
  | cons place rest ih =>
    refine Nat.le_trans (ih (pool.step work place)) ?_
    rcases step_eq_or_moves pool place with same | moves
    · exact Nat.le_of_eq (congrArg turns same)
    · exact Nat.le_of_lt moves.turns_lt

theorem run_append (pool : Pool α β ε) (schedule rest : List Nat) :
    pool.run work (schedule ++ rest) = (pool.run work schedule).run work rest :=
  List.foldl_append

theorem drain_of_finished (finished : pool.isFinished = true) (steps : Nat) :
    drain work steps pool = pool := by
  have none : pool.workers.findIdx? isActive = none := by simpa [isFinished] using finished
  cases steps <;> simp [drain, none]

/-- Draining a pool follows a schedule to its end. -/
theorem drain_finishes {steps : Nat} (enough : pool.turns ≤ steps) :
    ∃ schedule, drain work steps pool = pool.run work schedule ∧
      (pool.run work schedule).isFinished = true := by
  induction steps generalizing pool with
  | zero =>
    -- Without turns left nobody can be active.
    refine ⟨[], rfl, ?_⟩
    by_contra unfinished
    obtain ⟨place, -, active⟩ := exists_active_of_not_finished (by simpa using unfinished)
    exact Nat.not_lt.mpr enough (turns_pos work active)
  | succ steps ih =>
    cases unfinished : pool.isFinished with
    | true => exact ⟨[], drain_of_finished unfinished _, unfinished⟩
    | false =>
      obtain ⟨place, first, active⟩ := exists_active_of_not_finished unfinished
      have moves : Moves work pool (pool.step work place) := step_moves active
      obtain ⟨schedule, same, finished⟩ :=
        ih (Nat.le_of_lt_succ (Nat.lt_of_lt_of_le moves.turns_lt enough))
      exact ⟨place :: schedule, by simp only [drain, first, same]; rfl, finished⟩

/-- Wherever a schedule has led, the workers can still come to their end. -/
theorem exists_finishing (pool : Pool α β ε) (schedule : List Nat) :
    ∃ rest, (pool.run work (schedule ++ rest)).isFinished = true := by
  obtain ⟨rest, -, finished⟩ := drain_finishes (Nat.le_refl (pool.run work schedule).turns)
  exact ⟨rest, by rwa [run_append]⟩

/-! Every batch is accounted for. -/

/-- What a worker sends when it has done a batch. -/
def answer (work : α → Except ε β) (job : Job α) : Nat × Except ε (List β) :=
  (job.number, job.items.mapM work)

def pending (pool : Pool α β ε) : List (Job α) :=
  pool.workers.flatMap Worker.inHand ++ pool.queue

def HasFailed (pool : Pool α β ε) : Prop :=
  ∃ number fault, (number, .error fault) ∈ pool.sent

/-- What has been sent and what pending batches will answer are the answers of all batches. A worker
has stopped only at an empty queue or after a failure. -/
structure Accounts (work : α → Except ε β) (jobs : List (Job α)) (pool : Pool α β ε) : Prop where
  complete : (pool.sent ++ pool.pending.map (answer work)).Perm (jobs.map (answer work))
  stopped : .stopped ∈ pool.workers → pool.queue = [] ∨ pool.HasFailed
  staffed : pool.workers ≠ []

variable {jobs : List (Job α)}

theorem pending_take (job : Job α) (queue : List (Job α)) (before after : List (Worker α))
    (sent : List (Nat × Except ε (List β))) :
    (pending (⟨queue, before ++ .busy job :: after, sent⟩ : Pool α β ε)).Perm
      (pending (⟨job :: queue, before ++ .ready :: after, sent⟩ : Pool α β ε)) := by
  simp only [pending, List.flatMap_append, List.flatMap_cons, Worker.inHand, List.nil_append,
    List.append_assoc, List.singleton_append]
  exact List.perm_middle.symm.append_left _

/-- A batch that is answered is pending no more. -/
theorem complete_send {job : Job α} {queue : List (Job α)} {before after : List (Worker α)}
    {sent answers : List (Nat × Except ε (List β))} {worker : Worker α} (empty : worker.inHand = [])
    (complete : (sent ++ (pending (⟨queue, before ++ .busy job :: after, sent⟩ :
      Pool α β ε)).map (answer work)).Perm answers) :
    ((sent ++ [answer work job]) ++ (pending (⟨queue, before ++ worker :: after,
      sent ++ [answer work job]⟩ : Pool α β ε)).map (answer work)).Perm answers := by
  have busy : (Worker.busy job).inHand = [job] := rfl
  refine List.Perm.trans ?_ complete
  simp only [pending, List.flatMap_append, List.flatMap_cons, busy, empty, List.map_append,
    List.nil_append, List.append_assoc, List.map_cons, List.cons_append]
  exact List.perm_middle.symm.append_left sent

theorem Accounts.moves (accounts : pool.Accounts work jobs) (moves : Moves work pool next) :
    next.Accounts work jobs := by
  obtain ⟨complete, stopped, -⟩ := accounts
  cases moves with
  | @takes job queue before after sent =>
    -- The queue was not empty, so whoever has stopped did so after a failure.
    have same := (pending_take job queue before after sent).map (answer work)
    refine ⟨(same.append_left sent).trans complete, fun member => .inr ?_, by simp⟩
    exact (stopped (by simpa using member)).resolve_left (by simp)
  | rests => exact ⟨by simpa [pending, Worker.inHand] using complete, by simp, by simp⟩
  | @delivers job queue before after sent results done =>
    have answered : answer work job = (job.number, .ok results) := by simp [answer, done]
    have completed := answered ▸ complete_send (rfl : (Worker.ready : Worker α).inHand = []) complete
    refine ⟨completed, fun member => ?_, by simp⟩
    rcases stopped (by simpa using member) with empty | ⟨number, fault, failed⟩
    · exact .inl empty
    · exact .inr ⟨number, fault, List.mem_append_left _ failed⟩
  | @fails job queue before after sent fault failed =>
    have answered : answer work job = (job.number, .error fault) := by simp [answer, failed]
    have completed := answered ▸ complete_send (rfl : (Worker.stopped : Worker α).inHand = []) complete
    exact ⟨completed, fun _ => .inr ⟨job.number, fault, by simp⟩, by simp⟩

theorem Accounts.run (accounts : pool.Accounts work jobs) (schedule : List Nat) :
    (pool.run work schedule).Accounts work jobs := by
  induction schedule generalizing pool with
  | nil => exact accounts
  | cons place rest ih =>
    rcases step_eq_or_moves pool place with same | moves
    · exact ih (by rwa [same])
    · exact ih (accounts.moves moves)

/-- At its end a pool has met a failure or answered every batch. -/
theorem Accounts.of_finished (accounts : pool.Accounts work jobs)
    (finished : pool.isFinished = true) :
    pool.HasFailed ∨ pool.sent.Perm (jobs.map (answer work)) := by
  have all : ∀ worker ∈ pool.workers, worker = .stopped := by
    intro worker member
    have idle : isActive worker = false := by
      simpa using List.all_eq_true.mp finished worker member
    cases worker <;> simp_all [isActive]
  obtain ⟨worker, member⟩ := List.exists_mem_of_ne_nil _ accounts.staffed
  rcases accounts.stopped (all worker member ▸ member) with empty | failed
  · have none : pool.pending = [] := by
      simp only [pending, empty, List.append_nil, List.flatMap_eq_nil_iff]
      intro worker member
      rw [all worker member]
      rfl
    have complete := accounts.complete
    rw [none, List.map_nil, List.append_nil] at complete
    exact .inr complete
  · exact .inl failed

end Pool

end SpokenForm
