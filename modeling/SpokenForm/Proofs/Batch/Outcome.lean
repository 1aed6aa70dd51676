import SpokenForm.Proofs.Batch.Schedule
import SpokenForm.Proofs.Batch.Sequence

/-! What comes of many items, whatever the schedule of the workers. Messages arrive in any order, and
batch numbers put results back into the order of the items; a failure is never lost. -/
namespace SpokenForm

variable {α β ε : Type}

namespace Pool

variable {sent : List (Nat × Except ε (List β))}

/-- The results that a message brings, unless it reports a failure. -/
def delivered? : Nat × Except ε (List β) → Option (Nat × List β)
  | (number, .ok results) => some (number, results)
  | (_, .error _) => none

theorem results_eq_ok (none : ∀ number fault, (number, .error fault) ∉ sent) :
    results sent = .ok (sent.filterMap delivered?) := by
  induction sent with
  | nil => rfl
  | cons message sent ih =>
    have later := ih fun number fault member => none number fault (List.mem_cons_of_mem _ member)
    obtain ⟨number, batch | batch⟩ := message
    · exact absurd List.mem_cons_self (none number batch)
    · simp [results, later, delivered?, bind, Except.bind, pure, Except.pure]

theorem results_eq_error (failed : ∃ number fault, (number, .error fault) ∈ sent) :
    ∃ number fault, (number, .error fault) ∈ sent ∧ results sent = .error fault := by
  induction sent with
  | nil => simp at failed
  | cons message sent ih =>
    obtain ⟨number, fault | batch⟩ := message
    · exact ⟨number, fault, List.mem_cons_self, rfl⟩
    · obtain ⟨other, fault, member, first⟩ := ih (by simpa using failed)
      exact ⟨other, fault, List.mem_cons_of_mem _ member, by simp [results, first, bind, Except.bind]⟩

theorem lookup_of_mem {γ : Type} {entries : List (Nat × γ)} {number : Nat} {value : γ}
    (distinct : (entries.map Prod.fst).Nodup) (member : (number, value) ∈ entries) :
    entries.lookup number = some value := by
  induction entries with
  | nil => simp at member
  | cons entry entries ih =>
    obtain ⟨absent, others⟩ := List.nodup_cons.mp distinct
    rcases List.mem_cons.mp member with rfl | inside
    · simp
    · have different : number ≠ entry.1 := by
        rintro rfl
        exact absent (List.mem_map.mpr ⟨_, inside, rfl⟩)
      rw [List.lookup_cons, beq_false_of_ne different]
      exact ih others inside

/-- In whatever order the parts arrive, their numbers put them in order. -/
theorem collect_of_delivered {parts : List (List β)}
    (arrived : sent.Perm (parts.zipIdx.map fun part => (part.2, .ok part.1))) :
    collect parts.length sent = .ok parts.flatten := by
  have none : ∀ number fault, (number, Except.error fault) ∉ sent := by
    intro number fault member
    simpa using arrived.mem_iff.mp member
  -- Looking a number up depends on the entries alone, not on their order.
  have entries : (sent.filterMap delivered?).Perm (parts.zipIdx.map Prod.swap) := by
    have each := arrived.filterMap delivered?
    have swapped : (delivered? ∘ fun part : List β × Nat =>
        ((part.2, .ok part.1) : Nat × Except ε (List β))) = some ∘ Prod.swap := rfl
    rwa [List.filterMap_map, swapped, List.filterMap_eq_map] at each
  have distinct : ((sent.filterMap delivered?).map Prod.fst).Nodup := by
    have numbers : (parts.zipIdx.map Prod.swap).map Prod.fst = List.range' 0 parts.length := by
      have second : Prod.fst ∘ Prod.swap = (Prod.snd : List β × Nat → Nat) := rfl
      rw [List.map_map, second, List.zipIdx_map_snd]
    rw [(entries.map Prod.fst).nodup_iff, numbers]
    exact List.nodup_range'
  have found (number : Nat) (inside : number < parts.length) :
      (sent.filterMap delivered?).lookup number = some parts[number] := by
    have numbered : (parts[number], number) ∈ parts.zipIdx :=
      List.mk_mem_zipIdx_iff_getElem?.mpr (List.getElem?_eq_getElem inside)
    exact lookup_of_mem distinct (entries.mem_iff.mpr (List.mem_map.mpr ⟨_, numbered, rfl⟩))
  have inOrder : (List.range parts.length).map
      (fun number => ((sent.filterMap delivered?).lookup number).getD []) = parts := by
    refine List.ext_getElem (by simp) fun number inside other => ?_
    rw [List.getElem_map, List.getElem_range, found number other, Option.getD_some]
  simp only [collect, results_eq_ok none, bind, Except.bind, pure, Except.pure, List.flatMap_def,
    inOrder]

end Pool

namespace Batch

variable {work : α → Except ε β} {size : Nat} {items : List α}

/-- The batches answer with their parts of the results. -/
theorem answers_eq {batches : List (List α)} {parts : List (List β)} (start : Nat)
    (done : List.Forall₂ (fun batch part => batch.mapM work = .ok part) batches parts) :
    ((batches.zipIdx start).map fun (batch, number) => (⟨number, batch⟩ : Job α)).map
      (Pool.answer work) = (parts.zipIdx start).map fun part => (part.2, .ok part.1) := by
  induction done generalizing start with
  | nil => rfl
  | cons first _ ih => simp [Pool.answer, first, ih (start + 1)]

/-- At the end of a pool every item is done, or a batch has failed. -/
theorem collect_of_finished (positive : 0 < size) {pool : Pool α β ε}
    (accounts : pool.Accounts work (jobs size items)) (finished : pool.isFinished = true) :
    (∃ results, items.mapM work = .ok results ∧
      Pool.collect (cut size items).length pool.sent = .ok results) ∨
    (∃ batch ∈ cut size items, ∃ fault, batch.mapM work = .error fault ∧
      Pool.collect (cut size items).length pool.sent = .error fault) := by
  by_cases failed : pool.HasFailed
  · obtain ⟨number, fault, member, first⟩ := Pool.results_eq_error failed
    have answered := accounts.complete.mem_iff.mp (List.mem_append_left _ member)
    obtain ⟨job, inside, same⟩ := List.mem_map.mp answered
    obtain ⟨⟨batch, place⟩, numbered, rfl⟩ := List.mem_map.mp inside
    have isBatch := List.mem_of_getElem? (List.mk_mem_zipIdx_iff_getElem?.mp numbered)
    refine .inr ⟨batch, isBatch, fault, (Prod.mk.inj same).2, ?_⟩
    simp [Pool.collect, first, bind, Except.bind]
  · have arrived := (accounts.of_finished finished).resolve_left failed
    -- No failure was sent and every batch is answered, so no batch fails.
    have each : ∀ batch ∈ cut size items, ∃ part, batch.mapM work = .ok part := by
      intro batch member
      cases done : batch.mapM work with
      | ok part => exact ⟨part, rfl⟩
      | error fault =>
        obtain ⟨number, found⟩ := List.mem_iff_getElem?.mp member
        have answered : (number, Except.error fault) ∈ (jobs size items).map (Pool.answer work) := by
          refine List.mem_map.mpr ⟨⟨number, batch⟩, List.mem_map.mpr ⟨(batch, number), ?_, rfl⟩, ?_⟩
          · exact List.mk_mem_zipIdx_iff_getElem?.mpr found
          · simp [Pool.answer, done]
        exact absurd ⟨number, fault, arrived.mem_iff.mpr answered⟩ failed
    obtain ⟨parts, all⟩ := mapM_succeeds_iff.mpr each
    have related := mapM_eq_ok_iff.mp all
    refine .inl ⟨parts.flatten, ?_, ?_⟩
    · rw [mapM_eq_ok_iff, ← flatten_cut positive items]
      exact List.rel_flatten (related.imp fun _ _ => mapM_eq_ok_iff.mp)
    · rw [related.length_eq]
      exact Pool.collect_of_delivered (by rwa [jobs, answers_eq 0 related] at arrived)

theorem accounts_pool {workerCount : Nat} (staffed : 0 < workerCount) :
    (pool workerCount size items : Pool α β ε).Accounts work (jobs size items) := by
  have idle : (List.replicate workerCount (Worker.ready : Worker α)).flatMap Worker.inHand = [] := by
    simp [List.flatMap_eq_nil_iff, Worker.inHand]
  refine ⟨by simp [pool, Pool.pending, idle], by simp [pool], ?_⟩
  simpa [pool] using Nat.ne_of_gt staffed

theorem turns_pool (workerCount : Nat) :
    (pool workerCount size items : Pool α β ε).turns =
      2 * (cut size items).length + workerCount := by
  simp [pool, Pool.turns, jobs, Worker.turns]

/-- What can come of items: they are done one after another if fewer than two workers find work, and
otherwise some schedule leads all workers to their end. -/
inductive Outcome (work : α → Except ε β) (workerCount batchSize : Nat) (items : List α) :
    Except ε (List β) → Prop where
  | alone (few : workersFor workerCount (max batchSize 1) items ≤ 1) :
      Outcome work workerCount batchSize items (items.mapM work)
  | pooled {schedule : List Nat} (several : 1 < workersFor workerCount (max batchSize 1) items)
      (finished : ((pool (workersFor workerCount (max batchSize 1) items) (max batchSize 1)
        items).run work schedule).isFinished = true) :
      Outcome work workerCount batchSize items
        (Pool.collect (cut (max batchSize 1) items).length
          ((pool (workersFor workerCount (max batchSize 1) items) (max batchSize 1) items).run work
            schedule).sent)

/-- However the workers begin, they come to an end. -/
theorem outcome_mapUnder (schedule : List Nat) (work : α → Except ε β) (workerCount batchSize : Nat)
    (items : List α) :
    Outcome work workerCount batchSize items
      (mapUnder schedule work workerCount batchSize items) := by
  simp only [mapUnder]
  split
  · rename_i few
    exact .alone few
  · rename_i several
    have enough : ((pool (workersFor workerCount (max batchSize 1) items) (max batchSize 1) items :
        Pool α β ε).run work schedule).turns ≤ 2 * (cut (max batchSize 1) items).length +
          workersFor workerCount (max batchSize 1) items :=
      Nat.le_trans (Pool.turns_run_le _ schedule) (Nat.le_of_eq (turns_pool _))
    obtain ⟨rest, same, finished⟩ := Pool.drain_finishes enough
    rw [← Pool.run_append] at same finished
    rw [same]
    exact .pooled (Nat.lt_of_not_le several) finished

/-- What can come of items is what comes of them under some schedule. -/
theorem outcome_iff {workerCount batchSize : Nat} {outcome : Except ε (List β)} :
    Outcome work workerCount batchSize items outcome ↔
      ∃ schedule, mapUnder schedule work workerCount batchSize items = outcome := by
  constructor
  · intro reached
    cases reached with
    | alone few => exact ⟨[], by simp only [mapUnder, if_pos few]⟩
    | @pooled schedule several finished =>
      refine ⟨schedule, ?_⟩
      simp only [mapUnder, if_neg (Nat.not_le.mpr several), Pool.drain_of_finished finished]
  · rintro ⟨schedule, rfl⟩
    exact outcome_mapUnder schedule work workerCount batchSize items

theorem outcome_parallelMap (work : α → Except ε β) (workerCount batchSize : Nat) (items : List α) :
    Outcome work workerCount batchSize items (parallelMap work workerCount batchSize items) :=
  outcome_mapUnder [] work workerCount batchSize items

theorem Outcome.done_or_failed {workerCount batchSize : Nat} {outcome : Except ε (List β)}
    (reached : Outcome work workerCount batchSize items outcome) :
    (∃ results, items.mapM work = .ok results ∧ outcome = .ok results) ∨
    (∃ batch ∈ cut (max batchSize 1) items, ∃ fault, batch.mapM work = .error fault ∧
      outcome = .error fault) := by
  have positive : 0 < max batchSize 1 := by omega
  cases reached with
  | alone few =>
    cases done : items.mapM work with
    | ok results => exact .inl ⟨results, rfl, rfl⟩
    | error fault =>
      rw [← flatten_cut positive items] at done
      obtain ⟨batch, member, failed⟩ := mapM_error_of_flatten done
      exact .inr ⟨batch, member, fault, failed, rfl⟩
  | pooled several finished =>
    have accounts : (pool (workersFor workerCount (max batchSize 1) items) (max batchSize 1) items :
        Pool α β ε).Accounts work (jobs (max batchSize 1) items) :=
      accounts_pool (Nat.lt_of_succ_lt several)
    exact collect_of_finished positive (accounts.run _) finished

/-- Whatever turns the workers take, they come to an end, and the outcome is the same: if all items
succeed, their results in order, none missing and none twice, and otherwise the failure of the first
failing item of some batch. -/
theorem every_schedule_maps_in_order (work : α → Except ε β) (workerCount batchSize : Nat)
    (items : List α) :
    Outcome work workerCount batchSize items (parallelMap work workerCount batchSize items) ∧
    (∀ schedule, ∃ rest, ((pool workerCount (max batchSize 1) items).run work
      (schedule ++ rest)).isFinished = true) ∧
    (∀ schedule, (pool workerCount (max batchSize 1) items).Productive work schedule →
      schedule.length ≤ 2 * (cut (max batchSize 1) items).length + workerCount) ∧
    ∀ outcome, Outcome work workerCount batchSize items outcome →
      (∃ schedule, mapUnder schedule work workerCount batchSize items = outcome) ∧
      ((∀ item ∈ items, ∃ result, work item = .ok result) →
        ∃ results, outcome = .ok results ∧
          List.Forall₂ (fun item result => work item = .ok result) items results) ∧
      ((∃ item ∈ items, ∃ fault, work item = .error fault) →
        ∃ number fault, outcome = .error fault ∧
          FailsFirst work ((items.drop (number * max batchSize 1)).take (max batchSize 1)) fault) := by
  have positive : 0 < max batchSize 1 := by omega
  refine ⟨outcome_parallelMap work workerCount batchSize items, Pool.exists_finishing _,
    fun schedule productive => ?_, fun outcome reached =>
      ⟨outcome_iff.mp reached, fun each => ?_, fun ⟨item, member, fault, failed⟩ => ?_⟩⟩
  · exact Nat.le_trans (Pool.length_le_of_productive productive) (Nat.le_of_eq (turns_pool _))
  · rcases reached.done_or_failed with ⟨results, done, same⟩ | ⟨batch, member, fault, failed, -⟩
    · exact ⟨results, same, mapM_eq_ok_iff.mp done⟩
    · have inside : ∀ item ∈ batch, ∃ result, work item = .ok result := by
        intro item isItem
        refine each item ?_
        rw [← flatten_cut positive items]
        exact List.mem_flatten.mpr ⟨batch, member, isItem⟩
      obtain ⟨results, done⟩ := mapM_succeeds_iff.mpr inside
      simp [done] at failed
  · rcases reached.done_or_failed with ⟨results, done, -⟩ | ⟨batch, isBatch, first, failing, same⟩
    · obtain ⟨result, succeeded⟩ := mapM_succeeds_iff.mp ⟨results, done⟩ item member
      simp [failed] at succeeded
    · obtain ⟨number, found⟩ := List.mem_iff_getElem?.mp isBatch
      refine ⟨number, first, same, ?_⟩
      rw [← getElem?_cut positive found]
      exact mapM_eq_error_iff.mp failing

/-- Doubles numbers, except multiples of five. -/
def doubled (number : Nat) : Except Nat Nat :=
  if number % 5 = 0 then .error number else .ok (2 * number)

/-- Two workers take a batch with a failure each, and leave the last batch in the queue. The failure
that arrives first stands later among the items. -/
theorem every_schedule_maps_in_order_two_failures :
    ∃ number fault, (Except.error 10 : Except Nat (List Nat)) = .error fault ∧
      FailsFirst doubled (([1, 5, 10, 4].drop (number * 1)).take 1) fault := by
  have finished : ((pool 2 1 [1, 5, 10, 4]).run doubled [0, 1, 0, 0, 0, 1]).isFinished = true := by
    decide
  have several : 1 < workersFor 2 (max 1 1) [1, 5, 10, 4] := by decide
  have reached : Outcome doubled 2 1 [1, 5, 10, 4] (.error 10) := .pooled several finished
  exact ((every_schedule_maps_in_order doubled 2 1 [1, 5, 10, 4]).2.2.2 _ reached).2.2
    ⟨5, by decide, 5, rfl⟩

end Batch

end SpokenForm
