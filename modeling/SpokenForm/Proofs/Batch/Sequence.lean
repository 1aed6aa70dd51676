import Mathlib.Data.List.Forall2
import SpokenForm.Batch

/-! Work on items one after another up to the first failure, and the batches that items are cut
into: consecutive stretches of one size, which make up the items. -/
namespace SpokenForm.Batch

variable {α β ε : Type} {work : α → Except ε β} {items : List α}

theorem mapM_eq_ok_iff {results : List β} :
    items.mapM work = .ok results ↔
      List.Forall₂ (fun item result => work item = .ok result) items results := by
  induction items generalizing results with
  | nil => cases results <;> simp [pure, Except.pure]
  | cons item items ih =>
    rw [List.mapM_cons]
    cases first : work item with
    | error fault => cases results <;> simp [bind, Except.bind, first]
    | ok result =>
      cases others : items.mapM work with
      | error fault => cases results <;> simp [bind, Except.bind, first, others, ← ih]
      | ok later => cases results <;> simp [bind, Except.bind, pure, Except.pure, first, others, ← ih]

/-- Some item fails this way, and none in front of it fails. -/
def FailsFirst (work : α → Except ε β) (items : List α) (fault : ε) : Prop :=
  ∃ before item after, items = before ++ item :: after ∧
    (∀ earlier ∈ before, ∃ result, work earlier = .ok result) ∧ work item = .error fault

theorem failsFirst_cons {item : α} {fault : ε} :
    FailsFirst work (item :: items) fault ↔
      work item = .error fault ∨ ((∃ result, work item = .ok result) ∧ FailsFirst work items fault) := by
  constructor
  · rintro ⟨before, failing, after, same, succeed, failed⟩
    cases before with
    | nil =>
      obtain ⟨rfl, rfl⟩ := List.cons.inj same
      exact .inl failed
    | cons first before =>
      obtain ⟨rfl, rfl⟩ := List.cons.inj same
      obtain ⟨head, others⟩ := List.forall_mem_cons.mp succeed
      exact .inr ⟨head, before, failing, after, rfl, others, failed⟩
  · rintro (failed | ⟨head, before, failing, after, rfl, succeed, failed⟩)
    · exact ⟨[], item, items, rfl, by simp, failed⟩
    · exact ⟨item :: before, failing, after, rfl, List.forall_mem_cons.mpr ⟨head, succeed⟩, failed⟩

theorem mapM_eq_error_iff {fault : ε} :
    items.mapM work = .error fault ↔ FailsFirst work items fault := by
  induction items with
  | nil => simp [FailsFirst, pure, Except.pure]
  | cons item items ih =>
    rw [List.mapM_cons, failsFirst_cons, ← ih]
    cases first : work item with
    | error other => simp [bind, Except.bind]
    | ok result =>
      cases others : items.mapM work <;> simp [bind, Except.bind, pure, Except.pure]

theorem mapM_succeeds_iff :
    (∃ results, items.mapM work = .ok results) ↔
      ∀ item ∈ items, ∃ result, work item = .ok result := by
  constructor
  · rintro ⟨results, done⟩
    have related := mapM_eq_ok_iff.mp done
    clear done
    induction related with
    | nil => simp
    | cons succeeded _ ih => exact List.forall_mem_cons.mpr ⟨⟨_, succeeded⟩, ih⟩
  · intro each
    cases done : items.mapM work with
    | ok results => exact ⟨results, rfl⟩
    | error fault =>
      obtain ⟨before, item, after, rfl, -, failed⟩ := mapM_eq_error_iff.mp done
      obtain ⟨result, succeeded⟩ := each item (by simp)
      simp [failed] at succeeded

/-- What fails in a row of batches fails in one of them. -/
theorem mapM_error_of_flatten {batches : List (List α)} {fault : ε}
    (failed : batches.flatten.mapM work = .error fault) :
    ∃ batch ∈ batches, batch.mapM work = .error fault := by
  induction batches with
  | nil => simp [pure, Except.pure] at failed
  | cons batch batches ih =>
    rw [List.flatten_cons, List.mapM_append] at failed
    cases first : batch.mapM work with
    | error other =>
      simp only [first, bind, Except.bind, Except.error.injEq] at failed
      exact ⟨batch, List.mem_cons_self, failed ▸ first⟩
    | ok results =>
      cases others : batches.flatten.mapM work with
      | ok later => simp [first, others, bind, Except.bind, pure, Except.pure] at failed
      | error other =>
        simp only [first, others, bind, Except.bind, Except.error.injEq] at failed
        obtain ⟨failing, member, same⟩ := ih (failed ▸ others)
        exact ⟨failing, List.mem_cons_of_mem _ member, same⟩

/-! Batches are consecutive stretches. -/

variable {size : Nat} (positive : 0 < size)
include positive

/-- The open batch takes as many items as fit, and what is left is cut anew. -/
theorem cutFrom_eq {batch : List α} (begun : batch ≠ []) (room : Nat) (items : List α) :
    cutFrom size room batch items =
      (batch.reverse ++ items.take room) :: cut size (items.drop room) := by
  induction items generalizing room batch with
  | nil => cases room <;> simp [cutFrom, cut, begun]
  | cons item items ih =>
    cases room with
    | zero =>
      obtain ⟨rest, rfl⟩ := Nat.exists_eq_succ_of_ne_zero (Nat.ne_of_gt positive)
      simp [cutFrom, cut]
    | succ room => simp [cutFrom, ih (List.cons_ne_nil item batch)]

theorem cut_cons (item : α) (items : List α) :
    cut size (item :: items) =
      (item :: items).take size :: cut size ((item :: items).drop size) := by
  obtain ⟨rest, rfl⟩ := Nat.exists_eq_succ_of_ne_zero (Nat.ne_of_gt positive)
  rw [cut, cutFrom, cutFrom_eq positive (List.cons_ne_nil item [])]
  simp

theorem flatten_cut (items : List α) : (cut size items).flatten = items := by
  induction same : items.length using Nat.strongRecOn generalizing items with
  | _ length ih =>
    cases items with
    | nil => rfl
    | cons item items =>
      have shorter : ((item :: items).drop size).length < length := by
        rw [List.length_drop, ← same, List.length_cons]
        omega
      rw [cut_cons positive, List.flatten_cons, ih _ shorter _ rfl, List.take_append_drop]

theorem getElem?_cut {number : Nat} {batch : List α}
    (found : (cut size items)[number]? = some batch) :
    batch = (items.drop (number * size)).take size := by
  induction number generalizing items with
  | zero =>
    cases items with
    | nil => simp [cut, cutFrom] at found
    | cons item items => simpa [cut_cons positive, eq_comm] using found
  | succ number ih =>
    cases items with
    | nil => simp [cut, cutFrom] at found
    | cons item items =>
      rw [cut_cons positive, List.getElem?_cons_succ] at found
      rw [ih found, List.drop_drop, Nat.succ_mul, Nat.add_comm]

end SpokenForm.Batch
