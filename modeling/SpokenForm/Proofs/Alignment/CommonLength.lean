import Mathlib.Data.List.Infix
import SpokenForm.Proofs.Alignment.Script

/-! The table of common lengths. Each of its entries is the length of a longest common subsequence of
two tails, so that walking through it is walking by those lengths. -/
namespace SpokenForm.Alignment

variable {α : Type} [DecidableEq α]

def commonLength : (xs ys : List α) → Nat
  | [], _ => 0
  | _ :: _, [] => 0
  | x :: xs, y :: ys =>
    if x = y then commonLength xs ys + 1
    else max (commonLength (x :: xs) ys) (commonLength xs (y :: ys))
termination_by xs ys => xs.length + ys.length

@[simp] theorem commonLength_nil (ys : List α) : commonLength [] ys = 0 := by
  rw [commonLength]

@[simp] theorem commonLength_nil_right (xs : List α) : commonLength xs [] = 0 := by
  cases xs <;> rw [commonLength]

theorem commonLength_cons_cons (x y : α) (xs ys : List α) :
    commonLength (x :: xs) (y :: ys) =
      if x = y then commonLength xs ys + 1
      else max (commonLength (x :: xs) ys) (commonLength xs (y :: ys)) := by
  rw [commonLength]

theorem exists_common_sublist (xs ys : List α) :
    ∃ zs : List α, zs.Sublist xs ∧ zs.Sublist ys ∧ zs.length = commonLength xs ys := by
  fun_induction commonLength xs ys with
  | case1 ys => exact ⟨[], List.nil_sublist _, List.nil_sublist _, rfl⟩
  | case2 x xs => exact ⟨[], List.nil_sublist _, List.nil_sublist _, rfl⟩
  | case3 xs y ys ih =>
    obtain ⟨zs, first, second, length⟩ := ih
    exact ⟨y :: zs, first.cons_cons y, second.cons_cons y, by simp [length]⟩
  | case4 x xs y ys different right below =>
    obtain ⟨zs, first, second, length⟩ := right
    obtain ⟨zs', first', second', length'⟩ := below
    rcases Nat.le_total (commonLength (x :: xs) ys) (commonLength xs (y :: ys)) with less | more
    · exact ⟨zs', first'.cons x, second', by omega⟩
    · exact ⟨zs, first, second.cons y, by omega⟩

theorem length_le_commonLength {xs ys zs : List α} (first : zs.Sublist xs) (second : zs.Sublist ys) :
    zs.length ≤ commonLength xs ys := by
  fun_induction commonLength xs ys generalizing zs with
  | case1 ys => simp [List.sublist_nil.mp first]
  | case2 x xs => simp [List.sublist_nil.mp second]
  | case3 xs y ys ih =>
    have shorter := ih first.tail second.tail
    simp only [List.length_tail] at shorter
    omega
  | case4 x xs y ys different right below =>
    -- The heads differ, so that a common subsequence misses one of them.
    cases first with
    | cons _ first => exact Nat.le_trans (below first second) (Nat.le_max_right _ _)
    | cons_cons _ first =>
      cases second with
      | cons _ second =>
        exact Nat.le_trans (right (first.cons_cons x) second) (Nat.le_max_left _ _)
      | cons_cons _ _ => exact absurd rfl different

/-! What stands in one of the sequences only does not count. -/

theorem commonLength_le_cons (x : α) (xs ys : List α) :
    commonLength xs ys ≤ commonLength (x :: xs) ys := by
  obtain ⟨zs, first, second, length⟩ := exists_common_sublist xs ys
  exact length ▸ length_le_commonLength (first.cons x) second

theorem commonLength_cons_of_notMem {x : α} {ys : List α} (absent : x ∉ ys) (xs : List α) :
    commonLength (x :: xs) ys = commonLength xs ys := by
  obtain ⟨zs, first, second, length⟩ := exists_common_sublist (x :: xs) ys
  refine Nat.le_antisymm ?_ (commonLength_le_cons x xs ys)
  rw [← length]
  cases first with
  | cons _ first => exact length_le_commonLength first second
  | cons_cons _ _ => exact absurd (second.mem List.mem_cons_self) absent

theorem commonLength_cons_right_of_notMem {y : α} {xs : List α} (absent : y ∉ xs) (ys : List α) :
    commonLength xs (y :: ys) = commonLength xs ys := by
  obtain ⟨zs, first, second, length⟩ := exists_common_sublist xs (y :: ys)
  obtain ⟨zs', first', second', length'⟩ := exists_common_sublist xs ys
  refine Nat.le_antisymm ?_ (length' ▸ length_le_commonLength first' (second'.cons y))
  rw [← length]
  cases second with
  | cons _ second => exact length_le_commonLength first second
  | cons_cons _ _ => exact absurd (first.mem List.mem_cons_self) absent

theorem commonLength_le_length_filter (xs ys : List α) :
    commonLength xs ys ≤ (ys.filter (· ∈ xs)).length := by
  obtain ⟨zs, first, second, length⟩ := exists_common_sublist xs ys
  have kept : zs.filter (· ∈ xs) = zs :=
    List.filter_eq_self.mpr fun z member => by simpa using first.mem member
  rw [← length, ← kept]
  exact (second.filter _).length_le

/-! The table holds common lengths. -/

/-- The common lengths of a sequence with each tail of another. -/
def lengthsWith (ys xs : List α) : List Nat := ys.tails.map (commonLength xs)

theorem headD_lengthsWith (ys xs : List α) : (lengthsWith ys xs).headD 0 = commonLength xs ys := by
  cases ys <;> simp [lengthsWith]

theorem commonRow_eq (x : α) (xs ys : List α) :
    commonRow x ys (lengthsWith ys xs) = lengthsWith ys (x :: xs) := by
  induction ys with
  | nil => simp [commonRow, lengthsWith]
  | cons y ys ih =>
    have below : lengthsWith (y :: ys) xs = commonLength xs (y :: ys) :: lengthsWith ys xs := by
      simp [lengthsWith]
    rw [below, commonRow, List.tail_cons, ih, headD_lengthsWith, headD_lengthsWith, List.headD_cons,
      ← commonLength_cons_cons]
    simp [lengthsWith]

theorem commonRows_eq (ys xs : List α) : commonRows ys xs = xs.tails.map (lengthsWith ys) := by
  induction xs with
  | nil =>
    have nothing : commonLength ([] : List α) = fun _ => 0 := funext commonLength_nil
    simp [commonRows, zeroRow, lengthsWith, nothing, List.map_const']
  | cons x xs ih =>
    have first : (xs.tails.map (lengthsWith ys)).headD [] = lengthsWith ys xs := by
      cases xs <;> simp
    simp only [commonRows, ih, first, commonRow_eq, List.tails_cons, List.map_cons]

/-- The rows of the table that a walk has in front of it. -/
def rowsFrom (ys as : List α) : List (Array Nat) := (as.tails.map (lengthsWith ys)).map List.toArray

theorem entry_rowsFrom (ys as : List α) {column : Nat} (inside : column ≤ ys.length) :
    entry (rowsFrom ys as) column = commonLength as (ys.drop column) := by
  have bound : column < ys.tails.length := by
    rw [List.length_tails]
    exact Nat.lt_succ_of_le inside
  have row : (rowsFrom ys as).head? = some (lengthsWith ys as).toArray := by
    cases as <;> simp [rowsFrom]
  simp [entry, row, lengthsWith, List.getElem?_eq_getElem bound]

theorem tail_rowsFrom (ys : List α) (a : α) (as : List α) :
    (rowsFrom ys (a :: as)).tail = rowsFrom ys as := by
  simp [rowsFrom]

/-- Walks through two sequences that stand last element first. Where they differ, the step that keeps
the longer common subsequence is taken, and an insertion if both do. -/
def walk (edits : List Edit) : (as bs : List α) → List Edit
  | [], [] => edits
  | [], _ :: bs => walk (.insert :: edits) [] bs
  | _ :: as, [] => walk (.delete :: edits) as []
  | a :: as, b :: bs =>
    if a = b then walk (.equal :: edits) as bs
    else if commonLength as (b :: bs) ≤ commonLength (a :: as) bs then
      walk (.insert :: edits) (a :: as) bs
    else walk (.delete :: edits) as (b :: bs)
termination_by as bs => as.length + bs.length

theorem trace_eq_walk (edits : List Edit) {ys as bs : List α} {column : Nat}
    (behind : ys.drop column = bs) :
    trace edits (rowsFrom ys as) column as bs = walk edits as bs := by
  fun_induction walk edits as bs generalizing column with
  | case1 edits => rw [trace]
  | case2 edits b bs ih =>
    rw [trace]
    exact ih (drop_succ_of_drop behind).2.2
  | case3 edits a as ih =>
    rw [trace, tail_rowsFrom]
    exact ih behind
  | case4 edits as a bs ih =>
    rw [trace, if_pos rfl, tail_rowsFrom]
    exact ih (drop_succ_of_drop behind).2.2
  | case5 edits a as b bs different later ih =>
    obtain ⟨-, inside, rest⟩ := drop_succ_of_drop behind
    rw [trace, if_neg different, tail_rowsFrom, entry_rowsFrom ys as (Nat.le_of_lt inside), behind,
      entry_rowsFrom ys (a :: as) inside, rest, if_pos later]
    exact ih rest
  | case6 edits a as b bs different earlier ih =>
    obtain ⟨-, inside, rest⟩ := drop_succ_of_drop behind
    rw [trace, if_neg different, tail_rowsFrom, entry_rowsFrom ys as (Nat.le_of_lt inside), behind,
      entry_rowsFrom ys (a :: as) inside, rest, if_neg earlier]
    exact ih behind

theorem byTable_eq_walk (as bs : List α) : byTable as bs = walk [] as.reverse bs.reverse := by
  rw [byTable, commonRows_eq, ← rowsFrom]
  exact trace_eq_walk [] (List.drop_zero)

end SpokenForm.Alignment
