import Mathlib.Data.List.Basic
import SpokenForm.Alignment

/-! Alignments as edit scripts: however the steps are chosen, they lead from one sequence to the other,
and keep only what is equal. -/
namespace SpokenForm.Alignment

variable {α : Type} {as bs : List α} {edits : List Edit}

theorem drop_succ_of_drop {items rest : List α} {place : Nat} {item : α}
    (behind : items.drop place = item :: rest) :
    items[place]? = some item ∧ place < items.length ∧ items.drop (place + 1) = rest := by
  have found : items[place]? = some item := by
    rw [← List.head?_drop, behind]
    rfl
  refine ⟨found, (List.getElem?_eq_some_iff.mp found).1, ?_⟩
  rw [← List.tail_drop, behind]
  rfl

/-- The steps lead from one sequence to another: read from the left, they use up the first and spell
the second. -/
inductive Script : List α → List α → List Edit → Prop where
  | nil : Script [] [] []
  | equal (shared : α) {as bs : List α} {edits : List Edit} (rest : Script as bs edits) :
      Script (shared :: as) (shared :: bs) (.equal :: edits)
  | delete (dropped : α) {as bs : List α} {edits : List Edit} (rest : Script as bs edits) :
      Script (dropped :: as) bs (.delete :: edits)
  | insert (added : α) {as bs : List α} {edits : List Edit} (rest : Script as bs edits) :
      Script as (added :: bs) (.insert :: edits)

namespace Script

theorem append {moreAs moreBs : List α} {moreEdits : List Edit} (first : Script as bs edits)
    (second : Script moreAs moreBs moreEdits) :
    Script (as ++ moreAs) (bs ++ moreBs) (edits ++ moreEdits) := by
  induction first with
  | nil => exact second
  | equal shared _ ih => exact .equal shared ih
  | delete dropped _ ih => exact .delete dropped ih
  | insert added _ ih => exact .insert added ih

theorem same (as : List α) : Script as as (List.replicate as.length .equal) := by
  induction as with
  | nil => exact .nil
  | cons shared as ih => exact .equal shared ih

theorem deleted (as : List α) : Script as [] (List.replicate as.length .delete) := by
  induction as with
  | nil => exact .nil
  | cons dropped as ih => exact .delete dropped ih

theorem inserted (bs : List α) : Script [] bs (List.replicate bs.length .insert) := by
  induction bs with
  | nil => exact .nil
  | cons added bs ih => exact .insert added ih

end Script

variable [DecidableEq α]

/-- Whatever the table says, walking back from the ends puts valid steps in front of valid steps. -/
theorem script_trace (rows : List (Array Nat)) (column : Nat) {front frontB : List α}
    (behind : Script as bs edits) :
    Script (front.reverse ++ as) (frontB.reverse ++ bs) (trace edits rows column front frontB) := by
  fun_induction trace edits rows column front frontB generalizing as bs with
  | case1 edits rows column => exact behind
  | case2 edits rows column b frontB ih => simpa using ih (.insert b behind)
  | case3 edits rows column a front ih => simpa using ih (.delete a behind)
  | case4 edits rows column front a frontB ih => simpa using ih (.equal a behind)
  | case5 edits rows column a front b frontB different later ih => simpa using ih (.insert b behind)
  | case6 edits rows column a front b frontB different earlier ih => simpa using ih (.delete a behind)

theorem script_byTable (as bs : List α) : Script as bs (byTable as bs) := by
  have whole : Script (as.reverse.reverse ++ []) (bs.reverse.reverse ++ []) (byTable as bs) :=
    script_trace _ 0 .nil
  simpa using whole

theorem commonPrefix_le (as bs : List α) :
    commonPrefix as bs ≤ as.length ∧ commonPrefix as bs ≤ bs.length := by
  fun_induction commonPrefix as bs with
  | case1 a as bs ih => simp [ih]
  | case2 => simp
  | case3 => simp

theorem take_commonPrefix (as bs : List α) :
    as.take (commonPrefix as bs) = bs.take (commonPrefix as bs) := by
  fun_induction commonPrefix as bs with
  | case1 a as bs ih => simp [ih]
  | case2 => simp
  | case3 => simp

theorem exists_common_front (as bs : List α) :
    ∃ front restA restB, as = front ++ restA ∧ bs = front ++ restB ∧
      front.length = commonPrefix as bs := by
  refine ⟨as.take (commonPrefix as bs), as.drop (commonPrefix as bs), bs.drop (commonPrefix as bs),
    (List.take_append_drop ..).symm, ?_, List.length_take_of_le (commonPrefix_le as bs).1⟩
  rw [take_commonPrefix, List.take_append_drop]

theorem exists_common_back (as bs : List α) :
    ∃ restA restB back, as = restA ++ back ∧ bs = restB ++ back ∧
      back.length = commonPrefix as.reverse bs.reverse := by
  obtain ⟨front, restA, restB, sameA, sameB, length⟩ := exists_common_front as.reverse bs.reverse
  refine ⟨restA.reverse, restB.reverse, front.reverse, ?_, ?_, by simpa using length⟩
  · simpa using congrArg List.reverse sameA
  · simpa using congrArg List.reverse sameB

/-- Two sequences fall into a common front, stretches that take each other's place, and a common
end. -/
theorem script_byEnds (as bs : List α) : Script as bs (byEnds as bs) := by
  obtain ⟨front, restA, restB, sameA, sameB, frontLength⟩ := exists_common_front as bs
  have behindA : as.drop (commonPrefix as bs) = restA := by
    rw [← frontLength, sameA, List.drop_left]
  have behindB : bs.drop (commonPrefix as bs) = restB := by
    rw [← frontLength, sameB, List.drop_left]
  obtain ⟨changedA, changedB, back, backA, backB, backLength⟩ := exists_common_back restA restB
  have steps : byEnds as bs = List.replicate front.length .equal ++
      List.replicate changedA.length .delete ++ List.replicate changedB.length .insert ++
        List.replicate back.length .equal := by
    have lengthA : as.length - front.length - back.length = changedA.length := by
      rw [sameA, backA]
      simp
    have lengthB : bs.length - front.length - back.length = changedB.length := by
      rw [sameB, backB]
      simp
    rw [byEnds, behindA, behindB, ← frontLength, ← backLength, lengthA, lengthB]
  have script := (((Script.same front).append (.deleted changedA)).append
    (.inserted changedB)).append (.same back)
  rw [steps, sameA, sameB, backA, backB]
  simpa using script

theorem script_align (as bs : List α) : Script as bs (align as bs) := by
  unfold align
  split
  · exact script_byEnds as bs
  · exact script_byTable as bs

end SpokenForm.Alignment
