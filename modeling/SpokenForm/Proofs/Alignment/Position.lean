import SpokenForm.Proofs.Alignment.Script

/-! Places that correspond. They never go back, and lead from the front of the second sequence to its
end. -/
namespace SpokenForm.Alignment

variable {α : Type} {as bs : List α} {edits : List Edit}

theorem length_positionsFrom (script : Script as bs edits) (a b : Nat) :
    (positionsFrom a b edits).length = as.length + 1 := by
  induction script generalizing a b with
  | nil => rfl
  | equal _ _ ih | delete _ _ ih | insert _ _ ih => simp [positionsFrom, ih]

theorem le_mem_positionsFrom (edits : List Edit) (a b : Nat) :
    ∀ place ∈ positionsFrom (a + 1) b edits, b ≤ place := by
  induction edits generalizing a b with
  | nil => simp [positionsFrom]
  | cons edit edits ih =>
    cases edit with
    | equal =>
      refine List.forall_mem_cons.mpr ⟨by simp, fun place member => ?_⟩
      exact Nat.le_of_succ_le (ih (a + 1) (b + 1) place member)
    | delete => exact List.forall_mem_cons.mpr ⟨by simp, ih (a + 1) b⟩
    | insert => exact fun place member => Nat.le_of_succ_le (ih a (b + 1) place member)

theorem pairwise_positionsFrom (edits : List Edit) (a b : Nat) :
    (positionsFrom a b edits).Pairwise (· ≤ ·) := by
  induction edits generalizing a b with
  | nil => simp [positionsFrom]
  | cons edit edits ih =>
    have front : (if 0 < a then b else 0) ≤ b := by split <;> simp
    cases edit with
    | equal =>
      refine List.pairwise_cons.mpr ⟨fun place member => ?_, ih (a + 1) (b + 1)⟩
      have bound := le_mem_positionsFrom edits a (b + 1) place member
      omega
    | delete =>
      refine List.pairwise_cons.mpr ⟨fun place member => ?_, ih (a + 1) b⟩
      exact Nat.le_trans front (le_mem_positionsFrom edits a b place member)
    | insert => exact ih a (b + 1)

theorem positionsFrom_getElem?_length (script : Script as bs edits) (a b : Nat) :
    (positionsFrom a b edits)[as.length]? = some (b + bs.length) := by
  induction script generalizing a b with
  | nil => rfl
  | equal _ _ ih | delete _ _ ih | insert _ _ ih =>
    simp [positionsFrom, ih, Nat.add_assoc, Nat.add_comm 1]

theorem positionsFrom_getElem?_zero (script : Script as bs edits) (nonempty : as ≠ []) (b : Nat) :
    (positionsFrom 0 b edits)[0]? = some 0 := by
  induction script generalizing b with
  | nil => exact absurd rfl nonempty
  | equal _ _ _ | delete _ _ _ => rfl
  | insert _ _ ih => exact ih nonempty (b + 1)

/-- Places in a sequence of `total` elements for those of a sequence of `count` elements, its end
included. -/
structure Places (places : List Nat) (count total : Nat) : Prop where
  length : places.length = count + 1
  forward : places.Pairwise (· ≤ ·)
  last : places[count]? = some total

theorem places_positionMap (script : Script as bs edits) :
    Places (positionMap edits) as.length bs.length := by
  refine ⟨length_positionsFrom script 0 0, pairwise_positionsFrom edits 0 0, ?_⟩
  rw [positionMap, positionsFrom_getElem?_length script, Nat.zero_add]

namespace Places

variable {places : List Nat} {count total place later : Nat}

theorem getElem? (isMap : Places places count total) (inside : place ≤ count) :
    places[place]? = some (places.getD place 0) := by
  have bound : place < places.length := by
    rw [isMap.length]
    exact Nat.lt_succ_of_le inside
  rw [List.getD_eq_getElem?_getD, List.getElem?_eq_getElem bound, Option.getD_some]

theorem getD_last (isMap : Places places count total) : places.getD count 0 = total := by
  rw [List.getD_eq_getElem?_getD, isMap.last, Option.getD_some]

theorem getD_le_getD (isMap : Places places count total) (order : place ≤ later)
    (inside : later ≤ count) : places.getD place 0 ≤ places.getD later 0 := by
  rcases Nat.eq_or_lt_of_le order with rfl | less
  · exact Nat.le_refl _
  · have bound : later < places.length := by
      rw [isMap.length]
      exact Nat.lt_succ_of_le inside
    have first := List.getElem?_eq_getElem (Nat.lt_trans less bound)
    have second := List.getElem?_eq_getElem bound
    simp only [List.getD_eq_getElem?_getD, first, second, Option.getD_some]
    exact List.pairwise_iff_getElem.mp isMap.forward place later _ bound less

theorem getD_le (isMap : Places places count total) (inside : place ≤ count) :
    places.getD place 0 ≤ total :=
  isMap.getD_last ▸ isMap.getD_le_getD inside (Nat.le_refl count)

end Places

end SpokenForm.Alignment
