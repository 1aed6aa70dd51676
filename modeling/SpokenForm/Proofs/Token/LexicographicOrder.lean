import Mathlib.Data.List.Lex
import SpokenForm.Proofs.Token.MemberSerializations
import SpokenForm.Proofs.Token.OrderNumbering

/-! The numbers of orders follow the lexicographic order. The list of all orders is ascending if the
items are, and so it is the sorted list of their permutations; and a number of the list never asks for
an item behind the last one. -/
namespace SpokenForm

open Nat

variable {α : Type}

theorem pairwise_ordersOfSize [LinearOrder α] {size : Nat} {items : List α}
    (full : items.length = size) (ascending : items.Pairwise (· < ·)) :
    (ordersOfSize size items).Pairwise (· < ·) := by
  induction size generalizing items with
  | zero => exact List.pairwise_singleton ..
  | succ size ih =>
    rw [ordersOfSize, List.pairwise_flatMap]
    constructor
    · -- one block: all orders begin with the same item
      rintro ⟨item, place⟩ member
      have inside : place < items.length := (List.mem_zipIdx' member).1
      have others : (ordersOfSize size (items.eraseIdx place)).Pairwise (· < ·) := by
        apply ih
        · rw [List.length_eraseIdx_of_lt inside]
          omega
        · exact ascending.sublist (List.eraseIdx_sublist _ _)
      apply List.pairwise_map.mpr
      exact others.imp fun less => List.cons_lt_cons_iff.mpr (.inr ⟨rfl, less⟩)
    · -- two blocks: the items that their orders begin with ascend
      have firsts : (items.zipIdx.map Prod.fst).Pairwise (· < ·) := by
        rw [List.zipIdx_map_fst]
        exact ascending
      apply (List.pairwise_map.mp firsts).imp
      intro first second less order inFirst other inSecond
      obtain ⟨_, _, rfl⟩ := List.mem_map.mp inFirst
      obtain ⟨_, _, rfl⟩ := List.mem_map.mp inSecond
      exact List.cons_lt_cons_iff.mpr (.inl less)

/-- The permutations of the places of so many items, in lexicographic order. -/
def sortedPermutations (length : Nat) : List (List Nat) :=
  (List.range length).permutations.mergeSort (· ≤ ·)

theorem sortedPermutations_eq (length : Nat) :
    sortedPermutations length = orders (List.range length) := by
  have sorted : (sortedPermutations length).Pairwise (· ≤ ·) := by
    have ranked := @List.pairwise_mergeSort _ (fun a b : List Nat => decide (a ≤ b))
      (by simpa using fun a b c => le_trans) (by simpa using le_total)
      (List.range length).permutations
    simpa [sortedPermutations] using ranked
  have ascending : (orders (List.range length)).Pairwise (· ≤ ·) :=
    (pairwise_ordersOfSize rfl List.pairwise_lt_range).imp le_of_lt
  have same : (sortedPermutations length).Perm (orders (List.range length)) :=
    (List.mergeSort_perm ..).trans (orders_perm_permutations _).symm
  exact same.eq_of_pairwise (fun a b _ _ => le_antisymm) sorted ascending

/-- The order with a given number, where every quotient is taken as it is: behind the last item there is
none to be had. -/
def unclampedOrder? : (size : Nat) → (items : List α) → (index : Nat) → Option (List α)
  | 0, _, _ => some []
  | size + 1, items, index => do
    let block := Count.factorial size
    let item ← items[index / block]?
    let order ← unclampedOrder? size (items.eraseIdx (index / block)) (index % block)
    return item :: order

/-- Where blocks are cut off, a number with a count is in the first of them. -/
theorem unclampedOrder?_eq {size : Nat} {items : List α} {index : Nat} (full : items.length = size)
    (inside : index < size !) (small : index < Count.largest) :
    unclampedOrder? size items index = some (nthOrderOfSize size items index) := by
  induction size generalizing items index with
  | zero => rfl
  | succ size ih =>
    have bound : index / size ! < items.length := by
      rw [full]
      exact block_lt inside
    have unclamped : min (index / size !) (items.length - 1) = index / size ! := by omega
    have shorter : (items.eraseIdx (index / size !)).length = size := by
      rw [List.length_eraseIdx_of_lt bound]
      omega
    have later := ih shorter (Nat.mod_lt index (Nat.factorial_pos size))
      (Nat.lt_of_le_of_lt (Nat.mod_le _ _) small)
    simp [unclampedOrder?, nthOrderOfSize, Count.factorial_eq, Count.div_saturate small,
      Count.mod_saturate small, unclamped, bound, later]

/-- Below the largest count the numbers of orders follow the lexicographic order, and no number asks for
an item behind the last one. -/
theorem nthOrder_lexicographic {length index : Nat} (inside : index < min length ! Count.largest) :
    (sortedPermutations length)[index]? = some (nthOrder (List.range length) index) ∧
      unclampedOrder? length (List.range length) index = some (nthOrder (List.range length) index) ∧
        nthOrder (List.range length) 0 = List.range length := by
  obtain ⟨within, small⟩ := Nat.lt_min.mp inside
  have full : (List.range length).length = length := List.length_range
  have listed : index < (List.range length).length ! := by
    rw [full]
    exact within
  refine ⟨?_, ?_, nthOrder_zero _⟩
  · rw [sortedPermutations_eq]
    exact getElem?_orders listed small
  · rw [nthOrder, full]
    exact unclampedOrder?_eq full within small

/-- Twenty-two items have more orders than there are counts; this is the last order with a number. -/
theorem nthOrder_lexicographic_twenty_two :
    18446744073709551614 < min 22 ! Count.largest ∧
      (sortedPermutations 22)[18446744073709551614]? =
        some [0, 8, 13, 15, 5, 4, 21, 6, 10, 7, 12, 1, 19, 11, 17, 2, 3, 9, 18, 16, 14, 20] ∧
      unclampedOrder? 22 (List.range 22) 18446744073709551614 =
        some [0, 8, 13, 15, 5, 4, 21, 6, 10, 7, 12, 1, 19, 11, 17, 2, 3, 9, 18, 16, 14, 20] ∧
      nthOrder (List.range 22) 0 = List.range 22 := by
  have inside : 18446744073709551614 < min 22 ! Count.largest := by decide
  have order : nthOrder (List.range 22) 18446744073709551614 =
      [0, 8, 13, 15, 5, 4, 21, 6, 10, 7, 12, 1, 19, 11, 17, 2, 3, 9, 18, 16, 14, 20] := by decide
  rw [← order]
  exact ⟨inside, nthOrder_lexicographic inside⟩

end SpokenForm
