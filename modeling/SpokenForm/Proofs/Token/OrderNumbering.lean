import Mathlib.Data.List.Permutation
import Mathlib.Data.List.FinRange
import SpokenForm.Proofs.Count
import SpokenForm.Token.Order

/-! All orders of a list in the order of their numbers. Orders with the same first item stand in one
block; every block has as many orders as there are of the other items. -/
namespace SpokenForm

open Nat

variable {α β : Type}

/-- In a list of blocks of one size the place of an item tells its block and its place there. -/
theorem getElem?_flatMap_of_length {items : List α} {block : α → List β} {size : Nat}
    (uniform : ∀ item ∈ items, (block item).length = size) (positive : 0 < size) (index : Nat) :
    (items.flatMap block)[index]? =
      items[index / size]?.bind fun item => (block item)[index % size]? := by
  induction items generalizing index with
  | nil => simp
  | cons item items ih =>
    obtain ⟨first, others⟩ := List.forall_mem_cons.mp uniform
    rw [List.flatMap_cons]
    by_cases within : index < size
    · rw [List.getElem?_append_left (by omega), Nat.div_eq_of_lt within, Nat.mod_eq_of_lt within]
      simp
    · have behind : size ≤ index := by omega
      obtain ⟨later, rfl⟩ := Nat.exists_eq_add_of_le behind
      rw [List.getElem?_append_right (by omega), first, Nat.add_sub_cancel_left, ih others later,
        Nat.add_div_left later positive, Nat.add_mod_left]
      simp

theorem length_flatMap_of_length {items : List α} {block : α → List β} {size : Nat}
    (uniform : ∀ item ∈ items, (block item).length = size) :
    (items.flatMap block).length = items.length * size := by
  rw [List.length_flatMap, List.map_congr_left uniform]
  simp

/-- All orders of the items, whose number is `size`; orders that begin with an earlier item come
first. -/
def ordersOfSize : (size : Nat) → List α → List (List α)
  | 0, _ => [[]]
  | size + 1, items => items.zipIdx.flatMap fun (item, place) =>
    (ordersOfSize size (items.eraseIdx place)).map (item :: ·)

def orders (items : List α) : List (List α) := ordersOfSize items.length items

theorem ordersOfSize_map (f : α → β) (size : Nat) (items : List α) :
    ordersOfSize size (items.map f) = (ordersOfSize size items).map (List.map f) := by
  induction size generalizing items with
  | zero => rfl
  | succ size ih =>
    simp only [ordersOfSize, List.zipIdx_map, List.flatMap_map, List.map_flatMap, List.map_map]
    congr 1
    funext ⟨item, place⟩
    simp [List.eraseIdx_map, ih]

theorem orders_map (f : α → β) (items : List α) :
    orders (items.map f) = (orders items).map (List.map f) := by
  simp [orders, ordersOfSize_map]

theorem length_ordersOfSize {size : Nat} {items : List α} (full : items.length = size) :
    (ordersOfSize size items).length = size ! := by
  induction size generalizing items with
  | zero => rfl
  | succ size ih =>
    have uniform : ∀ entry ∈ items.zipIdx,
        ((ordersOfSize size (items.eraseIdx entry.2)).map (entry.1 :: ·)).length = size ! := by
      rintro ⟨item, place⟩ member
      have inside : place < items.length := (List.mem_zipIdx' member).1
      rw [List.length_map]
      exact ih (by rw [List.length_eraseIdx_of_lt inside]; omega)
    rw [ordersOfSize, length_flatMap_of_length uniform, List.length_zipIdx, full,
      Nat.factorial_succ]

theorem mem_ordersOfSize {size : Nat} {items order : List α} (full : items.length = size) :
    order ∈ ordersOfSize size items ↔ order.Perm items := by
  induction size generalizing items order with
  | zero =>
    obtain rfl : items = [] := List.length_eq_zero_iff.mp full
    simp [ordersOfSize]
  | succ size ih =>
    have shorter (place : Nat) (inside : place < items.length) :
        (items.eraseIdx place).length = size := by
      rw [List.length_eraseIdx_of_lt inside]
      omega
    simp only [ordersOfSize, List.mem_flatMap, List.mem_map, Prod.exists]
    constructor
    · rintro ⟨item, place, member, rest, chosen, rfl⟩
      obtain ⟨inside, same⟩ := List.mem_zipIdx' member
      have others := (ih (shorter place inside)).mp chosen
      rw [same]
      exact (others.cons _).trans (List.getElem_cons_eraseIdx_perm inside)
    · intro permuted
      cases order with
      | nil => simp [permuted.nil_eq.symm] at full
      | cons item rest =>
        have present : item ∈ items := permuted.subset (List.mem_cons_self ..)
        obtain ⟨place, inside, same⟩ := List.mem_iff_getElem.mp present
        refine ⟨item, place, ?_, rest, ?_, rfl⟩
        · exact List.mk_mem_zipIdx_iff_getElem?.mpr (by rw [List.getElem?_eq_getElem inside, same])
        · apply (ih (shorter place inside)).mpr
          subst same
          exact List.Perm.cons_inv (permuted.trans (List.getElem_cons_eraseIdx_perm inside).symm)

theorem nodup_ordersOfSize {size : Nat} {items : List α} (full : items.length = size)
    (distinct : items.Nodup) : (ordersOfSize size items).Nodup := by
  induction size generalizing items with
  | zero => simp [ordersOfSize]
  | succ size ih =>
    rw [ordersOfSize, List.nodup_flatMap]
    constructor
    · rintro ⟨item, place⟩ member
      have inside : place < items.length := (List.mem_zipIdx' member).1
      have others : (ordersOfSize size (items.eraseIdx place)).Nodup :=
        ih (by rw [List.length_eraseIdx_of_lt inside]; omega)
          (distinct.sublist (List.eraseIdx_sublist _ _))
      exact others.map fun _ _ same => (List.cons.inj same).2
    · have firsts : (items.zipIdx.map Prod.fst).Nodup := by
        rw [List.zipIdx_map_fst]
        exact distinct
      refine (List.pairwise_map.mp firsts).imp ?_
      intro first second different order inFirst inSecond
      obtain ⟨_, _, rfl⟩ := List.mem_map.mp inFirst
      obtain ⟨_, _, same⟩ := List.mem_map.mp inSecond
      exact different (List.cons.inj same).1.symm

theorem length_orders (items : List α) : (orders items).length = items.length ! :=
  length_ordersOfSize rfl

theorem mem_orders {items order : List α} : order ∈ orders items ↔ order.Perm items :=
  mem_ordersOfSize rfl

theorem nodup_orders {items : List α} (distinct : items.Nodup) : (orders items).Nodup :=
  nodup_ordersOfSize rfl distinct

/-- The numbered orders are the permutations of the places of the items, each of them once. -/
theorem orders_perm_permutations (items : List α) : (orders items).Perm items.permutations := by
  have places : (orders (List.finRange items.length)).Perm
      (List.finRange items.length).permutations := by
    refine (List.perm_ext_iff_of_nodup (nodup_orders (List.nodup_finRange _))
      (List.nodup_permutations _ (List.nodup_finRange _))).mpr fun order => ?_
    rw [mem_orders, List.mem_permutations]
  have items_eq : (List.finRange items.length).map items.get = items := List.map_get_finRange items
  have mapped := places.map (List.map items.get)
  rwa [← orders_map, List.map_permutations, items_eq] at mapped

/-- A number of an order is in one of the blocks that there are. -/
theorem block_lt {size index : Nat} (inside : index < (size + 1)!) : index / size ! < size + 1 := by
  rw [Nat.factorial_succ] at inside
  exact (Nat.div_lt_iff_lt_mul (Nat.factorial_pos size)).mpr inside

/-- Below the largest count the number of an order is its place among all orders. -/
theorem getElem?_ordersOfSize {size : Nat} {items : List α} {index : Nat}
    (full : items.length = size) (inside : index < size !) (small : index < Count.largest) :
    (ordersOfSize size items)[index]? = some (nthOrderOfSize size items index) := by
  induction size generalizing items index with
  | zero =>
    obtain rfl : index = 0 := by simpa using inside
    rfl
  | succ size ih =>
    have blockPositive : 0 < size ! := Nat.factorial_pos size
    have pickInside := block_lt inside
    have uniform : ∀ entry ∈ items.zipIdx,
        ((ordersOfSize size (items.eraseIdx entry.2)).map (entry.1 :: ·)).length = size ! := by
      rintro ⟨item, place⟩ member
      have bound : place < items.length := (List.mem_zipIdx' member).1
      rw [List.length_map]
      exact length_ordersOfSize (by rw [List.length_eraseIdx_of_lt bound]; omega)
    have unclamped : min (index / size !) (items.length - 1) = index / size ! := by omega
    rw [ordersOfSize, getElem?_flatMap_of_length uniform blockPositive]
    simp only [nthOrderOfSize, Count.factorial_eq, Count.div_saturate small,
      Count.mod_saturate small, unclamped]
    have bound : index / size ! < items.length := by omega
    have shorter : (items.eraseIdx (index / size !)).length = size := by
      rw [List.length_eraseIdx_of_lt bound]
      omega
    have later := ih shorter (Nat.mod_lt index blockPositive)
      (Nat.lt_of_le_of_lt (Nat.mod_le _ _) small)
    simp [bound, later]

theorem getElem?_orders {items : List α} {index : Nat} (inside : index < items.length !)
    (small : index < Count.largest) : (orders items)[index]? = some (nthOrder items index) :=
  getElem?_ordersOfSize rfl inside small

end SpokenForm
