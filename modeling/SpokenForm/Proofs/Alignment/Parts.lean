import Mathlib.Data.List.Chain
import SpokenForm.Proofs.Alignment.CommonLength
import SpokenForm.Proofs.Alignment.Region

/-! A sequence aligned with the parts of its elements. An element that is its own only part is kept; any
other is dropped, and its parts are inserted behind it. -/
namespace SpokenForm.Alignment

variable {α : Type} {parts : α → List α} {item : α} {items : List α} {edits : List Edit}

def partsOf (parts : α → List α) (items : List α) : List α := items.flatMap parts

/-- Elements can be told from the parts of items: one that stands among them is its own only part. -/
def Apart (parts : α → List α) (elements items : List α) : Prop :=
  ∀ item ∈ items, ∀ element ∈ elements, element ∈ parts item →
    item = element ∧ parts item = [item]

/-- An element that gives way to its parts may only be followed by one that is kept. -/
def MayFollow (parts : α → List α) (item next : α) : Prop :=
  parts item = [] ∨ parts item = [item] ∨ parts next = [next]

@[simp] theorem partsOf_nil (parts : α → List α) : partsOf parts [] = [] := rfl

@[simp] theorem partsOf_cons (parts : α → List α) (item : α) (items : List α) :
    partsOf parts (item :: items) = parts item ++ partsOf parts items := by
  simp [partsOf]

@[simp] theorem partsOf_append (parts : α → List α) (items more : List α) :
    partsOf parts (items ++ more) = partsOf parts items ++ partsOf parts more := by
  simp [partsOf]

theorem Apart.tail (apart : Apart parts (item :: items) (item :: items)) : Apart parts items items :=
  fun one inside other otherInside =>
    apart one (List.mem_cons_of_mem _ inside) other (List.mem_cons_of_mem _ otherInside)

theorem Apart.notMem_partsOf (apart : Apart parts items items) (inside : item ∈ items)
    (loose : parts item ≠ [item]) : item ∉ partsOf parts items := by
  intro member
  obtain ⟨other, otherInside, among⟩ := List.mem_flatMap.mp member
  obtain ⟨rfl, own⟩ := apart other otherInside item inside among
  exact loose own

theorem Apart.part_notMem (apart : Apart parts items items) (inside : item ∈ items)
    (loose : parts item ≠ [item]) : ∀ part ∈ parts item, part ∉ items :=
  fun part among partInside => loose (apart item inside part partInside among).2

/-- The last part belongs to an element that is kept, as far as a loose one stands behind it. -/
theorem mem_of_head?_partsOf (loose : parts item ≠ [item])
    (settled : (item :: items).IsChain (flip (MayFollow parts))) :
    ∀ last ∈ (partsOf parts items).head?, last ∈ items := by
  induction items generalizing item with
  | nil => simp
  | cons before items ih =>
    obtain ⟨link, settled⟩ := List.isChain_cons_cons.mp settled
    intro last found
    rcases link with empty | own | followed
    -- An element without parts is loose as well, and the last part stands in front of it.
    · have nothing : parts before ≠ [before] := by simp [empty]
      rw [partsOf_cons, empty, List.nil_append] at found
      exact List.mem_cons_of_mem _ (ih nothing settled last found)
    · obtain rfl : before = last := by simpa [own] using found
      exact List.mem_cons_self
    · exact absurd followed loose

theorem slice_partsOf {start stop : Nat} (order : start ≤ stop) :
    Span.slice (partsOf parts items) (partsOf parts (items.take start)).length
      (partsOf parts (items.take stop)).length = partsOf parts (Span.slice items start stop) := by
  have front : items.take stop = items.take start ++ Span.slice items start stop := by
    rw [Span.slice, ← List.take_add, Nat.add_sub_cancel' order]
  have whole : partsOf parts items = partsOf parts (items.take start) ++
      (partsOf parts (Span.slice items start stop) ++ partsOf parts (items.drop stop)) := by
    rw [← partsOf_append, ← partsOf_append, ← List.append_assoc, ← front, List.take_append_drop]
  rw [front, whole, Span.slice, List.drop_left, partsOf_append, List.length_append,
    Nat.add_sub_cancel_left, List.take_left]

variable [DecidableEq α]

/-- The steps over an element and its parts. -/
def partSteps (parts : α → List α) (item : α) : List Edit :=
  if parts item = [item] then [.equal]
  else .delete :: List.replicate (parts item).length .insert

/-! Walking, where elements and parts stand last first. -/

theorem walk_inserts {more : List α} (absent : ∀ other ∈ more, other ∉ item :: items)
    (rest : List α) (edits : List Edit) :
    walk edits (item :: items) (more ++ rest) =
      walk (List.replicate more.length .insert ++ edits) (item :: items) rest := by
  induction more generalizing edits with
  | nil => rfl
  | cons other more ih =>
    obtain ⟨here, later⟩ := List.forall_mem_cons.mp absent
    obtain ⟨different, notBelow⟩ := List.ne_and_not_mem_of_not_mem_cons here
    have noLoss : commonLength items (other :: (more ++ rest)) ≤
        commonLength (item :: items) (more ++ rest) := by
      rw [commonLength_cons_right_of_notMem notBelow]
      exact commonLength_le_cons item items _
    rw [List.cons_append, walk, if_neg (Ne.symm different), if_pos noLoss, ih later]
    simp [List.replicate_succ']

theorem filter_partsOf_sublist {elements : List α} (apart : Apart parts elements items) :
    ((partsOf parts items).filter (· ∈ elements)).Sublist items := by
  induction items with
  | nil => exact List.nil_sublist _
  | cons item items ih =>
    obtain ⟨here, later⟩ := List.forall_mem_cons.mp apart
    have first : ((parts item).filter (· ∈ elements)).Sublist [item] := by
      by_cases own : parts item = [item]
      · rw [own]
        exact List.filter_sublist
      · have nothing : (parts item).filter (· ∈ elements) = [] :=
          List.filter_eq_nil_iff.mpr fun other among inside =>
            own (here other (by simpa using inside) among).2
        rw [nothing]
        exact List.nil_sublist _
    rw [partsOf_cons, List.filter_append]
    exact first.append (ih later)

/-- Every element that is kept stands in the longest common subsequence, so that inserting the last
part in front of a loose element would lose one. -/
theorem commonLength_lt_of_loose (apart : Apart parts (item :: items) (item :: items)) (loose : parts item ≠ [item])
    {last : α} {front : List α} (found : partsOf parts items = last :: front) (inside : last ∈ items) :
    commonLength (item :: items) front < commonLength items (last :: front) := by
  have absent : item ∉ front := by
    have whole := apart.notMem_partsOf List.mem_cons_self loose
    rw [partsOf_cons, found] at whole
    exact fun member => whole (by simp [member])
  have common : ((last :: front).filter (· ∈ items)).Sublist items :=
    found ▸ filter_partsOf_sublist apart.tail
  calc commonLength (item :: items) front
      = commonLength items front := commonLength_cons_of_notMem absent items
    _ ≤ (front.filter (· ∈ items)).length := commonLength_le_length_filter items front
    _ < ((last :: front).filter (· ∈ items)).length := by simp [inside]
    _ ≤ commonLength items (last :: front) := length_le_commonLength common List.filter_sublist

theorem walk_delete (apart : Apart parts (item :: items) (item :: items)) (loose : parts item ≠ [item])
    (settled : (item :: items).IsChain (flip (MayFollow parts))) (edits : List Edit) :
    walk edits (item :: items) (partsOf parts items) =
      walk (.delete :: edits) items (partsOf parts items) := by
  cases found : partsOf parts items with
  | nil => rw [walk]
  | cons last front =>
    have inside := mem_of_head?_partsOf loose settled last (by rw [found]; rfl)
    have different : item ≠ last := by
      rintro rfl
      exact apart.notMem_partsOf List.mem_cons_self loose (by simp [found])
    have less := commonLength_lt_of_loose apart loose found inside
    rw [walk, if_neg different, if_neg (Nat.not_le.mpr less)]

theorem walk_partsOf (apart : Apart parts items items)
    (settled : items.IsChain (flip (MayFollow parts))) (edits : List Edit) :
    walk edits items (partsOf parts items) = items.reverse.flatMap (partSteps parts) ++ edits := by
  induction items generalizing edits with
  | nil => rw [partsOf_nil, walk]; rfl
  | cons item items ih =>
    rw [partsOf_cons]
    by_cases own : parts item = [item]
    · rw [own, List.singleton_append, walk, if_pos rfl, ih apart.tail settled.tail]
      simp [partSteps, own]
    · -- None of its parts is an element, so that all of them are passed before it is dropped.
      rw [walk_inserts (apart.part_notMem List.mem_cons_self own), walk_delete apart own settled,
        ih apart.tail settled.tail]
      simp [partSteps, own]

theorem byTable_partsOf (apart : Apart parts items items) (settled : items.IsChain (MayFollow parts)) :
    byTable items (partsOf parts items) = items.flatMap (partSteps parts) := by
  -- The walk goes from the ends, where the parts of each element stand last first as well.
  let back (item : α) : List α := (parts item).reverse
  have own (item : α) : back item = [item] ↔ parts item = [item] := List.reverse_eq_cons_iff
  have steps : partSteps back = partSteps parts := by
    funext item
    simp [partSteps, own, back]
  have follows : MayFollow back = MayFollow parts := by
    funext item next
    simp [MayFollow, own, back]
  have apartBack : Apart back items.reverse items.reverse := by
    simpa [Apart, back, own] using apart
  have settledBack : items.reverse.IsChain (flip (MayFollow back)) := by
    rw [follows, List.isChain_reverse]
    exact settled
  have reversed : (partsOf parts items).reverse = partsOf back items.reverse := by
    simp [partsOf, List.reverse_flatMap, back, Function.comp_def]
  rw [byTable_eq_walk, reversed, walk_partsOf apartBack settledBack, steps, List.reverse_reverse,
    List.append_nil]

theorem commonPrefix_self (items : List α) : commonPrefix items items = items.length := by
  induction items with
  | nil => rfl
  | cons item items ih => simp [commonPrefix, ih]

theorem byEnds_self (items : List α) : byEnds items items = List.replicate items.length .equal := by
  simp [byEnds, commonPrefix_self]

/-- The steps over each element of a sequence that is aligned with the parts of its elements. Beyond the
table every element has to be its own only part. -/
theorem align_partsOf (apart : Apart parts items items) (settled : items.IsChain (MayFollow parts))
    (bounded : (items.length ≤ tableLimit ∧ (partsOf parts items).length ≤ tableLimit) ∨
      ∀ item ∈ items, parts item = [item]) :
    align items (partsOf parts items) = items.flatMap (partSteps parts) := by
  unfold align
  split
  · -- Where the table is not used, both sequences are one and the same.
    rename_i long
    have own := bounded.resolve_left (by omega)
    have same : partsOf parts items = items := by
      rw [partsOf, List.flatMap_congr own, List.flatMap_singleton']
    have kept : items.flatMap (partSteps parts) = items.map fun _ => .equal := by
      rw [← List.flatMap_pure_eq_map]
      exact List.flatMap_congr fun item inside => by simp [partSteps, own item inside]
    rw [same, byEnds_self, kept, List.map_const']
  · exact byTable_partsOf apart settled

/-! Places among the parts. -/

theorem positionsFrom_partSteps (item : α) (a b : Nat) (edits : List Edit) :
    positionsFrom a b (partSteps parts item ++ edits) =
      (if 0 < a then b else 0) :: positionsFrom (a + 1) (b + (parts item).length) edits := by
  have inserts (count a b : Nat) : positionsFrom a b (List.replicate count .insert ++ edits) =
      positionsFrom a (b + count) edits := by
    induction count generalizing b with
    | zero => rfl
    | succ count ih =>
      rw [List.replicate_succ, List.cons_append, positionsFrom, ih, Nat.add_assoc, Nat.add_comm 1]
  by_cases own : parts item = [item]
  · simp [partSteps, own, positionsFrom]
  · simp [partSteps, own, positionsFrom, inserts]

/-- In front of a place stand the parts of the elements in front of it. -/
theorem positionsFrom_partsOf {a b place : Nat} (begun : 0 < a ∨ b = 0) (inside : place ≤ items.length) :
    (positionsFrom a b (items.flatMap (partSteps parts)))[place]? =
      some (b + (partsOf parts (items.take place)).length) := by
  induction items generalizing a b place with
  | nil =>
    obtain rfl : place = 0 := by simpa using inside
    rfl
  | cons item items ih =>
    rw [List.flatMap_cons, positionsFrom_partSteps]
    cases place with
    | zero =>
      have front : (if 0 < a then b else 0) = b := by
        split <;> omega
      simp [front]
    | succ place =>
      rw [List.getElem?_cons_succ, ih (.inl (Nat.succ_pos a)) (Nat.le_of_succ_le_succ inside),
        List.take_succ_cons, partsOf_cons, List.length_append, Nat.add_assoc]

end SpokenForm.Alignment
