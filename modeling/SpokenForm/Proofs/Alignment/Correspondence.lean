import Mathlib.Data.List.Chain
import SpokenForm.Proofs.Alignment.CommonLength
import SpokenForm.Proofs.Alignment.Position

/-! Regions and places. In every changed stretch an alignment drops before it inserts, so that the
places of a stretch of the first sequence are the ends of the stretch that takes its place. -/
namespace SpokenForm.Alignment

variable {α : Type} {as bs : List α} {edits : List Edit}

/-- Where something is inserted, nothing is dropped next. -/
def DropsFirst (edits : List Edit) : Prop :=
  edits.IsChain fun edit next => ¬ (edit = .insert ∧ next = .delete)

theorem dropsFirst_cons {edit : Edit} :
    DropsFirst (edit :: edits) ↔
      (edit = .insert → edits.head? ≠ some .delete) ∧ DropsFirst edits := by
  rw [DropsFirst, List.isChain_cons]
  apply and_congr_left
  intro _
  constructor
  · intro link same next
    exact link .delete next ⟨same, rfl⟩
  · rintro link next found ⟨same, rfl⟩
    exact link same found

theorem DropsFirst.tail {edit : Edit} (first : DropsFirst (edit :: edits)) : DropsFirst edits :=
  (dropsFirst_cons.mp first).2

theorem DropsFirst.not_insert_delete (first : DropsFirst edits) :
    ¬ [Edit.insert, Edit.delete] <:+: edits := by
  rintro ⟨front, back, rfl⟩
  obtain ⟨upto, -, -⟩ := List.isChain_append.mp first
  obtain ⟨-, pair, -⟩ := List.isChain_append.mp upto
  exact List.isChain_pair.mp pair ⟨rfl, rfl⟩

section Steps

variable [DecidableEq α]

/-- From the ends, an element is dropped only where an insertion would leave less to keep. An insertion
in front of the drop would leave less just as well, so that none is made there. -/
theorem dropsFirst_walk (first : DropsFirst edits)
    (loss : edits.head? = some .delete → bs ≠ [] → commonLength as bs.tail < commonLength as bs) :
    DropsFirst (walk edits as bs) := by
  fun_induction walk edits as bs with
  | case1 edits => exact first
  | case2 edits b bs ih =>
    apply ih
    · refine dropsFirst_cons.mpr ⟨fun _ dropped => ?_, first⟩
      simpa using loss dropped (List.cons_ne_nil b bs)
    · simp
  | case3 edits a as ih =>
    apply ih
    · exact dropsFirst_cons.mpr ⟨by simp, first⟩
    · simp
  | case4 edits as a bs ih =>
    apply ih
    · exact dropsFirst_cons.mpr ⟨by simp, first⟩
    · simp
  | case5 edits a as b bs different later ih =>
    apply ih
    · refine dropsFirst_cons.mpr ⟨fun _ dropped => ?_, first⟩
      have lost := loss dropped (List.cons_ne_nil b bs)
      rw [commonLength_cons_cons, if_neg different, Nat.max_eq_left later] at lost
      exact Nat.lt_irrefl _ lost
    · simp
  | case6 edits a as b bs different earlier ih =>
    apply ih
    · exact dropsFirst_cons.mpr ⟨by simp, first⟩
    · intro _ _
      exact Nat.lt_of_le_of_lt (commonLength_le_cons a as bs) (Nat.lt_of_not_le earlier)

theorem dropsFirst_byEnds (as bs : List α) : DropsFirst (byEnds as bs) := by
  unfold byEnds DropsFirst
  apply List.Pairwise.isChain
  simp [List.pairwise_append, List.pairwise_replicate]

theorem dropsFirst_align (as bs : List α) : DropsFirst (align as bs) := by
  unfold align
  split
  · exact dropsFirst_byEnds as bs
  · rw [byTable_eq_walk]
    apply dropsFirst_walk
    · exact .nil
    · simp

end Steps

/-! Places of regions. -/

/-- The places of a region that takes something away are the ends of what comes instead. Where it only
inserts, the place is behind what is inserted, except in front of everything. -/
structure Corresponds (places : List Nat) (region : Region) : Prop where
  replaced : region.aStart < region.aEnd →
    places[region.aStart]? = some region.bStart ∧ places[region.aEnd]? = some region.bEnd
  inserted : region.aStart = region.aEnd → 0 < region.aStart →
    places[region.aStart]? = some region.bEnd

/-- A region that ends at the places that the steps have come to. As long as it only inserts, nothing
is dropped next. -/
structure OpenAt (places : List Nat) (a b : Nat) (edits : List Edit) (region : Region) : Prop where
  endA : region.aEnd = a
  endB : region.bEnd = b
  begun : region.aStart < a → places[region.aStart]? = some region.bStart
  bare : ¬ region.aStart < a → edits.head? ≠ some .delete

theorem OpenAt.corresponds {places : List Nat} {a b : Nat} {region : Region}
    (opened : OpenAt places a b edits region) (place : 0 < a → places[a]? = some b) :
    Corresponds places region := by
  obtain ⟨rfl, rfl, begun, -⟩ := opened
  constructor
  · intro nonempty
    exact ⟨begun nonempty, place (Nat.zero_lt_of_lt nonempty)⟩
  · intro empty positive
    rw [empty] at positive ⊢
    exact place positive

theorem corresponds_of_open {places : List Nat} {a b : Nat} {open? : Option Region}
    (opened : ∀ region ∈ open?, OpenAt places a b edits region)
    (place : 0 < a → places[a]? = some b) : ∀ region ∈ open?.toList, Corresponds places region := by
  intro region member
  exact (opened region (Option.mem_toList.mp member)).corresponds place

/-- A region that an element is dropped from takes something away from then on. -/
theorem openAt_delete {places : List Nat} {open? : Option Region} {a b : Nat}
    (place : places[a]? = some (if 0 < a then b else 0)) (front : open? = none → a = 0 → b = 0)
    (opened : ∀ region ∈ open?, OpenAt places a b (.delete :: edits) region) :
    OpenAt places (a + 1) b edits { open?.getD ⟨a, a, b, b⟩ with aEnd := a + 1 } := by
  cases open? with
  | none =>
    refine ⟨rfl, rfl, fun _ => ?_, by simp⟩
    rcases Nat.eq_zero_or_pos a with rfl | positive
    · simpa [front rfl rfl] using place
    · simpa [positive] using place
  | some region =>
    obtain ⟨-, endB, begun, bare⟩ := opened region rfl
    have inside : region.aStart < a := by
      by_contra empty
      exact bare empty rfl
    exact ⟨rfl, endB, fun _ => begun inside,
      fun outside => absurd (Nat.lt_succ_of_lt inside) outside⟩

/-- A region that an element is inserted into goes on to take away what it has taken away. -/
theorem openAt_insert {places : List Nat} {open? : Option Region} {a b : Nat}
    (next : edits.head? ≠ some .delete)
    (opened : ∀ region ∈ open?, OpenAt places a b (.insert :: edits) region) :
    OpenAt places a (b + 1) edits { open?.getD ⟨a, a, b, b⟩ with bEnd := b + 1 } := by
  cases open? with
  | none => exact ⟨rfl, rfl, by simp, fun _ => next⟩
  | some region =>
    obtain ⟨endA, -, begun, -⟩ := opened region rfl
    exact ⟨endA, rfl, begun, fun _ => next⟩

/-- The steps that are left give the places that are left, and every region is closed at a place that
has been given by then. -/
theorem corresponds_regionsFrom {places : List Nat} {open? : Option Region} {a b : Nat}
    (first : DropsFirst edits) (behind : places.drop a = positionsFrom a b edits)
    (front : open? = none → a = 0 → b = 0)
    (opened : ∀ region ∈ open?, OpenAt places a b edits region) :
    ∀ region ∈ regionsFrom open? a b edits, Corresponds places region := by
  induction edits generalizing open? a b with
  | nil =>
    apply corresponds_of_open opened
    intro _
    exact (drop_succ_of_drop behind).1
  | cons edit edits ih =>
    cases edit with
    | equal =>
      obtain ⟨place, -, later⟩ := drop_succ_of_drop behind
      rw [regionsFrom, List.forall_mem_append]
      constructor
      · apply corresponds_of_open opened
        intro positive
        rw [place, if_pos positive]
      · exact ih first.tail later (by simp) (by simp)
    | delete =>
      obtain ⟨place, -, later⟩ := drop_succ_of_drop behind
      apply ih first.tail later (by simp)
      rintro region ⟨⟩
      exact openAt_delete place front opened
    | insert =>
      obtain ⟨next, later⟩ := dropsFirst_cons.mp first
      apply ih later behind (by simp)
      rintro region ⟨⟩
      exact openAt_insert (next rfl) opened

theorem corresponds_changeRegions (first : DropsFirst edits) :
    ∀ region ∈ changeRegions edits, Corresponds (positionMap edits) region :=
  corresponds_regionsFrom first rfl (by simp) (by simp)

/-- In an alignment nothing is dropped right behind an insertion. Its places never go back, lead from
the front of the second sequence to its end, and take every stretch that is replaced to the stretch
that replaces it; an element that stands behind a mere insertion is taken behind it. -/
theorem replaced_stretches_correspond [DecidableEq α] (as bs : List α) :
    ¬ [Edit.insert, Edit.delete] <:+: align as bs ∧
    (positionMap (align as bs)).length = as.length + 1 ∧
    (positionMap (align as bs)).Pairwise (· ≤ ·) ∧
    (positionMap (align as bs)).getLast? = some bs.length ∧
    (as ≠ [] → (positionMap (align as bs)).head? = some 0) ∧
    ∀ region ∈ changeRegions (align as bs),
      (region.aStart < region.aEnd →
        (positionMap (align as bs))[region.aStart]? = some region.bStart ∧
        (positionMap (align as bs))[region.aEnd]? = some region.bEnd) ∧
      (region.aStart = region.aEnd → 0 < region.aStart →
        (positionMap (align as bs))[region.aStart]? = some region.bEnd) := by
  have script := script_align as bs
  have places := places_positionMap script
  have first := dropsFirst_align as bs
  refine ⟨first.not_insert_delete, places.length, places.forward, ?_, ?_, ?_⟩
  · rw [List.getLast?_eq_getElem?, places.length]
    exact places.last
  · intro nonempty
    rw [List.head?_eq_getElem?]
    exact positionsFrom_getElem?_zero script nonempty 0
  · intro region member
    obtain ⟨replaced, inserted⟩ := corresponds_changeRegions first region member
    exact ⟨replaced, inserted⟩

/-- A sentence, and one that says its number and its unit in words and adds a word. -/
def boughtKilograms : List String × List String :=
  (["i", "bought", "12", "kg", "today"],
    ["i", "bought", "twelve", "whole", "kilograms", "today", "only"])

theorem replaced_stretches_correspond_kilograms :
    changeRegions (align boughtKilograms.1 boughtKilograms.2) = [⟨2, 4, 2, 5⟩, ⟨5, 5, 6, 7⟩] ∧
    (positionMap (align boughtKilograms.1 boughtKilograms.2))[2]? = some 2 ∧
    (positionMap (align boughtKilograms.1 boughtKilograms.2))[4]? = some 5 ∧
    (positionMap (align boughtKilograms.1 boughtKilograms.2))[5]? = some 7 := by
  have regions : changeRegions (align boughtKilograms.1 boughtKilograms.2) =
      [⟨2, 4, 2, 5⟩, ⟨5, 5, 6, 7⟩] := by decide +kernel
  obtain ⟨-, -, -, -, -, each⟩ :=
    replaced_stretches_correspond boughtKilograms.1 boughtKilograms.2
  rw [regions] at each
  obtain ⟨start, stop⟩ := (each ⟨2, 4, 2, 5⟩ (by simp)).1 (by decide)
  have behind := (each ⟨5, 5, 6, 7⟩ (by simp)).2 rfl (by decide)
  exact ⟨regions, start, stop, behind⟩

end SpokenForm.Alignment
