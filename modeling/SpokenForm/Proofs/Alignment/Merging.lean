import Mathlib.Data.List.Chain
import Mathlib.Data.Nat.PSub
import SpokenForm.Proofs.Alignment.Region

/-! Merged regions. They still lead through both sequences, so that the first turns into the second where
each stretch gives way to its counterpart; and what is left between them is longer than the gap. -/
namespace SpokenForm

/-- A region at which something is taken away or put in. -/
def Region.Changes (region : Region) : Prop :=
  region.aStart < region.aEnd ∨ region.bStart < region.bEnd

namespace Alignment

open SpokenForm.Span (slice)

variable {α : Type} {as bs : List α} {a b gap : Nat} {region next : Region}
  {regions : List Region}

/-! Regions change something, and stand in order. -/

theorem changes_regionsFrom (edits : List Edit) {open? : Option Region} {a b : Nat}
    (opened : ∀ region ∈ open?, region.aStart ≤ a ∧ region.bStart ≤ b ∧ region.Changes) :
    ∀ region ∈ regionsFrom open? a b edits, region.Changes := by
  induction edits generalizing open? a b with
  | nil =>
    intro region member
    exact (opened region (Option.mem_toList.mp member)).2.2
  | cons edit edits ih =>
    cases edit with
    | equal =>
      refine List.forall_mem_append.mpr ⟨fun region member => ?_, ih (by simp)⟩
      exact (opened region (Option.mem_toList.mp member)).2.2
    | delete =>
      apply ih
      rintro region ⟨⟩
      cases open? with
      | none => exact ⟨Nat.le_succ a, Nat.le_refl b, .inl (Nat.lt_succ_self a)⟩
      | some region =>
        obtain ⟨startA, startB, -⟩ := opened region rfl
        exact ⟨Nat.le_succ_of_le startA, startB, .inl (Nat.lt_succ_of_le startA)⟩
    | insert =>
      apply ih
      rintro region ⟨⟩
      cases open? with
      | none => exact ⟨Nat.le_refl a, Nat.le_succ b, .inr (Nat.lt_succ_self b)⟩
      | some region =>
        obtain ⟨startA, startB, -⟩ := opened region rfl
        exact ⟨startA, Nat.le_succ_of_le startB, .inr (Nat.lt_succ_of_le startB)⟩

theorem Leads.starts (leads : Leads as bs a b regions) :
    ∀ region ∈ regions, a ≤ region.aStart ∧ b ≤ region.bStart := by
  induction leads with
  | rest => simp
  | region equal forwardA _ forwardB _ _ ih =>
    refine List.forall_mem_cons.mpr ⟨⟨equal.forwardA, equal.forwardB⟩, fun later member => ?_⟩
    obtain ⟨behindA, behindB⟩ := ih later member
    exact ⟨Nat.le_trans (Nat.le_trans equal.forwardA forwardA) behindA,
      Nat.le_trans (Nat.le_trans equal.forwardB forwardB) behindB⟩

theorem Leads.ordered (leads : Leads as bs a b regions) :
    regions.Pairwise fun region later =>
      region.aEnd ≤ later.aStart ∧ region.bEnd ≤ later.bStart := by
  induction leads with
  | rest => exact .nil
  | region _ _ _ _ _ later ih => exact .cons later.starts ih

/-! Replacing. -/

/-- The first sequence from a place on, where the stretch of every region gives way to the one of the
second sequence. -/
def replaced (as bs : List α) (a : Nat) : List Region → List α
  | [] => as.drop a
  | region :: later =>
    slice as a region.aStart ++
      (slice bs region.bStart region.bEnd ++ replaced as bs region.aEnd later)

theorem Leads.replaced_eq (leads : Leads as bs a b regions) :
    replaced as bs a regions = bs.drop b := by
  induction leads with
  | @rest a b equal =>
    rw [replaced, ← Span.slice_to_end, ← Span.slice_to_end, equal.equal]
  | @region a b region later equal _ _ forwardB insideB _ ih =>
    rw [replaced, equal.equal, ih, ← Span.slice_to_end, Span.slice_append forwardB insideB,
      Span.slice_append equal.forwardB (Nat.le_trans forwardB insideB), Span.slice_to_end]

/-! Merging. -/

theorem changes_join (leads : Leads as bs a b (region :: next :: regions))
    (changes : region.Changes) :
    Region.Changes { region with aEnd := next.aEnd, bEnd := next.bEnd } := by
  obtain _ | ⟨-, -, -, -, -, later⟩ := leads
  obtain _ | ⟨between, nextForwardA, -, nextForwardB, -, -⟩ := later
  rcases changes with dropped | added
  · exact .inl (Nat.lt_of_lt_of_le dropped (Nat.le_trans between.forwardA nextForwardA))
  · exact .inr (Nat.lt_of_lt_of_le added (Nat.le_trans between.forwardB nextForwardB))

theorem changes_mergeOnto (gap : Nat) (leads : Leads as bs a b (region :: regions))
    (changes : ∀ each ∈ region :: regions, each.Changes) :
    ∀ merged ∈ mergeOnto gap region regions, merged.Changes := by
  induction regions generalizing a b region with
  | nil => exact changes
  | cons next regions ih =>
    obtain ⟨first, others⟩ := List.forall_mem_cons.mp changes
    rw [mergeOnto]
    split
    · refine ih leads.join (List.forall_mem_cons.mpr ⟨changes_join leads first, ?_⟩)
      exact (List.forall_mem_cons.mp others).2
    · obtain _ | ⟨-, -, -, -, -, later⟩ := leads
      exact List.forall_mem_cons.mpr ⟨first, ih later others⟩

theorem changes_mergeRegions (gap : Nat) (leads : Leads as bs a b regions)
    (changes : ∀ region ∈ regions, region.Changes) :
    ∀ merged ∈ mergeRegions gap regions, merged.Changes := by
  cases regions with
  | nil => exact changes
  | cons region regions => exact changes_mergeOnto gap leads changes

theorem mergeOnto_begins (gap : Nat) (region : Region) (regions : List Region) :
    ∃ merged later, mergeOnto gap region regions = merged :: later ∧
      merged.aStart = region.aStart := by
  induction regions generalizing region with
  | nil => exact ⟨region, [], rfl, rfl⟩
  | cons next regions ih =>
    rw [mergeOnto]
    split
    · exact ih { region with aEnd := next.aEnd, bEnd := next.bEnd }
    · exact ⟨region, _, rfl, rfl⟩

/-- Regions that are left apart have more than the gap between them. -/
theorem isChain_mergeOnto (gap : Nat) (region : Region) (regions : List Region) :
    (mergeOnto gap region regions).IsChain fun region next => region.aEnd + gap < next.aStart := by
  induction regions generalizing region with
  | nil => exact .singleton region
  | cons next regions ih =>
    rw [mergeOnto]
    split
    · exact ih _
    · rename_i wide
      obtain ⟨merged, later, same, begins⟩ := mergeOnto_begins gap next regions
      have chain := ih next
      rw [same] at chain ⊢
      refine .cons_cons ?_ chain
      omega

theorem isChain_mergeRegions (gap : Nat) (regions : List Region) :
    (mergeRegions gap regions).IsChain fun region next => region.aEnd + gap < next.aStart := by
  cases regions with
  | nil => exact .nil
  | cons region regions => exact isChain_mergeOnto gap region regions

/-- Joins regions as `mergeOnto` does, but has no answer where a region would begin in front of the end
of the one before it. -/
def mergeOnto? (gap : Nat) (region : Region) : List Region → Option (List Region)
  | [] => some [region]
  | next :: rest => do
    let between ← Nat.psub next.aStart region.aEnd
    if between ≤ gap then mergeOnto? gap { region with aEnd := next.aEnd, bEnd := next.bEnd } rest
    else return region :: (← mergeOnto? gap next rest)

/-- Joins regions as `mergeRegions` does, with subtractions that may have no answer. -/
def mergeRegions? (gap : Nat) : List Region → Option (List Region)
  | [] => some []
  | region :: rest => mergeOnto? gap region rest

/-- Every subtraction has an answer. -/
theorem mergeOnto?_eq_some (gap : Nat) (leads : Leads as bs a b (region :: regions)) :
    mergeOnto? gap region regions = some (mergeOnto gap region regions) := by
  induction regions generalizing a b region with
  | nil => rfl
  | cons next regions ih =>
    have order : region.aEnd ≤ next.aStart :=
      ((List.pairwise_cons.mp leads.ordered).1 next List.mem_cons_self).1
    simp only [mergeOnto?, mergeOnto, Nat.psub_eq_sub order, Option.bind_eq_bind, Option.bind_some]
    split
    · exact ih leads.join
    · obtain _ | ⟨-, -, -, -, -, later⟩ := leads
      rw [ih later]
      rfl

theorem mergeRegions?_eq_some (gap : Nat) (leads : Leads as bs a b regions) :
    mergeRegions? gap regions = some (mergeRegions gap regions) := by
  cases regions with
  | nil => rfl
  | cons region regions => exact mergeOnto?_eq_some gap leads

/-- The regions of two sequences, joined across small gaps. No subtraction underflows. Every region changes
something, they stand in order and apart from each other by more than the gap, and around them the
sequences are equal, so that replacing their stretches turns the first sequence into the second. -/
theorem merged_regions_lead [DecidableEq α] (as bs : List α) (gap : Nat) :
    ∃ regions, mergeRegions gap (changeRegions (align as bs)) = regions ∧
      mergeRegions? gap (changeRegions (align as bs)) = some regions ∧
      (∀ region ∈ regions, region.Changes) ∧
      regions.Pairwise (fun region later =>
        region.aEnd ≤ later.aStart ∧ region.bEnd ≤ later.bStart) ∧
      regions.IsChain (fun region next => region.aEnd + gap < next.aStart) ∧
      Leads as bs 0 0 regions ∧ replaced as bs 0 regions = bs := by
  have leads := leads_changeRegions (script_align as bs)
  have changes : ∀ region ∈ changeRegions (align as bs), region.Changes :=
    changes_regionsFrom (align as bs) (by simp)
  have merged := leads_mergeRegions gap leads
  exact ⟨_, rfl, mergeRegions?_eq_some gap leads, changes_mergeRegions gap leads changes,
    merged.ordered, isChain_mergeRegions gap _, merged, merged.replaced_eq⟩

/-- A gap of one element is closed. -/
example : changeRegions (align "abcd".toList "xbyd".toList) = [⟨0, 1, 0, 1⟩, ⟨2, 3, 2, 3⟩] ∧
    mergeRegions 1 (changeRegions (align "abcd".toList "xbyd".toList)) = [⟨0, 3, 0, 3⟩] := by
  cbv

end Alignment

end SpokenForm
