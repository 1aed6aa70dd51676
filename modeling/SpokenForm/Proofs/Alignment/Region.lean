import SpokenForm.Proofs.Alignment.Script
import SpokenForm.Selection

/-! Regions of an alignment. Between them the two sequences are equal, so that they lead from the front
of both sequences to their ends, and joining neighbours keeps this. -/
namespace SpokenForm

namespace Span

variable {α β : Type} {items : List α}

theorem slice_append {start middle stop : Nat} (first : start ≤ middle) (second : middle ≤ stop) :
    slice items start middle ++ slice items middle stop = slice items start stop := by
  have whole : stop - start = (middle - start) + (stop - middle) := by omega
  have behind : start + (middle - start) = middle := by omega
  rw [slice, slice, slice, whole, List.take_add, List.drop_drop, behind]

theorem slice_to_end (start : Nat) : slice items start items.length = items.drop start := by
  rw [slice, List.take_of_length_le (by simp)]

theorem slice_singleton {place : Nat} {item : α} (found : items[place]? = some item) :
    slice items place (place + 1) = [item] := by
  obtain ⟨inside, rfl⟩ := List.getElem?_eq_some_iff.mp found
  rw [slice, List.drop_eq_getElem_cons inside, Nat.add_sub_cancel_left]
  rfl

theorem slice_map (f : α → β) (start stop : Nat) :
    slice (items.map f) start stop = (slice items start stop).map f := by
  simp [slice, List.map_take, List.map_drop]

theorem mem_of_mem_slice {start stop : Nat} {item : α} (member : item ∈ slice items start stop) :
    item ∈ items :=
  List.mem_of_mem_drop (List.mem_of_mem_take member)

end Span

namespace Alignment

open SpokenForm.Span (slice)

variable {α : Type} {as bs : List α} {a b aMore bMore : Nat} {edits : List Edit}
  {regions : List Region}

/-- The sequences are equal from two places to two others. -/
structure EqualBetween (as bs : List α) (a b aEnd bEnd : Nat) : Prop where
  forwardA : a ≤ aEnd
  insideA : aEnd ≤ as.length
  forwardB : b ≤ bEnd
  insideB : bEnd ≤ bs.length
  equal : slice as a aEnd = slice bs b bEnd

theorem EqualBetween.refl (insideA : a ≤ as.length) (insideB : b ≤ bs.length) :
    EqualBetween as bs a b a b :=
  ⟨Nat.le_refl a, insideA, Nat.le_refl b, insideB, by simp [slice]⟩

theorem EqualBetween.trans {aEnd bEnd : Nat} (first : EqualBetween as bs a b aMore bMore)
    (second : EqualBetween as bs aMore bMore aEnd bEnd) : EqualBetween as bs a b aEnd bEnd := by
  refine ⟨Nat.le_trans first.forwardA second.forwardA, second.insideA,
    Nat.le_trans first.forwardB second.forwardB, second.insideB, ?_⟩
  rw [← Span.slice_append first.forwardA second.forwardA, first.equal, second.equal,
    Span.slice_append first.forwardB second.forwardB]

/-- Regions lead from two places to the ends of two sequences, which are equal in between. -/
inductive Leads (as bs : List α) : (a b : Nat) → List Region → Prop where
  | rest {a b : Nat} (equal : EqualBetween as bs a b as.length bs.length) : Leads as bs a b []
  | region {a b : Nat} {region : Region} {later : List Region}
      (equal : EqualBetween as bs a b region.aStart region.bStart)
      (forwardA : region.aStart ≤ region.aEnd) (insideA : region.aEnd ≤ as.length)
      (forwardB : region.bStart ≤ region.bEnd) (insideB : region.bEnd ≤ bs.length)
      (leads : Leads as bs region.aEnd region.bEnd later) : Leads as bs a b (region :: later)

theorem Leads.inside (leads : Leads as bs a b regions) :
    ∀ region ∈ regions, region.aStart ≤ region.aEnd ∧ region.aEnd ≤ as.length := by
  induction leads with
  | rest => simp
  | region _ forwardA insideA _ _ _ ih => exact List.forall_mem_cons.mpr ⟨⟨forwardA, insideA⟩, ih⟩

/-! Steps and places. -/

theorem equalBetween_step {shared : α} {restA restB : List α}
    (atA : as.drop a = shared :: restA) (atB : bs.drop b = shared :: restB) :
    EqualBetween as bs a b (a + 1) (b + 1) := by
  obtain ⟨foundA, insideA, -⟩ := drop_succ_of_drop atA
  obtain ⟨foundB, insideB, -⟩ := drop_succ_of_drop atB
  refine ⟨Nat.le_succ a, insideA, Nat.le_succ b, insideB, ?_⟩
  rw [Span.slice_singleton foundA, Span.slice_singleton foundB]

/-- An open region ends at the places that the steps have come to. -/
structure EndsAt (region : Region) (a b : Nat) : Prop where
  endA : region.aEnd = a
  endB : region.bEnd = b
  forwardA : region.aStart ≤ a
  forwardB : region.bStart ≤ b

/-- Where no region is open, an empty one may be opened. -/
theorem endsAt_getD {open? : Option Region} (ended : ∀ region ∈ open?, EndsAt region a b) :
    EndsAt (open?.getD ⟨a, a, b, b⟩) a b := by
  cases open? with
  | none => exact ⟨rfl, rfl, Nat.le_refl a, Nat.le_refl b⟩
  | some region => exact ended region rfl

/-- An open region is closed, and what follows begins behind it. -/
theorem leads_closed {open? : Option Region} {aFront bFront : Nat} (insideA : a ≤ as.length)
    (insideB : b ≤ bs.length) (ended : ∀ region ∈ open?, EndsAt region a b)
    (equal : EqualBetween as bs aFront bFront (open?.getD ⟨a, a, b, b⟩).aStart
      (open?.getD ⟨a, a, b, b⟩).bStart)
    (later : ∀ {aFront bFront : Nat}, EqualBetween as bs aFront bFront a b →
      Leads as bs aFront bFront regions) :
    Leads as bs aFront bFront (open?.toList ++ regions) := by
  cases open? with
  | none => exact later equal
  | some region =>
    obtain ⟨rfl, rfl, forwardA, forwardB⟩ := ended region rfl
    exact .region equal forwardA insideA forwardB insideB (later (.refl insideA insideB))

theorem leads_regionsFrom {restA restB : List α} (script : Script restA restB edits)
    {open? : Option Region} {a b aFront bFront : Nat} (atA : as.drop a = restA)
    (atB : bs.drop b = restB) (insideA : a ≤ as.length) (insideB : b ≤ bs.length)
    (ended : ∀ region ∈ open?, EndsAt region a b)
    (equal : EqualBetween as bs aFront bFront (open?.getD ⟨a, a, b, b⟩).aStart
      (open?.getD ⟨a, a, b, b⟩).bStart) :
    Leads as bs aFront bFront (regionsFrom open? a b edits) := by
  induction script generalizing open? a b aFront bFront with
  | nil =>
    obtain rfl : a = as.length := Nat.le_antisymm insideA (List.drop_eq_nil_iff.mp atA)
    obtain rfl : b = bs.length := Nat.le_antisymm insideB (List.drop_eq_nil_iff.mp atB)
    have closed := leads_closed insideA insideB ended equal .rest
    rwa [List.append_nil] at closed
  | equal shared rest ih =>
    obtain ⟨-, lessA, behindA⟩ := drop_succ_of_drop atA
    obtain ⟨-, lessB, behindB⟩ := drop_succ_of_drop atB
    -- The element belongs to the equal stretch behind the region that ends here.
    have step := equalBetween_step atA atB
    exact leads_closed insideA insideB ended equal fun front =>
      ih behindA behindB lessA lessB (by simp) (front.trans step)
  | delete dropped rest ih =>
    obtain ⟨-, lessA, behindA⟩ := drop_succ_of_drop atA
    obtain ⟨-, endB, forwardA, forwardB⟩ := endsAt_getD ended
    refine ih behindA atB lessA insideB ?_ equal
    rintro region ⟨⟩
    exact ⟨rfl, endB, Nat.le_succ_of_le forwardA, forwardB⟩
  | insert added rest ih =>
    obtain ⟨-, lessB, behindB⟩ := drop_succ_of_drop atB
    obtain ⟨endA, -, forwardA, forwardB⟩ := endsAt_getD ended
    refine ih atA behindB insideA lessB ?_ equal
    rintro region ⟨⟩
    exact ⟨endA, rfl, forwardA, Nat.le_succ_of_le forwardB⟩

theorem leads_changeRegions (script : Script as bs edits) :
    Leads as bs 0 0 (changeRegions edits) :=
  leads_regionsFrom script rfl rfl (Nat.zero_le _) (Nat.zero_le _) (by simp)
    (.refl (Nat.zero_le _) (Nat.zero_le _))

/-- What was equal between two regions is inside the joined one. -/
theorem Leads.join {region next : Region} (leads : Leads as bs a b (region :: next :: regions)) :
    Leads as bs a b ({ region with aEnd := next.aEnd, bEnd := next.bEnd } :: regions) := by
  obtain _ | ⟨equal, forwardA, -, forwardB, -, later⟩ := leads
  obtain _ | ⟨between, nextForwardA, insideA, nextForwardB, insideB, behind⟩ := later
  have throughA := Nat.le_trans forwardA (Nat.le_trans between.forwardA nextForwardA)
  have throughB := Nat.le_trans forwardB (Nat.le_trans between.forwardB nextForwardB)
  exact .region equal throughA insideA throughB insideB behind

theorem leads_mergeOnto (gap : Nat) {region : Region} (leads : Leads as bs a b (region :: regions)) :
    Leads as bs a b (mergeOnto gap region regions) := by
  induction regions generalizing a b region with
  | nil => exact leads
  | cons next regions ih =>
    rw [mergeOnto]
    split
    · exact ih leads.join
    · obtain _ | ⟨equal, forwardA, insideA, forwardB, insideB, later⟩ := leads
      exact .region equal forwardA insideA forwardB insideB (ih later)

theorem leads_mergeRegions (gap : Nat) (leads : Leads as bs a b regions) :
    Leads as bs a b (mergeRegions gap regions) := by
  cases regions with
  | nil => exact leads
  | cons region regions => exact leads_mergeOnto gap leads

end Alignment

end SpokenForm
