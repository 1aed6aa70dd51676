import Mathlib.Data.List.Chain
import SpokenForm.Proofs.Unicode.Lowercase
import SpokenForm.Unicode.Punctuation

/-! Punctuation in lower case is punctuation. Its characters have no lower case of their own, but for the
capital letters in circles, whose small letters are symbols as well. -/
namespace SpokenForm.Unicode

variable {code : Nat} {runs : List (Nat × Nat × Nat × Int)}

/-! A table of ranges and a table of runs are compared in one walk through both. -/

def runsFrom (place : Nat) (runs : List (Nat × Nat × Nat × Int)) : List (Nat × Nat × Nat × Int) :=
  runs.dropWhile (·.2.1 < place)

def rangesWithRuns : List (Nat × Nat × Nat × Int) → Ranges → Ranges
  | _, [] => []
  | runs, range :: ranges =>
    match runsFrom range.1 runs with
    | [] => []
    | run :: later =>
      if range.2 < run.1 then rangesWithRuns (run :: later) ranges
      else range :: rangesWithRuns (run :: later) ranges

theorem lowercaseShift_of_runsFrom {place : Nat} (beyond : place ≤ code)
    (none : lowercaseShift code (runsFrom place runs) = 0) : lowercaseShift code runs = 0 := by
  induction runs with
  | nil => rfl
  | cons run rest ih =>
    obtain ⟨first, last, step, shift⟩ := run
    by_cases before : last < place
    · have later : lowercaseShift code rest = 0 := ih (by simpa [runsFrom, before] using none)
      have past : ¬ code ≤ last := by omega
      simp [lowercaseShift, past, later]
    · simpa [runsFrom, before] using none

theorem mem_rangesWithRuns {ranges : Ranges} (ascending : ranges.Pairwise (·.1 ≤ ·.1))
    {range : Nat × Nat} (member : range ∈ ranges) (begun : range.1 ≤ code) (within : code ≤ range.2) :
    lowercaseShift code runs = 0 ∨ range ∈ rangesWithRuns runs ranges := by
  induction ranges generalizing runs with
  | nil => cases member
  | cons next ranges ih =>
    obtain ⟨behind, ascending⟩ := List.pairwise_cons.mp ascending
    have beyond : next.1 ≤ code := by
      rcases List.mem_cons.mp member with rfl | later
      · exact begun
      · exact Nat.le_trans (behind range later) begun
    rw [rangesWithRuns]
    split
    · rename_i finished
      exact .inl (lowercaseShift_of_runsFrom beyond (by rw [finished]; rfl))
    · rename_i run rest found
      rcases List.mem_cons.mp member with rfl | later
      · split
        · rename_i before
          refine .inl (lowercaseShift_of_runsFrom beyond ?_)
          rw [found, lowercaseShift, if_pos (Nat.lt_of_le_of_lt within before)]
        · exact .inr List.mem_cons_self
      · rw [← found]
        refine (ih ascending later).imp (lowercaseShift_of_runsFrom beyond) fun inside => ?_
        split
        · exact inside
        · exact List.mem_cons_of_mem _ inside

/-! Only the letters in circles are punctuation in two cases. -/

theorem rangesWithRuns_punctuation :
    rangesWithRuns lowercaseRuns punctuationRanges = [(0x249C, 0x24E9)] := by
  decide +kernel

theorem ascending_punctuation : punctuationRanges.Pairwise (·.1 ≤ ·.1) := by
  have chain : punctuationRanges.IsChain (·.1 ≤ ·.1) := by decide +kernel
  exact List.isChain_iff_pairwise.mp chain

theorem circled_or_apart : ∀ run ∈ lowercaseRuns,
    run = (0x24B6, 0x24CF, 1, 26) ∨ run.2.1 < 0x249C ∨ 0x24E9 < run.1 := by
  decide +kernel

theorem punctuation_of_circled : ∀ offset ≤ 0x24CF - 0x24B6,
    isPunctuation (Char.ofNat (0x24B6 + offset + 26)) = true := by
  decide +kernel

theorem lowercaseShift_of_punctuation (mark : punctuationRanges.contains code = true) :
    lowercaseShift code lowercaseRuns = 0 ∨
      lowercaseShift code lowercaseRuns = 26 ∧ 0x24B6 ≤ code ∧ code ≤ 0x24CF := by
  obtain ⟨range, member, begun, within⟩ := mem_of_ranges_contains mark
  rcases mem_rangesWithRuns ascending_punctuation member begun within with none | inside
  · exact .inl none
  · rw [rangesWithRuns_punctuation, List.mem_singleton] at inside
    subst inside
    refine (lowercaseShift_cases code lowercaseRuns).imp_right ?_
    rintro ⟨run, among, ⟨first, last, -⟩, shift⟩
    simp only [capitals] at first last
    rcases circled_or_apart run among with rfl | before | behind
    · exact ⟨shift, first, last⟩
    · omega
    · omega

theorem lowercaseChar_of_punctuation {c : Char} (mark : isPunctuation c = true) :
    ∀ d ∈ lowercaseChar c, isPunctuation d = true := by
  have plain : c ≠ 'İ' := by
    rintro rfl
    exact absurd mark (by decide)
  rw [lowercaseChar, if_neg plain, List.forall_mem_singleton]
  rcases lowercaseShift_of_punctuation mark with none | ⟨shift, first, last⟩
  · simpa [none, Char.ofNat_toNat] using mark
  · have found := punctuation_of_circled (c.toNat - 0x24B6) (by omega)
    rw [Nat.add_sub_cancel' first] at found
    rw [shift]
    exact found

/-- Punctuation or white space, of which nothing is heard. -/
def IsSilent (c : Char) : Prop := isPunctuation c = true ∨ isWhitespace c = true

theorem lowercaseAfter_of_silent (before : List Char) {text : List Char}
    (silent : ∀ c ∈ text, IsSilent c) : ∀ d ∈ lowercaseAfter before text, IsSilent d := by
  induction text generalizing before with
  | nil => simp [lowercaseAfter]
  | cons c rest ih =>
    obtain ⟨here, later⟩ := List.forall_mem_cons.mp silent
    have noSigma : c ≠ 'Σ' := by
      rintro rfl
      rcases here with mark | space
      · exact absurd mark (by decide)
      · exact absurd space (by decide)
    rw [lowercaseAfter, if_neg noSigma]
    refine List.forall_mem_append.mpr ⟨?_, ih (c :: before) later⟩
    rcases here with mark | space
    · exact fun d member => .inl (lowercaseChar_of_punctuation mark d member)
    · rw [lowercaseChar_of_whitespace space, List.forall_mem_singleton]
      exact .inr space

end SpokenForm.Unicode
