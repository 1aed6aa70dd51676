import SpokenForm.Unicode.Alphanumeric
import SpokenForm.Unicode.Lowercase
import SpokenForm.Unicode.Whitespace

/-! White space apart from the other classes of characters, and lower case on either side of it. -/
namespace SpokenForm.Unicode

theorem mem_of_ranges_contains {ranges : Ranges} {code : Nat}
    (inside : ranges.contains code = true) : ∃ range ∈ ranges, range.1 ≤ code ∧ code ≤ range.2 := by
  induction ranges with
  | nil => simp [Ranges.contains] at inside
  | cons range rest ih =>
    by_cases within : code ≤ range.2
    · have begun : range.1 ≤ code := by simpa [Ranges.contains, within] using inside
      exact ⟨range, List.mem_cons_self .., begun, within⟩
    · have later : Ranges.contains rest code = true := by
        simpa [Ranges.contains, within] using inside
      obtain ⟨found, member, bounds⟩ := ih later
      exact ⟨found, List.mem_cons_of_mem _ member, bounds⟩

/-! White space is a small set of code points, so what holds of them is checked one by one. -/

theorem forall_whitespace {P : Nat → Prop}
    (codes : ∀ range ∈ whitespaceRanges, ∀ offset ≤ range.2 - range.1, P (range.1 + offset))
    {code : Nat} (space : whitespaceRanges.contains code = true) : P code := by
  obtain ⟨range, member, begun, within⟩ := mem_of_ranges_contains space
  have found := codes range member (code - range.1) (by omega)
  rwa [Nat.add_sub_cancel' begun] at found

variable {c : Char}

theorem not_alphanumeric_of_whitespace (space : isWhitespace c = true) : isAlphanumeric c = false :=
  forall_whitespace (P := fun code => alphanumericRanges.contains code = false)
    (by decide +kernel) space

theorem code_of_whitespace (space : isWhitespace c = true) : c.toNat ≤ 0x20 ∨ 0x7F < c.toNat :=
  forall_whitespace (P := fun code => code ≤ 0x20 ∨ 0x7F < code) (by decide) space

theorem not_cased_of_whitespace (space : isWhitespace c = true) : isCased c = false :=
  forall_whitespace (P := fun code => casedRanges.contains code = false) (by decide) space

theorem not_caseIgnorable_of_whitespace (space : isWhitespace c = true) :
    isCaseIgnorable c = false :=
  forall_whitespace (P := fun code => caseIgnorableRanges.contains code = false)
    (by decide) space

theorem lowercaseShift_of_whitespace (space : isWhitespace c = true) :
    lowercaseShift c.toNat lowercaseRuns = 0 :=
  forall_whitespace (P := fun code => lowercaseShift code lowercaseRuns = 0)
    (by decide) space

/-! White space has no case, and no letter behind it decides the case of one in front. -/

theorem ne_of_whitespace {d : Char} (space : isWhitespace c = true) (other : isWhitespace d = false) :
    c ≠ d := by
  rintro rfl
  simp [space] at other

theorem lowercaseChar_of_whitespace (space : isWhitespace c = true) : lowercaseChar c = [c] := by
  rw [lowercaseChar, if_neg (ne_of_whitespace space rfl), lowercaseShift_of_whitespace space]
  simp [Char.ofNat_toNat]

theorem meetsCased_append_blank (space : isWhitespace c = true) (text rest : List Char) :
    meetsCased (text ++ c :: rest) = meetsCased text := by
  have stops := not_caseIgnorable_of_whitespace space
  have uncased := not_cased_of_whitespace space
  rw [meetsCased, List.dropWhile_append, meetsCased]
  cases front : text.dropWhile isCaseIgnorable with
  | nil => simp [stops, uncased]
  | cons d front => simp

theorem lowercaseAfter_behind_blank (space : isWhitespace c = true) (before far text : List Char) :
    lowercaseAfter (before ++ c :: far) text = lowercaseAfter before text := by
  induction text generalizing before with
  | nil => rfl
  | cons d text ih =>
    rw [lowercaseAfter, lowercaseAfter, meetsCased_append_blank space, ← List.cons_append, ih]

theorem lowercaseAfter_append_blank (space : isWhitespace c = true) (before text rest : List Char) :
    lowercaseAfter before (text ++ c :: rest) = lowercaseAfter before text ++ c :: lowercase rest := by
  induction text generalizing before with
  | nil =>
    have behind : lowercaseAfter (c :: before) rest = lowercase rest :=
      lowercaseAfter_behind_blank space [] before rest
    have noSigma : c ≠ 'Σ' := ne_of_whitespace space rfl
    simp [lowercaseAfter, noSigma, lowercaseChar_of_whitespace space, behind]
  | cons d text ih =>
    rw [List.cons_append, lowercaseAfter, lowercaseAfter, meetsCased_append_blank space, ih,
      List.append_assoc]

theorem lowercase_append_blank (space : isWhitespace c = true) (text rest : List Char) :
    lowercase (text ++ c :: rest) = lowercase text ++ c :: lowercase rest :=
  lowercaseAfter_append_blank space [] text rest

end SpokenForm.Unicode
