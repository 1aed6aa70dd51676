import SpokenForm.Proofs.Unicode.Whitespace

/-! Lower case is stable. No lower case has a lower case of its own, as no run of the table leads into
the table again; and without a capital sigma the neighbours of a character do not matter. -/
namespace SpokenForm.Unicode

/-- Every so many code points from the first to the last. -/
structure Stretch where
  first : Nat
  last : Nat
  step : Nat

def Stretch.Has (stretch : Stretch) (code : Nat) : Prop :=
  stretch.first ≤ code ∧ code ≤ stretch.last ∧ (code - stretch.first) % stretch.step = 0

instance (stretch : Stretch) (code : Nat) : Decidable (stretch.Has code) :=
  inferInstanceAs (Decidable (_ ∧ _ ∧ _))

/-- The characters of a run. -/
def capitals (run : Nat × Nat × Nat × Int) : Stretch := ⟨run.1, run.2.1, run.2.2.1⟩

/-- The lower case of the characters of a run. -/
def smalls (run : Nat × Nat × Nat × Int) : Stretch :=
  ⟨((run.1 : Int) + run.2.2.2).toNat, ((run.2.1 : Int) + run.2.2.2).toNat, run.2.2.1⟩

theorem lowercaseShift_cases (code : Nat) (runs : List (Nat × Nat × Nat × Int)) :
    lowercaseShift code runs = 0 ∨
      ∃ run ∈ runs, (capitals run).Has code ∧ lowercaseShift code runs = run.2.2.2 := by
  induction runs with
  | nil => exact .inl rfl
  | cons run rest ih =>
    obtain ⟨first, last, step, shift⟩ := run
    rw [lowercaseShift]
    split
    · exact .inl rfl
    · rename_i begun
      split
      · rename_i within
        simp only [Bool.and_eq_true, decide_eq_true_eq, beq_iff_eq] at within
        exact .inr ⟨_, List.mem_cons_self, ⟨Nat.not_lt.mp begun, within⟩, rfl⟩
      · exact ih.imp_right fun ⟨run, member, found⟩ => ⟨run, List.mem_cons_of_mem _ member, found⟩

/-- Whether a stretch is seen to have no character of any run: each run before the end of the stretch has
ended before it begins, or the two take turns. -/
def Stretch.avoids (stretch : Stretch) : List (Nat × Nat × Nat × Int) → Bool
  | [] => true
  | run :: runs =>
    Nat.blt stretch.last run.1 ||
      (Nat.blt run.2.1 stretch.first ||
        (Nat.beq stretch.step 2 || Nat.beq stretch.first stretch.last) && Nat.beq run.2.2.1 2 &&
          !Nat.beq (stretch.first % 2) (run.1 % 2)) && stretch.avoids runs

theorem lowercaseShift_of_avoids {stretch : Stretch} {runs : List (Nat × Nat × Nat × Int)}
    (avoids : stretch.avoids runs = true) {code : Nat} (inside : stretch.Has code) :
    lowercaseShift code runs = 0 := by
  obtain ⟨begun, within, turn⟩ := inside
  induction runs with
  | nil => rfl
  | cons run runs ih =>
    obtain ⟨first, last, step, shift⟩ := run
    simp only [Stretch.avoids, Bool.or_eq_true, Bool.and_eq_true, Nat.blt_eq, Nat.beq_eq,
      Bool.not_eq_true', ← Bool.not_eq_true] at avoids
    rw [lowercaseShift]
    split
    · rfl
    · rename_i reached
      obtain ⟨apart, later⟩ : _ ∧ _ := avoids.resolve_left (by omega)
      rw [if_neg, ih later]
      simp only [Bool.and_eq_true, decide_eq_true_eq, beq_iff_eq]
      intro hit
      rcases apart with before | ⟨⟨turns, two⟩, different⟩
      · omega
      · -- both go by twos, or the stretch is a single code point, and the remainders differ
        rw [two] at hit
        rcases turns with alike | single
        · rw [alike] at turn
          omega
        · omega

/-- The lower case of a run is in no run, nor is it the dotted capital I, which is in none either. -/
theorem smalls_settled : ∀ run ∈ lowercaseRuns, 0 ≤ (run.1 : Int) + run.2.2.2 ∧
    ¬ (smalls run).Has 0x130 ∧ (smalls run).avoids lowercaseRuns = true := by
  decide +kernel

def IsLowercase (c : Char) : Prop := lowercaseChar c = [c]

instance (c : Char) : Decidable (IsLowercase c) := inferInstanceAs (Decidable (_ = _))

theorem isLowercase_of_shift {c : Char} (plain : c ≠ 'İ')
    (none : lowercaseShift c.toNat lowercaseRuns = 0) : IsLowercase c := by
  rw [IsLowercase, lowercaseChar, if_neg plain, none]
  simp [Char.ofNat_toNat]

theorem IsLowercase.ne_sigma {c : Char} (isLowercase : IsLowercase c) : c ≠ 'Σ' := by
  rintro rfl
  exact absurd isLowercase (by decide)

theorem smalls_has {run : Nat × Nat × Nat × Int} (nonneg : 0 ≤ (run.1 : Int) + run.2.2.2) {code : Nat}
    (inside : (capitals run).Has code) : (smalls run).Has ((code : Int) + run.2.2.2).toNat := by
  obtain ⟨begun, within, turn⟩ := inside
  have same : ((code : Int) + run.2.2.2).toNat - (smalls run).first = code - (capitals run).first := by
    simp only [smalls, capitals] at begun ⊢
    omega
  refine ⟨?_, ?_, ?_⟩
  · simp only [smalls, capitals] at begun ⊢
    omega
  · simp only [smalls, capitals] at within ⊢
    omega
  · rw [same]
    exact turn

theorem isLowercase_ofNat {code : Nat} (plain : code ≠ 0x130)
    (none : lowercaseShift code lowercaseRuns = 0) : IsLowercase (Char.ofNat code) := by
  by_cases valid : code.isValidChar
  · have same : (Char.ofNat code).toNat = code := by
      rw [Char.ofNat, dif_pos valid]
      rfl
    apply isLowercase_of_shift
    · intro dotted
      rw [dotted] at same
      exact plain same.symm
    · rw [same]
      exact none
  · rw [Char.ofNat, dif_neg valid]
    decide

/-- The lower case of a character has no other lower case. -/
theorem isLowercase_lowercaseChar (c : Char) : ∀ d ∈ lowercaseChar c, IsLowercase d := by
  by_cases dotted : c = 'İ'
  · rw [lowercaseChar, if_pos dotted]
    exact List.forall_mem_cons.mpr ⟨by decide, List.forall_mem_singleton.mpr (by decide)⟩
  · rw [lowercaseChar, if_neg dotted, List.forall_mem_singleton]
    rcases lowercaseShift_cases c.toNat lowercaseRuns with none | ⟨run, member, inside, shift⟩
    · rw [none, Int.add_zero, Int.toNat_natCast, Char.ofNat_toNat]
      exact isLowercase_of_shift dotted none
    · obtain ⟨nonneg, noDotted, avoids⟩ := smalls_settled run member
      have small := smalls_has nonneg inside
      rw [shift]
      apply isLowercase_ofNat
      · intro same
        rw [same] at small
        exact noDotted small
      · exact lowercaseShift_of_avoids avoids small

theorem isLowercase_lowercaseAfter (before text : List Char) :
    ∀ d ∈ lowercaseAfter before text, IsLowercase d := by
  induction text generalizing before with
  | nil => simp [lowercaseAfter]
  | cons c text ih =>
    rw [lowercaseAfter]
    refine List.forall_mem_append.mpr ⟨?_, ih (c :: before)⟩
    split
    · rw [List.forall_mem_singleton]
      split
      · decide
      · decide
    · exact isLowercase_lowercaseChar c

theorem lowercaseAfter_of_isLowercase (before : List Char) {text : List Char}
    (each : ∀ c ∈ text, IsLowercase c) : lowercaseAfter before text = text := by
  induction text generalizing before with
  | nil => rfl
  | cons c text ih =>
    obtain ⟨here, later⟩ := List.forall_mem_cons.mp each
    rw [lowercaseAfter, if_neg here.ne_sigma, here, ih (c :: before) later, List.singleton_append]

end SpokenForm.Unicode
