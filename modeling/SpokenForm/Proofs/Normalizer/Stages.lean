import SpokenForm.Proofs.Normalizer.Outcome

/-! The stages of a normalization. A text is verbalized, which may fail, and what is found is finished,
which cannot fail. -/
namespace SpokenForm.Normalizer

/-- The verbalized text of a prepared one, the tagged text that it comes from, and the number of its
chunks. -/
def verbalized (normalizer : Normalizer) (prepared : Text) :
    Except NormalizationError (Text × Text × Nat) := do
  let input := normalizer.taggerInput prepared
  let lattice ← normalizer.tag input 1
  match lattice.shortest? with
  | none => .error (.noTaggingPath input)
  | some tagged =>
    let (text, chunkCount) ← normalizer.verbalize tagged
    return (text, tagged, chunkCount)

def concluded (normalizer : Normalizer) (text : Text) (answer : Text × Text × Nat) : Normalization :=
  let finished := normalizer.finish (prepare text) answer.1
  ⟨finished, finished != text, some answer.2.1, answer.2.2, false⟩

variable {normalizer : Normalizer} {text prepared tagged : Text} {answer : Text × Text × Nat}
  {fault : NormalizationError}

theorem run_eq_verbalized (normalizer : Normalizer) (text : Text) :
    normalizer.run text (prepare text) =
      (normalizer.verbalized (prepare text)).map (normalizer.concluded text) := by
  rw [run, verbalized]
  cases normalizer.tag (normalizer.taggerInput (prepare text)) 1 with
  | error fault => rfl
  | ok lattice =>
    cases best : lattice.shortest? with
    | none => simp [best, bind, Except.bind, Except.map]
    | some tagged =>
      cases answered : normalizer.verbalize tagged with
      | error fault => simp [best, answered, bind, Except.bind, Except.map]
      | ok answer =>
        simp [best, answered, bind, Except.bind, pure, Except.pure, Except.map, concluded]

/-- A text that is tagged in one way is verbalized from there. -/
theorem verbalized_of_tag {weight : Weight}
    (found : normalizer.tag (normalizer.taggerInput prepared) 1 = .ok (.single tagged weight)) :
    normalizer.verbalized prepared =
      (normalizer.verbalize tagged).map fun answer => (answer.1, tagged, answer.2) := by
  have best : (Lattice.single tagged weight).shortest? = some tagged := rfl
  rw [verbalized, found]
  cases answered : normalizer.verbalize tagged with
  | error fault => simp [best, answered, bind, Except.bind, Except.map]
  | ok answer => simp [best, answered, bind, Except.bind, pure, Except.pure, Except.map]

theorem tryNormalize_eq_verbalized (normalizer : Normalizer) (solid : ¬ text.Blank) :
    normalizer.tryNormalize text = (normalizer.verbalized (prepare text)).map fun answer =>
      normalizer.finish (prepare text) answer.1 := by
  have something := prepare_ne_nil solid
  rw [tryNormalize, run_eq_verbalized]
  cases normalizer.verbalized (prepare text) with
  | error fault => simp [something, Except.map]
  | ok answer => simp [something, Except.map, concluded]

theorem normalizeDetailed_of_error (solid : ¬ text.Blank)
    (failed : normalizer.verbalized (prepare text) = .error fault) :
    normalizer.normalizeDetailed text =
      if fault.isRecoverable then .ok (unchanged text true) else .error fault := by
  simp [normalizeDetailed, prepare_ne_nil solid, run_eq_verbalized, failed, Except.map]

theorem normalizeDetailed_of_ok (solid : ¬ text.Blank)
    (answered : normalizer.verbalized (prepare text) = .ok answer) :
    normalizer.normalizeDetailed text = .ok (normalizer.concluded text answer) := by
  simp [normalizeDetailed, prepare_ne_nil solid, run_eq_verbalized, answered, Except.map]

/-- Unless the text itself stands in, a normalization is what is made of the verbalized text. -/
theorem exists_concluded (solid : ¬ text.Blank) {detail : Normalization}
    (success : normalizer.normalizeDetailed text = .ok detail) (kept : detail.fellBack = false) :
    ∃ answer, normalizer.verbalized (prepare text) = .ok answer ∧
      detail = normalizer.concluded text answer := by
  cases answered : normalizer.verbalized (prepare text) with
  | error fault =>
    rw [normalizeDetailed_of_error solid answered] at success
    split at success
    · cases success
      cases kept
    · cases success
  | ok answer =>
    rw [normalizeDetailed_of_ok solid answered] at success
    exact ⟨answer, rfl, (Except.ok.inj success).symm⟩

end SpokenForm.Normalizer
