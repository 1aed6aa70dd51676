import SpokenForm.Proofs.Normalizer.Stages
import SpokenForm.Proofs.Punctuation.Respacing

/-! Post-processing of punctuation. It is the last step of a normalization and cannot fail, so two
normalizers that differ in nothing else fail alike, and their texts differ in white space only. -/
namespace SpokenForm.Normalizer

/-- A normalizer with the post-processing of punctuation switched on or off. -/
def withPostProcess (normalizer : Normalizer) (on : Bool) : Normalizer :=
  { normalizer with postProcess := on }

variable {normalizer : Normalizer}

theorem verbalizeChunks_withPostProcess (on : Bool) (chunks : List (List Token)) :
    (normalizer.withPostProcess on).verbalizeChunks chunks = normalizer.verbalizeChunks chunks := by
  induction chunks with
  | nil => rfl
  | cons chunk chunks ih =>
    rw [verbalizeChunks, verbalizeChunks, ih]
    rfl

theorem verbalize_withPostProcess (on : Bool) (tagged : Text) :
    (normalizer.withPostProcess on).verbalize tagged = normalizer.verbalize tagged := by
  simp only [verbalize, verbalizeChunks_withPostProcess]
  rfl

theorem verbalized_withPostProcess (on : Bool) (prepared : Text) :
    (normalizer.withPostProcess on).verbalized prepared = normalizer.verbalized prepared := by
  simp only [verbalized, verbalize_withPostProcess]
  rfl

theorem unspaced_finish (prepared text : Text) :
    ((normalizer.withPostProcess true).finish prepared text).unspaced =
      ((normalizer.withPostProcess false).finish prepared text).unspaced := by
  have moved := Punctuation.respaced_restoreSpacing prepared
    (Punctuation.detokenize (normalizer.refine text))
  calc ((normalizer.withPostProcess true).finish prepared text).unspaced
      = (Punctuation.detokenize (normalizer.refine text)).unspaced := moved.unspaced
    _ = (normalizer.refine text).unspaced := Punctuation.unspaced_detokenize _

theorem tidy_finish (prepared text : Text) :
    ((normalizer.withPostProcess true).finish prepared text).Tidy :=
  (Punctuation.respaced_restoreSpacing prepared _).tidy (Punctuation.tidy_detokenize _)

/-- Post-processing of punctuation only moves spaces. With it and without it a normalization fails
alike or gives the same text up to white space; and unless the text itself stands in, the text with it
is tidy. -/
theorem postProcess_only_moves_spaces (normalizer : Normalizer) {text : Text} (solid : ¬ text.Blank) :
    ((normalizer.withPostProcess true).tryNormalize text).map Text.unspaced =
      ((normalizer.withPostProcess false).tryNormalize text).map Text.unspaced ∧
    ((normalizer.withPostProcess true).normalize text).map Text.unspaced =
      ((normalizer.withPostProcess false).normalize text).map Text.unspaced ∧
    (∀ result, (normalizer.withPostProcess true).tryNormalize text = .ok result → result.Tidy) ∧
    ∀ detail, (normalizer.withPostProcess true).normalizeDetailed text = .ok detail →
      detail.fellBack = false → detail.text.Tidy := by
  have tried (on : Bool) := tryNormalize_eq_verbalized (normalizer.withPostProcess on) solid
  simp only [verbalized_withPostProcess] at tried
  refine ⟨?_, ?_, ?_, ?_⟩
  · rw [tried, tried]
    cases normalizer.verbalized (prepare text) with
    | error fault => rfl
    | ok answer => exact congrArg Except.ok (unspaced_finish _ _)
  · rw [normalize, normalize]
    cases answered : normalizer.verbalized (prepare text) with
    | error fault =>
      rw [normalizeDetailed_of_error solid ((verbalized_withPostProcess true _).trans answered),
        normalizeDetailed_of_error solid ((verbalized_withPostProcess false _).trans answered)]
    | ok answer =>
      rw [normalizeDetailed_of_ok solid ((verbalized_withPostProcess true _).trans answered),
        normalizeDetailed_of_ok solid ((verbalized_withPostProcess false _).trans answered)]
      exact congrArg Except.ok (unspaced_finish _ _)
  · intro result success
    rw [tried] at success
    cases answered : normalizer.verbalized (prepare text) with
    | error fault =>
      rw [answered] at success
      cases success
    | ok answer =>
      rw [answered] at success
      cases success
      exact tidy_finish _ _
  · intro detail success kept
    obtain ⟨answer, -, rfl⟩ := exists_concluded solid success kept
    exact tidy_finish _ _

/-- A normalizer that always gives the same words. -/
def remark : Normalizer where
  direction := .normalize
  language := "en".toList
  grammars := ⟨listing fun _ => ["tokens \x7b name: \"remark\" \x7d".toList],
    listing fun _ => ["well , \" yes \" .".toList], none⟩
  budget := .standard
  preProcess := false
  postProcess := false

theorem postProcess_only_moves_spaces_remark :
    (remark.withPostProcess false).normalize "Well, \"yes\" .".toList =
      .ok "well , \" yes \" .".toList ∧
    (remark.withPostProcess true).normalize "Well, \"yes\" .".toList =
      .ok "well, \"yes\" .".toList ∧
    (Except.ok "well, \"yes\" .".toList : Except NormalizationError Text).map Text.unspaced =
      (Except.ok "well , \" yes \" .".toList).map Text.unspaced ∧
    Text.Tidy "well, \"yes\" .".toList := by
  have solid : ¬ Text.Blank "Well, \"yes\" .".toList := by decide
  have plain : (remark.withPostProcess false).normalize "Well, \"yes\" .".toList =
      .ok "well , \" yes \" .".toList := by decide +kernel
  have mended : (remark.withPostProcess true).normalize "Well, \"yes\" .".toList =
      .ok "well, \"yes\" .".toList := by decide +kernel
  have tried : (remark.withPostProcess true).tryNormalize "Well, \"yes\" .".toList =
      .ok "well, \"yes\" .".toList := by decide +kernel
  obtain ⟨-, same, tidy, -⟩ := postProcess_only_moves_spaces remark solid
  rw [plain, mended] at same
  exact ⟨plain, mended, same, tidy _ tried⟩

end SpokenForm.Normalizer
