import SpokenForm.Proofs.Distinct
import SpokenForm.Proofs.Normalizer.Outcome

/-! Options of a text. The search goes once through the tagged texts and only adds behind what it has
found, so the options by fewer tagged texts are the first ones; and the best tagged text alone is the
one that a plain normalization uses. -/
namespace SpokenForm

/-- The grammar answers for an input, and its best outputs are the first ones of more outputs. -/
structure Grammar.ConsistentOn (grammar : Grammar Weight) (input : Text) : Prop where
  answers : ∀ n, 1 ≤ n → ∃ lattice, grammar input n = .ok lattice
  nBest_eq : ∀ m n, 1 ≤ m → m ≤ n → ∀ few many, grammar input m = .ok few →
    grammar input n = .ok many → few.nBest m = (many.nBest n).take m

namespace Lattice

variable {W : Type} {lattice : Lattice W}

theorem nBest_eq_nil_iff {n : Nat} (positive : 1 ≤ n) :
    lattice.nBest n = [] ↔ lattice.isEmpty = true := by
  obtain ⟨paths⟩ := lattice
  obtain ⟨n, rfl⟩ := Nat.exists_eq_add_of_le' positive
  cases paths with
  | nil => simp [nBest, isEmpty]
  | cons path paths => simp [nBest, isEmpty, List.eraseDups_cons]

theorem length_nBest_le (n : Nat) : (lattice.nBest n).length ≤ n := List.length_take_le ..

theorem nBest_one : lattice.nBest 1 = lattice.shortest?.toList := by
  obtain ⟨paths⟩ := lattice
  cases paths with
  | nil => rfl
  | cons path paths => simp [nBest, shortest?, List.eraseDups_cons]

end Lattice

namespace Normalizer

variable {normalizer : Normalizer} {prepared : Text}

/-! The search through tagged texts. -/

/-- A tagged text adds at most one option, which is new, or ends the search. -/
theorem optionsOf_cons (normalizer : Normalizer) (prepared : Text) (found : List Text)
    (tagged : Text) (rest : List Text) :
    (∃ next, normalizer.optionsOf prepared found (tagged :: rest) =
        normalizer.optionsOf prepared next rest ∧
      (next = found ∨ ∃ finished, finished ∉ found ∧ next = found ++ [finished])) ∨
    (∃ fault, normalizer.optionsOf prepared found (tagged :: rest) = .error fault) := by
  rw [optionsOf]
  cases normalizer.verbalize tagged with
  | ok verbalized =>
    refine .inl ⟨_, rfl, ?_⟩
    by_cases known : normalizer.finish prepared verbalized.1 ∈ found
    · exact .inl (by simp [known])
    · exact .inr ⟨_, known, by simp [known]⟩
  | error fault =>
    cases recoverable : fault.isRecoverable with
    | true => exact .inl ⟨found, by simp [recoverable], .inl rfl⟩
    | false => exact .inr ⟨fault, by simp [recoverable]⟩

/-- A search that ends well has added distinct options, at most one for each tagged text. -/
theorem optionsOf_extends {found taggings all : List Text}
    (success : normalizer.optionsOf prepared found taggings = .ok all) :
    found <+: all ∧ all.length ≤ found.length + taggings.length ∧ (found.Nodup → all.Nodup) := by
  induction taggings generalizing found with
  | nil =>
    obtain rfl : found = all := Except.ok.inj success
    simp
  | cons tagged taggings ih =>
    rcases optionsOf_cons normalizer prepared found tagged taggings with
      ⟨next, same, rfl | ⟨finished, fresh, rfl⟩⟩ | ⟨fault, failed⟩
    · obtain ⟨starts, few, distinct⟩ := ih (same.symm.trans success)
      exact ⟨starts, by simp; omega, distinct⟩
    · obtain ⟨starts, few, distinct⟩ := ih (same.symm.trans success)
      refine ⟨(List.prefix_append ..).trans starts, ?_, fun nodup => distinct ?_⟩
      · simp at few ⊢
        omega
      · simpa [List.nodup_append, nodup] using fun _ member => ne_of_mem_of_not_mem member fresh
    · cases failed.symm.trans success

theorem optionsOf_append (found front back : List Text) :
    normalizer.optionsOf prepared found (front ++ back) =
      (normalizer.optionsOf prepared found front).bind
        fun middle => normalizer.optionsOf prepared middle back := by
  induction front generalizing found with
  | nil => rfl
  | cons tagged front ih =>
    rw [List.cons_append, optionsOf, optionsOf]
    cases normalizer.verbalize tagged with
    | ok verbalized => exact ih _
    | error fault =>
      cases recoverable : fault.isRecoverable with
      | true => simpa [recoverable] using ih found
      | false => simp [recoverable, Except.bind]

/-! Options by tagged texts of a consistent tagger. -/

variable {text : Text}

theorem options_eq (solid : ¬ text.Blank) (n : Nat) :
    normalizer.options text n =
      (normalizer.tag (normalizer.taggerInput (prepare text)) (max n 1)).bind
        fun lattice => normalizer.optionsOf (prepare text) [] (lattice.nBest (max n 1)) := by
  have something := prepare_ne_nil solid
  simp [options, something, bind]

theorem options_eq_ok (solid : ¬ text.Blank) {n : Nat} {found : List Text}
    (success : normalizer.options text n = .ok found) :
    ∃ lattice, normalizer.tag (normalizer.taggerInput (prepare text)) (max n 1) = .ok lattice ∧
      normalizer.optionsOf (prepare text) [] (lattice.nBest (max n 1)) = .ok found := by
  rw [options_eq solid] at success
  cases tagged : normalizer.tag (normalizer.taggerInput (prepare text)) (max n 1) with
  | error fault => simp [tagged, Except.bind] at success
  | ok lattice => exact ⟨lattice, rfl, by simpa [tagged, Except.bind] using success⟩

theorem tag_eq_ok_iff {input : Text} {n : Nat} {lattice : Lattice Weight} :
    normalizer.tag input n = .ok lattice ↔
      normalizer.grammars.tagger input n = .ok lattice ∧ lattice.isEmpty = false := by
  rw [tag]
  cases normalizer.grammars.tagger input n with
  | error cause => simp
  | ok answer =>
    cases empty : answer.isEmpty with
    | true =>
      simp only [empty, if_true, reduceCtorEq, Except.ok.injEq, false_iff, not_and]
      rintro rfl
      simp [empty]
    | false =>
      simp only [empty, Bool.false_eq_true, if_false, Except.ok.injEq, iff_self_and]
      rintro rfl
      exact empty

theorem fatal_of_tag {input : Text} {n : Nat} {fault : NormalizationError}
    (failed : normalizer.tag input n = .error fault) : fault.Fatal := by
  unfold tag at failed
  split at failed
  · cases failed
    exact .tagging ..
  · split at failed
    · cases failed
      exact .noTaggingPath _
    · cases failed

/-- A consistent tagger that has paths has some when asked for fewer, and they come first. -/
theorem tag_of_consistentOn {input : Text} (consistent : normalizer.grammars.tagger.ConsistentOn input)
    {m n : Nat} (positive : 1 ≤ m) (fewer : m ≤ n) {many : Lattice Weight}
    (tagged : normalizer.tag input n = .ok many) :
    ∃ few, normalizer.tag input m = .ok few ∧ few.nBest m = (many.nBest n).take m := by
  obtain ⟨answered, nonempty⟩ := tag_eq_ok_iff.mp tagged
  obtain ⟨few, alsoAnswered⟩ := consistent.answers m positive
  have first := consistent.nBest_eq m n positive fewer few many alsoAnswered answered
  refine ⟨few, tag_eq_ok_iff.mpr ⟨alsoAnswered, ?_⟩, first⟩
  have kept : (many.nBest n).take m ≠ [] := by
    have whole : many.nBest n ≠ [] := by
      simp [Lattice.nBest_eq_nil_iff (Nat.le_trans positive fewer), nonempty]
    simpa [List.take_eq_nil_iff, whole] using Nat.ne_of_gt positive
  rw [← first] at kept
  simpa [Lattice.nBest_eq_nil_iff positive] using kept

/-- Fewer tagged texts give the first options. -/
theorem options_prefix (solid : ¬ text.Blank)
    (consistent : normalizer.grammars.tagger.ConsistentOn (normalizer.taggerInput (prepare text)))
    {m n : Nat} (positive : 1 ≤ m) (fewer : m ≤ n) {found : List Text}
    (success : normalizer.options text n = .ok found) :
    ∃ first, normalizer.options text m = .ok first ∧ first <+: found := by
  obtain ⟨many, tagged, searched⟩ := options_eq_ok solid success
  rw [Nat.max_eq_left (Nat.le_trans positive fewer)] at tagged searched
  obtain ⟨few, alsoTagged, same⟩ := tag_of_consistentOn consistent positive fewer tagged
  -- The longer search begins with the whole of the shorter one.
  rw [← List.take_append_drop m (many.nBest n), optionsOf_append, ← same] at searched
  cases front : normalizer.optionsOf (prepare text) [] (few.nBest m) with
  | error fault => simp [front, Except.bind] at searched
  | ok first =>
    refine ⟨first, ?_, ?_⟩
    · rw [options_eq solid, Nat.max_eq_left positive, alsoTagged]
      exact front
    · rw [front] at searched
      exact (optionsOf_extends searched).1

/-- One tagged text gives the plain normalization, or nothing where the text may stand in for it. -/
theorem options_one (normalizer : Normalizer) (solid : ¬ text.Blank) :
    normalizer.options text 1 =
      match normalizer.tryNormalize text with
      | .ok result => .ok [result]
      | .error fault => if fault.isRecoverable then .ok [] else .error fault := by
  have something := prepare_ne_nil solid
  rw [options_eq solid, Nat.max_self]
  cases tagged : normalizer.tag (normalizer.taggerInput (prepare text)) 1 with
  | error fault =>
    have passed := (fatal_of_tag tagged).isRecoverable
    simp [tryNormalize, something, run, tagged, passed, bind, Except.bind, Except.map]
  | ok lattice =>
    obtain ⟨-, nonempty⟩ := tag_eq_ok_iff.mp tagged
    obtain ⟨path, paths, rfl⟩ : ∃ path paths, lattice = ⟨path :: paths⟩ := by
      obtain ⟨paths⟩ := lattice
      cases paths with
      | nil => cases nonempty
      | cons path paths => exact ⟨path, paths, rfl⟩
    cases verbalized : normalizer.verbalize path.text with
    | error fault =>
      simp [tryNormalize, something, run, tagged, Lattice.nBest_one, Lattice.shortest?, optionsOf,
        verbalized, bind, Except.bind, Except.map]
    | ok result =>
      simp [tryNormalize, something, run, tagged, Lattice.nBest_one, Lattice.shortest?, optionsOf,
        verbalized, bind, Except.bind, Except.map, pure, Except.pure]

/-- The options of a text are distinct and no more than the tagged texts asked for. Fewer tagged texts
give the first of them, one gives the plain normalization, and none is as one. -/
theorem options_grow_from_tryNormalize (normalizer : Normalizer) (solid : ¬ text.Blank)
    (consistent : normalizer.grammars.tagger.ConsistentOn (normalizer.taggerInput (prepare text)))
    (n : Nat) :
    (∀ found, normalizer.options text n = .ok found →
      found.Nodup ∧ found.length ≤ max n 1 ∧
      ∀ m, 1 ≤ m → m ≤ n → ∃ first, normalizer.options text m = .ok first ∧ first <+: found) ∧
    normalizer.options text 0 = normalizer.options text 1 ∧
    normalizer.options text 1 =
      match normalizer.tryNormalize text with
      | .ok result => .ok [result]
      | .error fault => if fault.isRecoverable then .ok [] else .error fault := by
  refine ⟨fun found success => ?_, ?_, options_one normalizer solid⟩
  · obtain ⟨lattice, -, searched⟩ := options_eq_ok solid success
    obtain ⟨-, few, distinct⟩ := optionsOf_extends searched
    refine ⟨distinct .nil, ?_, fun m positive fewer =>
      options_prefix solid consistent positive fewer success⟩
    have bounded := lattice.length_nBest_le (max n 1)
    simp only [List.length_nil, Nat.zero_add] at few
    omega
  · rw [options_eq solid, options_eq solid]
    rfl

theorem nBest_listing {outputs : Text → List Text} {input : Text}
    (nodup : (outputs input).Nodup) {n : Nat} {lattice : Lattice Weight}
    (answered : listing outputs input n = .ok lattice) :
    lattice.nBest n = (outputs input).take n := by
  obtain rfl := Except.ok.inj answered
  have distinct : ((outputs input).take n).Nodup := nodup.sublist (List.take_sublist ..)
  simp [Lattice.truncate, Lattice.nBest, ← List.map_take, Function.comp_def,
    eraseDups_of_nodup distinct, List.take_take]

theorem listing_consistentOn {outputs : Text → List Text} {input : Text}
    (nodup : (outputs input).Nodup) : (listing outputs).ConsistentOn input where
  answers _ _ := ⟨_, rfl⟩
  nBest_eq m n _ fewer few many fewAnswered manyAnswered := by
    rw [nBest_listing nodup fewAnswered, nBest_listing nodup manyAnswered, List.take_take,
      Nat.min_eq_left fewer]

theorem options_five :
    five.options "5".toList 4 = .ok ["five".toList, "V".toList] ∧
    (∀ m, 1 ≤ m → m ≤ 4 → ∃ first, five.options "5".toList m = .ok first ∧
      first <+: ["five".toList, "V".toList]) ∧
    five.options "5".toList 0 = .ok ["five".toList] := by
  have whole : five.options "5".toList 4 = .ok ["five".toList, "V".toList] := by decide +kernel
  have tried : five.tryNormalize "5".toList = .ok "five".toList := by decide +kernel
  have nodup : (taggings "5".toList).Nodup := by decide +kernel
  have solid : ¬ Text.Blank "5".toList := by decide
  obtain ⟨each, none, one⟩ :=
    options_grow_from_tryNormalize five solid (listing_consistentOn nodup) 4
  rw [tried] at one
  exact ⟨whole, (each _ whole).2.2, none.trans one⟩

end Normalizer

end SpokenForm
