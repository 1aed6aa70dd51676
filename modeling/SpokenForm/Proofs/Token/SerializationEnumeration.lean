import Mathlib.Algebra.BigOperators.Group.List.Lemmas
import SpokenForm.Proofs.Token.ArrangementContent
import SpokenForm.Token.Serializations

/-! All serializations of a run of tokens. The number of a serialization is its place among all
combinations of arrangements, so a run yields every combination exactly once. -/
namespace SpokenForm

/-- The digits of a number lead to the arrangements at its place, and what is left of the number is
how often all combinations have been passed. -/
theorem mixedRadix_counts (tokens : List Token) {number : Nat} (small : number < Count.largest) :
    (mixedRadix (tokens.map Token.arrangementCount) number).2 = number / Token.exactTotal tokens ∧
      (Token.choicesAll orders tokens)[number % Token.exactTotal tokens]? =
        some (List.zipWith Token.arrange tokens
          (mixedRadix (tokens.map Token.arrangementCount) number).1) := by
  induction tokens with
  | nil => simp [mixedRadix, Token.exactTotal, Token.choicesAll, Nat.mod_one]
  | cons token tokens ih =>
    obtain ⟨left, later⟩ := ih
    have uniform : ∀ first ∈ Token.choices orders token,
        ((Token.choicesAll orders tokens).map (first :: ·)).length = Token.exactTotal tokens := by
      simp [Token.length_choicesAll]
    have leftSmall : number / Token.exactTotal tokens < Count.largest :=
      Nat.lt_of_le_of_lt (Nat.div_le_self ..) small
    have digit := Nat.mod_lt (number / Token.exactTotal tokens) (Token.exactCount_pos token)
    have first := Token.getElem?_choices token digit
      (Nat.lt_of_le_of_lt (Nat.mod_le ..) leftSmall)
    simp only [List.map_cons, mixedRadix, left, Token.arrangementCount_eq token,
      Count.div_saturate leftSmall, Count.mod_saturate leftSmall, List.zipWith_cons_cons]
    constructor
    · rw [Token.exactTotal_cons, Nat.mul_comm, Nat.div_div_eq_div_mul]
    · rw [Token.choicesAll, getElem?_flatMap_of_length uniform (Token.exactTotal_pos tokens),
        Token.exactTotal_cons, Nat.mod_mul_left_div_self, Nat.mod_mul_left_mod, first,
        Option.bind_some, List.getElem?_map, later, Option.map_some]

namespace Serializations

/-- What a run yields before it ends. -/
inductive Yields : Serializations → List Text → Prop where
  | ended {run : Serializations} (exhausted : run.next? = none) : Yields run []
  | item {run later : Serializations} {text : Text} {texts : List Text}
      (next : run.next? = some (text, later)) (rest : Yields later texts) :
      Yields run (text :: texts)

theorem Yields.unique {run : Serializations} {first second : List Text} (yields : run.Yields first)
    (alike : run.Yields second) : first = second := by
  induction yields generalizing second with
  | ended exhausted =>
    cases alike with
    | ended _ => rfl
    | item next _ => simp [exhausted] at next
  | item next _ ih =>
    cases alike with
    | ended exhausted => simp [next] at exhausted
    | item other rest =>
      obtain ⟨rfl, rfl⟩ := Prod.mk.inj (Option.some.inj (next.symm.trans other))
      rw [ih rest]

theorem yields_from (run : Serializations) :
    run.Yields ((List.range' run.next run.remaining).map run.item) := by
  obtain ⟨tokens, next⟩ := run
  generalize same : Serializations.remaining ⟨tokens, next⟩ = count
  induction count generalizing next with
  | zero =>
    have passed : ¬ next < Serializations.total ⟨tokens, next⟩ := by
      simp only [remaining] at same
      omega
    exact .ended (by simp [next?, passed])
  | succ count ih =>
    have before : next < Serializations.total ⟨tokens, next⟩ := by
      simp only [remaining] at same
      omega
    have step : next? ⟨tokens, next⟩ = some (item ⟨tokens, next⟩ next, ⟨tokens, next + 1⟩) := by
      simp [next?, before]
    refine .item step (ih (next + 1) ?_)
    simp only [remaining, total, counts] at same ⊢
    omega

theorem Yields.length_eq {run : Serializations} {texts : List Text} (yields : run.Yields texts) :
    texts.length = run.remaining := by
  rw [yields.unique (yields_from run), List.length_map, List.length_range']

theorem total_eq {tokens : List Token} (nonempty : tokens ≠ []) (next : Nat) :
    total ⟨tokens, next⟩ = Count.saturate (Token.exactTotal tokens) := by
  rw [total, counts, Token.product_arrangementCount]
  simp [nonempty]

/-- Below the largest count the arrangements of a run are all combinations of arrangements of its
tokens, in their order. -/
theorem arrangements_eq {tokens : List Token} (nonempty : tokens ≠ []) :
    (List.range (ofTokens tokens).total).map (ofTokens tokens).arrangement =
      (Token.choicesAll orders tokens).take Count.largest := by
  rw [ofTokens, total_eq nonempty]
  apply List.ext_getElem?
  intro number
  rw [List.getElem?_map, List.getElem?_take]
  by_cases inside : number < Count.saturate (Token.exactTotal tokens)
  · have exact : number < Token.exactTotal tokens := (Nat.lt_min.mp inside).1
    have small : number < Count.largest := (Nat.lt_min.mp inside).2
    have placed := (mixedRadix_counts tokens small).2
    rw [Nat.mod_eq_of_lt exact] at placed
    rw [List.getElem?_range inside, Option.map_some, if_pos small, placed]
    rfl
  · have beyond : number < Count.largest →
        (Token.choicesAll orders tokens)[number]? = none := by
      intro small
      rw [List.getElem?_eq_none_iff, Token.length_choicesAll]
      rw [Count.saturate_eq] at inside
      omega
    rw [List.getElem?_eq_none (by simpa using inside), Option.map_none]
    split
    · rename_i small
      exact (beyond small).symm
    · rfl

/-- A run yields the serializations of all combinations of arrangements, as far as their numbers
stay below the largest count. -/
theorem yields_choices {tokens : List Token} (nonempty : tokens ≠ []) :
    (ofTokens tokens).Yields
      (((Token.choicesAll orders tokens).take Count.largest).map Token.serializeAll) := by
  have yields := yields_from (ofTokens tokens)
  have items : (List.range' 0 (ofTokens tokens).remaining).map (ofTokens tokens).item =
      ((Token.choicesAll orders tokens).take Count.largest).map Token.serializeAll := by
    rw [← arrangements_eq nonempty, List.map_map, ← List.range_eq_range']
    rfl
  rwa [← items]

theorem yields_all {tokens : List Token} (nonempty : tokens ≠ [])
    (fits : Token.exactTotal tokens ≤ Count.largest) :
    (ofTokens tokens).Yields ((Token.choicesAll orders tokens).map Token.serializeAll) := by
  have yields := yields_choices nonempty
  rwa [List.take_of_length_le (by rwa [Token.length_choicesAll])] at yields

theorem counts_prod_eq {tokens : List Token} (fits : Token.exactTotal tokens ≤ Count.largest) :
    (tokens.map Token.arrangementCount).prod = Token.exactTotal tokens := by
  have each : tokens.map Token.arrangementCount = tokens.map Token.exactCount := by
    apply List.map_congr_left
    intro token member
    have divides : Token.exactCount token ∣ Token.exactTotal tokens :=
      List.dvd_prod (List.mem_map_of_mem member)
    have bound := Nat.le_of_dvd (Token.exactTotal_pos tokens) divides
    rw [Token.arrangementCount_eq, Count.saturate_of_le (Nat.le_trans bound fits)]
  rw [each, Token.exactTotal]

theorem nodup_serializeAll {tokens : List Token} {arranged : List (List Token)}
    (all : arranged.Perm (Token.choicesAll List.permutations tokens))
    (spelled : ∃ text, TaggedText.parse text = .ok tokens)
    (distinct : ∀ token ∈ tokens, Token.DistinctNames token) :
    (arranged.map Token.serializeAll).Nodup := by
  have once : arranged.Nodup := all.nodup_iff.mpr
    (Token.nodup_choicesAll reorders_permutations (fun _ => List.nodup_permutations _) distinct)
  refine once.map_on fun first inFirst second inSecond same => ?_
  have spelledChoice {choice : List Token} (member : choice ∈ arranged) :
      ∃ text, TaggedText.parse text = .ok choice :=
    TaggedText.exists_parse_of_mem_choicesAll reorders_permutations spelled (all.mem_iff.mp member)
  exact TaggedText.serializeAll_injective (spelledChoice inFirst) (spelledChoice inSecond) same

/-- If their exact number fits a count, a run yields as many serializations, one for every
combination of choices of an order for the fields of each token, at every depth, whose order is not
settled. With distinct field names they are distinct texts, and no serialization is left out. -/
theorem yields_every_arrangement_once (tokens : List Token) (nonempty : tokens ≠ [])
    (fits : Token.exactTotal tokens ≤ Count.largest) :
    ∃ arranged : List (List Token),
      (ofTokens tokens).Yields (arranged.map Token.serializeAll) ∧
      arranged.Perm (Token.choicesAll List.permutations tokens) ∧
      arranged.length = Token.exactTotal tokens ∧
      (ofTokens tokens).total = Token.exactTotal tokens ∧
      (tokens.map Token.arrangementCount).prod = Token.exactTotal tokens ∧
      ((∃ text, TaggedText.parse text = .ok tokens) →
        (∀ token ∈ tokens, Token.DistinctNames token) →
        (arranged.map Token.serializeAll).Nodup ∧
          ∀ text, text ∈ arranged.map Token.serializeAll ↔
            ∃ choice ∈ Token.choicesAll List.permutations tokens,
              Token.serializeAll choice = text) := by
  have all : (Token.choicesAll orders tokens).Perm (Token.choicesAll List.permutations tokens) :=
    Token.choicesAll_perm orders_perm_permutations tokens
  refine ⟨Token.choicesAll orders tokens, yields_all nonempty fits, all,
    Token.length_choicesAll tokens, ?_, counts_prod_eq fits, ?_⟩
  · rw [ofTokens, total_eq nonempty, Count.saturate_of_le fits]
  · intro spelled distinct
    refine ⟨nodup_serializeAll all spelled distinct, fun text => ?_⟩
    rw [List.mem_map]
    exact exists_congr fun choice => and_congr_left fun _ => all.mem_iff

/-- A decimal with its unit, neither of whose tokens has a settled order. -/
def decimalMeasure : Token :=
  [.nested "tokens".toList [.nested "measure".toList [
    .nested "decimal".toList [
      .leaf "integer_part".toList "1".toList, .leaf "fractional_part".toList "5".toList],
    .leaf "units".toList "m".toList]]]

def listedDate : Token :=
  [.nested "tokens".toList [.nested "date".toList [
    .leaf "year".toList "2013".toList, .leaf "day".toList "24.".toList,
    .leaf "field_order".toList "day year".toList]]]

theorem decimalMeasure_distinctNames : Token.DistinctNames decimalMeasure := by
  refine ⟨by decide, fun _ _ member => ?_⟩
  obtain ⟨rfl, rfl⟩ := Field.nested.inj (List.mem_singleton.mp member)
  refine ⟨by decide, fun _ _ member => ?_⟩
  obtain ⟨rfl, rfl⟩ := Field.nested.inj (List.mem_singleton.mp member)
  refine ⟨by decide, fun _ _ member => ?_⟩
  obtain ⟨rfl, rfl⟩ : _ ∧ _ := by simpa using member
  exact ⟨by decide, by simp⟩

theorem listedDate_distinctNames : Token.DistinctNames listedDate := by
  refine ⟨by decide, fun _ _ member => ?_⟩
  obtain ⟨rfl, rfl⟩ := Field.nested.inj (List.mem_singleton.mp member)
  refine ⟨by decide, fun _ _ member => ?_⟩
  obtain ⟨rfl, rfl⟩ := Field.nested.inj (List.mem_singleton.mp member)
  exact ⟨by decide, by simp⟩

set_option maxRecDepth 2000 in
theorem parse_measure_date :
    TaggedText.parse (Token.serializeAll [decimalMeasure, listedDate]) =
      .ok [decimalMeasure, listedDate] := rfl

theorem yields_every_arrangement_once_measure_date :
    Token.exactTotal [decimalMeasure, listedDate] ≤ Count.largest ∧
      (∃ text, TaggedText.parse text = .ok [decimalMeasure, listedDate]) ∧
      (∀ token ∈ [decimalMeasure, listedDate], Token.DistinctNames token) ∧
      ∃ texts, (ofTokens [decimalMeasure, listedDate]).Yields texts ∧ texts.length = 4 ∧
        texts.Nodup := by
  have fits : Token.exactTotal [decimalMeasure, listedDate] ≤ Count.largest := by decide
  have spelled : ∃ text, TaggedText.parse text = .ok [decimalMeasure, listedDate] :=
    ⟨_, parse_measure_date⟩
  have distinct : ∀ token ∈ [decimalMeasure, listedDate], Token.DistinctNames token := by
    simp [decimalMeasure_distinctNames, listedDate_distinctNames]
  obtain ⟨arranged, yields, -, length, -, -, texts⟩ :=
    yields_every_arrangement_once [decimalMeasure, listedDate] (by simp) fits
  have four : Token.exactTotal [decimalMeasure, listedDate] = 4 := by decide
  refine ⟨fits, spelled, distinct, _, yields, ?_, (texts spelled distinct).1⟩
  rw [List.length_map, length, four]

end Serializations

end SpokenForm
