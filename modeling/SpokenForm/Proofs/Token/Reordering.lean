import Mathlib.Data.List.Perm.Basic
import SpokenForm.Proofs.Token.ArrangementContent

/-! Tokens that differ in the source order of unsettled fields only. With distinct field names they
have the same arrangements, although the numbers of these differ. -/
namespace SpokenForm

/-- The fields of nested tokens may stand in another order where it is not settled. -/
inductive Field.Reordered : Field → Field → Prop where
  | leaf (key text : Text) : Field.Reordered (.leaf key text) (.leaf key text)
  | flag (key : Text) (value : Bool) : Field.Reordered (.flag key value) (.flag key value)
  | nested (key : Text) {fields middle result : List Field}
      (each : List.Forall₂ Field.Reordered fields middle) (own : middle.Perm result)
      (settled : Token.isOrderFixed fields = true → middle = result) :
      Field.Reordered (.nested key fields) (.nested key result)

/-- The fields of a token, and of the tokens inside it, may stand in another order where it is not
settled. -/
def Token.Reordered (first second : Token) : Prop :=
  ∃ middle, List.Forall₂ Field.Reordered first middle ∧ middle.Perm second ∧
    (isOrderFixed first = true → middle = second)

/-! What settles an order does not depend on the order, if the names are distinct. -/

section

variable {α β : Type} [BEq β] [LawfulBEq β] {key : α → β} {first second : List α}

theorem find?_key_iff (distinct : (first.map key).Nodup) {name : β} {item : α} :
    first.find? (fun entry => key entry == name) = some item ↔ item ∈ first ∧ key item = name := by
  constructor
  · intro found
    exact ⟨List.mem_of_find?_eq_some found, by simpa using List.find?_some found⟩
  · rintro ⟨member, named⟩
    cases found : first.find? fun entry => key entry == name with
    | none =>
      have unnamed := List.find?_eq_none.mp found item member
      simp [named] at unnamed
    | some twin =>
      have alsoNamed : key twin = name := by simpa using List.find?_some found
      rw [List.inj_on_of_nodup_map distinct (List.mem_of_find?_eq_some found) member
        (alsoNamed.trans named.symm)]

theorem find?_perm (permuted : first.Perm second) (distinct : (first.map key).Nodup) (name : β) :
    first.find? (fun entry => key entry == name) = second.find? fun entry => key entry == name := by
  have alsoDistinct : (second.map key).Nodup := (permuted.map key).nodup_iff.mp distinct
  ext item
  rw [find?_key_iff distinct, find?_key_iff alsoDistinct, permuted.mem_iff]

end

section

variable {first second : Token} (permuted : first.Perm second)
  (distinct : (first.map Field.key).Nodup)
include permuted distinct

theorem Token.isOrderFixed_perm : isOrderFixed first = isOrderFixed second := by
  have same (name : Text) : get? first name = get? second name := find?_perm permuted distinct name
  simp only [isOrderFixed, preservesOrder, fieldOrder?, same]

theorem Token.exactOrders_perm : exactOrders first = exactOrders second := by
  rw [exactOrders, exactOrders, isOrderFixed_perm permuted distinct, permuted.length_eq]

end

/-! Choices as pointwise membership. -/

variable {free : List Field → List (List Field)}

theorem Field.mem_choicesEach {fields chosen : List Field} :
    chosen ∈ Field.choicesEach free fields ↔
      List.Forall₂ (fun field choice => choice ∈ field.choices free) fields chosen := by
  induction fields generalizing chosen with
  | nil => simp [Field.choicesEach]
  | cons field fields ih =>
    simp only [Field.choicesEach, List.mem_flatMap, List.mem_map, ih, List.forall₂_cons_left_iff]
    constructor
    · rintro ⟨others, later, choice, picked, rfl⟩
      exact ⟨choice, others, picked, later, rfl⟩
    · rintro ⟨choice, others, picked, later, rfl⟩
      exact ⟨others, later, choice, picked, rfl⟩

theorem Token.mem_choicesAll {tokens arranged : List Token} :
    arranged ∈ choicesAll free tokens ↔
      List.Forall₂ (fun token choice => choice ∈ choices free token) tokens arranged := by
  induction tokens generalizing arranged with
  | nil => simp [choicesAll]
  | cons token tokens ih =>
    simp only [choicesAll, List.mem_flatMap, List.mem_map, ih, List.forall₂_cons_left_iff]
    constructor
    · rintro ⟨choice, picked, others, later, rfl⟩
      exact ⟨choice, others, picked, later, rfl⟩
    · rintro ⟨choice, others, picked, later, rfl⟩
      exact ⟨choice, picked, others, later, rfl⟩

theorem Token.mem_choices_of_free {token arranged : Token} (unsettled : isOrderFixed token = false) :
    arranged ∈ choices orders token ↔
      ∃ chosen ∈ Field.choicesEach orders token, arranged.Perm chosen := by
  rw [choices, List.mem_flatMap]
  refine exists_congr fun chosen => and_congr_right fun member => ?_
  have outline := Field.choicesEach_outline member
  rw [ordersBy_of_free ((isOrderFixed_congr outline).trans unsettled), mem_orders]

theorem forall₂_congr_left {α β γ : Type} {P : α → β → Prop} {R : α → γ → Prop} {S : β → γ → Prop}
    {first : List α} {second : List β} (related : List.Forall₂ P first second)
    (same : ∀ a b, P a b → ∀ c, R a c ↔ S b c) (third : List γ) :
    List.Forall₂ R first third ↔ List.Forall₂ S second third := by
  induction related generalizing third with
  | nil => rw [List.forall₂_nil_left_iff, List.forall₂_nil_left_iff]
  | cons head _ ih => simp only [List.forall₂_cons_left_iff, same _ _ head, ih]

theorem forall₂_imp_of_mem {α β : Type} {R S : α → β → Prop} {first : List α} {second : List β}
    (imp : ∀ a ∈ first, ∀ b, R a b → S a b) (related : List.Forall₂ R first second) :
    List.Forall₂ S first second := by
  induction related with
  | nil => exact .nil
  | cons head _ ih =>
    obtain ⟨own, others⟩ := List.forall_mem_cons.mp imp
    exact .cons (own _ head) (ih others)

/-! Alike fields and tokens. -/

/-- Tokens with the same arrangements. -/
structure Token.Alike (first second : Token) : Prop where
  count : exactCount first = exactCount second
  choices : ∀ arranged, arranged ∈ choices orders first ↔ arranged ∈ choices orders second

/-- Fields with one outline and the same choices inside. -/
structure Field.Alike (first second : Field) : Prop where
  outline : first.outline = second.outline
  count : first.exactCount = second.exactCount
  choices : ∀ choice, choice ∈ first.choices orders ↔ choice ∈ second.choices orders

theorem Field.Alike.refl (field : Field) : field.Alike field := ⟨rfl, rfl, fun _ => Iff.rfl⟩

theorem Token.Alike.trans {first second third : Token} (left : Alike first second)
    (right : Alike second third) : Alike first third :=
  ⟨left.count.trans right.count,
    fun arranged => (left.choices arranged).trans (right.choices arranged)⟩

theorem Field.outlines_of_each {first second : List Field}
    (each : List.Forall₂ Field.Alike first second) :
    first.map Field.outline = second.map Field.outline := by
  induction each with
  | nil => rfl
  | cons head _ ih => rw [List.map_cons, List.map_cons, head.outline, ih]

/-- Alike fields in the same order make alike tokens. -/
theorem Token.alike_of_each {first second : Token} (each : List.Forall₂ Field.Alike first second) :
    Alike first second := by
  have outlines := Field.outlines_of_each each
  have counts : Field.exactCounts first = Field.exactCounts second := by
    clear outlines
    induction each with
    | nil => rfl
    | cons head _ ih => rw [Field.exactCounts, Field.exactCounts, head.count, ih]
  refine ⟨by rw [exactCount, exactCount, exactOrders_congr outlines, counts], fun arranged => ?_⟩
  rw [choices, choices, List.mem_flatMap, List.mem_flatMap]
  refine exists_congr fun chosen => and_congr_left fun _ => ?_
  rw [Field.mem_choicesEach, Field.mem_choicesEach]
  exact forall₂_congr_left each (fun _ _ alike choice => alike.choices choice) chosen

theorem Token.mem_choices_of_perm {first second : Token} (permuted : first.Perm second)
    (unsettled : isOrderFixed first = false) (alsoUnsettled : isOrderFixed second = false)
    {arranged : Token} (member : arranged ∈ choices orders first) :
    arranged ∈ choices orders second := by
  obtain ⟨chosen, picked, own⟩ := (mem_choices_of_free unsettled).mp member
  -- The choices made inside the fields go along with these to their new places.
  obtain ⟨moved, each, alsoPermuted⟩ :=
    List.perm_comp_forall₂ permuted.symm (Field.mem_choicesEach.mp picked)
  exact (mem_choices_of_free alsoUnsettled).mpr
    ⟨moved, Field.mem_choicesEach.mpr each, own.trans alsoPermuted.symm⟩

/-- The same fields in another order make alike tokens, if the order is not settled. -/
theorem Token.alike_of_perm {first second : Token} (permuted : first.Perm second)
    (distinct : (first.map Field.key).Nodup) (unsettled : isOrderFixed first = false) :
    Alike first second := by
  have alsoUnsettled := (isOrderFixed_perm permuted distinct).symm.trans unsettled
  refine ⟨?_, fun arranged => ⟨?_, ?_⟩⟩
  · rw [exactCount, exactCount, exactOrders_perm permuted distinct, Field.exactCounts_eq,
      Field.exactCounts_eq, (permuted.map Field.exactCount).prod_eq]
  · exact mem_choices_of_perm permuted unsettled alsoUnsettled
  · exact mem_choices_of_perm permuted.symm alsoUnsettled unsettled

theorem Token.alike_of_reordered_each {first middle second : Token}
    (distinct : (first.map Field.key).Nodup) (each : List.Forall₂ Field.Alike first middle)
    (own : middle.Perm second) (settled : isOrderFixed first = true → middle = second) :
    Alike first second := by
  have outlines := Field.outlines_of_each each
  refine (alike_of_each each).trans ?_
  cases fixed : isOrderFixed first with
  | true =>
    obtain rfl := settled fixed
    exact ⟨rfl, fun _ => Iff.rfl⟩
  | false =>
    have keys : middle.map Field.key = first.map Field.key := by
      have names := congrArg (List.map Field.key) outlines
      simpa [Function.comp_def, Field.outline_key] using names.symm
    exact alike_of_perm own (keys ▸ distinct) ((isOrderFixed_congr outlines).symm.trans fixed)

theorem Field.alike_of_reordered {field other : Field}
    (distinct : ∀ key fields, field = .nested key fields → Token.DistinctNames fields)
    (reordered : field.Reordered other) : field.Alike other := by
  induction field using Field.inside_induction generalizing other with
  | leaf key text =>
    cases reordered
    exact .refl _
  | flag key value =>
    cases reordered
    exact .refl _
  | nested key fields ih =>
    cases reordered with
    | nested _ each own settled =>
      cases distinct key fields rfl with
      | intro ownDistinct inside =>
        have deeper : ∀ field ∈ fields, ∀ other, field.Reordered other → field.Alike other := by
          intro field member other
          refine ih field member ?_
          rintro key fields rfl
          exact inside key fields member
        have alike := Token.alike_of_reordered_each ownDistinct (forall₂_imp_of_mem deeper each)
          own settled
        refine ⟨rfl, alike.count, fun choice => ?_⟩
        rw [Field.choices, Field.choices, List.mem_map, List.mem_map]
        exact exists_congr fun arranged => and_congr_left fun _ => alike.choices arranged

/-- Reordered tokens with distinct names are alike. -/
theorem Token.alike_of_reordered {first second : Token} (distinct : DistinctNames first)
    (reordered : Reordered first second) : Alike first second := by
  obtain ⟨middle, each, own, settled⟩ := reordered
  cases distinct with
  | intro ownDistinct inside =>
    refine alike_of_reordered_each ownDistinct (forall₂_imp_of_mem ?_ each) own settled
    intro field member other
    refine Field.alike_of_reordered ?_
    rintro key fields rfl
    exact inside key fields member

end SpokenForm
