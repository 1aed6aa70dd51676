import SpokenForm.Proofs.Json.Parsing
import SpokenForm.Proofs.Json.Reading

/-! Values as they are printed. The text of a value that a reader may have taken is a tree that spells the
value, and a value without floating-point numbers is read back as it is. -/
namespace SpokenForm.Json

variable {Allowed : Float → Prop} {depth : Nat} {value : JsonValue} {members : JsonObject}

/-- A tree shows a value: it has all members in their order. -/
def Shows (tree : Syntax) (value : JsonValue) : Prop :=
  Spells Denotes (fun names values members => names = members.map Prod.fst ∧ values = members.map Prod.snd)
    tree value

/-- The text of a value is read as a tree that shows it. -/
def IsPrinted (value : JsonValue) : Prop :=
  ∃ lexemes tree, Prints (compact value) lexemes tree ∧ Shows tree value

theorem isPrinted_word {word : Text} {tree : Syntax} (printed : compact value = word)
    (nonempty : word ≠ []) (letters : word.all Char.isLower = true) (leaf : leaf? (.word word) = some tree)
    (shows : Shows tree value) : IsPrinted value :=
  ⟨_, tree, printed ▸ prints_leaf (lexes_word nonempty (List.all_eq_true.mp letters)) leaf, shows⟩

theorem isPrinted_number {spelling : NumberSpelling} (printed : spelling.text = compact value)
    (wellFormed : spelling.WellFormed) (denotes : Denotes spelling value) : IsPrinted value := by
  have leaf : leaf? (.number spelling.text) = some (.number spelling) := by
    rw [leaf?, numberSpelling?_text wellFormed]
    rfl
  exact ⟨_, _, printed ▸ prints_leaf (lexes_number wellFormed) leaf, .number denotes⟩

theorem isPrinted_string (text : Text) : IsPrinted (.string text) :=
  ⟨_, _, prints_leaf (fun rest _ => lexemesFrom?_quote text rest) rfl, .string (stringValue?_pieces text)⟩

/-! Items and members. -/

theorem joinBy_comma (first second : Text) (rest : List Text) :
    Text.joinBy [','] (first :: second :: rest) = first ++ ',' :: Text.joinBy [','] (second :: rest) := by
  rw [Text.joinBy, List.append_assoc, List.singleton_append]
  simp

theorem exists_printsItems {item : JsonValue} {items : List JsonValue}
    (each : ∀ other ∈ item :: items, IsPrinted other) : ∃ lexemes trees,
      PrintsItems (Text.joinBy [','] (compactItems (item :: items))) lexemes trees ∧
        List.Forall₂ Shows trees (item :: items) := by
  induction items generalizing item with
  | nil =>
    obtain ⟨lexemes, tree, prints, shows⟩ := each item List.mem_cons_self
    exact ⟨lexemes, [tree], prints.items, .cons shows .nil⟩
  | cons next items ih =>
    obtain ⟨printed, others⟩ := List.forall_mem_cons.mp each
    obtain ⟨lexemes, tree, prints, shows⟩ := printed
    obtain ⟨more, trees, printsLater, shownLater⟩ := ih others
    have joined : Text.joinBy [','] (compactItems (item :: next :: items)) =
        compact item ++ ',' :: Text.joinBy [','] (compactItems (next :: items)) := joinBy_comma ..
    exact ⟨_, tree :: trees, joined ▸ prints.itemsCons printsLater, .cons shows shownLater⟩

theorem exists_printsMembers {member : Text × JsonValue} {members : JsonObject}
    (each : ∀ other ∈ member :: members, IsPrinted other.2) : ∃ lexemes trees,
      PrintsMembers (Text.joinBy [','] (compactMembers (member :: members))) lexemes
        ((member :: members).map fun other => other.1.map pieceOf) trees ∧
      List.Forall₂ Shows trees ((member :: members).map Prod.snd) := by
  induction members generalizing member with
  | nil =>
    obtain ⟨lexemes, tree, prints, shows⟩ := each member List.mem_cons_self
    exact ⟨_, [tree], prints.members member.1, .cons shows .nil⟩
  | cons next members ih =>
    obtain ⟨printed, others⟩ := List.forall_mem_cons.mp each
    obtain ⟨lexemes, tree, prints, shows⟩ := printed
    obtain ⟨more, trees, printsLater, shownLater⟩ := ih others
    have joined : Text.joinBy [','] (compactMembers (member :: next :: members)) =
        (quote member.1 ++ ':' :: compact member.2) ++
          ',' :: Text.joinBy [','] (compactMembers (next :: members)) := joinBy_comma ..
    exact ⟨_, tree :: trees, joined ▸ prints.membersCons member.1 printsLater, .cons shows shownLater⟩

theorem isPrinted_array {items : List JsonValue} (each : ∀ item ∈ items, IsPrinted item) :
    IsPrinted (.array items) := by
  cases items with
  | nil => exact ⟨_, _, prints_noItems, .array .nil⟩
  | cons item items =>
    obtain ⟨lexemes, trees, prints, shown⟩ := exists_printsItems each
    exact ⟨_, _, prints.array, .array shown⟩

theorem forall₂_names (members : JsonObject) :
    List.Forall₂ (fun key name => stringValue? key = some name)
      (members.map fun member => member.1.map pieceOf) (members.map Prod.fst) := by
  rw [List.forall₂_map_left_iff, List.forall₂_map_right_iff, List.forall₂_same]
  exact fun member _ => stringValue?_pieces member.1

theorem isPrinted_object (each : ∀ member ∈ members, IsPrinted member.2) : IsPrinted (.object members) := by
  cases members with
  | nil => exact ⟨_, _, prints_noMembers, .object .nil .nil ⟨rfl, rfl⟩⟩
  | cons member members =>
    obtain ⟨lexemes, trees, prints, shown⟩ := exists_printsMembers each
    exact ⟨_, _, prints.object, .object (forall₂_names _) shown ⟨rfl, rfl⟩⟩

/-- Values that a reader may have taken are printed as they are. -/
theorem isPrinted_of_readable (readable : Readable (Decimal.isFinite · = true) depth value) :
    IsPrinted value := by
  induction readable with
  | null => exact isPrinted_word rfl (List.cons_ne_nil _ _) rfl rfl .null
  | bool truth =>
    cases truth with
    | true => exact isPrinted_word rfl (List.cons_ne_nil _ _) rfl rfl (.bool true)
    | false => exact isPrinted_word rfl (List.cons_ne_nil _ _) rfl rfl (.bool false)
  | integer fits =>
    exact isPrinted_number (text_integerSpelling _) (wellFormed_integerSpelling _) (denotes_integerSpelling _)
  | float finite =>
    obtain ⟨spelling, wellFormed, printed, denotes⟩ := exists_float_spelling finite
    exact isPrinted_number printed wellFormed denotes
  | string text => exact isPrinted_string text
  | array each ih => exact isPrinted_array ih
  | object distinct each ih => exact isPrinted_object ih

/-- The text of an object that was read spells the object: its names in their order, with their values. -/
theorem exists_shows_compactObject {object : JsonObject}
    (readable : Readable (Decimal.isFinite · = true) depth (.object object)) :
    ∃ tree, Syntax.ofText? (compactObject object) = some tree ∧ Shows tree (.object object) := by
  obtain ⟨lexemes, tree, prints, shows⟩ := isPrinted_of_readable readable
  exact ⟨tree, prints.ofText?, shows⟩

/-! Values without floating-point numbers. -/

theorem numberValue?_of_isInteger {spelling : NumberSpelling} {integer : Int}
    (exact : spelling.IsInteger integer) (fits : Fits integer) :
    numberValue? spelling = some (.integer integer) := by
  obtain ⟨⟨noFraction, noExponent⟩, digits, sign⟩ := exact
  obtain ⟨low, high⟩ := fits
  have room : valueOf spelling.whole ≤ Count.largest := by
    simp only [lowestInteger, Count.largest] at low high ⊢
    omega
  rcases foldl_addWhole spelling.whole (Nat.zero_le Count.largest) with ⟨counted, -⟩ | ⟨-, beyond⟩
  · have value : integerValue? spelling.negative (valueOf spelling.whole) = some (.integer integer) := by
      unfold integerValue?
      cases negative : spelling.negative with
      | false =>
        have positive : ¬ integer < 0 := fun below => by simp [negative] at sign; omega
        simp
        omega
      | true =>
        have below : integer < 0 := sign.mp negative
        have fits : 0 < valueOf spelling.whole ∧ valueOf spelling.whole ≤ lowestInteger := by omega
        simp [fits]
        omega
    unfold numberValue?
    simp only [counted, noFraction, noExponent]
    exact value
  · exact absurd beyond room.not_gt

theorem treeValues?_of_shown {trees : List Syntax} {values : List JsonValue}
    (shown : List.Forall₂ Shows trees values)
    (each : ∀ value ∈ values, ∀ {tree : Syntax}, Shows tree value →
      treeValue? depth tree = some value) : treeValues? depth trees = some values := by
  induction shown with
  | nil => rfl
  | cons shows _ ih =>
    obtain ⟨first, others⟩ := List.forall_mem_cons.mp each
    rw [treeValues?, first shows, ih others]
    rfl

theorem treeValue?_of_shows {tree : Syntax} (readable : Readable (fun _ => False) depth value)
    (shows : Shows tree value) : treeValue? depth tree = some value := by
  induction readable generalizing tree with
  | null =>
    cases shows with
    | null => rw [treeValue?]
    | number meant => cases meant
  | bool truth =>
    cases shows with
    | bool => rw [treeValue?]
    | number meant => cases meant
  | integer fits =>
    cases shows with
    | number meant =>
      cases meant with
      | integer exact => rw [treeValue?, numberValue?_of_isInteger exact fits]
  | float never => exact never.elim
  | string text =>
    cases shows with
    | string spelled => rw [treeValue?, spelled]; rfl
    | number meant => cases meant
  | array each ih =>
    cases shows with
    | array shown => rw [treeValue?, treeValues?_of_shown shown ih]; rfl
    | number meant => cases meant
  | @object depth members distinct each ih =>
    cases shows with
    | object named shown same =>
      obtain ⟨rfl, rfl⟩ := same
      have values := treeValues?_of_shown shown (List.forall_mem_map.mpr ih)
      have pairs : (members.map Prod.fst).zip (members.map Prod.snd) = members := by
        rw [List.zip_map', List.map_id']
      have collected := (collects_foldl members).unique (collects_self distinct)
      rw [treeValue?, mapM_eq_some_iff.mpr named, values]
      simp only [Option.bind_eq_bind, Option.bind_some, pairs, collected]
      rfl
    | number meant => cases meant

/-- An object that was read and has no floating-point numbers is read back as it is. -/
theorem objectOfText?_compactObject {object : JsonObject}
    (readable : Readable (fun _ => False) deepest (.object object)) :
    objectOfText? (compactObject object) = some object := by
  obtain ⟨tree, parsed, shows⟩ := exists_shows_compactObject (readable.mono fun _ never => never.elim)
  rw [objectOfText?, parsed, Option.bind_some, treeValue?_of_shows readable shows]

end SpokenForm.Json
