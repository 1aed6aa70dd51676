import SpokenForm.Proofs.Json.Lexing

/-! Trees of printed values. In front of what may follow a value, its text is read as one tree, with fuel
for every lexeme and for every level that begins at it. -/
namespace SpokenForm.Json

/-- A text is read as the lexemes of a tree. -/
structure Prints (text : Text) (lexemes : List Lexeme) (tree : Syntax) : Prop where
  lexes : Lexes text lexemes
  parses : ∀ fuel rest, 2 * lexemes.length ≤ fuel → value? fuel (lexemes ++ rest) = some (tree, rest)
  opens : ∃ first others, lexemes = first :: others ∧ first ≠ .mark ']'

/-- A text is read as the lexemes of the items of an array. -/
structure PrintsItems (text : Text) (lexemes : List Lexeme) (trees : List Syntax) : Prop where
  lexes : Lexes text lexemes
  parses : ∀ fuel rest, 2 * lexemes.length < fuel →
    items? fuel (lexemes ++ .mark ']' :: rest) = some (trees, rest)
  opens : ∃ first others, lexemes = first :: others ∧ first ≠ .mark ']'

/-- A text is read as the lexemes of the members of an object. -/
structure PrintsMembers (text : Text) (lexemes : List Lexeme) (keys : List (List StringPiece))
    (trees : List Syntax) : Prop where
  lexes : Lexes text lexemes
  parses : ∀ fuel rest, 2 * lexemes.length < fuel →
    members? fuel (lexemes ++ .mark '\x7d' :: rest) = some (keys, trees, rest)
  opens : ∃ key others, lexemes = .string key :: others

variable {text others : Text} {c : Char} {lexeme : Lexeme} {lexemes more : List Lexeme} {tree : Syntax}
  {trees : List Syntax} {keys : List (List StringPiece)}

/-! Marks. -/

def IsMark (c : Char) : Prop := c = '\x7b' ∨ c = '\x7d' ∨ c = '[' ∨ c = ']' ∨ c = ',' ∨ c = ':'

theorem lexemesFrom?_mark (isMark : IsMark c) (rest : Text) :
    lexemesFrom? .between (c :: rest) = (lexemesFrom? .between rest).map (.mark c :: ·) := by
  rcases isMark with rfl | rfl | rfl | rfl | rfl | rfl <;>
    simp [lexemesFrom?_cons, lexerStep?, stepBetween?, isBlank]

theorem lexes_nil : Lexes [] [] := by
  intro rest closing
  simp

theorem lexes_enclosed {first last : Char} (opens : IsMark first) (closes : last = ']' ∨ last = '\x7d')
    (lexes : Lexes text lexemes) :
    Lexes (first :: text ++ [last]) (.mark first :: lexemes ++ [.mark last]) := by
  intro rest closing
  have isMark : IsMark last := by
    rcases closes with rfl | rfl <;> simp [IsMark]
  have inner := lexes (last :: rest) (closing_cons rest (.inr closes))
  rw [List.cons_append, List.cons_append, List.append_assoc, lexemesFrom?_mark opens,
    List.singleton_append, inner, lexemesFrom?_mark isMark]
  simp [Function.comp_def]

theorem lexes_separated (lexes : Lexes text lexemes) (later : Lexes others more) :
    Lexes (text ++ ',' :: others) (lexemes ++ .mark ',' :: more) := by
  intro rest closing
  have first := lexes (',' :: (others ++ rest)) (closing_cons _ (.inl rfl))
  rw [List.append_assoc, List.cons_append, first, lexemesFrom?_mark (by simp [IsMark]),
    later rest closing]
  simp [Function.comp_def]

theorem lexes_member (key : Text) (lexes : Lexes text lexemes) :
    Lexes (quote key ++ ':' :: text) (.string (key.map pieceOf) :: .mark ':' :: lexemes) := by
  intro rest closing
  rw [List.append_assoc, List.cons_append, lexemesFrom?_quote, lexemesFrom?_mark (by simp [IsMark]),
    lexes rest closing]
  simp [Function.comp_def]

/-! Leaves. -/

/-- A text that is read as a leaf. -/
theorem prints_leaf (lexes : Lexes text [lexeme]) (leaf : leaf? lexeme = some tree) :
    Prints text [lexeme] tree where
  lexes := lexes
  parses fuel rest enough := by
    obtain ⟨fuel, rfl⟩ := Nat.exists_eq_succ_of_ne_zero (Nat.ne_zero_of_lt enough)
    cases lexeme with
    | mark c => cases leaf
    | _ => simp [value?, leaf]
  opens := by
    refine ⟨lexeme, [], rfl, ?_⟩
    rintro rfl
    cases leaf

/-! Arrays. -/

theorem prints_noItems : Prints ['[', ']'] [.mark '[', .mark ']'] (.array []) where
  lexes := lexes_enclosed (by simp [IsMark]) (.inl rfl) lexes_nil
  parses fuel rest enough := by
    obtain ⟨fuel, rfl⟩ := Nat.exists_eq_succ_of_ne_zero (Nat.ne_zero_of_lt enough)
    rfl
  opens := ⟨_, _, rfl, by decide⟩

theorem value?_array {fuel : Nat} {first : Lexeme} (notLast : first ≠ .mark ']') (rest : List Lexeme) :
    value? (fuel + 1) (.mark '[' :: first :: rest) =
      (items? fuel (first :: rest)).map fun (items, last) => (.array items, last) := by
  rw [value?]
  intro last same
  exact notLast (List.cons.inj same).1

/-- An array of items. -/
theorem PrintsItems.array (prints : PrintsItems text lexemes trees) :
    Prints ('[' :: text ++ [']']) (.mark '[' :: lexemes ++ [.mark ']']) (.array trees) where
  lexes := lexes_enclosed (by simp [IsMark]) (.inl rfl) prints.lexes
  parses fuel rest enough := by
    simp only [List.length_append, List.length_cons, List.length_nil] at enough
    obtain ⟨fuel, rfl⟩ := Nat.exists_eq_succ_of_ne_zero (Nat.ne_zero_of_lt enough)
    have read := prints.parses fuel rest (by omega)
    obtain ⟨first, others, rfl, notLast⟩ := prints.opens
    have brackets : (.mark '[' :: (first :: others) ++ [.mark ']']) ++ rest =
        .mark '[' :: first :: (others ++ .mark ']' :: rest) := by
      simp
    rw [brackets, Nat.succ_eq_add_one, value?_array notLast, ← List.cons_append, read]
    rfl
  opens := ⟨_, _, rfl, by decide⟩

/-- One item. -/
theorem Prints.items (prints : Prints text lexemes tree) : PrintsItems text lexemes [tree] where
  lexes := prints.lexes
  parses fuel rest enough := by
    obtain ⟨fuel, rfl⟩ := Nat.exists_eq_succ_of_ne_zero (Nat.ne_zero_of_lt enough)
    simp [items?, prints.parses fuel _ (by omega)]
  opens := prints.opens

/-- An item in front of others. -/
theorem Prints.itemsCons (prints : Prints text lexemes tree) (later : PrintsItems others more trees) :
    PrintsItems (text ++ ',' :: others) (lexemes ++ .mark ',' :: more) (tree :: trees) where
  lexes := lexes_separated prints.lexes later.lexes
  parses fuel rest enough := by
    simp only [List.length_append, List.length_cons] at enough
    obtain ⟨fuel, rfl⟩ := Nat.exists_eq_succ_of_ne_zero (Nat.ne_zero_of_lt enough)
    simp [items?, prints.parses fuel _ (by omega), later.parses fuel _ (by omega)]
  opens := by
    obtain ⟨first, others, rfl, notLast⟩ := prints.opens
    exact ⟨first, _, rfl, notLast⟩

/-! Objects. -/

theorem prints_noMembers : Prints ['\x7b', '\x7d'] [.mark '\x7b', .mark '\x7d'] (.object [] []) where
  lexes := lexes_enclosed (by simp [IsMark]) (.inr rfl) lexes_nil
  parses fuel rest enough := by
    obtain ⟨fuel, rfl⟩ := Nat.exists_eq_succ_of_ne_zero (Nat.ne_zero_of_lt enough)
    rfl
  opens := ⟨_, _, rfl, by decide⟩

/-- An object of members. -/
theorem PrintsMembers.object (prints : PrintsMembers text lexemes keys trees) :
    Prints ('\x7b' :: text ++ ['\x7d']) (.mark '\x7b' :: lexemes ++ [.mark '\x7d'])
      (.object keys trees) where
  lexes := lexes_enclosed (by simp [IsMark]) (.inr rfl) prints.lexes
  parses fuel rest enough := by
    simp only [List.length_append, List.length_cons, List.length_nil] at enough
    obtain ⟨fuel, rfl⟩ := Nat.exists_eq_succ_of_ne_zero (Nat.ne_zero_of_lt enough)
    have read := prints.parses fuel rest (by omega)
    obtain ⟨key, others, rfl⟩ := prints.opens
    rw [List.cons_append] at read
    simp [value?, read]
  opens := ⟨_, _, rfl, by decide⟩

/-- One member. -/
theorem Prints.members (key : Text) (prints : Prints text lexemes tree) :
    PrintsMembers (quote key ++ ':' :: text) (.string (key.map pieceOf) :: .mark ':' :: lexemes)
      [key.map pieceOf] [tree] where
  lexes := lexes_member key prints.lexes
  parses fuel rest enough := by
    simp only [List.length_cons] at enough
    obtain ⟨fuel, rfl⟩ := Nat.exists_eq_succ_of_ne_zero (Nat.ne_zero_of_lt enough)
    simp [members?, prints.parses fuel _ (by omega)]
  opens := ⟨_, _, rfl⟩

/-- A member in front of others. -/
theorem Prints.membersCons (key : Text) (prints : Prints text lexemes tree)
    (later : PrintsMembers others more keys trees) :
    PrintsMembers ((quote key ++ ':' :: text) ++ ',' :: others)
      ((.string (key.map pieceOf) :: .mark ':' :: lexemes) ++ .mark ',' :: more)
      (key.map pieceOf :: keys) (tree :: trees) where
  lexes := lexes_separated (lexes_member key prints.lexes) later.lexes
  parses fuel rest enough := by
    simp only [List.length_append, List.length_cons] at enough
    obtain ⟨fuel, rfl⟩ := Nat.exists_eq_succ_of_ne_zero (Nat.ne_zero_of_lt enough)
    simp [members?, prints.parses fuel _ (by omega), later.parses fuel _ (by omega)]
  opens := ⟨_, _, rfl⟩

/-! Whole texts. -/

/-- A text that is nothing but a tree is read as it. -/
theorem Prints.ofText? (prints : Prints text lexemes tree) : Syntax.ofText? text = some tree := by
  have lexed := prints.lexes [] closing_nil
  have parsed := prints.parses (2 * lexemes.length + 2) [] (by omega)
  rw [List.append_nil] at lexed parsed
  simp [Syntax.ofText?, lexed, lexemesFrom?, parsed]

end SpokenForm.Json
