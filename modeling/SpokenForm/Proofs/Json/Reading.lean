import SpokenForm.Proofs.Json.Members
import SpokenForm.Proofs.Json.Numbers

/-! Values as they are read. A reader takes integers of 64 bits exactly and all other numbers as
floating-point numbers, and of members with one name the last. -/
namespace SpokenForm.Json

/-- A tree spells a value, where relations tell which numbers are meant by their spelling, and which members
by names and values. -/
inductive Spells (Number : NumberSpelling → JsonValue → Prop)
    (Members : List Text → List JsonValue → JsonObject → Prop) : Syntax → JsonValue → Prop where
  | null : Spells Number Members .null .null
  | bool (value : Bool) : Spells Number Members (.bool value) (.bool value)
  | number {spelling : NumberSpelling} {value : JsonValue} (meant : Number spelling value) :
    Spells Number Members (.number spelling) value
  | string {pieces : List StringPiece} {text : Text} (spelled : stringValue? pieces = some text) :
    Spells Number Members (.string pieces) (.string text)
  | array {trees : List Syntax} {items : List JsonValue}
    (each : List.Forall₂ (Spells Number Members) trees items) :
    Spells Number Members (.array trees) (.array items)
  | object {keys : List (List StringPiece)} {trees : List Syntax} {names : List Text}
    {values : List JsonValue} {members : JsonObject}
    (named : List.Forall₂ (fun key name => stringValue? key = some name) keys names)
    (each : List.Forall₂ (Spells Number Members) trees values) (meant : Members names values members) :
    Spells Number Members (.object keys trees) (.object members)

/-- An integer of 64 bits, with or without a sign. -/
def Fits (value : Int) : Prop := -lowestInteger ≤ value ∧ value ≤ Count.largest

/-- What a reader takes a number for: an integer of 64 bits for itself, and all others for floating-point
numbers. -/
inductive Takes (spelling : NumberSpelling) : JsonValue → Prop where
  | integer {value : Int} (exact : spelling.IsInteger value) (fits : Fits value) :
    Takes spelling (.integer value)
  | float {value : Float} (other : ∀ integer, spelling.IsInteger integer → ¬ Fits integer)
    (finite : Decimal.isFinite value = true) (taken : numberValue? spelling = some (.float value)) :
    Takes spelling (.float value)

/-- A tree is read as a value: of members with one name, the last has the value. -/
def ReadsAs (tree : Syntax) (value : JsonValue) : Prop :=
  Spells Takes (fun names values => Collects (names.zip values)) tree value

/-- A value that a reader may take, with some floating-point numbers, and that nests at most so deep. -/
inductive Readable (Allowed : Float → Prop) : (depth : Nat) → JsonValue → Prop where
  | null {depth : Nat} : Readable Allowed depth .null
  | bool {depth : Nat} (value : Bool) : Readable Allowed depth (.bool value)
  | integer {depth : Nat} {value : Int} (fits : Fits value) : Readable Allowed depth (.integer value)
  | float {depth : Nat} {value : Float} (allowed : Allowed value) : Readable Allowed depth (.float value)
  | string {depth : Nat} (text : Text) : Readable Allowed depth (.string text)
  | array {depth : Nat} {items : List JsonValue} (each : ∀ item ∈ items, Readable Allowed depth item) :
    Readable Allowed (depth + 1) (.array items)
  | object {depth : Nat} {members : JsonObject} (distinct : DistinctNames members)
    (each : ∀ member ∈ members, Readable Allowed depth member.2) :
    Readable Allowed (depth + 1) (.object members)

theorem Readable.mono {Allowed Wider : Float → Prop} {depth : Nat} {value : JsonValue}
    (readable : Readable Allowed depth value) (more : ∀ float, Allowed float → Wider float) :
    Readable Wider depth value := by
  induction readable with
  | null => exact .null
  | bool truth => exact .bool truth
  | integer fits => exact .integer fits
  | float allowed => exact .float (more _ allowed)
  | string text => exact .string text
  | array _ ih => exact .array ih
  | object distinct _ ih => exact .object distinct ih

/-! Integers. -/

variable {spelling : NumberSpelling}

theorem le_ofDigitChars (digits : Text) (start : Nat) : start ≤ Nat.ofDigitChars 10 digits start := by
  rw [Nat.ofDigitChars_eq_ofDigitChars_zero]
  exact (Nat.le_mul_of_pos_left start (Nat.pow_pos (by omega))).trans (Nat.le_add_right _ _)

theorem foldl_addWhole_full (digits : Text) {number : Significand} (full : number.full = true) :
    (digits.foldl Significand.addWhole number).full = true := by
  induction digits generalizing number with
  | nil => exact full
  | cons c digits ih => exact ih (by simp [Significand.addWhole, full])

/-- Digits are counted as long as there is room for them. -/
theorem foldl_addWhole (digits : Text) {start : Nat} (room : start ≤ Count.largest) :
    digits.foldl Significand.addWhole ⟨start, 0, false⟩ = ⟨Nat.ofDigitChars 10 digits start, 0, false⟩ ∧
      Nat.ofDigitChars 10 digits start ≤ Count.largest ∨
    (digits.foldl Significand.addWhole ⟨start, 0, false⟩).full = true ∧
      Count.largest < Nat.ofDigitChars 10 digits start := by
  induction digits generalizing start with
  | nil => exact .inl ⟨rfl, room⟩
  | cons c digits ih =>
    have next : Nat.ofDigitChars 10 (c :: digits) start =
        Nat.ofDigitChars 10 digits (10 * start + digitValue c) := rfl
    rw [List.foldl_cons, next]
    rcases Nat.lt_or_ge Count.largest (10 * start + digitValue c) with beyond | fits
    · have full : (Significand.addWhole ⟨start, 0, false⟩ c).full = true := by
        simp [Significand.addWhole, beyond]
      exact .inr ⟨foldl_addWhole_full digits full, beyond.trans_le (le_ofDigitChars digits _)⟩
    · have counted : Significand.addWhole ⟨start, 0, false⟩ c = ⟨10 * start + digitValue c, 0, false⟩ := by
        simp [Significand.addWhole, Nat.not_lt.mpr fits]
      rw [counted]
      exact ih fits

/-! Floating-point numbers. -/

theorem exists_of_floatValue? {number : Float} {value : JsonValue}
    (found : floatValue? number = some value) :
    ∃ float, value = .float float ∧ Decimal.isFinite float = true := by
  unfold floatValue? at found
  split at found
  · rename_i finite
    exact ⟨_, (Option.some.inj found).symm, finite⟩
  · cases found

section Taken

variable {value : JsonValue} (taken : numberValue? spelling = some value)
include taken

theorem takes_of_signed? {negative : Bool} {number : Float}
    (other : ∀ integer, spelling.IsInteger integer → ¬ Fits integer)
    (found : signed? negative number = some value) : Takes spelling value := by
  obtain ⟨float, rfl, finite⟩ := exists_of_floatValue? found
  exact .float other finite taken

theorem takes_of_magnitude? {number : Significand}
    (other : ∀ integer, spelling.IsInteger integer → ¬ Fits integer)
    (found : (magnitude? number spelling.exponent?).bind (signed? spelling.negative) = some value) :
    Takes spelling value := by
  obtain ⟨magnitude, -, signed⟩ := Option.bind_eq_some_iff.mp found
  exact takes_of_signed? taken other signed

/-- Integers that fit are taken for themselves. -/
theorem takes_of_integerValue? (isWhole : spelling.IsWhole)
    (room : valueOf spelling.whole ≤ Count.largest)
    (found : integerValue? spelling.negative (valueOf spelling.whole) = some value) :
    Takes spelling value := by
  unfold integerValue? at found
  split at found
  · rename_i positive
    obtain rfl := Option.some.inj found
    refine .integer ⟨isWhole, Int.natAbs_natCast _, ?_⟩ ⟨by omega, by omega⟩
    simp_all
  · rename_i negative
    split at found
    · rename_i fits
      simp only [Bool.and_eq_true, decide_eq_true_eq] at fits
      obtain rfl := Option.some.inj found
      refine .integer ⟨isWhole, by simp, ?_⟩ ⟨by omega, by omega⟩
      simp_all
    · rename_i tooLow
      refine takes_of_signed? taken (fun integer exact fits => tooLow ?_) found
      have below : integer < 0 := exact.sign.mp (by simpa using negative)
      have digits := exact.digits
      have lowest := fits.1
      simp only [Bool.and_eq_true, decide_eq_true_eq]
      omega

/-- The reader takes integers of 64 bits for themselves. -/
theorem takes_of_numberValue? : Takes spelling value := by
  have found := taken
  unfold numberValue? at found
  simp only at found
  rcases foldl_addWhole spelling.whole (Nat.zero_le Count.largest) with ⟨counted, room⟩ | ⟨full, beyond⟩
  · by_cases isWhole : spelling.IsWhole
    · rw [counted, isWhole.1, isWhole.2] at found
      exact takes_of_integerValue? taken isWhole room found
    · have parts : (spelling.fraction.isEmpty && spelling.exponent?.isNone) = false := by
        simpa [NumberSpelling.IsWhole, Option.isSome_iff_ne_none] using isWhole
      rw [parts, Bool.false_and, if_neg Bool.false_ne_true] at found
      exact takes_of_magnitude? taken (fun integer exact => absurd exact.isWhole isWhole) found
  · rw [full, Bool.not_true, Bool.and_false, if_neg Bool.false_ne_true] at found
    refine takes_of_magnitude? taken (fun integer exact fits => ?_) found
    have digits := exact.digits
    have tooLarge : Count.largest < integer.natAbs := digits ▸ beyond
    obtain ⟨low, high⟩ := fits
    simp only [lowestInteger, Count.largest] at low high tooLarge
    omega

end Taken

theorem Takes.readable {value : JsonValue} {depth : Nat} (takes : Takes spelling value) :
    Readable (Decimal.isFinite · = true) depth value := by
  cases takes with
  | integer exact fits => exact .integer fits
  | float other finite taken => exact .float finite

/-! Trees. -/

/-- A tree is read as a value that it spells. -/
structure IsRead (depth : Nat) (tree : Syntax) (value : JsonValue) : Prop where
  reads : ReadsAs tree value
  readable : Readable (Decimal.isFinite · = true) depth value

/-- Trees are read as values that they spell. -/
structure AreRead (depth : Nat) (trees : List Syntax) (values : List JsonValue) : Prop where
  read : List.Forall₂ ReadsAs trees values
  readable : ∀ value ∈ values, Readable (Decimal.isFinite · = true) depth value

theorem mapM_eq_some_iff {α β : Type} {f : α → Option β} {items : List α} {results : List β} :
    items.mapM f = some results ↔ List.Forall₂ (fun item result => f item = some result) items results := by
  induction items generalizing results with
  | nil => cases results <;> simp
  | cons item items ih => cases results <;> simp [Option.bind_eq_some_iff, ih]

theorem AreRead.object {depth : Nat} {keys : List (List StringPiece)} {trees : List Syntax}
    {names : List Text} {values : List JsonValue}
    (named : List.Forall₂ (fun key name => stringValue? key = some name) keys names)
    (read : AreRead depth trees values) :
    IsRead (depth + 1) (.object keys trees) (.object ((names.zip values).foldl
      (fun object (name, value) => setMember name value object) [])) where
  reads := .object named read.read (collects_foldl _)
  readable := by
    have collects := collects_foldl (names.zip values)
    refine .object collects.distinct fun member isMember => ?_
    obtain ⟨before, after, split, -⟩ := collects.last member isMember
    have listed : member ∈ names.zip values := by
      rw [split]
      exact List.mem_append_right _ List.mem_cons_self
    exact read.readable _ (List.of_mem_zip listed).2

mutual

theorem isRead_of_treeValue? {depth : Nat} : (tree : Syntax) → {value : JsonValue} →
    treeValue? depth tree = some value → IsRead depth tree value
  | .null, value, found => by
    rw [treeValue?] at found
    obtain rfl := Option.some.inj found
    exact ⟨.null, .null⟩
  | .bool truth, value, found => by
    rw [treeValue?] at found
    obtain rfl := Option.some.inj found
    exact ⟨.bool truth, .bool truth⟩
  | .number spelling, value, found => by
    rw [treeValue?] at found
    have takes := takes_of_numberValue? found
    exact ⟨.number takes, takes.readable⟩
  | .string pieces, value, found => by
    rw [treeValue?] at found
    obtain ⟨text, spelled, rfl⟩ := Option.map_eq_some_iff.mp found
    exact ⟨.string spelled, .string text⟩
  | .array trees, value, found => by
    cases depth with
    | zero => cases found
    | succ depth =>
      rw [treeValue?] at found
      obtain ⟨items, read, rfl⟩ := Option.map_eq_some_iff.mp found
      have areRead := areRead_of_treeValues? trees read
      exact ⟨.array areRead.read, .array areRead.readable⟩
  | .object keys trees, value, found => by
    cases depth with
    | zero => cases found
    | succ depth =>
      simp only [treeValue?, Option.bind_eq_bind, Option.bind_eq_some_iff, Option.pure_def,
        Option.some.injEq] at found
      obtain ⟨names, named, values, read, rfl⟩ := found
      exact (areRead_of_treeValues? trees read).object (mapM_eq_some_iff.mp named)

theorem areRead_of_treeValues? {depth : Nat} : (trees : List Syntax) → {values : List JsonValue} →
    treeValues? depth trees = some values → AreRead depth trees values
  | [], values, found => by
    rw [treeValues?] at found
    obtain rfl := Option.some.inj found
    exact ⟨.nil, by simp⟩
  | tree :: trees, values, found => by
    simp only [treeValues?, Option.bind_eq_bind, Option.bind_eq_some_iff, Option.pure_def,
      Option.some.injEq] at found
    obtain ⟨value, first, others, later, rfl⟩ := found
    have isRead := isRead_of_treeValue? tree first
    have areRead := areRead_of_treeValues? trees later
    exact ⟨.cons isRead.reads areRead.read,
      List.forall_mem_cons.mpr ⟨isRead.readable, areRead.readable⟩⟩

end

/-- A text that is read spells the object that it is read as. -/
theorem isRead_of_objectOfText? {text : Text} {object : JsonObject}
    (found : objectOfText? text = some object) :
    ∃ tree, Syntax.ofText? text = some tree ∧ IsRead deepest tree (.object object) := by
  unfold objectOfText? at found
  split at found
  · rename_i members value
    obtain ⟨tree, parsed, read⟩ := Option.bind_eq_some_iff.mp value
    obtain rfl := Option.some.inj found
    exact ⟨tree, parsed, isRead_of_treeValue? tree read⟩
  · cases found

theorem Readable.distinct {Allowed : Float → Prop} {depth : Nat} {object : JsonObject}
    (readable : Readable Allowed depth (.object object)) : DistinctNames object := by
  cases readable with
  | object distinct each => exact distinct

/-- A member may be set to a text. -/
theorem Readable.sets {Allowed : Float → Prop} {depth : Nat} {object changed : JsonObject} {key text : Text}
    (readable : Readable Allowed depth (.object object)) (sets : Sets key (.string text) object changed) :
    Readable Allowed depth (.object changed) := by
  cases readable with
  | object distinct each =>
    refine .object (sets.distinct distinct) fun member isMember => ?_
    rcases sets.eq_or_mem member isMember with rfl | ⟨isOld, -⟩
    · exact .string text
    · exact each member isOld

end SpokenForm.Json
