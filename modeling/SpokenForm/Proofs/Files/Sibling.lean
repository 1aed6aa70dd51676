import SpokenForm.Proofs.Files.Effect

/-! Paths that differ in their last names alone. They lead into one directory, so where one of them
can be followed all can, and their places differ exactly as the names do. -/
namespace SpokenForm

theorem Text.splitFrom_append (separator : Char) (piece front back : Text) :
    splitFrom separator piece (front ++ separator :: back) =
      splitFrom separator piece front ++ split separator back := by
  induction front generalizing piece with
  | nil => simp [splitFrom, split]
  | cons c front ih =>
    by_cases same : c = separator
    · simp [splitFrom, same, ih]
    · simp [splitFrom, same, ih]

theorem Text.split_append (separator : Char) (front back : Text) :
    split separator (front ++ separator :: back) = split separator front ++ split separator back :=
  splitFrom_append separator [] front back

theorem Text.splitFrom_of_notMem {separator : Char} {text : Text} (absent : separator ∉ text)
    (piece : Text) : splitFrom separator piece text = [piece.reverse ++ text] := by
  induction text generalizing piece with
  | nil => simp [splitFrom]
  | cons c text ih =>
    have different : c ≠ separator := fun same => absent (by simp [same])
    have others : separator ∉ text := fun member => absent (by simp [member])
    simp [splitFrom, different, ih others]

theorem Text.split_of_notMem {separator : Char} {text : Text} (absent : separator ∉ text) :
    split separator text = [text] := splitFrom_of_notMem absent []

namespace FilePath

/-- What stands before the last name of a path: nothing, or directories up to a slash. -/
def IsFront (front : Text) : Prop := front = [] ∨ front.getLast? = some '/'

/-- A name that a file can have. -/
structure IsFileName (name : Text) : Prop where
  nonempty : name ≠ []
  noSlash : '/' ∉ name
  noDot : name ≠ ['.']
  noDots : name ≠ ['.', '.']

def namesOfFront (front : Text) : List Text := (Text.split '/' front).filter (!·.isEmpty)

theorem exists_front (path : Text) : ∃ front rest, path = front ++ rest ∧ IsFront front ∧
    '/' ∉ rest := by
  induction path with
  | nil => exact ⟨[], [], rfl, .inl rfl, by simp⟩
  | cons c path ih =>
    obtain ⟨front, rest, rfl, isFront, noSlash⟩ := ih
    rcases isFront with rfl | ends
    · by_cases slash : c = '/'
      · exact ⟨[c], rest, rfl, .inr (by simp [slash]), noSlash⟩
      · have longer : '/' ∉ c :: rest := by simp [Ne.symm slash, noSlash]
        exact ⟨[], c :: rest, rfl, .inl rfl, longer⟩
    · exact ⟨c :: front, rest, rfl, .inr (by simp [List.getLast?_cons, ends]), noSlash⟩

theorem exists_of_isFront {front : Text} (isFront : IsFront front) (nonempty : front ≠ []) :
    ∃ directories, front = directories ++ ['/'] := by
  rcases isFront with rfl | ends
  · exact absurd rfl nonempty
  · exact List.getLast?_eq_some_iff.mp ends

theorem isAbsolute_append {front name : Text} (isName : IsFileName name) :
    isAbsolute (front ++ name) = isAbsolute front := by
  cases front with
  | nil =>
    obtain ⟨c, rest, rfl⟩ := List.exists_cons_of_ne_nil isName.nonempty
    have different : c ≠ '/' := fun same => isName.noSlash (by simp [same])
    simp [isAbsolute, different]
  | cons c front => rfl

theorem names_append {front name : Text} (isFront : IsFront front) (isName : IsFileName name) :
    names (front ++ name) = namesOfFront front ++ [name] := by
  have noTrailing : (front ++ name).getLast? ≠ some '/' := by
    obtain ⟨before, last, rfl⟩ := List.eq_nil_or_concat name |>.resolve_left isName.nonempty
    have different : last ≠ '/' := fun same => isName.noSlash (by simp [same])
    simpa using different
  rw [names, if_neg noTrailing, List.append_nil, namesOfFront]
  by_cases nothing : front = []
  · subst nothing
    rw [List.nil_append, Text.split_of_notMem isName.noSlash]
    simp [Text.split, Text.splitFrom, isName.nonempty]
  · obtain ⟨directories, rfl⟩ := exists_of_isFront isFront nothing
    rw [List.append_assoc, List.singleton_append, Text.split_append, Text.split_append,
      Text.split_of_notMem isName.noSlash]
    simp [Text.split, Text.splitFrom, isName.nonempty]

theorem dropTrailing_reverse {path : Text} {c : Char} (last : path.getLast? = some c)
    (noSlash : c ≠ '/') (noDot : c ≠ '.') : dropTrailing path.reverse = path.reverse := by
  obtain ⟨before, rfl⟩ := List.getLast?_eq_some_iff.mp last
  rw [List.reverse_append, List.reverse_singleton, List.singleton_append]
  rw [dropTrailing]
  · exact noSlash
  · exact noDot

/-- The last name of a path stands behind the last slash. -/
theorem splitName?_append {front name : Text} (isFront : IsFront front) (isName : IsFileName name)
    (noDot : name.getLast? ≠ some '.') : splitName? (front ++ name) = some (front, name) := by
  obtain ⟨before, last, rfl⟩ := List.eq_nil_or_concat name |>.resolve_left isName.nonempty
  have lastDot : last ≠ '.' := fun same => noDot (by simp [same])
  have lastSlash : last ≠ '/' := fun same => isName.noSlash (by simp [same])
  have whole : dropTrailing (front ++ before.concat last).reverse =
      (before.concat last).reverse ++ front.reverse := by
    rw [dropTrailing_reverse (c := last) (by simp) lastSlash lastDot, List.reverse_append]
  have backwards : ∀ c ∈ (before.concat last).reverse, (c != '/') = true := by
    intro c member
    have different : c ≠ '/' := by
      rintro rfl
      exact isName.noSlash (List.mem_reverse.mp member)
    simpa using different
  have stops : front.reverse.takeWhile (· != '/') = [] ∧
      front.reverse.dropWhile (· != '/') = front.reverse := by
    by_cases nothing : front = []
    · simp [nothing]
    · obtain ⟨directories, rfl⟩ := exists_of_isFront isFront nothing
      simp
  have taken : ((before.concat last).reverse ++ front.reverse).takeWhile (· != '/') =
      (before.concat last).reverse := by
    rw [List.takeWhile_append_of_pos backwards, stops.1, List.append_nil]
  have dropped : ((before.concat last).reverse ++ front.reverse).dropWhile (· != '/') =
      front.reverse := by
    rw [List.dropWhile_append_of_pos backwards, stops.2]
  simp only [splitName?, whole, taken, dropped, List.reverse_reverse]
  rw [if_neg]
  rintro (empty | dot | dots)
  · exact isName.nonempty empty
  · exact isName.noDot dot
  · exact isName.noDots dots

theorem splitExtension_append {stem extension : Text} (nonempty : stem ≠ [])
    (noDot : '.' ∉ extension) :
    splitExtension (stem ++ '.' :: extension) = (stem, some extension) := by
  have backwards : ∀ c ∈ extension.reverse, (c != '.') = true := by
    intro c member
    have different : c ≠ '.' := by
      rintro rfl
      exact noDot (List.mem_reverse.mp member)
    simpa using different
  have reversed : (stem ++ '.' :: extension).reverse = extension.reverse ++ '.' :: stem.reverse := by
    simp
  have taken : (stem ++ '.' :: extension).reverse.takeWhile (· != '.') = extension.reverse := by
    rw [reversed, List.takeWhile_append_of_pos backwards]
    simp
  have dropped : (stem ++ '.' :: extension).reverse.dropWhile (· != '.') = '.' :: stem.reverse := by
    rw [reversed, List.dropWhile_append_of_pos backwards]
    simp
  simp only [splitExtension, taken, dropped, List.reverse_reverse]
  simp [nonempty]

/-- Replacing the extension of a path replaces what follows the last dot of its last name. -/
theorem withExtension_append {front stem extension : Text} (isFront : IsFront front)
    (isName : IsFileName (stem ++ '.' :: extension)) (nonempty : stem ≠ []) (spelled : extension ≠ [])
    (noDot : '.' ∉ extension) (other : Text) :
    withExtension (front ++ (stem ++ '.' :: extension)) other = front ++ (stem ++ '.' :: other) := by
  have ends : (stem ++ '.' :: extension).getLast? ≠ some '.' := by
    obtain ⟨before, last, rfl⟩ := List.eq_nil_or_concat extension |>.resolve_left spelled
    have different : last ≠ '.' := fun same => noDot (by simp [same])
    have whole : stem ++ '.' :: before.concat last = (stem ++ '.' :: before) ++ [last] := by simp
    rw [whole, List.getLast?_concat]
    simpa using different
  simp [withExtension, splitName?_append isFront isName ends, splitExtension_append nonempty noDot]

/-- Names below a directory stand behind the same front. -/
theorem exists_front_of_directory (directory : FilePath) :
    ∃ front, IsFront front ∧ ∀ name, IsFileName name → directory.join name = front ++ name := by
  have relative {name : Text} (isName : IsFileName name) : isAbsolute name = false :=
    @isAbsolute_append [] name isName
  by_cases nothing : directory = []
  · refine ⟨[], .inl rfl, ?_⟩
    intro name isName
    simp [join, nothing]
  · by_cases ends : directory.getLast? = some '/'
    · refine ⟨directory, .inr ends, ?_⟩
      intro name isName
      simp [join, relative isName, nothing, ends]
    · refine ⟨directory ++ ['/'], .inr (by simp), ?_⟩
      intro name isName
      simp [join, relative isName, nothing, ends]

end FilePath

namespace FileStore

open FilePath

variable {front name other : Text}

/-- The place of the directory that a path leads into. -/
def placeAbove (store : FileStore) (front : Text) : Place :=
  walk (store.origin front) (namesOfFront front)

theorem walk_append (place : Place) (front back : List Text) :
    walk place (front ++ back) = walk (walk place front) back := by
  induction front generalizing place with
  | nil => rfl
  | cons name front ih =>
    by_cases dot : name = ['.']
    · simp [walk, dot, ih]
    · by_cases dots : name = ['.', '.'] <;> simp [walk, dot, dots, ih]

theorem origin_append (store : FileStore) (isName : IsFileName name) :
    store.origin (front ++ name) = store.origin front := by
  simp [origin, isAbsolute_append isName]

theorem placeOf_append (store : FileStore) (isFront : IsFront front) (isName : IsFileName name) :
    store.placeOf (front ++ name) = store.placeAbove front ++ [name] := by
  rw [placeOf, placeAbove, origin_append store isName, names_append isFront isName, walk_append]
  simp [walk, isName.noDot, isName.noDots]

/-- Where one name can be reached, others in the same directory can. -/
theorem locate_sibling {store : FileStore} (isFront : IsFront front) (isName : IsFileName name)
    (alsoName : IsFileName other) {place : Place} (located : store.locate (front ++ name) = .ok place) :
    store.locate (front ++ other) = .ok (store.placeOf (front ++ other)) := by
  have open_ : front ++ name ≠ [] := by simp [isName.nonempty]
  have alsoOpen : front ++ other ≠ [] := by simp [alsoName.nonempty]
  rw [locate, if_neg open_, origin_append store isName, names_append isFront isName,
    follow_append] at located
  cases above : store.follow (store.origin front) (namesOfFront front) with
  | error cause => simp [above, bind, Except.bind] at located
  | ok directory =>
    have same : directory = store.placeAbove front := follow_eq_ok above
    rw [locate, if_neg alsoOpen, origin_append store alsoName, names_append isFront alsoName,
      follow_append, placeOf_append store isFront alsoName, ← same]
    simp only [above, bind, Except.bind] at located ⊢
    unfold follow at located ⊢
    split at located
    · cases located
    · cases located
    · rename_i here
      simp [alsoName.noDot, alsoName.noDots, follow]

end FileStore

end SpokenForm
