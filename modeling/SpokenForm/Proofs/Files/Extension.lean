import Mathlib.Data.List.TakeWhile
import SpokenForm.Proofs.Files.Sibling

/-! Paths with another extension. Every path that a file can be read from is a last name behind what stands
in front of it, so the path with another extension leads to another place, or is the same path. -/
namespace SpokenForm

namespace FilePath

/-- The path asks for a directory, by a slash at its end or by a dot behind one. -/
def AsksDirectory (path : FilePath) : Prop := ∃ front, names path = front ++ [['.']]

theorem asksDirectory_of_slash (front : Text) : AsksDirectory (front ++ ['/']) := by
  refine ⟨(Text.split '/' (front ++ ['/'])).filter (!·.isEmpty), ?_⟩
  simp [names]

theorem asksDirectory_of_dot (front : Text) : AsksDirectory (front ++ ['/', '.']) := by
  refine ⟨(Text.split '/' front).filter (!·.isEmpty), ?_⟩
  have pieces : Text.split '/' (front ++ ['/', '.']) = Text.split '/' front ++ [['.']] := by
    rw [Text.split_append]
    rfl
  simp [names, pieces]

/-- Nothing is dropped from the end of a path that asks for no directory. -/
theorem dropTrailing_or_asksDirectory (path : FilePath) :
    dropTrailing path.reverse = path.reverse ∨ AsksDirectory path := by
  have spelled {c : Char} {rest : Text} (backwards : path.reverse = c :: rest) :
      path = rest.reverse ++ [c] := by
    simpa using congrArg List.reverse backwards
  cases backwards : path.reverse with
  | nil => exact .inl rfl
  | cons c rest =>
    by_cases slash : c = '/'
    · subst slash
      right
      rw [spelled backwards]
      exact asksDirectory_of_slash rest.reverse
    · by_cases dot : c = '.'
      · subst dot
        by_cases behind : rest.head? = some '/'
        · right
          obtain ⟨before, rfl⟩ := List.head?_eq_some_iff.mp behind
          have whole : path = before.reverse ++ ['/', '.'] := by simpa using spelled backwards
          rw [whole]
          exact asksDirectory_of_dot before.reverse
        · left
          simp [dropTrailing, behind]
      · left
        rw [dropTrailing]
        · exact slash
        · exact dot

/-- A path with a last name is what stands before it and the name, unless it asks for a directory. -/
theorem splitName?_eq_some {path : FilePath} {before name : Text}
    (found : splitName? path = some (before, name)) (asksFile : ¬ AsksDirectory path) :
    path = before ++ name ∧ IsFront before ∧ IsFileName name := by
  have whole : dropTrailing path.reverse = path.reverse :=
    (dropTrailing_or_asksDirectory path).resolve_right asksFile
  unfold splitName? at found
  simp only [whole] at found
  split at found
  · cases found
  · rename_i isName
    obtain ⟨rfl, rfl⟩ := Prod.mk.inj (Option.some.inj found)
    refine ⟨?_, ?_, ?_, ?_, ?_, ?_⟩
    · rw [← List.reverse_append, List.takeWhile_append_dropWhile, List.reverse_reverse]
    · cases behind : path.reverse.dropWhile (· != '/') with
      | nil => exact .inl rfl
      | cons c rest =>
        have stops := List.head?_dropWhile_not (· != '/') path.reverse
        rw [behind] at stops
        obtain rfl : c = '/' := by simpa using stops
        exact .inr (by simp)
    · exact fun empty => isName (.inl empty)
    · intro slash
      have other := List.mem_takeWhile_imp (List.mem_reverse.mp slash)
      simp at other
    · exact fun dot => isName (.inr (.inl dot))
    · exact fun dots => isName (.inr (.inr dots))

theorem front_of_splitExtension (name : Text) : (splitExtension name).1 <+: name := by
  unfold splitExtension
  simp only
  split
  · exact List.prefix_rfl
  · rename_i c rest behind
    split
    · exact List.prefix_rfl
    · have suffix : c :: rest <:+ name.reverse := by
        rw [← behind]
        exact List.dropWhile_suffix _
      have shorter : rest <:+ name.reverse := (List.suffix_cons c rest).trans suffix
      simpa using List.reverse_prefix.mpr shorter

theorem stem_nonempty {name : Text} (nonempty : name ≠ []) : (splitExtension name).1 ≠ [] := by
  unfold splitExtension
  simp only
  split
  · exact nonempty
  · rename_i c rest behind
    split
    · exact nonempty
    · rename_i more
      simpa using more

/-- A name with another extension is a name. -/
theorem isFileName_extended {name extension : Text} (isName : IsFileName name)
    (spelled : extension ≠ []) (noSlash : '/' ∉ extension) :
    IsFileName ((splitExtension name).1 ++ '.' :: extension) := by
  have length : 2 < ((splitExtension name).1 ++ '.' :: extension).length := by
    have stem := List.length_pos_iff.mpr (stem_nonempty isName.nonempty)
    have behind := List.length_pos_iff.mpr spelled
    rw [List.length_append, List.length_cons]
    omega
  refine ⟨by simp, ?_, ?_, ?_⟩
  · intro slash
    rcases List.mem_append.mp slash with inStem | inExtension
    · exact isName.noSlash ((front_of_splitExtension name).subset inStem)
    · rcases List.mem_cons.mp inExtension with dot | behind
      · exact absurd dot (by decide)
      · exact noSlash behind
  · intro same
    simp [same] at length
  · intro same
    simp [same] at length

end FilePath

namespace FileStore

open FilePath

/-- A path that asks for a directory leads to no file. -/
theorem not_asksDirectory_of_read {store : FileStore} {path : FilePath} {bytes : ByteArray}
    (held : store.read path = .ok bytes) : ¬ AsksDirectory path := by
  rintro ⟨front, spelled⟩
  obtain ⟨located, present⟩ := read_eq_ok_iff.mp held
  unfold locate at located
  split at located
  · cases located
  · rw [spelled, follow_append] at located
    cases led : store.follow (store.origin path) front with
    | error cause => simp [led, bind, Except.bind] at located
    | ok middle =>
      simp only [led, bind, Except.bind, follow] at located
      split at located
      · cases located
      · cases located
      · rename_i directory
        have same : middle = store.placeOf path := by simpa using located
        rw [same, present] at directory
        cases directory

/-- Where a file can be read, another extension leads to another place, or is its own extension. -/
theorem withExtension_eq_of_placeOf_eq {store : FileStore} {path : FilePath} {bytes : ByteArray}
    {extension : Text} (held : store.read path = .ok bytes) (spelled : extension ≠ [])
    (noSlash : '/' ∉ extension)
    (same : store.placeOf (withExtension path extension) = store.placeOf path) :
    withExtension path extension = path := by
  unfold withExtension at same ⊢
  split at same
  · rename_i before name found
    obtain ⟨whole, isFront, isName⟩ := splitName?_eq_some found (not_asksDirectory_of_read held)
    have isExtended := isFileName_extended isName spelled noSlash
    rw [List.append_assoc, store.placeOf_append isFront isExtended, whole,
      store.placeOf_append isFront isName] at same
    have names : (splitExtension name).1 ++ '.' :: extension = name :=
      List.singleton_inj.mp (List.append_cancel_left same)
    rw [List.append_assoc, names, whole]
  · rfl

end FileStore

end SpokenForm
