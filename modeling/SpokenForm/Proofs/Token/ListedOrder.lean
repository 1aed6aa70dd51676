import SpokenForm.Proofs.Token.Rearrangement

/-! The order that a token lists for its fields, place by place, so that fields which look the same are
told apart. Each listed name takes a place, and the places that are left follow. Fields that stand in
this order stay as they are. -/
namespace SpokenForm.Token

def keyAt (token : Token) (place : Fin token.length) : Text := token[place].key

/-- The places that a list of names takes out of some places of a token, and those that are left: each
name takes the first place left that has a field of this name, if there is one. -/
inductive Takes (token : Token) :
    List Text → List (Fin token.length) → List (Fin token.length) → List (Fin token.length) → Prop where
  | done (left : List (Fin token.length)) : Takes token [] left [] left
  | place {name : Text} {names : List Text} {before after taken others : List (Fin token.length)}
      {place : Fin token.length} (named : keyAt token place = name)
      (first : ∀ earlier ∈ before, keyAt token earlier ≠ name)
      (later : Takes token names (before ++ after) taken others) :
      Takes token (name :: names) (before ++ place :: after) (place :: taken) others
  | nothing {name : Text} {names : List Text} {left taken others : List (Fin token.length)}
      (absent : ∀ place ∈ left, keyAt token place ≠ name)
      (later : Takes token names left taken others) : Takes token (name :: names) left taken others

/-- The places of a token in the order that a list of names gives them. -/
def PlacesListed (token : Token) (names : List Text) (order : List (Fin token.length)) : Prop :=
  ∃ taken others, order = taken ++ others ∧
    token.Takes names (List.finRange token.length) taken others

/-- Fields of one name stand in their source order. -/
def Stable (token : Token) (order : List (Fin token.length)) : Prop :=
  order.Pairwise fun place later => token.keyAt place = token.keyAt later → place < later

variable {token : Token} {names : List Text} {left taken others : List (Fin token.length)}

theorem takeWhile_first {name : Text} {before : List (Fin token.length)} {place : Fin token.length}
    (first : ∀ earlier ∈ before, token.keyAt earlier ≠ name) (named : token.keyAt place = name)
    (after : List (Fin token.length)) :
    (before ++ place :: after).takeWhile (token.keyAt · ≠ name) = before := by
  rw [List.takeWhile_append_of_pos (by simpa using first), List.takeWhile_cons_of_neg (by simp [named]),
    List.append_nil]

namespace Takes

theorem perm (takes : token.Takes names left taken others) : (taken ++ others).Perm left := by
  induction takes with
  | done left => exact .refl left
  | place _ _ _ ih => exact (ih.cons _).trans List.perm_middle.symm
  | nothing _ _ ih => exact ih

theorem others_sublist (takes : token.Takes names left taken others) : others.Sublist left := by
  induction takes with
  | done left => exact .refl left
  | @place _ _ before after _ _ place _ _ _ ih =>
    exact ih.trans ((List.sublist_cons_self place after).append_left before)
  | nothing _ _ ih => exact ih

theorem taken_sublist (takes : token.Takes names left taken others) :
    (taken.map token.keyAt).Sublist names := by
  induction takes with
  | done => exact .refl []
  | place named _ _ ih => exact named ▸ ih.cons_cons _
  | nothing _ _ ih => exact ih.cons _

/-- A name takes the first of its places, so that those of this name behind it come later. -/
theorem stable (takes : token.Takes names left taken others) (ascending : left.Pairwise (· < ·)) :
    token.Stable (taken ++ others) := by
  induction takes with
  | done left =>
    refine List.Pairwise.imp ?_ ascending
    exact fun less _ => less
  | @place name names before after taken others place named first later ih =>
    obtain ⟨front, back, across⟩ := List.pairwise_append.mp ascending
    obtain ⟨behind, back⟩ := List.pairwise_cons.mp back
    have fewer : (before ++ after).Pairwise (· < ·) :=
      List.pairwise_append.mpr ⟨front, back, fun early inFront late inBack =>
        across early inFront late (List.mem_cons_of_mem place inBack)⟩
    refine List.pairwise_cons.mpr ⟨fun other member same => ?_, ih fewer⟩
    rcases List.mem_append.mp (later.perm.mem_iff.mp member) with inFront | inBack
    · exact absurd (same.symm.trans named) (first other inFront)
    · exact behind other inBack
  | nothing _ _ ih => exact ih ascending

/-- A name has one first place, so that the places taken are settled. -/
theorem unique {moreTaken moreOthers : List (Fin token.length)}
    (takes : token.Takes names left taken others)
    (alsoTakes : token.Takes names left moreTaken moreOthers) :
    taken = moreTaken ∧ others = moreOthers := by
  induction takes generalizing moreTaken moreOthers with
  | done left =>
    cases alsoTakes
    exact ⟨rfl, rfl⟩
  | @place name names before after taken others place named first later ih =>
    generalize split : before ++ place :: after = left at alsoTakes
    cases alsoTakes with
    | @place _ _ front back _ _ other alsoNamed alsoFirst alsoLater =>
      have same := congrArg (List.takeWhile (token.keyAt · ≠ name)) split
      rw [takeWhile_first first named, takeWhile_first alsoFirst alsoNamed] at same
      subst same
      obtain ⟨rfl, rfl⟩ := List.cons.inj (List.append_cancel_left split)
      obtain ⟨rfl, rfl⟩ := ih alsoLater
      exact ⟨rfl, rfl⟩
    | nothing absent _ =>
      subst split
      exact absurd named (absent place (List.mem_append_right _ List.mem_cons_self))
  | nothing absent later ih =>
    cases alsoTakes with
    | place named _ _ =>
      exact absurd named (absent _ (List.mem_append_right _ List.mem_cons_self))
    | nothing _ alsoLater => exact ih alsoLater

/-- Fields that stand as names have taken them are taken as they stand. -/
theorem in_place (takes : token.Takes names left taken others) {ordered : Token}
    {places : List (Fin ordered.length)}
    (same : places.map ordered.keyAt = (taken ++ others).map token.keyAt) :
    ordered.Takes names places (places.take taken.length) (places.drop taken.length) := by
  induction takes generalizing places with
  | done left => exact .done places
  | place named _ _ ih =>
    obtain ⟨head, tail, rfl, alsoNamed, rest⟩ := List.map_eq_cons_iff.mp same
    have taken := Takes.place (alsoNamed.trans named) (List.forall_mem_nil _) (ih rest)
    exact taken
  | nothing absent later ih =>
    refine .nothing (fun place member => ?_) (ih same)
    have among : ordered.keyAt place ∈ List.map token.keyAt _ := same ▸ List.mem_map_of_mem member
    obtain ⟨twin, inside, alike⟩ := List.mem_map.mp among
    exact alike ▸ absent twin (later.perm.mem_iff.mp inside)

end Takes

/-- What is listed first are the fields at the places that the names take, and then the others. -/
theorem exists_takes (token : Token) (names : List Text) (left : List (Fin token.length)) :
    ∃ taken others, token.Takes names left taken others ∧
      listedFirst names (left.map token.get) = (taken ++ others).map token.get := by
  induction names generalizing left with
  | nil => exact ⟨[], left, .done left, rfl⟩
  | cons name names ih =>
    unfold listedFirst
    split
    · rename_i found rest picked
      obtain ⟨front, back, split, rfl, named, first⟩ := exists_of_take? picked
      obtain ⟨before, behind, rfl, rfl, same⟩ := List.map_eq_append_iff.mp split
      obtain ⟨place, after, rfl, rfl, rfl⟩ := List.map_eq_cons_iff.mp same
      obtain ⟨taken, others, takes, listed⟩ := ih (before ++ after)
      refine ⟨place :: taken, others, .place named ?_ takes, ?_⟩
      · rintro earlier member alike
        exact first (List.mem_map.mpr ⟨_, List.mem_map_of_mem member, alike⟩)
      · rw [← List.map_append, listed]
        rfl
    · rename_i missing
      obtain ⟨taken, others, takes, listed⟩ := ih left
      refine ⟨taken, others, .nothing ?_ takes, listed⟩
      rintro place member rfl
      exact absent_of_take? missing (List.mem_map.mpr ⟨_, List.mem_map_of_mem member, rfl⟩)

/-- The first field of every name stays the first one. -/
theorem Listed.get?_eq {ordered : Token} (listed : Listed names token ordered) (name : Text) :
    get? ordered name = get? token name := by
  unfold get?
  induction listed with
  | others token => rfl
  | @taken names before after ordered field first later ih =>
    rw [List.find?_append] at ih
    rw [List.find?_append, List.find?_cons, List.find?_cons, ih]
    cases named : field.key == name with
    | false => rfl
    | true =>
      have none : before.find? (·.key == name) = none := by
        rw [List.find?_eq_none]
        rintro earlier member same
        obtain rfl : field.key = name := eq_of_beq named
        exact first (List.mem_map.mpr ⟨earlier, member, eq_of_beq same⟩)
      rw [none]
      rfl
  | unknown _ _ ih => exact ih

theorem fieldOrder?_listedFirst (names : List Text) (token : Token) :
    fieldOrder? (listedFirst names token) = fieldOrder? token := by
  rw [fieldOrder?, fieldOrder?, (listed_listedFirst names token).get?_eq]

theorem map_keyAt (token : Token) (places : List (Fin token.length)) :
    places.map token.keyAt = (places.map token.get).map Field.key := by
  rw [List.map_map]
  rfl

/-- A token whose fields stand as names have taken them is listed as it stands. -/
theorem placesListed_of_ordered {ordered : Token}
    (takes : token.Takes names (List.finRange token.length) taken others)
    (same : ordered = (taken ++ others).map token.get) (order : List (Fin ordered.length)) :
    ordered.PlacesListed names order ↔ order = List.finRange ordered.length := by
  have keys : (List.finRange ordered.length).map ordered.keyAt =
      (taken ++ others).map token.keyAt := by
    rw [map_keyAt, map_keyAt, ← same, List.map_get_finRange]
  have inPlace := takes.in_place keys
  constructor
  · rintro ⟨first, last, rfl, alsoTakes⟩
    obtain ⟨rfl, rfl⟩ := alsoTakes.unique inPlace
    exact List.take_append_drop ..
  · rintro rfl
    exact ⟨_, _, (List.take_append_drop ..).symm, inPlace⟩

/-- Listing once more changes nothing. -/
theorem listedFirst_listedFirst (names : List Text) (token : Token) :
    listedFirst names (listedFirst names token) = listedFirst names token := by
  obtain ⟨taken, others, takes, listed⟩ := exists_takes token names (List.finRange token.length)
  rw [List.map_get_finRange] at listed
  obtain ⟨again, rest, alsoTakes, alsoListed⟩ :=
    exists_takes (listedFirst names token) names (List.finRange _)
  have inPlace : again ++ rest = List.finRange (listedFirst names token).length :=
    (placesListed_of_ordered takes listed (again ++ rest)).mp ⟨again, rest, rfl, alsoTakes⟩
  rwa [inPlace, List.map_get_finRange] at alsoListed

/-- A token that lists an order for its fields has each of them once in this order. The places that the
listed names take come first, in the order of the list, and the others follow in source order; so do
fields of one name. Once the fields stand in this order, the token lists the same names, they leave
every field where it is, and so does the order that is asked for again. -/
theorem listed_order_is_kept {token : Token} {names : List Text}
    (marked : fieldOrder? token = some names) (index : Nat) :
    ∃ taken others,
      token.Takes names (List.finRange token.length) taken others ∧
      (taken.map token.keyAt).Sublist names ∧
      others.Pairwise (· < ·) ∧
      (taken ++ others).Perm (List.finRange token.length) ∧
      token.Stable (taken ++ others) ∧
      token.inOrder index = (taken ++ others).map token.get ∧
      fieldOrder? (token.inOrder index) = some names ∧
      (∀ order, (token.inOrder index).PlacesListed names order ↔
        order = List.finRange (token.inOrder index).length) ∧
      ∀ again, (token.inOrder index).inOrder again = token.inOrder index := by
  obtain ⟨taken, others, takes, listed⟩ := exists_takes token names (List.finRange token.length)
  rw [List.map_get_finRange] at listed
  have ordered : token.inOrder index = listedFirst names token := by simp [inOrder, marked]
  have alsoMarked : fieldOrder? (listedFirst names token) = some names :=
    (fieldOrder?_listedFirst names token).trans marked
  have ascending := List.pairwise_lt_finRange token.length
  rw [ordered]
  refine ⟨taken, others, takes, takes.taken_sublist, ascending.sublist takes.others_sublist, takes.perm,
    takes.stable ascending, listed, alsoMarked, placesListed_of_ordered takes listed, fun again => ?_⟩
  simp [inOrder, alsoMarked, listedFirst_listedFirst]

/-- A date with two days that look the same, and with two orders. The first one lists the day three
times, a field that is not there, and the order itself. -/
def dateListedTwice : Token :=
  [.leaf "year".toList "2013".toList, .leaf "day".toList "24".toList,
    .leaf "field_order".toList "day era field_order day day".toList, .leaf "day".toList "24".toList,
    .leaf "field_order".toList "year".toList]

/-- The names that the first order lists. -/
def datesNames : List Text :=
  ["day".toList, "era".toList, "field_order".toList, "day".toList, "day".toList]

theorem listed_order_is_kept_date :
    fieldOrder? dateListedTwice = some datesNames ∧
    fieldOrder? (dateListedTwice.inOrder 0) = some datesNames ∧
    ∀ order, (dateListedTwice.inOrder 0).PlacesListed datesNames order ↔
      order = List.finRange (dateListedTwice.inOrder 0).length := by
  have marked : fieldOrder? dateListedTwice = some datesNames := by decide
  obtain ⟨-, -, -, -, -, -, -, -, alsoMarked, inPlace, -⟩ := listed_order_is_kept marked 0
  exact ⟨marked, alsoMarked, inPlace⟩

end SpokenForm.Token
