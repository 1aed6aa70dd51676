import Mathlib.Data.List.Nodup
import SpokenForm.Proofs.Punctuation.Respacing

/-! The spacing of punctuation that is taken over. One mark after another sets the spaces on its two
sides, so that between two characters the last mark decides that both texts have equally often. -/
namespace SpokenForm.Punctuation

open Text

variable {raw text front back done : Text} {mark c d : Char} {space : Bool}

/-! Spacing in the raw text. -/

/-- The occurrence of a mark behind `rank` others is followed by a space. -/
def SpaceBehind (raw : Text) (mark : Char) (rank : Nat) : Prop :=
  ∃ before behind, raw = before ++ mark :: behind ∧ before.count mark = rank ∧
    behind.head? = some ' '

/-- The occurrence of a mark behind `rank` others follows a space. -/
def SpaceBefore (raw : Text) (mark : Char) (rank : Nat) : Prop :=
  ∃ before behind, raw = before ++ mark :: behind ∧ before.count mark = rank ∧
    before.getLast? = some ' '

theorem length_spacingsFrom (mark : Char) (behindSpace : Bool) (text : Text) :
    (spacingsFrom mark behindSpace text).length = text.count mark := by
  induction text generalizing behindSpace with
  | nil => rfl
  | cons c text ih =>
    by_cases same : c = mark
    · simp [spacingsFrom, same, ih]
    · simp [spacingsFrom, same, ih]

theorem getElem?_spacingsFrom (mark : Char) (behindSpace : Bool) (before behind : Text) :
    (spacingsFrom mark behindSpace (before ++ mark :: behind))[before.count mark]? =
      some ⟨(before.getLast?.map fun c => decide (c = ' ')).getD behindSpace,
        behind.head? = some ' '⟩ := by
  induction before generalizing behindSpace with
  | nil => simp [spacingsFrom]
  | cons c before ih =>
    have last : ((c :: before).getLast?.map fun c => decide (c = ' ')).getD behindSpace =
        (before.getLast?.map fun c => decide (c = ' ')).getD (decide (c = ' ')) := by
      rw [List.getLast?_cons]
      cases before.getLast? <;> rfl
    rw [last, ← ih]
    by_cases same : c = mark
    · simp [spacingsFrom, same]
    · simp [spacingsFrom, same]

theorem exists_occurrence {rank : Nat} (inside : rank < raw.count mark) :
    ∃ before behind, raw = before ++ mark :: behind ∧ before.count mark = rank := by
  induction raw generalizing rank with
  | nil => simp at inside
  | cons c raw ih =>
    by_cases same : c = mark
    · subst same
      cases rank with
      | zero => exact ⟨[], raw, rfl, rfl⟩
      | succ rank =>
        obtain ⟨before, behind, rfl, count⟩ := ih (by simpa using inside)
        exact ⟨c :: before, behind, rfl, by simp [count]⟩
    · obtain ⟨before, behind, rfl, count⟩ := ih (by simpa [same] using inside)
      exact ⟨c :: before, behind, rfl, by simp [count, same]⟩

/-- Spacings are those of the occurrences in order. -/
theorem spacing_iff {rank : Nat} {spacing : Spacing}
    (found : (spacings mark raw)[rank]? = some spacing) :
    (spacing.after = true ↔ SpaceBehind raw mark rank) ∧
      (spacing.before = true ↔ SpaceBefore raw mark rank) := by
  have occurrence {before behind : Text} (split : raw = before ++ mark :: behind)
      (count : before.count mark = rank) :
      spacing = ⟨before.getLast? = some ' ', behind.head? = some ' '⟩ := by
    subst split count
    rw [spacings, getElem?_spacingsFrom] at found
    rw [← Option.some.inj found]
    cases before.getLast? <;> simp
  have inside : rank < raw.count mark := by
    rw [← length_spacingsFrom mark false raw]
    exact (List.getElem?_eq_some_iff.mp found).1
  obtain ⟨before, behind, split, count⟩ := exists_occurrence inside
  have spaced := occurrence split count
  constructor
  · constructor
    · intro after
      exact ⟨before, behind, split, count, by simpa [spaced] using after⟩
    · rintro ⟨otherBefore, otherBehind, otherSplit, otherCount, follows⟩
      simp [occurrence otherSplit otherCount, follows]
  · constructor
    · intro precedes
      exact ⟨before, behind, split, count, by simpa [spaced] using precedes⟩
    · rintro ⟨otherBefore, otherBehind, otherSplit, otherCount, follows⟩
      simp [occurrence otherSplit otherCount, follows]

/-! Two characters and the space between them. -/

/-- Two characters of a text stand between others, with a space or none between them. The others are
given without their spaces. -/
def Between (front : Text) (c : Char) (space : Bool) (d : Char) (back text : Text) : Prop :=
  ∃ before behind, text = before ++ c :: (gap space ++ d :: behind) ∧
    spaceless before = front ∧ spaceless behind = back

theorem Between.spaceless (solidC : c ≠ ' ') (solidD : d ≠ ' ')
    (between : Between front c space d back text) : Text.spaceless text = front ++ c :: d :: back := by
  obtain ⟨before, behind, rfl, rfl, rfl⟩ := between
  simp [spaceless_cons_of_ne solidC, spaceless_cons_of_ne solidD]

theorem eq_gap_of_isChain (blank : ∀ c ∈ text, c = ' ')
    (apart : text.IsChain fun c next => ¬ (c = ' ' ∧ next = ' ')) : ∃ space, text = gap space := by
  match text with
  | [] => exact ⟨false, rfl⟩
  | [c] =>
    obtain rfl := blank c (by simp)
    exact ⟨true, rfl⟩
  | c :: next :: text =>
    have both : c = ' ' ∧ next = ' ' := ⟨blank c (by simp), blank next (by simp)⟩
    exact absurd both (List.isChain_cons_cons.mp apart).1

theorem exists_between (single : SingleSpaced text) (chars : spaceless text = front ++ c :: d :: back) :
    ∃ space, Between front c space d back text := by
  obtain ⟨first, rest, rfl, isFront, others⟩ := List.filter_eq_append_iff.mp chars
  obtain ⟨blankFirst, second, rfl, nothingFirst, -, later⟩ := List.filter_eq_cons_iff.mp others
  obtain ⟨blank, behind, rfl, nothing, -, isBack⟩ := List.filter_eq_cons_iff.mp later
  have spaces : ∀ c ∈ blank, c = ' ' := by simpa using nothing
  have apart : blank.IsChain fun c next => ¬ (c = ' ' ∧ next = ' ') :=
    single.apart.infix ⟨first ++ (blankFirst ++ [c]), d :: behind, by simp⟩
  obtain ⟨space, rfl⟩ := eq_gap_of_isChain spaces apart
  have noneFirst : spaceless blankFirst = [] := List.filter_eq_nil_iff.mpr nothingFirst
  refine ⟨space, first ++ blankFirst, behind, by simp, ?_, isBack⟩
  rw [spaceless_append, noneFirst, List.append_nil]
  exact isFront

/-! One mark. -/

theorem setSpace_append (starts : back.head? ≠ some ' ') (wanted : Bool) (lead : Text) :
    ∃ other, setSpace wanted (lead ++ back) = other ++ back ∧ spaceless other = spaceless lead := by
  cases lead with
  | nil =>
    cases back with
    | nil => exact ⟨[], rfl, rfl⟩
    | cons c back =>
      have solid : c ≠ ' ' := by simpa using starts
      refine ⟨gap wanted, ?_, by simp⟩
      cases wanted <;> simp [setSpace, gap, solid]
  | cons c lead =>
    refine ⟨setSpace wanted (c :: lead), ?_, spaceless_setSpace wanted (c :: lead)⟩
    by_cases space : c = ' '
    · cases wanted <;> simp [setSpace, space]
    · cases wanted <;> simp [setSpace, space]

theorem setSpace_gap (solid : c ≠ ' ') (wanted space : Bool) (rest : Text) :
    setSpace wanted (gap space ++ c :: rest) = gap wanted ++ c :: rest := by
  cases space <;> cases wanted <;> simp [setSpace, gap, solid]

theorem respace_gap (solid : mark ≠ ' ') (space : Bool) (done : Text) (wanted : List Spacing)
    (front : Text) :
    respace mark done wanted (gap space ++ front) = respace mark (gap space ++ done) wanted front := by
  cases space with
  | false => rfl
  | true => exact respace_other solid.symm done wanted front

theorem respace_absent {stretch : Text} (absent : mark ∉ stretch) (done : Text)
    (wanted : List Spacing) (front : Text) :
    respace mark done wanted (stretch ++ front) =
      respace mark (stretch.reverse ++ done) wanted front := by
  induction stretch generalizing done with
  | nil => rfl
  | cons c stretch ih =>
    obtain ⟨other, absent⟩ := not_or.mp (List.mem_cons.not.mp absent)
    rw [List.cons_append, respace_other (Ne.symm other), ih absent, List.reverse_cons,
      List.append_assoc, List.singleton_append]

/-- A mark that passes over a stretch of the text moves no spaces beyond the ends of the stretch. -/
theorem respace_stretch (solid : mark ≠ ' ') (near far : List Spacing) (lead stretch : Text)
    (enough : near.length = stretch.count mark) (behind : done.head? ≠ some ' ')
    (before : front.head? ≠ some ' ') :
    ∃ other, spaceless other = spaceless (stretch.reverse ++ lead) ∧
      respace mark (lead ++ done) (near ++ far) (stretch ++ front) =
        respace mark (other ++ done) far front := by
  induction near generalizing lead stretch with
  | nil =>
    have absent : mark ∉ stretch := List.count_eq_zero.mp enough.symm
    refine ⟨stretch.reverse ++ lead, rfl, ?_⟩
    rw [List.nil_append, respace_absent absent, List.append_assoc]
  | cons spacing near ih =>
    have present : mark ∈ stretch := List.count_pos_iff.mp (enough ▸ Nat.succ_pos near.length)
    obtain ⟨skipped, rest, rfl, absent⟩ := List.eq_append_cons_of_mem present
    obtain ⟨passed, spaced, same⟩ := setSpace_append behind spacing.after (skipped.reverse ++ lead)
    obtain ⟨ahead, spacedAhead, sameAhead⟩ := setSpace_append before spacing.before rest
    have count : near.length = ahead.count mark := by
      rw [count_eq_of_spaceless sameAhead solid]
      simpa [List.count_eq_zero.mpr absent] using enough
    obtain ⟨other, sameOther, run⟩ := ih (mark :: passed) ahead count
    refine ⟨other, ?_, ?_⟩
    · rw [sameOther, spaceless_append, spaceless_cons, same, spaceless_reverse, sameAhead]
      simp [spaceless_cons mark (skipped.reverse ++ lead)]
    · rw [List.append_assoc, respace_absent absent, ← List.append_assoc, List.cons_append,
        List.cons_append, respace_mark solid, spaced, spacedAhead]
      exact run

/-- A character that is the mark sets the space in front of it. -/
theorem respace_second (solid : mark ≠ ' ') (solidC : c ≠ ' ') (space : Bool) (done front : Text)
    (far : List Spacing) {own : List Spacing} (enough : own.length = [d].count mark) :
    ∃ other between, spaceless other = spaceless done ∧
      respace mark done (own ++ far) (d :: (gap space ++ c :: front)) =
        respace mark (gap between ++ d :: other) far (c :: front) ∧
      (d ≠ mark → between = space) ∧
      (d = mark → ∃ spacing, own = [spacing] ∧ between = spacing.before) := by
  by_cases here : d = mark
  · subst here
    obtain ⟨spacing, rfl⟩ := List.length_eq_one_iff.mp (by simpa using enough)
    refine ⟨setSpace spacing.after done, spacing.before, spaceless_setSpace _ _, ?_, by simp,
      fun _ => ⟨spacing, rfl, rfl⟩⟩
    rw [List.singleton_append, respace_mark solid, setSpace_gap solidC, respace_gap solid]
  · obtain rfl := List.length_eq_zero_iff.mp (by simpa [here] using enough)
    refine ⟨done, space, rfl, ?_, fun _ => rfl, fun same => absurd same here⟩
    rw [List.nil_append, respace_other here, respace_gap solid]

/-- A character that is the mark sets the space behind it. -/
theorem respace_first (solid : mark ≠ ' ') (solidD : d ≠ ' ') (space : Bool) (done front : Text)
    (far : List Spacing) {own : List Spacing} (enough : own.length = [c].count mark) :
    ∃ other between, spaceless other = spaceless front ∧
      respace mark (gap space ++ d :: done) (own ++ far) (c :: front) =
        respace mark (c :: (gap between ++ d :: done)) far other ∧
      (c ≠ mark → between = space) ∧
      (c = mark → ∃ spacing, own = [spacing] ∧ between = spacing.after) := by
  by_cases here : c = mark
  · subst here
    obtain ⟨spacing, rfl⟩ := List.length_eq_one_iff.mp (by simpa using enough)
    refine ⟨setSpace spacing.before front, spacing.after, spaceless_setSpace _ _, ?_, by simp,
      fun _ => ⟨spacing, rfl, rfl⟩⟩
    rw [List.singleton_append, respace_mark solid, setSpace_gap solidD]
  · obtain rfl := List.length_eq_zero_iff.mp (by simpa [here] using enough)
    exact ⟨front, space, rfl, by rw [List.nil_append, respace_other here], fun _ => rfl,
      fun same => absurd same here⟩

theorem exists_append_of_length {α : Type} {items : List α} {first second : Nat}
    (length : items.length = first + second) :
    ∃ front back, items = front ++ back ∧ front.length = first ∧ back.length = second :=
  ⟨items.take first, items.drop first, (List.take_append_drop ..).symm, by simp; omega,
    by simp; omega⟩

/-- The spacings that a mark is given fall to what is in front, to the two characters, and to what is
behind them. -/
theorem exists_shares (solid : mark ≠ ' ') (solidC : c ≠ ' ') (solidD : d ≠ ' ')
    (found : Between front c space d back text) {wanted : List Spacing}
    (enough : wanted.length = text.count mark) :
    ∃ far first second near, wanted = far ++ (first ++ (second ++ near)) ∧
      far.length = front.count mark ∧ first.length = [c].count mark ∧
      second.length = [d].count mark ∧ near.length = back.count mark := by
  have total : wanted.length =
      front.count mark + ([c].count mark + ([d].count mark + back.count mark)) := by
    rw [enough, ← count_spaceless solid, found.spaceless solidC solidD, List.append_cons front c,
      List.append_cons _ d, List.count_append, List.count_append, List.count_append]
    omega
  obtain ⟨far, others, rfl, lengthFar, rest⟩ := exists_append_of_length total
  obtain ⟨first, others, rfl, lengthFirst, rest⟩ := exists_append_of_length rest
  obtain ⟨second, near, rfl, lengthSecond, lengthNear⟩ := exists_append_of_length rest
  exact ⟨far, first, second, near, rfl, lengthFar, lengthFirst, lengthSecond, lengthNear⟩

/-- Between two characters a mark leaves the space as it is, unless it is one of them. -/
theorem between_respace (solid : mark ≠ ' ') (solidC : c ≠ ' ') (solidD : d ≠ ' ')
    (found : Between front c space d back text) {wanted : List Spacing}
    (enough : wanted.length = text.count mark) :
    ∃ between, Between front c between d back (respace mark [] wanted.reverse text.reverse) ∧
      (c ≠ mark → d ≠ mark → between = space) ∧
      (c = mark → ∃ spacing, wanted[front.count mark]? = some spacing ∧ between = spacing.after) ∧
      (c ≠ mark → d = mark →
        ∃ spacing, wanted[front.count mark]? = some spacing ∧ between = spacing.before) := by
  obtain ⟨far, first, second, near, rfl, lengthFar, lengthFirst, lengthSecond, lengthNear⟩ :=
    exists_shares solid solidC solidD found enough
  obtain ⟨before, behind, rfl, rfl, rfl⟩ := found
  rw [count_spaceless solid] at lengthFar lengthNear
  -- From the back: over what is behind, at the second character, at the first one, over the rest.
  have starts : (d :: (gap space ++ c :: before.reverse)).head? ≠ some ' ' := by simpa using solidD
  have nothing : ([] : Text).head? ≠ some ' ' := by simp
  obtain ⟨later, sameLater, overLater⟩ := respace_stretch solid near.reverse
    (second.reverse ++ (first.reverse ++ far.reverse)) [] behind.reverse (by simpa using lengthNear)
    nothing starts
  obtain ⟨later', between, sameLater', atSecond, keptSecond, setSecond⟩ :=
    respace_second solid solidC space (later ++ []) before.reverse
      (first.reverse ++ far.reverse) ((List.length_reverse).trans lengthSecond)
  obtain ⟨earlier, between', sameEarlier, atFirst, keptFirst, setFirst⟩ :=
    respace_first solid solidD between later' before.reverse far.reverse
      ((List.length_reverse).trans lengthFirst)
  have count : far.reverse.length = earlier.count mark := by
    rw [count_eq_of_spaceless sameEarlier solid]
    simpa using lengthFar
  have ends : (c :: (gap between' ++ d :: later')).head? ≠ some ' ' := by simpa using solidC
  obtain ⟨earlier', sameEarlier', overEarlier⟩ :=
    respace_stretch solid far.reverse [] [] earlier count ends nothing
  have reversed : (far ++ (first ++ (second ++ near))).reverse =
      near.reverse ++ (second.reverse ++ (first.reverse ++ far.reverse)) := by simp
  have backwards : (before ++ c :: (gap space ++ d :: behind)).reverse =
      behind.reverse ++ d :: (gap space ++ c :: before.reverse) := by simp
  refine ⟨between', ⟨earlier', later', ?_, ?_, ?_⟩, ?_, ?_, ?_⟩
  · rw [reversed, backwards]
    exact overLater.trans (atSecond.trans (atFirst.trans (by simpa [respace_front] using overEarlier)))
  · rw [sameEarlier', List.append_nil, spaceless_reverse, sameEarlier, spaceless_reverse,
      List.reverse_reverse]
  · simpa [sameLater] using sameLater'
  · intro otherFirst otherSecond
    rw [keptFirst otherFirst, keptSecond otherSecond]
  · intro here
    obtain ⟨spacing, own, same⟩ := setFirst here
    obtain rfl := List.reverse_eq_iff.mp own
    exact ⟨spacing, by simp [count_spaceless solid, ← lengthFar], same⟩
  · intro other here
    obtain ⟨spacing, own, same⟩ := setSecond here
    obtain rfl := List.reverse_eq_iff.mp own
    obtain rfl : first = [] := by simpa [other] using lengthFirst
    exact ⟨spacing, by simp [count_spaceless solid, ← lengthFar], (keptFirst other).trans same⟩

/-- Both texts have a mark equally often, and at least once. -/
def Shared (raw text : Text) (mark : Char) : Prop :=
  raw.count mark = text.count mark ∧ 0 < text.count mark

theorem shared_iff_of_spaceless {other : Text} (same : spaceless other = spaceless text)
    (solid : mark ≠ ' ') : Shared raw other mark ↔ Shared raw text mark := by
  rw [Shared, Shared, count_eq_of_spaceless same solid]

section Marks

variable (raw : Text) (solidC : c ≠ ' ') (solidD : d ≠ ' ')
  (found : Between front c space d back text)
include solidC solidD found

/-- A mark that both texts have equally often decides on its two sides, and no other. -/
theorem between_restoreMark (solid : mark ≠ ' ') :
    ∃ between, Between front c between d back (restoreMark raw text mark) ∧
      ((Shared raw text mark → c ≠ mark ∧ d ≠ mark) → between = space) ∧
      (Shared raw text mark → c = mark →
        (between = true ↔ SpaceBehind raw mark (front.count mark))) ∧
      (Shared raw text mark → c ≠ mark → d = mark →
        (between = true ↔ SpaceBefore raw mark (front.count mark))) := by
  have length : (spacings mark raw).length = raw.count mark := length_spacingsFrom mark false raw
  rw [restoreMark]
  by_cases alike : (spacings mark raw).length = text.count mark
  · rw [if_pos alike]
    obtain ⟨between, placed, kept, behind, before⟩ :=
      between_respace solid solidC solidD found alike
    have chars := found.spaceless solidC solidD
    refine ⟨between, placed, fun apart => ?_, fun _ here => ?_, fun _ other here => ?_⟩
    · -- A mark that is one of the two characters stands in both texts.
      by_cases absent : c ≠ mark ∧ d ≠ mark
      · exact kept absent.1 absent.2
      · have positive : 0 < text.count mark := by
          rw [← count_spaceless solid, chars, List.count_pos_iff]
          by_contra missing
          simp only [List.mem_append, List.mem_cons, not_or] at missing
          exact absent ⟨Ne.symm missing.2.1, Ne.symm missing.2.2.1⟩
        exact absurd (apart ⟨length.symm.trans alike, positive⟩) absent
    · obtain ⟨spacing, own, same⟩ := behind here
      rw [same]
      exact (spacing_iff own).1
    · obtain ⟨spacing, own, same⟩ := before other here
      rw [same]
      exact (spacing_iff own).2
  · rw [if_neg alike]
    have different : ¬ Shared raw text mark := fun shared => alike (length.trans shared.1)
    exact ⟨space, found, fun _ => rfl, fun shared => absurd shared different,
      fun shared => absurd shared different⟩

/-- Marks that stand on neither side, or that the texts do not share, leave the space as it is. -/
theorem between_foldl {marks : Text} (solid : ∀ mark ∈ marks, mark ≠ ' ') :
    ∃ between, Between front c between d back (marks.foldl (restoreMark raw) text) ∧
      ((∀ mark ∈ marks, Shared raw text mark → c ≠ mark ∧ d ≠ mark) → between = space) := by
  induction marks generalizing text space with
  | nil => exact ⟨space, found, fun _ => rfl⟩
  | cons mark marks ih =>
    obtain ⟨here, others⟩ := List.forall_mem_cons.mp solid
    have moved := (spacesMoved_restoreMark raw text here).spaceless
    obtain ⟨first, placed, kept, -, -⟩ := between_restoreMark raw solidC solidD found here
    obtain ⟨between, settled, keptLater⟩ := ih placed others
    refine ⟨between, settled, fun apart => ?_⟩
    obtain ⟨apartHere, apartLater⟩ := List.forall_mem_cons.mp apart
    rw [keptLater fun other member shared => ?_, kept apartHere]
    exact apartLater other member ((shared_iff_of_spaceless moved (others other member)).mp shared)

/-- The last mark that has a say decides. -/
theorem between_decided {earlier later : Text}
    (solid : ∀ other ∈ earlier ++ mark :: later, other ≠ ' ') (shared : Shared raw text mark)
    (apart : ∀ other ∈ later, Shared raw text other → c ≠ other ∧ d ≠ other) :
    ∃ between, Between front c between d back
        ((earlier ++ mark :: later).foldl (restoreMark raw) text) ∧
      (c = mark → (between = true ↔ SpaceBehind raw mark (front.count mark))) ∧
      (c ≠ mark → d = mark → (between = true ↔ SpaceBefore raw mark (front.count mark))) := by
  obtain ⟨solidEarlier, others⟩ := List.forall_mem_append.mp solid
  obtain ⟨here, solidLater⟩ := List.forall_mem_cons.mp others
  obtain ⟨before, placed, -⟩ := between_foldl raw solidC solidD found solidEarlier
  have moved := (spacesMoved_foldl raw solidEarlier text).spaceless
  obtain ⟨decided, settled, -, behind, ahead⟩ :=
    between_restoreMark raw solidC solidD placed here
  have moved' := (spacesMoved_restoreMark raw _ here).spaceless.trans moved
  obtain ⟨between, done, kept⟩ := between_foldl raw solidC solidD settled solidLater
  have same : between = decided := kept fun other member shared =>
    apart other member ((shared_iff_of_spaceless moved' (solidLater other member)).mp shared)
  have alsoShared := (shared_iff_of_spaceless moved here).mpr shared
  rw [List.foldl_append, List.foldl_cons]
  exact ⟨between, done, same ▸ behind alsoShared, same ▸ ahead alsoShared⟩

end Marks

/-! All marks. -/

theorem idxOf_lt_of_mem_later {α : Type} [DecidableEq α] {marks earlier later : List α}
    {mark other : α} (distinct : marks.Nodup) (split : marks = earlier ++ mark :: later)
    (member : other ∈ later) : marks.idxOf mark < marks.idxOf other := by
  subst split
  obtain ⟨-, behind, apart⟩ := List.nodup_append.mp distinct
  have notEarlier : mark ∉ earlier := fun inside => apart mark inside mark List.mem_cons_self rfl
  have otherNotEarlier : other ∉ earlier :=
    fun inside => apart other inside other (List.mem_cons_of_mem _ member) rfl
  have different : mark ≠ other := by
    rintro rfl
    exact (List.nodup_cons.mp behind).1 member
  rw [List.idxOf_append_of_notMem notEarlier, List.idxOf_append_of_notMem otherNotEarlier,
    List.idxOf_cons_self, List.idxOf_cons_ne _ different]
  omega

/-- A mark whose spacing is taken over. -/
def Active (raw text : Text) (mark : Char) : Prop :=
  mark ∈ restoredMarks ∧ Shared raw text mark

theorem nodup_restoredMarks : restoredMarks.Nodup := by decide

/-- The active mark that is latest in the list decides between two characters. -/
theorem between_latest (raw : Text) (solidC : c ≠ ' ') (solidD : d ≠ ' ')
    (found : Between front c space d back text) (active : Active raw text mark)
    (latest : ∀ other, Active raw text other → c = other ∨ d = other →
      restoredMarks.idxOf other ≤ restoredMarks.idxOf mark) :
    ∃ between, Between front c between d back (restoreSpacing raw text) ∧
      (c = mark → (between = true ↔ SpaceBehind raw mark (front.count mark))) ∧
      (c ≠ mark → d = mark → (between = true ↔ SpaceBefore raw mark (front.count mark))) := by
  obtain ⟨earlier, later, split⟩ := List.append_of_mem active.1
  have apart : ∀ other ∈ later, Shared raw text other → c ≠ other ∧ d ≠ other := by
    intro other member shared
    have listed : other ∈ restoredMarks := split ▸ by simp [member]
    have behind := idxOf_lt_of_mem_later nodup_restoredMarks split member
    have neither : ¬ (c = other ∨ d = other) := fun side =>
      Nat.not_lt.mpr (latest other ⟨listed, shared⟩ side) behind
    exact not_or.mp neither
  have decided := between_decided raw solidC solidD found
    (split ▸ ne_space_of_mem_restoredMarks) active.2 apart
  rwa [← split] at decided

theorem between_inactive (raw : Text) (solidC : c ≠ ' ') (solidD : d ≠ ' ')
    (found : Between front c space d back text) (inactiveC : ¬ Active raw text c)
    (inactiveD : ¬ Active raw text d) :
    Between front c space d back (restoreSpacing raw text) := by
  obtain ⟨between, settled, kept⟩ :=
    between_foldl raw solidC solidD found ne_space_of_mem_restoredMarks
  have same : between = space := by
    refine kept fun mark member shared => ⟨?_, ?_⟩
    · rintro rfl
      exact inactiveC ⟨member, shared⟩
    · rintro rfl
      exact inactiveD ⟨member, shared⟩
  exact same ▸ settled

/-- Taking over the spacing of punctuation keeps all characters but spaces, and spaces that stood alone
between them still do. Between two of the characters the space stays if neither is an active mark.
Otherwise the active one decides that is later in the list of marks, and the first of two that are the
same: there is a space where its occurrence in the raw text has one on that side. -/
theorem restoreSpacing_decided (raw : Text) {normalized : Text} (single : SingleSpaced normalized) :
    SingleSpaced (restoreSpacing raw normalized) ∧
    spaceless (restoreSpacing raw normalized) = spaceless normalized ∧
    ∀ front c d back, spaceless normalized = front ++ c :: d :: back →
      ∃ space restored, Between front c space d back normalized ∧
        Between front c restored d back (restoreSpacing raw normalized) ∧
        (¬ Active raw normalized c → ¬ Active raw normalized d → restored = space) ∧
        (Active raw normalized c →
          (Active raw normalized d → restoredMarks.idxOf d ≤ restoredMarks.idxOf c) →
          (restored = true ↔ SpaceBehind raw c (front.count c))) ∧
        (Active raw normalized d →
          (Active raw normalized c → restoredMarks.idxOf c < restoredMarks.idxOf d) →
          (restored = true ↔ SpaceBefore raw d ((front ++ [c]).count d))) := by
  have moved := spacesMoved_restoreSpacing raw normalized
  refine ⟨moved.singleSpaced single, moved.spaceless, fun front c d back chars => ?_⟩
  obtain ⟨space, found⟩ := exists_between single chars
  have solid : ∀ other ∈ front ++ c :: d :: back, other ≠ ' ' := by
    intro other member
    rw [← chars] at member
    simpa using (List.mem_filter.mp member).2
  have solidC : c ≠ ' ' := solid c (by simp)
  have solidD : d ≠ ' ' := solid d (by simp)
  by_cases first : Active raw normalized c ∧
      (Active raw normalized d → restoredMarks.idxOf d ≤ restoredMarks.idxOf c)
  · obtain ⟨active, order⟩ := first
    obtain ⟨restored, settled, behind, -⟩ := between_latest raw solidC solidD found active (by
      rintro other activeOther (rfl | rfl)
      · exact Nat.le_refl _
      · exact order activeOther)
    refine ⟨space, restored, found, settled, fun inactive => absurd active inactive,
      fun _ _ => behind rfl, fun activeD before => ?_⟩
    exact absurd (before active) (Nat.not_lt.mpr (order activeD))
  · by_cases second : Active raw normalized d ∧
        (Active raw normalized c → restoredMarks.idxOf c < restoredMarks.idxOf d)
    · obtain ⟨active, order⟩ := second
      have different : c ≠ d := by
        rintro rfl
        exact Nat.lt_irrefl _ (order active)
      obtain ⟨restored, settled, -, ahead⟩ := between_latest raw solidC solidD found active (by
        rintro other activeOther (rfl | rfl)
        · exact Nat.le_of_lt (order activeOther)
        · exact Nat.le_refl _)
      refine ⟨space, restored, found, settled, fun _ inactive => absurd active inactive,
        fun activeC before => absurd ⟨activeC, before⟩ first, fun _ _ => ?_⟩
      simpa [different] using ahead different rfl
    · have inactiveD : ¬ Active raw normalized d := fun active => second ⟨active, fun activeC =>
        Nat.lt_of_not_le fun order => first ⟨activeC, fun _ => order⟩⟩
      have inactiveC : ¬ Active raw normalized c := fun active =>
        first ⟨active, fun activeD => absurd activeD inactiveD⟩
      exact ⟨space, space, found, between_inactive raw solidC solidD found inactiveC inactiveD,
        fun _ _ => rfl, fun active => absurd active inactiveC,
        fun active => absurd active inactiveD⟩

theorem restoreSpacing_decided_brackets :
    SingleSpaced "no (yes), ok".toList ∧
    restoreSpacing "no ( yes ) , okay".toList "no (yes), ok".toList = "no ( yes ) , ok".toList ∧
    ∃ restored, Between "no(yes".toList ')' restored ',' "ok".toList
        (restoreSpacing "no ( yes ) , okay".toList "no (yes), ok".toList) ∧
      (restored = true ↔ SpaceBehind "no ( yes ) , okay".toList ')' 0) := by
  have single : SingleSpaced "no (yes), ok".toList := ⟨by decide, by decide, by decide⟩
  obtain ⟨-, -, pairs⟩ := restoreSpacing_decided "no ( yes ) , okay".toList single
  obtain ⟨space, restored, -, between, -, first, -⟩ :=
    pairs "no(yes".toList ')' ',' "ok".toList (by decide)
  have active : Active "no ( yes ) , okay".toList "no (yes), ok".toList ')' :=
    ⟨by decide, by decide, by decide⟩
  exact ⟨single, by cbv, restored, between, first active fun _ => by decide⟩

end SpokenForm.Punctuation
