import Mathlib
import SpokenForm.Proofs.Batch.Sequence
import SpokenForm.Proofs.Text
import SpokenForm.Proofs.Transducer.Best
import SpokenForm.Proofs.Transducer.Standard

/-! What a transducer answers: the texts of its best outputs, or a fault if one of these is no text. The
steps of the engine are only used as far as they compute what they are to compute. -/
namespace SpokenForm

namespace Transducer

/-- The labels are the bytes of a text. -/
def Spells (labels : List Nat) (text : Text) : Prop := labels = encode text

/-- The bytes of a text as labels, less those that are read as no label. -/
def shownLabels (input : Text) : List Nat := (encode input).filter (· ≠ 0)

/-! Decoding. -/

theorem toList_loop (bytes : ByteArray) (start : Nat) (front : List UInt8) :
    ByteArray.toList.loop bytes start front = front.reverse ++ bytes.data.toList.drop start := by
  fun_induction ByteArray.toList.loop bytes start front with
  | case1 start front more ih =>
    have inside : start < bytes.data.toList.length := by simpa using more
    rw [ih, List.drop_eq_getElem_cons inside]
    simp [ByteArray.get!, more]
  | case2 start front ended =>
    have none : bytes.data.toList.length ≤ start := by simpa using Nat.le_of_not_lt ended
    rw [List.drop_eq_nil_of_le none, List.append_nil]

theorem toList_eq (bytes : ByteArray) : bytes.toList = bytes.data.toList := toList_loop bytes 0 []

theorem spells_iff {labels : List Nat} {text : Text} : Spells labels text ↔
    (∀ label ∈ labels, label < 256) ∧
      ByteArray.mk (labels.map UInt8.ofNat).toArray = text.toUtf8 := by
  constructor
  · rintro rfl
    refine ⟨?_, ?_⟩
    · intro label member
      obtain ⟨byte, -, rfl⟩ := List.mem_map.mp member
      exact byte.toNat_lt
    · rw [encode, List.map_map, toList_eq]
      simp [Function.comp_def]
  · rintro ⟨small, same⟩
    have back : ∀ label ∈ labels, (UInt8.toNat ∘ UInt8.ofNat) label = label := fun label member =>
      UInt8.toNat_ofNat_of_lt (small label member)
    rw [Spells, encode, ← same, toList_eq, List.map_map, List.map_congr_left back, List.map_id']

theorem filter_eq_self {labels : List Nat} (shows : 0 ∉ labels) : labels.filter (· ≠ 0) = labels := by
  rw [List.filter_eq_self]
  intro label member
  simpa using ne_of_mem_of_not_mem member shows

theorem decode_eq_ok {labels : List Nat} (shows : 0 ∉ labels) {text : Text} :
    decode labels = .ok text ↔ Spells labels text := by
  rw [spells_iff, decode, filter_eq_self shows]
  by_cases small : ∀ label ∈ labels, label < 256
  · have all : labels.all (· < 256) = true := by simpa using small
    rw [if_pos all, ← Text.ofUtf8?_eq_some]
    cases Text.ofUtf8? (ByteArray.mk (labels.map UInt8.ofNat).toArray) with
    | none => simp
    | some spelled => simpa using fun _ => small
  · have other : ¬ labels.all (· < 256) = true := by simpa using small
    rw [if_neg other]
    simp [small]

theorem decode_eq_error {labels : List Nat} {fault : GrammarError}
    (failed : decode labels = .error fault) : fault = .invalidOutput := by
  simp only [decode] at failed
  split at failed
  · split at failed
    · cases failed
    · exact (Except.error.inj failed).symm
  · exact (Except.error.inj failed).symm

/-- A path has the text that the labels of an ending spell, and its weight. -/
def IsPathOf (path : Path ℚ) (ending : Ending ℚ) : Prop :=
  Spells ending.labels path.text ∧ path.weight = ending.weight

theorem pathOf_eq_ok {ending : Ending ℚ} (shows : 0 ∉ ending.labels) {path : Path ℚ} :
    pathOf ending = .ok path ↔ IsPathOf path ending := by
  unfold pathOf IsPathOf
  rw [← decode_eq_ok shows]
  cases decode ending.labels with
  | error fault => simp [bind, Except.bind]
  | ok text =>
    obtain ⟨pathText, weight⟩ := path
    simp [bind, Except.bind, pure, Except.pure, eq_comm]

theorem pathOf_eq_error {ending : Ending ℚ} {fault : GrammarError}
    (failed : pathOf ending = .error fault) : fault = .invalidOutput := by
  apply decode_eq_error
  unfold pathOf at failed
  cases decoded : decode ending.labels with
  | error other => simpa [decoded, bind, Except.bind] using failed
  | ok text => simp [decoded, bind, Except.bind, pure, Except.pure] at failed

/-! The lattice of endings. -/

def pathFor (ending : Ending ℚ) : Path ℚ := ⟨(decode ending.labels).toOption.getD [], ending.weight⟩

def answer (listed : List (Ending ℚ)) : Except GrammarError (Lattice ℚ) := do
  return .ofPaths (← listed.mapM pathOf)

theorem answer_nil : answer [] = .ok .empty :=
  congrArg (fun paths => Except.ok (Lattice.mk paths)) (List.mergeSort_nil)

section Lattice

variable {listed : List (Ending ℚ)} (shows : ∀ ending ∈ listed, 0 ∉ ending.labels)
include shows

theorem answer_eq_error (unspelled : ∃ ending ∈ listed, ∀ text, ¬ Spells ending.labels text) :
    answer listed = .error .invalidOutput := by
  rw [answer]
  cases found : listed.mapM pathOf with
  | error fault =>
    obtain ⟨before, ending, after, -, -, failed⟩ := Batch.mapM_eq_error_iff.mp found
    rw [pathOf_eq_error failed]
    rfl
  | ok paths =>
    obtain ⟨ending, isListed, noText⟩ := unspelled
    obtain ⟨path, isPath⟩ := Batch.mapM_succeeds_iff.mp ⟨paths, found⟩ ending isListed
    exact absurd ((pathOf_eq_ok (shows ending isListed)).mp isPath).1 (noText path.text)

variable (spelled : ∀ ending ∈ listed, ∃ text, Spells ending.labels text)
include spelled

theorem isPathOf_pathFor {ending : Ending ℚ} (isListed : ending ∈ listed) :
    IsPathOf (pathFor ending) ending := by
  obtain ⟨text, spells⟩ := spelled ending isListed
  have decoded := (decode_eq_ok (shows ending isListed)).mpr spells
  simpa [IsPathOf, pathFor, decoded, Except.toOption] using spells

theorem answer_eq_ok : answer listed = .ok ⟨(ranked listed).map pathFor⟩ := by
  have found : listed.mapM pathOf = .ok (listed.map pathFor) := by
    rw [Batch.mapM_eq_ok_iff, List.forall₂_map_right_iff, List.forall₂_same]
    intro ending isListed
    exact (pathOf_eq_ok (shows ending isListed)).mpr (isPathOf_pathFor shows spelled isListed)
  have order := WeightScale.map_ranked pathFor Path.weight listed
  rw [answer, found]
  exact congrArg (fun paths => Except.ok (Lattice.mk paths)) order.symm

/-- Different labels spell different texts. -/
theorem nodup_texts (distinct : (listed.map Ending.labels).Nodup) :
    ((listed.map pathFor).map Path.text).Nodup := by
  have encoded : listed.map Ending.labels = ((listed.map pathFor).map Path.text).map encode := by
    rw [List.map_map, List.map_map]
    exact List.map_congr_left fun ending isListed => (isPathOf_pathFor shows spelled isListed).1
  rw [encoded] at distinct
  exact distinct.of_map _

end Lattice

/-! What comes out of the steps. -/

section Steps

variable {machine sorted accepted composed projected : Transducer ℚ} {pair : Nat → Nat × Nat}
  {input : List Nat} (isSorting : IsSorting machine sorted) (isAcceptor : IsAcceptor input 0 accepted)
  (isComposition : IsComposition accepted sorted composed pair)
include isSorting isAcceptor isComposition

/-- The runs of the composition are those of the machine on the input. -/
theorem exists_accepts_iff {ending : Ending ℚ} : (∃ read, Accepts composed read ending) ↔
    Accepts machine (input.filter (· ≠ 0)) ending := by
  constructor
  · rintro ⟨read, accepts⟩
    obtain ⟨between, own, other, ownAccepts, otherAccepts, weight⟩ := isComposition.exists_accepts accepts
    obtain ⟨-, same⟩ := (isAcceptor.accepts_iff _ _).mp ownAccepts
    obtain ⟨rfl, rfl⟩ := Ending.mk.inj same
    rw [zero_add] at weight
    subst weight
    exact isSorting.accepts_iff.mp otherAccepts
  · intro accepts
    have ownAccepts := (isAcceptor.accepts_iff _ _).mpr ⟨rfl, rfl⟩
    have both := isComposition.complete _ _ _ _ _ ownAccepts (isSorting.accepts_iff.mpr accepts)
    rw [zero_add] at both
    exact ⟨_, both⟩

end Steps

end Transducer

open Transducer

namespace Engine

section Lawful

theorem during_ok_bind {α β : Type} (context : EngineContext) (result : α)
    (next : α → Except GrammarError β) : (during context (.ok result) >>= next) = next result := rfl

variable {engine : Engine ℚ} (lawful : engine.Lawful) {k : Nat} {all : Ending ℚ → Prop}
include lawful

/-- Behind the projection the best of what it yields are found. -/
theorem Lawful.exists_best_of_tame {projected : Transducer ℚ} (tame : Tame projected)
    (yields : ∀ ending, Yields projected ending ↔ all ending) (n : Nat) :
    ∃ listed, IsBest (max n 1) all (ranked listed) ∧ engine.bestOutputs projected n = answer listed := by
  obtain ⟨plain, plainDone, plainTame, isPlain, plainLeast⟩ := lawful.removeEmpty projected tame
  obtain ⟨outputs, outputsDone, outputsTame, alsoPlain, deterministic, outputsLeast⟩ :=
    lawful.determinize plain plainTame isPlain
  obtain ⟨best, bestDone, acyclic, shortest⟩ :=
    lawful.shortestPaths (max n 1) outputs (by omega) outputsTame
  have least := plainLeast.trans outputsLeast
  have isBest {listed : List (Ending ℚ)} (same : listed.Perm best.paths) :
      IsBest (max n 1) all (ranked listed) := by
    refine (shortest.congr same).isBest (nodup_labels_paths outputsTame.copies alsoPlain deterministic) ?_ ?_
    · intro ending isOne
      obtain ⟨weight, lighter, yielded⟩ := least.forth ending ((yields ending).mpr isOne)
      exact ⟨weight, lighter, (mem_paths outputsTame.acyclic).mpr yielded⟩
    · intro ending listed
      obtain ⟨weight, lighter, yielded⟩ := least.back ending ((mem_paths outputsTame.acyclic).mp listed)
      exact ⟨weight, lighter, (yields _).mp yielded⟩
  simp only [bestOutputs, plainDone, outputsDone, bestDone, during_ok_bind]
  split
  · next nothing =>
    refine ⟨[], isBest_ranked_nil ?_, answer_nil.symm⟩
    intro ending isOne
    obtain ⟨weight, -, input, accepts⟩ := plainLeast.forth ending ((yields ending).mpr isOne)
    exact not_accepts_of_start nothing _ _ accepts
  · split
    · next nothing =>
      refine ⟨[], isBest ?_, answer_nil.symm⟩
      rw [Transducer.paths, Option.isNone_iff_eq_none.mp nothing]
      exact .nil
    · exact ⟨engine.paths best, isBest (lawful.paths best acyclic), rfl⟩

variable {machine : Transducer ℚ} (nonNegative : NonNegative machine) (loopless : Loopless machine)
include nonNegative loopless

/-- The best runs on an input are listed. -/
theorem Lawful.exists_best (input : Text) (n : Nat) :
    ∃ listed, IsBest (max n 1) (Accepts machine (shownLabels input)) (ranked listed) ∧
      engine.grammar machine input n = answer listed := by
  have isSorting := lawful.sortArcs machine
  have isAcceptor := lawful.acceptor (encode input) 0
  obtain ⟨composed, pair, composedDone, isComposition⟩ :=
    lawful.compose _ _ isAcceptor.acyclic (isAcceptor.nonNegative le_rfl) (isSorting.loopless loopless)
      (isSorting.nonNegative nonNegative) isSorting.inOrder
  have accepts (ending : Ending ℚ) : (∃ read, Accepts composed read ending) ↔
      Accepts machine (shownLabels input) ending :=
    exists_accepts_iff isSorting isAcceptor isComposition
  have isProjection := lawful.projectOutput composed
  have tame := isProjection.tame
    (isComposition.acyclic isAcceptor.acyclic (isSorting.loopless loopless))
    (isComposition.nonNegative (isAcceptor.nonNegative le_rfl) (isSorting.nonNegative nonNegative))
  simp only [grammar, apply, WeightScale.zero_exact, composedDone, during_ok_bind]
  split
  · next nothing =>
    refine ⟨[], isBest_ranked_nil ?_, answer_nil.symm⟩
    intro ending isOne
    obtain ⟨read, accepted⟩ := (accepts ending).mpr isOne
    exact not_accepts_of_start nothing _ _ accepted
  · exact lawful.exists_best_of_tame tame (fun ending => isProjection.yields_iff.trans (accepts ending)) n

/-- An engine whose steps compute what they are to compute answers, for a transducer without loops that
read nothing, with the best outputs of its runs on an input: as many as are asked for, if there are so
many, and none of those left out has a smaller least weight. If one of them is no text the answer is a
fault. Otherwise it is the distinct texts of all of them in ascending order, each with the least weight of
its runs. -/
theorem grammar_computes_relation (input : Text) (k : Nat) :
    ∃ taken, IsBest (max k 1) (Accepts machine (shownLabels input)) taken ∧
      (taken.length : ℕ∞) =
        min ((max k 1 : Nat) : ℕ∞) (outputs (Accepts machine (shownLabels input))).encard ∧
      ((∃ ending ∈ taken, ∀ text, ¬ Spells ending.labels text) ∧
          engine.grammar machine input k = .error .invalidOutput ∨
        ∃ paths, engine.grammar machine input k = .ok ⟨paths⟩ ∧ List.Forall₂ IsPathOf paths taken ∧
          (paths.map Path.text).Nodup ∧ paths.Pairwise fun a b => a.weight ≤ b.weight) := by
  obtain ⟨listed, isBest, answered⟩ := lawful.exists_best nonNegative loopless input k
  have shows : ∀ ending ∈ ranked listed, 0 ∉ ending.labels := by
    intro ending isTaken
    obtain ⟨start, -, runs⟩ := (isBest.least ending isTaken).1
    exact runs.zero_notMem_labels
  have listedShows : ∀ ending ∈ listed, 0 ∉ ending.labels :=
    fun ending isListed => shows ending (mem_ranked.mpr isListed)
  refine ⟨ranked listed, isBest, isBest.length_eq, ?_⟩
  by_cases spelled : ∀ ending ∈ ranked listed, ∃ text, Spells ending.labels text
  · have listedSpelled : ∀ ending ∈ listed, ∃ text, Spells ending.labels text :=
      fun ending isListed => spelled ending (mem_ranked.mpr isListed)
    refine .inr ⟨_, answered.trans (answer_eq_ok listedShows listedSpelled), ?_, ?_, ?_⟩
    · rw [List.forall₂_map_left_iff, List.forall₂_same]
      exact fun ending isTaken => isPathOf_pathFor shows spelled isTaken
    · exact nodup_texts shows spelled isBest.distinct
    · exact List.pairwise_map.mpr isBest.ranked
  · push Not at spelled
    obtain ⟨ending, isTaken, noText⟩ := spelled
    exact .inl ⟨⟨ending, isTaken, noText⟩,
      answered.trans (answer_eq_error listedShows ⟨ending, mem_ranked.mp isTaken, noText⟩)⟩

end Lawful

/-- Two ways to one output, one of them with a step that reads nothing, and another output. -/
def twoOutputs : Transducer ℚ where
  start? := some 0
  nodes := #[⟨none, [⟨97, 120, 1, 1⟩, ⟨97, 120, 1 / 2, 2⟩, ⟨97, 121, 2, 3⟩]⟩, ⟨none, [⟨0, 0, 1, 3⟩]⟩,
    ⟨some (1 / 4), []⟩, ⟨some 0, []⟩]

theorem grammar_computes_relation_two_outputs :
    standard.grammar twoOutputs ['a'] 2 = .ok ⟨[⟨['x'], 3 / 4⟩, ⟨['y'], 2⟩]⟩ ∧
      ∃ taken, IsBest 2 (Accepts twoOutputs (shownLabels ['a'])) taken ∧
        List.Forall₂ IsPathOf [⟨['x'], 3 / 4⟩, ⟨['y'], 2⟩] taken := by
  have nonNegative : NonNegative twoOutputs := nonNegative_of_nodes (by decide +kernel) (by decide +kernel)
  have loopless : Loopless twoOutputs := loopless_of_ascending (by decide +kernel)
  have answered : standard.grammar twoOutputs ['a'] 2 = .ok ⟨[⟨['x'], 3 / 4⟩, ⟨['y'], 2⟩]⟩ := by cbv
  obtain ⟨taken, isBest, -, ⟨-, failed⟩ | ⟨paths, found, each, -, -⟩⟩ :=
    grammar_computes_relation standard_lawful nonNegative loopless ['a'] 2
  · rw [answered] at failed
    cases failed
  · rw [answered] at found
    obtain rfl := congrArg Lattice.paths (Except.ok.inj found)
    exact ⟨answered, taken, isBest, each⟩

def oneLetter : Transducer ℚ := ⟨some 0, #[⟨none, [⟨97, 98, 0, 1⟩]⟩, ⟨some 0, []⟩]⟩

/-- A zero byte is answered as if it were not there, though no run reads it. -/
theorem grammar_skips_zero_bytes :
    (standard : Engine ℚ).Lawful ∧ NonNegative oneLetter ∧ Loopless oneLetter ∧
      encode ['a', '\x00'] = [97, 0] ∧
      (∀ ending, ¬ Accepts oneLetter (encode ['a', '\x00']) ending) ∧
      standard.grammar oneLetter ['a', '\x00'] 1 = .ok ⟨[⟨['b'], 0⟩]⟩ := by
  have bytes : encode ['a', '\x00'] = [97, 0] := by decide +kernel
  refine ⟨standard_lawful, nonNegative_of_nodes (by decide +kernel) (by decide +kernel),
    loopless_of_ascending (by decide +kernel), bytes, ?_, by cbv⟩
  rintro ending ⟨start, -, runs⟩
  rw [bytes] at runs
  exact runs.zero_notMem (by simp)

end Engine

end SpokenForm
