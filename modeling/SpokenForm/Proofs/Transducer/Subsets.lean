import Mathlib.Data.Finset.Lattice.Fold
import Mathlib.Order.Lattice.Nat
import Mathlib.Tactic.Linarith
import Mathlib.Tactic.Ring
import SpokenForm.Proofs.Distinct
import SpokenForm.Proofs.Transducer.Laws
import SpokenForm.Proofs.Transducer.Numbering
import SpokenForm.Proofs.Transducer.Weighted

/-! Deterministic machines. The states of a set have in common what was read; each has what its way weighs
more than what was paid, and the set goes on as lightly as any of its states does. -/
namespace SpokenForm.Transducer

variable {machine : Transducer ℚ} {states : Weighted ℚ} {label state : Nat} {weight : ℚ}

/-! Successors. -/

/-- What a label leads to from states, at the weights of the ways. -/
def led (machine : Transducer ℚ) (states : Weighted ℚ) (label : Nat) : Weighted ℚ :=
  ((machine.arcsFrom states).filter (·.input = label)).map fun arc => (arc.target, arc.weight)

theorem mem_led {next : Nat × ℚ} : next ∈ machine.led states label ↔
    ∃ state weight own, (state, weight) ∈ states ∧ own ∈ machine.arcsOf state ∧ own.input = label ∧
      next = (own.target, weight + own.weight) := by
  constructor
  · intro member
    obtain ⟨arc, isFrom, rfl⟩ := List.mem_map.mp member
    obtain ⟨isFrom, reads⟩ := List.mem_filter.mp isFrom
    obtain ⟨state, weight, own, isMember, leaves, rfl⟩ := mem_arcsFrom.mp isFrom
    exact ⟨state, weight, own, isMember, leaves, by simpa using reads, rfl⟩
  · rintro ⟨state, weight, own, isMember, leaves, rfl, rfl⟩
    refine List.mem_map.mpr ⟨{ own with weight := weight + own.weight }, ?_, rfl⟩
    exact List.mem_filter.mpr ⟨mem_arcsFrom.mpr ⟨state, weight, own, isMember, leaves, rfl⟩, by simp⟩

def paid (machine : Transducer ℚ) (states : Weighted ℚ) (label : Nat) : ℚ :=
  (least? ((machine.led states label).map Prod.snd)).getD 0

theorem paid_le {next : Nat × ℚ} (member : next ∈ machine.led states label) :
    machine.paid states label ≤ next.2 := by
  obtain ⟨least, found, below⟩ := exists_least? (List.mem_map_of_mem (f := Prod.snd) member)
  simpa [paid, found] using below

theorem successor_eq : machine.successor states label =
    ⟨label, label, machine.paid states label, lightest ((machine.led states label).map
      fun next => (next.1, next.2 - machine.paid states label))⟩ := rfl

/-- A state of the successor is reached by an arc, and has what its way weighs more than what is paid. -/
theorem exists_of_mem_successor {next : Nat} {residue : ℚ}
    (kept : (next, residue) ∈ (machine.successor states label).target) :
    ∃ state weight own, (state, weight) ∈ states ∧ own ∈ machine.arcsOf state ∧ own.input = label ∧
      own.target = next ∧ residue = weight + own.weight - machine.paid states label ∧ 0 ≤ residue := by
  obtain ⟨earlier, member, same⟩ := List.mem_map.mp (mem_of_mem_lightest kept)
  have least := paid_le member
  obtain ⟨state, weight, own, isMember, leaves, reads, rfl⟩ := mem_led.mp member
  obtain ⟨rfl, rfl⟩ := Prod.mk.inj same
  exact ⟨state, weight, own, isMember, leaves, reads, rfl, rfl, sub_nonneg.mpr least⟩

/-- Each state of the set has a weight that is not negative. -/
def Residual (states : Weighted ℚ) : Prop := ∀ state ∈ states, 0 ≤ state.2

theorem residual_successor : Residual (machine.successor states label).target := by
  intro next kept
  obtain ⟨-, -, -, -, -, -, -, -, positive⟩ := exists_of_mem_successor kept
  exact positive

theorem paid_nonneg (nonNegative : NonNegative machine) (residual : Residual states) :
    0 ≤ machine.paid states label := by
  rw [paid]
  cases found : least? ((machine.led states label).map Prod.snd) with
  | none => exact le_rfl
  | some least =>
    obtain ⟨next, member, rfl⟩ := List.mem_map.mp (least?_eq_some found).1
    obtain ⟨state, weight, own, isMember, leaves, -, rfl⟩ := mem_led.mp member
    exact add_nonneg (residual _ isMember) (nonNegative.arc state own leaves)

theorem mem_subsets_arcs {arc : Arc ℚ (Weighted ℚ)} : arc ∈ machine.subsets.arcs states ↔
    ∃ state weight own, (state, weight) ∈ states ∧ own ∈ machine.arcsOf state ∧
      arc = machine.successor states own.input := by
  simp only [subsets, List.mem_map, List.mem_eraseDups, mem_arcsFrom]
  constructor
  · rintro ⟨label, ⟨reached, ⟨state, weight, own, isMember, leaves, rfl⟩, rfl⟩, rfl⟩
    exact ⟨state, weight, own, isMember, leaves, rfl⟩
  · rintro ⟨state, weight, own, isMember, leaves, rfl⟩
    exact ⟨own.input, ⟨_, ⟨state, weight, own, isMember, leaves, rfl⟩, rfl⟩, rfl⟩

theorem residual_of_arc {arc : Arc ℚ (Weighted ℚ)} (leaves : arc ∈ machine.subsets.arcs states) :
    Residual arc.target := by
  obtain ⟨state, weight, own, -, -, rfl⟩ := mem_subsets_arcs.mp leaves
  exact residual_successor

/-! Heights. -/

def highest (height : Nat → Nat) (states : Weighted ℚ) : Nat :=
  (states.map fun state => height state.1).toFinset.sup id

theorem le_highest {height : Nat → Nat} (member : (state, weight) ∈ states) :
    height state ≤ highest height states := by
  have listed : height state ∈ (states.map fun state => height state.1).toFinset :=
    List.mem_toFinset.mpr (List.mem_map.mpr ⟨_, member, rfl⟩)
  exact Finset.le_sup (f := id) listed

theorem falls_subsets {height : Nat → Nat}
    (falls : ∀ state, ∀ arc ∈ machine.arcsOf state, height arc.target < height state) :
    machine.subsets.Falls (highest height) := by
  intro states arc leaves
  obtain ⟨state, weight, own, isMember, isArc, rfl⟩ := mem_subsets_arcs.mp leaves
  have positive : 0 < highest height states :=
    (Nat.zero_le _).trans_lt ((falls state own isArc).trans_le (le_highest isMember))
  refine (Finset.sup_lt_iff positive).mpr ?_
  intro low listed
  obtain ⟨next, kept, rfl⟩ := List.mem_map.mp (List.mem_toFinset.mp listed)
  obtain ⟨other, otherWeight, move, isOther, isMove, -, same, -⟩ := exists_of_mem_successor kept
  rw [← same]
  exact (falls other move isMove).trans_le (le_highest isOther)

/-! Runs. -/

section Runs

variable {sets : List (Weighted ℚ)} (closed : machine.subsets.Closed sets)
  (copies : ∀ state, ∀ arc ∈ machine.arcsOf state, arc.input = arc.output)
include closed copies

/-- What runs from a set runs from one of its states. -/
theorem exists_runs_of_subsets {place : Nat} {input : List Nat} {ending : Ending ℚ}
    (runs : Runs (machine.subsets.number sets) place input ending) (stands : sets[place]? = some states) :
    ∃ state weight later, (state, weight) ∈ states ∧ Runs machine state input ⟨ending.labels, later⟩ ∧
      weight + later = ending.weight := by
  induction runs generalizing states with
  | stop accepts =>
    rw [Plan.number_final? stands] at accepts
    obtain ⟨state, weight, own, isMember, alsoAccepts, same⟩ := exists_of_finalOf? accepts
    exact ⟨state, weight, own, isMember, .stop alsoAccepts, same⟩
  | @move place arc input ending leaves goesOn ih =>
    obtain ⟨states, alsoStands, original, isArc, there, same⟩ := Plan.exists_of_arc closed leaves
    obtain rfl := Option.some.inj (alsoStands.symm.trans stands)
    obtain ⟨next, residue, later, kept, runs, sum⟩ := ih there
    obtain ⟨-, -, read, -, -, rfl⟩ := mem_subsets_arcs.mp isArc
    obtain ⟨state, weight, own, isMember, isOwn, reads, rfl, rfl, -⟩ := exists_of_mem_successor kept
    have moved := Runs.move isOwn runs
    rw [← copies state own isOwn, reads] at moved
    rw [same, successor_eq]
    refine ⟨state, weight, own.weight + later, isMember, moved, ?_⟩
    simp only [← sum]
    ring

/-- A run from a state of a set is a run from the set that is not heavier. -/
theorem exists_runs_subsets {input : List Nat} {ending : Ending ℚ} (runs : Runs machine state input ending)
    (covered : ∃ least ≤ weight, (state, least) ∈ states) (isSet : states ∈ sets) :
    ∃ least ≤ weight + ending.weight,
      Runs (machine.subsets.number sets) (sets.idxOf states) input ⟨ending.labels, least⟩ := by
  induction runs generalizing states weight with
  | @stop state own accepts =>
    obtain ⟨light, lighter, isMember⟩ := covered
    obtain ⟨final, isFinal, below⟩ := exists_finalOf? isMember accepts
    exact ⟨final, below.trans (by simpa using lighter), Plan.runs_stop isSet isFinal⟩
  | @move state arc input ending leaves goesOn ih =>
    obtain ⟨light, lighter, isMember⟩ := covered
    have isArc : machine.successor states arc.input ∈ machine.subsets.arcs states :=
      mem_subsets_arcs.mpr ⟨state, light, arc, isMember, leaves, rfl⟩
    have isLed : (arc.target, light + arc.weight) ∈ machine.led states arc.input :=
      mem_led.mpr ⟨state, light, arc, isMember, leaves, rfl, rfl⟩
    have kept := exists_lightest (List.mem_map_of_mem
      (f := fun next => (next.1, next.2 - machine.paid states arc.input)) isLed)
    obtain ⟨least, below, further⟩ := ih kept (closed states isSet _ isArc)
    have moved := Plan.runs_move isSet isArc further
    rw [successor_eq] at moved
    refine ⟨machine.paid states arc.input + least, ?_, ?_⟩
    · simp only
      linarith
    · rwa [← copies state arc leaves]

end Runs

/-! The machine of sets. -/

section Sets

variable {sets : List (Weighted ℚ)} (closed : machine.subsets.Closed sets)
include closed

theorem exists_of_subsets_arc {place : Nat} {arc : Arc ℚ Nat}
    (leaves : arc ∈ (machine.subsets.number sets).arcsOf place) : ∃ states ∈ sets,
      ∃ state weight own, (state, weight) ∈ states ∧ own ∈ machine.arcsOf state ∧
        arc.input = own.input ∧ arc.output = own.input ∧ arc.weight = machine.paid states own.input := by
  obtain ⟨states, stands, original, isArc, -, same⟩ := Plan.exists_of_arc closed leaves
  obtain ⟨state, weight, own, isMember, isOwn, rfl⟩ := mem_subsets_arcs.mp isArc
  rw [same, successor_eq]
  exact ⟨states, List.mem_of_getElem? stands, state, weight, own, isMember, isOwn, rfl, rfl, rfl⟩

theorem tame_subsets (tame : Tame machine) (residual : ∀ states ∈ sets, Residual states) :
    Tame (machine.subsets.number sets) where
  copies place arc leaves := by
    obtain ⟨states, -, state, weight, own, -, -, reads, writes, -⟩ := exists_of_subsets_arc closed leaves
    exact reads.trans writes.symm
  acyclic := by
    obtain ⟨height, -, falls⟩ := tame.acyclic.exists_height
    exact Plan.acyclic_number closed (falls_subsets falls)
  nonNegative :=
    { final := by
        intro place final accepts
        obtain ⟨states, stands, isFinal⟩ := Plan.exists_of_final accepts
        obtain ⟨state, weight, own, isMember, alsoAccepts, rfl⟩ := exists_of_finalOf? isFinal
        exact add_nonneg (residual states (List.mem_of_getElem? stands) _ isMember)
          (tame.nonNegative.final state own alsoAccepts)
      arc := by
        intro place arc leaves
        obtain ⟨states, isSet, -, -, own, -, -, -, -, weight⟩ := exists_of_subsets_arc closed leaves
        rw [weight]
        exact paid_nonneg tame.nonNegative (residual states isSet) }

theorem plain_subsets (plain : Plain machine) : Plain (machine.subsets.number sets) := by
  intro place arc leaves
  obtain ⟨-, -, state, weight, own, -, isOwn, reads, -, -⟩ := exists_of_subsets_arc closed leaves
  exact reads ▸ plain state own isOwn

theorem sameLeast_subsets (copies : ∀ state, ∀ arc ∈ machine.arcsOf state, arc.input = arc.output)
    {start : Nat} (isStart : machine.start? = some start) (isFirst : sets[0]? = some [(start, 0)]) :
    SameLeast machine (machine.subsets.number sets) where
  forth := by
    rintro ending ⟨input, other, alsoStart, runs⟩
    obtain rfl := Option.some.inj (isStart.symm.trans alsoStart)
    obtain ⟨least, lighter, moved⟩ := exists_runs_subsets closed copies runs
      ⟨0, le_rfl, List.mem_singleton_self _⟩ (List.mem_of_getElem? isFirst)
    rw [Plan.idxOf_first isFirst] at moved
    exact ⟨least, by simpa using lighter, input, 0, rfl, moved⟩
  back := by
    rintro ending ⟨input, place, isPlace, runs⟩
    obtain rfl : 0 = place := Option.some.inj isPlace
    obtain ⟨state, weight, later, isMember, moved, sum⟩ :=
      exists_runs_of_subsets closed copies runs isFirst
    obtain ⟨rfl, rfl⟩ := Prod.mk.inj (List.mem_singleton.mp isMember)
    exact ⟨later, by simp [← sum], input, state, isStart, moved⟩

end Sets

theorem deterministic_subsets (sets : List (Weighted ℚ)) :
    Deterministic (machine.subsets.number sets) := by
  intro place
  cases stands : sets[place]? with
  | none => simp [arcsOf, Plan.number, stands]
  | some states =>
    have labels : ((machine.subsets.number sets).arcsOf place).map Arc.input =
        ((machine.arcsFrom states).map Arc.input).eraseDups := by
      rw [Plan.number_arcsOf stands, subsets, List.map_map, List.map_map]
      exact List.map_id' _
    rw [labels]
    exact nodup_eraseDups _

/-- The determinization of a machine without empty labels. -/
theorem determinize_spec (tame : Tame machine) (plain : Plain machine) :
    Tame machine.determinize ∧ Plain machine.determinize ∧ Deterministic machine.determinize ∧
      SameLeast machine machine.determinize := by
  rw [determinize]
  cases isStart : machine.start? with
  | none =>
    refine ⟨⟨by simp, acyclic_of_height (fun _ => 0) (by simp), by simp, by simp⟩, by simp [Plain],
      by simp [Deterministic], ?_, ?_⟩
    · rintro ending ⟨input, start, alsoStart, -⟩
      simp [isStart] at alsoStart
    · rintro ending ⟨input, start, alsoStart, -⟩
      cases alsoStart
  | some start =>
    obtain ⟨height, bounded, falls⟩ := tame.acyclic.exists_height
    have low : highest height [(start, 0)] ≤ Nat.pow 2 machine.nodes.size := by
      have small : highest height [(start, 0)] = height start := by simp [highest]
      exact small.trans_le ((bounded start).trans Nat.lt_two_pow_self.le)
    obtain ⟨sets, built, isFirst, closed, residual⟩ := Plan.exists_states (falls_subsets falls) low
      Residual (by simp [Residual]) fun states _ arc => residual_of_arc
    simp only [WeightScale.zero_exact, built]
    exact ⟨tame_subsets closed tame residual, plain_subsets closed plain, deterministic_subsets sets,
      sameLeast_subsets closed tame.copies isStart isFirst⟩

end SpokenForm.Transducer
