import Mathlib.Tactic.Linarith
import SpokenForm.Proofs.Transducer.Laws
import SpokenForm.Proofs.Transducer.Weighted

/-! Machines without empty labels. The states that are reached by arcs with empty labels are kept with the
least weights of these ways, and the machine without them has the same outputs at the same least weights. -/
namespace SpokenForm.Transducer

variable {machine : Transducer ℚ} {state next : Nat} {weight : ℚ}

/-- A way by arcs with empty labels, with what it costs. -/
inductive EmptyWay (machine : Transducer ℚ) (state : Nat) : Nat → ℚ → Prop where
  | stay : EmptyWay machine state state 0
  | move {between : Nat} {weight : ℚ} {arc : Arc ℚ Nat} (goes : EmptyWay machine state between weight)
    (leaves : arc ∈ machine.arcsOf between) (silent : isEmptyArc arc = true) :
    EmptyWay machine state arc.target (weight + arc.weight)

theorem isEmptyArc_iff {arc : Arc ℚ Nat} : isEmptyArc arc = true ↔ arc.input = 0 ∧ arc.output = 0 := by
  simp [isEmptyArc]

/-- What runs from the end of such a way runs from its beginning. -/
theorem EmptyWay.runs (way : EmptyWay machine state next weight) {input : List Nat} {ending : Ending ℚ}
    (runs : Runs machine next input ending) :
    Runs machine state input ⟨ending.labels, weight + ending.weight⟩ := by
  induction way generalizing ending with
  | stay => simpa using runs
  | move goes leaves silent ih =>
    obtain ⟨reads, writes⟩ := isEmptyArc_iff.mp silent
    have moved := Runs.move leaves runs
    simp only [reads, writes, shown_zero, List.nil_append] at moved
    simpa [add_assoc] using ih moved

theorem EmptyWay.lt_size (way : EmptyWay machine state next weight) (inside : next < machine.nodes.size) :
    state < machine.nodes.size := by
  induction way with
  | stay => exact inside
  | move goes leaves silent ih => exact ih (lt_size_of_mem leaves)

theorem EmptyWay.height_le {height : Nat → Nat}
    (falls : ∀ state, ∀ arc ∈ machine.arcsOf state, height arc.target < height state)
    (way : EmptyWay machine state next weight) : height next ≤ height state := by
  induction way with
  | stay => exact le_rfl
  | move goes leaves silent ih => exact (falls _ _ leaves).le.trans ih

theorem EmptyWay.nonNegative (nonNegative : NonNegative machine)
    (way : EmptyWay machine state next weight) : 0 ≤ weight := by
  induction way with
  | stay => exact le_rfl
  | move goes leaves silent ih => exact add_nonneg ih (nonNegative.arc _ _ leaves)

/-! The closure under such ways. -/

/-- A state is among others at a weight, or at a lesser one. -/
def Covered (states : Weighted ℚ) (state : Nat) (weight : ℚ) : Prop :=
  ∃ least ≤ weight, (state, least) ∈ states

theorem mem_relax {states : Weighted ℚ} {reached : Nat × ℚ} (member : reached ∈ machine.relax states) :
    reached ∈ states ∨ ∃ state weight, (state, weight) ∈ states ∧ ∃ arc ∈ machine.arcsOf state,
      isEmptyArc arc = true ∧ reached = (arc.target, weight + arc.weight) := by
  rcases List.mem_append.mp (mem_of_mem_lightest member) with old | new
  · exact .inl old
  · obtain ⟨arc, isFrom, rfl⟩ := List.mem_map.mp new
    obtain ⟨isFrom, silent⟩ := List.mem_filter.mp isFrom
    obtain ⟨state, weight, own, isMember, leaves, rfl⟩ := mem_arcsFrom.mp isFrom
    exact .inr ⟨state, weight, isMember, own, leaves, silent, rfl⟩

theorem covered_relax {states : Weighted ℚ} (covered : Covered states state weight) :
    Covered (machine.relax states) state weight := by
  obtain ⟨least, lighter, member⟩ := covered
  obtain ⟨kept, below, isKept⟩ := exists_lightest (List.mem_append_left
    (((machine.arcsFrom states).filter isEmptyArc).map fun arc => (arc.target, arc.weight)) member)
  exact ⟨kept, below.trans lighter, isKept⟩

theorem covered_relax_arc {states : Weighted ℚ} (covered : Covered states state weight) {arc : Arc ℚ Nat}
    (leaves : arc ∈ machine.arcsOf state) (silent : isEmptyArc arc = true) :
    Covered (machine.relax states) arc.target (weight + arc.weight) := by
  obtain ⟨least, lighter, member⟩ := covered
  have isFrom : { arc with weight := least + arc.weight } ∈ machine.arcsFrom states :=
    mem_arcsFrom.mpr ⟨state, least, arc, member, leaves, rfl⟩
  have listed := List.mem_map_of_mem (f := fun arc : Arc ℚ Nat => (arc.target, arc.weight))
    (List.mem_filter (p := isEmptyArc) |>.mpr ⟨isFrom, silent⟩)
  obtain ⟨kept, below, isKept⟩ := exists_lightest (List.mem_append_right states listed)
  exact ⟨kept, below.trans (by simpa using lighter), isKept⟩

/-- What one more arc with empty labels leads to is covered. -/
def Saturated (machine : Transducer ℚ) (states : Weighted ℚ) (state : Nat) : Prop :=
  ∀ weight, Covered states state weight → ∀ arc ∈ machine.arcsOf state, isEmptyArc arc = true →
    Covered states arc.target (weight + arc.weight)

/-- The rounds go down from the highest states: those above are saturated, and so stay. -/
theorem saturated_emptyClosure {height : Nat → Nat}
    (falls : ∀ state, ∀ arc ∈ machine.arcsOf state, height arc.target < height state) {rounds : Nat}
    {states : Weighted ℚ} (above : ∀ state, rounds < height state → Saturated machine states state)
    (state : Nat) : Saturated machine (machine.emptyClosure rounds states) state := by
  induction rounds generalizing states with
  | zero =>
    intro weight covered arc leaves
    have lower := falls state arc leaves
    exact above state (by omega) weight covered arc leaves
  | succ rounds ih =>
    rw [emptyClosure]
    split
    · next same =>
      intro weight covered arc leaves silent
      exact same ▸ covered_relax_arc covered leaves silent
    · apply ih
      intro state high weight covered arc leaves silent
      obtain ⟨least, lighter, member⟩ := covered
      have old : Covered states state weight := by
        rcases mem_relax member with old | ⟨earlier, own, isMember, arc, isArc, isEmpty, same⟩
        · exact ⟨least, lighter, old⟩
        · obtain ⟨rfl, rfl⟩ := Prod.mk.inj same
          have higher := falls earlier arc isArc
          obtain ⟨kept, below, isKept⟩ :=
            above earlier (by omega) own ⟨own, le_rfl, isMember⟩ arc isArc isEmpty
          exact ⟨kept, below.trans lighter, isKept⟩
      exact covered_relax_arc old leaves silent

theorem way_of_mem_emptyClosure {rounds : Nat} {states : Weighted ℚ}
    (ways : ∀ reached ∈ states, EmptyWay machine state reached.1 reached.2) {reached : Nat × ℚ}
    (member : reached ∈ machine.emptyClosure rounds states) :
    EmptyWay machine state reached.1 reached.2 := by
  induction rounds generalizing states with
  | zero => exact ways reached member
  | succ rounds ih =>
    rw [emptyClosure] at member
    split at member
    · exact ways reached member
    · refine ih ?_ member
      intro other isMember
      rcases mem_relax isMember with old | ⟨earlier, weight, isEarlier, arc, leaves, silent, rfl⟩
      · exact ways other old
      · exact .move (ways _ isEarlier) leaves silent

theorem covered_emptyClosure {rounds : Nat} {states : Weighted ℚ} (covered : Covered states state weight) :
    Covered (machine.emptyClosure rounds states) state weight := by
  induction rounds generalizing states with
  | zero => exact covered
  | succ rounds ih =>
    rw [emptyClosure]
    split
    · exact covered
    · exact ih (covered_relax covered)

/-- The states that are reached from a state by arcs with empty labels. -/
def reached (machine : Transducer ℚ) (state : Nat) : Weighted ℚ :=
  machine.emptyClosure machine.nodes.size [(state, WeightScale.zero)]

theorem way_of_mem_reached (member : (next, weight) ∈ machine.reached state) :
    EmptyWay machine state next weight := by
  refine way_of_mem_emptyClosure (fun reached isStart => ?_) member
  rw [List.mem_singleton.mp isStart]
  exact .stay

/-- All ways with empty labels are covered by what is reached. -/
theorem EmptyWay.covered (acyclic : Acyclic machine) (way : EmptyWay machine state next weight) :
    Covered (machine.reached state) next weight := by
  obtain ⟨height, bounded, falls⟩ := acyclic.exists_height
  have saturated (between : Nat) : Saturated machine (machine.reached state) between :=
    saturated_emptyClosure falls (fun other high => absurd (bounded other) (Nat.not_le_of_lt high)) between
  induction way with
  | stay => exact covered_emptyClosure ⟨0, le_rfl, List.mem_singleton_self _⟩
  | move goes leaves silent ih => exact saturated _ _ ih _ leaves silent

/-! The machine without empty labels. -/

theorem nodes_removeEmpty (inside : state < machine.nodes.size) :
    machine.removeEmpty.nodes[state]? = some (machine.plainNode state) := by
  simp [removeEmpty, inside]

theorem size_removeEmpty : machine.removeEmpty.nodes.size = machine.nodes.size := by
  simp [removeEmpty]

theorem final?_removeEmpty (inside : state < machine.nodes.size) :
    machine.removeEmpty.final? state = machine.finalOf? (machine.reached state) := by
  rw [final?, nodes_removeEmpty inside]
  rfl

theorem arcsOf_removeEmpty (inside : state < machine.nodes.size) :
    machine.removeEmpty.arcsOf state =
      (machine.arcsFrom (machine.reached state)).filter fun arc => !isEmptyArc arc := by
  rw [arcsOf, nodes_removeEmpty inside]
  rfl

theorem exists_way_of_final {final : ℚ} (accepts : machine.removeEmpty.final? state = some final) :
    ∃ next weight own, EmptyWay machine state next weight ∧ machine.final? next = some own ∧
      weight + own = final := by
  have inside := lt_size_of_final accepts
  rw [size_removeEmpty] at inside
  rw [final?_removeEmpty inside] at accepts
  obtain ⟨next, weight, own, member, alsoAccepts, same⟩ := exists_of_finalOf? accepts
  exact ⟨next, weight, own, way_of_mem_reached member, alsoAccepts, same⟩

theorem exists_way_of_arc {arc : Arc ℚ Nat} (leaves : arc ∈ machine.removeEmpty.arcsOf state) :
    ∃ next weight own, EmptyWay machine state next weight ∧ own ∈ machine.arcsOf next ∧
      ¬ isEmptyArc own ∧ arc = { own with weight := weight + own.weight } := by
  have inside := lt_size_of_mem leaves
  rw [size_removeEmpty] at inside
  rw [arcsOf_removeEmpty inside, List.mem_filter] at leaves
  obtain ⟨isFrom, shows⟩ := leaves
  obtain ⟨next, weight, own, member, isArc, rfl⟩ := mem_arcsFrom.mp isFrom
  have shows : (!isEmptyArc own) = true := shows
  exact ⟨next, weight, own, way_of_mem_reached member, isArc, by simpa using shows, rfl⟩

theorem runs_of_removeEmpty {input : List Nat} {ending : Ending ℚ}
    (runs : Runs machine.removeEmpty state input ending) : Runs machine state input ending := by
  induction runs with
  | stop accepts =>
    obtain ⟨next, weight, own, way, alsoAccepts, rfl⟩ := exists_way_of_final accepts
    exact way.runs (.stop alsoAccepts)
  | @move state arc input ending leaves goesOn ih =>
    obtain ⟨next, weight, own, way, isArc, -, rfl⟩ := exists_way_of_arc leaves
    have moved := way.runs (.move isArc ih)
    simpa [add_assoc] using moved

/-- A way with empty labels and a run behind it are a run that is not heavier. -/
theorem EmptyWay.exists_runs_removeEmpty (acyclic : Acyclic machine) {input : List Nat}
    {ending : Ending ℚ} (runs : Runs machine next input ending)
    (way : EmptyWay machine state next weight) :
    ∃ least ≤ weight + ending.weight, Runs machine.removeEmpty state input ⟨ending.labels, least⟩ := by
  induction runs generalizing state weight with
  | @stop next own accepts =>
    obtain ⟨light, lighter, member⟩ := way.covered acyclic
    obtain ⟨final, isFinal, below⟩ := exists_finalOf? member accepts
    refine ⟨final, below.trans (by simpa using lighter), .stop ?_⟩
    rw [final?_removeEmpty (way.lt_size (lt_size_of_final accepts)), isFinal]
  | @move next arc input ending leaves goesOn ih =>
    by_cases silent : isEmptyArc arc = true
    · obtain ⟨reads, writes⟩ := isEmptyArc_iff.mp silent
      obtain ⟨least, lighter, moved⟩ := ih (.move way leaves silent)
      refine ⟨least, by simpa [add_assoc] using lighter, ?_⟩
      simpa [reads, writes] using moved
    · obtain ⟨light, lighter, member⟩ := way.covered acyclic
      obtain ⟨least, below, moved⟩ := ih .stay
      have isArc : { arc with weight := light + arc.weight } ∈ machine.removeEmpty.arcsOf state := by
        rw [arcsOf_removeEmpty (way.lt_size (lt_size_of_mem leaves)), List.mem_filter]
        have shows : (!isEmptyArc arc) = true := by simpa using silent
        exact ⟨mem_arcsFrom.mpr ⟨next, light, arc, member, leaves, rfl⟩, shows⟩
      refine ⟨light + arc.weight + least, ?_, .move isArc moved⟩
      simp only
      linarith

/-- The machine without empty labels has the same outputs at the same least weights. -/
theorem sameLeast_removeEmpty (acyclic : Acyclic machine) : SameLeast machine machine.removeEmpty where
  forth := by
    rintro ending ⟨input, start, isStart, runs⟩
    obtain ⟨least, lighter, moved⟩ := EmptyWay.stay.exists_runs_removeEmpty acyclic runs
    exact ⟨least, by simpa using lighter, input, start, isStart, moved⟩
  back := by
    rintro ending ⟨input, start, isStart, runs⟩
    exact ⟨ending.weight, le_rfl, input, start, isStart, runs_of_removeEmpty runs⟩

theorem tame_removeEmpty (tame : Tame machine) : Tame machine.removeEmpty where
  copies state arc leaves := by
    obtain ⟨next, weight, own, -, isArc, -, rfl⟩ := exists_way_of_arc leaves
    exact tame.copies next own isArc
  acyclic := by
    obtain ⟨height, -, falls⟩ := tame.acyclic.exists_height
    refine acyclic_of_height height ?_
    intro state arc leaves
    obtain ⟨next, weight, own, way, isArc, -, rfl⟩ := exists_way_of_arc leaves
    exact (falls next own isArc).trans_le (way.height_le falls)
  nonNegative :=
    { final := by
        intro state final accepts
        obtain ⟨next, weight, own, way, alsoAccepts, rfl⟩ := exists_way_of_final accepts
        exact add_nonneg (way.nonNegative tame.nonNegative)
          (tame.nonNegative.final next own alsoAccepts)
      arc := by
        intro state arc leaves
        obtain ⟨next, weight, own, way, isArc, -, rfl⟩ := exists_way_of_arc leaves
        exact add_nonneg (way.nonNegative tame.nonNegative) (tame.nonNegative.arc next own isArc) }

theorem plain_removeEmpty (copies : ∀ state, ∀ arc ∈ machine.arcsOf state, arc.input = arc.output) :
    Plain machine.removeEmpty := by
  intro state arc leaves silent
  obtain ⟨next, weight, own, -, isArc, shows, rfl⟩ := exists_way_of_arc leaves
  exact shows (isEmptyArc_iff.mpr ⟨silent, (copies next own isArc).symm.trans silent⟩)

end SpokenForm.Transducer
