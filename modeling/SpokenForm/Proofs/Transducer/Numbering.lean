import Mathlib.Data.List.Basic
import SpokenForm.Proofs.Transducer.Runs
import SpokenForm.Transducer.Plan

/-! Numbered machines. Along the arcs of a plan a height falls, and as many rounds as the start is high
find all states that can be reached; the machine of these goes on as the plan does. -/
namespace SpokenForm.Plan

variable {S W : Type} [BEq S] {plan : Plan S W}

/-- The arcs of some states lead to states among them. -/
def Closed (plan : Plan S W) (states : List S) : Prop :=
  ∀ state ∈ states, ∀ arc ∈ plan.arcs state, arc.target ∈ states

/-- Along arcs a height falls. -/
def Falls (plan : Plan S W) (height : S → Nat) : Prop :=
  ∀ state, ∀ arc ∈ plan.arcs state, height arc.target < height state

theorem number_final? {states : List S} {place : Nat} {state : S} (stands : states[place]? = some state) :
    (plan.number states).final? place = plan.final? state := by
  simp [Transducer.final?, number, node, stands]

theorem number_arcsOf {states : List S} {place : Nat} {state : S} (stands : states[place]? = some state) :
    (plan.number states).arcsOf place =
      (plan.arcs state).map fun arc => { arc with target := states.idxOf arc.target } := by
  simp [Transducer.arcsOf, number, node, stands]

theorem exists_of_final {states : List S} {place : Nat} {weight : W} (accepts : (plan.number states).final? place = some weight) :
    ∃ state, states[place]? = some state ∧ plan.final? state = some weight := by
  cases stands : states[place]? with
  | none => simp [Transducer.final?, number, stands] at accepts
  | some state => exact ⟨state, rfl, number_final? stands ▸ accepts⟩

/-! Rounds. -/

theorem prefix_explore (plan : Plan S W) (rounds : Nat) (frontier found : List S) :
    found <+: plan.explore rounds frontier found := by
  induction rounds generalizing frontier found with
  | zero => exact List.prefix_rfl
  | succ rounds ih =>
    rw [explore]
    split
    · exact List.prefix_rfl
    · exact (List.prefix_append ..).trans (ih _ _)

variable [LawfulBEq S]

theorem mem_fresh {frontier found : List S} {state : S} : state ∈ plan.fresh frontier found ↔
    (∃ earlier ∈ frontier, ∃ arc ∈ plan.arcs earlier, arc.target = state) ∧ state ∉ found := by
  simp [fresh]

/-- The states found before the frontier lead to found states only, and the rounds suffice for the rest. -/
theorem closed_explore {height : S → Nat} (falls : plan.Falls height) {rounds : Nat}
    {frontier found : List S} (low : ∀ state ∈ frontier, height state ≤ rounds)
    (behind : ∀ state ∈ found, state ∈ frontier ∨ ∀ arc ∈ plan.arcs state, arc.target ∈ found) :
    plan.Closed (plan.explore rounds frontier found) := by
  induction rounds generalizing frontier found with
  | zero =>
    intro state isFound arc leaves
    rcases behind state isFound with ahead | within
    · have lower := falls state arc leaves
      have ground := low state ahead
      omega
    · exact within arc leaves
  | succ rounds ih =>
    have reached : ∀ state ∈ found, ∀ arc ∈ plan.arcs state,
        arc.target ∈ found ∨ arc.target ∈ plan.fresh frontier found := by
      intro state isFound arc leaves
      by_cases old : arc.target ∈ found
      · exact .inl old
      · refine .inr (mem_fresh.mpr ⟨?_, old⟩)
        rcases behind state isFound with ahead | within
        · exact ⟨state, ahead, arc, leaves, rfl⟩
        · exact absurd (within arc leaves) old
    rw [explore]
    split
    · next nothing =>
      intro state isFound arc leaves
      rw [List.isEmpty_iff] at nothing
      simpa [nothing] using reached state isFound arc leaves
    · apply ih
      · intro state isFresh
        obtain ⟨⟨earlier, ahead, arc, leaves, rfl⟩, -⟩ := mem_fresh.mp isFresh
        have lower := falls earlier arc leaves
        have room := low earlier ahead
        omega
      · intro state isFound
        rcases List.mem_append.mp isFound with old | isFresh
        · exact .inr fun arc leaves => List.mem_append.mpr (reached state old arc leaves)
        · exact .inl isFresh

/-- What holds of the first states and is kept along arcs holds of all that are found. -/
theorem explore_induction {holds : S → Prop}
    (keeps : ∀ state, holds state → ∀ arc ∈ plan.arcs state, holds arc.target) {rounds : Nat}
    {frontier found : List S} (ahead : ∀ state ∈ frontier, holds state)
    (behind : ∀ state ∈ found, holds state) {state : S}
    (isFound : state ∈ plan.explore rounds frontier found) : holds state := by
  induction rounds generalizing frontier found with
  | zero => exact behind state isFound
  | succ rounds ih =>
    rw [explore] at isFound
    split at isFound
    · exact behind state isFound
    · have fresh : ∀ other ∈ plan.fresh frontier found, holds other := by
        intro other isFresh
        obtain ⟨⟨earlier, isAhead, arc, leaves, rfl⟩, -⟩ := mem_fresh.mp isFresh
        exact keeps earlier (ahead earlier isAhead) arc leaves
      exact ih fresh (List.forall_mem_append.mpr ⟨behind, fresh⟩) isFound

/-- The machine of all states that can be reached. -/
theorem exists_states {height : S → Nat} (falls : plan.Falls height) {rounds : Nat} {start : S}
    (low : height start ≤ rounds) (holds : S → Prop) (first : holds start)
    (keeps : ∀ state, holds state → ∀ arc ∈ plan.arcs state, holds arc.target) :
    ∃ states, plan.build rounds start = plan.number states ∧ states[0]? = some start ∧
      plan.Closed states ∧ ∀ state ∈ states, holds state := by
  have isFirst : ∀ state ∈ [start], holds state := by simpa using first
  refine ⟨_, rfl, ?_, closed_explore falls (by simpa using low) fun state found => .inl found,
    fun state => explore_induction keeps isFirst isFirst⟩
  obtain ⟨others, same⟩ := prefix_explore plan rounds [start] [start]
  rw [← same]
  rfl

/-! Places. -/

section Places

variable {states : List S} {place : Nat}

theorem getElem?_idxOf {state : S} (member : state ∈ states) : states[states.idxOf state]? = some state := by
  rw [List.getElem?_eq_getElem (List.idxOf_lt_length_iff.mpr member), List.getElem_idxOf]

theorem idxOf_first {state : S} (isFirst : states[0]? = some state) : states.idxOf state = 0 := by
  cases states with
  | nil => cases isFirst
  | cons first rest =>
    obtain rfl := Option.some.inj isFirst
    exact List.idxOf_cons_self

variable (closed : plan.Closed states)
include closed

/-- An arc of the machine is an arc of the plan between what its places stand for. -/
theorem exists_of_arc {arc : Arc W Nat} (leaves : arc ∈ (plan.number states).arcsOf place) :
    ∃ state, states[place]? = some state ∧ ∃ original ∈ plan.arcs state,
      states[arc.target]? = some original.target ∧ arc = { original with target := arc.target } := by
  cases stands : states[place]? with
  | none => simp [Transducer.arcsOf, number, stands] at leaves
  | some state =>
    rw [number_arcsOf stands, List.mem_map] at leaves
    obtain ⟨original, isArc, rfl⟩ := leaves
    exact ⟨state, rfl, original, isArc,
      getElem?_idxOf (closed state (List.mem_of_getElem? stands) original isArc), rfl⟩

theorem acyclic_number {height : S → Nat} (falls : plan.Falls height) :
    (plan.number states).Acyclic := by
  refine Transducer.acyclic_of_height (fun place => (states[place]?.map height).getD 0) ?_
  intro place arc leaves
  obtain ⟨state, stands, original, isArc, there, -⟩ := exists_of_arc closed leaves
  simpa [stands, there] using falls state original isArc

end Places

/-! Runs. -/

section Runs

variable {plan : Plan S ℚ} {states : List S} {state : S} (member : state ∈ states)
include member

theorem runs_stop {weight : ℚ} (accepts : plan.final? state = some weight) :
    (plan.number states).Runs (states.idxOf state) [] ⟨[], weight⟩ :=
  .stop ((number_final? (getElem?_idxOf member)).trans accepts)

theorem runs_move {arc : Arc ℚ S} (leaves : arc ∈ plan.arcs state) {input : List Nat}
    {ending : Ending ℚ} (goesOn : (plan.number states).Runs (states.idxOf arc.target) input ending) :
    (plan.number states).Runs (states.idxOf state) (Transducer.shown arc.input ++ input)
      ⟨Transducer.shown arc.output ++ ending.labels, arc.weight + ending.weight⟩ := by
  have numbered : { arc with target := states.idxOf arc.target } ∈
      (plan.number states).arcsOf (states.idxOf state) := by
    rw [number_arcsOf (getElem?_idxOf member)]
    exact List.mem_map_of_mem leaves
  exact .move numbered goesOn

end Runs

end SpokenForm.Plan
