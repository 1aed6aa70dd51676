import Mathlib.Data.List.Sort
import SpokenForm.Proofs.Transducer.Composition
import SpokenForm.Proofs.Transducer.Numbering

/-! Sorting, acceptors, products and projections compute what they are to compute. -/
namespace SpokenForm.Transducer

variable {machine first second : Transducer ℚ}

theorem isSorting_sortArcs (machine : Transducer ℚ) : IsSorting machine machine.sortArcs := by
  have arcs (state : Nat) : machine.sortArcs.arcsOf state =
      (machine.arcsOf state).mergeSort fun a b => a.input ≤ b.input :=
    arcsOf_mapArcs (List.mergeSort_nil)
  refine ⟨rfl, fun state => final?_mapArcs _, ?_, ?_⟩
  · intro state
    rw [arcs]
    exact List.mergeSort_perm ..
  · intro state
    rw [arcs]
    have sorted := @List.pairwise_mergeSort _ (fun a b : Arc ℚ Nat => decide (a.input ≤ b.input)) ?_ ?_
      (machine.arcsOf state)
    · simpa using sorted
    · intro a b c
      simpa using le_trans
    · intro a b
      simpa using le_total a.input b.input

theorem isProjection_projectOutput (machine : Transducer ℚ) :
    IsProjection machine machine.projectOutput where
  start := rfl
  final _ := final?_mapArcs _
  arcs _ := arcsOf_mapArcs rfl

/-! Acceptors. -/

section Acceptor

variable {labels : List Nat} {weight : ℚ} {state : Nat}

theorem acceptor_nodes_size : (acceptor labels weight).nodes.size = labels.length + 1 := by
  simp [acceptor]

theorem arcsOf_acceptor (labels : List Nat) (weight : ℚ) (state : Nat) :
    (acceptor labels weight).arcsOf state =
      (labels[state]?.map fun label => ⟨label, label, 0, state + 1⟩).toList := by
  rcases lt_trichotomy state labels.length with inside | rfl | outside
  · simp [arcsOf, acceptor, List.getElem?_append_left, inside]
  · simp [arcsOf, acceptor]
  · rw [arcsOf, Array.getElem?_eq_none (acceptor_nodes_size.trans_le outside),
      List.getElem?_eq_none outside.le]
    rfl

theorem final?_acceptor (labels : List Nat) (weight : ℚ) (state : Nat) :
    (acceptor labels weight).final? state = if state = labels.length then some weight else none := by
  rcases lt_trichotomy state labels.length with inside | rfl | outside
  · simp [final?, acceptor, List.getElem?_append_left, inside, inside.ne]
  · simp [final?, acceptor]
  · rw [final?, Array.getElem?_eq_none (acceptor_nodes_size.trans_le outside), if_neg outside.ne']
    rfl

theorem exists_of_acceptor_arc {arc : Arc ℚ Nat} (leaves : arc ∈ (acceptor labels weight).arcsOf state) :
    ∃ label, labels.drop state = label :: labels.drop (state + 1) ∧ arc = ⟨label, label, 0, state + 1⟩ := by
  rw [arcsOf_acceptor, Option.mem_toList, Option.map_eq_some_iff] at leaves
  obtain ⟨label, found, rfl⟩ := leaves
  obtain ⟨inside, rfl⟩ := List.getElem?_eq_some_iff.mp found
  exact ⟨_, List.drop_eq_getElem_cons inside, rfl⟩

theorem eq_of_acceptor_runs {input : List Nat} {ending : Ending ℚ}
    (runs : Runs (acceptor labels weight) state input ending) :
    input = (labels.drop state).filter (· ≠ 0) ∧
      ending = ⟨(labels.drop state).filter (· ≠ 0), weight⟩ := by
  induction runs with
  | @stop state final accepts =>
    rw [final?_acceptor] at accepts
    split at accepts
    · next ended =>
      obtain rfl := Option.some.inj accepts
      simp [ended]
    · cases accepts
  | @move state arc input ending leaves goesOn ih =>
    obtain ⟨label, here, rfl⟩ := exists_of_acceptor_arc leaves
    obtain ⟨rfl, rfl⟩ := ih
    rw [here, filter_cons_eq, zero_add]
    exact ⟨rfl, rfl⟩

theorem acceptor_runs (state : Nat) (bounded : state ≤ labels.length) :
    Runs (acceptor labels weight) state ((labels.drop state).filter (· ≠ 0))
      ⟨(labels.drop state).filter (· ≠ 0), weight⟩ := by
  induction bounded using Nat.decreasingInduction with
  | self =>
    rw [List.drop_length]
    exact .stop (by simp [final?_acceptor])
  | of_succ state inside ih =>
    have leaves : ⟨labels[state], labels[state], 0, state + 1⟩ ∈
        (acceptor labels weight).arcsOf state := by
      simp [arcsOf_acceptor, inside]
    have moved := Runs.move leaves ih
    rw [zero_add] at moved
    rw [List.drop_eq_getElem_cons inside, filter_cons_eq]
    exact moved

theorem isAcceptor_acceptor (labels : List Nat) (weight : ℚ) :
    IsAcceptor labels weight (acceptor labels weight) where
  accepts_iff input ending := by
    constructor
    · rintro ⟨start, isStart, runs⟩
      obtain rfl := Option.some.inj isStart
      exact eq_of_acceptor_runs runs
    · rintro ⟨rfl, rfl⟩
      exact ⟨0, rfl, acceptor_runs 0 (Nat.zero_le _)⟩
  acyclic := by
    refine acyclic_of_height (fun state => labels.length - state) ?_
    intro state arc leaves
    obtain ⟨label, here, rfl⟩ := exists_of_acceptor_arc leaves
    have lengths := congrArg List.length here
    rw [List.length_drop, List.length_cons, List.length_drop] at lengths
    show labels.length - (state + 1) < labels.length - state
    omega
  nonNegative positive :=
    { final := by
        intro state other accepts
        rw [final?_acceptor] at accepts
        split at accepts
        · exact Option.some.inj accepts ▸ positive
        · cases accepts
      arc := by
        intro state arc leaves
        obtain ⟨label, -, rfl⟩ := exists_of_acceptor_arc leaves
        exact le_rfl }

end Acceptor

/-! Products. -/

section Product

variable {state other : Nat} {states : Nat × Nat} {input between : List Nat} {arc : Arc ℚ (Nat × Nat)}

theorem pairArc_of_mem (leaves : arc ∈ (product first second).arcs states) :
    PairArc first second states arc := by
  obtain ⟨state, other⟩ := states
  simp only [product, List.mem_append, List.mem_map, List.mem_flatMap, List.mem_filter] at leaves
  rcases leaves with (⟨own, ⟨isArc, silent⟩, rfl⟩ | ⟨own, ⟨isArc, silent⟩, rfl⟩) |
    ⟨own, isArc, next, ⟨follows, meets⟩, rfl⟩
  · exact .first isArc (by simpa using silent)
  · exact .second isArc (by simpa using silent)
  · exact .both isArc follows (by simpa using (by simpa using meets : _ ∧ _).2)

theorem product_first (second : Transducer ℚ) (other : Nat) {own : Arc ℚ Nat} (leaves : own ∈ first.arcsOf state) (silent : own.output = 0) :
    ⟨own.input, 0, own.weight, (own.target, other)⟩ ∈ (product first second).arcs (state, other) := by
  simp only [product, List.mem_append, List.mem_map, List.mem_filter]
  exact .inl (.inl ⟨own, ⟨leaves, by simpa using silent⟩, rfl⟩)

theorem product_second (first : Transducer ℚ) (state : Nat) {own : Arc ℚ Nat} (leaves : own ∈ second.arcsOf other) (silent : own.input = 0) :
    ⟨0, own.output, own.weight, (state, own.target)⟩ ∈ (product first second).arcs (state, other) := by
  simp only [product, List.mem_append, List.mem_map, List.mem_filter]
  exact .inl (.inr ⟨own, ⟨leaves, by simpa using silent⟩, rfl⟩)

theorem product_both {own next : Arc ℚ Nat} (leaves : own ∈ first.arcsOf state)
    (follows : next ∈ second.arcsOf other) (shows : own.output ≠ 0) (meets : next.input = own.output) :
    ⟨own.input, next.output, own.weight + next.weight, (own.target, next.target)⟩ ∈
      (product first second).arcs (state, other) := by
  simp only [product, List.mem_append, List.mem_map, List.mem_flatMap, List.mem_filter]
  exact .inr ⟨own, leaves, next, ⟨follows, by simpa using ⟨shows, meets⟩⟩, rfl⟩

/-! Runs of the product. -/

section Numbered

variable {states : List (Nat × Nat)} (closed : (product first second).Closed states)
include closed

/-- Where the first machine has stopped, the second one goes on alone. -/
theorem product_runs_stopped {final : ℚ} (accepts : first.final? state = some final) {ending : Ending ℚ}
    (runs : Runs second other [] ending) (member : (state, other) ∈ states) :
    Runs ((product first second).number states) (states.idxOf (state, other)) []
      ⟨ending.labels, final + ending.weight⟩ := by
  generalize nothing : ([] : List Nat) = input at runs
  induction runs with
  | @stop other weight alsoAccepts =>
    have both : (product first second).final? (state, other) = some (final + weight) := by
      simp [product, accepts, alsoAccepts]
    exact Plan.runs_stop member both
  | @move other arc input ending leaves goesOn ih =>
    obtain ⟨unread, rfl⟩ := List.append_eq_nil_iff.mp nothing.symm
    have silent : arc.input = 0 := by
      by_contra shows
      rw [shown_of_ne shows] at unread
      cases unread
    have isArc := product_second first state leaves silent
    have moved := Plan.runs_move member isArc (ih (closed _ member _ isArc) rfl)
    simpa [silent, add_left_comm] using moved

/-- The second machine moves alone until it reads what the first one writes. -/
theorem product_runs_meeting {own : Arc ℚ Nat} {ending : Ending ℚ} {rest : List Nat}
    (leaves : own ∈ first.arcsOf state) (shows : own.output ≠ 0)
    (goesOn : ∀ next later, Runs second next rest later → (own.target, next) ∈ states →
      Runs ((product first second).number states) (states.idxOf (own.target, next)) input
        ⟨later.labels, ending.weight + later.weight⟩)
    {later : Ending ℚ} (runs : Runs second other (own.output :: rest) later)
    (member : (state, other) ∈ states) :
    Runs ((product first second).number states) (states.idxOf (state, other)) (shown own.input ++ input)
      ⟨later.labels, own.weight + ending.weight + later.weight⟩ := by
  generalize reads : own.output :: rest = read at runs
  induction runs with
  | stop accepts => cases reads
  | @move other next read later follows further ih =>
    by_cases silent : next.input = 0
    · have isArc := product_second first state follows silent
      have same : own.output :: rest = read := by simpa [silent] using reads
      have moved := Plan.runs_move member isArc (ih (closed _ member _ isArc) same)
      simpa [silent, add_left_comm] using moved
    · rw [shown_of_ne silent, List.singleton_append, List.cons.injEq] at reads
      obtain ⟨meets, rfl⟩ := reads
      have isArc := product_both leaves follows shows meets.symm
      have moved := Plan.runs_move member isArc (goesOn _ _ further (closed _ member _ isArc))
      simpa [add_assoc, add_left_comm] using moved

theorem product_runs {ending later : Ending ℚ} (runs : Runs first state input ending)
    (follows : Runs second other ending.labels later) (member : (state, other) ∈ states) :
    Runs ((product first second).number states) (states.idxOf (state, other)) input
      ⟨later.labels, ending.weight + later.weight⟩ := by
  induction runs generalizing other later with
  | stop accepts => exact product_runs_stopped closed accepts follows member
  | @move state arc input ending leaves goesOn ih =>
    by_cases silent : arc.output = 0
    · have isArc := product_first second other leaves silent
      have same : Runs second other ending.labels later := by simpa [silent] using follows
      have moved := Plan.runs_move member isArc (ih same (closed _ member _ isArc))
      simpa [add_assoc] using moved
    · rw [shown_of_ne silent] at follows
      exact product_runs_meeting closed leaves silent (fun next later => ih) follows member

end Numbered

theorem isComposition_number {start other : Nat} {states : List (Nat × Nat)}
    (firstStart : first.start? = some start) (secondStart : second.start? = some other)
    (closed : (product first second).Closed states) (isStart : states[0]? = some (start, other)) :
    IsComposition first second ((product first second).number states)
      fun place => (states[place]?).getD (0, 0) where
  start place same := by
    obtain rfl : 0 = place := Option.some.inj same
    simp [isStart, firstStart, secondStart]
  final place weight accepts := by
    obtain ⟨pair, stands, both⟩ := Plan.exists_of_final accepts
    obtain ⟨own, ownAccepts, next, nextAccepts, rfl⟩ : ∃ own, first.final? pair.1 = some own ∧
        ∃ next, second.final? pair.2 = some next ∧ own + next = weight := by
      simpa [product, Option.bind_eq_some_iff] using both
    exact ⟨own, next, by simpa [stands] using ownAccepts, by simpa [stands] using nextAccepts, rfl⟩
  arc place arc leaves := by
    obtain ⟨pair, stands, original, isArc, there, same⟩ := Plan.exists_of_arc closed leaves
    rw [same]
    simpa [stands, there] using pairArc_of_mem isArc
  complete input between output own weight ownAccepts nextAccepts := by
    obtain ⟨ownStart, isOwnStart, ownRuns⟩ := ownAccepts
    obtain ⟨nextStart, isNextStart, nextRuns⟩ := nextAccepts
    obtain rfl := Option.some.inj (firstStart.symm.trans isOwnStart)
    obtain rfl := Option.some.inj (secondStart.symm.trans isNextStart)
    have runs := product_runs closed ownRuns nextRuns (List.mem_of_getElem? isStart)
    rw [Plan.idxOf_first isStart] at runs
    exact ⟨0, rfl, runs⟩

/-- The composition of a machine without loops with one without loops that read nothing. -/
theorem exists_isComposition (acyclic : Acyclic first) (loopless : Loopless second) :
    ∃ pair, IsComposition first second (compose first second) pair := by
  rw [compose]
  split
  · next start other firstStart secondStart =>
    obtain ⟨height, bounded, falls⟩ := exists_pairHeight acyclic loopless
    obtain ⟨states, built, isStart, closed, -⟩ := Plan.exists_states
      (fun states arc leaves => falls states arc (pairArc_of_mem leaves)) (bounded (start, other)).le
      (fun _ => True) trivial (fun _ _ _ _ => trivial)
    rw [built]
    exact ⟨_, isComposition_number firstStart secondStart closed isStart⟩
  · next none =>
    refine ⟨fun _ => (0, 0), ?_, ?_, ?_, ?_⟩
    · intro start isStart
      cases isStart
    · intro state weight accepts
      simp at accepts
    · intro state arc leaves
      simp at leaves
    · rintro input between output own other ⟨start, isStart, -⟩ ⟨next, isNext, -⟩
      exact absurd isNext (none start next isStart)

end Product

end SpokenForm.Transducer
