import Mathlib.Algebra.Order.BigOperators.Group.List
import Mathlib.Algebra.Order.Group.Nat
import Mathlib.Tactic.Choose
import SpokenForm.Proofs.Ranking
import SpokenForm.Proofs.Transducer.Numbering
import SpokenForm.Proofs.Transducer.Paths

/-! Shortest endings. The shortest endings of a state are among those that its arcs make of the shortest
endings of their targets, since each other one is outdone by as many as are asked for. -/
namespace SpokenForm.Transducer

variable {machine : Transducer ℚ} {k : Nat} {state : Nat}

theorem isShortest_shortest (k : Nat) (endings : List (Ending ℚ)) :
    IsShortest k endings (shortest k endings) := by
  have order := WeightScale.pairwise_ranked Ending.weight endings
  have same := List.mergeSort_perm endings fun a b => WeightScale.ranksBefore a.weight b.weight
  rw [shortest]
  generalize endings.mergeSort (fun a b => WeightScale.ranksBefore a.weight b.weight) = sorted at order same
  refine ⟨sorted.drop k, ?_, ?_, ?_⟩
  · rwa [List.take_append_drop]
  · rw [List.length_take, same.length_eq]
  · exact fun ending isTaken other isLeft => WeightScale.weight_le_of_dropped order isTaken isLeft

/-- So many endings are not heavier. -/
def Outdone (k : Nat) (endings : List (Ending ℚ)) (ending : Ending ℚ) : Prop :=
  k ≤ endings.countP fun other => other.weight ≤ ending.weight

section Outdone

variable {some_ all taken others : List (Ending ℚ)} {ending other : Ending ℚ}

/-- None of the shortest is heavier than one that is outdone. -/
theorem IsShortest.le_of_outdone (shortest : IsShortest k all taken) (outdone : Outdone k all other)
    (isTaken : ending ∈ taken) : ending.weight ≤ other.weight := by
  obtain ⟨left, same, length, lighter⟩ := shortest
  by_contra heavier
  have none : left.countP (fun ending => ending.weight ≤ other.weight) = 0 := by
    rw [List.countP_eq_zero]
    intro later isLeft
    simpa using (lt_of_not_ge heavier).trans_le (lighter ending isTaken later isLeft)
  have fewer : taken.countP (fun ending => ending.weight ≤ other.weight) < taken.length := by
    refine lt_of_le_of_ne List.countP_le_length fun everyone => heavier ?_
    simpa using List.countP_eq_length.mp everyone ending isTaken
  have total := same.countP_eq fun ending => decide (ending.weight ≤ other.weight)
  rw [List.countP_append, none] at total
  rw [Outdone] at outdone
  omega

/-- Endings that are outdone may be added. -/
theorem IsShortest.widen (shortest : IsShortest k some_ taken) (same : (some_ ++ others).Perm all)
    (outdone : ∀ other ∈ others, Outdone k some_ other) : IsShortest k all taken := by
  have lighter : ∀ ending ∈ taken, ∀ other ∈ others, ending.weight ≤ other.weight :=
    fun ending isTaken other isOther => shortest.le_of_outdone (outdone other isOther) isTaken
  obtain ⟨left, whole, length, lighterLeft⟩ := shortest
  refine ⟨left ++ others, ?_, ?_, ?_⟩
  · rw [← List.append_assoc]
    exact (whole.append_right others).trans same
  · rw [← same.length_eq, List.length_append]
    cases others with
    | nil => simpa using length
    | cons other others =>
      have many : k ≤ some_.length := (outdone other List.mem_cons_self).trans List.countP_le_length
      omega
  · intro ending isTaken other isOther
    rcases List.mem_append.mp isOther with isLeft | isAdded
    · exact lighterLeft ending isTaken other isLeft
    · exact lighter ending isTaken other isAdded

/-- What is left of the shortest is outdone by them. -/
theorem IsShortest.exists_left (shortest : IsShortest k all taken) :
    ∃ left, (taken ++ left).Perm all ∧ ∀ other ∈ left, Outdone k taken other := by
  obtain ⟨left, same, length, lighter⟩ := shortest
  refine ⟨left, same, ?_⟩
  intro other isLeft
  have everyone : taken.countP (fun ending => ending.weight ≤ other.weight) = taken.length := by
    rw [List.countP_eq_length]
    intro ending isTaken
    simpa using lighter ending isTaken other isLeft
  have sum := same.length_eq
  have positive := List.length_pos_of_mem isLeft
  rw [List.length_append] at sum
  rw [Outdone, everyone]
  omega

theorem Outdone.extend (arc : Arc ℚ Nat) (outdone : Outdone k taken other) :
    Outdone k (taken.map (extend arc)) (extend arc other) := by
  rw [Outdone, List.countP_map]
  refine outdone.trans (List.countP_mono_left fun ending _ lighter => ?_)
  simpa [weight_extend] using lighter

theorem Outdone.mono (outdone : Outdone k some_ other) (part : some_.Sublist all) : Outdone k all other :=
  outdone.trans part.countP_le

end Outdone

/-- The shortest endings of a state are those among what its arcs make of the shortest of their targets. -/
theorem isShortest_endingsThrough {full short : Nat → List (Ending ℚ)}
    (each : ∀ arc ∈ machine.arcsOf state, IsShortest k (full arc.target) (short arc.target)) :
    IsShortest k (machine.endingsThrough full state)
      (shortest k (machine.endingsThrough short state)) := by
  have lefts : ∀ arc ∈ machine.arcsOf state, ∃ left, (short arc.target ++ left).Perm (full arc.target) ∧
      ∀ other ∈ left, Outdone k (short arc.target) other := fun arc leaves => (each arc leaves).exists_left
  choose! left same outdone using lefts
  have whole : (machine.endingsThrough short state ++
      (machine.arcsOf state).flatMap fun arc => (left arc).map (extend arc)).Perm
        (machine.endingsThrough full state) := by
    rw [endingsThrough, List.append_assoc, endingsThrough]
    refine List.Perm.append_left _ ((List.flatMap_append_perm _ _ _).trans ?_)
    refine List.Perm.flatMap_left _ fun arc leaves => ?_
    rw [← List.map_append]
    exact (same arc leaves).map _
  refine (isShortest_shortest k _).widen whole ?_
  intro other isOther
  obtain ⟨arc, leaves, isLeft⟩ := List.mem_flatMap.mp isOther
  obtain ⟨later, member, rfl⟩ := List.mem_map.mp isLeft
  refine ((outdone arc leaves later member).extend arc).mono ?_
  have part : ((short arc.target).map (extend arc)).Sublist
      ((machine.arcsOf state).flatMap fun arc => (short arc.target).map (extend arc)) :=
    List.sublist_flatten_of_mem (List.mem_map.mpr ⟨arc, leaves, rfl⟩)
  exact part.trans (List.sublist_append_right ..)

/-! Tables of the shortest endings. -/

theorem endingsOf_map {layer : List Nat} (find : Nat → List (Ending ℚ)) (member : state ∈ layer) :
    endingsOf (layer.map fun state => (state, find state)) state = find state := by
  induction layer with
  | nil => cases member
  | cons first layer ih =>
    by_cases same : state = first
    · simp [endingsOf, same]
    · have later := List.mem_of_ne_of_mem same member
      simpa [endingsOf, List.lookup_cons, beq_eq_false_iff_ne.mpr same] using ih later

theorem isShortest_shortestFrom {steps : Nat} {layer : List Nat} (member : state ∈ layer) :
    IsShortest k (machine.endingsFrom steps state)
      (endingsOf (machine.shortestFrom k steps layer) state) := by
  induction steps generalizing layer state with
  | zero =>
    rw [shortestFrom, endingsOf_map _ member]
    exact isShortest_shortest k _
  | succ steps ih =>
    have someone : ¬ layer.isEmpty := by simpa using List.ne_nil_of_mem member
    rw [shortestFrom, if_neg someone, endingsOf_map _ member]
    refine isShortest_endingsThrough fun arc leaves => ih ?_
    rw [List.mem_eraseDups, List.mem_flatMap]
    exact ⟨state, member, List.mem_map_of_mem leaves⟩

/-! Paths end: more steps than a state is high lead to no more endings. -/

theorem endingsFrom_eq {height : Nat → Nat}
    (falls : ∀ state, ∀ arc ∈ machine.arcsOf state, height arc.target < height state) {steps more : Nat}
    (enough : height state ≤ steps) (alsoEnough : height state ≤ more) :
    machine.endingsFrom steps state = machine.endingsFrom more state := by
  have ground (steps state : Nat) (low : height state = 0) :
      machine.endingsFrom steps state = machine.endingAt state := by
    have none : machine.arcsOf state = [] := by
      rw [List.eq_nil_iff_forall_not_mem]
      intro arc leaves
      have lower := falls state arc leaves
      omega
    cases steps with
    | zero => rfl
    | succ steps => simp [endingsFrom, endingsThrough, none]
  induction steps generalizing more state with
  | zero => rw [ground _ _ (by omega), ground _ _ (by omega)]
  | succ steps ih =>
    cases more with
    | zero => rw [ground _ _ (by omega), ground _ _ (by omega)]
    | succ more =>
      rw [endingsFrom, endingsFrom, endingsThrough, endingsThrough]
      congr 1
      refine List.flatMap_congr fun arc leaves => ?_
      have lower := falls state arc leaves
      have same : machine.endingsFrom steps arc.target = machine.endingsFrom more arc.target :=
        ih (by omega) (by omega)
      rw [same]

theorem paths_eq {start steps : Nat} (acyclic : Acyclic machine) (isStart : machine.start? = some start)
    (enough : machine.nodes.size ≤ steps) : machine.paths = machine.endingsFrom steps start := by
  obtain ⟨height, bounded, falls⟩ := acyclic.exists_height
  rw [paths, isStart]
  exact endingsFrom_eq falls (bounded start) ((bounded start).trans enough)

/-! A machine for given endings. -/

section Spelling

variable {endings : List (Ending ℚ)}

/-- How much is still to be done. -/
def toSpell (endings : List (Ending ℚ)) : Option (List Nat) → Nat
  | none => (endings.flatMap fun ending => 0 :: 0 :: ending.labels).length
  | some labels => labels.length

theorem falls_spelling (endings : List (Ending ℚ)) : (spelling endings).Falls (toSpell endings) := by
  intro state arc leaves
  match state with
  | none =>
    obtain ⟨ending, member, rfl⟩ := List.mem_map.mp leaves
    have part : (0 :: 0 :: ending.labels).Sublist (endings.flatMap fun ending => 0 :: 0 :: ending.labels) :=
      List.sublist_flatten_of_mem (List.mem_map.mpr ⟨ending, member, rfl⟩)
    have inside : ending.labels.length + 2 ≤ toSpell endings none := part.length_le
    exact (Nat.lt_add_of_pos_right Nat.two_pos).trans_le inside
  | some [] => cases leaves
  | some (label :: rest) =>
    obtain rfl := List.mem_singleton.mp leaves
    exact Nat.lt_succ_self _

variable {states : List (Option (List Nat))} {labels : List Nat} {steps : Nat}

theorem endingAt_spelling {state : Option (List Nat)} (member : state ∈ states) :
    ((spelling endings).number states).endingAt (states.idxOf state) =
      (((spelling endings).final? state).map (Ending.mk [])).toList := by
  rw [endingAt, Plan.number_final? (Plan.getElem?_idxOf member)]

theorem endingsFrom_spelling_succ {state : Option (List Nat)} (member : state ∈ states) :
    ((spelling endings).number states).endingsFrom (steps + 1) (states.idxOf state) =
      (((spelling endings).final? state).map (Ending.mk [])).toList ++
        ((spelling endings).arcs state).flatMap fun arc =>
          (((spelling endings).number states).endingsFrom steps (states.idxOf arc.target)).map
            (extend arc) := by
  rw [endingsFrom, endingsThrough, endingAt_spelling member,
    Plan.number_arcsOf (Plan.getElem?_idxOf member), List.flatMap_map]
  rfl

variable (closed : (spelling endings).Closed states)
include closed

theorem endingsFrom_spelling (shows : 0 ∉ labels) (member : some labels ∈ states)
    (enough : labels.length ≤ steps) :
    ((spelling endings).number states).endingsFrom steps (states.idxOf (some labels)) =
      [⟨labels, 0⟩] := by
  induction labels generalizing steps with
  | nil =>
    cases steps with
    | zero => exact endingAt_spelling member
    | succ steps => exact endingsFrom_spelling_succ member
  | cons label labels ih =>
    obtain ⟨steps, rfl⟩ := Nat.exists_eq_succ_of_ne_zero (Nat.ne_zero_of_lt enough)
    have next : some labels ∈ states := closed _ member ⟨label, label, 0, some labels⟩ (List.mem_singleton_self _)
    have later := ih (List.not_mem_of_not_mem_cons shows) next (Nat.le_of_succ_le_succ enough)
    have isLabel : label ≠ 0 := (List.ne_of_not_mem_cons shows).symm
    have final : (spelling endings).final? (some (label :: labels)) = none := rfl
    have arcs : (spelling endings).arcs (some (label :: labels)) = [⟨label, label, 0, some labels⟩] := rfl
    rw [Nat.succ_eq_add_one, endingsFrom_spelling_succ member, final, arcs]
    simp [later, extend, isLabel]

/-- The machine for endings has a path for each. -/
theorem paths_spelling (shows : ∀ ending ∈ endings, 0 ∉ ending.labels) (isFirst : states[0]? = some none) :
    ((spelling endings).number states).paths = endings := by
  have member := List.mem_of_getElem? isFirst
  have inside : ∀ ending ∈ endings, ending.labels.length ≤ toSpell endings none := by
    intro ending isEnding
    have isArc : ⟨0, 0, ending.weight, some ending.labels⟩ ∈ (spelling endings).arcs none :=
      List.mem_map.mpr ⟨ending, isEnding, rfl⟩
    exact (falls_spelling endings none _ isArc).le
  have final : (spelling endings).final? none = none := rfl
  have arcs : (spelling endings).arcs none =
      endings.map fun ending => ⟨0, 0, ending.weight, some ending.labels⟩ := rfl
  -- the steps suffice for the longest of the endings, and for the machine to come to its end
  rw [paths_eq (Plan.acyclic_number closed (falls_spelling endings)) rfl
    ((Nat.le_add_left _ (toSpell endings none)).trans (Nat.le_succ _))]
  rw [← Plan.idxOf_first isFirst, Nat.succ_eq_add_one, endingsFrom_spelling_succ member, final, arcs,
    List.flatMap_map]
  have each : ∀ ending ∈ endings, (((spelling endings).number states).endingsFrom
      (toSpell endings none + ((spelling endings).number states).nodes.size)
      (states.idxOf (some ending.labels))).map (extend ⟨0, 0, ending.weight, some ending.labels⟩) =
        [ending] := by
    intro ending isEnding
    have next := closed none member _ (List.mem_map.mpr ⟨ending, isEnding, rfl⟩)
    rw [endingsFrom_spelling closed (shows ending isEnding) next
      ((inside ending isEnding).trans (Nat.le_add_right ..))]
    simp [extend]
  exact (List.flatMap_congr each).trans (List.flatMap_singleton' endings)

end Spelling

theorem ofEndings_spec {endings : List (Ending ℚ)} (shows : ∀ ending ∈ endings, 0 ∉ ending.labels) :
    Acyclic (ofEndings endings) ∧ (ofEndings endings).paths = endings := by
  obtain ⟨states, built, isFirst, closed, -⟩ := Plan.exists_states (falls_spelling endings)
    (le_refl (toSpell endings none)) (fun _ => True) trivial fun _ _ _ _ => trivial
  have same : ofEndings endings = (spelling endings).number states := built
  rw [same]
  exact ⟨Plan.acyclic_number closed (falls_spelling endings), paths_spelling closed shows isFirst⟩

/-- The machine of the shortest paths has these paths. -/
theorem shortestPaths_spec (positive : 0 < k) (acyclic : Acyclic machine) :
    Acyclic (shortestPaths k machine) ∧ IsShortest k machine.paths (shortestPaths k machine).paths := by
  rw [shortestPaths]
  split
  · next start isStart =>
    have enough : machine.nodes.size ≤ k * (machine.nodes.size + 1) :=
      (Nat.le_succ _).trans (Nat.le_mul_of_pos_left _ positive)
    have shortest : IsShortest k machine.paths
        (endingsOf (machine.shortestFrom k (k * (machine.nodes.size + 1)) [start]) start) := by
      rw [paths_eq acyclic isStart enough]
      exact isShortest_shortestFrom (List.mem_singleton_self start)
    have shows : ∀ ending ∈ endingsOf (machine.shortestFrom k (k * (machine.nodes.size + 1)) [start]) start,
        0 ∉ ending.labels := by
      intro ending isTaken
      obtain ⟨input, other, -, runs⟩ := (mem_paths acyclic).mp (shortest.subset isTaken)
      exact runs.zero_notMem_labels
    obtain ⟨acyclic, same⟩ := ofEndings_spec shows
    rw [same]
    exact ⟨acyclic, shortest⟩
  · next none =>
    have nothing : machine.paths = [] := by rw [paths, none]; rfl
    rw [nothing]
    exact ⟨acyclic_of_height (fun _ => 0) (by simp), [], .nil, by simp [paths, nowhere], by simp⟩

end SpokenForm.Transducer
