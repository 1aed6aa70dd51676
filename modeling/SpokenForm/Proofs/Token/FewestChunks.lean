import SpokenForm.Proofs.Token.ChunkPartition
import SpokenForm.Proofs.Token.SerializationEnumeration

/-! A chunk ends as late as the budget allows, and so there are as few chunks as there can be: a run
within the budget is cut at most once, wherever the open chunk stands when the run begins. -/
namespace SpokenForm.Budget

variable {budget : Budget} {chunk run : List Token}

theorem within_of_sublist {part : List Token} (inside : part.Sublist run)
    (within : Count.saturate (Token.exactTotal run) ≤ budget.limit) :
    Count.saturate (Token.exactTotal part) ≤ budget.limit := by
  have divides : Token.exactTotal part ∣ Token.exactTotal run :=
    (inside.map Token.exactCount).prod_dvd_prod
  have less := Count.saturate_mono (Nat.le_of_dvd (Token.exactTotal_pos run) divides)
  exact Nat.le_trans less within

theorem arrangementCount_le_of_mem
    (within : Count.saturate (Token.exactTotal run) ≤ budget.limit) :
    ∀ token ∈ run, Token.arrangementCount token ≤ budget.limit := by
  intro token member
  have alone := within_of_sublist (List.singleton_sublist.mpr member) within
  simpa [Token.arrangementCount_eq, Token.exactTotal] using alone

/-! The first token that fits no chunk is the error, wherever it stands. -/

theorem chunksFrom_of_first_exceeding {fitting rest : List Token} {token : Token}
    (fits : ∀ earlier ∈ fitting, Token.arrangementCount earlier ≤ budget.limit)
    (exceeds : budget.limit < Token.arrangementCount token) (running : Nat) :
    budget.chunksFrom chunk running (fitting ++ token :: rest) =
      .error (.budgetExceeded (Token.arrangementCount token) budget.limit
        (Token.serialize token)) := by
  induction fitting generalizing chunk running with
  | nil => exact chunksFrom_exceeding exceeds
  | cons earlier fitting ih =>
    obtain ⟨first, others⟩ := List.forall_mem_cons.mp fits
    rw [List.cons_append]
    rcases room_or_full budget chunk (Count.times running (Token.arrangementCount earlier)) with
      room | ⟨nonempty, full⟩
    · rw [chunksFrom_fitting first room]
      exact ih others _
    · rw [chunksFrom_full first nonempty full, ih others]
      rfl

/-- Either every token fits a chunk, or there is a first one that does not. -/
theorem fits_or_first_exceeding (budget : Budget) (tokens : List Token) :
    (∀ token ∈ tokens, Token.arrangementCount token ≤ budget.limit) ∨
      ∃ fitting token rest, tokens = fitting ++ token :: rest ∧
        (∀ earlier ∈ fitting, Token.arrangementCount earlier ≤ budget.limit) ∧
        budget.limit < Token.arrangementCount token := by
  induction tokens with
  | nil => exact .inl (by simp)
  | cons token tokens ih =>
    rcases Nat.lt_or_ge budget.limit (Token.arrangementCount token) with exceeds | fits
    · exact .inr ⟨[], token, tokens, rfl, by simp, exceeds⟩
    · rcases ih with all | ⟨fitting, first, rest, rfl, before, exceeds⟩
      · exact .inl (List.forall_mem_cons.mpr ⟨fits, all⟩)
      · exact .inr ⟨token :: fitting, first, rest, rfl, List.forall_mem_cons.mpr ⟨fits, before⟩,
          exceeds⟩

/-! Cutting goes on behind an open chunk, whose running count is its own. -/

/-- The chunks of what follows an open chunk, which stands newest token first. -/
def chunksBehind (budget : Budget) (chunk tokens : List Token) :
    Except ConfigurationError (List (List Token)) :=
  budget.chunksFrom chunk (Count.saturate (Token.exactTotal chunk)) tokens

theorem times_arrangementCount (chunk : List Token) (token : Token) :
    Count.times (Count.saturate (Token.exactTotal chunk)) (Token.arrangementCount token) =
      Count.saturate (Token.exactTotal (token :: chunk)) := by
  rw [Token.arrangementCount_eq, Count.times_saturate, Token.exactTotal_cons, Nat.mul_comm]

theorem chunksBehind_fitting {token : Token} (rest : List Token)
    (within : Count.saturate (Token.exactTotal (token :: chunk)) ≤ budget.limit) :
    budget.chunksBehind chunk (token :: rest) = budget.chunksBehind (token :: chunk) rest := by
  have fits := arrangementCount_le_of_mem within token List.mem_cons_self
  have room := times_arrangementCount chunk token ▸ within
  rw [chunksBehind, chunksFrom_fitting fits (.inr room), times_arrangementCount, chunksBehind]

theorem chunksBehind_full {token : Token} (rest : List Token) (nonempty : chunk ≠ [])
    (fits : Token.arrangementCount token ≤ budget.limit)
    (full : budget.limit < Count.saturate (Token.exactTotal (token :: chunk))) :
    budget.chunksBehind chunk (token :: rest) =
      (budget.chunksBehind [token] rest).map (chunk.reverse :: ·) := by
  have one : Count.saturate (Token.exactTotal []) = 1 := by decide
  have alone := times_arrangementCount [] token
  rw [one] at alone
  rw [← times_arrangementCount] at full
  rw [chunksBehind, chunksFrom_full fits nonempty full, alone, chunksBehind]

/-- A run that still fits the open chunk is not cut. -/
theorem chunksBehind_append (rest : List Token)
    (within : Count.saturate (Token.exactTotal (run.reverse ++ chunk)) ≤ budget.limit) :
    budget.chunksBehind chunk (run ++ rest) = budget.chunksBehind (run.reverse ++ chunk) rest := by
  induction run generalizing chunk with
  | nil => rfl
  | cons token run ih =>
    rw [List.reverse_cons, List.append_assoc, List.singleton_append] at within ⊢
    have first := within_of_sublist (List.sublist_append_right run.reverse (token :: chunk)) within
    rw [List.cons_append, chunksBehind_fitting _ first, ih within]

/-- A run within the budget is cut at most once: behind the cut it starts a chunk of its own. -/
theorem chunksBehind_run (nonempty : chunk ≠ [])
    (within : Count.saturate (Token.exactTotal run) ≤ budget.limit) :
    (∃ later ≠ [], ∀ rest,
      budget.chunksBehind chunk (run ++ rest) = budget.chunksBehind later rest) ∨
    (∃ done, ∃ later ≠ [], ∀ rest, budget.chunksBehind chunk (run ++ rest) =
      (budget.chunksBehind later rest).map (done :: ·)) := by
  induction run generalizing chunk with
  | nil => exact .inl ⟨chunk, nonempty, fun _ => rfl⟩
  | cons token run ih =>
    rcases Nat.lt_or_ge budget.limit (Count.saturate (Token.exactTotal (token :: chunk))) with
      full | fits
    · -- The cut is in front of this token, and the rest of the run fits the chunk that it begins.
      have first := arrangementCount_le_of_mem within token List.mem_cons_self
      have behind : Count.saturate (Token.exactTotal (run.reverse ++ [token])) ≤ budget.limit := by
        rwa [← List.reverse_cons, Token.exactTotal_reverse]
      refine .inr ⟨chunk.reverse, run.reverse ++ [token], by simp, fun rest => ?_⟩
      rw [List.cons_append, chunksBehind_full _ nonempty first full, chunksBehind_append _ behind]
    · have others := within_of_sublist (List.sublist_cons_self token run) within
      have step (rest : List Token) := chunksBehind_fitting (run ++ rest) fits
      rcases ih (List.cons_ne_nil token chunk) others with
        ⟨later, filled, uncut⟩ | ⟨done, later, filled, cut⟩
      · exact .inl ⟨later, filled, fun rest => (step rest).trans (uncut rest)⟩
      · exact .inr ⟨done, later, filled, fun rest => (step rest).trans (cut rest)⟩

/-- Behind an open chunk there is at most one more chunk than another partition has parts. -/
theorem length_le_of_chunksBehind {parts chunks : List (List Token)} (nonempty : chunk ≠ [])
    (allowed : ∀ part ∈ parts, budget.Allows part)
    (cut : budget.chunksBehind chunk parts.flatten = .ok chunks) :
    chunks.length ≤ parts.length + 1 := by
  induction parts generalizing chunk chunks with
  | nil =>
    have last : chunks = [chunk.reverse] := by
      simpa [chunksBehind, chunksFrom, nonempty] using cut.symm
    simp [last]
  | cons part parts ih =>
    obtain ⟨first, others⟩ := List.forall_mem_cons.mp allowed
    rw [List.flatten_cons] at cut
    rcases chunksBehind_run nonempty first.within with
      ⟨later, filled, uncut⟩ | ⟨done, later, filled, once⟩
    · rw [uncut] at cut
      exact Nat.le_succ_of_le (ih filled others cut)
    · rw [once] at cut
      cases remaining : budget.chunksBehind later parts.flatten with
      | error _ => simp [remaining, Except.map] at cut
      | ok behind =>
        have same : done :: behind = chunks := by simpa [remaining, Except.map] using cut
        have bound := ih filled others remaining
        rw [← same, List.length_cons, List.length_cons]
        exact Nat.succ_le_succ bound

/-- No partition into runs within the budget has fewer parts. -/
theorem length_chunks_le {parts chunks : List (List Token)}
    (allowed : ∀ part ∈ parts, budget.Allows part)
    (cut : budget.chunks parts.flatten = .ok chunks) : chunks.length ≤ parts.length := by
  cases parts with
  | nil =>
    have none : chunks = [] := by simpa [Budget.chunks, chunksFrom] using cut.symm
    simp [none]
  | cons part parts =>
    obtain ⟨first, others⟩ := List.forall_mem_cons.mp allowed
    have start : budget.chunks (part ++ parts.flatten) =
        budget.chunksBehind part.reverse parts.flatten := by
      have within : Count.saturate (Token.exactTotal (part.reverse ++ [])) ≤ budget.limit := by
        rw [List.append_nil, Token.exactTotal_reverse]
        exact first.within
      have whole := chunksBehind_append parts.flatten within
      rwa [List.append_nil] at whole
    rw [List.flatten_cons, start] at cut
    exact length_le_of_chunksBehind (by simpa using first.nonempty) others cut

theorem allows_iff {part : List Token} :
    budget.Allows part ↔
      part ≠ [] ∧ Count.product (part.map Token.arrangementCount) ≤ budget.limit := by
  rw [Token.product_arrangementCount]
  exact ⟨fun allowed => ⟨allowed.nonempty, allowed.within⟩, fun ⟨nonempty, within⟩ => ⟨nonempty, within⟩⟩

theorem chunks_fails_iff (budget : Budget) (tokens : List Token) :
    (∃ error, budget.chunks tokens = .error error) ↔
      ∃ token ∈ tokens, budget.limit < Token.arrangementCount token := by
  constructor
  · rintro ⟨error, failed⟩
    by_contra none
    have fits : ∀ token ∈ tokens, Token.arrangementCount token ≤ budget.limit := by
      simpa using none
    obtain ⟨chunks, cut, -⟩ := chunks_partition fits
    simp [cut] at failed
  · rintro ⟨token, member, exceeds⟩
    rcases fits_or_first_exceeding budget tokens with
      fits | ⟨fitting, first, rest, rfl, before, exceeding⟩
    · exact absurd exceeds (Nat.not_lt.mpr (fits token member))
    · exact ⟨_, chunksFrom_of_first_exceeding before exceeding 1⟩

theorem chunks_error {tokens : List Token} {error : ConfigurationError}
    (failed : budget.chunks tokens = .error error) :
    ∃ fitting token rest, tokens = fitting ++ token :: rest ∧
      (∀ earlier ∈ fitting, Token.arrangementCount earlier ≤ budget.limit) ∧
      budget.limit < Token.arrangementCount token ∧
      error = .budgetExceeded (Token.arrangementCount token) budget.limit
        (Token.serialize token) := by
  rcases fits_or_first_exceeding budget tokens with
    fits | ⟨fitting, token, rest, rfl, before, exceeds⟩
  · obtain ⟨chunks, cut, -⟩ := chunks_partition fits
    simp [cut] at failed
  · have named := failed.symm.trans (chunksFrom_of_first_exceeding before exceeds 1)
    exact ⟨fitting, token, rest, rfl, before, exceeds, Except.error.inj named⟩

/-- Cutting fails exactly if some token fits no chunk, and then names the first of them. Otherwise
the chunks are non-empty runs that make up the tokens in order, each within the budget, and no other
such partition has fewer parts. Below the largest count the serializations of a chunk are as many as
its exact number says. -/
theorem chunks_first_exceeding_or_fewest (budget : Budget) (tokens : List Token) :
    ((∃ error, budget.chunks tokens = .error error) ↔
      ∃ token ∈ tokens, budget.limit < Token.arrangementCount token) ∧
    (∀ error, budget.chunks tokens = .error error →
      ∃ fitting token rest, tokens = fitting ++ token :: rest ∧
        (∀ earlier ∈ fitting, Token.arrangementCount earlier ≤ budget.limit) ∧
        budget.limit < Token.arrangementCount token ∧
        error = .budgetExceeded (Token.arrangementCount token) budget.limit
          (Token.serialize token)) ∧
    (∀ chunks, budget.chunks tokens = .ok chunks →
      chunks.flatten = tokens ∧
      (∀ chunk ∈ chunks, chunk ≠ [] ∧
        Count.product (chunk.map Token.arrangementCount) ≤ budget.limit ∧
        (budget.limit < Count.largest → Token.exactTotal chunk ≤ budget.limit ∧
          (Serializations.ofTokens chunk).total = Token.exactTotal chunk)) ∧
      ∀ parts : List (List Token), parts.flatten = tokens →
        (∀ part ∈ parts, part ≠ [] ∧
          Count.product (part.map Token.arrangementCount) ≤ budget.limit) →
        chunks.length ≤ parts.length) := by
  refine ⟨chunks_fails_iff budget tokens, fun error => chunks_error, fun chunks cut => ?_⟩
  obtain ⟨same, allowed⟩ := partition_of_chunks cut
  refine ⟨same, fun chunk member => ?_, fun parts whole each => ?_⟩
  · have isAllowed := allowed chunk member
    obtain ⟨nonempty, within⟩ := allows_iff.mp isAllowed
    refine ⟨nonempty, within, fun small => ⟨Count.le_of_saturate_lt isAllowed.within small, ?_⟩⟩
    rw [Serializations.ofTokens, Serializations.total_eq nonempty,
      Count.saturate_of_le (isAllowed.exactTotal_le small)]
  · rw [← whole] at cut
    exact length_chunks_le (fun part member => allows_iff.mpr (each part member)) cut

/-- An amount of money, whose three fields have six orders. -/
def moneyToken : Token :=
  [.nested "tokens".toList [.nested "money".toList [
    .leaf "integer_part".toList "3".toList, .leaf "currency".toList "$".toList,
    .leaf "fractional_part".toList "50".toList]]]

/-- A word, which has one order. -/
def wordToken : Token := [.nested "tokens".toList [.leaf "name".toList "and".toList]]

/-- Two amounts and a word make two chunks, and one is not enough. A budget of five allows no amount,
and the first one is named. -/
theorem chunks_first_exceeding_or_fewest_money :
    (∀ parts : List (List Token), parts.flatten = [moneyToken, wordToken, moneyToken] →
      (∀ part ∈ parts, part ≠ [] ∧ Count.product (part.map Token.arrangementCount) ≤ 12) →
        2 ≤ parts.length) ∧
    ∃ error, (⟨5, by decide⟩ : Budget).chunks [wordToken, moneyToken] = .error error := by
  have cut : (⟨12, by decide⟩ : Budget).chunks [moneyToken, wordToken, moneyToken] =
      .ok [[moneyToken, wordToken], [moneyToken]] := rfl
  refine ⟨((chunks_first_exceeding_or_fewest ⟨12, by decide⟩ _).2.2 _ cut).2.2, ?_⟩
  exact (chunks_first_exceeding_or_fewest ⟨5, by decide⟩ _).1.mpr ⟨moneyToken, by simp, by decide⟩

end SpokenForm.Budget
