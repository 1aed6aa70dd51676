import Mathlib.Data.List.Forall2
import SpokenForm.Proofs.Token.Arrangement
import SpokenForm.Token.Chunks

/-! Chunks partition a token sequence within the budget. The open chunk and its running count are
carried from token to token; the count is that of the chunk, cut off at the largest count. -/
namespace SpokenForm

theorem Token.exactTotal_reverse (tokens : List Token) :
    exactTotal tokens.reverse = exactTotal tokens :=
  ((tokens.reverse_perm).map exactCount).prod_eq

namespace Budget

/-- The open chunk is within the budget, and its running count is its own. -/
structure Open (budget : Budget) (chunk : List Token) (running : Nat) : Prop where
  counted : running = Count.saturate (Token.exactTotal chunk)
  within : running ≤ budget.limit

theorem open_nil (budget : Budget) : budget.Open [] 1 :=
  ⟨by decide, budget.limit_pos⟩

theorem Open.cons {budget : Budget} {chunk : List Token} {running : Nat}
    (isOpen : budget.Open chunk running) {token : Token}
    (within : Count.times running (Token.arrangementCount token) ≤ budget.limit) :
    budget.Open (token :: chunk) (Count.times running (Token.arrangementCount token)) := by
  refine ⟨?_, within⟩
  rw [isOpen.counted, Token.arrangementCount_eq, Count.times_saturate, Token.exactTotal_cons, Nat.mul_comm]

theorem open_singleton {budget : Budget} {token : Token}
    (within : Token.arrangementCount token ≤ budget.limit) :
    budget.Open [token] (Count.times 1 (Token.arrangementCount token)) := by
  apply (open_nil budget).cons
  rwa [Count.times, Nat.one_mul, Token.arrangementCount_eq,
    Count.saturate_of_le (Count.saturate_le _), ← Token.arrangementCount_eq]

/-- A non-empty run of tokens whose count is within the budget. -/
structure Allows (budget : Budget) (chunk : List Token) : Prop where
  nonempty : chunk ≠ []
  within : Count.saturate (Token.exactTotal chunk) ≤ budget.limit

theorem Open.allows {budget : Budget} {chunk : List Token} {running : Nat}
    (isOpen : budget.Open chunk running) (nonempty : chunk ≠ []) : budget.Allows chunk.reverse := by
  refine ⟨by simpa using nonempty, ?_⟩
  rw [Token.exactTotal_reverse, ← isOpen.counted]
  exact isOpen.within

/-! What becomes of the next token: it fits no chunk, it starts a chunk, or it joins the open one. -/

section

variable {budget : Budget} {chunk rest : List Token} {running : Nat} {token : Token}

theorem chunksFrom_exceeding (exceeds : budget.limit < Token.arrangementCount token) :
    budget.chunksFrom chunk running (token :: rest) =
      .error (.budgetExceeded (Token.arrangementCount token) budget.limit (Token.serialize token)) := by
  simp [chunksFrom, exceeds]

variable (fits : Token.arrangementCount token ≤ budget.limit)
include fits

theorem chunksFrom_full (nonempty : chunk ≠ [])
    (full : budget.limit < Count.times running (Token.arrangementCount token)) :
    budget.chunksFrom chunk running (token :: rest) =
      (budget.chunksFrom [token] (Count.times 1 (Token.arrangementCount token)) rest).map
        (chunk.reverse :: ·) := by
  rw [chunksFrom]
  simp only [Nat.not_lt.mpr fits, if_false, full, List.isEmpty_eq_false_iff.mpr nonempty]
  rfl

theorem chunksFrom_fitting
    (room : chunk = [] ∨ Count.times running (Token.arrangementCount token) ≤ budget.limit) :
    budget.chunksFrom chunk running (token :: rest) =
      budget.chunksFrom (token :: chunk) (Count.times running (Token.arrangementCount token)) rest := by
  rw [chunksFrom]
  rcases room with rfl | within
  · simp [Nat.not_lt.mpr fits]
  · simp [Nat.not_lt.mpr fits, Nat.not_lt.mpr within]

end

theorem room_or_full (budget : Budget) (chunk : List Token) (product : Nat) :
    (chunk = [] ∨ product ≤ budget.limit) ∨ (chunk ≠ [] ∧ budget.limit < product) := by
  by_cases empty : chunk = []
  · exact .inl (.inl empty)
  · rcases Nat.lt_or_ge budget.limit product with full | within
    · exact .inr ⟨empty, full⟩
    · exact .inl (.inr within)

/-- Cutting goes on from an open chunk to the end of the tokens, unless one of them fits no chunk. -/
theorem chunksFrom_partition {budget : Budget} {chunk tokens : List Token} {running : Nat}
    (isOpen : budget.Open chunk running)
    (fits : ∀ token ∈ tokens, Token.arrangementCount token ≤ budget.limit) :
    ∃ chunks, budget.chunksFrom chunk running tokens = .ok chunks ∧
      chunks.flatten = chunk.reverse ++ tokens ∧ ∀ run ∈ chunks, budget.Allows run := by
  induction tokens generalizing chunk running with
  | nil =>
    cases chunk with
    | nil => exact ⟨[], rfl, rfl, by simp⟩
    | cons token chunk =>
      exact ⟨[(token :: chunk).reverse], rfl, by simp, by simpa using isOpen.allows (by simp)⟩
  | cons token tokens ih =>
    obtain ⟨first, others⟩ := List.forall_mem_cons.mp fits
    rcases room_or_full budget chunk (Count.times running (Token.arrangementCount token)) with
      room | ⟨nonempty, full⟩
    · have within : Count.times running (Token.arrangementCount token) ≤ budget.limit := by
        rcases room with rfl | within
        · have one : running = 1 := isOpen.counted
          rw [one]
          exact (open_singleton first).within
        · exact within
      obtain ⟨later, success, same, allowed⟩ := ih (isOpen.cons within) others
      exact ⟨later, by rw [chunksFrom_fitting first room, success], by simp [same], allowed⟩
    · obtain ⟨later, success, same, allowed⟩ := ih (open_singleton first) others
      refine ⟨chunk.reverse :: later, ?_, by simp [same], ?_⟩
      · rw [chunksFrom_full first nonempty full, success]
        rfl
      · exact List.forall_mem_cons.mpr ⟨isOpen.allows nonempty, allowed⟩

/-- If every token fits the budget, the chunks are non-empty runs within it that make up the tokens
in order. -/
theorem chunks_partition {budget : Budget} {tokens : List Token}
    (fits : ∀ token ∈ tokens, Token.arrangementCount token ≤ budget.limit) :
    ∃ chunks, budget.chunks tokens = .ok chunks ∧ chunks.flatten = tokens ∧
      ∀ chunk ∈ chunks, budget.Allows chunk :=
  chunksFrom_partition (open_nil budget) fits

/-- Cutting fails if a token fits no chunk. -/
theorem fits_of_chunksFrom {budget : Budget} {chunk tokens : List Token} {running : Nat}
    {chunks : List (List Token)} (cut : budget.chunksFrom chunk running tokens = .ok chunks) :
    ∀ token ∈ tokens, Token.arrangementCount token ≤ budget.limit := by
  induction tokens generalizing chunk running chunks with
  | nil => simp
  | cons token tokens ih =>
    rcases Nat.lt_or_ge budget.limit (Token.arrangementCount token) with exceeds | first
    · simp [chunksFrom_exceeding exceeds] at cut
    · refine List.forall_mem_cons.mpr ⟨first, ?_⟩
      rcases room_or_full budget chunk (Count.times running (Token.arrangementCount token)) with
        room | ⟨nonempty, full⟩
      · rw [chunksFrom_fitting first room] at cut
        exact ih cut
      · rw [chunksFrom_full first nonempty full] at cut
        cases success : budget.chunksFrom [token]
          (Count.times 1 (Token.arrangementCount token)) tokens with
        | error _ => simp [success, Except.map] at cut
        | ok later => exact ih success

theorem partition_of_chunks {budget : Budget} {tokens : List Token} {chunks : List (List Token)}
    (cut : budget.chunks tokens = .ok chunks) :
    chunks.flatten = tokens ∧ ∀ chunk ∈ chunks, budget.Allows chunk := by
  obtain ⟨others, alsoCut, same, allowed⟩ := chunks_partition (fits_of_chunksFrom cut)
  obtain rfl := Except.ok.inj (cut.symm.trans alsoCut)
  exact ⟨same, allowed⟩

/-- A budget below the largest count allows no chunk whose count is cut off. -/
theorem Allows.exactTotal_le {budget : Budget} {chunk : List Token} (allowed : budget.Allows chunk)
    (small : budget.limit < Count.largest) : Token.exactTotal chunk ≤ Count.largest :=
  Nat.le_trans (Count.le_of_saturate_lt allowed.within small) (Nat.le_of_lt small)

/-! Tokens that differ in no count are cut at the same places. -/

section

variable {R : Token → Token → Prop}
  (counts : ∀ first second, R first second →
    Token.arrangementCount first = Token.arrangementCount second)
include counts

theorem chunksFrom_related (budget : Budget) {chunk other tokens others : List Token}
    (isOpen : List.Forall₂ R chunk other) (related : List.Forall₂ R tokens others) (running : Nat) :
    (∃ chunks otherChunks, budget.chunksFrom chunk running tokens = .ok chunks ∧
      budget.chunksFrom other running others = .ok otherChunks ∧
      List.Forall₂ (List.Forall₂ R) chunks otherChunks) ∨
    (∃ estimate text otherText,
      budget.chunksFrom chunk running tokens =
        .error (.budgetExceeded estimate budget.limit text) ∧
      budget.chunksFrom other running others =
        .error (.budgetExceeded estimate budget.limit otherText)) := by
  induction related generalizing chunk other running with
  | nil =>
    cases isOpen with
    | nil => exact .inl ⟨[], [], rfl, rfl, .nil⟩
    | cons head tail =>
      exact .inl ⟨_, _, rfl, rfl, .cons (List.rel_reverse (.cons head tail)) .nil⟩
  | @cons token twin tokens others alike _ ih =>
    have same := counts token twin alike
    rcases Nat.lt_or_ge budget.limit (Token.arrangementCount token) with exceeds | fits
    · have alsoExceeds : budget.limit < Token.arrangementCount twin := same ▸ exceeds
      refine .inr ⟨_, _, Token.serialize twin, chunksFrom_exceeding exceeds, ?_⟩
      rw [chunksFrom_exceeding alsoExceeds, same]
    · have alsoFits : Token.arrangementCount twin ≤ budget.limit := same ▸ fits
      rcases room_or_full budget chunk (Count.times running (Token.arrangementCount token)) with
        room | ⟨nonempty, full⟩
      · have alsoRoom : other = [] ∨
            Count.times running (Token.arrangementCount twin) ≤ budget.limit := by
          rcases room with rfl | within
          · exact .inl (List.forall₂_nil_left_iff.mp isOpen)
          · exact .inr (same ▸ within)
        rw [chunksFrom_fitting fits room, chunksFrom_fitting alsoFits alsoRoom, same]
        exact ih (.cons alike isOpen) _
      · have alsoNonempty : other ≠ [] := by
          rintro rfl
          exact nonempty (List.forall₂_nil_right_iff.mp isOpen)
        rw [chunksFrom_full fits nonempty full, chunksFrom_full alsoFits alsoNonempty (same ▸ full),
          same]
        rcases ih (.cons alike .nil) (Count.times 1 (Token.arrangementCount twin)) with
          ⟨chunks, otherChunks, cut, otherCut, each⟩ | ⟨estimate, text, otherText, failed, otherFailed⟩
        · rw [cut, otherCut]
          exact .inl ⟨_, _, rfl, rfl, .cons (List.rel_reverse isOpen) each⟩
        · rw [failed, otherFailed]
          exact .inr ⟨estimate, text, otherText, rfl, rfl⟩

/-- Sequences of tokens that differ in no count are cut at the same places, or both have a token that
fits no chunk. -/
theorem chunks_related (budget : Budget) {tokens others : List Token}
    (related : List.Forall₂ R tokens others) :
    (∃ chunks otherChunks, budget.chunks tokens = .ok chunks ∧
      budget.chunks others = .ok otherChunks ∧ List.Forall₂ (List.Forall₂ R) chunks otherChunks) ∨
    (∃ estimate text otherText,
      budget.chunks tokens = .error (.budgetExceeded estimate budget.limit text) ∧
      budget.chunks others = .error (.budgetExceeded estimate budget.limit otherText)) :=
  chunksFrom_related counts budget .nil related 1

end

end Budget

end SpokenForm
