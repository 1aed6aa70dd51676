import SpokenForm.Normalizer
import SpokenForm.Proofs.Token.ChunkPartition
import SpokenForm.Proofs.Token.SerializationEnumeration

/-! Verbalization with a grammar that never fails. The answer for a chunk is that to the first
combination of arrangements that has one; a text is answered if each of its chunks is. -/
namespace SpokenForm

/-- The best output of a grammar for a text; none if there is no path or the grammar fails. -/
def Grammar.answer? (grammar : Grammar Weight) (text : Text) : Option Text :=
  match grammar text 1 with
  | .error _ => none
  | .ok lattice => lattice.shortest?

/-- The grammar answers every text, if only with no path. -/
def Grammar.NeverFails (grammar : Grammar Weight) : Prop :=
  ∀ text, ∃ lattice, grammar text 1 = .ok lattice

/-- The answer to the first accepted combination of arrangements of a chunk. -/
def Grammar.chunkAnswer? (verbalizer : Grammar Weight) (chunk : List Token) : Option Text :=
  (Token.choicesAll orders chunk).findSome? fun arranged =>
    verbalizer.answer? (Token.serializeAll arranged)

namespace Normalizer

/-- The search stops at the first failure or answer. -/
def firstResponse (verbalizer : Grammar Weight) : List Text → Except NormalizationError (Option Text)
  | [] => .ok none
  | text :: rest =>
    match verbalizer text 1 with
    | .error cause => .error (.verbalization text cause)
    | .ok lattice =>
      match lattice.shortest? with
      | some best => .ok (some best)
      | none => firstResponse verbalizer rest

/-- The search through a run responds as a search through all that the run yields. -/
theorem firstAnswer?_of_yields (verbalizer : Grammar Weight) {run : Serializations}
    {texts : List Text} (yields : run.Yields texts) {count : Nat} (enough : texts.length ≤ count) :
    firstAnswer? verbalizer count run = firstResponse verbalizer texts := by
  induction yields generalizing count with
  | ended exhausted =>
    cases count with
    | zero => rfl
    | succ count => simp [firstAnswer?, exhausted, firstResponse]
  | @item run later text texts next _ ih =>
    cases count with
    | zero => simp at enough
    | succ count =>
      simp only [firstAnswer?, next, firstResponse]
      cases verbalizer text 1 with
      | error _ => rfl
      | ok lattice =>
        simp only
        cases lattice.shortest? with
        | some _ => rfl
        | none => exact ih (Nat.le_of_succ_le_succ enough)

theorem firstResponse_of_neverFails {verbalizer : Grammar Weight}
    (neverFails : verbalizer.NeverFails) (texts : List Text) :
    firstResponse verbalizer texts = .ok (texts.findSome? verbalizer.answer?) := by
  induction texts with
  | nil => rfl
  | cons text texts ih =>
    obtain ⟨lattice, answered⟩ := neverFails text
    simp only [firstResponse, answered, List.findSome?_cons, Grammar.answer?]
    cases lattice.shortest? with
    | some best => rfl
    | none => exact ih

variable {normalizer : Normalizer}

theorem verbalizeChunks_cons (chunk : List Token) (chunks : List (List Token)) :
    normalizer.verbalizeChunks (chunk :: chunks) =
      (normalizer.verbalizeChunk chunk).bind fun text =>
        (normalizer.verbalizeChunks chunks).map (text :: ·) := rfl

/-- Chunks are verbalized if each of them is. -/
theorem verbalizeChunks_eq_ok_iff {chunks : List (List Token)} {texts : List Text} :
    normalizer.verbalizeChunks chunks = .ok texts ↔
      List.Forall₂ (fun chunk text => normalizer.verbalizeChunk chunk = .ok text) chunks texts := by
  induction chunks generalizing texts with
  | nil => simp [verbalizeChunks, eq_comm]
  | cons chunk chunks ih =>
    rw [verbalizeChunks_cons, List.forall₂_cons_left_iff]
    cases normalizer.verbalizeChunk chunk with
    | error fault => simp [Except.bind]
    | ok text =>
      simp only [Except.bind, ← ih, Except.ok.injEq]
      cases normalizer.verbalizeChunks chunks with
      | error fault => simp [Except.map]
      | ok others => simp [Except.map, eq_comm]

/-- The first chunk that cannot be verbalized settles how all of them fail. -/
theorem verbalizeChunks_eq_error_iff {chunks : List (List Token)} {fault : NormalizationError} :
    normalizer.verbalizeChunks chunks = .error fault ↔
      ∃ done broken later texts, chunks = done ++ broken :: later ∧
        List.Forall₂ (fun chunk text => normalizer.verbalizeChunk chunk = .ok text) done texts ∧
        normalizer.verbalizeChunk broken = .error fault := by
  constructor
  · intro failed
    induction chunks with
    | nil => cases failed
    | cons chunk chunks ih =>
      rw [verbalizeChunks_cons] at failed
      cases first : normalizer.verbalizeChunk chunk with
      | error refused =>
        obtain rfl : refused = fault := by simpa [first, Except.bind] using failed
        exact ⟨[], chunk, chunks, [], rfl, .nil, first⟩
      | ok text =>
        cases others : normalizer.verbalizeChunks chunks with
        | error refused =>
          obtain rfl : refused = fault := by
            simpa [first, others, Except.bind, Except.map] using failed
          obtain ⟨done, broken, later, texts, rfl, each, broke⟩ := ih others
          exact ⟨chunk :: done, broken, later, text :: texts, rfl, .cons first each, broke⟩
        | ok texts => simp [first, others, Except.bind, Except.map] at failed
  · rintro ⟨done, broken, later, texts, rfl, each, broke⟩
    induction each with
    | nil => rw [List.nil_append, verbalizeChunks_cons, broke, Except.bind]
    | cons first _ ih => rw [List.cons_append, verbalizeChunks_cons, first, Except.bind, ih, Except.map]

theorem verbalize_nil {tagged : Text} (parsed : TaggedText.parse tagged = .ok []) :
    normalizer.verbalize tagged = .error (.exhausted tagged) := by
  simp [verbalize, parsed, Except.mapError, bind, Except.bind]

theorem verbalize_eq_bind {tagged : Text} {tokens : List Token} {chunks : List (List Token)}
    (parsed : TaggedText.parse tagged = .ok tokens) (nonempty : tokens ≠ [])
    (cut : normalizer.budget.chunks tokens = .ok chunks) :
    normalizer.verbalize tagged = (normalizer.verbalizeChunks chunks).bind fun texts =>
      .ok (Punctuation.collapseSpaces (Text.joinSpaced texts), chunks.length) := by
  simp [verbalize, parsed, nonempty, cut, Except.mapError, bind, Except.bind, pure, Except.pure]

variable (neverFails : normalizer.grammars.verbalizer.NeverFails)
include neverFails

/-- A chunk has an answer or is exhausted. -/
theorem verbalizeChunk_eq {chunk : List Token} (nonempty : chunk ≠ [])
    (fits : Token.exactTotal chunk ≤ Count.largest) :
    normalizer.verbalizeChunk chunk =
      match normalizer.grammars.verbalizer.chunkAnswer? chunk with
      | some text => .ok text
      | none => .error (.exhausted (Token.serializeAll chunk)) := by
  have enough : ((Token.choicesAll orders chunk).map Token.serializeAll).length ≤
      (Serializations.ofTokens chunk).total := by
    rw [List.length_map, Token.length_choicesAll, Serializations.ofTokens,
      Serializations.total_eq nonempty, Count.saturate_of_le fits]
  have answered : firstAnswer? normalizer.grammars.verbalizer
      (Serializations.ofTokens chunk).total (Serializations.ofTokens chunk) =
        .ok (normalizer.grammars.verbalizer.chunkAnswer? chunk) := by
    rw [firstAnswer?_of_yields _ (Serializations.yields_all nonempty fits) enough,
      firstResponse_of_neverFails neverFails,
      List.findSome?_map]
    rfl
  rw [verbalizeChunk, answered]
  cases normalizer.grammars.verbalizer.chunkAnswer? chunk <;> rfl

/-- Chunks are verbalized if each has an answer, and one that has none is named otherwise. -/
theorem verbalizeChunks_eq {chunks : List (List Token)}
    (each : ∀ chunk ∈ chunks, chunk ≠ [] ∧ Token.exactTotal chunk ≤ Count.largest) :
    (∃ texts, chunks.mapM normalizer.grammars.verbalizer.chunkAnswer? = some texts ∧
      normalizer.verbalizeChunks chunks = .ok texts) ∨
    (chunks.mapM normalizer.grammars.verbalizer.chunkAnswer? = none ∧ ∃ chunk ∈ chunks,
      normalizer.verbalizeChunks chunks = .error (.exhausted (Token.serializeAll chunk))) := by
  induction chunks with
  | nil => exact .inl ⟨[], rfl, rfl⟩
  | cons chunk chunks ih =>
    obtain ⟨⟨nonempty, fits⟩, others⟩ := List.forall_mem_cons.mp each
    have first := verbalizeChunk_eq neverFails nonempty fits
    cases answered : normalizer.grammars.verbalizer.chunkAnswer? chunk with
    | none =>
      simp only [answered] at first
      refine .inr ⟨by simp [answered], chunk, by simp, ?_⟩
      simp [verbalizeChunks, first, bind, Except.bind]
    | some text =>
      simp only [answered] at first
      rcases ih others with ⟨texts, all, verbalized⟩ | ⟨lacking, exhausted, member, failed⟩
      · refine .inl ⟨text :: texts, by simp [answered, all], ?_⟩
        simp [verbalizeChunks, first, verbalized, bind, Except.bind, pure, Except.pure]
      · refine .inr ⟨by simp [answered, lacking], exhausted, by simp [member], ?_⟩
        simp [verbalizeChunks, first, failed, bind, Except.bind]

/-- A tagged text is verbalized if each of its chunks has an answer, and is exhausted otherwise. -/
theorem verbalize_of_chunks {tagged : Text} {tokens : List Token} {chunks : List (List Token)}
    (small : normalizer.budget.limit < Count.largest) (parsed : TaggedText.parse tagged = .ok tokens)
    (nonempty : tokens ≠ []) (cut : normalizer.budget.chunks tokens = .ok chunks) :
    (∃ texts, chunks.mapM normalizer.grammars.verbalizer.chunkAnswer? = some texts ∧
      normalizer.verbalize tagged =
        .ok (Punctuation.collapseSpaces (Text.joinSpaced texts), chunks.length)) ∨
    (chunks.mapM normalizer.grammars.verbalizer.chunkAnswer? = none ∧ ∃ chunk ∈ chunks,
      normalizer.verbalize tagged = .error (.exhausted (Token.serializeAll chunk))) := by
  have each : ∀ chunk ∈ chunks, chunk ≠ [] ∧ Token.exactTotal chunk ≤ Count.largest := by
    intro chunk member
    have allowed := (Budget.partition_of_chunks cut).2 chunk member
    exact ⟨allowed.nonempty, allowed.exactTotal_le small⟩
  rw [verbalize_eq_bind parsed nonempty cut]
  rcases verbalizeChunks_eq neverFails each with
    ⟨texts, all, verbalized⟩ | ⟨lacking, chunk, member, failed⟩
  · exact .inl ⟨texts, all, by rw [verbalized]; rfl⟩
  · exact .inr ⟨lacking, chunk, member, by rw [failed]; rfl⟩

end Normalizer

end SpokenForm
