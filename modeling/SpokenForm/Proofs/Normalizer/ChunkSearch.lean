import SpokenForm.Proofs.Normalizer.Compositional

/-! The search for a verbalization, chunk by chunk. The texts that the verbalizer is given are the
serializations of a chunk up to the first one that is not passed over, so they stay within the
budget, and none of them is left when a chunk is exhausted. -/
namespace SpokenForm

namespace Grammar

/-- The grammar answers a text, and there is no path. -/
def PassesOver (grammar : Grammar Weight) (text : Text) : Prop :=
  ∃ lattice, grammar text 1 = .ok lattice ∧ lattice.isEmpty = true

/-- What becomes of a chunk whose serializations are `texts`, and those that are tried. The first
one that is not passed over settles it. -/
inductive Settles (verbalizer : Grammar Weight) (chunk : List Token) (texts : List Text) :
    List Text → Except NormalizationError Text → Prop where
  | exhausted (silent : ∀ text ∈ texts, verbalizer.PassesOver text) :
    Settles verbalizer chunk texts texts (.error (.exhausted (Token.serializeAll chunk)))
  | refused {front back : List Text} {serialized : Text} {cause : GrammarError}
    (split : texts = front ++ serialized :: back)
    (silent : ∀ text ∈ front, verbalizer.PassesOver text)
    (failed : verbalizer serialized 1 = .error cause) :
    Settles verbalizer chunk texts (front ++ [serialized]) (.error (.verbalization serialized cause))
  | answered {front back : List Text} {serialized best : Text} {lattice : Lattice Weight}
    (split : texts = front ++ serialized :: back)
    (silent : ∀ text ∈ front, verbalizer.PassesOver text)
    (found : verbalizer serialized 1 = .ok lattice) (shortest : lattice.shortest? = some best) :
    Settles verbalizer chunk texts (front ++ [serialized]) (.ok best)

section

variable {verbalizer : Grammar Weight} {chunk : List Token} {texts tried : List Text}
  {outcome : Except NormalizationError Text}

theorem Settles.behind {text : Text} (silent : verbalizer.PassesOver text)
    (settles : verbalizer.Settles chunk texts tried outcome) :
    verbalizer.Settles chunk (text :: texts) (text :: tried) outcome := by
  cases settles with
  | exhausted others => exact .exhausted (List.forall_mem_cons.mpr ⟨silent, others⟩)
  | refused split others failed =>
    exact .refused (by rw [split, List.cons_append])
      (List.forall_mem_cons.mpr ⟨silent, others⟩) failed
  | answered split others found shortest =>
    exact .answered (by rw [split, List.cons_append])
      (List.forall_mem_cons.mpr ⟨silent, others⟩) found shortest

theorem Settles.tried_begins (settles : verbalizer.Settles chunk texts tried outcome) :
    tried <+: texts := by
  cases settles with
  | exhausted _ => exact List.prefix_rfl
  | refused split _ _ => exact ⟨_, by rw [split, List.append_assoc]; rfl⟩
  | answered split _ _ _ => exact ⟨_, by rw [split, List.append_assoc]; rfl⟩

theorem Settles.eq_of_exhausted {text : Text}
    (settles : verbalizer.Settles chunk texts tried (.error (.exhausted text))) : tried = texts := by
  cases settles
  rfl

end

end Grammar

namespace Normalizer

open Grammar Serializations TaggedText

/-- The search for an answer among `count` serializations, with the texts that it gives to the
verbalizer. -/
def recordedAnswer? (verbalizer : Grammar Weight) :
    (count : Nat) → Serializations → List Text × Except NormalizationError (Option Text)
  | 0, _ => ([], .ok none)
  | count + 1, run =>
    match run.next? with
    | none => ([], .ok none)
    | some (serialized, later) =>
      match verbalizer serialized 1 with
      | .error cause => ([serialized], .error (.verbalization serialized cause))
      | .ok lattice =>
        match lattice.shortest? with
        | some best => ([serialized], .ok (some best))
        | none =>
          let (others, answer) := recordedAnswer? verbalizer count later
          (serialized :: others, answer)

/-- The texts that are given to the verbalizer for a chunk, in order. -/
def tried (verbalizer : Grammar Weight) (chunk : List Token) : List Text :=
  (recordedAnswer? verbalizer (ofTokens chunk).total (ofTokens chunk)).1

/-- What the answer to the first accepted serialization means for a chunk. -/
def settled (chunk : List Token) :
    Except NormalizationError (Option Text) → Except NormalizationError Text
  | .error fault => .error fault
  | .ok none => .error (.exhausted (Token.serializeAll chunk))
  | .ok (some best) => .ok best

/-- Keeping a record does not change the answer. -/
theorem recordedAnswer?_snd (verbalizer : Grammar Weight) (count : Nat) (run : Serializations) :
    (recordedAnswer? verbalizer count run).2 = firstAnswer? verbalizer count run := by
  induction count generalizing run with
  | zero => rfl
  | succ count ih =>
    rw [recordedAnswer?, firstAnswer?]
    cases run.next? with
    | none => rfl
    | some pair =>
      obtain ⟨serialized, later⟩ := pair
      simp only
      cases verbalizer serialized 1 with
      | error cause => rfl
      | ok lattice =>
        simp only
        cases lattice.shortest? with
        | some best => rfl
        | none => exact ih later

/-- The answer depends on the texts of the record only. -/
theorem recordedAnswer?_congr {verbalizer other : Grammar Weight} {count : Nat}
    {run : Serializations}
    (same : ∀ text ∈ (recordedAnswer? verbalizer count run).1, other text 1 = verbalizer text 1) :
    recordedAnswer? other count run = recordedAnswer? verbalizer count run := by
  induction count generalizing run with
  | zero => rfl
  | succ count ih =>
    rw [recordedAnswer?] at same
    rw [recordedAnswer?, recordedAnswer?]
    cases next : run.next? with
    | none => rfl
    | some pair =>
      obtain ⟨serialized, later⟩ := pair
      simp only [next] at same ⊢
      cases answer : verbalizer serialized 1 with
      | error cause =>
        simp only [answer, List.mem_singleton, forall_eq] at same
        simp only [same]
      | ok lattice =>
        cases best : lattice.shortest? with
        | some text =>
          simp only [answer, best, List.mem_singleton, forall_eq] at same
          simp only [same, best]
        | none =>
          simp only [answer, best, List.forall_mem_cons] at same
          simp only [same.1, best, ih same.2]

variable {normalizer : Normalizer} {chunk : List Token} {outcome : Except NormalizationError Text}

theorem verbalizeChunk_eq_settled (normalizer : Normalizer) (chunk : List Token) :
    normalizer.verbalizeChunk chunk = settled chunk
      (firstAnswer? normalizer.grammars.verbalizer (ofTokens chunk).total (ofTokens chunk)) := by
  rw [verbalizeChunk]
  cases firstAnswer? normalizer.grammars.verbalizer (ofTokens chunk).total (ofTokens chunk) with
  | error _ => rfl
  | ok answer? => cases answer? <;> rfl

/-- A verbalizer that gives the same answers where it is asked verbalizes a chunk alike. -/
theorem verbalizeChunk_congr {other : Normalizer}
    (same : ∀ text ∈ tried normalizer.grammars.verbalizer chunk,
      other.grammars.verbalizer text 1 = normalizer.grammars.verbalizer text 1) :
    other.verbalizeChunk chunk = normalizer.verbalizeChunk chunk := by
  rw [verbalizeChunk_eq_settled, verbalizeChunk_eq_settled, ← recordedAnswer?_snd,
    recordedAnswer?_congr same, recordedAnswer?_snd]

/-- One step of the search settles the chunk or passes over a serialization. -/
theorem settles_recordedAnswer? (verbalizer : Grammar Weight) (chunk : List Token)
    {run : Serializations} {texts : List Text} (yields : run.Yields texts) {count : Nat}
    (enough : texts.length ≤ count) :
    verbalizer.Settles chunk texts (recordedAnswer? verbalizer count run).1
      (settled chunk (recordedAnswer? verbalizer count run).2) := by
  induction yields generalizing count with
  | ended last =>
    have silent : ∀ text ∈ [], verbalizer.PassesOver text := by simp
    cases count with
    | zero => exact .exhausted silent
    | succ count =>
      rw [recordedAnswer?, last]
      exact .exhausted silent
  | @item run later text texts next _ ih =>
    have silent : ∀ text ∈ [], verbalizer.PassesOver text := by simp
    cases count with
    | zero => simp at enough
    | succ count =>
      simp only [recordedAnswer?, next]
      cases answer : verbalizer text 1 with
      | error cause => exact .refused (List.nil_append _).symm silent answer
      | ok lattice =>
        simp only
        cases best : lattice.shortest? with
        | some path => exact .answered (List.nil_append _).symm silent answer best
        | none =>
          have none : lattice.isEmpty = true := by
            simpa [Lattice.shortest?, Lattice.isEmpty] using best
          exact (ih (Nat.le_of_succ_le_succ enough)).behind ⟨lattice, answer, none⟩

theorem firstResponse_append {verbalizer : Grammar Weight} {front : List Text} (back : List Text)
    (silent : ∀ text ∈ front, verbalizer.PassesOver text) :
    firstResponse verbalizer (front ++ back) = firstResponse verbalizer back := by
  induction front with
  | nil => rfl
  | cons text front ih =>
    obtain ⟨⟨lattice, answer, empty⟩, others⟩ := List.forall_mem_cons.mp silent
    have none : lattice.shortest? = none := by
      simpa [Lattice.shortest?, Lattice.isEmpty] using empty
    rw [List.cons_append, firstResponse, answer]
    simp only [none]
    exact ih others

theorem settled_firstResponse {verbalizer : Grammar Weight} {texts asked : List Text}
    (settles : verbalizer.Settles chunk texts asked outcome) :
    settled chunk (firstResponse verbalizer texts) = outcome := by
  cases settles with
  | exhausted silent =>
    have nothing := firstResponse_append [] silent
    rw [List.append_nil] at nothing
    rw [nothing]
    rfl
  | refused split silent failed =>
    rw [split, firstResponse_append _ silent, firstResponse, failed]
    rfl
  | answered split silent found shortest =>
    rw [split, firstResponse_append _ silent, firstResponse, found]
    simp only [shortest]
    rfl

/-- The serializations of a chunk, tried in order, settle what becomes of it. -/
def Concludes (normalizer : Normalizer) (chunk : List Token)
    (outcome : Except NormalizationError Text) : Prop :=
  ∃ texts, (ofTokens chunk).Yields texts ∧
    normalizer.grammars.verbalizer.Settles chunk texts
      (tried normalizer.grammars.verbalizer chunk) outcome

theorem verbalizeChunk_eq_iff :
    normalizer.verbalizeChunk chunk = outcome ↔ normalizer.Concludes chunk outcome := by
  have enough {texts : List Text} (yields : (ofTokens chunk).Yields texts) :
      texts.length ≤ (ofTokens chunk).total := by
    rw [yields.length_eq]
    exact Nat.sub_le ..
  rw [verbalizeChunk_eq_settled]
  constructor
  · rintro rfl
    have yields := yields_from (ofTokens chunk)
    have settles := settles_recordedAnswer? normalizer.grammars.verbalizer chunk yields (enough yields)
    rw [recordedAnswer?_snd] at settles
    exact ⟨_, yields, settles⟩
  · rintro ⟨texts, yields, settles⟩
    rw [firstAnswer?_of_yields _ yields (enough yields), settled_firstResponse settles]

/-- What becomes of a run of chunks. The first chunk that fails settles the failure; if there is none
the texts of the chunks are put together. -/
inductive ChunksDecide (normalizer : Normalizer) (chunks : List (List Token)) :
    Except NormalizationError (Text × Nat) → Prop where
  | verbalized {texts : List Text}
    (each : List.Forall₂ (fun chunk text => normalizer.Concludes chunk (.ok text)) chunks texts) :
    ChunksDecide normalizer chunks
      (.ok (Punctuation.collapseSpaces (Text.joinSpaced texts), chunks.length))
  | failed {done later : List (List Token)} {broken : List Token} {texts : List Text}
    {fault : NormalizationError} (split : chunks = done ++ broken :: later)
    (each : List.Forall₂ (fun chunk text => normalizer.Concludes chunk (.ok text)) done texts)
    (first : normalizer.Concludes broken (.error fault)) :
    ChunksDecide normalizer chunks (.error fault)

theorem chunksDecide_iff {chunks : List (List Token)}
    {outcome : Except NormalizationError (Text × Nat)} :
    (normalizer.verbalizeChunks chunks).bind (fun texts =>
      .ok (Punctuation.collapseSpaces (Text.joinSpaced texts), chunks.length)) = outcome ↔
      normalizer.ChunksDecide chunks outcome := by
  constructor
  · rintro rfl
    cases verbalized : normalizer.verbalizeChunks chunks with
    | ok texts =>
      have each := verbalizeChunks_eq_ok_iff.mp verbalized
      simp only [verbalizeChunk_eq_iff] at each
      exact .verbalized each
    | error fault =>
      obtain ⟨done, broken, later, texts, split, each, first⟩ :=
        verbalizeChunks_eq_error_iff.mp verbalized
      simp only [verbalizeChunk_eq_iff] at each first
      exact .failed split each first
  · intro decides
    cases decides with
    | verbalized each =>
      simp only [← verbalizeChunk_eq_iff] at each
      rw [verbalizeChunks_eq_ok_iff.mpr each, Except.bind]
    | failed split each first =>
      simp only [← verbalizeChunk_eq_iff] at each first
      rw [verbalizeChunks_eq_error_iff.mpr ⟨_, _, _, _, split, each, first⟩, Except.bind]

theorem tried_begins {texts : List Text} (yields : (ofTokens chunk).Yields texts) :
    tried normalizer.grammars.verbalizer chunk <+: texts := by
  obtain ⟨others, alike, settles⟩ := verbalizeChunk_eq_iff.mp (rfl : normalizer.verbalizeChunk chunk = _)
  rw [yields.unique alike]
  exact settles.tried_begins

theorem length_tried_le (normalizer : Normalizer) (allowed : normalizer.budget.Allows chunk) :
    (tried normalizer.grammars.verbalizer chunk).length ≤ normalizer.budget.limit := by
  have yields := yields_from (ofTokens chunk)
  calc
    (tried normalizer.grammars.verbalizer chunk).length ≤ (ofTokens chunk).remaining :=
      yields.length_eq ▸ (tried_begins yields).length_le
    _ ≤ (ofTokens chunk).total := Nat.sub_le ..
    _ = Count.saturate (Token.exactTotal chunk) := total_eq allowed.nonempty 0
    _ ≤ normalizer.budget.limit := allowed.within

/-- Below the largest count no choice of orders is left when a chunk is exhausted. -/
theorem mem_tried_of_exhausted (allowed : normalizer.budget.Allows chunk)
    (small : normalizer.budget.limit < Count.largest) {text : Text}
    (exhausted : normalizer.Concludes chunk (.error (.exhausted text))) {arranged : List Token}
    (member : arranged ∈ Token.choicesAll List.permutations chunk) :
    Token.serializeAll arranged ∈ tried normalizer.grammars.verbalizer chunk := by
  obtain ⟨texts, yields, settles⟩ := exhausted
  have all := yields_all allowed.nonempty (allowed.exactTotal_le small)
  rw [settles.eq_of_exhausted, yields.unique all]
  exact List.mem_map_of_mem ((Token.choicesAll_perm orders_perm_permutations chunk).mem_iff.mpr member)

/-- If tokens are cut into chunks, each chunk is settled by the first of its serializations that the
verbalizer does not pass over, and the text by its chunks; where there are no tokens the tagged text is
exhausted. What the verbalizer answers to other texts is of no account. It is given no more of them than
the budget allows, and each of them before a chunk is exhausted. -/
theorem verbalize_decided_by_chunks (normalizer : Normalizer) {tagged : Text} {tokens : List Token}
    {chunks : List (List Token)} (parsed : parse tagged = .ok tokens)
    (cut : normalizer.budget.chunks tokens = .ok chunks) :
    (tokens ≠ [] →
      ∀ outcome, normalizer.verbalize tagged = outcome ↔ normalizer.ChunksDecide chunks outcome) ∧
    (tokens = [] → normalizer.verbalize tagged = .error (.exhausted tagged)) ∧
    ∀ chunk ∈ chunks,
      (∀ other : Normalizer, (∀ text ∈ tried normalizer.grammars.verbalizer chunk,
          other.grammars.verbalizer text 1 = normalizer.grammars.verbalizer text 1) →
        other.verbalizeChunk chunk = normalizer.verbalizeChunk chunk) ∧
      (tried normalizer.grammars.verbalizer chunk).length ≤ normalizer.budget.limit ∧
      (normalizer.budget.limit < Count.largest →
        ∀ text, normalizer.Concludes chunk (.error (.exhausted text)) →
          ∀ arranged ∈ Token.choicesAll List.permutations chunk,
            Token.serializeAll arranged ∈ tried normalizer.grammars.verbalizer chunk) := by
  refine ⟨fun nonempty outcome => ?_, ?_, fun chunk member => ?_⟩
  · rw [verbalize_eq_bind parsed nonempty cut, chunksDecide_iff]
  · rintro rfl
    exact verbalize_nil parsed
  · have allowed := (Budget.partition_of_chunks cut).2 chunk member
    refine ⟨fun other same => verbalizeChunk_congr same, length_tried_le normalizer allowed, ?_⟩
    intro small text exhausted arranged
    exact mem_tried_of_exhausted allowed small exhausted

/-- Two measures are read in two chunks. A date behind a measure is not read, after all four orders
of their fields. -/
theorem verbalize_decided_by_chunks_measures :
    (measures ⟨4, by decide⟩).ChunksDecide [[decimalMeasure], [decimalMeasure]]
      (.ok ("m 1.5 m 1.5".toList, 2)) ∧
    (tried (measures ⟨4, by decide⟩).grammars.verbalizer [decimalMeasure, listedDate]).length ≤ 4 ∧
    ∀ arranged ∈ Token.choicesAll List.permutations [decimalMeasure, listedDate],
      Token.serializeAll arranged ∈
        tried (measures ⟨4, by decide⟩).grammars.verbalizer [decimalMeasure, listedDate] := by
  have parsed : parse (Token.serializeAll [decimalMeasure, decimalMeasure]) =
      .ok [decimalMeasure, decimalMeasure] :=
    parse_serializeAll (exists_parse_of_subset (by simp) ⟨_, parse_measure_date⟩)
  have cut : (measures ⟨4, by decide⟩).budget.chunks [decimalMeasure, decimalMeasure] =
      .ok [[decimalMeasure], [decimalMeasure]] := rfl
  have whole : (measures ⟨4, by decide⟩).budget.chunks [decimalMeasure, listedDate] =
      .ok [[decimalMeasure, listedDate]] := rfl
  obtain ⟨decided, -⟩ :=
    verbalize_decided_by_chunks (measures ⟨4, by decide⟩) parsed cut
  obtain ⟨-, -, bounds⟩ :=
    verbalize_decided_by_chunks (measures ⟨4, by decide⟩) parse_measure_date whole
  obtain ⟨-, few, complete⟩ := bounds [decimalMeasure, listedDate] (by simp)
  have exhausted : (measures ⟨4, by decide⟩).Concludes [decimalMeasure, listedDate]
      (.error (.exhausted (Token.serializeAll [decimalMeasure, listedDate]))) :=
    verbalizeChunk_eq_iff.mp (by decide +kernel)
  exact ⟨(decided (by simp) _).mp (by decide +kernel), few, complete (by decide) _ exhausted⟩

/-- A tagged text without tokens has no chunks, yet it is exhausted. -/
theorem verbalize_undecided_without_tokens :
    ¬ ∀ (normalizer : Normalizer) (tagged : Text) (tokens : List Token)
      (chunks : List (List Token)), parse tagged = .ok tokens →
      normalizer.budget.chunks tokens = .ok chunks →
      ∀ outcome, normalizer.verbalize tagged = outcome ↔ normalizer.ChunksDecide chunks outcome := by
  intro decided
  have blank := (decided (measures .standard) [] [] [] rfl rfl (.ok ([], 0))).mpr (.verbalized .nil)
  have exhausted : (measures .standard).verbalize [] = .error (.exhausted []) := rfl
  cases exhausted.symm.trans blank

end Normalizer

end SpokenForm
