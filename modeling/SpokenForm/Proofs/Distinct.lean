import Mathlib.Data.List.Nodup

/-! Distinct items of a list, each where it first occurs. Among entries in some order the distinct keys
stand in the order of the first entries that have them. -/
namespace SpokenForm

variable {α β : Type}

section Items

variable [BEq β] [LawfulBEq β]

theorem eraseDups_filter (keep : β → Bool) :
    (items : List β) → (items.filter keep).eraseDups = items.eraseDups.filter keep
  | [] => rfl
  | item :: items => by
    have shorter : (items.filter fun other => !other == item).length < items.length + 1 :=
      Nat.lt_succ_of_le (List.length_filter_le _ _)
    have ih := eraseDups_filter keep (items.filter fun other => !other == item)
    rw [List.eraseDups_cons, List.filter_cons, List.filter_cons, ← ih, List.filter_filter]
    split
    · rw [List.eraseDups_cons, List.filter_filter]
      simp only [Bool.and_comm]
    · rename_i dropped
      congr 1
      refine List.filter_congr fun other member => ?_
      by_cases same : other = item
      · simp [same, dropped]
      · simp [same]
termination_by items => items.length

theorem eraseDups_cons_eq (item : β) (items : List β) :
    (item :: items).eraseDups = item :: items.eraseDups.filter fun other => !other == item := by
  rw [List.eraseDups_cons, eraseDups_filter]

theorem nodup_eraseDups (items : List β) : items.eraseDups.Nodup := by
  induction items with
  | nil => exact List.nodup_nil
  | cons item items ih =>
    rw [eraseDups_cons_eq, List.nodup_cons]
    refine ⟨?_, ih.filter _⟩
    intro again
    simp at again

theorem eraseDups_of_nodup {items : List β} (nodup : items.Nodup) : items.eraseDups = items := by
  induction items with
  | nil => rfl
  | cons item items ih =>
    obtain ⟨fresh, others⟩ := List.nodup_cons.mp nodup
    rw [eraseDups_cons_eq, ih others]
    congr 1
    rw [List.filter_eq_self]
    intro other member
    simpa using ne_of_mem_of_not_mem member fresh

theorem eraseDups_append_singleton_of_mem {item : β} {items : List β} (known : item ∈ items) :
    (items ++ [item]).eraseDups = items.eraseDups := by
  simp [List.eraseDups_append, List.removeAll, known]

theorem eraseDups_append_singleton_of_not_mem {item : β} {items : List β} (fresh : item ∉ items) :
    (items ++ [item]).eraseDups = items.eraseDups ++ [item] := by
  simp [List.eraseDups_append, List.removeAll, fresh, List.eraseDups_cons]

end Items

/-! Entries with keys. -/

/-- The entry of a key that comes before all others of the key. -/
structure IsFirst (before : α → α → Prop) (key : α → β) (entries : List α) (value : β) (entry : α) :
    Prop where
  listed : entry ∈ entries
  keyed : key entry = value
  ahead : ∀ other ∈ entries, key other = value → other = entry ∨ before entry other

variable {before : α → α → Prop} {key : α → β} {entries : List α} {value : β}

theorem IsFirst.cons {entry other : α} (first : IsFirst before key entries value entry)
    (different : key other ≠ value) : IsFirst before key (other :: entries) value entry := by
  refine ⟨List.mem_cons_of_mem other first.listed, first.keyed, ?_⟩
  intro next member keyed
  rcases List.mem_cons.mp member with same | later
  · exact absurd (same ▸ keyed) different
  · exact first.ahead next later keyed

theorem isFirst_head {entry : α} (ordered : (entry :: entries).Pairwise before) :
    IsFirst before key (entry :: entries) (key entry) entry := by
  refine ⟨List.mem_cons_self, rfl, ?_⟩
  intro other member _
  exact (List.mem_cons.mp member).imp_right ((List.pairwise_cons.mp ordered).1 other)

theorem exists_isFirst (ordered : entries.Pairwise before) (member : value ∈ entries.map key) :
    ∃ entry, IsFirst before key entries value entry := by
  induction entries with
  | nil => cases member
  | cons entry entries ih =>
    by_cases same : key entry = value
    · subst same
      exact ⟨entry, isFirst_head ordered⟩
    · have later := List.mem_of_ne_of_mem (Ne.symm same) member
      obtain ⟨found, first⟩ := ih ordered.of_cons later
      exact ⟨found, first.cons same⟩

/-- Distinct keys stand in the order of their first entries. -/
theorem pairwise_eraseDups [BEq β] [LawfulBEq β] (ordered : entries.Pairwise before) :
    (entries.map key).eraseDups.Pairwise fun value later => ∃ entry laterEntry,
      IsFirst before key entries value entry ∧ IsFirst before key entries later laterEntry ∧
        before entry laterEntry := by
  induction entries with
  | nil => exact .nil
  | cons entry entries ih =>
    have rest := (ih ordered.of_cons).filter fun other => !other == key entry
    rw [List.map_cons, eraseDups_cons_eq]
    refine List.pairwise_cons.mpr ⟨?_, ?_⟩
    · intro later member
      obtain ⟨isKey, different⟩ := List.mem_filter.mp member
      obtain ⟨found, first⟩ := exists_isFirst ordered.of_cons (List.mem_eraseDups.mp isKey)
      have apart : later ≠ key entry := by simpa using different
      exact ⟨entry, found, isFirst_head ordered, first.cons apart.symm,
        (List.pairwise_cons.mp ordered).1 found first.listed⟩
    · refine rest.imp_of_mem ?_
      intro value later isOne isOther both
      obtain ⟨found, laterFound, first, laterFirst, less⟩ := both
      have apart : value ≠ key entry := by simpa using (List.mem_filter.mp isOne).2
      have laterApart : later ≠ key entry := by simpa using (List.mem_filter.mp isOther).2
      exact ⟨found, laterFound, first.cons apart.symm, laterFirst.cons laterApart.symm, less⟩

end SpokenForm
