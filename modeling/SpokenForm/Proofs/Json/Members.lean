import Mathlib.Data.List.Induction
import SpokenForm.Json
import SpokenForm.Proofs.Distinct

/-! Members of objects. Members that are set one after the other have distinct names, in the order in which
these first occur, and each has the last of its values. -/
namespace SpokenForm.Json

/-- No two members of an object share a name. -/
def DistinctNames (object : JsonObject) : Prop := (object.map Prod.fst).Nodup

/-- An object with one member set. The member keeps its place if it was there, and comes last
otherwise; all other members stay. -/
inductive Sets (key : Text) (value : JsonValue) : JsonObject → JsonObject → Prop where
  | replaced {before after : JsonObject} {old : JsonValue} (notBefore : key ∉ before.map Prod.fst)
    (notAfter : key ∉ after.map Prod.fst) :
    Sets key value (before ++ (key, old) :: after) (before ++ (key, value) :: after)
  | added {object : JsonObject} (absent : key ∉ object.map Prod.fst) :
    Sets key value object (object ++ [(key, value)])

theorem Sets.cons {key : Text} {value : JsonValue} {member : Text × JsonValue}
    {rest changed : JsonObject} (apart : key ≠ member.1) (sets : Sets key value rest changed) :
    Sets key value (member :: rest) (member :: changed) := by
  cases sets with
  | @replaced before after old notBefore notAfter =>
    exact @Sets.replaced key value (member :: before) after old (by simp [apart, notBefore]) notAfter
  | added absent => exact .added (by simp [apart, absent])

theorem Sets.eq_or_mem {key : Text} {value : JsonValue} {object changed : JsonObject}
    (sets : Sets key value object changed) : ∀ member ∈ changed,
      member = (key, value) ∨ (member ∈ object ∧ member.1 ≠ key) := by
  intro member isMember
  cases sets with
  | replaced notBefore notAfter =>
    rcases List.mem_append.mp isMember with inFront | isHere
    · have apart := ne_of_mem_of_not_mem (List.mem_map_of_mem inFront) notBefore
      exact .inr ⟨List.mem_append_left _ inFront, apart⟩
    · rcases List.mem_cons.mp isHere with same | behind
      · exact .inl same
      · have apart := ne_of_mem_of_not_mem (List.mem_map_of_mem behind) notAfter
        exact .inr ⟨List.mem_append_right _ (List.mem_cons_of_mem _ behind), apart⟩
  | added absent =>
    rcases List.mem_append.mp isMember with isOld | isNew
    · exact .inr ⟨isOld, ne_of_mem_of_not_mem (List.mem_map_of_mem isOld) absent⟩
    · exact .inl (List.mem_singleton.mp isNew)

theorem Sets.distinct {key : Text} {value : JsonValue} {object changed : JsonObject}
    (sets : Sets key value object changed) (distinct : DistinctNames object) : DistinctNames changed := by
  cases sets with
  | replaced notBefore notAfter => simpa [DistinctNames] using distinct
  | added absent =>
    rw [DistinctNames, List.map_append, List.map_singleton]
    exact List.concat_eq_append ▸ distinct.concat absent

theorem sets_setMember (key : Text) (value : JsonValue) {object : JsonObject}
    (distinct : DistinctNames object) : Sets key value object (setMember key value object) := by
  induction object with
  | nil => exact .added (by simp)
  | cons member rest ih =>
    obtain ⟨absent, others⟩ := List.nodup_cons.mp distinct
    unfold setMember
    split
    · rename_i same
      subst same
      exact @Sets.replaced member.1 value [] rest member.2 (by simp) absent
    · rename_i different
      exact (ih others).cons (Ne.symm different)

/-- Members in the order in which their names first occur among pairs of a name and a value, each with
the last value that stands with its name. -/
structure Collects (pairs members : JsonObject) : Prop where
  order : members.map Prod.fst = (pairs.map Prod.fst).eraseDups
  last : ∀ member ∈ members, ∃ before after, pairs = before ++ member :: after ∧
    member.1 ∉ after.map Prod.fst

variable {pairs members others : JsonObject}

theorem Collects.distinct (collects : Collects pairs members) : DistinctNames members := by
  rw [DistinctNames, collects.order]
  exact nodup_eraseDups _

theorem Collects.value_eq (collects : Collects pairs members) (alsoCollects : Collects pairs others)
    {name : Text} {value other : JsonValue} (isMember : (name, value) ∈ members)
    (isOther : (name, other) ∈ others) : value = other := by
  obtain ⟨before, after, split, last⟩ := collects.last _ isMember
  obtain ⟨front, back, alsoSplit, alsoLast⟩ := alsoCollects.last _ isOther
  rcases List.append_eq_append_iff.mp (split.symm.trans alsoSplit) with
    ⟨between, rfl, rest⟩ | ⟨between, rfl, rest⟩
  · cases between with
    | nil => exact congrArg Prod.snd (List.cons.inj rest).1
    | cons pair between =>
      obtain ⟨-, rfl⟩ := List.cons.inj rest
      exact absurd (by simp) last
  · cases between with
    | nil => exact (congrArg Prod.snd (List.cons.inj rest).1).symm
    | cons pair between =>
      obtain ⟨-, rfl⟩ := List.cons.inj rest
      exact absurd (by simp) alsoLast

theorem eq_of_map_fst_eq (same : members.map Prod.fst = others.map Prod.fst)
    (values : ∀ name value other, (name, value) ∈ members → (name, other) ∈ others → value = other) :
    members = others := by
  induction members generalizing others with
  | nil => exact (List.map_eq_nil_iff.mp same.symm).symm
  | cons member members ih =>
    cases others with
    | nil => cases same
    | cons other others =>
      obtain ⟨name, value⟩ := member
      obtain ⟨rfl, rest⟩ := List.cons.inj same
      obtain rfl := values other.1 value other.2 List.mem_cons_self List.mem_cons_self
      rw [ih rest fun name value other isMember isOther => values name value other
        (List.mem_cons_of_mem _ isMember) (List.mem_cons_of_mem _ isOther)]

/-- There is only one way to collect pairs. -/
theorem Collects.unique (collects : Collects pairs members) (alsoCollects : Collects pairs others) :
    members = others :=
  eq_of_map_fst_eq (collects.order.trans alsoCollects.order.symm)
    fun _ _ _ => collects.value_eq alsoCollects

/-- Members with distinct names are what they are collected to. -/
theorem collects_self (distinct : DistinctNames members) : Collects members members where
  order := (eraseDups_of_nodup distinct).symm
  last member isMember := by
    obtain ⟨before, after, rfl⟩ := List.append_of_mem isMember
    refine ⟨before, after, rfl, ?_⟩
    rw [DistinctNames, List.map_append, List.map_cons] at distinct
    exact (List.nodup_cons.mp (List.nodup_append.mp distinct).2.1).1

/-- A member that stands last among the pairs is set. -/
theorem Collects.append (collects : Collects pairs members) {name : Text} {value : JsonValue}
    {changed : JsonObject} (sets : Sets name value members changed) :
    Collects (pairs ++ [(name, value)]) changed where
  order := by
    have order := collects.order
    have mem_iff : name ∈ pairs.map Prod.fst ↔ name ∈ members.map Prod.fst := by
      rw [order, List.mem_eraseDups]
    rw [List.map_append, List.map_singleton]
    cases sets with
    | replaced notBefore notAfter =>
      have known : name ∈ pairs.map Prod.fst := mem_iff.mpr (by simp)
      rw [eraseDups_append_singleton_of_mem known, ← order]
      simp
    | added absent =>
      have fresh : name ∉ pairs.map Prod.fst := fun known => absent (mem_iff.mp known)
      rw [eraseDups_append_singleton_of_not_mem fresh, ← order]
      simp
  last member isMember := by
    rcases sets.eq_or_mem member isMember with rfl | ⟨isOld, apart⟩
    · exact ⟨pairs, [], rfl, by simp⟩
    · obtain ⟨before, after, rfl, last⟩ := collects.last member isOld
      exact ⟨before, after ++ [(name, value)], by simp, by simp [last, apart]⟩

/-- Setting one member after the other collects all. -/
theorem collects_foldl (pairs : JsonObject) :
    Collects pairs (pairs.foldl (fun object (name, value) => setMember name value object) []) := by
  induction pairs using List.reverseRecOn with
  | nil => exact ⟨rfl, by simp⟩
  | append_singleton pairs pair ih =>
    rw [List.foldl_append]
    exact ih.append (sets_setMember pair.1 pair.2 ih.distinct)

end SpokenForm.Json
