import SpokenForm.Proofs.Files.Race
import SpokenForm.Proofs.GrammarCache.Loading

/-! Two caches that keep a grammar under one name at the same time. The compiled grammar in the end is
that of the side that moved its file last, and the stamp is that of the side that stamped last; nothing
makes these the same side, and a stamp may so come to stand beside the grammar of another source. -/
namespace SpokenForm.GrammarCache

open FilePath

/-- What either side keeps: the machine compiled from some contents, under the digest of these. -/
structure Rivals where
  cache : Bool → GrammarCache
  machine : Bool → Transducer Weight
  contents : Bool → ByteArray

namespace Rivals

variable (rivals : Rivals) (cached : FilePath)

def unfinished (side : Bool) : FilePath := (rivals.cache side).unfinishedPath cached

def bytes (side : Bool) : ByteArray := (rivals.machine side).toBytes

def digest (side : Bool) : ByteArray := Text.toUtf8 (Digest.hex (rivals.contents side))

def race (store : FileStore) : Race :=
  ⟨fun side => (rivals.cache side).store cached (rivals.machine side)
    (Digest.hex (rivals.contents side)), store, []⟩

/-! What is left of keeping a grammar after each of its operations. -/

def afterMoving (side : Bool) (moved : Except FileError Unit) : FileScript Unit := do
  let _ ← FileScript.unlessFailed moved
    (FileScript.writeBytes (stampPath cached) (rivals.digest side))

def afterWriting (side : Bool) (written : Except FileError Unit) : FileScript Unit := do
  rivals.afterMoving cached side
    (← FileScript.unlessFailed written (FileScript.move (rivals.unfinished cached side) cached))

def afterPreparing (side : Bool) (prepared : Except FileError Unit) : FileScript Unit := do
  rivals.afterWriting cached side (← FileScript.unlessFailed prepared
    (FileScript.writeBytes (rivals.unfinished cached side) (rivals.bytes side)))

/-- How far a side has come, and what the log has to tell by then. -/
inductive Progress (race : Race) (side : Bool) : FileScript Unit → Prop where
  | preparing (parent : FilePath) :
    Progress race side (.createDirectories parent (rivals.afterPreparing cached side))
  | writing : Progress race side (rivals.afterPreparing cached side (.ok ()))
  | moving (written : race.last? (rivals.unfinished cached side) =
      some ⟨side, rivals.unfinished cached side, some (rivals.bytes side)⟩) :
    Progress race side (rivals.afterWriting cached side (.ok ()))
  | stamping (moved : ∃ deed, race.last? cached = some deed) :
    Progress race side (rivals.afterMoving cached side (.ok ()))
  | finished : Progress race side (.done ())

/-- The deeds of keeping a grammar. -/
inductive Due : Deed → Prop where
  | taken (side : Bool) : Due ⟨side, rivals.unfinished cached side, none⟩
  | written (side : Bool) :
    Due ⟨side, rivals.unfinished cached side, some (rivals.bytes side)⟩
  | moved (side : Bool) : Due ⟨side, cached, some (rivals.bytes side)⟩
  | stamped (side : Bool) : Due ⟨side, stampPath cached, some (rivals.digest side)⟩

/-- What holds at any time: both sides make progress, the log has no other deeds, a stamp comes after
a compiled grammar, and the store holds what the log tells. -/
structure Orderly (race : Race) : Prop where
  progress : ∀ side, rivals.Progress cached race side (race.scripts side)
  due : ∀ deed ∈ race.log, rivals.Due cached deed
  stampAfterGrammar : ∀ deed, race.last? (stampPath cached) = some deed →
    ∃ moved, race.last? cached = some moved
  unfinishedRecorded : ∀ side, race.Recorded (rivals.unfinished cached side)
  cachedRecorded : race.Recorded cached
  stampRecorded : race.Recorded (stampPath cached)

/-! Paths. -/

section Paths

variable {rivals} {front stem : Text} (isFront : IsFront front) (isStem : IsKeptStem stem)
include isFront isStem

theorem unfinished_append (side : Bool) : rivals.unfinished (front ++ keptName stem) side =
    front ++ unfinishedName (rivals.cache side).writer stem :=
  unfinishedPath_append isFront isStem (rivals.cache side)

theorem unfinished_ne_cached (side : Bool) :
    rivals.unfinished (front ++ keptName stem) side ≠ front ++ keptName stem := by
  rw [unfinished_append isFront isStem]
  intro same
  exact keptName_ne_unfinishedName _ _ _ (List.append_cancel_left same).symm

theorem unfinished_ne_stamp (side : Bool) :
    rivals.unfinished (front ++ keptName stem) side ≠ stampPath (front ++ keptName stem) := by
  rw [unfinished_append isFront isStem, stampPath_append isFront isStem]
  intro same
  exact stampName_ne_unfinishedName _ _ _ (List.append_cancel_left same).symm

theorem cached_ne_stamp : front ++ keptName stem ≠ stampPath (front ++ keptName stem) := by
  rw [stampPath_append isFront isStem]
  intro same
  exact keptName_ne_stampName _ _ (List.append_cancel_left same)

theorem unfinished_ne_unfinished (differ : (rivals.cache false).writer ≠ (rivals.cache true).writer)
    {side other : Bool} (apart : side ≠ other) :
    rivals.unfinished (front ++ keptName stem) side ≠ rivals.unfinished (front ++ keptName stem) other := by
  rw [unfinished_append isFront isStem, unfinished_append isFront isStem]
  intro same
  have writers := unfinishedName_injective (List.append_cancel_left same)
  cases side <;> cases other
  · exact apart rfl
  · exact differ writers
  · exact differ writers.symm
  · exact apart rfl

theorem Due.exists_name {deed : Deed} (due : rivals.Due (front ++ keptName stem) deed) :
    ∃ name, IsFileName name ∧ deed.path = front ++ name := by
  cases due with
  | taken side => exact ⟨_, isStem.isFileName_unfinishedName _, unfinished_append isFront isStem side⟩
  | written side => exact ⟨_, isStem.isFileName_unfinishedName _, unfinished_append isFront isStem side⟩
  | moved side => exact ⟨_, isStem.isFileName_keptName, rfl⟩
  | stamped side => exact ⟨_, isStem.isFileName_stampName, stampPath_append isFront isStem⟩

/-- Deeds at different paths are deeds at different places. -/
theorem Due.apart {deed other : Deed} (due : rivals.Due (front ++ keptName stem) deed)
    (alsoDue : rivals.Due (front ++ keptName stem) other) (differ : other.path ≠ deed.path)
    (store : FileStore) : store.placeOf deed.path ≠ store.placeOf other.path := by
  obtain ⟨name, isName, spelled⟩ := due.exists_name isFront isStem
  obtain ⟨otherName, alsoName, alsoSpelled⟩ := alsoDue.exists_name isFront isStem
  rw [spelled, alsoSpelled, store.placeOf_append isFront isName, store.placeOf_append isFront alsoName]
  intro same
  have names : name = otherName := by simpa using same
  exact differ (by rw [spelled, alsoSpelled, names])

theorem Due.of_cached {deed : Deed} (due : rivals.Due (front ++ keptName stem) deed)
    (here : deed.path = front ++ keptName stem) :
    ∃ side, deed = ⟨side, front ++ keptName stem, some (rivals.bytes side)⟩ := by
  cases due with
  | taken side => exact absurd here (unfinished_ne_cached isFront isStem side)
  | written side => exact absurd here (unfinished_ne_cached isFront isStem side)
  | moved side => exact ⟨side, rfl⟩
  | stamped side => exact absurd here (cached_ne_stamp isFront isStem).symm

theorem Due.of_stamp {deed : Deed} (due : rivals.Due (front ++ keptName stem) deed)
    (here : deed.path = stampPath (front ++ keptName stem)) :
    ∃ side, deed = ⟨side, stampPath (front ++ keptName stem), some (rivals.digest side)⟩ := by
  cases due with
  | taken side => exact absurd here (unfinished_ne_stamp isFront isStem side)
  | written side => exact absurd here (unfinished_ne_stamp isFront isStem side)
  | moved side => exact absurd here (cached_ne_stamp isFront isStem)
  | stamped side => exact ⟨side, rfl⟩

end Paths

/-! Turns. -/

variable {rivals cached} {race : Race} {side : Bool}

theorem afterPreparing_ok : rivals.afterPreparing cached side (.ok ()) =
    .write (rivals.unfinished cached side) (rivals.bytes side) (rivals.afterWriting cached side) :=
  rfl

theorem afterWriting_ok : rivals.afterWriting cached side (.ok ()) =
    .rename (rivals.unfinished cached side) cached (rivals.afterMoving cached side) := rfl

theorem afterMoving_ok : rivals.afterMoving cached side (.ok ()) =
    .write (stampPath cached) (rivals.digest side) fun _ => .done () := rfl

/-- Keeping a grammar begins with making a directory, if the path lies in one. -/
theorem progress_race (store : FileStore) (side : Bool) :
    rivals.Progress cached (rivals.race cached store) side ((rivals.race cached store).scripts side) := by
  change rivals.Progress cached _ side (FileScript.makeParent cached >>= rivals.afterPreparing cached side)
  unfold FileScript.makeParent
  cases FilePath.parent? cached with
  | none => exact .writing
  | some parent => exact .preparing parent

/-- A turn of a side takes it further. -/
theorem Progress.advance {script : FileScript Unit}
    (progress : rivals.Progress cached race side script) (running : race.scripts side = script)
    (recorded : race.Recorded (rivals.unfinished cached side)) :
    rivals.Progress cached (race.turn side) side (script.step race.store).1 ∧
      ∀ deed ∈ script.deeds side race.store, rivals.Due cached deed := by
  cases progress with
  | preparing parent =>
    refine ⟨?_, by simp [FileScript.deeds]⟩
    cases made : race.store.createDirectories parent with
    | error cause =>
      simp only [FileScript.step, FileScript.attempt, made]
      exact .finished
    | ok changed =>
      simp only [FileScript.step, FileScript.attempt, made]
      exact .writing
  | writing =>
    rw [afterPreparing_ok] at running ⊢
    obtain ⟨cause, failed, nothing⟩ | ⟨taken, told⟩ := FileScript.write_cases side race.store
      (rivals.unfinished cached side) (rivals.bytes side) (rivals.afterWriting cached side)
    · rw [failed, nothing]
      exact ⟨.finished, by simp⟩
    · rw [taken, told]
      refine ⟨.moving ?_, List.forall_mem_singleton.mpr (.written side)⟩
      simp [Race.last?, Race.turn, running, told]
  | moving written =>
    rw [afterWriting_ok] at running ⊢
    obtain ⟨cause, failed, nothing⟩ | ⟨taken, told⟩ := FileScript.rename_cases side cached
      (rivals.afterMoving cached side) (recorded _ _ written rfl)
    · rw [failed, nothing]
      exact ⟨.finished, by simp⟩
    · rw [taken, told]
      refine ⟨.stamping ?_, List.forall_mem_cons.mpr
        ⟨.moved side, List.forall_mem_singleton.mpr (.taken side)⟩⟩
      simp [Race.last?, Race.turn, running, told]
  | stamping moved =>
    rw [afterMoving_ok]
    obtain ⟨cause, failed, nothing⟩ | ⟨taken, told⟩ := FileScript.write_cases side race.store
      (stampPath cached) (rivals.digest side) fun _ => .done ()
    · rw [failed, nothing]
      exact ⟨.finished, by simp⟩
    · rw [taken, told]
      exact ⟨.finished, List.forall_mem_singleton.mpr (.stamped side)⟩
  | finished => exact ⟨.finished, by simp [FileScript.deeds]⟩

/-- A turn of the other side leaves a side where it is. -/
theorem Progress.wait {script : FileScript Unit} {other : Bool}
    (progress : rivals.Progress cached race side script)
    (apart : ∀ deed ∈ (race.scripts other).deeds other race.store,
      deed.path ≠ rivals.unfinished cached side) :
    rivals.Progress cached (race.turn other) side script := by
  cases progress with
  | preparing parent => exact .preparing parent
  | writing => exact .writing
  | moving written => exact .moving ((Race.last?_turn_of_apart apart).trans written)
  | stamping moved => exact .stamping (Race.exists_last_turn other moved)
  | finished => exact .finished

section Orderly

variable {front stem : Text} (isFront : IsFront front) (isStem : IsKeptStem stem)
include isFront isStem

/-- Nothing is stamped before a grammar is in its place. -/
theorem Progress.stamps_late {script : FileScript Unit}
    (progress : rivals.Progress (front ++ keptName stem) race side script) {deed : Deed}
    (done_ : deed ∈ script.deeds side race.store)
    (stamp : deed.path = stampPath (front ++ keptName stem)) :
    ∃ moved, race.last? (front ++ keptName stem) = some moved := by
  cases progress with
  | preparing parent => cases done_
  | writing =>
    simp only [afterPreparing_ok, FileScript.deeds] at done_
    split at done_
    · obtain rfl := List.mem_singleton.mp done_
      exact absurd stamp (unfinished_ne_stamp isFront isStem side)
    · cases done_
  | moving written =>
    simp only [afterWriting_ok, FileScript.deeds] at done_
    split at done_
    · rcases List.mem_cons.mp done_ with rfl | taken
      · exact absurd stamp (cached_ne_stamp isFront isStem)
      · obtain rfl := List.mem_singleton.mp taken
        exact absurd stamp (unfinished_ne_stamp isFront isStem side)
    · cases done_
  | stamping moved => exact moved
  | finished => cases done_

variable (differ : (rivals.cache false).writer ≠ (rivals.cache true).writer)
include differ

/-- The deeds of one side are not at the unfinished file of the other. -/
theorem Due.ne_unfinished {deed : Deed} (due : rivals.Due (front ++ keptName stem) deed)
    (foreign : deed.side ≠ side) : deed.path ≠ rivals.unfinished (front ++ keptName stem) side := by
  cases due with
  | taken own => exact unfinished_ne_unfinished isFront isStem differ foreign
  | written own => exact unfinished_ne_unfinished isFront isStem differ foreign
  | moved own => exact (unfinished_ne_cached isFront isStem side).symm
  | stamped own => exact (unfinished_ne_stamp isFront isStem side).symm

theorem Orderly.turn (orderly : rivals.Orderly (front ++ keptName stem) race) (side : Bool) :
    rivals.Orderly (front ++ keptName stem) (race.turn side) := by
  obtain ⟨advanced, due⟩ :=
    (orderly.progress side).advance rfl (orderly.unfinishedRecorded side)
  have apart {known : Deed} (isDue : rivals.Due (front ++ keptName stem) known) :
      ∀ deed ∈ (race.scripts side).deeds side race.store, deed.path ≠ known.path →
        race.store.placeOf known.path ≠ race.store.placeOf deed.path := by
    intro deed done_ elsewhere
    exact isDue.apart isFront isStem (due deed done_) elsewhere race.store
  refine ⟨?_, ?_, ?_, ?_, ?_, ?_⟩
  · -- the side itself goes on; the other one waits, and its unfinished file is not touched
    intro other
    by_cases own : other = side
    · subst own
      simpa [Race.turn] using advanced
    · have waits : ∀ deed ∈ (race.scripts side).deeds side race.store,
          deed.path ≠ rivals.unfinished (front ++ keptName stem) other := by
        intro deed done_
        have foreign : deed.side ≠ other := by
          rw [FileScript.side_of_mem_deeds done_]
          exact Ne.symm own
        exact (due deed done_).ne_unfinished isFront isStem differ foreign
      simpa [Race.turn, own] using (orderly.progress other).wait waits
  · intro deed logged
    rcases List.mem_append.mp logged with done_ | before
    · exact due deed done_
    · exact orderly.due deed before
  · -- whoever stamps has moved a grammar to its place before, and one stays there
    intro deed last
    apply Race.exists_last_turn side
    rcases List.mem_append.mp (Race.last?_mem last) with done_ | before
    · exact (orderly.progress side).stamps_late isFront isStem done_ (Race.last?_path last)
    · obtain ⟨final, earlier⟩ := Race.exists_last before (Race.last?_path last)
      exact orderly.stampAfterGrammar final earlier
  · intro other
    exact (orderly.unfinishedRecorded other).turn side (apart (.written other))
  · exact orderly.cachedRecorded.turn side (apart (.moved side))
  · exact orderly.stampRecorded.turn side (apart (.stamped side))

end Orderly

theorem orderly_race (store : FileStore) : rivals.Orderly cached (rivals.race cached store) := by
  refine ⟨progress_race store, ?_, ?_, ?_, ?_, ?_⟩ <;> simp [race, Race.last?, Race.Recorded]

/-- The stamp is the digest of the contents that the kept grammar was compiled from. -/
def Agree (rivals : Rivals) (cached : FilePath) (store : FileStore) : Prop :=
  ∃ side, store.read cached = .ok (rivals.bytes side) ∧
    store.read (stampPath cached) = .ok (rivals.digest side)

theorem agree_iff {store : FileStore} {mover stamper : Bool}
    (grammar : store.read cached = .ok (rivals.bytes mover))
    (stamp : store.read (stampPath cached) = .ok (rivals.digest stamper)) :
    rivals.Agree cached store ↔ mover = stamper ∨ rivals.bytes false = rivals.bytes true ∨
      rivals.digest false = rivals.digest true := by
  constructor
  · rintro ⟨side, ofSide, alsoOfSide⟩
    have sameBytes := Except.ok.inj (grammar.symm.trans ofSide)
    have sameDigest := Except.ok.inj (stamp.symm.trans alsoOfSide)
    cases mover <;> cases stamper <;> cases side <;> simp_all
  · rintro (rfl | same | same)
    · exact ⟨mover, grammar, stamp⟩
    · have anySide : rivals.bytes mover = rivals.bytes stamper := by
        cases mover <;> cases stamper <;> simp [same]
      exact ⟨stamper, anySide ▸ grammar, stamp⟩
    · have anySide : rivals.digest stamper = rivals.digest mover := by
        cases mover <;> cases stamper <;> simp [same]
      exact ⟨mover, grammar, anySide ▸ stamp⟩

/-- What the last deeds at the two paths are, once one side has stamped, and what the store then holds. -/
theorem exists_last_sides {key : GrammarKey} {stage : Stage}
    (kept : (rivals.cache false).cachedPath? key stage = some cached)
    (differ : (rivals.cache false).writer ≠ (rivals.cache true).writer) (store : FileStore)
    (schedule : List Bool)
    (stamped : ((rivals.race cached store).run schedule).Reached side (stampPath cached)) :
    ∃ mover stamper, ((rivals.race cached store).run schedule).lastSide? cached = some mover ∧
      ((rivals.race cached store).run schedule).lastSide? (stampPath cached) = some stamper ∧
      ((rivals.race cached store).run schedule).store.read cached = .ok (rivals.bytes mover) ∧
      ((rivals.race cached store).run schedule).store.read (stampPath cached) =
        .ok (rivals.digest stamper) := by
  obtain ⟨front, stem, isFront, isStem, rfl⟩ := cachedPath?_eq_some kept
  have orderly : rivals.Orderly (front ++ keptName stem)
      ((rivals.race (front ++ keptName stem) store).run schedule) :=
    Race.run_preserves (fun race side holds => holds.turn isFront isStem differ side)
      (orderly_race store) schedule
  generalize (rivals.race (front ++ keptName stem) store).run schedule = final at *
  obtain ⟨deed, logged, -, here⟩ := stamped
  obtain ⟨stampDeed, stampedLast⟩ := Race.exists_last logged here
  obtain ⟨moved, movedLast⟩ := orderly.stampAfterGrammar stampDeed stampedLast
  obtain ⟨stamper, rfl⟩ := (orderly.due stampDeed (Race.last?_mem stampedLast)).of_stamp isFront
    isStem (Race.last?_path stampedLast)
  obtain ⟨mover, rfl⟩ := (orderly.due moved (Race.last?_mem movedLast)).of_cached isFront isStem
    (Race.last?_path movedLast)
  exact ⟨mover, stamper, by simp [Race.lastSide?, movedLast], by simp [Race.lastSide?, stampedLast],
    orderly.cachedRecorded _ _ movedLast rfl, orderly.stampRecorded _ _ stampedLast rfl⟩

/-- The grammar that is kept in the end is that of the side that moved its file last, and the stamp is
that of the side that stamped last. They belong together if one side did both last, and, as long as the
sides keep different things, only then. -/
theorem last_sides_decide (rivals : Rivals) {key : GrammarKey} {stage : Stage} {cached : FilePath}
    (kept : (rivals.cache false).cachedPath? key stage = some cached)
    (differ : (rivals.cache false).writer ≠ (rivals.cache true).writer) (store : FileStore)
    (schedule : List Bool)
    (finished : ∀ side, ((rivals.race cached store).run schedule).Reached side (stampPath cached)) :
    ∃ mover stamper, ((rivals.race cached store).run schedule).lastSide? cached = some mover ∧
      ((rivals.race cached store).run schedule).lastSide? (stampPath cached) = some stamper ∧
      ((rivals.race cached store).run schedule).store.read cached = .ok (rivals.bytes mover) ∧
      ((rivals.race cached store).run schedule).store.read (stampPath cached) =
        .ok (rivals.digest stamper) ∧
      (rivals.Agree cached ((rivals.race cached store).run schedule).store ↔ mover = stamper ∨
        rivals.bytes false = rivals.bytes true ∨ rivals.digest false = rivals.digest true) := by
  obtain ⟨mover, stamper, movedLast, stampedLast, grammar, stamp⟩ :=
    exists_last_sides kept differ store schedule (finished false)
  exact ⟨mover, stamper, movedLast, stampedLast, grammar, stamp, agree_iff grammar stamp⟩

def twoLetters : Rivals where
  cache side := plainCache (if side then 2 else 1)
  machine side := letterMachine (if side then 99 else 98)
  contents side := letterSource (if side then 99 else 98)

def sharedPath : FilePath := "c/en_tn_true_cased_tokenize.fst".toList

theorem cachedPath?_sharedPath :
    (twoLetters.cache false).cachedPath? plainKey .tokenize = some sharedPath := by decide +kernel

def firstSource : FileStore :=
  ⟨[], [(["g".toList, "en".toList, "tn".toList, "tokenize.fst.txt".toList],
      .file (twoLetters.contents false)),
    (["g".toList, "en".toList, "tn".toList], .directory), (["g".toList, "en".toList], .directory),
    (["g".toList], .directory)]⟩

theorem last_sides_decide_one_after_the_other :
    twoLetters.Agree sharedPath ((twoLetters.race sharedPath firstSource).run
      [false, false, false, false, true, true, true, true]).store := by
  have finished : ∀ side, ((twoLetters.race sharedPath firstSource).run
      [false, false, false, false, true, true, true, true]).Reached side (stampPath sharedPath) := by
    decide +kernel
  obtain ⟨mover, stamper, moved, stamped, -, -, agree⟩ :=
    last_sides_decide twoLetters cachedPath?_sharedPath (by decide) firstSource _ finished
  have movedLast : some mover = some true := moved.symm.trans (by decide +kernel)
  have stampedLast : some stamper = some true := stamped.symm.trans (by decide +kernel)
  exact agree.mpr (.inl (Option.some.inj (movedLast.trans stampedLast.symm)))

/-- One side moves and stamps while the other waits between its two steps. -/
def stampBehind : List Bool := [false, false, false, true, true, true, true, false]

/-- A stamp may stand beside the grammar of another source, and this grammar is then loaded for the
source that the stamp is of. -/
theorem rivals_may_disagree :
    (∀ side, (Transducer.decodeSource (twoLetters.contents side)).toOption =
        some (twoLetters.machine side)) ∧
      twoLetters.contents false ≠ twoLetters.contents true ∧
      (∀ side, ((twoLetters.race sharedPath firstSource).run stampBehind).Reached side
        (stampPath sharedPath)) ∧
      ¬ twoLetters.Agree sharedPath ((twoLetters.race sharedPath firstSource).run stampBehind).store ∧
      (((twoLetters.cache false).load plainKey .tokenize).run
        ((twoLetters.race sharedPath firstSource).run stampBehind).store).1.toOption =
          some (some (twoLetters.machine true)) := by
  have reached : ∀ side, ((twoLetters.race sharedPath firstSource).run stampBehind).Reached side
      (stampPath sharedPath) := by decide +kernel
  obtain ⟨mover, stamper, moved, stamped, grammar, stamp⟩ :=
    exists_last_sides cachedPath?_sharedPath (by decide) firstSource stampBehind (reached false)
  obtain rfl : true = mover := by
    have last : some true = some mover := Eq.trans (by decide +kernel) moved
    exact Option.some.inj last
  obtain rfl : false = stamper := by
    have last : some false = some stamper := Eq.trans (by decide +kernel) stamped
    exact Option.some.inj last
  refine ⟨by decide +kernel, by decide +kernel, reached, ?_, by decide +kernel⟩
  rw [agree_iff grammar stamp]
  decide +kernel

end Rivals

end SpokenForm.GrammarCache
