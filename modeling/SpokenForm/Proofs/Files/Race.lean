import SpokenForm.Proofs.Files.Script

/-! Two scripts at work on one store. A schedule says whose operation is next; a log tells which files
were put or taken away, and with it what the store holds. -/
namespace SpokenForm

/-- A file that one of two sides has put at a path, or has taken away from there. -/
structure Deed where
  side : Bool
  path : FilePath
  held? : Option ByteArray

namespace FileScript

variable {α : Type}

/-- What the next operation does to files, the latest deed in front. -/
def deeds (side : Bool) : FileScript α → FileStore → List Deed
  | write path bytes _, store =>
    match store.write path bytes with
    | .ok _ => [⟨side, path, some bytes⟩]
    | .error _ => []
  | rename source target _, store =>
    match store.rename source target, store.read source with
    | .ok _, .ok bytes => [⟨side, target, some bytes⟩, ⟨side, source, none⟩]
    | _, _ => []
  | _, _ => []

variable {side : Bool} {script : FileScript α} {store : FileStore} {path : FilePath}
  {bytes : ByteArray}

theorem side_of_mem_deeds {deed : Deed} (done_ : deed ∈ script.deeds side store) :
    deed.side = side := by
  cases script with
  | write other spelled next =>
    simp only [deeds] at done_
    split at done_ <;> simp_all
  | rename source target next =>
    simp only [deeds] at done_
    split at done_
    · rcases List.mem_cons.mp done_ with rfl | taken
      · rfl
      · rw [List.mem_singleton.mp taken]
    · cases done_
  | _ => cases done_

/-- Writing a file takes a script on with what came of it, and is told if it succeeded. -/
theorem write_cases (side : Bool) (store : FileStore) (path : FilePath) (bytes : ByteArray)
    (next : Except FileError Unit → FileScript α) :
    (∃ cause, ((write path bytes next).step store).1 = next (.error cause) ∧
      (write path bytes next).deeds side store = []) ∨
    ((write path bytes next).step store).1 = next (.ok ()) ∧
      (write path bytes next).deeds side store = [⟨side, path, some bytes⟩] := by
  cases written : store.write path bytes with
  | error cause => exact .inl ⟨cause, by simp [step, attempt, deeds, written]⟩
  | ok changed => exact .inr (by simp [step, attempt, deeds, written])

/-- Renaming a file takes it away from one path and puts it at another. -/
theorem rename_cases (side : Bool) {store : FileStore} {source : FilePath} (target : FilePath)
    (next : Except FileError Unit → FileScript α) (held : store.read source = .ok bytes) :
    (∃ cause, ((rename source target next).step store).1 = next (.error cause) ∧
      (rename source target next).deeds side store = []) ∨
    ((rename source target next).step store).1 = next (.ok ()) ∧
      (rename source target next).deeds side store =
        [⟨side, target, some bytes⟩, ⟨side, source, none⟩] := by
  cases renamed : store.rename source target with
  | error cause => exact .inl ⟨cause, by simp [step, attempt, deeds, renamed]⟩
  | ok changed => exact .inr (by simp [step, attempt, deeds, renamed, held])

/-- What an operation puts at a path can be read there. -/
theorem read_of_put {deed : Deed}
    (last : (script.deeds side store).find? (·.path = path) = some deed)
    (put : deed.held? = some bytes) : (script.step store).2.read path = .ok bytes := by
  cases script with
  | done value => simp [deeds] at last
  | read other next => simp [deeds] at last
  | isFile other next => simp [deeds] at last
  | createDirectories other next => simp [deeds] at last
  | write other spelled next =>
    cases written : store.write other spelled with
    | error cause => simp [deeds, written] at last
    | ok changed =>
      have here : other = path ∧ spelled = bytes := by
        simp only [deeds, written, List.find?_singleton] at last
        split at last
        · rename_i same
          obtain rfl := Option.some.inj last
          exact ⟨by simpa using same, Option.some.inj put⟩
        · cases last
      obtain ⟨rfl, rfl⟩ := here
      simpa [step, attempt, written] using FileStore.read_written written
  | rename source target next =>
    cases renamed : store.rename source target with
    | error cause => simp [deeds, renamed] at last
    | ok changed =>
      cases held : store.read source with
      | error cause => simp [deeds, renamed, held] at last
      | ok moved =>
        have here : target = path ∧ moved = bytes := by
          simp only [deeds, renamed, held, List.find?_cons] at last
          split at last
          · rename_i same
            obtain rfl := Option.some.inj last
            exact ⟨by simpa using same, Option.some.inj put⟩
          · split at last
            · obtain rfl := Option.some.inj last
              cases put
            · cases last
        obtain ⟨rfl, rfl⟩ := here
        simpa [step, attempt, renamed] using FileStore.read_renamed renamed held

/-- What is read at a path that an operation leaves alone is read there again. -/
theorem read_of_step
    (apart : ∀ deed ∈ script.deeds side store, store.placeOf path ≠ store.placeOf deed.path)
    (held : store.read path = .ok bytes) : (script.step store).2.read path = .ok bytes := by
  cases script with
  | done value => exact held
  | read other next => exact held
  | isFile other next => exact held
  | createDirectories other next =>
    cases made : store.createDirectories other with
    | error cause => simpa [step, attempt, made] using held
    | ok changed =>
      simpa [step, attempt, made] using (FileStore.createDirectories_eq_ok made).read held
  | write other spelled next =>
    cases written : store.write other spelled with
    | error cause => simpa [step, attempt, written] using held
    | ok changed =>
      have elsewhere := apart ⟨side, other, some spelled⟩ (by simp [deeds, written])
      simpa [step, attempt, written] using FileStore.read_of_write written elsewhere held
  | rename source target next =>
    cases renamed : store.rename source target with
    | error cause => simpa [step, attempt, renamed] using held
    | ok changed =>
      obtain ⟨moved, found, -⟩ := FileStore.rename_eq_ok renamed
      have fromSource := apart ⟨side, source, none⟩ (by simp [deeds, renamed, found])
      have fromTarget := apart ⟨side, target, some moved⟩ (by simp [deeds, renamed, found])
      simpa [step, attempt, renamed] using
        FileStore.read_of_rename renamed fromSource fromTarget held

end FileScript

/-- What is left of two scripts, the store that they share, and what they have done to it, the latest
deed in front. -/
structure Race where
  scripts : Bool → FileScript Unit
  store : FileStore
  log : List Deed

namespace Race

def turn (race : Race) (side : Bool) : Race :=
  let next := (race.scripts side).step race.store
  ⟨fun other => if other = side then next.1 else race.scripts other, next.2,
    (race.scripts side).deeds side race.store ++ race.log⟩

/-- The operations of both sides in the order of a schedule. -/
def run (race : Race) (schedule : List Bool) : Race := schedule.foldl turn race

def last? (race : Race) (path : FilePath) : Option Deed := race.log.find? (·.path = path)

def lastSide? (race : Race) (path : FilePath) : Option Bool := (race.last? path).map Deed.side

/-- One side has come to a path, to put a file there or to take it away. -/
def Reached (race : Race) (side : Bool) (path : FilePath) : Prop :=
  ∃ deed ∈ race.log, deed.side = side ∧ deed.path = path

instance (race : Race) (side : Bool) (path : FilePath) : Decidable (race.Reached side path) :=
  inferInstanceAs (Decidable (∃ deed ∈ race.log, deed.side = side ∧ deed.path = path))

/-- An invariant of every turn is an invariant of every schedule. -/
theorem run_preserves {invariant : Race → Prop}
    (preserved : ∀ race side, invariant race → invariant (race.turn side)) {race : Race}
    (holds : invariant race) (schedule : List Bool) : invariant (race.run schedule) := by
  induction schedule generalizing race with
  | nil => exact holds
  | cons side schedule ih => exact ih (preserved race side holds)

theorem last?_path {race : Race} {path : FilePath} {deed : Deed} (last : race.last? path = some deed) :
    deed.path = path := by
  simpa using List.find?_some last

theorem last?_mem {race : Race} {path : FilePath} {deed : Deed} (last : race.last? path = some deed) :
    deed ∈ race.log := List.mem_of_find?_eq_some last

theorem exists_last {race : Race} {path : FilePath} {deed : Deed} (logged : deed ∈ race.log)
    (here : deed.path = path) : ∃ final, race.last? path = some final := by
  rw [← Option.isSome_iff_exists, last?, List.find?_isSome]
  exact ⟨deed, logged, by simpa using here⟩

theorem exists_last_turn {race : Race} {path : FilePath} (side : Bool)
    (exists_ : ∃ deed, race.last? path = some deed) :
    ∃ deed, (race.turn side).last? path = some deed := by
  obtain ⟨deed, last⟩ := exists_
  exact exists_last (List.mem_append_right _ (last?_mem last)) (last?_path last)

def Recorded (path : FilePath) (race : Race) : Prop :=
  ∀ deed bytes, race.last? path = some deed → deed.held? = some bytes →
    race.store.read path = .ok bytes

theorem last?_turn_of_apart {race : Race} {side : Bool} {path : FilePath}
    (apart : ∀ deed ∈ (race.scripts side).deeds side race.store, deed.path ≠ path) :
    (race.turn side).last? path = race.last? path := by
  have none : ((race.scripts side).deeds side race.store).find? (·.path = path) = none := by
    rw [List.find?_eq_none]
    intro deed done_
    simpa using apart deed done_
  simp [last?, turn, List.find?_append, none]

theorem Recorded.turn {race : Race} {path : FilePath} (recorded : Recorded path race) (side : Bool)
    (apart : ∀ deed ∈ (race.scripts side).deeds side race.store, deed.path ≠ path →
      race.store.placeOf path ≠ race.store.placeOf deed.path) :
    Recorded path (race.turn side) := by
  intro deed bytes last put
  cases latest : ((race.scripts side).deeds side race.store).find? (·.path = path) with
  | some own =>
    have same : own = deed := by
      simpa [last?, Race.turn, List.find?_append, latest] using last
    subst same
    exact FileScript.read_of_put latest put
  | none =>
    have others : ∀ deed ∈ (race.scripts side).deeds side race.store, deed.path ≠ path := by
      intro other done_
      simpa using List.find?_eq_none.mp latest other done_
    rw [last?_turn_of_apart others] at last
    have held := recorded deed bytes last put
    have elsewhere : ∀ other ∈ (race.scripts side).deeds side race.store,
        race.store.placeOf path ≠ race.store.placeOf other.path :=
      fun other done_ => apart other done_ (others other done_)
    exact FileScript.read_of_step elsewhere held

end Race

end SpokenForm
