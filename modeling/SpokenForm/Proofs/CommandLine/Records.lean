import SpokenForm.CommandLine.Program
import SpokenForm.Proofs.Batch.Outcome
import SpokenForm.Proofs.Manifest

/-! The command on a file of texts. Whatever turns the workers take, every record has its result in its
place, and results come out together or not at all. -/
namespace SpokenForm.CommandLine

/-! Items: texts, each with what was heard if there is something. -/

namespace Runner

/-- The normalization of an item, with the help of what was heard if there is something. -/
def normalization (runner : Runner) : Text × Option Text → Except NormalizationError Text
  | (text, none) => runner.normalizer.normalize text
  | (text, some prediction) =>
    (Selector.ofSettings runner.settings).normalize runner.normalizer text prediction

/-- The result for an item: its normalization, or its text where that fails and no limit is to
blame. -/
inductive Yields (runner : Runner) (item : Text × Option Text) : Text → Prop where
  | normalized {result : Text} (success : runner.normalization item = .ok result) :
    Yields runner item result
  | passed {fault : NormalizationError} (failed : runner.normalization item = .error fault)
    (other : ∀ cause, fault ≠ .configuration cause) : Yields runner item item.1

/-- The normalization of an item comes up against a limit. -/
def Blocked (runner : Runner) (item : Text × Option Text) : Prop :=
  ∃ cause, runner.normalization item = .error (.configuration cause)

/-- Something was heard only if that is asked for. -/
def Hears (runner : Runner) (item : Text × Option Text) : Prop :=
  item.2.isSome = true → runner.audioBased = true

variable {runner : Runner} {item : Text × Option Text}

theorem normalizeOne_eq (hears : runner.Hears item) :
    runner.normalizeOne item.1 item.2 = orItself item.1 (runner.normalization item) := by
  obtain ⟨text, prediction?⟩ := item
  cases prediction? with
  | none => rfl
  | some prediction =>
    have asked : runner.audioBased = true := hears rfl
    simp [normalizeOne, normalization, asked]

/-- An item has a result or is blocked. -/
theorem normalizeOne_outcome (hears : runner.Hears item) :
    (∃ result, runner.normalizeOne item.1 item.2 = .ok result ∧ runner.Yields item result ∧
      ¬ runner.Blocked item) ∨
    (∃ cause, runner.normalizeOne item.1 item.2 = .error (.configuration cause) ∧
      runner.normalization item = .error (.configuration cause)) := by
  rw [normalizeOne_eq hears]
  cases normalized : runner.normalization item with
  | ok result => exact .inl ⟨result, rfl, .normalized normalized, by simp [Blocked, normalized]⟩
  | error fault =>
    cases fault with
    | configuration cause => exact .inr ⟨cause, rfl, rfl⟩
    | _ => exact .inl ⟨item.1, rfl, .passed normalized (by simp), by simp [Blocked, normalized]⟩

theorem yields_of_normalizeOne (hears : runner.Hears item) {result : Text}
    (success : runner.normalizeOne item.1 item.2 = .ok result) :
    runner.Yields item result ∧ ¬ runner.Blocked item := by
  rcases normalizeOne_outcome hears with ⟨other, same, yields, free⟩ | ⟨cause, failed, -⟩
  · obtain rfl := Except.ok.inj (success.symm.trans same)
    exact ⟨yields, free⟩
  · cases success.symm.trans failed

theorem blocked_of_normalizeOne (hears : runner.Hears item) {fault : NormalizationError}
    (failed : runner.normalizeOne item.1 item.2 = .error fault) :
    ∃ cause, fault = .configuration cause ∧
      runner.normalization item = .error (.configuration cause) := by
  rcases normalizeOne_outcome hears with ⟨other, same, -, -⟩ | ⟨cause, alsoFailed, blocked⟩
  · cases failed.symm.trans same
  · exact ⟨cause, Except.error.inj (failed.symm.trans alsoFailed), blocked⟩

/-- All items have their results in order, or the failure is that of a blocked item. -/
theorem normalizeAll_outcome (runner : Runner) (processors : Nat)
    {items : List (Text × Option Text)} (hears : ∀ item ∈ items, runner.Hears item) :
    (∃ results, runner.normalizeAll processors items = .ok results ∧
      List.Forall₂ runner.Yields items results ∧ ∀ item ∈ items, ¬ runner.Blocked item) ∨
    (∃ item ∈ items, ∃ cause, runner.normalization item = .error (.configuration cause) ∧
      runner.normalizeAll processors items = .error (.configuration cause)) := by
  have reached := Batch.outcome_mapUnder runner.schedule
    (fun item : Text × Option Text => runner.normalizeOne item.1 item.2)
    (Batch.resolveWorkers processors runner.settings.workerCount) runner.settings.batchSize items
  rcases reached.done_or_failed with ⟨results, done, same⟩ | ⟨batch, isBatch, fault, failed, same⟩
  · have related := (List.forall₂_and_left items results).mpr ⟨hears, Batch.mapM_eq_ok_iff.mp done⟩
    refine .inl ⟨results, same, related.imp fun item result both =>
      (yields_of_normalizeOne both.1 both.2).1, fun item member => ?_⟩
    obtain ⟨result, success⟩ := Batch.mapM_succeeds_iff.mp ⟨results, done⟩ item member
    exact (yields_of_normalizeOne (hears item member) success).2
  · obtain ⟨before, item, after, rfl, -, broke⟩ := Batch.mapM_eq_error_iff.mp failed
    have member : item ∈ items := by
      rw [← Batch.flatten_cut (by omega : 0 < max runner.settings.batchSize 1) items]
      exact List.mem_flatten.mpr ⟨_, isBatch, by simp⟩
    obtain ⟨cause, rfl, blocked⟩ := blocked_of_normalizeOne (hears item member) broke
    exact .inr ⟨item, member, cause, blocked, same⟩

end Runner

/-! Lines come out. -/

/-- Lines are printed and no file changes; or they are what the output file then holds, and nothing is
printed, unless the file cannot be written. -/
def Emits (output? : Option FilePath) (lines : List Text) (before : FileStore) (outcome : Printed)
    (after : FileStore) : Prop :=
  match output? with
  | none => outcome = .ok lines ∧ after = before
  | some path =>
    (outcome = .ok [] ∧ after.read path = .ok (Text.toUtf8 (Manifest.textOfLines lines))) ∨
      ∃ cause, cause.OfWriting ∧ outcome = .error (.input cause)

theorem emits_emit (output? : Option FilePath) (lines : List Text) (store : FileStore) :
    Emits output? lines store
      ((emit output? lines fun path => Manifest.writeLines path lines).run store).1
      ((emit output? lines fun path => Manifest.writeLines path lines).run store).2 := by
  cases output? with
  | none => exact ⟨rfl, rfl⟩
  | some path =>
    have steps : (emit (some path) lines fun path => Manifest.writeLines path lines).run store =
        ((((Manifest.replace path (Manifest.textOfLines lines)).run store).1.mapError
            CommandError.input).map fun _ => [],
          ((Manifest.replace path (Manifest.textOfLines lines)).run store).2) := by
      simp [emit, Manifest.writeLines]
    rw [steps]
    rcases Manifest.run_replace path (Manifest.textOfLines lines) store with
      ⟨written, held⟩ | ⟨cause, ofWriting, failed⟩
    · exact .inl ⟨by rw [written]; rfl, held⟩
    · exact .inr ⟨cause, ofWriting, by rw [failed]; rfl⟩

/-! The records of an input. -/

/-- What becomes of items: if one of them is blocked, nothing comes out but the failure of a blocked
item; and otherwise there is one result for each item, in order, and the lines that show the results
come out. -/
structure Completes (runner : Runner) (items : List (Text × Option Text))
    (Shows : List Text → List Text → Prop) (output? : Option FilePath) (before : FileStore)
    (outcome : Printed) (after : FileStore) : Prop where
  blocked : (∃ item ∈ items, runner.Blocked item) → after = before ∧
    ∃ item ∈ items, ∃ cause, runner.normalization item = .error (.configuration cause) ∧
      outcome = .error (.normalization (.configuration cause))
  finished : (∀ item ∈ items, ¬ runner.Blocked item) → ∃ results lines,
    List.Forall₂ runner.Yields items results ∧ Shows results lines ∧
      Emits output? lines before outcome after

section

variable {runner : Runner} {items : List (Text × Option Text)} {Shows : List Text → List Text → Prop}
  {output? : Option FilePath} {store after : FileStore} {outcome : Printed}
  {surroundings : Surroundings} {options : Options} {path : FilePath}

theorem Completes.finished_of_ok (completes : Completes runner items Shows output? store outcome after)
    {printed : List Text} (success : outcome = .ok printed) : ∃ results lines,
      List.Forall₂ runner.Yields items results ∧ Shows results lines ∧
        Emits output? lines store outcome after := by
  refine completes.finished fun item member blocked => ?_
  obtain ⟨-, -, -, cause, -, failed⟩ := completes.blocked ⟨item, member, blocked⟩
  cases success.symm.trans failed

theorem completes_of_normalizeAll (processors : Nat) (hears : ∀ item ∈ items, runner.Hears item)
    (linesOf : List Text → List Text)
    (shows : ∀ results, List.Forall₂ runner.Yields items results → Shows results (linesOf results))
    (failed : ∀ cause, runner.normalizeAll processors items = .error cause →
      (outcome, after) = (.error (.normalization cause), store))
    (done : ∀ results, runner.normalizeAll processors items = .ok results → (outcome, after) =
      (emit output? (linesOf results) fun path => Manifest.writeLines path (linesOf results)).run store) :
    Completes runner items Shows output? store outcome after := by
  rcases runner.normalizeAll_outcome processors hears with
    ⟨results, success, each, free⟩ | ⟨item, member, cause, blocked, failure⟩
  · refine ⟨fun ⟨item, member, blocked⟩ => absurd blocked (free item member), fun _ =>
      ⟨results, linesOf results, each, shows results each, ?_⟩⟩
    obtain ⟨rfl, rfl⟩ := Prod.mk.inj (done results success)
    exact emits_emit output? (linesOf results) store
  · obtain ⟨rfl, rfl⟩ := Prod.mk.inj (failed _ failure)
    exact ⟨fun _ => ⟨rfl, item, member, cause, blocked, rfl⟩,
      fun free => absurd ⟨cause, blocked⟩ (free item member)⟩

theorem completes_runLines {lines : List Text} (silent : options.audioBased = false)
    (read : ((Manifest.readLines path).run store).1 = .ok lines)
    (ran : (runLines surroundings options runner path).run store = (outcome, after)) :
    Completes runner (lines.map fun line => (line, none)) Eq options.outputFile? store outcome
      after := by
  have hears : ∀ item ∈ lines.map fun line => (line, (none : Option Text)), runner.Hears item := by
    simp [Runner.Hears]
  refine completes_of_normalizeAll surroundings.processors hears id (fun results _ => rfl) ?_ ?_
  · intro cause failed
    rw [← ran]
    simp [runLines, silent, Manifest.run_readLines, read, failed]
  · intro results done
    rw [← ran]
    simp [runLines, silent, Manifest.run_readLines, read, done]

/-! Manifests. -/

/-- The item of an entry: its text, and what was heard if that is asked for. -/
inductive Reads (settings : Settings) (entry : JsonObject) : Bool → Text × Option Text → Prop where
  | plain {text : Text} (written : entry.lookup settings.textField = some (.string text)) :
    Reads settings entry false (text, none)
  | heard {text prediction : Text}
    (written : entry.lookup settings.textField = some (.string text))
    (spoken : entry.lookup settings.predictionField = some (.string prediction)) :
    Reads settings entry true (text, some prediction)

/-- Entries are what the lines of a text that are not blank are read as. -/
def HoldsEntries (content : Text) (entries : List JsonObject) : Prop :=
  List.Forall₂ (fun line entry => ∃ tree, Json.Syntax.ofText? line = some tree ∧
    Json.ReadsAs tree (.object entry)) (Manifest.entryLines content.lines) entries

/-- Lines that show entries, each with its result in a field. -/
def ShowsEntries (field : Text) (entries : List JsonObject) (results lines : List Text) : Prop :=
  ∃ finished, List.Forall₂ (fun pair entry => Json.Sets field (.string pair.2) pair.1 entry)
      (entries.zip results) finished ∧
    lines = finished.map Json.compactObject ∧
    ∀ entry ∈ finished, ∃ tree, Json.Syntax.ofText? (Json.compactObject entry) = some tree ∧
      Json.Shows tree (.object entry)

theorem showsEntries_setField {field : Text} {entries : List JsonObject} {results : List Text}
    (readable : ∀ entry ∈ entries,
      Json.Readable (Decimal.isFinite · = true) Json.deepest (.object entry))
    (sameLength : entries.length = results.length) :
    ShowsEntries field entries results
      ((Manifest.setField field entries results).map Json.compactObject) := by
  have distinct : ∀ entry ∈ entries, Json.DistinctNames entry :=
    fun entry isEntry => (readable entry isEntry).distinct
  have finished := Manifest.readable_setField field results readable
  exact ⟨_, Manifest.sets_setField field distinct sameLength, rfl,
    fun entry isFinished => Json.exists_shows_compactObject (finished entry isFinished)⟩

theorem exists_content_of_read {entries : List JsonObject}
    (read : ((Manifest.read path).run store).1 = .ok entries) :
    ∃ content, store.read path = .ok (Text.toUtf8 content) ∧ HoldsEntries content entries := by
  obtain ⟨content, held, each⟩ := Manifest.exists_lines_of_read read
  refine ⟨content, held, each.imp fun line entry found => ?_⟩
  obtain ⟨tree, parsed, isRead⟩ := Json.isRead_of_objectOfText? found
  exact ⟨tree, parsed, isRead.reads⟩

theorem exists_map_of_forall₂ {α β γ : Type} {R : α → γ → Prop} {P : α → β → Prop} {f : β → γ}
    (each : ∀ a c, R a c → ∃ b, P a b ∧ c = f b) {items : List α} {others : List γ}
    (related : List.Forall₂ R items others) :
    ∃ found, List.Forall₂ P items found ∧ others = found.map f := by
  induction related with
  | nil => exact ⟨[], .nil, rfl⟩
  | cons first _ ih =>
    obtain ⟨one, held, rfl⟩ := each _ _ first
    obtain ⟨found, later, rfl⟩ := ih
    exact ⟨one :: found, .cons held later, rfl⟩

theorem texts_of_reads {settings : Settings} {entries : List JsonObject}
    {items : List (Text × Option Text)}
    (reads : List.Forall₂ (fun entry item => Reads settings entry false item) entries items) :
    ∃ texts, Manifest.texts entries settings.textField = .ok texts ∧
      items = texts.map fun text => (text, none) := by
  obtain ⟨texts, each, same⟩ := exists_map_of_forall₂ (f := fun text => (text, none))
    (P := fun entry text => entry.lookup settings.textField = some (.string text))
    (fun entry item reads => by cases reads with | plain written => exact ⟨_, written, rfl⟩) reads
  exact ⟨texts, Manifest.textsFrom_eq_ok_iff.mpr each, same⟩

theorem predictions_of_reads {settings : Settings} {entries : List JsonObject}
    {items : List (Text × Option Text)}
    (reads : List.Forall₂ (fun entry item => Reads settings entry true item) entries items) :
    ∃ texts predictions, Manifest.texts entries settings.textField = .ok texts ∧
      Manifest.texts entries settings.predictionField = .ok predictions ∧
      items = texts.zip (predictions.map some) := by
  obtain ⟨pairs, each, rfl⟩ := exists_map_of_forall₂
    (f := fun pair : Text × Text => (pair.1, some pair.2))
    (P := fun entry pair => entry.lookup settings.textField = some (.string pair.1) ∧
      entry.lookup settings.predictionField = some (.string pair.2))
    (fun entry item reads => by
      cases reads with
      | heard written spoken => exact ⟨(_, _), ⟨written, spoken⟩, rfl⟩) reads
  refine ⟨pairs.map Prod.fst, pairs.map Prod.snd, Manifest.textsFrom_eq_ok_iff.mpr ?_,
    Manifest.textsFrom_eq_ok_iff.mpr ?_, ?_⟩
  · exact List.forall₂_map_right_iff.mpr (each.imp fun _ _ both => both.1)
  · exact List.forall₂_map_right_iff.mpr (each.imp fun _ _ both => both.2)
  · simp [List.zip_map']

theorem itemsOf_of_reads {runner : Runner} {entries : List JsonObject}
    {items : List (Text × Option Text)}
    (reads : List.Forall₂ (fun entry item => Reads runner.settings entry runner.audioBased item)
      entries items) :
    itemsOf runner entries = .ok items ∧ ∀ item ∈ items, runner.Hears item := by
  obtain ⟨normalizer, settings, audioBased, schedule⟩ := runner
  cases audioBased with
  | false =>
    obtain ⟨texts, found, rfl⟩ := texts_of_reads reads
    refine ⟨by simp [itemsOf, found, bind, Except.bind, pure, Except.pure], ?_⟩
    simp [Runner.Hears]
  | true =>
    obtain ⟨texts, predictions, found, alsoFound, rfl⟩ := predictions_of_reads reads
    refine ⟨by simp [itemsOf, found, alsoFound, bind, Except.bind, pure, Except.pure], ?_⟩
    simp [Runner.Hears]

theorem completes_runManifest {entries : List JsonObject}
    (read : ((Manifest.read path).run store).1 = .ok entries)
    (reads : List.Forall₂ (fun entry item => Reads runner.settings entry runner.audioBased item)
      entries items)
    (ran : (runManifest surroundings options runner path).run store = (outcome, after)) :
    Completes runner items (ShowsEntries runner.settings.outputField entries) options.outputFile?
      store outcome after := by
  obtain ⟨gathered, hears⟩ := itemsOf_of_reads reads
  refine completes_of_normalizeAll surroundings.processors hears (fun results =>
    (Manifest.setField runner.settings.outputField entries results).map Json.compactObject) ?_ ?_ ?_
  · intro results each
    have sameLength : entries.length = results.length := reads.length_eq.trans each.length_eq
    obtain ⟨content, -, lines⟩ := Manifest.exists_lines_of_read read
    exact showsEntries_setField (Manifest.readable_of_lines lines) sameLength
  · intro cause failed
    rw [← ran]
    simp [runManifest, Manifest.run_read, read, gathered, failed]
  · intro results done
    rw [← ran]
    simp [runManifest, Manifest.run_read, read, gathered, done]
    rfl

end

/-! The whole command. -/

/-- The settings of a call and a normalizer for them, and the store once both are loaded; loading may
have kept compiled grammars. -/
def Loads (surroundings : Surroundings) (options : Options) (before : FileStore)
    (normalizer : Normalizer) (settings : Settings) (store : FileStore) : Prop :=
  ∃ base between, (loadSettings surroundings options).run before = (.ok base, between) ∧
    settings = options.apply base ∧ settings.validate = .ok () ∧
    (Normalizer.build (GrammarRegistry.standard surroundings.process) settings
      options.direction).run between = (.ok normalizer, store)

theorem runUnder_of_loads {surroundings : Surroundings} {options : Options}
    {before store : FileStore} {normalizer : Normalizer} {settings : Settings}
    (loads : Loads surroundings options before normalizer settings store) (schedule : List Nat) :
    (runUnder schedule surroundings options).run before =
      (runWith surroundings options ⟨normalizer, settings, options.audioBased, schedule⟩).run
        store := by
  obtain ⟨base, between, loaded, rfl, valid, built⟩ := loads
  simp [runUnder, loaded, valid, built]

/-- On a file of texts, whatever turns the workers take, the command has one result for each record
and in its place, or only the failure of a blocked record. Plain lines have nothing that was heard, so
with audio they are refused. -/
theorem runUnder_completes {surroundings : Surroundings} {options : Options}
    {before store : FileStore} {normalizer : Normalizer} {settings : Settings}
    (loads : Loads surroundings options before normalizer settings store)
    (noText : options.text? = none) {input : FilePath} (given : options.inputFile? = some input)
    (schedule : List Nat) {outcome : Printed} {after : FileStore}
    (ran : (runUnder schedule surroundings options).run before = (outcome, after)) :
    (InputFormat.ofPath input = .plain → options.audioBased = true →
      outcome = .error (.manifestNeeded settings.predictionField) ∧ after = store) ∧
    (InputFormat.ofPath input = .plain → options.audioBased = false → ∀ lines,
      ((Manifest.readLines input).run store).1 = .ok lines →
      Completes ⟨normalizer, settings, options.audioBased, schedule⟩
        (lines.map fun line => (line, none)) Eq options.outputFile? store outcome after) ∧
    (InputFormat.ofPath input = .manifest → ∀ entries items,
      ((Manifest.read input).run store).1 = .ok entries →
      List.Forall₂ (fun entry item => Reads settings entry options.audioBased item) entries items →
      (∃ content, store.read input = .ok (Text.toUtf8 content) ∧ HoldsEntries content entries) ∧
      Completes ⟨normalizer, settings, options.audioBased, schedule⟩ items
        (ShowsEntries settings.outputField entries) options.outputFile? store outcome after) := by
  rw [runUnder_of_loads loads] at ran
  refine ⟨fun plain asked => ?_, fun plain silent lines read => ?_,
    fun manifest entries items read reads => ?_⟩
  · simp only [runWith, noText, given, plain, runLines, asked] at ran
    obtain ⟨rfl, rfl⟩ := Prod.mk.inj ran
    exact ⟨rfl, rfl⟩
  · simp only [runWith, noText, given, plain] at ran
    exact completes_runLines silent read ran
  · simp only [runWith, noText, given, manifest] at ran
    exact ⟨exists_content_of_read read, completes_runManifest read reads ran⟩

/-! A call with a small store. -/

/-- An entry with numbers of many digits, and with a name that it repeats. -/
def longEntry : Text :=
  "\x7b\"text\":\"5\",\"duration\":15.093512166818995,\"id\":123456789012345678901,\"tag\":1,\"tag\":2\x7d".toList

/-- A store with grammars that know one letter, and with inputs: lines, entries, and an entry with numbers
of many digits and a name that it repeats. -/
def smallStore : FileStore :=
  let grammars := ["g".toList, "en".toList, "tn".toList]
  let letter := Text.toUtf8 "0\t1\t97\t98\n1\n".toList
  ⟨[], [(grammars ++ ["tokenize.fst.txt".toList], .file letter),
    (grammars ++ ["verbalize.fst.txt".toList], .file letter),
    (["in.txt".toList], .file (Text.toUtf8 "5\n6\n".toList)),
    (["in.json".toList], .file (Text.toUtf8
      "\x7b\"text\":\"5\",\"normalized\":1,\"id\":7\x7d\n\n\x7b\"text\":\"6\"\x7d\n".toList)),
    (["long.json".toList], .file (Text.toUtf8 (longEntry ++ ['\n']))),
    (grammars, .directory), (["g".toList, "en".toList], .directory), (["g".toList], .directory)]⟩

def bareSurroundings : Surroundings := ⟨none, none, 1, 0⟩

/-- A call on an input, for two workers that take one record at a time. -/
def smallCall (input : String) (audioBased : Bool) : Options :=
  { Options.none with
    inputFile? := some input.toList, grammarDirectory? := some "g".toList, workerCount? := some 2
    batchSize? := some 1, audioBased := audioBased }

def smallSettings (input : String) (audioBased : Bool) : Settings :=
  (smallCall input audioBased).apply (.standard (Settings.standardGrammarDirectory none))

def smallBuild (input : String) (audioBased : Bool) :
    Except NormalizationError Normalizer × FileStore :=
  (Normalizer.build (GrammarRegistry.standard 0) (smallSettings input audioBased) .normalize).run
    smallStore

theorem loads_small {input : String} {audioBased : Bool} {normalizer : Normalizer}
    (built : (smallBuild input audioBased).1 = .ok normalizer) :
    Loads bareSurroundings (smallCall input audioBased) smallStore normalizer
      (smallSettings input audioBased) (smallBuild input audioBased).2 :=
  ⟨_, smallStore, rfl, rfl, rfl, by rw [← built]; exact (Prod.eta _).symm⟩

theorem exists_loads_small {α : Type} {input : String} {audioBased : Bool}
    {observe : Normalizer → α} {value : α}
    (seen : (smallBuild input audioBased).1.toOption.map observe = some value) :
    ∃ normalizer, Loads bareSurroundings (smallCall input audioBased) smallStore normalizer
      (smallSettings input audioBased) (smallBuild input audioBased).2 ∧
      observe normalizer = value := by
  cases built : (smallBuild input audioBased).1 with
  | error fault => simp [built, Except.toOption] at seen
  | ok normalizer => exact ⟨normalizer, loads_small built, by simpa [built, Except.toOption] using seen⟩

/-- The second worker takes the first record. One entry had the output field, and the other gets
it. -/
theorem runUnder_completes_two_entries :
    ∃ normalizer store entries results,
      Loads bareSurroundings (smallCall "in.json" false) smallStore normalizer
        (smallSettings "in.json" false) store ∧
      ((Manifest.read "in.json".toList).run store).1 = .ok entries ∧
      (∃ content, store.read "in.json".toList = .ok (Text.toUtf8 content) ∧
        HoldsEntries content entries) ∧
      List.Forall₂ (Runner.Yields ⟨normalizer, smallSettings "in.json" false, false, [1, 0]⟩)
        [("5".toList, none), ("6".toList, none)] results ∧
      ShowsEntries "normalized".toList entries results
        ["\x7b\"text\":\"5\",\"normalized\":\"5\",\"id\":7\x7d".toList,
          "\x7b\"text\":\"6\",\"normalized\":\"6\"\x7d".toList] := by
  have printed : ((runUnder [1, 0] bareSurroundings (smallCall "in.json" false)).run smallStore).1 =
      .ok ["\x7b\"text\":\"5\",\"normalized\":\"5\",\"id\":7\x7d".toList,
        "\x7b\"text\":\"6\",\"normalized\":\"6\"\x7d".toList] := by
    decide +kernel
  have found : (((Manifest.read "in.json".toList).run (smallBuild "in.json" false).2).1.bind
      fun entries => Manifest.texts entries "text".toList) = .ok ["5".toList, "6".toList] := by
    decide +kernel
  have built : (smallBuild "in.json" false).1.toOption.map (fun _ => ()) = some () := by
    decide +kernel
  obtain ⟨normalizer, loads, -⟩ := exists_loads_small built
  cases read : ((Manifest.read "in.json".toList).run (smallBuild "in.json" false).2).1 with
  | error cause =>
    rw [read] at found
    cases found
  | ok entries =>
    rw [read] at found
    have texts : Manifest.texts entries "text".toList = .ok ["5".toList, "6".toList] := found
    have reads : List.Forall₂ (fun entry item =>
        Reads (smallSettings "in.json" false) entry false item) entries
        (["5".toList, "6".toList].map fun text => (text, none)) :=
      List.forall₂_map_right_iff.mpr
        ((Manifest.textsFrom_eq_ok_iff.mp texts).imp fun _ _ written => .plain written)
    obtain ⟨held, completes⟩ := (runUnder_completes loads rfl rfl [1, 0] (Prod.eta _).symm).2.2 (by decide)
      entries _ read reads
    obtain ⟨results, lines, each, shows, emits⟩ := completes.finished_of_ok printed
    obtain rfl := Except.ok.inj (printed.symm.trans emits.1)
    exact ⟨normalizer, _, entries, results, loads, read, held, each, shows⟩

/-- The spelling of a number in a field of an object. -/
def numberIn? (field : Text) : Json.Syntax → Option Json.NumberSpelling
  | .object keys values => ((keys.map Json.stringValue?).zip values).findSome? fun member =>
    match member with
    | (some name, .number spelling) => if name = field then some spelling else none
    | _ => none
  | _ => none

/-- The line that is printed for the entry with long numbers. -/
def roundedLine : Text :=
  ("\x7b\"text\":\"5\",\"duration\":15.093512166818996,\"id\":1.2345678901234567e+20,\"tag\":2," ++
    "\"normalized\":\"5\"\x7d").toList

/-- Plain lines of which none comes up against a limit are refused nevertheless if audio is asked for; and
the other fields of a record are not kept as the file has them: long numbers come out rounded. -/
theorem lines_refused_and_numbers_rounded :
    (∃ normalizer store, Loads bareSurroundings (smallCall "in.txt" true) smallStore normalizer
        (smallSettings "in.txt" true) store ∧
      ((Manifest.readLines "in.txt".toList).run store).1 = .ok ["5".toList, "6".toList] ∧
      (∀ item ∈ [("5".toList, none), ("6".toList, none)],
        ¬ Runner.Blocked ⟨normalizer, smallSettings "in.txt" true, true, []⟩ item) ∧
      ((run bareSurroundings (smallCall "in.txt" true)).run smallStore).1 =
        .error (.manifestNeeded "pred_text".toList) ∧
      ¬ ∃ after, Completes ⟨normalizer, smallSettings "in.txt" true, true, []⟩
        [("5".toList, none), ("6".toList, none)] Eq none store
        ((run bareSurroundings (smallCall "in.txt" true)).run smallStore).1 after) ∧
    smallStore.read "long.json".toList = .ok (Text.toUtf8 (longEntry ++ ['\n'])) ∧
    ((run bareSurroundings (smallCall "long.json" false)).run smallStore).1 = .ok [roundedLine] ∧
    ∃ written printed : Json.NumberSpelling,
      (Json.Syntax.ofText? longEntry).bind (numberIn? "duration".toList) = some written ∧
      (Json.Syntax.ofText? roundedLine).bind (numberIn? "duration".toList) = some printed ∧
      written.size ≠ printed.size := by
  have refused : ((run bareSurroundings (smallCall "in.txt" true)).run smallStore).1 =
      .error (.manifestNeeded "pred_text".toList) := by
    decide +kernel
  have seen : (smallBuild "in.txt" true).1.toOption.map
      (fun normalizer => (normalizer.normalize "5".toList, normalizer.normalize "6".toList)) =
        some (.error (.noTaggingPath "5".toList), .error (.noTaggingPath "6".toList)) := by
    decide +kernel
  obtain ⟨normalizer, loads, both⟩ := exists_loads_small seen
  obtain ⟨first, second⟩ := Prod.mk.inj both
  have free : ∀ item ∈ [("5".toList, none), ("6".toList, none)],
      ¬ Runner.Blocked ⟨normalizer, smallSettings "in.txt" true, true, []⟩ item := by
    refine List.forall_mem_cons.mpr ⟨?_, List.forall_mem_singleton.mpr ?_⟩
    · rintro ⟨cause, failed⟩
      cases first.symm.trans failed
    · rintro ⟨cause, failed⟩
      cases second.symm.trans failed
  refine ⟨⟨normalizer, _, loads, by decide +kernel, free, refused, fun ⟨after, completes⟩ => ?_⟩,
    by decide +kernel, by decide +kernel, ⟨false, "15".toList, "093512166818995".toList, none⟩,
    ⟨false, "15".toList, "093512166818996".toList, none⟩, by decide +kernel, by decide +kernel, ?_⟩
  · obtain ⟨-, lines, -, -, emits⟩ := completes.finished free
    cases refused.symm.trans emits.1
  · exact (Json.size_lt_size (by decide +kernel) (by decide +kernel)).ne

end SpokenForm.CommandLine
