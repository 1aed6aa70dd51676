import SpokenForm.Proofs.Files.Sibling
import SpokenForm.Proofs.Manifest

/-! Files of lines. A list of lines can be read back from the file that it was written to exactly if none
of its lines holds a line feed or ends with a carriage return; and lines that were read are of this
kind, so whatever a file held, reading it, writing the lines and reading again changes none of them. -/
namespace SpokenForm

namespace Text

theorem dropReturn_of_last {line : Text} (kept : line.getLast? ≠ some '\r') : dropReturn line = line := by
  unfold dropReturn
  split
  · rename_i rest backwards
    have ends : line.getLast? = some '\r' := by rw [← List.head?_reverse, backwards, List.head?_cons]
    exact absurd ends kept
  · rfl

/-- Dropping a carriage return leaves the front of a line. -/
theorem front_of_dropReturn (line : Text) : dropReturn line <+: line := by
  unfold dropReturn
  split
  · rename_i rest backwards
    have whole : line = rest.reverse ++ ['\r'] := by simpa using congrArg List.reverse backwards
    exact ⟨['\r'], whole.symm⟩
  · exact List.prefix_rfl

theorem notMem_of_mem_splitFrom {separator : Char} {text piece found : Text} (plain : separator ∉ piece)
    (member : found ∈ splitFrom separator piece text) : separator ∉ found := by
  induction text generalizing piece with
  | nil =>
    obtain rfl := List.mem_singleton.mp member
    simpa using plain
  | cons c text ih =>
    unfold splitFrom at member
    split at member
    · rcases List.mem_cons.mp member with rfl | later
      · simpa using plain
      · exact ih (List.not_mem_nil) later
    · rename_i different
      exact ih (by simp [plain, Ne.symm different]) member

/-- Every line is the front of a piece between line feeds. -/
theorem exists_piece_of_mem_linesOfPieces {pieces : List Text} {line : Text}
    (member : line ∈ linesOfPieces pieces) : ∃ piece ∈ pieces, line <+: piece := by
  fun_induction linesOfPieces pieces with
  | case1 => cases member
  | case2 last empty => cases member
  | case3 last nonempty =>
    obtain rfl := List.mem_singleton.mp member
    exact ⟨line, List.mem_singleton_self line, List.prefix_rfl⟩
  | case4 piece rest more ih =>
    rcases List.mem_cons.mp member with rfl | later
    · exact ⟨piece, List.mem_cons_self, front_of_dropReturn piece⟩
    · obtain ⟨other, inside, front⟩ := ih later
      exact ⟨other, List.mem_cons_of_mem piece inside, front⟩

theorem lineFeed_notMem_of_mem_lines {text line : Text} (member : line ∈ lines text) : '\n' ∉ line := by
  obtain ⟨piece, between, front⟩ := exists_piece_of_mem_linesOfPieces member
  have plain := notMem_of_mem_splitFrom List.not_mem_nil between
  exact fun inside => plain (front.subset inside)

/-- The last piece of an ended text is empty, and no line. -/
theorem linesOfPieces_ended (pieces : List Text) :
    linesOfPieces (pieces ++ [[]]) = pieces.map dropReturn := by
  induction pieces with
  | nil => rfl
  | cons piece pieces ih =>
    have ended : pieces ++ [[]] ≠ [] := by simp
    obtain ⟨next, rest, more⟩ := List.exists_cons_of_ne_nil ended
    rw [List.cons_append, more, linesOfPieces, ← more, ih, List.map_cons]
    simp

end Text

namespace Manifest

/-- A line that can be told from its neighbours in a file. -/
structure IsLine (line : Text) : Prop where
  noFeed : '\n' ∉ line
  noReturn : line.getLast? ≠ some '\r'

theorem dropReturns_of_last {line : Text} (kept : line.getLast? ≠ some '\r') :
    dropReturns line = line := by
  unfold dropReturns
  cases backwards : line.reverse with
  | nil => simpa using backwards.symm
  | cons c rest =>
    have last : line.getLast? = some c := by rw [← List.head?_reverse, backwards, List.head?_cons]
    have different : (c == '\r') = false := by
      have apart : c ≠ '\r' := fun same => kept (by rw [last, same])
      simpa using apart
    rw [List.dropWhile_cons_of_neg (by simp [different]), ← backwards, List.reverse_reverse]

theorem front_of_dropReturns (line : Text) : dropReturns line <+: line := by
  have behind := List.dropWhile_suffix (l := line.reverse) (· == '\r')
  simpa [dropReturns] using List.reverse_prefix.mpr behind

theorem getLast?_dropReturns (line : Text) : (dropReturns line).getLast? ≠ some '\r' := by
  rw [dropReturns, List.getLast?_reverse]
  intro first
  have rejected := List.head?_dropWhile_not (· == '\r') line.reverse
  rw [first] at rejected
  cases rejected

theorem isLine_of_mem_linesOfText {content line : Text} (member : line ∈ linesOfText content) :
    IsLine line := by
  obtain ⟨longer, among, rfl⟩ := List.mem_map.mp member
  refine ⟨?_, getLast?_dropReturns longer⟩
  intro inside
  exact Text.lineFeed_notMem_of_mem_lines among ((front_of_dropReturns longer).subset inside)

theorem split_textOfLines {lines : List Text} (plain : ∀ line ∈ lines, '\n' ∉ line) :
    Text.split '\n' (textOfLines lines) = lines ++ [[]] := by
  induction lines with
  | nil => rfl
  | cons line lines ih =>
    obtain ⟨here, later⟩ := List.forall_mem_cons.mp plain
    have written : textOfLines (line :: lines) = line ++ '\n' :: textOfLines lines := by
      simp [textOfLines]
    rw [written, Text.split_append, Text.split_of_notMem here, ih later]
    rfl

/-- Lines are told apart in the text that is made of them. -/
theorem linesOfText_textOfLines {lines : List Text} (each : ∀ line ∈ lines, IsLine line) :
    linesOfText (textOfLines lines) = lines := by
  have plain : ∀ line ∈ lines, '\n' ∉ line := fun line member => (each line member).noFeed
  rw [linesOfText, Text.lines, split_textOfLines plain, Text.linesOfPieces_ended, List.map_map]
  conv_rhs => rw [← List.map_id lines]
  apply List.map_congr_left
  intro line member
  have kept := (each line member).noReturn
  rw [Function.comp_apply, Text.dropReturn_of_last kept, dropReturns_of_last kept, id]

theorem linesOfText_textOfLines_iff {lines : List Text} :
    linesOfText (textOfLines lines) = lines ↔ ∀ line ∈ lines, IsLine line := by
  constructor
  · intro same line member
    rw [← same] at member
    exact isLine_of_mem_linesOfText member
  · exact linesOfText_textOfLines

/-! Files. -/

theorem readLines_of_read {path : FilePath} {store : FileStore} {content : Text}
    (held : store.read path = .ok (Text.toUtf8 content)) :
    ((readLines path).run store).1 = .ok (linesOfText content) := by
  have spelled : ((FileScript.readText path).run store).1 = .ok content :=
    FileScript.readText_of_read held
  simp [readLines, spelled]

theorem readLines_of_writeLines {path : FilePath} {store : FileStore} {lines : List Text}
    (written : ((writeLines path lines).run store).1 = .ok ()) :
    ((readLines path).run ((writeLines path lines).run store).2).1 =
      .ok (linesOfText (textOfLines lines)) :=
  readLines_of_read ((course_of_ends (FileScript.ends_run _ store)).written written)

/-- Lines are read back as they were written exactly if none holds a line feed or ends with a carriage
return; and the lines of any text are read back as they were read, wherever they are written. -/
theorem written_lines_are_read_back :
    (∀ (store : FileStore) (path : FilePath) (lines : List Text),
      ((writeLines path lines).run store).1 = .ok () →
      (((readLines path).run ((writeLines path lines).run store).2).1 = .ok lines ↔
        ∀ line ∈ lines, IsLine line)) ∧
    ∀ (store : FileStore) (path : FilePath) (content : Text),
      store.read path = .ok (Text.toUtf8 content) →
      ∃ lines, ((readLines path).run store).1 = .ok lines ∧
        ∀ (later : FileStore) (target : FilePath),
          ((writeLines target lines).run later).1 = .ok () →
          ((readLines target).run ((writeLines target lines).run later).2).1 = .ok lines := by
  constructor
  · intro store path lines written
    rw [readLines_of_writeLines written, Except.ok.injEq, linesOfText_textOfLines_iff]
  · intro store path content held
    refine ⟨linesOfText content, readLines_of_read held, ?_⟩
    intro later target written
    rw [readLines_of_writeLines written, linesOfText_textOfLines]
    intro line member
    exact isLine_of_mem_linesOfText member

/-- Lines with nothing on two of them, and with a carriage return inside another. -/
def sampleLines : List Text := ["12 kg".toList, [], "a\rb".toList, []]

/-- The text of a file whose lines end in several ways; the last one is not ended. -/
def sampleContent : Text := "a\r\r\n\n\rb\nc\r".toList

def sampleContentLines : List Text := ["a".toList, [], "\rb".toList, "c".toList]

def sampleStore : FileStore := ⟨[], [(["in.txt".toList], .file (Text.toUtf8 sampleContent))]⟩

theorem written_lines_are_read_back_sample :
    (∀ line ∈ sampleLines, IsLine line) ∧
      ((readLines "out/lines.txt".toList).run
        ((writeLines "out/lines.txt".toList sampleLines).run sampleStore).2).1 = .ok sampleLines ∧
      ((readLines "in.txt".toList).run sampleStore).1 = .ok sampleContentLines ∧
      ((readLines "in.txt".toList).run
        ((writeLines "in.txt".toList sampleContentLines).run sampleStore).2).1 =
          .ok sampleContentLines := by
  have each : ∀ line ∈ sampleLines, IsLine line := by
    have checked : ∀ line ∈ sampleLines, '\n' ∉ line ∧ line.getLast? ≠ some '\r' := by
      decide +kernel
    exact fun line member => ⟨(checked line member).1, (checked line member).2⟩
  have held : sampleStore.read "in.txt".toList = .ok (Text.toUtf8 sampleContent) := rfl
  obtain ⟨lines, read, again⟩ := written_lines_are_read_back.2 sampleStore "in.txt".toList _ held
  obtain rfl : lines = sampleContentLines := by
    have same : lines = linesOfText sampleContent :=
      Except.ok.inj (read.symm.trans (readLines_of_read held))
    rw [same]
    decide +kernel
  refine ⟨each, ?_, read, again sampleStore "in.txt".toList (by decide +kernel)⟩
  exact (written_lines_are_read_back.1 sampleStore "out/lines.txt".toList sampleLines
    (by decide +kernel)).mpr each

end Manifest

end SpokenForm
