import Traceability.Check.File
import Traceability.Proofs.Tag.Position

/-!
The check of a source file always has a result.

Reading a source text goes from marks to comments, tags and places.  Each of these steps can
fail when it is entered in a state that contradicts the text, and from a source text none
of them does: `SourceFile.check_eq` says what the check gives instead, with the tags of the
comments that the scan of all marks finds.
-/

namespace Traceability

theorem mapM_eq_ok {α β ε : Type} {read : α → Except ε β} {value : α → β} {items : List α}
    (each : ∀ item ∈ items, read item = .ok (value item)) :
    items.mapM read = .ok (items.map value) := by
  induction items with
  | nil => rfl
  | cons item rest ih =>
      rw [List.mapM_cons, each item (.head _), ih fun other member => each other (.tail _ member)]
      rfl

namespace MarkSet

def sourceComments (marks : MarkSet) (source : Text) : List Comment :=
  (SourceMark.scan (marks.sourceMarks source)).1.map (·.comment (Text.physicalLines source))

def openBlock? (marks : MarkSet) (source : Text) : Option UnclosedBlock :=
  (SourceMark.scan (marks.sourceMarks source)).2.map (·.block (Text.physicalLines source))

theorem extract_eq (marks : MarkSet) (source : Text) :
    marks.extract source = .ok
      { comments := marks.sourceComments source, unterminated := marks.openBlock? source } :=
  marks.extract_eq_scan source

/-- The tags of all comments, in the order in which their comments end. -/
def sourceTags (marks : MarkSet) (source : Text) : List Tag :=
  (marks.sourceComments source).flatMap fun comment =>
    BlockReading.tagsFrom comment.startLine comment.startCol Tag.idPart comment.startLine
      comment.content

def occurrences (marks : MarkSet) (filePath source : Text) : List Occurrence :=
  (marks.sourceTags source).map fun tag =>
    { filePath, tag, sourceLine := (Text.shownLines source)[tag.startLine - 1]?.getD [] }

variable {marks : MarkSet} {source : Text}

theorem tagsOfAll_sourceComments (marks : MarkSet) (source : Text) :
    tagsOfAll (marks.sourceComments source) = .ok (marks.sourceTags source) := by
  have each : ∀ comment ∈ marks.sourceComments source, comment.tags =
      .ok (BlockReading.tagsFrom comment.startLine comment.startCol Tag.idPart
        comment.startLine comment.content) := by
    intro comment member
    exact tags_of_mem_extract (marks.extract_eq_scan source) member
  rw [tagsOfAll, mapM_eq_ok each, sourceTags, List.flatMap]
  rfl

theorem startLine_pos_of_mem_sourceTags {tag : Tag} (member : tag ∈ marks.sourceTags source) :
    0 < tag.startLine := by
  obtain ⟨comment, inComments, inTags⟩ := List.mem_flatMap.mp member
  obtain ⟨index, text, hit, _, _, rfl⟩ := BlockReading.mem_tagsFrom inTags
  have within := (within_of_mem_extract (marks.extract_eq_scan source) inComments).1
  exact Nat.add_pos_left within.startLine_pos index

private theorem ofTag_eq (filePath : Text) (lines : List Text) {tag : Tag}
    (positive : 0 < tag.startLine) :
    Occurrence.ofTag filePath lines tag =
      .ok { filePath, tag, sourceLine := lines[tag.startLine - 1]?.getD [] } := by
  cases number : tag.startLine with
  | zero => omega
  | succ index => simp only [Occurrence.ofTag, number]; rfl

theorem occurrencesIn_eq (marks : MarkSet) (filePath source : Text) :
    occurrencesIn marks filePath source =
      .ok (marks.occurrences filePath source, marks.openBlock? source) := by
  have each : ∀ tag ∈ marks.sourceTags source,
      Occurrence.ofTag filePath (Text.shownLines source) tag =
        .ok { filePath, tag,
              sourceLine := (Text.shownLines source)[tag.startLine - 1]?.getD [] } := by
    intro tag member
    exact ofTag_eq filePath _ (startLine_pos_of_mem_sourceTags member)
  have tags := tagsOfAll_sourceComments marks source
  rw [sourceComments] at tags
  simp only [occurrencesIn, marks.extract_eq_scan source]
  change (tagsOfAll _).bind _ = _
  rw [tags]
  change Except.bind ((marks.sourceTags source).mapM
    (Occurrence.ofTag filePath (Text.shownLines source))) _ = _
  rw [mapM_eq_ok each]
  rfl

end MarkSet

structure SourceFile where
  path : Text
  source : Text
  deriving DecidableEq, Repr

namespace SourceFile

def check (choice : LanguageChoice) (file : SourceFile) : Except Fault FileCheck :=
  FileCheck.ofSource file.source file.path choice

def occurrences (choice : LanguageChoice) (file : SourceFile) : List Occurrence :=
  (choice.resolve file.path).marks.occurrences file.path file.source

def pairing (choice : LanguageChoice) (file : SourceFile) : FilePairing :=
  .ofOccurrences (file.occurrences choice)

def checked (choice : LanguageChoice) (file : SourceFile) : FileCheck :=
  { filePath := file.path, language := choice.resolve file.path
    issues := (file.pairing choice).issues
    localScope := (file.pairing choice).localScope
    sharedScope := (file.pairing choice).sharedScope
    unterminated := (choice.resolve file.path).marks.openBlock? file.source }

theorem check_eq (choice : LanguageChoice) (file : SourceFile) :
    file.check choice = .ok (file.checked choice) := by
  simp only [check, FileCheck.ofSource, MarkSet.occurrencesIn_eq]
  rfl

theorem mapM_check (choice : LanguageChoice) (files : List SourceFile) :
    files.mapM (check choice) = .ok (files.map (checked choice)) :=
  mapM_eq_ok fun file _ => check_eq choice file

theorem filePath_of_mem_occurrences {choice : LanguageChoice} {file : SourceFile}
    {occurrence : Occurrence} (member : occurrence ∈ file.occurrences choice) :
    occurrence.filePath = file.path := by
  obtain ⟨tag, _, rfl⟩ := List.mem_map.mp member
  rfl

end SourceFile

/-- The issues of each file in the order of the files, then those of all files together. -/
def FileCheck.allIssues (checks : List FileCheck) : List Issue :=
  checks.flatMap (·.issues) ++ (ProjectPairing.ofChecks checks).issues

/-- The check of a file never fails, whatever its text, its path and the choice of a
language: no cut is misplaced, no open block lacks its content, and no line or column falls
below zero. -/
theorem FileCheck.ofSource_succeeds (source filePath : Text) (choice : LanguageChoice) :
    ∃ check, FileCheck.ofSource source filePath choice = .ok check :=
  ⟨_, SourceFile.check_eq choice { path := filePath, source }⟩

end Traceability
