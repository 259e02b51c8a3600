import Traceability.Proofs.Check.SourceFile
import Traceability.Proofs.Issue.FilePairing
import Traceability.Proofs.Tag.KeywordForm
import Traceability.Proofs.Text.Lines
import Traceability.Report.Issues

/-!
The source line that is shown beside an issue.

A tag gets the number of its line from the lines in which comments are found, and the line itself
is looked up among the lines that are shown.  Its keyword stands on the line, so the line is not
empty and the two agree (`Text.getElem?_shownLines`).  The columns before the caret are therefore
those of the text up to the colon of the keyword, all of it on the line.
-/

namespace Traceability

theorem Tag.getLast?_writtenKeyword (kind : TagKind) (qualifier : Option Text) :
    (writtenKeyword kind qualifier).getLast? = some ':' := by
  rw [writtenKeyword_eq, List.getLast?_concat]

/-! ### The line of a tag -/

/-- The line that is shown beside a tag is the one the tag starts on, and what stands before the
place of the tag is on it and ends with the keyword. -/
structure Occurrence.ShowsLine (source : Text) (occurrence : Occurrence) : Prop where
  line_pos : 0 < occurrence.line
  physical : ∃ line, (Text.physicalLines source)[occurrence.line - 1]? = some line ∧
    occurrence.sourceLine = Text.asShown source occurrence.line line
  shown : (Text.shownLines source)[occurrence.line - 1]? = some occurrence.sourceLine
  col_pos : 0 < occurrence.col
  col_le : occurrence.col - 1 ≤ occurrence.sourceLine.length
  keyword : Tag.writtenKeyword occurrence.kind occurrence.tag.qualifier <:+
    occurrence.sourceLine.take (occurrence.col - 1)

theorem Occurrence.ShowsLine.colon {source : Text} {occurrence : Occurrence}
    (shows : occurrence.ShowsLine source) :
    (occurrence.sourceLine.take (occurrence.col - 1)).getLast? = some ':' := by
  obtain ⟨front, split⟩ := shows.keyword
  rw [← split, List.getLast?_append, Tag.getLast?_writtenKeyword, Option.some_or]

theorem Tag.WrittenIn.showsLine {source : Text} {tag : Tag}
    (written : tag.WrittenIn (Text.physicalLines source)) (filePath : Text) :
    Occurrence.ShowsLine source
      { filePath, tag, sourceLine := (Text.shownLines source)[tag.startLine - 1]?.getD [] } := by
  obtain ⟨line, found, fits, keyword⟩ := written.keyword
  have number : tag.startLine - 1 + 1 = tag.startLine := Nat.sub_add_cancel written.startLine_pos
  have nonempty : line ≠ [] := by
    rintro rfl
    rw [List.take_nil, List.suffix_nil] at keyword
    have colon := getLast?_writtenKeyword tag.kind tag.qualifier
    rw [keyword] at colon
    cases colon
  have shown := Text.getElem?_shownLines found nonempty
  rw [number] at shown
  have inLine : tag.startCol - 1 ≤ line.length := by omega
  obtain ⟨rest, whole⟩ := Text.prefix_asShown source tag.startLine line
  rw [shown, Option.getD_some]
  constructor
  · exact written.startLine_pos
  · exact ⟨line, found, rfl⟩
  · exact shown
  · exact written.startCol_pos
  · exact inLine.trans (Text.prefix_asShown source tag.startLine line).length_le
  · simp only [Occurrence.col, Occurrence.kind]
    rw [← whole, List.take_append_of_le_length inLine]
    exact keyword

namespace MarkSet

variable {marks : MarkSet} {filePath source : Text}

theorem writtenIn_of_mem_sourceTags {tag : Tag} (member : tag ∈ marks.sourceTags source) :
    tag.WrittenIn (Text.physicalLines source) := by
  obtain ⟨comment, inComments, inTags⟩ := List.mem_flatMap.mp member
  have extracted := marks.extract_eq_scan source
  obtain ⟨index, text, hit, found, keyword, rfl⟩ :=
    exists_entry_of_mem_extract extracted inComments inTags
  have within := (within_of_mem_extract extracted inComments).1
  exact within.tagAt_writtenIn found keyword (List.takeWhile_prefix _)

theorem showsLine_of_mem_occurrences {occurrence : Occurrence}
    (member : occurrence ∈ marks.occurrences filePath source) : occurrence.ShowsLine source := by
  obtain ⟨tag, inTags, rfl⟩ := List.mem_map.mp member
  exact (writtenIn_of_mem_sourceTags inTags).showsLine filePath

end MarkSet

/-! ### The tags that a check shows -/

/-- The tag is in a scope of the check, or an issue of the check is about it. -/
inductive FileCheck.Mentions (check : FileCheck) (occurrence : Occurrence) : Prop
  | inLocalScope (kind : TagKind) (id : Text)
      (found : check.localScope.first? kind id = some occurrence)
  | inSharedScope (kind : TagKind) (id : Text)
      (found : (check.sharedScope.get kind).get? id = some occurrence)
  | inIssue (issue : Issue) (member : issue ∈ check.issues) (anchor : occurrence ∈ issue.anchors)

theorem SourceFile.mem_occurrences_of_mentions {choice : LanguageChoice} {file : SourceFile}
    {occurrence : Occurrence} (mentions : (file.checked choice).Mentions occurrence) :
    occurrence ∈ file.occurrences choice := by
  have after := FilePairing.after_routed (file.occurrences choice)
  cases mentions with
  | inLocalScope kind id found =>
      have first := (after.localScope.first kind id).symm.trans found
      exact List.mem_of_mem_filter (Occurrence.of_first?_eq_some first).1
  | inSharedScope kind id found =>
      have first := (after.sharedScope kind id).symm.trans found
      exact List.mem_of_mem_filter (Occurrence.of_first?_eq_some first).1
  | inIssue issue member anchor => exact FilePairing.mem_of_mem_anchors member anchor

theorem Report.caretColumns_of_showsLine {source : Text} {issue : Issue}
    (shows : issue.location.ShowsLine source) :
    ∃ front rest, issue.location.sourceLine = front ++ ':' :: rest ∧
      front.length + 2 = issue.location.col ∧
      caretColumns issue = Text.width (front ++ [':']) := by
  obtain ⟨front, measured⟩ := List.getLast?_eq_some_iff.mp shows.colon
  refine ⟨front, issue.location.sourceLine.drop (issue.location.col - 1), ?_, ?_, ?_⟩
  · have whole := List.take_append_drop (issue.location.col - 1) issue.location.sourceLine
    rw [measured, List.append_assoc] at whole
    exact whole.symm
  · have length := congrArg List.length measured
    rw [List.length_take_of_le shows.col_le, List.length_append, List.length_singleton] at length
    have positive := shows.col_pos
    omega
  · rw [caretColumns, measured]

/-- Whatever the text, the path and the choice of a language, every tag in the scopes and the
issues of a check shows the line it starts on, and a caret stands right after the colon of the
tag that it points at. -/
theorem FileCheck.sourceLine_shown (source filePath : Text) (choice : LanguageChoice) :
    ∃ check, FileCheck.ofSource source filePath choice = .ok check ∧
      (∀ occurrence, check.Mentions occurrence → occurrence.ShowsLine source) ∧
      ∀ issue : Issue, check.Mentions issue.location →
        ∃ front rest, issue.location.sourceLine = front ++ ':' :: rest ∧
          front.length + 2 = issue.location.col ∧
          Report.caretColumns issue = Text.width (front ++ [':']) := by
  let file : SourceFile := { path := filePath, source }
  have shows : ∀ occurrence, (file.checked choice).Mentions occurrence →
      occurrence.ShowsLine source := by
    intro occurrence mentions
    exact MarkSet.showsLine_of_mem_occurrences (SourceFile.mem_occurrences_of_mentions mentions)
  refine ⟨_, file.check_eq choice, shows, ?_⟩
  intro issue mentions
  exact Report.caretColumns_of_showsLine (shows issue.location mentions)

/-- No line feed follows the last line, so its carriage return belongs to the line. -/
example :
    ∃ check, FileCheck.ofSource "// REQUIRE: a\r\n// SATISFIED: b\r".toList "a.rs".toList .auto =
        .ok check ∧
      check.issues.map (·.location.sourceLine) =
        ["// REQUIRE: a".toList, "// SATISFIED: b\r".toList] :=
  ⟨_, rfl, rfl⟩

end Traceability
