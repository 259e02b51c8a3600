import Traceability.Proofs.Check.SourceFile
import Traceability.Proofs.Comment.MarkedComment
import Traceability.Proofs.Issue.FilePairing
import Traceability.Proofs.Tag.Coverage

/-!
Where the tags of a duplicate stand.

A comment starts after the end of every earlier block, so the tags of the two do not meet.
A line comment runs to the end of its line, and each later mark on that line begins another
comment: what follows the mark is read twice.  The tags of a text therefore come in the order
of their places, except where a line comment and a comment that starts on its line are
read one after the other (`MarkSet.sourceTags_ordered`).
-/

namespace Traceability

/-- The tags are those of a line comment and of a later comment that starts on its line. -/
def MarkSet.ReadTwice (marks : MarkSet) (source : Text) (earlier later : Tag) : Prop :=
  ∃ extraction outer inner outerTags innerTags,
    marks.extract source = .ok extraction ∧ [outer, inner].Sublist extraction.comments ∧
    outer.kind = .line ∧ inner.startLine = outer.startLine ∧
    outer.tags = .ok outerTags ∧ earlier ∈ outerTags ∧
    inner.tags = .ok innerTags ∧ later ∈ innerTags

/-! ### Tags of two comments -/

namespace Tag.CoveredBy

variable {comment other : Comment} {earlier later : Tag}

theorem startLine_le (covered : earlier.CoveredBy comment) :
    comment.startLine ≤ earlier.startLine := by
  rcases Prod.Lex.toLex_le_toLex.mp covered.start_le with below | ⟨same, _⟩
  · exact Nat.le_of_lt below
  · exact Nat.le_of_eq same

theorem endLine_le (covered : earlier.CoveredBy comment) : earlier.endLine ≤ comment.endLine := by
  rcases Prod.Lex.toLex_le_toLex.mp covered.stop_le with below | ⟨same, _⟩
  · exact Nat.le_of_lt below
  · exact Nat.le_of_eq same

theorem start_lt_of_line (covered : earlier.CoveredBy comment)
    (otherCovered : later.CoveredBy other) (below : comment.endLine < other.startLine) :
    earlier.start < later.start := by
  apply Prod.Lex.toLex_lt_toLex.mpr
  left
  have stop := covered.endLine_le
  have start := otherCovered.startLine_le
  have ordered := covered.ordered
  omega

theorem start_lt_of_col (covered : earlier.CoveredBy comment)
    (otherCovered : later.CoveredBy other) (sameLine : comment.endLine = other.startLine)
    (apart : comment.endCol + 1 < other.startCol) : earlier.start < later.start := by
  apply Prod.Lex.toLex_lt_toLex.mpr
  have stopLine := covered.endLine_le
  have startLine := otherCovered.startLine_le
  have ordered := covered.ordered
  rcases Nat.lt_or_ge earlier.startLine later.startLine with below | notBelow
  · exact .inl below
  · right
    have oneLine : earlier.startLine = earlier.endLine := by omega
    have column := covered.onOneLine oneLine
    have stop := Prod.Lex.toLex_le_toLex.mp covered.stop_le
    have start := Prod.Lex.toLex_le_toLex.mp otherCovered.start_le
    refine ⟨by omega, ?_⟩
    rcases stop with stopBelow | ⟨_, stopCol⟩
    · omega
    · rcases start with startBelow | ⟨_, startCol⟩
      · omega
      · simp only at stopCol startCol
        omega

end Tag.CoveredBy

def Comment.readTags (comment : Comment) : List Tag :=
  BlockReading.tagsFrom comment.startLine comment.startCol Tag.idPart comment.startLine
    comment.content

namespace MarkSet

variable {marks : MarkSet} {source : Text}

private def commentAt (source : Text) (comment : MarkedComment) : Comment :=
  comment.place.comment (Text.physicalLines source)

private theorem sourceComments_eq (marks : MarkSet) (source : Text) :
    marks.sourceComments source = (marks.markedComments source).map (commentAt source) := by
  rw [sourceComments, scan_sourceMarks, List.map_map]
  rfl

private theorem readTags_of_mem {comment : Comment}
    (member : comment ∈ marks.sourceComments source) :
    comment.tags = .ok comment.readTags ∧ (∀ tag ∈ comment.readTags, tag.CoveredBy comment) ∧
      comment.readTags.Pairwise fun earlier later => earlier.endLine < later.startLine := by
  have read : comment.tags = .ok comment.readTags :=
    tags_of_mem_extract (marks.extract_eq source) member
  obtain ⟨tags, sameTags, covered, apart⟩ :=
    covered_of_mem_extract (marks.extract_eq source) member Tag.idPart
  obtain rfl : comment.readTags = tags := by
    have same := read.symm.trans sameTags
    injection same
  exact ⟨read, covered, apart⟩

private theorem readTags_ordered {comment : Comment}
    (member : comment ∈ marks.sourceComments source) :
    comment.readTags.Pairwise fun earlier later => earlier.start < later.start := by
  obtain ⟨_, covered, apart⟩ := readTags_of_mem member
  refine apart.imp_of_mem ?_
  intro earlier later earlierMember _ before
  have ordered := (covered earlier earlierMember).ordered
  apply Prod.Lex.toLex_lt_toLex.mpr
  left
  omega

/-- Tags of two comments: only the text of a line comment can be read again. -/
private theorem ordered_of_sublist {outer inner : MarkedComment}
    (before : [outer, inner].Sublist (marks.markedComments source)) {earlier later : Tag}
    (earlierMember : earlier ∈ (commentAt source outer).readTags)
    (laterMember : later ∈ (commentAt source inner).readTags) :
    earlier.start < later.start ∨ marks.ReadTwice source earlier later := by
  have inSource : [commentAt source outer, commentAt source inner].Sublist
      (marks.sourceComments source) := by
    rw [sourceComments_eq]
    exact before.map (commentAt source)
  obtain ⟨outerRead, outerCovered, _⟩ := readTags_of_mem (inSource.subset (.head _))
  obtain ⟨innerRead, innerCovered, _⟩ :=
    readTags_of_mem (inSource.subset (.tail _ (.head _)))
  have covered := outerCovered earlier earlierMember
  have laterCovered := innerCovered later laterMember
  have startLine : (commentAt source inner).startLine = inner.first.number :=
    inner.place_startLine
  have startCol : (commentAt source inner).startCol = inner.first.colAfter := inner.place_startCol
  cases outer with
  | line mark =>
      have number := number_le_of_line before
      rcases Nat.lt_or_ge mark.number inner.first.number with below | notBelow
      · left
        apply covered.start_lt_of_line laterCovered
        rw [startLine]
        exact below
      · right
        refine ⟨_, _, _, _, _, marks.extract_eq source, inSource, rfl, ?_, outerRead,
          earlierMember, innerRead, laterMember⟩
        rw [startLine]
        exact Nat.le_antisymm notBelow number
  | block opening closing =>
      left
      rcases stop_lt_of_block before with below | ⟨sameLine, apart⟩
      · apply covered.start_lt_of_line laterCovered
        rw [startLine]
        exact below
      · apply covered.start_lt_of_col laterCovered
        · rw [startLine]
          exact sameLine
        · rw [startCol]
          exact apart

theorem sourceTags_ordered (marks : MarkSet) (source : Text) :
    (marks.sourceTags source).Pairwise fun earlier later =>
      earlier.start < later.start ∨ marks.ReadTwice source earlier later := by
  have tags : marks.sourceTags source =
      (marks.markedComments source).flatMap fun comment => (commentAt source comment).readTags := by
    rw [sourceTags, sourceComments_eq, List.flatMap_map]
    rfl
  rw [tags]
  apply List.pairwise_flatMap.mpr
  constructor
  · intro comment member
    have inSource : commentAt source comment ∈ marks.sourceComments source := by
      rw [sourceComments_eq]
      exact List.mem_map_of_mem member
    exact (readTags_ordered inSource).imp .inl
  · apply List.pairwise_iff_forall_sublist.mpr
    intro outer inner before earlier earlierMember later laterMember
    exact ordered_of_sublist before earlierMember laterMember

end MarkSet

/-! ### Duplicates -/

/-- The tag of a duplicate starts after the one that is kept, unless the two were read from a
line comment and a comment that starts on its line. -/
theorem FileCheck.duplicates_ordered (source filePath : Text) (choice : LanguageChoice) :
    ∃ check, FileCheck.ofSource source filePath choice = .ok check ∧
      ∀ later first, .duplicate later first ∈ check.issues →
        first.tag.start < later.tag.start ∨
          (choice.resolve filePath).marks.ReadTwice source first.tag later.tag := by
  let marks := (choice.resolve filePath).marks
  refine ⟨_, SourceFile.check_eq choice { path := filePath, source }, ?_⟩
  intro later first member
  have before := Occurrence.sublist_of_mem_duplicates (FilePairing.mem_duplicates member)
  have ordered : (marks.occurrences filePath source).Pairwise fun earlier later =>
      earlier.tag.start < later.tag.start ∨ marks.ReadTwice source earlier.tag later.tag :=
    List.pairwise_map.mpr (marks.sourceTags_ordered source)
  exact List.pairwise_iff_forall_sublist.mp ordered before

/-- A tag behind two marks of a line comment is a duplicate of itself. -/
theorem FileCheck.duplicate_of_itself :
    let source := "## REQUIRE: a\n# SATISFIED: a".toList
    let occurrence : Occurrence :=
      { filePath := "a.py".toList, sourceLine := "## REQUIRE: a".toList
        tag := { kind := .require, qualifier := none, id := "a".toList
                 startLine := 1, startCol := 12, endLine := 1, endCol := 13 } }
    ∃ check, FileCheck.ofSource source "a.py".toList (.explicit .python) = .ok check ∧
      check.issues = [.duplicate occurrence occurrence] :=
  ⟨_, rfl, rfl⟩

end Traceability
