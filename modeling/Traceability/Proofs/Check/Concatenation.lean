import Traceability.Proofs.Check.SourceFile
import Traceability.Proofs.Comment.Moved
import Traceability.Proofs.Text.Lines

/-!
Two texts, one written below the other.

The lines of both texts follow each other, so all that the second text can notice of the first
is a block that is still open.  Without one, its comments and tags are what they are alone,
moved down by the lines of the first text.
-/

namespace Traceability

def Tag.moved (count : Nat) (tag : Tag) : Tag :=
  { tag with startLine := tag.startLine + count, endLine := tag.endLine + count }

/-! ### Tags -/

namespace BlockReading

theorem tagsFrom_moved (count startLine startCol : Nat) (transform : Text → Text) (number : Nat)
    (lines : List Text) :
    tagsFrom (startLine + count) startCol transform (number + count) lines =
      (tagsFrom startLine startCol transform number lines).map (·.moved count) := by
  induction lines generalizing number with
  | nil => rfl
  | cons text others ih =>
      have shift : shiftOf (startLine + count) startCol (number + count) =
          shiftOf startLine startCol number := by
        simp only [shiftOf, Nat.add_right_cancel_iff]
      have later := ih (number + 1)
      rw [Nat.add_right_comm] at later
      rw [tagsFrom, tagsFrom]
      cases KeywordHit.find text with
      | none => exact later
      | some hit =>
          simp only [later, shift, List.map_cons, tagAt, Tag.moved, Nat.add_right_comm]

end BlockReading

namespace MarkSet

variable {marks : MarkSet}

private theorem exists_run (marks : MarkSet) (source : Text) :
    ∃ last, Extraction.run marks 1 (Text.physicalLines source) .outside =
        .ok (marks.sourceComments source, last) ∧
      last.open? = marks.openBlock? source := by
  have extracted := marks.extract_eq source
  rw [extract] at extracted
  cases ran : Extraction.run marks 1 (Text.physicalLines source) .outside with
  | error fault =>
      rw [ran] at extracted
      cases extracted
  | ok result =>
      rw [ran] at extracted
      injection extracted with same
      injection same with comments unterminated
      exact ⟨result.2, by rw [← comments], unterminated⟩

theorem sourceComments_prefix (marks : MarkSet) (first second : Text) :
    marks.sourceComments first <+: marks.sourceComments (first ++ '\n' :: second) := by
  obtain ⟨middle, front, _⟩ := marks.exists_run first
  obtain ⟨last, whole, _⟩ := marks.exists_run (first ++ '\n' :: second)
  rw [Text.physicalLines_append, Extraction.run_append, front] at whole
  change (Extraction.run marks _ _ middle).map _ = _ at whole
  cases back : Extraction.run marks (1 + (Text.physicalLines first).length)
      (Text.physicalLines second) middle with
  | error fault =>
      rw [back] at whole
      cases whole
  | ok result =>
      rw [back] at whole
      injection whole with same
      injection same with comments _
      exact ⟨result.1, comments⟩

/-- Below a text without an open block everything is as it is alone, only further down. -/
theorem extraction_append (marks : MarkSet) (first second : Text)
    (closed : marks.openBlock? first = none) :
    marks.sourceComments (first ++ '\n' :: second) =
        marks.sourceComments first ++
          (marks.sourceComments second).map (·.moved (Text.pieces first).length) ∧
      marks.openBlock? (first ++ '\n' :: second) =
        (marks.openBlock? second).map (·.moved (Text.pieces first).length) := by
  obtain ⟨middle, front, opened⟩ := marks.exists_run first
  obtain ⟨state, back, backOpened⟩ := marks.exists_run second
  obtain ⟨last, whole, wholeOpened⟩ := marks.exists_run (first ++ '\n' :: second)
  have length : (Text.physicalLines first).length = (Text.pieces first).length :=
    List.length_map _
  have outside : middle = Extraction.State.moved (Text.pieces first).length .outside := by
    rw [closed] at opened
    cases middle with
    | outside => rfl
    | inside block => cases opened
  rw [Text.physicalLines_append, Extraction.run_append, front] at whole
  change (Extraction.run marks _ _ middle).map _ = _ at whole
  rw [outside, length, Extraction.run_moved, back] at whole
  injection whole with same
  injection same with comments lastState
  refine ⟨comments.symm, ?_⟩
  rw [← wholeOpened, ← lastState, ← backOpened]
  exact Extraction.open?_moved _ _

/-- The comments of a text are a front part of those of the text with another one below it.
Where the first text leaves no block open, the comments, the open block and the tags are those
of the first text and then those of the second one, moved down by the lines of the first. -/
theorem extract_concatenation (marks : MarkSet) (first second : Text) :
    ∃ front back whole frontTags backTags wholeTags,
      marks.extract first = .ok front ∧ marks.extract second = .ok back ∧
      marks.extract (first ++ '\n' :: second) = .ok whole ∧
      tagsOfAll front.comments = .ok frontTags ∧ tagsOfAll back.comments = .ok backTags ∧
      tagsOfAll whole.comments = .ok wholeTags ∧
      front.comments <+: whole.comments ∧
      (front.unterminated = none →
        whole.comments =
          front.comments ++ back.comments.map (·.moved (Text.pieces first).length) ∧
        whole.unterminated = back.unterminated.map (·.moved (Text.pieces first).length) ∧
        wholeTags = frontTags ++ backTags.map (·.moved (Text.pieces first).length)) := by
  refine ⟨_, _, _, _, _, _, marks.extract_eq first, marks.extract_eq second,
    marks.extract_eq _, marks.tagsOfAll_sourceComments first,
    marks.tagsOfAll_sourceComments second, marks.tagsOfAll_sourceComments _,
    marks.sourceComments_prefix first second, ?_⟩
  intro closed
  obtain ⟨comments, unterminated⟩ := marks.extraction_append first second closed
  refine ⟨comments, unterminated, ?_⟩
  rw [sourceTags, comments, List.flatMap_append, List.flatMap_map]
  congr 1
  rw [sourceTags, List.map_flatMap]
  congr 1
  funext comment
  exact BlockReading.tagsFrom_moved _ _ _ _ _ _

end MarkSet
end Traceability
