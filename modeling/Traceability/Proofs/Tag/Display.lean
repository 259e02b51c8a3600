import Traceability.Proofs.Tag.KeywordForm
import Traceability.Proofs.Tag.IdPart
import Traceability.Proofs.Tag.Segmentation

/-!
A tag that is written in a line comment is read back.

The keyword stands at the front of the comment, and it is the one that is read unless a
requirement is found behind a satisfaction.  What follows its colon is the identifier, so a tag that
is displayed differs from the one that is read in its place only (`Comment.tags_display`).
-/

namespace Traceability

open KeywordHit (Separates Stands)
open Tag (writtenKeyword)

namespace Comment

variable {comment : Comment}

theorem tags_written {kind : TagKind} {qualifier : Option Text} {gap after : Text}
    (proper : Tag.IsQualifier qualifier) (separates : Separates gap)
    (noRequire : kind = .satisfied → ¬Stands .require (writtenKeyword kind qualifier ++ after))
    (isLine : comment.kind = .line)
    (content : comment.content = [gap ++ (writtenKeyword kind qualifier ++ after)]) :
    comment.tags = .ok [
      { kind, qualifier, id := Tag.idPart after, startLine := comment.startLine,
        startCol := comment.startCol + (gap ++ writtenKeyword kind qualifier).length,
        endLine := comment.endLine, endCol := comment.endCol }] := by
  have keyword := KeywordHit.find_written proper separates noRequire
  have column := Text.columnAt_byteLength (gap ++ writtenKeyword kind qualifier) after
  rw [List.append_assoc] at column
  rw [tags, tagsWith, isLine]
  simp only [lineTag_eq content, keyword, Option.map_some, column]
  rw [← List.append_assoc, List.drop_left]
  rfl

/-- The tag at the place that it has in a line comment, behind white space. -/
def displayedAt (comment : Comment) (spaces : Text) (tag : Tag) : Tag :=
  { tag with
    startLine := comment.startLine
    startCol := comment.startCol + (spaces ++ writtenKeyword tag.kind tag.qualifier).length
    endLine := comment.endLine
    endCol := comment.endCol }

/-- A displayed tag is read back, at the place of the comment, also where this place is only claimed
and the column of the tag fits. -/
theorem tags_display {tag : Tag} {spaces : Text} (qualifier : Tag.IsQualifier tag.qualifier)
    (id : Tag.idPart tag.id = tag.id)
    (noRequire : tag.kind = .satisfied → KeywordHit.findKind .require tag.display = none)
    (areSpaces : ∀ c ∈ spaces, Text.isSpace c = true) (isLine : comment.kind = .line)
    (content : comment.content = [spaces ++ tag.display]) :
    comment.tags = .ok [comment.displayedAt spaces tag] ∧
      ((comment.displayedAt spaces tag).startCol < UInt64.size →
        comment.boundedTagsWith Tag.idPart = .ok [comment.displayedAt spaces tag]) := by
  have absent : tag.kind = .satisfied →
      ¬Stands .require (writtenKeyword tag.kind tag.qualifier ++ ' ' :: tag.id) :=
    fun satisfied => KeywordHit.findKind_eq_none_iff.mp (noRequire satisfied)
  have afterSpace : Tag.idPart (' ' :: tag.id) = tag.id := by
    rw [← List.singleton_append, Tag.idPart_append_left Text.isSpace_of_mem_space, id]
  have read : comment.tags = .ok [comment.displayedAt spaces tag] := by
    rw [tags_written qualifier (KeywordHit.separates_of_spaces areSpaces) absent isLine content,
      afterSpace]
    rfl
  exact ⟨read, boundedTagsWith_line_of_fits isLine read⟩

def keywordInId : Tag :=
  { kind := .satisfied, qualifier := some "extern".toList
    id := "SATISFIED(x): größe (REQUIRE) *:".toList
    startLine := 1, startCol := 1, endLine := 1, endCol := 1 }

def displaysKeywordInId : Comment :=
  { kind := .line, startLine := 4, startCol := 9, endLine := 4, endCol := 60
    content := ["\u3000\t".toList ++ keywordInId.display] }

theorem tags_display_keywordInId :
    Tag.IsQualifier keywordInId.qualifier ∧ Tag.idPart keywordInId.id = keywordInId.id ∧
    (keywordInId.kind = .satisfied → KeywordHit.findKind .require keywordInId.display = none) ∧
    (∀ c ∈ "\u3000\t".toList, Text.isSpace c = true) ∧ displaysKeywordInId.kind = .line ∧
    displaysKeywordInId.content = ["\u3000\t".toList ++ keywordInId.display] ∧
    displaysKeywordInId.tags =
      .ok [displaysKeywordInId.displayedAt "\u3000\t".toList keywordInId] ∧
    (displaysKeywordInId.displayedAt "\u3000\t".toList keywordInId).startCol < UInt64.size ∧
    displaysKeywordInId.boundedTagsWith Tag.idPart =
      .ok [displaysKeywordInId.displayedAt "\u3000\t".toList keywordInId] :=
  have qualifier : Tag.IsQualifier keywordInId.qualifier := by decide
  have id : Tag.idPart keywordInId.id = keywordInId.id := by decide
  have noRequire : KeywordHit.findKind .require keywordInId.display = none := by decide
  have spaces : ∀ c ∈ "\u3000\t".toList, Text.isSpace c = true := List.all_eq_true.mp rfl
  have fits : (displaysKeywordInId.displayedAt "\u3000\t".toList keywordInId).startCol <
      UInt64.size := by decide
  have ⟨read, bounded⟩ := tags_display qualifier id (fun _ => noRequire) spaces rfl rfl
  ⟨qualifier, id, fun _ => noRequire, spaces, rfl, rfl, read, fits, bounded fits⟩

end Comment
end Traceability
