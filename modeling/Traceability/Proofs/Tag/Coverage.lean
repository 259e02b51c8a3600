import Mathlib.Data.Prod.Lex
import Traceability.Proofs.Tag.Position

/-!
A tag lies within its comment, and the tags of one comment do not share a line.

Places are compared by line, then by column.  A tag ends where the last of its lines ends,
which is before the next blank line or keyword, so it ends before the next tag starts.  The
identifiers play no part: they may be made in any way from the lines.
-/

namespace Traceability

open Text (columnAt)

def Comment.start (comment : Comment) : Nat ×ₗ Nat :=
  toLex (comment.startLine, comment.startCol)

def Comment.stop (comment : Comment) : Nat ×ₗ Nat :=
  toLex (comment.endLine, comment.endCol)

def Tag.start (tag : Tag) : Nat ×ₗ Nat :=
  toLex (tag.startLine, tag.startCol)

def Tag.stop (tag : Tag) : Nat ×ₗ Nat :=
  toLex (tag.endLine, tag.endCol)

/-- The tag starts and ends within the comment.  On one line it ends at most one column before
its start, as a tag without an identifier does. -/
structure Tag.CoveredBy (comment : Comment) (tag : Tag) : Prop where
  start_le : comment.start ≤ tag.start
  stop_le : tag.stop ≤ comment.stop
  ordered : tag.startLine ≤ tag.endLine
  onOneLine : tag.startLine = tag.endLine → tag.startCol ≤ tag.endCol + 1

namespace BlockReading

private theorem length_takeWhile_le {lines : List Text} {index : Nat} {text : Text}
    (found : lines[index]? = some text) (stops : continues text = false) :
    (lines.takeWhile continues).length ≤ index := by
  rcases Nat.lt_or_ge index (lines.takeWhile continues).length with inside | outside
  · have goesOn : continues (lines.takeWhile continues)[index] = true :=
      List.mem_takeWhile_imp (List.getElem_mem inside)
    rw [(List.takeWhile_prefix continues).getElem inside,
      (List.getElem?_eq_some_iff.mp found).2, stops] at goesOn
    cases goesOn
  · exact outside

/-- A tag ends before the line on which the next one starts. -/
theorem tagsFrom_apart (startLine startCol : Nat) (transform : Text → Text) (number : Nat)
    (lines : List Text) :
    (tagsFrom startLine startCol transform number lines).Pairwise
      fun earlier later => earlier.endLine < later.startLine := by
  induction lines generalizing number with
  | nil => exact .nil
  | cons text others ih =>
      rw [tagsFrom]
      cases KeywordHit.find text with
      | none => exact ih (number + 1)
      | some hit =>
          apply List.Pairwise.cons
          · intro later member
            obtain ⟨index, line, laterHit, found, keyword, rfl⟩ := mem_tagsFrom member
            have stops : continues line = false := by simp [continues, keyword]
            have before := length_takeWhile_le found stops
            simp only [tagAt]
            omega
          · exact ih (number + 1)

end BlockReading

theorem CommentPlace.Within.tagAt_coveredBy {lines : List Text} {place : CommentPlace}
    (within : place.Within lines) {index : Nat} {text : Text}
    (found : (place.comment lines).content[index]? = some text) (hit : KeywordHit)
    {more : List Text} (taken : more <+: (place.comment lines).content.drop (index + 1))
    (transform : Text → Text) :
    (BlockReading.tagAt transform (place.shift index) (place.startLine + index) text hit
      more).CoveredBy (place.comment lines) := by
  obtain ⟨last, lastFound, endCol⟩ := last_of_taken found taken
  obtain ⟨inside, _, front, _, _, _, frontLength, _, closed⟩ := within.exists_line lastFound
  constructor
  · apply Prod.Lex.toLex_le_toLex.mpr
    cases index with
    | zero =>
        right
        simp only [CommentPlace.comment, BlockReading.tagAt, CommentPlace.shift, if_true]
        omega
    | succ index =>
        left
        simp only [CommentPlace.comment, BlockReading.tagAt]
        omega
  · apply Prod.Lex.toLex_le_toLex.mpr
    simp only [CommentPlace.comment, BlockReading.tagAt, endCol, ← frontLength,
      ← List.length_append]
    rcases Nat.lt_or_ge (place.startLine + (index + more.length)) place.endLine with
      earlier | atEnd
    · left
      omega
    · right
      have lastLine : place.startLine + (index + more.length) = place.endLine := by omega
      rw [closed lastLine]
      omega
  · exact Nat.le_add_right _ _
  · intro oneLine
    simp only [BlockReading.tagAt, Nat.left_eq_add, List.length_eq_zero_iff] at oneLine
    subst oneLine
    have column := Text.columnAt_le_length text hit.stop
    simp only [BlockReading.tagAt, List.getLast?_nil, Option.elim_none]
    omega

namespace MarkSet

variable {marks : MarkSet} {source : Text} {result : Extraction} {comment : Comment}

private theorem covered_of_line (extracted : marks.extract source = .ok result)
    (member : comment ∈ result.comments) (kind : comment.kind = .line)
    (transform : Text → Text) :
    ∃ tags, comment.tagsWith transform = .ok tags ∧ (∀ tag ∈ tags, tag.CoveredBy comment) ∧
      tags.Pairwise fun earlier later => earlier.endLine < later.startLine := by
  obtain ⟨oneLine, text, content, endCol⟩ := text_of_line_comment extracted member kind
  refine ⟨_, by rw [Comment.tagsWith, kind, Comment.lineTag_eq content]; rfl, ?_, ?_⟩
  · intro tag inTags
    obtain ⟨hit, _, rfl⟩ := Option.map_eq_some_iff.mp (Option.mem_toList.mp inTags)
    constructor
    · exact Prod.Lex.toLex_le_toLex.mpr (.inr ⟨rfl, Nat.le_add_right _ _⟩)
    · exact le_refl _
    · exact Nat.le_of_eq oneLine
    · intro _
      have column := Text.columnAt_le_length text hit.stop
      simp only
      omega
  · cases KeywordHit.find text with
    | none => exact .nil
    | some hit => exact List.pairwise_singleton _ _

private theorem covered_of_block (extracted : marks.extract source = .ok result)
    (member : comment ∈ result.comments) (kind : comment.kind = .block)
    (transform : Text → Text) :
    ∃ tags, comment.tagsWith transform = .ok tags ∧ (∀ tag ∈ tags, tag.CoveredBy comment) ∧
      tags.Pairwise fun earlier later => earlier.endLine < later.startLine := by
  have within := (within_of_mem_extract extracted member).1
  refine ⟨_, Comment.tagsWith_block kind within.startCol_pos transform,
    ?_, BlockReading.tagsFrom_apart _ _ _ _ _⟩
  intro tag inTags
  obtain ⟨index, text, hit, found, _, rfl⟩ := exists_entry_of_mem_extract extracted member inTags
  obtain ⟨start, stop, ordered, onOneLine⟩ := within.tagAt_coveredBy found hit
    (List.takeWhile_prefix BlockReading.continues) transform
  exact ⟨start, stop, ordered, onOneLine⟩

theorem covered_of_mem_extract (extracted : marks.extract source = .ok result)
    (member : comment ∈ result.comments) (transform : Text → Text) :
    ∃ tags, comment.tagsWith transform = .ok tags ∧ (∀ tag ∈ tags, tag.CoveredBy comment) ∧
      tags.Pairwise fun earlier later => earlier.endLine < later.startLine := by
  cases kind : comment.kind with
  | line => exact covered_of_line extracted member kind transform
  | block => exact covered_of_block extracted member kind transform

/-- Whatever identifiers are made of the lines, every comment has its tags, each of them within
the comment and each after the end of the one before it. -/
theorem tags_covered (marks : MarkSet) (source : Text) :
    ∃ result, marks.extract source = .ok result ∧
      ∀ comment ∈ result.comments, ∀ transform, ∃ tags,
        comment.tagsWith transform = .ok tags ∧ (∀ tag ∈ tags, tag.CoveredBy comment) ∧
        tags.Pairwise fun earlier later => earlier.endLine < later.startLine := by
  refine ⟨_, marks.extract_eq_scan source, ?_⟩
  intro comment member transform
  exact covered_of_mem_extract (marks.extract_eq_scan source) member transform

end MarkSet
end Traceability
