import Traceability.Proofs.Tag.Display
import Traceability.Proofs.Tag.Segmentation

/-!
The layout of a tag in its comment plays no part in what the tag is.

Text on one line has the same tags in a comment of either kind (`Comment.tags_onLine`).  An
identifier may be broken over the lines of a block comment, each part decorated in its own way: the
tag has the kind, the qualifier and the identifier that it has where the parts follow each other
on one line (`Comment.tags_reflow`).
-/

namespace Traceability

open KeywordHit (Separates Stands)
open Tag (writtenKeyword)
open Text (columnAt isSpace join)

/-! ### One line -/

/-- A comment that has its text on one line. -/
def Comment.onLine (kind : CommentKind) (startLine startCol : Nat) (text : Text) : Comment :=
  { kind, startLine, startCol, endLine := startLine, endCol := startCol + text.length - 1,
    content := [text] }

namespace Comment

variable {comment : Comment} {transform : Text → Text} {tags : List Tag}

/-- The column of the tag is the only number of a single line that may not fit. -/
theorem boundedTagsWith_singleLine {text : Text} (isBlock : comment.kind = .block)
    (positive : 0 < comment.startCol) (content : comment.content = [text])
    (lineFits : comment.startLine + 1 < UInt64.size)
    (endFits : text.length + (comment.startCol - 1) < UInt64.size)
    (read : comment.tagsWith transform = .ok tags) :
    comment.boundedTagsWith transform =
      if tags.all (·.startCol < UInt64.size) then .ok tags else .error .beyondWord := by
  have shift : BlockReading.shiftOf comment.startLine comment.startCol comment.startLine =
      comment.startCol - 1 := if_pos rfl
  have stepped := @BlockReading.step_idle comment.startLine _ positive transform
    comment.startLine text
  rw [tagsWith_block isBlock positive, content] at read
  obtain rfl := Except.ok.inj read
  rw [boundedTagsWith, isBlock, content]
  dsimp only
  rw [BlockReading.run, BlockReading.boundedStep_of_step lineFits stepped, BlockReading.tagsFrom]
  cases keyword : KeywordHit.find text with
  | none => rfl
  | some hit =>
      have fits : (BlockReading.State.opened (BlockReading.openedAt transform
          (comment.startCol - 1) comment.startLine text hit)).fits =
            decide (columnAt text hit.stop + 1 + (comment.startCol - 1) < UInt64.size) :=
        (congrArg (_ && ·) (decide_eq_true endFits)).trans (Bool.and_true _)
      simp only [shift, Option.elim_some, fits, BlockReading.tagAt, BlockReading.tagsFrom,
        List.all_cons, List.all_nil, Bool.and_true]
      split <;> rfl

/-- A line comment and a block comment on one line have the same tags.  Where the place of
the comment is only claimed they are read alike as well, if the line after it has a number: both
give these tags, or both find that the column of a tag does not fit. -/
theorem tags_onLine (startLine : Nat) {startCol : Nat} (positive : 1 ≤ startCol) (text : Text) :
    ∃ tags, (onLine .line startLine startCol text).tags = .ok tags ∧
      (onLine .block startLine startCol text).tags = .ok tags ∧
      (startLine + 1 < UInt64.size → startCol + text.length - 1 < UInt64.size →
        ∃ result, (onLine .line startLine startCol text).boundedTagsWith Tag.idPart = result ∧
          (onLine .block startLine startCol text).boundedTagsWith Tag.idPart = result ∧
          result = if tags.all (·.startCol < UInt64.size) then .ok tags
            else .error .beyondWord) := by
  have endCol : text.length + (startCol - 1) = startCol + text.length - 1 := by omega
  have blockStart : 0 < (onLine .block startLine startCol text).startCol := positive
  have lineStart : 0 < (onLine .line startLine startCol text).startCol := positive
  have block := tagsWith_block rfl blockStart Tag.idPart
  have line := tags_line rfl rfl rfl lineStart endCol
  refine ⟨_, line, block, ?_⟩
  intro lineFits endFits
  have endFits : text.length + (startCol - 1) < UInt64.size := by omega
  exact ⟨_, boundedTagsWith_line rfl line,
    boundedTagsWith_singleLine rfl blockStart rfl lineFits endFits block, rfl⟩

theorem tags_onLine_severalBytes :
    1 ≤ 5 ∧ 7 + 1 < UInt64.size ∧ 5 + 26 - 1 < UInt64.size ∧
    ∃ tags, (onLine .line 7 5 "é → SATISFIED(x): * größe ".toList).tags = .ok tags ∧
      (onLine .block 7 5 "é → SATISFIED(x): * größe ".toList).tags = .ok tags ∧
      ∃ result, (onLine .line 7 5 "é → SATISFIED(x): * größe ".toList).boundedTagsWith
          Tag.idPart = result ∧
        (onLine .block 7 5 "é → SATISFIED(x): * größe ".toList).boundedTagsWith
          Tag.idPart = result ∧
        result = if tags.all (·.startCol < UInt64.size) then .ok tags else .error .beyondWord :=
  have positive : 1 ≤ 5 := by decide
  have lineFits : 7 + 1 < UInt64.size := by decide
  have endFits : 5 + 26 - 1 < UInt64.size := by decide
  have ⟨tags, line, block, bounded⟩ :=
    tags_onLine 7 positive "é → SATISFIED(x): * größe ".toList
  ⟨positive, lineFits, endFits, tags, line, block, bounded lineFits endFits⟩

/-- On the last line that has a number only the line comment can be read: a block comment asks for
the number of the line after it. -/
theorem boundedTagsWith_lastLine :
    (onLine .line (UInt64.size - 1) 1 "REQUIRE: a".toList).boundedTagsWith Tag.idPart =
      .ok [{ kind := .require, qualifier := none, id := ['a'], startLine := UInt64.size - 1,
             startCol := 9, endLine := UInt64.size - 1, endCol := 10 }] ∧
    (onLine .block (UInt64.size - 1) 1 "REQUIRE: a".toList).boundedTagsWith Tag.idPart =
      .error .beyondWord := by
  decide

end Comment

/-! ### Parts on lines of their own -/

/-- A part of an identifier on a line: white space, a run of stars and white space stand before
it, and white space stands after it. -/
structure PartLine where
  part : Text
  isPart : Tag.idPart part = part
  noKeyword : KeywordHit.find part = none
  indent : Text
  stars : Nat
  gap : Text
  tail : Text
  indentSpaces : ∀ c ∈ indent, isSpace c = true
  gapSpaces : ∀ c ∈ gap, isSpace c = true
  tailSpaces : ∀ c ∈ tail, isSpace c = true

namespace PartLine

def text (line : PartLine) : Text :=
  line.indent ++ (List.replicate line.stars '*' ++ (line.gap ++ (line.part ++ line.tail)))

theorem idPart_text (line : PartLine) : Tag.idPart line.text = line.part :=
  Tag.idPart_decorated line.isPart line.stars line.indentSpaces line.gapSpaces line.tailSpaces

theorem map_idPart_text (lines : List PartLine) :
    (lines.map text).map Tag.idPart = lines.map part := by
  rw [List.map_map]
  exact List.map_congr_left fun line _ => line.idPart_text

theorem not_stands_part (line : PartLine) (kind : TagKind) : ¬Stands kind line.part :=
  KeywordHit.find_eq_none_iff.mp line.noKeyword kind

theorem not_stands_text (line : PartLine) (kind : TagKind) : ¬Stands kind line.text := by
  have stars : Separates (List.replicate line.stars '*') := by
    intro c member
    rw [List.eq_of_mem_replicate member]
    decide
  intro stands
  have afterIndent := stands.of_gap_append (KeywordHit.separates_of_spaces line.indentSpaces)
  have afterStars := afterIndent.of_gap_append stars
  have afterGap := afterStars.of_gap_append (KeywordHit.separates_of_spaces line.gapSpaces)
  have inPart := afterGap.of_append_gap (KeywordHit.separates_of_spaces line.tailSpaces)
  exact line.not_stands_part kind inPart

theorem find_text (line : PartLine) : KeywordHit.find line.text = none :=
  KeywordHit.find_eq_none_iff.mpr line.not_stands_text

theorem continues_text {line : PartLine} (written : isBlankLine line.part = false) :
    BlockReading.continues line.text = true := by
  refine BlockReading.continues_iff.mpr ⟨?_, line.find_text⟩
  simp only [isBlankLine, Bool.not_eq_false', List.any_eq_true] at written ⊢
  obtain ⟨c, member, letter⟩ := written
  exact ⟨c, by simp [text, member], letter⟩

end PartLine

theorem BlockReading.tagsFrom_eq_nil (startLine startCol : Nat) (transform : Text → Text)
    (number : Nat) {lines : List Text} (noKeyword : ∀ text ∈ lines, KeywordHit.find text = none) :
    tagsFrom startLine startCol transform number lines = [] := by
  apply List.eq_nil_iff_forall_not_mem.mpr
  intro tag member
  obtain ⟨index, text, hit, found, keyword, _⟩ := mem_tagsFrom member
  rw [noKeyword text (List.mem_of_getElem? found)] at keyword
  cases keyword

namespace Comment

variable {kind : TagKind} {qualifier : Option Text}

theorem tags_partLines {block : Comment} (proper : Tag.IsQualifier qualifier)
    (first : PartLine) (others : List PartLine)
    (written : ∀ line ∈ others, isBlankLine line.part = false) (isBlock : block.kind = .block)
    (startCol : 1 ≤ block.startCol)
    (content : block.content =
      (writtenKeyword kind qualifier ++ first.text) :: others.map PartLine.text) :
    ∃ tag, block.tags = .ok [tag] ∧ tag.kind = kind ∧ tag.qualifier = qualifier ∧
      tag.id = Text.trim (join [' '] ((first :: others).map PartLine.part)) := by
  have noRequire : kind = .satisfied →
      ¬Stands .require (writtenKeyword kind qualifier ++ first.text) := by
    rintro rfl
    exact KeywordHit.not_stands_written_append proper (first.not_stands_text .require)
  have noGap : Separates [] := nofun
  have keyword := KeywordHit.find_written proper noGap noRequire
  have goOn : (others.map PartLine.text).takeWhile BlockReading.continues =
      others.map PartLine.text := by
    refine List.takeWhile_eq_self_iff.mpr ?_
    intro text member
    obtain ⟨line, inOthers, rfl⟩ := List.mem_map.mp member
    exact PartLine.continues_text (written line inOthers)
  have noLater : ∀ text ∈ others.map PartLine.text, KeywordHit.find text = none := by
    intro text member
    obtain ⟨line, _, rfl⟩ := List.mem_map.mp member
    exact line.find_text
  have read := tagsWith_block isBlock startCol Tag.idPart
  rw [List.nil_append, List.nil_append] at keyword
  rw [content, BlockReading.tagsFrom, keyword] at read
  simp only [goOn, BlockReading.tagsFrom_eq_nil _ _ _ _ noLater] at read
  refine ⟨_, read, rfl, rfl, ?_⟩
  simp only [BlockReading.tagAt, Text.columnAt_byteLength, List.drop_left, first.idPart_text,
    PartLine.map_idPart_text, List.map_cons]

/-- An identifier that is broken over the lines of a block comment is the one that stands on
one line, also where the places of the comments are only claimed and fit. -/
theorem tags_reflow {block line : Comment} (proper : Tag.IsQualifier qualifier)
    (first : PartLine) (others : List PartLine)
    (written : ∀ line ∈ others, isBlankLine line.part = false) (isBlock : block.kind = .block)
    (startCol : 1 ≤ block.startCol)
    (broken : block.content =
      (writtenKeyword kind qualifier ++ first.text) :: others.map PartLine.text)
    (isLine : line.kind = .line)
    (whole : line.content = [writtenKeyword kind qualifier ++
      ' ' :: join [' '] ((first :: others).map PartLine.part)]) :
    ∃ tag reflowed, line.tags = .ok [tag] ∧ block.tags = .ok [reflowed] ∧
      tag.kind = kind ∧ tag.qualifier = qualifier ∧
      reflowed.kind = tag.kind ∧ reflowed.qualifier = tag.qualifier ∧ reflowed.id = tag.id ∧
      (tag.startCol < UInt64.size → line.boundedTagsWith Tag.idPart = .ok [tag]) ∧
      (block.FitsWord → block.boundedTagsWith Tag.idPart = .ok [reflowed]) := by
  have noKeyword (kind : TagKind) :
      ¬Stands kind (' ' :: join [' '] ((first :: others).map PartLine.part)) := by
    intro stands
    have space : Separates [' '] := KeywordHit.separates_of_spaces Text.isSpace_of_mem_space
    obtain ⟨part, member, stands⟩ := (stands.of_gap_append space).of_join
    obtain ⟨line, _, rfl⟩ := List.mem_map.mp member
    exact line.not_stands_part kind stands
  have noRequire : kind = .satisfied → ¬Stands .require (writtenKeyword kind qualifier ++
      ' ' :: join [' '] ((first :: others).map PartLine.part)) := by
    rintro rfl
    exact KeywordHit.not_stands_written_append proper (noKeyword .require)
  have areParts : ∀ part ∈ (first :: others).map PartLine.part, Tag.idPart part = part := by
    intro part member
    obtain ⟨line, _, rfl⟩ := List.mem_map.mp member
    exact line.isPart
  have noGap : Separates [] := nofun
  have tag := tags_written proper noGap noRequire isLine whole
  obtain ⟨reflowed, read, sameKind, sameQualifier, id⟩ :=
    tags_partLines proper first others written isBlock startCol broken
  refine ⟨_, reflowed, tag, read, rfl, rfl, sameKind, sameQualifier, ?_,
    boundedTagsWith_line_of_fits isLine tag, ?_⟩
  · rw [id, Tag.idPart_space_join areParts]
  · intro fits
    rw [boundedTagsWith_block isBlock startCol fits]
    exact read

def starsOnly : PartLine :=
  { part := [], isPart := rfl, noKeyword := rfl
    indent := [' '], stars := 2, gap := [], tail := ['\t']
    indentSpaces := Text.isSpace_of_mem_space
    gapSpaces := nofun
    tailSpaces := List.all_eq_true.mp rfl }

def namesKeyword : PartLine :=
  { part := "größe (REQUIRE) *: 2".toList, isPart := by decide, noKeyword := by decide
    indent := "\u3000 ".toList, stars := 1, gap := [' '], tail := []
    indentSpaces := List.all_eq_true.mp rfl
    gapSpaces := Text.isSpace_of_mem_space
    tailSpaces := nofun }

def undecorated : PartLine :=
  { part := ['x'], isPart := rfl, noKeyword := by decide
    indent := [], stars := 0, gap := [], tail := [' ']
    indentSpaces := nofun
    gapSpaces := nofun
    tailSpaces := Text.isSpace_of_mem_space }

def brokenTag : Comment :=
  { kind := .block, startLine := 3, startCol := 5, endLine := 5, endCol := 3
    content := ["SATISFIED(extern): **\t".toList, "\u3000 * größe (REQUIRE) *: 2".toList,
      "x ".toList] }

def wholeTag : Comment :=
  { kind := .line, startLine := 9, startCol := 4, endLine := 9, endCol := 46
    content := ["SATISFIED(extern):  größe (REQUIRE) *: 2 x".toList] }

theorem tags_reflow_brokenTag :
    Tag.IsQualifier (some "extern".toList) ∧
    (∀ line ∈ [namesKeyword, undecorated], isBlankLine line.part = false) ∧
    brokenTag.kind = .block ∧ 1 ≤ brokenTag.startCol ∧
    brokenTag.content = (writtenKeyword .satisfied (some "extern".toList) ++ starsOnly.text) ::
      [namesKeyword, undecorated].map PartLine.text ∧
    wholeTag.kind = .line ∧
    wholeTag.content = [writtenKeyword .satisfied (some "extern".toList) ++
      ' ' :: join [' '] ([starsOnly, namesKeyword, undecorated].map PartLine.part)] ∧
    ∃ tag reflowed, wholeTag.tags = .ok [tag] ∧ brokenTag.tags = .ok [reflowed] ∧
      tag.kind = .satisfied ∧ tag.qualifier = some "extern".toList ∧
      reflowed.kind = tag.kind ∧ reflowed.qualifier = tag.qualifier ∧ reflowed.id = tag.id ∧
      brokenTag.FitsWord ∧ brokenTag.boundedTagsWith Tag.idPart = .ok [reflowed] :=
  have proper : Tag.IsQualifier (some "extern".toList) := by decide
  have written : ∀ line ∈ [namesKeyword, undecorated], isBlankLine line.part = false := by decide
  have startCol : 1 ≤ brokenTag.startCol := by decide
  have broken : brokenTag.content =
      (writtenKeyword .satisfied (some "extern".toList) ++ starsOnly.text) ::
        [namesKeyword, undecorated].map PartLine.text := by decide
  have whole : wholeTag.content = [writtenKeyword .satisfied (some "extern".toList) ++
      ' ' :: join [' '] ([starsOnly, namesKeyword, undecorated].map PartLine.part)] := by decide
  have fits : brokenTag.FitsWord := ⟨by decide, by decide⟩
  have ⟨tag, reflowed, read, readReflowed, kind, qualifier, sameKind, sameQualifier, sameId, _,
      bounded⟩ :=
    tags_reflow proper starsOnly [namesKeyword, undecorated] written rfl startCol broken rfl whole
  ⟨proper, written, rfl, startCol, broken, rfl, whole, tag, reflowed, read, readReflowed, kind,
    qualifier, sameKind, sameQualifier, sameId, fits, bounded fits⟩

end Comment
end Traceability
