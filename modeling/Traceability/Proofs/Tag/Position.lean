import Traceability.Proofs.Comment.Content
import Traceability.Proofs.Tag.BlockReading
import Traceability.Proofs.Text.Trim

/-!
Where tags stand in the source text.

The tags of an extracted comment are those of its content lines, for comments of both
kinds (`MarkSet.tags_of_mem_extract`).  Each of them is written in the source right
before its place, and its identifier is read off the excerpt at its place.
-/

namespace Traceability

open Text (columnAt)

/-! ### Comments of one line -/

theorem Comment.lineTag_eq {comment : Comment} {text : Text} (content : comment.content = [text])
    (transform : Text → Text) :
    comment.lineTag transform = .ok ((KeywordHit.find text).map fun hit =>
      { kind := hit.kind, qualifier := hit.qualifier,
        id := transform (text.drop (columnAt text hit.stop)),
        startLine := comment.startLine, startCol := comment.startCol + columnAt text hit.stop,
        endLine := comment.endLine, endCol := comment.endCol }) := by
  cases keyword : KeywordHit.find text with
  | none => simp [Comment.lineTag, content, keyword]
  | some hit =>
      obtain ⟨offset, tail⟩ := KeywordHit.cuts_of_find_eq_some keyword
      simp only [Comment.lineTag, content, keyword, offset, tail]
      rfl

/-- A line comment is read like a block comment of one line. -/
theorem Comment.tags_line {comment : Comment} {text : Text} (kind : comment.kind = .line)
    (content : comment.content = [text]) (oneLine : comment.startLine = comment.endLine)
    (startCol : 0 < comment.startCol)
    (endCol : text.length + (comment.startCol - 1) = comment.endCol) :
    comment.tags = .ok (BlockReading.tagsFrom comment.startLine comment.startCol Tag.idPart
      comment.startLine comment.content) := by
  rw [Comment.tags, Comment.tagsWith, kind, content]
  simp only [Comment.lineTag_eq content, BlockReading.tagsFrom]
  cases KeywordHit.find text with
  | none => rfl
  | some hit =>
      have column : comment.startCol + columnAt text hit.stop =
          columnAt text hit.stop + 1 + (comment.startCol - 1) := by
        omega
      simp only [Option.map_some, Except.map, Option.toList_some, BlockReading.tagAt,
        BlockReading.shiftOf, if_true, column, ← endCol, ← oneLine]
      simp [Text.join_singleton, Tag.trim_idPart]

theorem Comment.tagsWith_block {comment : Comment} (kind : comment.kind = .block)
    (startCol : 0 < comment.startCol) (transform : Text → Text) :
    comment.tagsWith transform = .ok (BlockReading.tagsFrom comment.startLine comment.startCol
      transform comment.startLine comment.content) := by
  rw [Comment.tagsWith, kind]
  exact BlockReading.run_idle_eq_tagsFrom startCol transform comment.startLine comment.content

theorem Comment.shiftOf_add (comment : Comment) (index : Nat) :
    BlockReading.shiftOf comment.startLine comment.startCol (comment.startLine + index) =
      comment.place.shift index := by
  simp only [BlockReading.shiftOf, CommentPlace.shift, Nat.add_eq_left]
  rfl

/-! ### Tags in the source text -/

/-- The tag stands in the lines: its keyword is written right before its place, and its
identifier is what is written at its place, over all its lines. -/
structure Tag.WrittenIn (lines : List Text) (tag : Tag) : Prop where
  startLine_pos : 0 < tag.startLine
  ordered : tag.startLine ≤ tag.endLine
  endLine_le : tag.endLine ≤ lines.length
  startCol_pos : 0 < tag.startCol
  keyword : ∃ line, lines[tag.startLine - 1]? = some line ∧
    tag.startCol ≤ line.length + 1 ∧
    Tag.writtenKeyword tag.kind tag.qualifier <:+ line.take (tag.startCol - 1)
  endCol_le : ∀ line, lines[tag.endLine - 1]? = some line → tag.endCol ≤ line.length
  id : tag.id = Text.trim (Text.join [' '] ((Text.excerpt lines tag.startLine tag.startCol
    tag.endLine tag.endCol).map Tag.idPart))

namespace CommentPlace.Within

open BlockReading (tagAt)

variable {lines : List Text} {place : CommentPlace}

private theorem keyword_of_entry (within : place.Within lines) {index : Nat} {text : Text}
    (found : (place.comment lines).content[index]? = some text) {hit : KeywordHit}
    (keyword : KeywordHit.find text = some hit) :
    ∃ line, lines[place.startLine + index - 1]? = some line ∧
      columnAt text hit.stop + place.shift index ≤ line.length ∧
      Tag.writtenKeyword hit.kind hit.qualifier <:+
        line.take (columnAt text hit.stop + place.shift index) := by
  obtain ⟨_, line, front, back, isLine, whole, frontLength, _⟩ := within.exists_line found
  obtain ⟨before, after, parts, stop⟩ := KeywordHit.find_eq_some keyword
  have positive := within.startLine_pos
  have number : place.startLine + index - 1 = place.startLine - 1 + index := by omega
  have columns : (front ++ (before ++ Tag.writtenKeyword hit.kind hit.qualifier)).length =
      front.length + (before ++ Tag.writtenKeyword hit.kind hit.qualifier).length :=
    List.length_append
  have column : columnAt text hit.stop + place.shift index =
      (front ++ (before ++ Tag.writtenKeyword hit.kind hit.qualifier)).length := by
    rw [stop, parts, Text.columnAt_byteLength, ← frontLength, columns, Nat.add_comm]
  have split : line =
      (front ++ (before ++ Tag.writtenKeyword hit.kind hit.qualifier)) ++ (after ++ back) := by
    rw [whole, parts]
    simp only [List.append_assoc]
  refine ⟨line, by rw [number, isLine], ?_, ?_⟩
  · rw [column, split]
    exact (List.prefix_append _ _).length_le
  · rw [column, split, List.take_left]
    exact ⟨front ++ before, List.append_assoc front before _⟩

theorem last_of_taken {index : Nat} {text : Text} {more : List Text}
    (found : (place.comment lines).content[index]? = some text)
    (taken : more <+: (place.comment lines).content.drop (index + 1)) :
    ∃ last, (place.comment lines).content[index + more.length]? = some last ∧
      more.getLast?.elim (text.length + place.shift index) List.length =
        place.shift (index + more.length) + last.length := by
  rcases List.eq_nil_or_concat more with rfl | ⟨front, last, rfl⟩
  · exact ⟨text, found, Nat.add_comm _ _⟩
  · obtain ⟨rest, whole⟩ := taken
    have entry : (place.comment lines).content[index + 1 + front.length]? = some last := by
      rw [← List.getElem?_drop, ← whole]
      simp
    have length : index + (front.concat last).length = index + 1 + front.length := by
      rw [List.length_concat]
      omega
    have unmoved : place.shift (index + 1 + front.length) = 0 := by
      have notFirst : ¬index + 1 + front.length = 0 := by omega
      rw [CommentPlace.shift, if_neg notFirst]
    refine ⟨last, by rw [length, entry], ?_⟩
    rw [length, unmoved, List.concat_eq_append, List.getLast?_concat, Nat.zero_add]
    rfl

private theorem end_of_taken (within : place.Within lines) {index : Nat} {text : Text}
    {more : List Text} (found : (place.comment lines).content[index]? = some text)
    (taken : more <+: (place.comment lines).content.drop (index + 1)) :
    place.startLine + index + more.length ≤ lines.length ∧
      ∀ line, lines[place.startLine + index + more.length - 1]? = some line →
        more.getLast?.elim (text.length + place.shift index) List.length ≤ line.length := by
  obtain ⟨last, lastFound, endCol⟩ := last_of_taken found taken
  obtain ⟨inside, lastLine, front, back, isLast, whole, frontLength, _⟩ :=
    within.exists_line lastFound
  have positive := within.startLine_pos
  have bound := within.endLine_le
  refine ⟨by omega, ?_⟩
  intro line isLine
  have number : place.startLine + index + more.length - 1 =
      place.startLine - 1 + (index + more.length) := by
    omega
  rw [number, isLast] at isLine
  obtain rfl := Option.some.inj isLine
  rw [endCol, whole, ← frontLength, ← List.length_append]
  exact (List.prefix_append _ _).length_le

/-- The excerpt at the place of a tag is the lines that it was read from. -/
private theorem excerpt_of_taken (within : place.Within lines) {index : Nat} {text : Text}
    {more : List Text} (found : (place.comment lines).content[index]? = some text)
    (taken : more <+: (place.comment lines).content.drop (index + 1)) (skip : Nat) :
    Text.excerpt lines (place.startLine + index) (skip + 1 + place.shift index)
        (place.startLine + index + more.length)
        (more.getLast?.elim (text.length + place.shift index) List.length) =
      text.drop skip :: more := by
  obtain ⟨last, lastFound, endCol⟩ := last_of_taken found taken
  obtain ⟨indexBound, isEntry⟩ := List.getElem?_eq_some_iff.mp found
  have startCol : skip + 1 + place.shift index = place.shift index + skip + 1 := by omega
  rw [endCol, startCol, within.excerpt_eq_entries lastFound, List.drop_eq_getElem_cons indexBound,
    List.take_succ_cons, ← List.prefix_iff_eq_take.mp taken, isEntry]
  rfl

theorem tagAt_writtenIn (within : place.Within lines) {index : Nat} {text : Text}
    (found : (place.comment lines).content[index]? = some text) {hit : KeywordHit}
    (keyword : KeywordHit.find text = some hit) {more : List Text}
    (taken : more <+: (place.comment lines).content.drop (index + 1)) :
    (tagAt Tag.idPart (place.shift index) (place.startLine + index) text hit more).WrittenIn
      lines := by
  obtain ⟨line, isLine, fits, suffix⟩ := within.keyword_of_entry found keyword
  obtain ⟨endLine, endCol⟩ := within.end_of_taken found taken
  have pieces := within.excerpt_of_taken found taken (columnAt text hit.stop)
  have before : columnAt text hit.stop + 1 + place.shift index - 1 =
      columnAt text hit.stop + place.shift index := by
    omega
  refine ⟨Nat.add_pos_left within.startLine_pos index, Nat.le_add_right _ _, endLine, ?_, ?_,
    endCol, ?_⟩
  · simp only [tagAt]
    omega
  · refine ⟨line, isLine, ?_, ?_⟩
    · simp only [tagAt]
      omega
    · simp only [tagAt, before]
      exact suffix
  · simp only [tagAt, pieces]
    rfl

end CommentPlace.Within

namespace MarkSet

variable {marks : MarkSet} {source : Text} {result : Extraction}

theorem text_of_line_comment (extracted : marks.extract source = .ok result)
    {comment : Comment} (member : comment ∈ result.comments) (kind : comment.kind = .line) :
    comment.startLine = comment.endLine ∧ ∃ text, comment.content = [text] ∧
      text.length + (comment.startCol - 1) = comment.endCol := by
  obtain ⟨within, same⟩ := within_of_mem_extract extracted member
  have oneLine : comment.startLine = comment.endLine := (within.lineComment kind).1
  have length := length_content extracted member
  obtain ⟨text, content⟩ : ∃ text, comment.content = [text] :=
    List.length_eq_one_iff.mp (by omega)
  have entry : (comment.place.comment (Text.physicalLines source)).content[0]? =
      some text := by
    rw [same, content]
    rfl
  obtain ⟨_, _, front, _, _, _, shift, _, closed⟩ := within.exists_line entry
  have endCol := closed (by rw [Nat.add_zero]; exact oneLine)
  rw [List.length_append, shift, CommentPlace.shift, if_pos rfl] at endCol
  refine ⟨oneLine, text, content, ?_⟩
  rw [Nat.add_comm]
  exact endCol

theorem tags_of_mem_extract (extracted : marks.extract source = .ok result)
    {comment : Comment} (member : comment ∈ result.comments) :
    comment.tags = .ok (BlockReading.tagsFrom comment.startLine comment.startCol Tag.idPart
      comment.startLine comment.content) := by
  have within := (within_of_mem_extract extracted member).1
  cases kind : comment.kind with
  | block => exact Comment.tagsWith_block kind within.startCol_pos _
  | line =>
      obtain ⟨oneLine, text, content, endCol⟩ := text_of_line_comment extracted member kind
      exact Comment.tags_line kind content oneLine within.startCol_pos endCol

theorem exists_entry_of_mem_extract (extracted : marks.extract source = .ok result)
    {comment : Comment} (member : comment ∈ result.comments) {transform : Text → Text} {tag : Tag}
    (inTags : tag ∈ BlockReading.tagsFrom comment.startLine comment.startCol transform
      comment.startLine comment.content) :
    let entries := (comment.place.comment (Text.physicalLines source)).content
    ∃ index text hit, entries[index]? = some text ∧ KeywordHit.find text = some hit ∧
      tag = BlockReading.tagAt transform (comment.place.shift index)
        (comment.place.startLine + index) text hit
        ((entries.drop (index + 1)).takeWhile BlockReading.continues) := by
  obtain ⟨index, text, hit, found, keyword, rfl⟩ := BlockReading.mem_tagsFrom inTags
  have content : comment.content =
      (comment.place.comment (Text.physicalLines source)).content := by
    rw [(within_of_mem_extract extracted member).2]
  rw [Comment.shiftOf_add]
  rw [content] at found ⊢
  exact ⟨index, text, hit, found, keyword, rfl⟩

/-- Every tag of every comment stands in the source text where it says, and reading the
tags of a comment never fails. -/
theorem tags_writtenIn (marks : MarkSet) (source : Text) :
    ∃ result, marks.extract source = .ok result ∧
      ∀ comment ∈ result.comments, ∃ tags, comment.tags = .ok tags ∧
        ∀ tag ∈ tags, tag.WrittenIn (Text.physicalLines source) := by
  refine ⟨_, marks.extract_eq_scan source, ?_⟩
  intro comment member
  have read := tags_of_mem_extract (marks.extract_eq_scan source) member
  obtain ⟨within, same⟩ := within_of_mem_extract (marks.extract_eq_scan source) member
  refine ⟨_, read, ?_⟩
  intro tag inTags
  obtain ⟨index, text, hit, found, keyword, rfl⟩ := BlockReading.mem_tagsFrom inTags
  have content : comment.content =
      (comment.place.comment (Text.physicalLines source)).content := by
    rw [same]
  rw [Comment.shiftOf_add]
  rw [content] at found ⊢
  exact within.tagAt_writtenIn found keyword (List.takeWhile_prefix _)

end MarkSet
end Traceability
