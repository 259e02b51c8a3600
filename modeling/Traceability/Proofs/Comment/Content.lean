import Traceability.Proofs.Comment.Extraction

/-!
The content of a comment is the source text at its place.

Every place that the scan finds lies within the lines of the text
(`MarkSet.within_of_mem_extract`), and the content is the excerpt at that place.  An
unterminated block holds everything up to the end of the text.
-/

namespace Traceability
namespace Text

theorem columnAt_le_length (text : Text) (count : Nat) : columnAt text count ≤ text.length := by
  induction text generalizing count with
  | nil => exact Nat.le_refl 0
  | cons c rest ih =>
      rw [columnAt, List.length_cons]
      split
      · exact Nat.zero_le _
      · have tail := ih (count - c.utf8Size)
        omega

theorem columnAt_mono (text : Text) {first last : Nat} (ordered : first ≤ last) :
    columnAt text first ≤ columnAt text last := by
  induction text generalizing first last with
  | nil => exact Nat.le_refl 0
  | cons c rest ih =>
      rw [columnAt, columnAt]
      by_cases atFront : first = 0
      · rw [if_pos atFront]
        exact Nat.zero_le _
      · have notFront : ¬last = 0 := by omega
        have smaller : first - c.utf8Size ≤ last - c.utf8Size := by omega
        have tail := ih smaller
        rw [if_neg atFront, if_neg notFront]
        omega

end Text

/-- The place starts and ends at characters of the given lines, and its end is not
before its start. -/
structure CommentPlace.Within (lines : List Text) (place : CommentPlace) : Prop where
  startLine_pos : 0 < place.startLine
  ordered : place.startLine ≤ place.endLine
  endLine_le : place.endLine ≤ lines.length
  startCol_pos : 0 < place.startCol
  startCol_le : ∀ line, lines[place.startLine - 1]? = some line →
    place.startCol ≤ line.length + 1
  endCol_le : ∀ line, lines[place.endLine - 1]? = some line → place.endCol ≤ line.length
  onOneLine : place.startLine = place.endLine → place.startCol ≤ place.endCol + 1
  lineComment : place.kind = .line → place.startLine = place.endLine ∧
    ∀ line, lines[place.endLine - 1]? = some line → place.endCol = line.length

namespace SourceMark

variable {lines : List Text} {mark opening closing : SourceMark}

theorem StandsIn.eq_line (stands : mark.StandsIn lines) {line : Text}
    (found : lines[mark.number - 1]? = some line) : line = mark.line :=
  Option.some.inj (found.symm.trans stands.found)

theorem StandsIn.lineCommentPlace_within (stands : mark.StandsIn lines) :
    mark.lineCommentPlace.Within lines := by
  have column := Text.columnAt_le_length mark.line mark.span.stop
  refine ⟨stands.positive, Nat.le_refl _, stands.number_le, Nat.succ_pos _, ?_, ?_, ?_, ?_⟩
  · intro line found
    rw [stands.eq_line found]
    exact Nat.succ_le_succ column
  · intro line found
    rw [stands.eq_line found]
    exact Nat.le_refl _
  · intro _
    exact Nat.succ_le_succ column
  · intro _
    refine ⟨rfl, ?_⟩
    intro line found
    rw [stands.eq_line found]
    rfl

theorem StandsIn.blockPlace_within (opened : opening.StandsIn lines)
    (closed : closing.StandsIn lines) (closes : closing.closes opening = true) :
    (opening.blockPlace closing).Within lines := by
  simp only [SourceMark.closes, Bool.and_eq_true, Bool.or_eq_true, beq_iff_eq,
    decide_eq_true_eq] at closes
  have ordered : opening.number ≤ closing.number := by omega
  refine ⟨opened.positive, ordered, closed.number_le, Nat.succ_pos _, ?_, ?_, ?_, ?_⟩
  · intro line found
    rw [opened.eq_line found]
    exact Nat.succ_le_succ (Text.columnAt_le_length _ _)
  · intro line found
    rw [closed.eq_line found]
    exact Text.columnAt_le_length _ _
  · intro sameNumber
    have numbers : opening.number = closing.number := sameNumber
    have sameLine : opening.line = closing.line := by
      have found := opened.found
      rw [numbers] at found
      exact closed.eq_line found
    have apart : opening.span.stop ≤ closing.span.start := by omega
    simp only [blockPlace, colAfter, colBefore, sameLine]
    exact Nat.succ_le_succ (Text.columnAt_mono _ apart)
  · intro isLine
    cases isLine

private theorem mem_of_dropWhile {marks rest : List SourceMark}
    (found : marks.dropWhile (!·.closes opening) = closing :: rest) :
    closing ∈ marks ∧ closing.closes opening = true ∧ ∀ other ∈ rest, other ∈ marks := by
  have inside : ∀ other ∈ closing :: rest, other ∈ marks := by
    intro other member
    rw [← found] at member
    exact (List.dropWhile_sublist _).subset member
  have closes := List.head?_dropWhile_not (!·.closes opening) marks
  rw [found] at closes
  exact ⟨inside closing (.head _), by simpa using closes,
    fun other member => inside other (.tail _ member)⟩

theorem mem_scan {marks : List SourceMark} {place : CommentPlace}
    (member : place ∈ (scan marks).1) :
    (∃ mark ∈ marks, place = mark.lineCommentPlace) ∨
      ∃ opening ∈ marks, ∃ closing ∈ marks,
        closing.closes opening = true ∧ place = opening.blockPlace closing := by
  have lift {fewer more : List SourceMark} (inside : ∀ other ∈ fewer, other ∈ more)
      (known : (∃ mark ∈ fewer, place = mark.lineCommentPlace) ∨
        ∃ opening ∈ fewer, ∃ closing ∈ fewer,
          closing.closes opening = true ∧ place = opening.blockPlace closing) :
      (∃ mark ∈ more, place = mark.lineCommentPlace) ∨
        ∃ opening ∈ more, ∃ closing ∈ more,
          closing.closes opening = true ∧ place = opening.blockPlace closing := by
    rcases known with ⟨mark, present, same⟩ | ⟨opening, first, closing, second, rest⟩
    · exact .inl ⟨mark, inside mark present, same⟩
    · exact .inr ⟨opening, inside opening first, closing, inside closing second, rest⟩
  fun_induction scan marks with
  | case1 => cases member
  | case2 mark later role ih =>
      rcases List.mem_cons.mp member with same | inLater
      · exact .inl ⟨mark, .head _, same⟩
      · exact lift (fun _ => .tail _) (ih inLater)
  | case3 mark later role ih => exact lift (fun _ => .tail _) (ih member)
  | case4 mark later role none => cases member
  | case5 mark later role closing rest found ih =>
      obtain ⟨inside, closes, others⟩ := mem_of_dropWhile found
      rcases List.mem_cons.mp member with same | inRest
      · exact .inr ⟨mark, .head _, closing, .tail _ inside, closes, same⟩
      · exact lift (fun other present => .tail _ (others other present)) (ih inRest)

theorem mem_of_scan_eq_some {marks : List SourceMark} (unclosed : (scan marks).2 = some opening) :
    opening ∈ marks := by
  fun_induction scan marks with
  | case1 => cases unclosed
  | case2 mark later role ih => exact .tail _ (ih unclosed)
  | case3 mark later role ih => exact .tail _ (ih unclosed)
  | case4 mark later role none =>
      obtain rfl := Option.some.inj unclosed
      exact .head _
  | case5 mark later role closing rest found ih =>
      exact .tail _ ((mem_of_dropWhile found).2.2 opening (ih unclosed))

end SourceMark

/-! ### Entries of the content -/

/-- The columns before an entry of the content: only the first entry may not start at
the first column of its line. -/
def CommentPlace.shift (place : CommentPlace) (index : Nat) : Nat :=
  if index = 0 then place.startCol - 1 else 0

namespace CommentPlace.Within

variable {lines : List Text} {place : CommentPlace}

private theorem exists_front {shown text : Text} {count : Nat} (fits : count ≤ shown.length)
    (cut : shown.drop count = text) : ∃ front, shown = front ++ text ∧ front.length = count :=
  ⟨shown.take count, by rw [← cut, List.take_append_drop], List.length_take_of_le fits⟩

/-- An entry of the content is a part of its line: at most the first one lacks a front,
and at most the last one lacks an end. -/
theorem exists_line (within : place.Within lines) {index : Nat} {text : Text}
    (found : (place.comment lines).content[index]? = some text) :
    place.startLine + index ≤ place.endLine ∧ ∃ line front back,
      lines[place.startLine - 1 + index]? = some line ∧ line = front ++ text ++ back ∧
      front.length = place.shift index ∧
      (place.startLine + index < place.endLine → back = []) ∧
      (place.startLine + index = place.endLine → (front ++ text).length = place.endCol) := by
  have positive := within.startLine_pos
  rw [CommentPlace.comment, Text.getElem?_excerpt positive within.endLine_le] at found
  split at found
  · rename_i inside
    obtain ⟨line, isLine, cut⟩ := Option.map_eq_some_iff.mp found
    by_cases last : place.startLine + index = place.endLine
    · have number : place.endLine - 1 = place.startLine - 1 + index := by omega
      have endCol := within.endCol_le line (by rw [number, isLine])
      have length : (line.take place.endCol).length = place.endCol :=
        List.length_take_of_le endCol
      have fits : place.shift index ≤ (line.take place.endCol).length := by
        rw [length, shift]
        split
        · have oneLine := within.onOneLine (by omega)
          omega
        · exact Nat.zero_le _
      rw [if_pos last] at cut
      obtain ⟨front, whole, frontLength⟩ := exists_front fits cut
      refine ⟨inside, line, front, line.drop place.endCol, isLine, ?_, frontLength,
        fun before => absurd before (by omega), fun _ => ?_⟩
      · rw [← whole, List.take_append_drop]
      · rw [← whole, length]
    · have fits : place.shift index ≤ line.length := by
        rw [shift]
        split
        · rename_i first
          have column := within.startCol_le line (by rw [← isLine, first, Nat.add_zero])
          omega
        · exact Nat.zero_le _
      rw [if_neg last] at cut
      obtain ⟨front, whole, frontLength⟩ := exists_front fits cut
      exact ⟨inside, line, front, [], isLine, by rw [List.append_nil, whole], frontLength,
        fun _ => rfl, fun atEnd => absurd atEnd last⟩
  · cases found

theorem excerpt_eq_entries (within : place.Within lines) {index count : Nat} {last : Text}
    (found : (place.comment lines).content[index + count]? = some last) (skip : Nat) :
    Text.excerpt lines (place.startLine + index) (place.shift index + skip + 1)
        (place.startLine + index + count) (place.shift (index + count) + last.length) =
      Text.cutFront skip (((place.comment lines).content.drop index).take (count + 1)) := by
  obtain ⟨lastInside, _⟩ := within.exists_line found
  have positive := within.startLine_pos
  have inside : place.startLine + index + count ≤ lines.length := by
    have bound := within.endLine_le
    omega
  apply List.ext_getElem?
  intro offset
  rw [Text.getElem?_excerpt (by omega) inside, Text.getElem?_cutFront, List.getElem?_take,
    List.getElem?_drop]
  by_cases covered : offset ≤ count
  · obtain ⟨bound, _⟩ := List.getElem?_eq_some_iff.mp found
    obtain ⟨text, entry⟩ : ∃ text, (place.comment lines).content[index + offset]? = some text :=
      ⟨_, List.getElem?_eq_getElem (by omega)⟩
    obtain ⟨_, line, front, back, isLine, whole, frontLength, unended, _⟩ :=
      within.exists_line entry
    have number :
        place.startLine + index - 1 + offset = place.startLine - 1 + (index + offset) := by
      omega
    have shown : (if place.startLine + index + offset = place.startLine + index + count then
        line.take (place.shift (index + count) + last.length) else line) = front ++ text := by
      split
      · have same : offset = count := by omega
        subst same
        rw [entry] at found
        obtain rfl := Option.some.inj found
        rw [whole, ← frontLength, ← List.length_append, List.take_left]
      · rw [whole, unended (by omega), List.append_nil]
    have inLines :
        place.startLine + index + offset ≤ place.startLine + index + count := by omega
    have inEntries : offset < count + 1 := by omega
    rw [if_pos inLines, if_pos inEntries, number, isLine, entry, Option.map_some,
      Option.map_some, shown]
    by_cases first : offset = 0
    · subst first
      rw [Nat.add_zero] at frontLength
      rw [if_pos rfl, if_pos rfl, Nat.add_sub_cancel, ← frontLength, List.drop_append]
      simp
    · have unmoved : front = [] := by
        apply List.eq_nil_of_length_eq_zero
        have notFirst : ¬index + offset = 0 := by omega
        rw [frontLength, shift, if_neg notFirst]
      rw [if_neg first, if_neg first, unmoved, List.nil_append, List.drop_zero]
  · have pastLines :
        ¬place.startLine + index + offset ≤ place.startLine + index + count := by omega
    have pastEntries : ¬offset < count + 1 := by omega
    rw [if_neg pastLines, if_neg pastEntries, Option.map_none]

end CommentPlace.Within

namespace MarkSet

variable {marks : MarkSet} {source : Text} {result : Extraction}

theorem within_of_mem_extract (extracted : marks.extract source = .ok result)
    {comment : Comment} (member : comment ∈ result.comments) :
    comment.place.Within (Text.physicalLines source) ∧
      comment.place.comment (Text.physicalLines source) = comment := by
  rw [marks.extract_eq_scan source] at extracted
  obtain rfl := Except.ok.inj extracted
  obtain ⟨place, found, rfl⟩ := List.mem_map.mp member
  refine ⟨?_, rfl⟩
  rw [CommentPlace.place_comment]
  rcases SourceMark.mem_scan found with
    ⟨mark, inside, rfl⟩ | ⟨opening, first, closing, second, closes, rfl⟩
  · exact (standsIn_of_mem_marksOf inside).lineCommentPlace_within
  · exact (standsIn_of_mem_marksOf first).blockPlace_within (standsIn_of_mem_marksOf second)
      closes

theorem opening_of_unterminated (extracted : marks.extract source = .ok result)
    {block : UnclosedBlock} (unterminated : result.unterminated = some block) :
    ∃ opening : SourceMark, opening.StandsIn (Text.physicalLines source) ∧
      block = opening.block (Text.physicalLines source) := by
  rw [marks.extract_eq_scan source] at extracted
  obtain rfl := Except.ok.inj extracted
  obtain ⟨opening, unclosed, rfl⟩ := Option.map_eq_some_iff.mp unterminated
  exact ⟨opening, standsIn_of_mem_marksOf (SourceMark.mem_of_scan_eq_some unclosed), rfl⟩

theorem length_content (extracted : marks.extract source = .ok result)
    {comment : Comment} (member : comment ∈ result.comments) :
    comment.content.length = comment.endLine - comment.startLine + 1 := by
  obtain ⟨within, same⟩ := within_of_mem_extract extracted member
  rw [← same]
  have length := Text.length_excerpt comment.startCol comment.endCol within.startLine_pos
    within.ordered within.endLine_le
  have ordered := within.ordered
  simp only [CommentPlace.comment, Comment.place] at length ordered ⊢
  omega

/-- The content of every comment is the source text at its place, with one entry for
each line, and so is the content of a block that is open at the end. -/
theorem extract_content (marks : MarkSet) (source : Text) :
    ∃ result, marks.extract source = .ok result ∧
      (∀ comment ∈ result.comments,
        comment.place.Within (Text.physicalLines source) ∧
        comment.content.length = comment.endLine - comment.startLine + 1 ∧
        comment.content = Text.excerpt (Text.physicalLines source) comment.startLine
          comment.startCol comment.endLine comment.endCol ∧
        (comment.kind = .line → comment.content.length = 1 ∧
          ∀ line, (Text.physicalLines source)[comment.endLine - 1]? = some line →
            comment.endCol = line.length)) ∧
      ∀ block, result.unterminated = some block →
        0 < block.startLine ∧ block.startLine ≤ (Text.physicalLines source).length ∧
        0 < block.startCol ∧
        block.content.length = (Text.physicalLines source).length - block.startLine + 1 ∧
        block.content =
          Text.excerptToEnd (Text.physicalLines source) block.startLine block.startCol := by
  refine ⟨_, marks.extract_eq_scan source, ?_, ?_⟩
  · intro comment member
    obtain ⟨within, same⟩ := within_of_mem_extract (marks.extract_eq_scan source) member
    have length := length_content (marks.extract_eq_scan source) member
    have content : comment.content = Text.excerpt (Text.physicalLines source)
        comment.startLine comment.startCol comment.endLine comment.endCol :=
      (congrArg Comment.content same).symm
    refine ⟨within, length, content, ?_⟩
    intro isLine
    obtain ⟨oneLine, endCol⟩ := within.lineComment isLine
    have sameNumber : comment.startLine = comment.endLine := oneLine
    exact ⟨by omega, endCol⟩
  · intro block unterminated
    obtain ⟨opening, stands, rfl⟩ :=
      opening_of_unterminated (marks.extract_eq_scan source) unterminated
    have content := Text.excerptToEnd_eq_cons opening.colAfter stands.positive stands.found
    refine ⟨stands.positive, stands.number_le, Nat.succ_pos _, ?_, content.symm⟩
    simp only [SourceMark.block, List.length_cons, List.length_drop]

end MarkSet
end Traceability
