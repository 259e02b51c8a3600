import Traceability.Language.Marks
import Traceability.Proofs.Comment.MarkedComment
import Traceability.Proofs.Mark.Form

/-!
What the marks of the languages look like.

Whatever the language, a comment begins with a mark that one of five forms finds, and a
block ends with one that one of two forms finds (`MarkForm.Begins`, `MarkForm.Ends`).  The
forms of all languages together have no letter in common, so they find in one search what
each of them finds alone.

The closing and the opening marks are searched for independently.  A closing mark and a
mark visited after it may share a character then, but only the slash of `*/`, which begins
`//` and `/*` as well (`Language.overlap_after_closing`).
-/

namespace Traceability

open Text (byteLength)

namespace MarkForm

/-! ### Letters of the forms -/

def IsQuote (c : Char) : Prop := c = '\'' ∨ c = '"'

def IsBatchLetter (c : Char) : Prop := c ∈ [':', '&', 'R', 'E', 'M'] ∨ Text.isSpace c = true

instance : DecidablePred IsQuote := fun c => inferInstanceAs (Decidable (c = '\'' ∨ c = '"'))

instance : DecidablePred IsBatchLetter := fun c =>
  inferInstanceAs (Decidable (c ∈ [':', '&', 'R', 'E', 'M'] ∨ Text.isSpace c = true))

theorem slashes_writtenWith : (literal "//".toList).WrittenWith (· ∈ "//".toList) :=
  literal_writtenWith (by decide)

theorem hash_writtenWith : (literal "#".toList).WrittenWith (· ∈ "#".toList) :=
  literal_writtenWith (by decide)

theorem slashStar_writtenWith : (literal "/*".toList).WrittenWith (· ∈ "/*".toList) :=
  literal_writtenWith (by decide)

theorem starSlash_writtenWith : (literal "*/".toList).WrittenWith (· ∈ "*/".toList) :=
  literal_writtenWith (by decide)

theorem tripleQuote_writtenWith : tripleQuote.WrittenWith IsQuote := by
  constructor
  · simp [tripleQuote, exactly, CharSet.accepts, IsQuote]
  · simp [tripleQuote, exactly]

theorem batchLine_writtenWith : batchLine.WrittenWith IsBatchLetter := by
  constructor
  · simp only [batchLine, colonsAtLineStart, colonsAfterAmpersand, exactly, IsBatchLetter]
    simp +contextual [CharSet.accepts]
  · simp [batchLine, colonsAtLineStart, colonsAfterAmpersand, exactly]

theorem not_letter_of_all {mark : Text} {letter : Char → Prop} [DecidablePred letter]
    (others : mark.all fun c => !decide (letter c)) : ∀ c ∈ mark, ¬letter c := by
  intro c member
  simpa using List.all_eq_true.mp others c member

variable {line : Text} {span : Span}

theorem mem_occurrences_anyLine :
    span ∈ anyLine.occurrences line ↔
      span ∈ (literal "//".toList).occurrences line ∨
        span ∈ (literal "#".toList).occurrences line ∨ span ∈ batchLine.occurrences line := by
  have apart : ∀ c ∈ "#".toList, ¬IsBatchLetter c := not_letter_of_all (by decide)
  have othersApart : ∀ c ∈ "//".toList, ¬(c ∈ "#".toList ∨ IsBatchLetter c) :=
    not_letter_of_all (by decide)
  rw [← mem_occurrences_either hash_writtenWith batchLine_writtenWith apart,
    ← mem_occurrences_either slashes_writtenWith (hash_writtenWith.either batchLine_writtenWith)
      othersApart]
  rfl

theorem mem_occurrences_anyOpening :
    span ∈ anyOpening.occurrences line ↔
      span ∈ (literal "/*".toList).occurrences line ∨ span ∈ tripleQuote.occurrences line :=
  mem_occurrences_either slashStar_writtenWith tripleQuote_writtenWith
    (not_letter_of_all (by decide))

theorem mem_occurrences_anyClosing :
    span ∈ anyClosing.occurrences line ↔
      span ∈ (literal "*/".toList).occurrences line ∨ span ∈ tripleQuote.occurrences line :=
  mem_occurrences_either starSlash_writtenWith tripleQuote_writtenWith
    (not_letter_of_all (by decide))

/-! ### Where a comment begins and where a block ends -/

/-- The span is a mark with which a comment of some language begins. -/
inductive Begins (line : Text) (span : Span) : Prop
  | slashes (member : span ∈ (literal "//".toList).occurrences line)
  | hash (member : span ∈ (literal "#".toList).occurrences line)
  | batch (member : span ∈ batchLine.occurrences line)
  | slashStar (member : span ∈ (literal "/*".toList).occurrences line)
  | quotes (member : span ∈ tripleQuote.occurrences line)

/-- The span is a mark with which a block of some language ends. -/
inductive Ends (line : Text) (span : Span) : Prop
  | starSlash (member : span ∈ (literal "*/".toList).occurrences line)
  | quotes (member : span ∈ tripleQuote.occurrences line)

private theorem begins_of_slashes {role : MarkRole} {search : MarkFinder}
    (isSearch : MarkSet.slashes.finder? role = some search) (member : span ∈ search.find line)
    (begins : role ≠ .closing) : Begins line span := by
  cases role with
  | line =>
      obtain rfl := Option.some.inj isSearch
      exact .slashes member
  | opening =>
      obtain rfl := Option.some.inj isSearch
      exact .slashStar member
  | closing => exact absurd rfl begins

theorem begins_of_mem_byRole (language : Language) {role : MarkRole}
    (member : (role, span) ∈ language.marks.byRole line) (begins : role ≠ .closing) :
    Begins line span := by
  obtain ⟨search, isSearch, found⟩ := MarkSet.mem_byRole_iff.mp member
  cases language with
  | c | cpp | cOrCpp | javaScript | typeScript | java | kotlin | rust | go =>
      exact begins_of_slashes isSearch found begins
  | python =>
      cases role with
      | line =>
          obtain rfl := Option.some.inj isSearch
          exact .hash found
      | opening =>
          obtain rfl := Option.some.inj isSearch
          exact .quotes found
      | closing => exact absurd rfl begins
  | bash | shell =>
      cases role with
      | line =>
          obtain rfl := Option.some.inj isSearch
          exact .hash found
      | opening => cases isSearch
      | closing => cases isSearch
  | batch =>
      cases role with
      | line =>
          obtain rfl := Option.some.inj isSearch
          exact .batch found
      | opening => cases isSearch
      | closing => cases isSearch
  | any =>
      cases role with
      | line =>
          obtain rfl := Option.some.inj isSearch
          rcases mem_occurrences_anyLine.mp found with found | found | found
          · exact .slashes found
          · exact .hash found
          · exact .batch found
      | opening =>
          obtain rfl := Option.some.inj isSearch
          rcases mem_occurrences_anyOpening.mp found with found | found
          · exact .slashStar found
          · exact .quotes found
      | closing => exact absurd rfl begins

theorem ends_of_mem_byRole (language : Language)
    (member : (.closing, span) ∈ language.marks.byRole line) : Ends line span := by
  obtain ⟨search, isSearch, found⟩ := MarkSet.mem_byRole_iff.mp member
  cases language with
  | c | cpp | cOrCpp | javaScript | typeScript | java | kotlin | rust | go =>
      obtain rfl := Option.some.inj isSearch
      exact .starSlash found
  | python =>
      obtain rfl := Option.some.inj isSearch
      exact .quotes found
  | bash | shell | batch => cases isSearch
  | any =>
      obtain rfl := Option.some.inj isSearch
      rcases mem_occurrences_anyClosing.mp found with found | found
      · exact .starSlash found
      · exact .quotes found

end MarkForm

/-! ### Characters that two marks share -/

/-- One mark is `*/`, and the other one begins with its slash. -/
structure Span.SharesSlash (line : Text) (closing opening : Span) : Prop where
  ends : closing.Shows line "*/".toList
  begins : opening.Shows line "//".toList ∨ opening.Shows line "/*".toList
  start : opening.start + 1 = closing.stop

namespace MarkForm

section StartInside

variable {form : MarkForm} {letter : Char → Prop} {line : Text} {closing opening : Span}
  (written : form.WrittenWith letter) (found : opening ∈ form.occurrences line)
  (later : closing.start < opening.start) (inside : opening.start < closing.stop)

include written found later inside

private theorem letter_of_start_inside {mark : Text} (ends : closing.Shows line mark) :
    ∃ front c back, mark = front ++ c :: back ∧ front ≠ [] ∧ letter c ∧
      opening.start = closing.start + byteLength front := by
  obtain ⟨other, nonempty, letters, begins⟩ := written.shows found
  obtain ⟨front, c, back, whole, frontNonempty, head, start⟩ :=
    ends.head?_of_start_inside begins nonempty later inside
  exact ⟨front, c, back, whole, frontNonempty, letters c (List.mem_of_mem_head? head), start⟩

private theorem slash_of_start_inside (ends : closing.Shows line "*/".toList) :
    letter '/' ∧ opening.start + 1 = closing.stop := by
  obtain ⟨front, c, back, whole, frontNonempty, isLetter, start⟩ :=
    letter_of_start_inside written found later inside ends
  obtain ⟨rfl, rfl⟩ : front = ['*'] ∧ c = '/' := by
    cases front with
    | nil => exact absurd rfl frontNonempty
    | cons first others =>
        cases others with
        | nil =>
            obtain ⟨rfl, rest⟩ := List.cons.inj whole
            obtain ⟨rfl, _⟩ := List.cons.inj rest
            exact ⟨rfl, rfl⟩
        | cons second others => simp at whole
  refine ⟨isLetter, ?_⟩
  rw [start, ends.stop_eq]
  rfl

end StartInside

variable {line : Text} {closing opening : Span}

private theorem sharesSlash_of_starSlash (ends : closing.Shows line "*/".toList)
    (begins : Begins line opening) (later : closing.start < opening.start)
    (inside : opening.start < closing.stop) : closing.SharesSlash line opening := by
  have slashIsLetter {form : MarkForm} {letter : Char → Prop} (written : form.WrittenWith letter)
      (found : opening ∈ form.occurrences line) : letter '/' :=
    (slash_of_start_inside written found later inside ends).1
  cases begins with
  | slashes found =>
      obtain ⟨_, start⟩ := slash_of_start_inside slashes_writtenWith found later inside ends
      exact ⟨ends, .inl (shows_of_mem_literal found), start⟩
  | slashStar found =>
      obtain ⟨_, start⟩ := slash_of_start_inside slashStar_writtenWith found later inside ends
      exact ⟨ends, .inr (shows_of_mem_literal found), start⟩
  | hash found => exact absurd (slashIsLetter hash_writtenWith found) (by decide)
  | batch found => exact absurd (slashIsLetter batchLine_writtenWith found) (by decide)
  | quotes found => exact absurd (slashIsLetter tripleQuote_writtenWith found) (by decide)

/-- No other mark begins with a quote, and two marks of quotes do not overlap. -/
private theorem not_start_inside_quotes (ends : closing ∈ tripleQuote.occurrences line)
    (begins : Begins line opening) (later : closing.start < opening.start) :
    ¬opening.start < closing.stop := by
  intro inside
  have noQuote {form : MarkForm} {letter : Char → Prop} (written : form.WrittenWith letter)
      (apart : ∀ c, IsQuote c → ¬letter c) (found : opening ∈ form.occurrences line) : False := by
    have outside := tripleQuote_writtenWith.stop_le_of_start_le written apart ends found
      (Nat.le_of_lt later)
    omega
  cases begins with
  | slashes found =>
      exact noQuote slashes_writtenWith (by rintro c (rfl | rfl) <;> decide) found
  | hash found =>
      exact noQuote hash_writtenWith (by rintro c (rfl | rfl) <;> decide) found
  | batch found =>
      exact noQuote batchLine_writtenWith (by rintro c (rfl | rfl) <;> decide) found
  | slashStar found =>
      exact noQuote slashStar_writtenWith (by rintro c (rfl | rfl) <;> decide) found
  | quotes found =>
      have apart := (tripleQuote.placed_occurrences line).stop_le_of_start_lt ends found later
      omega

theorem sharesSlash_of_start_inside (ends : Ends line closing) (begins : Begins line opening)
    (later : closing.start < opening.start) (inside : opening.start < closing.stop) :
    closing.SharesSlash line opening := by
  cases ends with
  | starSlash found =>
      exact sharesSlash_of_starSlash (shows_of_mem_literal found) begins later inside
  | quotes found => exact absurd inside (not_start_inside_quotes found begins later)

end MarkForm

/-! ### After the end of a block -/

namespace MarkSet

variable {marks : MarkSet} {source : Text}

/-- The marks visited after the end of a block that may begin a comment: the first marks of
the later comments, and the mark of the block left open. -/
def marksAfter (marks : MarkSet) (source : Text) (later : List MarkedComment) :
    List SourceMark :=
  later.map (·.first) ++ (marks.openMark? source).toList

private theorem ordered_of_mem_marksAfter {earlier later : List MarkedComment}
    {opening closing mark : SourceMark}
    (found : marks.markedComments source = earlier ++ .block opening closing :: later)
    (member : mark ∈ marks.marksAfter source later) :
    mark ∈ marks.sourceMarks source ∧ mark.role ≠ .closing ∧
      (SourceMark.compareRank closing mark).isLE := by
  obtain ⟨ordered, beforeOpen⟩ := marks.ordered_markedComments source
  rcases List.mem_append.mp member with member | member
  · obtain ⟨comment, inLater, rfl⟩ := List.mem_map.mp member
    have inComments : comment ∈ marks.markedComments source := by
      rw [found]
      simp [inLater]
    refine ⟨mem_sourceMarks inComments comment.first_mem_marks,
      (proper_of_mem_markedComments inComments).first_role, ?_⟩
    rw [found] at ordered
    have after := (List.pairwise_cons.mp (List.pairwise_append.mp ordered).2.1).1 comment inLater
    exact Ordering.isLE_of_eq_lt
      (after closing (MarkedComment.closing_mem_marks _ _) _ comment.first_mem_marks)
  · have isOpen : marks.openMark? source = some mark := Option.mem_toList.mp member
    have inComments : .block opening closing ∈ marks.markedComments source := by
      rw [found]
      simp
    refine ⟨openMark?_mem_sourceMarks isOpen, ?_, Ordering.isLE_of_eq_lt
      (beforeOpen _ inComments closing (MarkedComment.closing_mem_marks _ _) mark isOpen)⟩
    rw [role_openMark? isOpen]
    decide

end MarkSet

/-- Extraction finds the marked comments.  On the line of the closing mark of a block, a mark
that begins a later comment or the block left open overlaps the closing mark only where the
two share the slash of `*/`. -/
theorem Language.overlap_after_closing (language : Language) (source : Text) :
    language.marks.extract source = .ok
        { comments := (language.marks.markedComments source).map fun comment =>
            comment.place.comment (Text.physicalLines source)
          unterminated := (language.marks.openMark? source).map
            (·.block (Text.physicalLines source)) } ∧
      ∀ earlier opening closing later,
        language.marks.markedComments source = earlier ++ .block opening closing :: later →
          ∀ mark ∈ language.marks.marksAfter source later, mark.number = closing.number →
            mark.line = closing.line ∧ closing.span.start < mark.span.start ∧
              (closing.span.stop ≤ mark.span.start ∨
                closing.span.SharesSlash closing.line mark.span) := by
  refine ⟨language.marks.extract_eq_markedComments source, ?_⟩
  intro earlier opening closing later found mark member sameLine
  obtain ⟨visited, begins, after⟩ := MarkSet.ordered_of_mem_marksAfter found member
  have inComments : .block opening closing ∈ language.marks.markedComments source := by
    rw [found]
    simp
  have closes := (MarkSet.proper_of_mem_markedComments inComments).2
  have closingVisited : closing ∈ language.marks.sourceMarks source :=
    MarkSet.mem_sourceMarks inComments (MarkedComment.closing_mem_marks _ _)
  have role := SourceMark.role_of_closes closes
  have line : mark.line = closing.line :=
    (MarkSet.standsIn_of_mem_marksOf visited).line_eq
      (MarkSet.standsIn_of_mem_marksOf closingVisited) sameLine
  have start : closing.span.start < mark.span.start := by
    rcases SourceMark.start_lt_of_isLE role begins after with earlierLine | ⟨_, start⟩
    · exact absurd sameLine (Nat.ne_of_gt earlierLine)
    · exact start
  refine ⟨line, start, ?_⟩
  rcases Nat.lt_or_ge mark.span.start closing.span.stop with inside | apart
  · have ends := MarkSet.mem_byRole_of_mem_marksOf closingVisited
    have beginning := MarkSet.mem_byRole_of_mem_marksOf visited
    rw [role] at ends
    rw [line] at beginning
    exact .inr (MarkForm.sharesSlash_of_start_inside (MarkForm.ends_of_mem_byRole language ends)
      (MarkForm.begins_of_mem_byRole language beginning begins) start inside)
  · exact .inl apart

/-- The slash of an end mark opens a block that is never closed. -/
theorem Language.block_opened_by_end_mark :
    let source := "/* a */* b".toList
    let opening : SourceMark :=
      { number := 1, line := source, role := .opening, span := ⟨0, 2⟩ }
    let closing : SourceMark :=
      { number := 1, line := source, role := .closing, span := ⟨5, 7⟩ }
    let overlapping : SourceMark :=
      { number := 1, line := source, role := .opening, span := ⟨6, 8⟩ }
    Language.c.marks.markedComments source = [.block opening closing] ∧
      Language.c.marks.openMark? source = some overlapping ∧
      Language.c.marks.extract source = .ok
        { comments := [{ kind := .block, startLine := 1, startCol := 3, endLine := 1, endCol := 5,
                         content := [" a ".toList] }]
          unterminated := some { startLine := 1, startCol := 9, startOffset := 8,
                                 content := [" b".toList] } } := by
  have visited : Language.c.marks.sourceMarks "/* a */* b".toList =
      Language.c.marks.lineMarks 1 "/* a */* b".toList := by
    rw [MarkSet.sourceMarks]
    exact MarkSet.marksOf_zipIdx _ _ 1
  refine ⟨?_, ?_, by rfl⟩
  · rw [MarkSet.markedComments, visited]
    rfl
  · rw [MarkSet.openMark?, visited]
    rfl

end Traceability
