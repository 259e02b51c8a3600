import Traceability.Proofs.Language.Marks
import Traceability.Proofs.Tag.Coverage

/-!
Comments come in the order of their places.

Comments are found in the order in which their marks begin, but they are placed where their
first marks end.  The two orders agree because no opening mark of a language ends before a line
mark that begins earlier: the two are apart, or they are the `//` and the `/*` of `//*`.  Marks
in general may contain each other, and then the orders differ.
-/

namespace Traceability

/-! ### Line marks and opening marks -/

namespace MarkForm

variable {line : Text} {first second : Span}

private theorem stop_lt_of_apart {form other : MarkForm} {letter otherLetter : Char → Prop}
    (written : form.WrittenWith letter) (otherWritten : other.WrittenWith otherLetter)
    (apart : ∀ c, letter c → ¬otherLetter c) (member : first ∈ form.occurrences line)
    (otherMember : second ∈ other.occurrences line) (ordered : first.start ≤ second.start) :
    first.stop < second.stop := by
  have outside := written.stop_le_of_start_le otherWritten apart member otherMember ordered
  have proper := ((other.placed_occurrences line).covers second otherMember).start_lt_stop
  omega

/-- Both marks have two characters, and they cannot begin at one place. -/
private theorem stop_lt_of_slashes (slashes : first ∈ (literal "//".toList).occurrences line)
    (slashStar : second ∈ (literal "/*".toList).occurrences line)
    (ordered : first.start ≤ second.start) : first.stop < second.stop := by
  have shows := shows_of_mem_literal slashes
  have otherShows := shows_of_mem_literal slashStar
  have different : first.start ≠ second.start := by
    intro same
    obtain ⟨after, otherAfter, whole⟩ := shows.append_eq_of_start_eq otherShows same
    simp at whole
  have stop : first.stop = first.start + 2 := shows.stop_eq
  have otherStop : second.stop = second.start + 2 := otherShows.stop_eq
  omega

private theorem stop_lt_of_hash (hash : first ∈ (literal "#".toList).occurrences line)
    (quotes : second ∈ tripleQuote.occurrences line) (ordered : first.start ≤ second.start) :
    first.stop < second.stop :=
  stop_lt_of_apart hash_writtenWith tripleQuote_writtenWith (not_letter_of_all (by decide)) hash
    quotes ordered

private theorem stop_lt_of_any (lineMark : first ∈ anyLine.occurrences line)
    (opening : second ∈ anyOpening.occurrences line) (ordered : first.start ≤ second.start) :
    first.stop < second.stop := by
  have notSlashStar : ∀ c ∈ "/*".toList, ¬IsBatchLetter c := not_letter_of_all (by decide)
  have notQuote : ∀ c, IsQuote c → ¬IsBatchLetter c := by
    rintro c (rfl | rfl) <;> decide
  rcases mem_occurrences_anyLine.mp lineMark with slashes | hash | batch
  · rcases mem_occurrences_anyOpening.mp opening with slashStar | quotes
    · exact stop_lt_of_slashes slashes slashStar ordered
    · exact stop_lt_of_apart slashes_writtenWith tripleQuote_writtenWith
        (not_letter_of_all (by decide)) slashes quotes ordered
  · rcases mem_occurrences_anyOpening.mp opening with slashStar | quotes
    · exact stop_lt_of_apart hash_writtenWith slashStar_writtenWith
        (not_letter_of_all (by decide)) hash slashStar ordered
    · exact stop_lt_of_hash hash quotes ordered
  · rcases mem_occurrences_anyOpening.mp opening with slashStar | quotes
    · exact stop_lt_of_apart batchLine_writtenWith slashStar_writtenWith
        (fun c isLetter inMark => notSlashStar c inMark isLetter) batch slashStar ordered
    · exact stop_lt_of_apart batchLine_writtenWith tripleQuote_writtenWith
        (fun c isLetter quote => notQuote c quote isLetter) batch quotes ordered

theorem stop_lt_of_mem_byRole (language : Language)
    (lineMark : (.line, first) ∈ language.marks.byRole line)
    (opening : (.opening, second) ∈ language.marks.byRole line)
    (ordered : first.start ≤ second.start) : first.stop < second.stop := by
  obtain ⟨search, isSearch, found⟩ := MarkSet.mem_byRole_iff.mp lineMark
  obtain ⟨otherSearch, isOther, otherFound⟩ := MarkSet.mem_byRole_iff.mp opening
  cases language with
  | c | cpp | cOrCpp | javaScript | typeScript | java | kotlin | rust | go =>
      obtain rfl := Option.some.inj isSearch
      obtain rfl := Option.some.inj isOther
      exact stop_lt_of_slashes found otherFound ordered
  | python =>
      obtain rfl := Option.some.inj isSearch
      obtain rfl := Option.some.inj isOther
      exact stop_lt_of_hash found otherFound ordered
  | bash | shell | batch => cases isOther
  | any =>
      obtain rfl := Option.some.inj isSearch
      obtain rfl := Option.some.inj isOther
      exact stop_lt_of_any found otherFound ordered

end MarkForm

/-! ### Two comments -/

namespace MarkSet

variable {marks : MarkSet} {line : Text}

theorem stop_lt_of_start_lt {role : MarkRole} {first second : Span}
    (member : (role, first) ∈ marks.byRole line) (otherMember : (role, second) ∈ marks.byRole line)
    (earlier : first.start < second.start) : first.stop < second.stop := by
  obtain ⟨search, isSearch, found⟩ := mem_byRole_iff.mp member
  obtain ⟨otherSearch, isOther, otherFound⟩ := mem_byRole_iff.mp otherMember
  obtain rfl : search = otherSearch := Option.some.inj (isSearch.symm.trans isOther)
  have outside := (search.placed line).stop_le_of_start_lt found otherFound earlier
  have proper := ((search.placed line).covers second otherFound).start_lt_stop
  omega

end MarkSet

namespace Language

variable {language : Language} {source : Text} {mark opening closing : SourceMark}
  {later : MarkedComment}

private theorem start_lt_of_line
    (before : [.line mark, later].Sublist (language.marks.markedComments source)) :
    mark.number < later.first.number ∨
      mark.number = later.first.number ∧ mark.colAfter < later.first.colAfter := by
  have inEarlier : mark ∈ (MarkedComment.line mark).marks := MarkedComment.first_mem_marks _
  have ordered := MarkSet.compareRank_of_sublist before inEarlier
  have inComments := before.subset (.head _)
  have laterMember := before.subset (.tail _ (.head _))
  have visited := MarkSet.mem_sourceMarks inComments inEarlier
  have laterVisited := MarkSet.mem_sourceMarks laterMember later.first_mem_marks
  have stands := MarkSet.standsIn_of_mem_marksOf visited
  have laterStands := MarkSet.standsIn_of_mem_marksOf laterVisited
  have found := MarkSet.mem_byRole_of_mem_marksOf visited
  have laterFound := MarkSet.mem_byRole_of_mem_marksOf laterVisited
  have isLine : mark.role = .line := MarkSet.proper_of_mem_markedComments inComments
  have begins := (MarkSet.proper_of_mem_markedComments laterMember).first_role
  rw [SourceMark.compareRank_lt_iff, isLine] at ordered
  rcases ordered with below | ⟨sameNumber, place⟩
  · exact .inl below
  · right
    refine ⟨sameNumber, ?_⟩
    have sameLine := stands.line_eq laterStands sameNumber
    have stop : mark.span.stop < later.first.span.stop := by
      rw [isLine, sameLine] at found
      cases role : later.first.role with
      | line =>
          rw [role] at laterFound place
          apply MarkSet.stop_lt_of_start_lt found laterFound
          omega
      | opening =>
          rw [role] at laterFound
          apply MarkForm.stop_lt_of_mem_byRole language found laterFound
          omega
      | closing => exact absurd role begins
    have covers := stands.covers
    rw [sameLine] at covers
    rw [SourceMark.colAfter, SourceMark.colAfter, sameLine]
    exact Nat.succ_lt_succ (covers.columnAt_stop_lt laterStands.covers stop)

private theorem start_lt_of_block
    (before : [.block opening closing, later].Sublist (language.marks.markedComments source)) :
    opening.number < later.first.number ∨
      opening.number = later.first.number ∧ opening.colAfter < later.first.colAfter := by
  have inComments := before.subset (.head _)
  have closes := (MarkSet.proper_of_mem_markedComments inComments).2
  have stands := MarkSet.standsIn_of_mem_marksOf
    (MarkSet.mem_sourceMarks inComments (MarkedComment.first_mem_marks _))
  have closingStands := MarkSet.standsIn_of_mem_marksOf
    (MarkSet.mem_sourceMarks inComments (MarkedComment.closing_mem_marks opening closing))
  have within := stands.blockPlace_within closingStands closes
  have ordered : opening.number ≤ closing.number := within.ordered
  have onOneLine : opening.number = closing.number → opening.colAfter ≤ closing.colBefore + 1 :=
    within.onOneLine
  rcases MarkSet.stop_lt_of_block before with below | ⟨sameNumber, apart⟩
  · left
    omega
  · rcases Nat.lt_or_ge opening.number later.first.number with above | notAbove
    · exact .inl above
    · right
      have column := onOneLine (by omega)
      omega

/-- The comments of a text start at ever later places, and a comment that comes after a block
starts after the end of that block. -/
theorem comments_in_source_order (language : Language) (source : Text) :
    ∃ extraction, language.marks.extract source = .ok extraction ∧
      extraction.comments.Pairwise fun earlier later =>
        earlier.start < later.start ∧ (earlier.kind = .block → earlier.stop < later.start) := by
  refine ⟨_, language.marks.extract_eq_markedComments source, ?_⟩
  apply List.pairwise_map.mpr
  apply List.pairwise_iff_forall_sublist.mpr
  intro earlier later before
  have startLine : later.place.startLine = later.first.number := later.place_startLine
  have startCol : later.place.startCol = later.first.colAfter := later.place_startCol
  have start : (later.place.comment (Text.physicalLines source)).start =
      toLex (later.first.number, later.first.colAfter) := by
    rw [← startLine, ← startCol]
    rfl
  rw [start]
  cases earlier with
  | line mark =>
      refine ⟨Prod.Lex.toLex_lt_toLex.mpr (start_lt_of_line before), ?_⟩
      intro isBlock
      cases isBlock
  | block opening closing =>
      refine ⟨Prod.Lex.toLex_lt_toLex.mpr (start_lt_of_block before), ?_⟩
      intro _
      apply Prod.Lex.toLex_lt_toLex.mpr
      change closing.number < _ ∨ closing.number = _ ∧ closing.colBefore < _
      have stop := MarkSet.stop_lt_of_block before
      omega

end Language
end Traceability
