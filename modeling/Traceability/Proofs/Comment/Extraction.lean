import Traceability.Proofs.Comment.Scan

/-!
Extraction line by line finds the comments of the scan over the whole text.

The state between two marks is the image of the opening mark of the open block, if there
is one.  `LineState.Tracks` says so, every visited mark preserves it, and the states
between lines follow.  So no cut is ever misplaced, and `MarkSet.extract_eq_scan` gives
every comment with its content.
-/

namespace Traceability

open Text (columnAt)

def SourceMark.block (lines : List Text) (opening : SourceMark) : UnclosedBlock :=
  { startLine := opening.number, startCol := opening.colAfter,
    startOffset := opening.span.stop,
    content := opening.line.drop (opening.colAfter - 1) :: lines.drop opening.number }

namespace Extraction

def stateAfter (lines : List Text) : Option SourceMark → State
  | none => .outside
  | some opening => .inside (opening.block lines)

theorem open?_stateAfter (lines : List Text) (opened : Option SourceMark) :
    (stateAfter lines opened).open? = opened.map (·.block lines) := by
  cases opened <;> rfl

/-! ### Cuts at a mark -/

section Cuts

variable {line : Text} {span : Span}

theorem columnAfter_eq (covers : span.Covers line) :
    columnAfter line span.stop = .ok (columnAt line span.stop + 1) := by
  rw [columnAfter, covers.charsBefore?_stop]
  rfl

theorem textAfter_eq (covers : span.Covers line) :
    textAfter line span.stop = .ok (line.drop (columnAt line span.stop)) := by
  rw [textAfter, covers.dropBytes?_stop]
  rfl

variable {read : List Text} {mark : SourceMark}

theorem lineComment_eq (covers : mark.span.Covers mark.line)
    (current : mark.number = read.length + 1) (rest : List Text) :
    lineComment mark.number mark.line mark.span =
      .ok (mark.lineCommentPlace.comment (read ++ mark.line :: rest)) := by
  have content :
      Text.excerpt (read ++ mark.line :: rest) mark.number mark.colAfter mark.number
          mark.line.length =
        [mark.line.drop (columnAt mark.line mark.span.stop)] := by
    rw [current, Text.excerpt_line, List.take_length]
    rfl
  simp only [lineComment, columnAfter_eq covers, textAfter_eq covers,
    CommentPlace.comment, SourceMark.lineCommentPlace, content]
  rfl

theorem blockOpenedBy_eq (covers : mark.span.Covers mark.line)
    (current : mark.number = read.length + 1) :
    blockOpenedBy mark.number mark.line mark.span = .ok (mark.block read) := by
  have unread : read.drop mark.number = [] := List.drop_eq_nil_of_le (by omega)
  simp only [blockOpenedBy, columnAfter_eq covers, textAfter_eq covers, SourceMark.block,
    unread]
  rfl

end Cuts

/-! ### Closing a block -/

section Closing

variable {read : List Text} {opening mark : SourceMark}

private theorem closeBlock?_on_line (opened : opening.StandsIn (read ++ [mark.line]))
    (covers : mark.span.Covers mark.line) (current : mark.number = read.length + 1)
    (same : opening.number = mark.number) (apart : opening.span.stop ≤ mark.span.start)
    (rest : List Text) :
    closeBlock? mark.number mark.line (opening.block read) mark.span =
      .ok (some ((opening.blockPlace mark).comment (read ++ mark.line :: rest))) := by
  have sameLine : opening.line = mark.line := by
    have found := opened.found
    rw [same, current, Nat.add_sub_cancel, List.getElem?_concat_length] at found
    exact (Option.some.inj found).symm
  have openingCovers : opening.span.Covers mark.line := sameLine ▸ opened.covers
  have notOverlapping :
      ¬((opening.block read).startLine = mark.number ∧
        mark.span.start < (opening.block read).startOffset) := by
    simp only [SourceMark.block]
    omega
  have unread : read.drop opening.number = [] := List.drop_eq_nil_of_le (by omega)
  have content : contentOnOneLine (opening.block read) mark.line mark.span =
      .ok [(mark.line.take mark.colBefore).drop (opening.colAfter - 1)] := by
    simp only [contentOnOneLine, SourceMark.block, unread,
      openingCovers.sliceBytes?_between covers apart, SourceMark.colBefore,
      SourceMark.colAfter, sameLine]
    rfl
  have onLine : (opening.block read).startLine = mark.number := same
  simp only [closeBlock?, if_neg notOverlapping, if_pos onLine, content,
    covers.charsBefore?_start]
  simp only [CommentPlace.comment, SourceMark.blockPlace, same]
  rw [current, Text.excerpt_line]
  simp only [UnclosedBlock.close, SourceMark.block, same, current]
  rfl

private theorem closeBlock?_later (opened : opening.StandsIn read)
    (covers : mark.span.Covers mark.line) (current : mark.number = read.length + 1)
    (rest : List Text) :
    closeBlock? mark.number mark.line (opening.block read) mark.span =
      .ok (some ((opening.blockPlace mark).comment (read ++ mark.line :: rest))) := by
  have different : ¬(opening.block read).startLine = mark.number := by
    have within := opened.number_le
    simp only [SourceMark.block]
    omega
  have notOverlapping :
      ¬((opening.block read).startLine = mark.number ∧
        mark.span.start < (opening.block read).startOffset) :=
    fun both => different both.1
  have content : contentUpTo (opening.block read) mark.line mark.span =
      .ok ((opening.block read).content ++ [mark.line.take mark.colBefore]) := by
    simp only [contentUpTo, covers.takeBytes?_start]
    rfl
  simp only [closeBlock?, if_neg notOverlapping, if_neg different, content,
    covers.charsBefore?_start]
  simp only [CommentPlace.comment, SourceMark.blockPlace]
  rw [current, Text.excerpt_lines opened.positive opened.found]
  rfl

/-- A mark closes a block exactly if the scan matches it with the opening mark. -/
theorem closeBlock?_eq (opened : opening.StandsIn (read ++ [mark.line]))
    (covers : mark.span.Covers mark.line) (current : mark.number = read.length + 1)
    (closing : mark.role = .closing) (rest : List Text) :
    closeBlock? mark.number mark.line (opening.block read) mark.span =
      .ok (if mark.closes opening then
        some ((opening.blockPlace mark).comment (read ++ mark.line :: rest)) else none) := by
  have within := opened.number_le
  simp only [List.length_append, List.length_singleton] at within
  rcases Nat.lt_or_ge opening.number mark.number with earlier | notEarlier
  · have closes : mark.closes opening = true := by
      simp [SourceMark.closes, closing, earlier]
    have stands : opening.StandsIn read := by
      refine ⟨opened.positive, ?_, opened.covers⟩
      have found := opened.found
      rw [List.getElem?_append_left (by have positive := opened.positive; omega)] at found
      exact found
    rw [if_pos closes]
    exact closeBlock?_later stands covers current rest
  · have same : opening.number = mark.number := by omega
    by_cases apart : opening.span.stop ≤ mark.span.start
    · have closes : mark.closes opening = true := by
        simp [SourceMark.closes, closing, same, apart]
      rw [if_pos closes]
      exact closeBlock?_on_line opened covers current same apart rest
    · have stays : ¬mark.closes opening = true := by
        simp [SourceMark.closes, closing, same, apart]
      have overlapping :
          (opening.block read).startLine = mark.number ∧
            mark.span.start < (opening.block read).startOffset := by
        simp only [SourceMark.block]
        omega
      rw [if_neg stays, closeBlock?, if_pos overlapping]
      rfl

end Closing

/-! ### One line -/

/-- What is known between two marks of a line is the image of the opening mark of the
open block.  A block changed on the line exactly if that mark stands on it. -/
structure LineState.Tracks (read : List Text) (line : Text) (opened : Option SourceMark)
    (current : LineState) : Prop where
  state : current.state = stateAfter read opened
  changed : ∀ opening, opened = some opening →
    current.blockChanged = decide (read.length < opening.number)
  stands : ∀ opening, opened = some opening → opening.StandsIn (read ++ [line])

private theorem tracks_outside (read : List Text) (line : Text) (comments : List Comment)
    (changed : Bool) :
    LineState.Tracks read line none { state := .outside, comments, blockChanged := changed } :=
  ⟨rfl, nofun, nofun⟩

private theorem visit_outside {read : List Text} {mark : SourceMark} {comments : List Comment}
    {changed : Bool} (covers : mark.span.Covers mark.line)
    (number : mark.number = read.length + 1) (rest : List Text) :
    ∃ next, visit mark.number mark.line
        { state := .outside, comments, blockChanged := changed } (mark.role, mark.span) =
          .ok next ∧
      next.Tracks read mark.line (SourceMark.follow none [mark]).2 ∧
      next.comments = comments ++
        (SourceMark.follow none [mark]).1.map (·.comment (read ++ mark.line :: rest)) := by
  cases role : mark.role with
  | line =>
      have followed : SourceMark.follow none [mark] = ([mark.lineCommentPlace], none) := by
        simp [SourceMark.follow, role]
      rw [followed]
      refine ⟨_, ?_, tracks_outside read mark.line _ changed, rfl⟩
      simp only [visit, lineComment_eq covers number rest]
      rfl
  | opening =>
      have followed : SourceMark.follow none [mark] = ([], some mark) := by
        simp [SourceMark.follow, role]
      rw [followed]
      refine ⟨{ state := .inside (mark.block read), comments, blockChanged := true },
        ?_, ⟨rfl, ?_, ?_⟩, by simp⟩
      · simp only [visit, blockOpenedBy_eq covers number]
        rfl
      · intro opening same
        obtain rfl := Option.some.inj same
        simp [number]
      · intro opening same
        obtain rfl := Option.some.inj same
        have found : (read ++ [mark.line])[mark.number - 1]? = some mark.line := by
          rw [number, Nat.add_sub_cancel, List.getElem?_concat_length]
        exact ⟨by omega, found, covers⟩
  | closing =>
      have followed : SourceMark.follow none [mark] = ([], none) := by
        simp [SourceMark.follow, role]
      rw [followed]
      exact ⟨_, rfl, tracks_outside read mark.line comments changed, by simp⟩

private theorem visit_inside {read : List Text} {mark opening : SourceMark}
    {comments : List Comment} {changed : Bool}
    (tracks : LineState.Tracks read mark.line (some opening)
      { state := .inside (opening.block read), comments, blockChanged := changed })
    (covers : mark.span.Covers mark.line) (number : mark.number = read.length + 1)
    (rest : List Text) :
    ∃ next, visit mark.number mark.line
        { state := .inside (opening.block read), comments, blockChanged := changed }
          (mark.role, mark.span) = .ok next ∧
      next.Tracks read mark.line (SourceMark.follow (some opening) [mark]).2 ∧
      next.comments = comments ++
        (SourceMark.follow (some opening) [mark]).1.map
          (·.comment (read ++ mark.line :: rest)) := by
  cases role : mark.role with
  | line =>
      have followed : SourceMark.follow (some opening) [mark] = ([], some opening) := by
        simp [SourceMark.follow, SourceMark.closes, role]
      rw [followed]
      exact ⟨_, rfl, tracks, by simp⟩
  | opening =>
      have followed : SourceMark.follow (some opening) [mark] = ([], some opening) := by
        simp [SourceMark.follow, SourceMark.closes, role]
      rw [followed]
      exact ⟨_, rfl, tracks, by simp⟩
  | closing =>
      have closed := closeBlock?_eq (tracks.stands opening rfl) covers number role rest
      by_cases closes : mark.closes opening = true
      · have followed : SourceMark.follow (some opening) [mark] =
            ([opening.blockPlace mark], none) := by
          simp [SourceMark.follow, closes]
        rw [if_pos closes] at closed
        rw [followed]
        refine ⟨_, ?_, tracks_outside read mark.line _ true, rfl⟩
        simp only [visit, closed]
        rfl
      · have followed : SourceMark.follow (some opening) [mark] = ([], some opening) := by
          simp [SourceMark.follow, closes]
        rw [if_neg closes] at closed
        rw [followed]
        refine ⟨_, ?_, tracks, by simp⟩
        simp only [visit, closed]
        rfl

theorem visit_tracks {read : List Text} (mark : SourceMark) {opened : Option SourceMark}
    {current : LineState} (tracks : current.Tracks read mark.line opened)
    (covers : mark.span.Covers mark.line) (number : mark.number = read.length + 1)
    (rest : List Text) :
    ∃ next, visit mark.number mark.line current (mark.role, mark.span) = .ok next ∧
      next.Tracks read mark.line (SourceMark.follow opened [mark]).2 ∧
      next.comments = current.comments ++
        (SourceMark.follow opened [mark]).1.map (·.comment (read ++ mark.line :: rest)) := by
  obtain ⟨state, comments, changed⟩ := current
  obtain rfl : state = stateAfter read opened := tracks.state
  cases opened with
  | none => exact visit_outside covers number rest
  | some opening => exact visit_inside tracks covers number rest

theorem foldlM_visit_tracks {read : List Text} {line : Text}
    {found : List (MarkRole × Span)} (covers : ∀ pair ∈ found, pair.2.Covers line)
    (rest : List Text) {opened : Option SourceMark} {current : LineState}
    (tracks : current.Tracks read line opened) :
    ∃ last, found.foldlM (visit (read.length + 1) line) current = .ok last ∧
      last.Tracks read line
        (SourceMark.follow opened (found.map (MarkSet.placeMark (read.length + 1) line))).2 ∧
      last.comments = current.comments ++
        (SourceMark.follow opened
          (found.map (MarkSet.placeMark (read.length + 1) line))).1.map
            (·.comment (read ++ line :: rest)) := by
  induction found generalizing opened current with
  | nil =>
      refine ⟨current, rfl, ?_, ?_⟩
      · cases opened <;> exact tracks
      · cases opened <;> simp [SourceMark.follow]
  | cons pair others ih =>
      let mark := MarkSet.placeMark (read.length + 1) line pair
      have here : mark.span.Covers mark.line := covers pair (.head _)
      obtain ⟨next, visited, nextTracks, nextComments⟩ :=
        visit_tracks mark tracks here rfl rest
      obtain ⟨last, folded, lastTracks, lastComments⟩ :=
        ih (fun other member => covers other (.tail _ member)) nextTracks
      have whole : (pair :: others).map (MarkSet.placeMark (read.length + 1) line) =
          [mark] ++ others.map (MarkSet.placeMark (read.length + 1) line) := rfl
      rw [whole, SourceMark.follow_append]
      refine ⟨last, ?_, lastTracks, ?_⟩
      · rw [List.foldlM_cons]
        have first : visit (read.length + 1) line current pair = .ok next := visited
        rw [first]
        exact folded
      · rw [lastComments, nextComments, List.map_append, List.append_assoc]
        rfl

private theorem atLineEnd_eq {read : List Text} {line : Text} {opened : Option SourceMark}
    {last : LineState} (tracks : last.Tracks read line opened) :
    last.atLineEnd line = (last.comments, stateAfter (read ++ [line]) opened) := by
  obtain ⟨state, comments, changed⟩ := last
  obtain rfl : state = stateAfter read opened := tracks.state
  cases opened with
  | none => rfl
  | some opening =>
      have flag := tracks.changed opening rfl
      simp only at flag
      by_cases onLine : read.length < opening.number
      · have unread : read.drop opening.number = [] := List.drop_eq_nil_of_le (by omega)
        have stillUnread : (read ++ [line]).drop opening.number = [] :=
          List.drop_eq_nil_of_le (by simp only [List.length_append, List.length_singleton]; omega)
        simp [LineState.atLineEnd, stateAfter, SourceMark.block, flag, onLine, unread,
          stillUnread]
      · have grown : (read ++ [line]).drop opening.number = read.drop opening.number ++ [line] :=
          List.drop_append_of_le_length (by omega)
        simp [LineState.atLineEnd, stateAfter, SourceMark.block, flag, onLine, grown]

variable {read : List Text} {opened : Option SourceMark}

theorem step_eq (marks : MarkSet) (line : Text) (rest : List Text)
    (stands : ∀ opening, opened = some opening → opening.StandsIn read) :
    step marks (read.length + 1) line (stateAfter read opened) =
        .ok ((SourceMark.follow opened (marks.lineMarks (read.length + 1) line)).1.map
            (·.comment (read ++ line :: rest)),
          stateAfter (read ++ [line])
            (SourceMark.follow opened (marks.lineMarks (read.length + 1) line)).2) ∧
      ∀ opening,
        (SourceMark.follow opened (marks.lineMarks (read.length + 1) line)).2 = some opening →
          opening.StandsIn (read ++ [line]) := by
  have covers : ∀ pair ∈ marks.ofLine line, pair.2.Covers line := by
    intro pair member
    rw [MarkSet.ofLine_eq] at member
    exact MarkSet.covers_of_mem_byRole (mem_stableSort.mp member)
  have start : LineState.Tracks read line opened
      { state := stateAfter read opened, comments := [], blockChanged := false } := by
    refine ⟨rfl, ?_, fun opening same => (stands opening same).append [line]⟩
    intro opening same
    have within := (stands opening same).number_le
    simp only [Nat.not_lt.mpr within, decide_false]
  obtain ⟨last, folded, tracks, comments⟩ := foldlM_visit_tracks covers rest start
  refine ⟨?_, tracks.stands⟩
  rw [step, folded]
  simp only [Except.map, atLineEnd_eq tracks, comments, List.nil_append]
  rfl

theorem run_eq (marks : MarkSet) (rest : List Text)
    (stands : ∀ opening, opened = some opening → opening.StandsIn read) :
    run marks (read.length + 1) rest (stateAfter read opened) =
        .ok ((SourceMark.follow opened
            (marks.marksOf (rest.zipIdx (read.length + 1)))).1.map (·.comment (read ++ rest)),
          stateAfter (read ++ rest)
            (SourceMark.follow opened (marks.marksOf (rest.zipIdx (read.length + 1)))).2) := by
  rw [MarkSet.marksOf_zipIdx]
  induction rest generalizing read opened with
  | nil =>
      rw [List.append_nil]
      cases opened <;> rfl
  | cons line others ih =>
      obtain ⟨stepped, nextStands⟩ := step_eq marks line others stands
      have later := ih nextStands
      have next : (read ++ [line]).length = read.length + 1 := by simp
      have whole : read ++ line :: others = read ++ [line] ++ others := by simp
      rw [next] at later
      rw [run, stepped, List.zipIdx_cons, List.flatMap_cons, SourceMark.follow_append,
        List.map_append, whole]
      change (run marks (read.length + 1 + 1) others _).bind _ = _
      rw [later]
      rfl

end Extraction

/-- Extraction never fails, and it finds the comments of the scan, each with the excerpt
at its place. -/
theorem MarkSet.extract_eq_scan (marks : MarkSet) (source : Text) :
    marks.extract source = .ok
      { comments := (SourceMark.scan (marks.sourceMarks source)).1.map
          (·.comment (Text.physicalLines source))
        unterminated := (SourceMark.scan (marks.sourceMarks source)).2.map
          (·.block (Text.physicalLines source)) } := by
  have nothing : ∀ opening, (none : Option SourceMark) = some opening → opening.StandsIn [] :=
    nofun
  have whole := Extraction.run_eq marks (Text.physicalLines source) nothing
  rw [List.length_nil, Nat.zero_add, List.nil_append] at whole
  rw [SourceMark.scan_eq_follow, ← Extraction.open?_stateAfter, MarkSet.extract]
  change (Extraction.run marks 1 (Text.physicalLines source)
    (Extraction.stateAfter [] none)).map _ = _
  rw [whole]
  rfl

/-- The comments and the block that is open at the end stand where the scan over all
marks of the text puts them. -/
theorem MarkSet.extract_places_eq_scan (marks : MarkSet) (source : Text) :
    ∃ result, marks.extract source = .ok result ∧
      result.comments.map Comment.place = (SourceMark.scan (marks.sourceMarks source)).1 ∧
      result.unterminated.map (fun block =>
          (block.startLine, block.startCol, block.startOffset)) =
        (SourceMark.scan (marks.sourceMarks source)).2.map fun opening =>
          (opening.number, opening.colAfter, opening.span.stop) := by
  refine ⟨_, marks.extract_eq_scan source, ?_, ?_⟩
  · rw [List.map_map]
    exact List.map_id _
  · rw [Option.map_map]
    rfl

end Traceability
