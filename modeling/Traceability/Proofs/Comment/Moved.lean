import Traceability.Comment.Extraction

/-!
Extraction does not depend on where the numbering of the lines starts.

Lines that are numbered from further on give the same comments further on, and an open block
is moved with them.  Line numbers are only ever compared with each other, so every step and
every run commutes with the move.  A run over some lines and more lines is the run over the
first ones followed by the run over the others.
-/

namespace Traceability

def Comment.moved (count : Nat) (comment : Comment) : Comment :=
  { comment with startLine := comment.startLine + count, endLine := comment.endLine + count }

def UnclosedBlock.moved (count : Nat) (block : UnclosedBlock) : UnclosedBlock :=
  { block with startLine := block.startLine + count }

namespace Extraction

def State.moved (count : Nat) : State → State
  | .outside => .outside
  | .inside block => .inside (block.moved count)

def LineState.moved (count : Nat) (current : LineState) : LineState :=
  { current with
    state := current.state.moved count
    comments := current.comments.map (·.moved count) }

def movedResult (count : Nat) (result : List Comment × State) : List Comment × State :=
  (result.1.map (·.moved count), result.2.moved count)

theorem open?_moved (count : Nat) (state : State) :
    (state.moved count).open? = state.open?.map (·.moved count) := by
  cases state <;> rfl

/-! ### Moving one mark -/

variable (count number : Nat) (line : Text)

private theorem lineComment_moved (mark : Span) :
    lineComment (number + count) line mark =
      (lineComment number line mark).map (·.moved count) := by
  unfold lineComment
  cases columnAfter line mark.stop with
  | error fault => rfl
  | ok startCol => cases textAfter line mark.stop <;> rfl

private theorem blockOpenedBy_moved (mark : Span) :
    blockOpenedBy (number + count) line mark =
      (blockOpenedBy number line mark).map (·.moved count) := by
  unfold blockOpenedBy
  cases columnAfter line mark.stop with
  | error fault => rfl
  | ok startCol => cases textAfter line mark.stop <;> rfl

/-- Whether a mark stands on the line that opened the block does not depend on the move. -/
private theorem closeBlock?_moved (block : UnclosedBlock) (mark : Span) :
    closeBlock? (number + count) line (block.moved count) mark =
      (closeBlock? number line block mark).map (Option.map (·.moved count)) := by
  have onLine : ((block.moved count).startLine = number + count) = (block.startLine = number) :=
    propext Nat.add_right_cancel_iff
  have oneLine : contentOnOneLine (block.moved count) line mark =
      contentOnOneLine block line mark := rfl
  have upTo : contentUpTo (block.moved count) line mark = contentUpTo block line mark := rfl
  have offset : (block.moved count).startOffset = block.startOffset := rfl
  have ended (content : Except Fault (List Text)) :
      (do
        let pieces ← content
        let endCol ← Fault.misplacedCut.unless (Text.charsBefore? line mark.start)
        return some ((block.moved count).close (number + count) endCol pieces)) =
      (do
        let pieces ← content
        let endCol ← Fault.misplacedCut.unless (Text.charsBefore? line mark.start)
        return some (block.close number endCol pieces) : Except Fault (Option Comment)).map
          (Option.map (·.moved count)) := by
    cases content with
    | error fault => rfl
    | ok pieces => cases Text.charsBefore? line mark.start <;> rfl
  simp only [closeBlock?, onLine, oneLine, upTo, offset]
  split
  · rfl
  · split
    · exact ended (contentOnOneLine block line mark)
    · exact ended (contentUpTo block line mark)

theorem visit_moved (current : LineState) (found : MarkRole × Span) :
    visit (number + count) line (current.moved count) found =
      (visit number line current found).map (·.moved count) := by
  obtain ⟨role, mark⟩ := found
  obtain ⟨state, comments, changed⟩ := current
  cases state with
  | outside =>
      cases role with
      | line =>
          simp only [visit, LineState.moved, State.moved, lineComment_moved]
          cases lineComment number line mark with
          | error fault => rfl
          | ok comment => simp [bind, Except.bind, Except.map, pure, Except.pure]
      | opening =>
          simp only [visit, LineState.moved, State.moved, blockOpenedBy_moved]
          cases blockOpenedBy number line mark <;> rfl
      | closing => rfl
  | inside block =>
      cases role with
      | line => rfl
      | opening => rfl
      | closing =>
          simp only [visit, LineState.moved, State.moved, closeBlock?_moved]
          cases closeBlock? number line block mark with
          | error fault => rfl
          | ok closed =>
              cases closed with
              | none => rfl
              | some comment =>
                  simp [bind, Except.bind, Except.map, pure, Except.pure]

/-! ### Moving lines -/

private theorem foldlM_visit_moved (found : List (MarkRole × Span)) (current : LineState) :
    found.foldlM (visit (number + count) line) (current.moved count) =
      (found.foldlM (visit number line) current).map (·.moved count) := by
  induction found generalizing current with
  | nil => rfl
  | cons first others ih =>
      rw [List.foldlM_cons, List.foldlM_cons, visit_moved]
      cases visit number line current first with
      | error fault => rfl
      | ok next => exact ih next

private theorem atLineEnd_moved (last : LineState) :
    (last.moved count).atLineEnd line = movedResult count (last.atLineEnd line) := by
  obtain ⟨state, comments, changed⟩ := last
  cases state with
  | outside => rfl
  | inside block => cases changed <;> rfl

theorem step_moved (marks : MarkSet) (state : State) :
    step marks (number + count) line (state.moved count) =
      (step marks number line state).map (movedResult count) := by
  have start : LineState.moved count { state, comments := [], blockChanged := false } =
      { state := state.moved count, comments := [], blockChanged := false } := rfl
  unfold step
  rw [← start, foldlM_visit_moved]
  cases (marks.ofLine line).foldlM (visit number line)
      { state, comments := [], blockChanged := false } with
  | error fault => rfl
  | ok last => exact congrArg Except.ok (atLineEnd_moved count line last)

theorem run_moved (marks : MarkSet) (lines : List Text) (state : State) :
    run marks (number + count) lines (state.moved count) =
      (run marks number lines state).map (movedResult count) := by
  induction lines generalizing number state with
  | nil => rfl
  | cons line others ih =>
      rw [run, run, step_moved]
      cases step marks number line state with
      | error fault => rfl
      | ok stepped =>
          obtain ⟨comments, next⟩ := stepped
          have later := ih (number + 1) next
          rw [Nat.add_right_comm] at later
          simp only [Except.map, bind, Except.bind, movedResult, later]
          cases run marks (number + 1) others next with
          | error fault => rfl
          | ok result =>
              simp only [pure, Except.pure, List.map_append]

/-- Nothing but the state is carried from the lines that were read to those that follow. -/
theorem run_append (marks : MarkSet) (front back : List Text) (state : State) :
    run marks number (front ++ back) state =
      (run marks number front state).bind fun (comments, middle) =>
        (run marks (number + front.length) back middle).map fun (later, last) =>
          (comments ++ later, last) := by
  induction front generalizing number state with
  | nil =>
      change run marks number back state =
        (run marks number back state).map fun (later, last) => ([] ++ later, last)
      cases run marks number back state <;> rfl
  | cons line others ih =>
      rw [List.cons_append, run, run]
      cases step marks number line state with
      | error fault => rfl
      | ok stepped =>
          obtain ⟨comments, next⟩ := stepped
          have length : number + (line :: others).length = number + 1 + others.length := by
            rw [List.length_cons]
            omega
          rw [length]
          simp only [bind, Except.bind]
          rw [ih]
          cases run marks (number + 1) others next with
          | error fault => rfl
          | ok read =>
              simp only [Except.bind, Except.map, pure, Except.pure]
              cases run marks (number + 1 + others.length) back read.2 with
              | error fault => rfl
              | ok result => simp only [List.append_assoc]

end Extraction
end Traceability
