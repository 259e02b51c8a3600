import Traceability.Comment.Basic
import Traceability.Fault
import Traceability.Mark.Finder
import Traceability.StableSort

/-!
The comments of a source text, line by line.

The marks of a line are visited from left to right.  Outside a block every mark of a
line comment yields a comment, and an opening mark opens a block.  Inside a block
only a closing mark counts, and on the line that opened the block it must not overlap
the opening mark: where both marks are spelled alike it is the opening mark itself.
A line without a block mark that counts belongs to the open block as a whole.
-/

namespace Traceability

/-- The three roles of a mark, in the order in which marks at one place are visited. -/
inductive MarkRole
  | line
  | opening
  | closing
  deriving DecidableEq, Repr

def MarkRole.find (role : MarkRole) (finder : Option MarkFinder) (line : Text) :
    List (MarkRole × Span) :=
  match finder with
  | none => []
  | some finder => (finder.find line).map fun span => (role, span)

/-- All marks of a line by their start; at one place the roles keep their order. -/
def MarkSet.ofLine (marks : MarkSet) (line : Text) : List (MarkRole × Span) :=
  stableSort (fun left right => left.2.start ≤ right.2.start)
    (MarkRole.line.find marks.line? line ++ MarkRole.opening.find marks.opening? line ++
      MarkRole.closing.find marks.closing? line)

namespace Extraction

inductive State
  | outside
  | inside (block : UnclosedBlock)
  deriving DecidableEq, Repr

/-- What is known between two marks of a line: the state, the comments completed on
the line, and whether a block was opened or closed on it. -/
structure LineState where
  state : State
  comments : List Comment
  blockChanged : Bool
  deriving DecidableEq, Repr

open Text (byteLength charsBefore? dropBytes? sliceBytes? takeBytes?)

def columnAfter (line : Text) (stop : Nat) : Except Fault Nat :=
  (Fault.misplacedCut.unless (charsBefore? line stop)).map (· + 1)

def textAfter (line : Text) (stop : Nat) : Except Fault Text :=
  Fault.misplacedCut.unless (dropBytes? line stop)

def lineComment (number : Nat) (line : Text) (mark : Span) : Except Fault Comment := do
  let startCol ← columnAfter line mark.stop
  let tail ← textAfter line mark.stop
  return { kind := .line, startLine := number, startCol, endLine := number,
           endCol := line.length, content := [tail] }

def blockOpenedBy (number : Nat) (line : Text) (mark : Span) : Except Fault UnclosedBlock := do
  let startCol ← columnAfter line mark.stop
  let tail ← textAfter line mark.stop
  return { startLine := number, startCol, startOffset := mark.stop, content := [tail] }

/-- The content of a block that a mark closes on the line that opened it: its only
line runs from the opening mark to the closing one. -/
def contentOnOneLine (block : UnclosedBlock) (line : Text) (mark : Span) :
    Except Fault (List Text) := do
  let piece ← Fault.misplacedCut.unless (sliceBytes? line block.startOffset mark.start)
  match block.content with
  | [] => .error .noContent
  | _ :: others => .ok (piece :: others)

def contentUpTo (block : UnclosedBlock) (line : Text) (mark : Span) : Except Fault (List Text) := do
  let piece ← Fault.misplacedCut.unless (takeBytes? line mark.start)
  return block.content ++ [piece]

/-- The block comment that a mark closes.  On the line that opened the block a mark
that overlaps the opening mark closes nothing. -/
def closeBlock? (number : Nat) (line : Text) (block : UnclosedBlock) (mark : Span) :
    Except Fault (Option Comment) := do
  if block.startLine = number ∧ mark.start < block.startOffset then
    return none
  let content ←
    if block.startLine = number then contentOnOneLine block line mark
    else contentUpTo block line mark
  let endCol ← Fault.misplacedCut.unless (charsBefore? line mark.start)
  return some (block.close number endCol content)

def visit (number : Nat) (line : Text) (current : LineState) :
    MarkRole × Span → Except Fault LineState
  | (.line, mark) =>
      match current.state with
      | .outside => do
          let comment ← lineComment number line mark
          return { current with comments := current.comments ++ [comment] }
      | .inside _ => return current
  | (.opening, mark) =>
      match current.state with
      | .outside => do
          let block ← blockOpenedBy number line mark
          return { current with state := .inside block, blockChanged := true }
      | .inside _ => return current
  | (.closing, mark) =>
      match current.state with
      | .outside => return current
      | .inside block => do
          match ← closeBlock? number line block mark with
          | none => return current
          | some comment =>
              return { state := .outside, comments := current.comments ++ [comment],
                       blockChanged := true }

/-- The state after the last mark of a line.  A line without a change of block adds
itself to the open block. -/
def LineState.atLineEnd (line : Text) (last : LineState) : List Comment × State :=
  match last.state with
  | .outside => (last.comments, .outside)
  | .inside block =>
      if last.blockChanged then
        (last.comments, .inside block)
      else
        (last.comments, .inside { block with content := block.content ++ [line] })

def step (marks : MarkSet) (number : Nat) (line : Text) (state : State) :
    Except Fault (List Comment × State) :=
  ((marks.ofLine line).foldlM (visit number line)
    { state, comments := [], blockChanged := false }).map (LineState.atLineEnd line)

def run (marks : MarkSet) : Nat → List Text → State → Except Fault (List Comment × State)
  | _, [], state => .ok ([], state)
  | number, line :: others, state => do
      let (comments, next) ← step marks number line state
      let (later, last) ← run marks (number + 1) others next
      return (comments ++ later, last)

end Extraction

structure Extraction where
  comments : List Comment
  unterminated : Option UnclosedBlock
  deriving DecidableEq, Repr

def Extraction.State.open? : Extraction.State → Option UnclosedBlock
  | .outside => none
  | .inside block => some block

/-- Extracts the comments of a source text in the order in which they end. -/
def MarkSet.extract (marks : MarkSet) (source : Text) : Except Fault Extraction :=
  (Extraction.run marks 1 (Text.physicalLines source) .outside).map fun (comments, last) =>
    { comments, unterminated := last.open? }

end Traceability
