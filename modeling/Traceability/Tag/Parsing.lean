import Traceability.Tag.Keyword
import Traceability.Comment.Basic
import Traceability.Fault

/-!
The tags of a comment.

A line comment holds at most one.  In a block comment a tag starts on each
line with a keyword and goes on over the lines that follow, up to a blank line, the
next keyword or the end of the comment.  Its identifier is made of the parts that
its lines contribute, separated by spaces.
-/

namespace Traceability

/-- A tag of a block comment that may go on.  `endCol` is the last column of
the last line taken so far. -/
structure OpenTag where
  kind : TagKind
  qualifier : Option Text
  startLine : Nat
  startCol : Nat
  endCol : Nat
  idParts : List Text
  deriving DecidableEq, Repr

def OpenTag.close (opened : OpenTag) (endLine : Nat) : Tag :=
  { kind := opened.kind, qualifier := opened.qualifier,
    id := Text.trim (Text.join [' '] opened.idParts),
    startLine := opened.startLine, startCol := opened.startCol,
    endLine, endCol := opened.endCol }

open Text (charsBefore? dropBytes?)

namespace BlockReading

inductive State
  | idle
  | opened (tag : OpenTag)
  deriving DecidableEq, Repr

def State.endBefore (state : State) (number : Nat) : Except Fault (Option Tag) :=
  match state with
  | .idle => .ok none
  | .opened tag => do
      let endLine ← Fault.predecessor number
      return some (tag.close endLine)

/-- The columns by which the first line of a comment is moved to the right. -/
def columnShift (startLine startCol number : Nat) : Except Fault Nat :=
  if number = startLine then Fault.predecessor startCol else .ok 0

def openAt (startLine startCol : Nat) (transform : Text → Text) (number : Nat) (text : Text)
    (found : KeywordHit) : Except Fault OpenTag := do
  let offset ← Fault.misplacedCut.unless (charsBefore? text found.stop)
  let shift ← columnShift startLine startCol number
  let tail ← Fault.misplacedCut.unless (dropBytes? text found.stop)
  return { kind := found.kind, qualifier := found.qualifier, startLine := number,
           startCol := offset + 1 + shift, endCol := text.length + shift,
           idParts := [transform tail] }

/-- Reads one line of the comment that starts at the given place: the tag that
ends before the line, and the state after it. -/
def step (startLine startCol : Nat) (transform : Text → Text) (number : Nat) (text : Text)
    (state : State) : Except Fault (Option Tag × State) :=
  if isBlankLine text then do
    return (← state.endBefore number, .idle)
  else
    match KeywordHit.find text with
    | some found => do
        let closed ← state.endBefore number
        let tag ← openAt startLine startCol transform number text found
        return (closed, .opened tag)
    | none =>
        match state with
        | .idle => .ok (none, .idle)
        | .opened tag =>
            .ok (none, .opened { tag with
              idParts := tag.idParts ++ [transform text], endCol := text.length })

/-- Reads the remaining lines of a comment, the first of which has the given number,
and ends what is open after the last one. -/
def run (read : Nat → Text → State → Except Fault (Option Tag × State)) :
    Nat → List Text → State → Except Fault (List Tag)
  | number, [], state => (state.endBefore number).map Option.toList
  | number, text :: others, state => do
      let (closed, next) ← read number text state
      let later ← run read (number + 1) others next
      return closed.toList ++ later

def State.fits : State → Bool
  | .idle => true
  | .opened tag => tag.startCol < UInt64.size && tag.endCol < UInt64.size

/-- Reads one line of a comment whose place is only claimed: the number of the line
after it and the columns of the open tag have to fit in 64 bits. -/
def boundedStep (startLine startCol : Nat) (transform : Text → Text) (number : Nat)
    (text : Text) (state : State) : Except Fault (Option Tag × State) := do
  let (closed, next) ← step startLine startCol transform number text state
  let _ ← Fault.word (number + 1)
  if next.fits then return (closed, next) else .error .beyondWord

end BlockReading

namespace Comment

def lineTag (comment : Comment) (transform : Text → Text) :
    Except Fault (Option Tag) :=
  match comment.content with
  | [] => .ok none
  | text :: _ =>
      match KeywordHit.find text with
      | none => .ok none
      | some found => do
          let tail ← Fault.misplacedCut.unless (dropBytes? text found.stop)
          let offset ← Fault.misplacedCut.unless (charsBefore? text found.stop)
          return some
            { kind := found.kind, qualifier := found.qualifier, id := transform tail,
              startLine := comment.startLine, startCol := comment.startCol + offset,
              endLine := comment.endLine, endCol := comment.endCol }

/-- The tags of a comment, where `transform` makes the part of an identifier
that a line contributes. -/
def tagsWith (transform : Text → Text) (comment : Comment) :
    Except Fault (List Tag) :=
  match comment.kind with
  | .line => (comment.lineTag transform).map Option.toList
  | .block =>
      BlockReading.run (BlockReading.step comment.startLine comment.startCol transform)
        comment.startLine comment.content .idle

/-- The tags of a comment whose place is only claimed: the numbers of its lines and the
columns of its tags have to fit in 64 bits. -/
def boundedTagsWith (transform : Text → Text) (comment : Comment) :
    Except Fault (List Tag) :=
  match comment.kind with
  | .line => do
      let tag ← comment.lineTag transform
      if tag.all (·.startCol < UInt64.size) then return tag.toList else .error .beyondWord
  | .block =>
      BlockReading.run (BlockReading.boundedStep comment.startLine comment.startCol transform)
        comment.startLine comment.content .idle

def tags (comment : Comment) : Except Fault (List Tag) :=
  comment.tagsWith Tag.idPart

end Comment

def tagsOfAll (comments : List Comment) : Except Fault (List Tag) :=
  (comments.mapM Comment.tags).map List.flatten

end Traceability
