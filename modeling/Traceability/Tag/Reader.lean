import Traceability.Tag.Parsing

/-!
The tags of a comment, one at a time.

A reader keeps the lines that are left and the tag that may go on over them.  A request reads on
until a tag ends, which is before a line that does not go on with it or after the last line.  A
reader that has come to the end answers every further request with nothing.
-/

namespace Traceability

/-- How far a comment has been read.  The first of the lines that are left has the given number. -/
structure TagReader where
  number : Nat
  lines : List Text
  state : BlockReading.State := .idle
  isDone : Bool := false
  deriving DecidableEq, Repr

namespace TagReader

open BlockReading (State)

def ofComment (comment : Comment) : TagReader :=
  { number := comment.startLine, lines := comment.content }

def advance (read : Nat → Text → State → Except Fault (Option Tag × State)) :
    Nat → List Text → State → Except Fault (Option Tag × TagReader)
  | number, [], state => do
      let last ← state.endBefore number
      return (last, { number, lines := [], isDone := true })
  | number, text :: others, state => do
      match ← read number text state with
      | (some tag, next) =>
          return (some tag, { number := number + 1, lines := others, state := next })
      | (none, next) => advance read (number + 1) others next

end TagReader

namespace Comment

def nextTag (transform : Text → Text) (comment : Comment) (reader : TagReader) :
    Except Fault (Option Tag × TagReader) :=
  if reader.isDone then
    .ok (none, reader)
  else
    match comment.kind with
    | .line => do
        let tag ← comment.lineTag transform
        return (tag, { reader with isDone := true })
    | .block =>
        TagReader.advance (BlockReading.step comment.startLine comment.startCol transform)
          reader.number reader.lines reader.state

def answers (transform : Text → Text) (comment : Comment) :
    Nat → TagReader → Except Fault (List (Option Tag))
  | 0, _ => .ok []
  | count + 1, reader => do
      let (tag, later) ← comment.nextTag transform reader
      let others ← comment.answers transform count later
      return tag :: others

end Comment
end Traceability
