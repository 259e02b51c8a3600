import Traceability.Text.Basic

/-!
Comments with their place in the source.
-/

namespace Traceability

inductive CommentKind
  | line
  | block
  deriving DecidableEq, Repr

/-- A comment.  Lines and columns count from one.  The comment starts right after its
opening mark; a line comment ends with its line, and a block comment right before
its closing mark.  The content has one entry for each line. -/
structure Comment where
  kind : CommentKind
  startLine : Nat
  startCol : Nat
  endLine : Nat
  endCol : Nat
  content : List Text
  deriving DecidableEq, Repr

/-- A block comment whose closing mark has not been seen.  `startOffset` counts the
bytes of its first line up to the end of the opening mark. -/
structure UnclosedBlock where
  startLine : Nat
  startCol : Nat
  startOffset : Nat
  content : List Text
  deriving DecidableEq, Repr

def UnclosedBlock.close (block : UnclosedBlock) (endLine endCol : Nat) (content : List Text) :
    Comment :=
  { kind := .block, startLine := block.startLine, startCol := block.startCol,
    endLine, endCol, content }

end Traceability
