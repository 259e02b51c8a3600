import Traceability.Mark.Form

/-!
The comment marks of a language.

The extraction of comments does not depend on forms.  All it needs is a way to
find the marks in a line, with the promise that they are well placed: a
`MarkFinder`.  A language has marks for line comments, a pair of marks for block
comments, or both.
-/

namespace Traceability

/-- A search for the marks in a line, all of them well placed. -/
structure MarkFinder where
  find : Text → List Span
  placed : ∀ line, Span.Placed line (find line)

def MarkForm.finder (form : MarkForm) : MarkFinder where
  find := form.occurrences
  placed := form.placed_occurrences

/-- The marks of a language: at least one kind of comment can be written. -/
inductive MarkSet
  | lineOnly (line : MarkFinder)
  | blockOnly (opening closing : MarkFinder)
  | lineAndBlock (line opening closing : MarkFinder)

namespace MarkSet

def ofParts? : Option MarkFinder → Option (MarkFinder × MarkFinder) → Option MarkSet
  | none, none => none
  | some line, none => some (.lineOnly line)
  | none, some (opening, closing) => some (.blockOnly opening closing)
  | some line, some (opening, closing) => some (.lineAndBlock line opening closing)

def withoutPartsMessage : Text :=
  ("At least one of line comment mark pattern or block comment marks pattern " ++
    "should be provided").toList

def line? : MarkSet → Option MarkFinder
  | lineOnly line | lineAndBlock line _ _ => some line
  | blockOnly _ _ => none

def opening? : MarkSet → Option MarkFinder
  | blockOnly opening _ | lineAndBlock _ opening _ => some opening
  | lineOnly _ => none

def closing? : MarkSet → Option MarkFinder
  | blockOnly _ closing | lineAndBlock _ _ closing => some closing
  | lineOnly _ => none

end MarkSet
end Traceability
