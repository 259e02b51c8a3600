import Traceability.Text.Basic

/-!
Where comment marks stand in a line.

A span is a range of bytes.  What a search for marks may return is stated by
`Placed`: every span covers whole characters and at least one of them, and the
spans follow each other without overlap.
-/

namespace Traceability

structure Span where
  start : Nat
  stop : Nat
  deriving DecidableEq, Repr

namespace Span

open Text (byteLength)

def Covers (line : Text) (span : Span) : Prop :=
  ∃ before mark after, line = before ++ mark ++ after ∧ mark ≠ [] ∧
    span.start = byteLength before ∧ span.stop = byteLength (before ++ mark)

/-- The spans cover whole characters of the line, from left to right and without
overlap. -/
structure Placed (line : Text) (spans : List Span) : Prop where
  covers : ∀ span ∈ spans, span.Covers line
  ascending : spans.Pairwise fun left right => left.stop ≤ right.start

theorem Placed.nil (line : Text) : Placed line [] :=
  ⟨by simp, .nil⟩

end Span
end Traceability
