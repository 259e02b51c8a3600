/-!
Operations that have no result.

Extraction and parsing can be entered in any state, and a state can contradict the
text that follows it: it can claim that a block was opened inside a character, or
that a tag started on line zero.  The operation that finds out fails with a
`Fault`.  Starting from a source text none of them arises; a comment whose place is
only claimed can moreover claim one that no column or line number reaches.
-/

namespace Traceability

/-- Why an operation has no result: a cut inside a character, past the end or before its own
start, an open block without a line, or a number below zero or beyond 64 bits. -/
inductive Fault
  | misplacedCut
  | noContent
  | belowZero
  | beyondWord
  deriving DecidableEq, Repr

def Fault.unless {α : Type} (fault : Fault) : Option α → Except Fault α
  | some value => .ok value
  | none => .error fault

/-- The number before this one; zero has none. -/
def Fault.predecessor : Nat → Except Fault Nat
  | 0 => .error .belowZero
  | number + 1 => .ok number

def Fault.word (number : Nat) : Except Fault Nat :=
  if number < UInt64.size then .ok number else .error .beyondWord

@[simp] theorem Fault.unless_some {α : Type} (fault : Fault) (value : α) :
    fault.unless (some value) = .ok value := rfl

@[simp] theorem Fault.unless_none {α : Type} (fault : Fault) :
    fault.unless (none : Option α) = .error fault := rfl

section

variable {ε α β : Type} {first : Except ε α} {result : β}

theorem exists_of_map_eq_ok {value : α → β} (done : first.map value = .ok result) :
    ∃ found, first = .ok found ∧ value found = result := by
  cases first with
  | error error => cases done
  | ok found => exact ⟨found, rfl, Except.ok.inj done⟩

theorem exists_of_bind_eq_ok {next : α → Except ε β} (done : first >>= next = .ok result) :
    ∃ found, first = .ok found ∧ next found = .ok result := by
  cases first with
  | error error => cases done
  | ok found => exact ⟨found, rfl, done⟩

end

end Traceability
