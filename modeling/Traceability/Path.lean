import Traceability.Text.Basic

/-!
Paths as texts whose segments are separated by `/`.

Two paths are compared by their components.  Empty segments and segments `.` are no
components, except that a leading `.` is one.  A path that starts with `/` has the
root as its first component.
-/

namespace Traceability.Path

def segments : Text → List Text
  | [] => [[]]
  | c :: rest =>
      if c = '/' then
        [] :: segments rest
      else
        match segments rest with
        | [] => [[c]]
        | first :: others => (c :: first) :: others

/-- A segment that leads from a directory to itself. -/
def isRedundant (segment : Text) : Bool :=
  segment.isEmpty || segment == ['.']

/-- A segment that leads from a directory to the one above. -/
def isAbove (segment : Text) : Bool :=
  segment == ['.', '.']

def isReserved (segment : Text) : Bool :=
  isRedundant segment || isAbove segment

def components (path : Text) : List Text :=
  match path with
  | '/' :: rest => ['/'] :: (segments rest).filter (!isRedundant ·)
  | _ =>
      match segments path with
      | ['.'] :: rest => ['.'] :: rest.filter (!isRedundant ·)
      | all => all.filter (!isRedundant ·)

def startsWith (path front : Text) : Bool :=
  (components front).isPrefixOf (components path)

def join (directory name : Text) : Text :=
  if directory.isEmpty then name
  else if directory.getLast? == some '/' then directory ++ name
  else directory ++ '/' :: name

/-! ### The last component -/

/-- The reverse of a path without separators and segments `.` at its end, given the
reverse of the path.  A path that is only `.` or `/` keeps it. -/
def trimReversed : Text → Text
  | '/' :: [] => ['/']
  | '/' :: rest => trimReversed rest
  | '.' :: '/' :: rest => if rest.isEmpty then ['/'] else trimReversed rest
  | other => other

def trimEnd (path : Text) : Text :=
  (trimReversed path.reverse).reverse

def lastSegment (path : Text) : Text :=
  (path.reverse.takeWhile (· != '/')).reverse

/-- How a path ends: the segments on the way to its last one, the last one, and whether
a separator follows it. -/
structure Ending where
  front : List Text
  last : Text
  isOpen : Bool
  deriving DecidableEq, Repr

def ending? (path : Text) : Option Ending :=
  match (segments path).reverse.dropWhile (·.isEmpty) with
  | [] => none
  | last :: front =>
      some { front := front.reverse, last, isOpen := path.getLast? == some '/' }

/-- The path without its last component.  The empty path and the root have none. -/
def parent? (path : Text) : Option Text :=
  let whole := trimEnd path
  if whole.isEmpty || whole == ['/'] then
    none
  else
    some (trimEnd (whole.take (whole.length - (lastSegment whole).length)))

theorem length_trimReversed_le (reversed : Text) :
    (trimReversed reversed).length ≤ reversed.length := by
  fun_induction trimReversed reversed with
  | case1 => simp
  | case2 rest _ ih => simp only [List.length_cons]; omega
  | case3 rest _ => simp
  | case4 rest _ ih => simp only [List.length_cons]; omega
  | case5 => simp

theorem head_trimReversed (reversed : Text) :
    trimReversed reversed = ['/'] ∨ (trimReversed reversed).head? ≠ some '/' := by
  fun_induction trimReversed reversed with
  | case1 => simp
  | case2 rest _ ih => exact ih
  | case3 rest _ => simp
  | case4 rest _ ih => exact ih
  | case5 other first rest _ =>
      right
      intro start
      cases other with
      | nil => simp at start
      | cons c tail =>
          simp at start
          subst start
          cases tail with
          | nil => exact first rfl
          | cons d more => exact rest _ rfl

theorem length_trimEnd_le (path : Text) : (trimEnd path).length ≤ path.length := by
  simpa [trimEnd] using length_trimReversed_le path.reverse

/-- A path is longer than its parent, so no path has infinitely many ancestors. -/
theorem length_parent?_lt {path front : Text} (isParent : parent? path = some front) :
    front.length < path.length := by
  unfold parent? at isParent
  simp only at isParent
  split at isParent
  · contradiction
  · rename_i proper
    simp only [Bool.or_eq_true, List.isEmpty_iff, beq_iff_eq, not_or] at proper
    obtain rfl := Option.some.inj isParent
    have last : 0 < (lastSegment (trimEnd path)).length := by
      have start := head_trimReversed path.reverse
      cases reversed : trimReversed path.reverse with
      | nil => simp [trimEnd, reversed] at proper
      | cons c rest =>
          rw [reversed] at start
          have notRoot : c :: rest ≠ ['/'] := by
            intro same
            simp [trimEnd, reversed, same] at proper
          have notSlash : c ≠ '/' := by
            rcases start with same | start
            · exact absurd same notRoot
            · simpa using start
          simp [lastSegment, trimEnd, reversed, notSlash]
    have whole := length_trimEnd_le path
    have trimmed := length_trimEnd_le
      ((trimEnd path).take ((trimEnd path).length - (lastSegment (trimEnd path)).length))
    have nonempty : 0 < (trimEnd path).length := List.length_pos_iff.mpr proper.1
    simp only [List.length_take] at trimmed
    omega

/-- A path and what remains of it when its last components are taken away one by one. -/
def ancestors (path : Text) : List Text :=
  path ::
    match _ : parent? path with
    | none => []
    | some front => ancestors front
termination_by path.length
decreasing_by exact length_parent?_lt ‹_›

/-- The extension of the last component: what follows its last dot, unless that dot
is its first character or the component is `.` or `..`. -/
def extension? (path : Text) : Option Text :=
  let name := lastSegment (trimEnd path)
  let ending := (name.reverse.takeWhile (· != '.')).reverse
  if name == ['.', '.'] || name.length ≤ ending.length + 1 then
    none
  else
    some ending

end Traceability.Path
