import Traceability.Text.Basic

/-!
Excerpts of numbered lines.

An excerpt runs from a column of one line to a column of the same or a later line, and
has one piece for each line.  Lines and columns count from one.  Where a line is both
the first and the last one, it is cut at both ends.
-/

namespace Traceability
namespace Text

def cutFront (count : Nat) : List Text → List Text
  | [] => []
  | first :: others => first.drop count :: others

def cutBack (count : Nat) : List Text → List Text
  | [] => []
  | [last] => [last.take count]
  | piece :: next :: others => piece :: cutBack count (next :: others)

/-- What stands from one place up to and including another one. -/
def excerpt (lines : List Text) (startLine startCol endLine endCol : Nat) : List Text :=
  cutFront (startCol - 1) (cutBack endCol ((lines.take endLine).drop (startLine - 1)))

/-- What stands from a place up to the end of the last line. -/
def excerptToEnd (lines : List Text) (startLine startCol : Nat) : List Text :=
  cutFront (startCol - 1) (lines.drop (startLine - 1))

/-! ### Pieces one by one -/

@[simp] theorem length_cutFront (count : Nat) (pieces : List Text) :
    (cutFront count pieces).length = pieces.length := by
  cases pieces <;> rfl

@[simp] theorem length_cutBack (count : Nat) (pieces : List Text) :
    (cutBack count pieces).length = pieces.length := by
  fun_induction cutBack count pieces with
  | case1 => rfl
  | case2 last => rfl
  | case3 piece next others ih => simp only [List.length_cons, ih]

theorem getElem?_cutFront (count : Nat) (pieces : List Text) (index : Nat) :
    (cutFront count pieces)[index]? =
      pieces[index]?.map fun piece => if index = 0 then piece.drop count else piece := by
  cases pieces with
  | nil => rfl
  | cons first others => cases index <;> simp [cutFront]

theorem getElem?_cutBack (count : Nat) (pieces : List Text) (index : Nat) :
    (cutBack count pieces)[index]? =
      pieces[index]?.map fun piece =>
        if index + 1 = pieces.length then piece.take count else piece := by
  fun_induction cutBack count pieces generalizing index with
  | case1 => rfl
  | case2 last => cases index <;> simp
  | case3 piece next others ih =>
      cases index with
      | zero => simp
      | succ index => simpa using ih index

theorem cutBack_concat (count : Nat) (front : List Text) (last : Text) :
    cutBack count (front ++ [last]) = front ++ [last.take count] := by
  induction front with
  | nil => rfl
  | cons piece others ih =>
      cases others with
      | nil => rfl
      | cons next others =>
          simp only [List.cons_append, cutBack] at ih ⊢
          rw [ih]

theorem length_excerpt {lines : List Text} {startLine endLine : Nat} (startCol endCol : Nat)
    (positive : 0 < startLine) (ordered : startLine ≤ endLine)
    (inside : endLine ≤ lines.length) :
    startLine + (excerpt lines startLine startCol endLine endCol).length = endLine + 1 := by
  simp only [excerpt, length_cutFront, length_cutBack, List.length_drop, List.length_take]
  omega

theorem getElem?_excerpt {lines : List Text} {startLine startCol endLine endCol : Nat}
    (positive : 0 < startLine) (inside : endLine ≤ lines.length) (index : Nat) :
    (excerpt lines startLine startCol endLine endCol)[index]? =
      if startLine + index ≤ endLine then
        lines[startLine - 1 + index]?.map fun line =>
          (if startLine + index = endLine then line.take endCol else line).drop
            (if index = 0 then startCol - 1 else 0)
      else
        none := by
  rw [excerpt, getElem?_cutFront, getElem?_cutBack, List.getElem?_drop, List.getElem?_take,
    List.length_drop, List.length_take]
  by_cases within : startLine + index ≤ endLine
  · have below : startLine - 1 + index < endLine := by omega
    have lastIff : (index + 1 = min endLine lines.length - (startLine - 1)) =
        (startLine + index = endLine) := by
      apply propext
      omega
    rw [if_pos below, if_pos within, Option.map_map]
    congr 1
    funext line
    simp only [Function.comp_apply, lastIff]
    by_cases atFront : index = 0
    · rw [if_pos atFront, if_pos atFront]
    · rw [if_neg atFront, if_neg atFront, List.drop_zero]
  · have notBelow : ¬startLine - 1 + index < endLine := by omega
    rw [if_neg notBelow, if_neg within, Option.map_none, Option.map_none]

/-! ### Excerpts that end with the line just read -/

theorem drop_pred_eq_cons {lines : List Text} {number : Nat} {line : Text}
    (positive : 0 < number) (found : lines[number - 1]? = some line) :
    lines.drop (number - 1) = line :: lines.drop number := by
  obtain ⟨within, same⟩ := List.getElem?_eq_some_iff.mp found
  have next : number - 1 + 1 = number := by omega
  rw [List.drop_eq_getElem_cons within, same, next]

private theorem take_read (read rest : List Text) (line : Text) :
    (read ++ line :: rest).take (read.length + 1) = read ++ [line] := by
  have whole : read ++ line :: rest = (read ++ [line]) ++ rest := by simp
  have length : read.length + 1 = (read ++ [line]).length := by simp
  rw [whole, length, List.take_left]

theorem excerpt_line (read rest : List Text) (line : Text) (startCol endCol : Nat) :
    excerpt (read ++ line :: rest) (read.length + 1) startCol (read.length + 1) endCol =
      [(line.take endCol).drop (startCol - 1)] := by
  rw [excerpt, take_read, Nat.add_sub_cancel, List.drop_left]
  rfl

theorem excerpt_lines {read rest : List Text} {first line : Text}
    {startLine startCol endCol : Nat} (positive : 0 < startLine)
    (found : read[startLine - 1]? = some first) :
    excerpt (read ++ line :: rest) startLine startCol (read.length + 1) endCol =
      first.drop (startCol - 1) :: read.drop startLine ++ [line.take endCol] := by
  obtain ⟨within, _⟩ := List.getElem?_eq_some_iff.mp found
  have early : startLine - 1 ≤ read.length := by omega
  rw [excerpt, take_read, List.drop_append_of_le_length early,
    drop_pred_eq_cons positive found, cutBack_concat]
  rfl

theorem excerptToEnd_eq_cons {lines : List Text} {startLine : Nat} {first : Text}
    (startCol : Nat) (positive : 0 < startLine) (found : lines[startLine - 1]? = some first) :
    excerptToEnd lines startLine startCol =
      first.drop (startCol - 1) :: lines.drop startLine := by
  rw [excerptToEnd, drop_pred_eq_cons positive found]
  rfl

end Text
end Traceability
