import Mathlib.Data.List.Basic
import Traceability.Text.Basic

/-!
Lines joined to a text and split again.

A line ends with a line feed, which a carriage return may precede; the last line has no end.
Splitting a text gives back the lines that it was joined from, whatever the ends are
(`Text.physicalLines_joinLines`).  The lines that are shown beside issues are found by another
rule, and they do not depend on the ends either (`Text.shownLines_joinLines`).  The two rules
give the same lines, but for an empty last one and a carriage return at the end of the text
(`Text.getElem?_shownLines`).
-/

namespace Traceability

inductive LineEnd
  | feed
  | returnFeed
  deriving DecidableEq, Repr

def LineEnd.text : LineEnd → Text
  | feed => ['\n']
  | returnFeed => ['\r', '\n']

namespace Text

/-- The lines with an end after each but the last one; `lineEnd index` is the end after the
line at `index`. -/
def joinLines : (Nat → LineEnd) → List Text → Text
  | _, [] => []
  | _, [last] => last
  | lineEnd, line :: next :: others =>
      line ++ (lineEnd 0).text ++ joinLines (fun index => lineEnd (index + 1)) (next :: others)

/-! ### Splitting -/

theorem pieces_eq_splitOn (text : Text) : pieces text = text.splitOn '\n' := by
  induction text with
  | nil => rfl
  | cons c rest ih =>
      obtain ⟨first, others, parts⟩ :=
        List.exists_cons_of_ne_nil (List.splitOn_ne_nil '\n' rest)
      rw [pieces, List.splitOn_cons_eq_if_modifyHead, ih, parts]
      simp only [beq_iff_eq]
      rfl

theorem pieces_ne_nil (text : Text) : pieces text ≠ [] := by
  rw [pieces_eq_splitOn]
  exact List.splitOn_ne_nil _ _

theorem pieces_append (first second : Text) :
    pieces (first ++ '\n' :: second) = pieces first ++ pieces second := by
  simp only [pieces_eq_splitOn, List.splitOn_append_cons_self]

/-- A carriage return at the seam belongs to the end of its line either way. -/
theorem physicalLines_append (first second : Text) :
    physicalLines (first ++ '\n' :: second) = physicalLines first ++ physicalLines second := by
  rw [physicalLines, pieces_append, List.map_append]
  rfl

theorem pieces_line {line : Text} (noFeed : '\n' ∉ line) : pieces line = [line] := by
  rw [pieces_eq_splitOn]
  exact List.splitOn_eq_singleton noFeed

theorem dropReturn_line {line : Text} (noReturn : line.getLast? ≠ some '\r') :
    dropReturn line = line :=
  if_neg noReturn

/-! ### A line and its end -/

/-- A line with its end is one piece, from which the line is what is kept. -/
private theorem exists_piece (lineEnd : LineEnd) {line : Text} (noFeed : '\n' ∉ line)
    (noReturn : line.getLast? ≠ some '\r') (rest : Text) :
    ∃ piece, line ++ lineEnd.text ++ rest = piece ++ '\n' :: rest ∧ pieces piece = [piece] ∧
      dropReturn piece = line := by
  cases lineEnd with
  | feed =>
      refine ⟨line, ?_, pieces_line noFeed, dropReturn_line noReturn⟩
      rw [LineEnd.text, List.append_assoc, List.singleton_append]
  | returnFeed =>
      refine ⟨line ++ ['\r'], ?_, pieces_line ?_, ?_⟩
      · simp only [LineEnd.text, List.append_assoc, List.cons_append, List.nil_append]
      · simpa using noFeed
      · rw [dropReturn, List.getLast?_concat, if_pos rfl, List.dropLast_concat]

theorem physicalLines_joinLines (lineEnd : Nat → LineEnd) {lines : List Text}
    (nonempty : lines ≠ []) (noFeed : ∀ line ∈ lines, '\n' ∉ line)
    (noReturn : ∀ line ∈ lines, line.getLast? ≠ some '\r') :
    physicalLines (joinLines lineEnd lines) = lines := by
  fun_induction joinLines lineEnd lines with
  | case1 => exact absurd rfl nonempty
  | case2 _ last =>
      rw [physicalLines, pieces_line (noFeed last (.head _)), List.map_singleton,
        dropReturn_line (noReturn last (.head _))]
  | case3 lineEnd line next others ih =>
      obtain ⟨piece, whole, single, kept⟩ := exists_piece (lineEnd 0) (noFeed line (.head _))
        (noReturn line (.head _))
        (joinLines (fun index => lineEnd (index + 1)) (next :: others))
      rw [whole, physicalLines_append, physicalLines, single, List.map_singleton, kept,
        ih (List.cons_ne_nil _ _) (fun other member => noFeed other (.tail _ member))
          (fun other member => noReturn other (.tail _ member)), List.singleton_append]

private theorem shownPieces_cons {pieces : List Text} (piece : Text) (nonempty : pieces ≠ []) :
    shownPieces (piece :: pieces) = dropReturn piece :: shownPieces pieces := by
  cases pieces with
  | nil => exact absurd rfl nonempty
  | cons next others => rfl

theorem shownLines_joinLines (lineEnd : Nat → LineEnd) {lines : List Text}
    (noFeed : ∀ line ∈ lines, '\n' ∉ line)
    (noReturn : ∀ line ∈ lines, line.getLast? ≠ some '\r') :
    shownLines (joinLines lineEnd lines) = shownPieces lines := by
  fun_induction joinLines lineEnd lines with
  | case1 => rfl
  | case2 _ last => rw [shownLines, pieces_line (noFeed last (.head _))]
  | case3 lineEnd line next others ih =>
      obtain ⟨piece, whole, single, kept⟩ := exists_piece (lineEnd 0) (noFeed line (.head _))
        (noReturn line (.head _))
        (joinLines (fun index => lineEnd (index + 1)) (next :: others))
      have later := ih (fun other member => noFeed other (.tail _ member))
        (fun other member => noReturn other (.tail _ member))
      rw [shownLines] at later
      rw [whole, shownLines, pieces_append, single, List.singleton_append,
        shownPieces_cons piece (pieces_ne_nil _), kept, later,
        shownPieces_cons line (List.cons_ne_nil _ _), dropReturn_line (noReturn line (.head _))]

/-! ### The lines that are shown -/

/-- A line without its end, as it is shown: the last line keeps the carriage return that the
text ends with. -/
def asShown (text : Text) (number : Nat) (line : Text) : Text :=
  if number = (physicalLines text).length ∧ text.getLast? = some '\r' then line ++ ['\r'] else line

theorem prefix_asShown (text : Text) (number : Nat) (line : Text) :
    line <+: asShown text number line := by
  unfold asShown
  split
  · exact List.prefix_append line _
  · exact List.prefix_rfl

theorem suffix_join (separator : Text) (front : List Text) (last : Text) :
    last <:+ join separator (front ++ [last]) := by
  induction front with
  | nil => exact ⟨[], List.intercalate_singleton.symm⟩
  | cons piece front ih =>
      have more : front ++ [last] ≠ [] := List.concat_ne_nil last front
      rw [join, List.cons_append, List.intercalate_cons_of_ne_nil more]
      exact ih.trans (List.suffix_append _ _)

theorem getLast?_last_piece {text last : Text} {front : List Text}
    (parts : pieces text = front ++ [last]) (nonempty : last ≠ []) :
    text.getLast? = last.getLast? := by
  have whole : join ['\n'] (pieces text) = text := by
    rw [pieces_eq_splitOn]
    exact List.intercalate_splitOn '\n'
  obtain ⟨before, split⟩ : last <:+ text := by
    rw [← whole, parts]
    exact suffix_join _ front last
  rw [← split, List.getLast?_append_of_ne_nil before nonempty]

theorem dropReturn_append (piece : Text) :
    (if piece.getLast? = some '\r' then dropReturn piece ++ ['\r'] else dropReturn piece) =
      piece := by
  unfold dropReturn
  split
  · rename_i ends
    exact List.dropLast_append_getLast? '\r' ends
  · rfl

theorem shownPieces_concat (front : List Text) (last : Text) :
    shownPieces (front ++ [last]) =
      front.map dropReturn ++ if last.isEmpty then [] else [last] := by
  induction front with
  | nil => rfl
  | cons piece front ih =>
      have more : front ++ [last] ≠ [] := List.concat_ne_nil last front
      rw [List.cons_append, shownPieces_cons piece more, ih, List.map_cons, List.cons_append]

/-- The lines that are found are the lines that are shown, but for an empty one at the end. -/
theorem getElem?_shownLines {text line : Text} {index : Nat}
    (found : (physicalLines text)[index]? = some line) (nonempty : line ≠ []) :
    (shownLines text)[index]? = some (asShown text (index + 1) line) := by
  obtain ⟨front, last, parts⟩ : ∃ front last, pieces text = front ++ [last] :=
    ⟨_, _, (List.dropLast_append_getLast (pieces_ne_nil text)).symm⟩
  have physical : physicalLines text = front.map dropReturn ++ [dropReturn last] := by
    rw [physicalLines, parts, List.map_append, List.map_singleton]
  have count : (physicalLines text).length = front.length + 1 := by
    rw [physical, List.length_append, List.length_map, List.length_singleton]
  rw [shownLines, parts, shownPieces_concat, asShown, count]
  rw [physical] at found
  rcases Nat.lt_or_ge index front.length with inFront | atEnd
  · have within : index < (front.map dropReturn).length := by rwa [List.length_map]
    have notLast : ¬index + 1 = front.length + 1 := by omega
    rw [List.getElem?_append_left within] at found ⊢
    rw [found, if_neg fun both => notLast both.1]
  · obtain rfl : index = front.length := by
      have bound := (List.getElem?_eq_some_iff.mp found).1
      simp only [List.length_append, List.length_map, List.length_singleton] at bound
      omega
    obtain rfl : dropReturn last = line := by simpa using found
    have lastNonempty : last ≠ [] := by
      rintro rfl
      exact nonempty rfl
    simp only [getLast?_last_piece parts lastNonempty, true_and, dropReturn_append]
    simp [lastNonempty]

end Text
end Traceability
