import Traceability.Mark.Span

/-!
Cuts between characters.

A byte position lies between two characters of a text exactly when it is the length
of a front part.  There every conversion between bytes and columns has a result,
and the result is stated here by means of the parts.  Marks begin and end at such
positions, and those of one search lie apart.
-/

namespace Traceability
namespace Text

/-- The number of characters that begin in the first `count` bytes. -/
def columnAt : Text → Nat → Nat
  | [], _ => 0
  | c :: rest, count => if count = 0 then 0 else columnAt rest (count - c.utf8Size) + 1

theorem columnAt_byteLength (before after : Text) :
    columnAt (before ++ after) (byteLength before) = before.length := by
  induction before with
  | nil => cases after <;> simp [columnAt]
  | cons c rest ih =>
      have positive : byteLength (c :: rest) ≠ 0 := by
        have size := c.utf8Size_pos
        rw [byteLength_cons]
        omega
      have remaining : byteLength (c :: rest) - c.utf8Size = byteLength rest := by
        rw [byteLength_cons]
        omega
      rw [List.cons_append, columnAt, if_neg positive, remaining, ih, List.length_cons]

theorem takeBytes?_byteLength (before after : Text) :
    takeBytes? (before ++ after) (byteLength before) = some before := by
  simp only [takeBytes?, splitAtByte?_append, Option.map_some]

theorem dropBytes?_byteLength (before after : Text) :
    dropBytes? (before ++ after) (byteLength before) = some after := by
  simp only [dropBytes?, splitAtByte?_append, Option.map_some]

theorem charsBefore?_byteLength (before after : Text) :
    charsBefore? (before ++ after) (byteLength before) = some before.length := by
  have within : min (byteLength before) (byteLength (before ++ after)) = byteLength before := by
    rw [byteLength_append]
    omega
  rw [charsBefore?, within, takeBytes?_byteLength, Option.map_some]

theorem sliceBytes?_byteLength (front middle back : Text) :
    sliceBytes? (front ++ middle ++ back) (byteLength front) (byteLength (front ++ middle)) =
      some middle := by
  have ordered : byteLength front ≤ byteLength (front ++ middle) := by
    rw [byteLength_append]
    omega
  rw [sliceBytes?, if_pos ordered, takeBytes?_byteLength, Option.bind_some,
    dropBytes?_byteLength]

theorem eq_nil_of_byteLength_eq_zero {text : Text} (empty : byteLength text = 0) :
    text = [] := by
  cases text with
  | nil => rfl
  | cons c rest =>
      have size := c.utf8Size_pos
      rw [byteLength_cons] at empty
      omega

theorem byteLength_lt_take {front back : Text} {count : Nat} (nonempty : back ≠ [])
    (longer : front.length < count) :
    byteLength front < byteLength ((front ++ back).take count) := by
  obtain ⟨more, rfl⟩ := Nat.exists_eq_add_of_lt longer
  cases back with
  | nil => exact absurd rfl nonempty
  | cons c rest =>
      have size := c.utf8Size_pos
      rw [Nat.add_assoc, List.take_length_add_append, byteLength_append, List.take_succ_cons,
        byteLength_cons]
      omega

theorem exists_append_of_byteLength_le {before after front back : Text}
    (same : before ++ after = front ++ back)
    (shorter : byteLength before ≤ byteLength front) :
    ∃ middle, front = before ++ middle ∧ after = middle ++ back := by
  rcases List.append_eq_append_iff.mp same with ⟨middle, rfl, rfl⟩ | ⟨middle, rfl, rfl⟩
  · exact ⟨middle, rfl, rfl⟩
  · have empty : middle = [] := by
      apply eq_nil_of_byteLength_eq_zero
      rw [byteLength_append] at shorter
      omega
    subst empty
    exact ⟨[], by simp, by simp⟩

end Text

namespace Span.Covers

open Text (columnAt)

variable {line : Text} {span : Span}

theorem start_lt_stop (covers : span.Covers line) : span.start < span.stop := by
  obtain ⟨before, mark, after, _, nonempty, start, stop⟩ := covers
  have positive : Text.byteLength mark ≠ 0 :=
    fun empty => nonempty (Text.eq_nil_of_byteLength_eq_zero empty)
  rw [start, stop, Text.byteLength_append]
  omega

theorem charsBefore?_start (covers : span.Covers line) :
    Text.charsBefore? line span.start = some (columnAt line span.start) := by
  obtain ⟨before, mark, after, rfl, _, start, _⟩ := covers
  rw [List.append_assoc, start, Text.charsBefore?_byteLength, Text.columnAt_byteLength]

theorem charsBefore?_stop (covers : span.Covers line) :
    Text.charsBefore? line span.stop = some (columnAt line span.stop) := by
  obtain ⟨before, mark, after, rfl, _, _, stop⟩ := covers
  rw [stop, Text.charsBefore?_byteLength, Text.columnAt_byteLength]

theorem columnAt_lt (covers : span.Covers line) :
    columnAt line span.start < columnAt line span.stop := by
  obtain ⟨before, mark, after, rfl, nonempty, start, stop⟩ := covers
  have positive := List.length_pos_iff.mpr nonempty
  have startColumn := Text.columnAt_byteLength before (mark ++ after)
  rw [← List.append_assoc] at startColumn
  rw [start, stop, startColumn, Text.columnAt_byteLength, List.length_append]
  omega

theorem columnAt_stop_lt {other : Span} (covers : span.Covers line)
    (otherCovers : other.Covers line) (earlier : span.stop < other.stop) :
    columnAt line span.stop < columnAt line other.stop := by
  obtain ⟨before, mark, after, whole, _, _, stop⟩ := covers
  obtain ⟨front, otherMark, back, otherWhole, _, _, otherStop⟩ := otherCovers
  rw [stop, otherStop] at earlier ⊢
  have same : before ++ mark ++ after = front ++ otherMark ++ back := by rw [← whole, otherWhole]
  obtain ⟨middle, frontWhole, _⟩ :=
    Text.exists_append_of_byteLength_le same (Nat.le_of_lt earlier)
  have column := Text.columnAt_byteLength (before ++ mark) after
  have otherColumn := Text.columnAt_byteLength (front ++ otherMark) back
  rw [← whole] at column
  rw [← otherWhole] at otherColumn
  have nonempty : middle ≠ [] := by
    rintro rfl
    rw [frontWhole, List.append_nil] at earlier
    exact Nat.lt_irrefl _ earlier
  have positive := List.length_pos_iff.mpr nonempty
  rw [column, otherColumn, frontWhole]
  simp only [List.length_append]
  omega

theorem takeBytes?_start (covers : span.Covers line) :
    Text.takeBytes? line span.start = some (line.take (columnAt line span.start)) := by
  obtain ⟨before, mark, after, rfl, _, start, _⟩ := covers
  rw [List.append_assoc, start, Text.takeBytes?_byteLength, Text.columnAt_byteLength,
    List.take_left]

theorem dropBytes?_stop (covers : span.Covers line) :
    Text.dropBytes? line span.stop = some (line.drop (columnAt line span.stop)) := by
  obtain ⟨before, mark, after, rfl, _, _, stop⟩ := covers
  rw [stop, Text.dropBytes?_byteLength, Text.columnAt_byteLength, List.drop_left]

theorem sliceBytes?_between {other : Span} (covers : span.Covers line)
    (otherCovers : other.Covers line) (apart : span.stop ≤ other.start) :
    Text.sliceBytes? line span.stop other.start =
      some ((line.take (columnAt line other.start)).drop (columnAt line span.stop)) := by
  obtain ⟨before, mark, after, whole, _, _, stop⟩ := covers
  obtain ⟨front, otherMark, back, otherWhole, _, start, _⟩ := otherCovers
  rw [stop, start] at apart ⊢
  have same : before ++ mark ++ after = front ++ (otherMark ++ back) := by
    rw [← whole, otherWhole, List.append_assoc]
  obtain ⟨middle, rfl, rfl⟩ := Text.exists_append_of_byteLength_le same apart
  rw [whole]
  have firstColumn := Text.columnAt_byteLength (before ++ mark) (middle ++ (otherMark ++ back))
  have secondColumn :=
    Text.columnAt_byteLength (before ++ mark ++ middle) (otherMark ++ back)
  rw [← List.append_assoc (before ++ mark)] at firstColumn
  rw [← List.append_assoc (before ++ mark), Text.sliceBytes?_byteLength, firstColumn,
    secondColumn, List.take_left, List.drop_left]

end Span.Covers

namespace Span.Placed

variable {line : Text} {spans : List Span} {left right : Span}

theorem nodup (placed : Placed line spans) : spans.Nodup := by
  refine placed.ascending.imp_of_mem ?_
  rintro left right member _ before rfl
  have proper := (placed.covers left member).start_lt_stop
  omega

theorem eq_of_start_eq (placed : Placed line spans) (leftMember : left ∈ spans)
    (rightMember : right ∈ spans) (same : left.start = right.start) : left = right := by
  have distinct : spans.Pairwise fun first second =>
      first.start = second.start → first = second := by
    refine placed.ascending.imp_of_mem ?_
    intro first second firstMember _ before starts
    have proper := (placed.covers first firstMember).start_lt_stop
    omega
  have distinctFlipped : spans.Pairwise fun first second =>
      second.start = first.start → second = first :=
    distinct.imp fun equal starts => (equal starts.symm).symm
  exact List.Pairwise.forall_of_forall_of_flip (fun _ _ _ => rfl) distinct distinctFlipped
    leftMember rightMember same

theorem stop_le_of_start_lt (placed : Placed line spans) (leftMember : left ∈ spans)
    (rightMember : right ∈ spans) (earlier : left.start < right.start) :
    left.stop ≤ right.start := by
  have apart : spans.Pairwise fun first second =>
      first.start < second.start → first.stop ≤ second.start := by
    refine placed.ascending.imp ?_
    intro first second before _
    exact before
  have never : spans.Pairwise fun first second =>
      second.start < first.start → second.stop ≤ first.start := by
    refine placed.ascending.imp_of_mem ?_
    intro first second firstMember _ before starts
    have proper := (placed.covers first firstMember).start_lt_stop
    omega
  exact List.Pairwise.forall_of_forall_of_flip (fun _ _ same => absurd same (Nat.lt_irrefl _))
    apart never leftMember rightMember earlier

end Span.Placed
end Traceability
