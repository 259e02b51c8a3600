import Mathlib.Data.List.Perm.Basic
import Traceability.Comment.Extraction
import Traceability.Proofs.StableSort
import Traceability.Proofs.Text.Bytes

/-!
All marks of a source text in one sequence.

A mark is taken together with its line and the number of that line.  The sequence is
sorted by line, then by the first byte, then by role.  `MarkSet.marksOf_zipIdx` says
that it is made of the marks of the lines, each line with its own order.
-/

namespace Traceability

def MarkRole.rank : MarkRole → Nat
  | line => 0
  | opening => 1
  | closing => 2

structure SourceMark where
  number : Nat
  line : Text
  role : MarkRole
  span : Span
  deriving DecidableEq, Repr

namespace SourceMark

/-- Order by line, then by the first byte, then by role. -/
def compareRank : SourceMark → SourceMark → Ordering :=
  compareLex (compareOn number)
    (compareLex (compareOn (·.span.start)) (compareOn (·.role.rank)))

/-- The mark covers characters of its line, which is one of the given lines. -/
structure StandsIn (lines : List Text) (mark : SourceMark) : Prop where
  positive : 0 < mark.number
  found : lines[mark.number - 1]? = some mark.line
  covers : mark.span.Covers mark.line

theorem compareRank_isLE_iff (left right : SourceMark) :
    (compareRank left right).isLE ↔
      left.number < right.number ∨ left.number = right.number ∧
        (left.span.start < right.span.start ∨ left.span.start = right.span.start ∧
          left.role.rank ≤ right.role.rank) := by
  simp only [compareRank, compareLex, compareOn, Ordering.isLE_then_iff_or,
    Nat.compare_eq_lt, Nat.compare_eq_eq, Nat.isLE_compare]

theorem compareRank_lt_iff (left right : SourceMark) :
    compareRank left right = .lt ↔
      left.number < right.number ∨ left.number = right.number ∧
        (left.span.start < right.span.start ∨ left.span.start = right.span.start ∧
          left.role.rank < right.role.rank) := by
  simp only [compareRank, compareLex, compareOn, Ordering.then_eq_lt, Nat.compare_eq_lt,
    Nat.compare_eq_eq]

theorem StandsIn.append {lines : List Text} {mark : SourceMark} (stands : mark.StandsIn lines)
    (others : List Text) : mark.StandsIn (lines ++ others) := by
  obtain ⟨within, _⟩ := List.getElem?_eq_some_iff.mp stands.found
  exact ⟨stands.positive, by rw [List.getElem?_append_left within, stands.found],
    stands.covers⟩

theorem StandsIn.number_le {lines : List Text} {mark : SourceMark}
    (stands : mark.StandsIn lines) : mark.number ≤ lines.length := by
  obtain ⟨within, _⟩ := List.getElem?_eq_some_iff.mp stands.found
  have positive := stands.positive
  omega

theorem StandsIn.line_eq {lines : List Text} {left right : SourceMark}
    (stands : left.StandsIn lines) (other : right.StandsIn lines)
    (same : left.number = right.number) : left.line = right.line := by
  have found := stands.found
  rw [same, other.found] at found
  exact (Option.some.inj found).symm

end SourceMark

namespace MarkSet

def placeMark (number : Nat) (line : Text) (found : MarkRole × Span) : SourceMark :=
  { number, line, role := found.1, span := found.2 }

def finder? (marks : MarkSet) : MarkRole → Option MarkFinder
  | .line => marks.line?
  | .opening => marks.opening?
  | .closing => marks.closing?

def ofRole (marks : MarkSet) (line : Text) (role : MarkRole) : List (MarkRole × Span) :=
  (marks.finder? role).toList.flatMap fun finder => (finder.find line).map fun span => (role, span)

def byRole (marks : MarkSet) (line : Text) : List (MarkRole × Span) :=
  [.line, .opening, .closing].flatMap (marks.ofRole line)

def lineMarks (marks : MarkSet) (number : Nat) (line : Text) : List SourceMark :=
  (marks.ofLine line).map (placeMark number line)

/-- All marks of numbered lines by line, then by the first byte, then by role. -/
def marksOf (marks : MarkSet) (lines : List (Text × Nat)) : List SourceMark :=
  (lines.flatMap fun (line, number) => (marks.byRole line).map (placeMark number line)).mergeSort
    fun left right => (SourceMark.compareRank left right).isLE

def sourceMarks (marks : MarkSet) (source : Text) : List SourceMark :=
  marks.marksOf ((Text.physicalLines source).zipIdx 1)

end MarkSet

/-! ### Marks of one line -/

namespace MarkSet

variable {marks : MarkSet} {line : Text}

theorem mem_ofRole_iff {role searched : MarkRole} {span : Span} :
    (role, span) ∈ marks.ofRole line searched ↔
      role = searched ∧ ∃ search, marks.finder? role = some search ∧ span ∈ search.find line := by
  simp only [ofRole, List.mem_flatMap, Option.mem_toList, List.mem_map, Prod.mk.injEq]
  constructor
  · rintro ⟨search, isSearch, other, inside, rfl, rfl⟩
    exact ⟨rfl, search, isSearch, inside⟩
  · rintro ⟨rfl, search, isSearch, inside⟩
    exact ⟨search, isSearch, span, inside, rfl, rfl⟩

theorem mem_byRole_iff {role : MarkRole} {span : Span} :
    (role, span) ∈ marks.byRole line ↔
      ∃ search, marks.finder? role = some search ∧ span ∈ search.find line := by
  rw [byRole, List.mem_flatMap]
  constructor
  · rintro ⟨searched, _, member⟩
    exact (mem_ofRole_iff.mp member).2
  · intro found
    refine ⟨role, ?_, mem_ofRole_iff.mpr ⟨rfl, found⟩⟩
    cases role <;> decide

theorem byRole_eq (marks : MarkSet) (line : Text) :
    marks.byRole line =
      marks.ofRole line .line ++ marks.ofRole line .opening ++ marks.ofRole line .closing := by
  rw [byRole, List.flatMap_cons, List.flatMap_cons, List.flatMap_singleton, List.append_assoc]

/-- The marks that are visited are those of the three searches. -/
theorem ofLine_eq (marks : MarkSet) (line : Text) :
    marks.ofLine line = stableSort (fun left right => left.2.start ≤ right.2.start)
      (marks.byRole line) := by
  have searched (role : MarkRole) :
      role.find (marks.finder? role) line = marks.ofRole line role := by
    rw [ofRole]
    cases marks.finder? role with
    | none => rfl
    | some finder => exact (List.flatMap_singleton _ _).symm
  rw [byRole_eq, ← searched, ← searched, ← searched]
  rfl

theorem covers_of_mem_byRole {role : MarkRole} {span : Span}
    (member : (role, span) ∈ marks.byRole line) : span.Covers line := by
  obtain ⟨search, _, inside⟩ := mem_byRole_iff.mp member
  exact (search.placed line).covers span inside

/-- Before sorting, the roles of a line follow each other in order, and so do the marks of one
role. -/
private theorem byRole_ordered (marks : MarkSet) (line : Text) :
    (marks.byRole line).Pairwise fun left right =>
      left.1.rank < right.1.rank ∨
        left.1.rank = right.1.rank ∧ left.2.start < right.2.start := by
  have oneRole (role : MarkRole) :
      (marks.ofRole line role).Pairwise fun left right =>
        left.1.rank < right.1.rank ∨
          left.1.rank = right.1.rank ∧ left.2.start < right.2.start := by
    rw [ofRole]
    cases marks.finder? role with
    | none => exact .nil
    | some search =>
        rw [Option.toList_some, List.flatMap_singleton]
        apply List.pairwise_map.mpr
        refine (search.placed line).ascending.imp_of_mem ?_
        intro left right leftMember _ before
        have proper := ((search.placed line).covers left leftMember).start_lt_stop
        right
        refine ⟨rfl, ?_⟩
        simp only
        omega
  rw [byRole]
  refine List.pairwise_flatMap.mpr ⟨fun role _ => oneRole role, ?_⟩
  have ranks : [MarkRole.line, .opening, .closing].Pairwise fun left right =>
      left.rank < right.rank := by
    decide
  refine ranks.imp ?_
  intro role later before left leftMember right rightMember
  rw [(mem_ofRole_iff.mp leftMember).1, (mem_ofRole_iff.mp rightMember).1]
  exact .inl before

private theorem ofLine_ordered (marks : MarkSet) (line : Text) (number : Nat) :
    (marks.lineMarks number line).Pairwise fun left right =>
      SourceMark.compareRank left right = .lt := by
  have sorted : (marks.ofLine line).Pairwise fun left right =>
      decide (left.2.start ≤ right.2.start) ∧
        (decide (right.2.start ≤ left.2.start) →
          left.1.rank < right.1.rank ∨
            left.1.rank = right.1.rank ∧ left.2.start < right.2.start) :=
    ofLine_eq marks line ▸ stableSort_pairwise
      (by intro first second third; simp only [decide_eq_true_eq]; omega)
      (by intro left right; simp only [Bool.or_eq_true, decide_eq_true_eq]; omega)
      (byRole_ordered marks line)
  refine List.pairwise_map.mpr (sorted.imp ?_)
  intro left right ordered
  simp only [decide_eq_true_eq] at ordered
  rw [SourceMark.compareRank_lt_iff]
  simp only [placeMark, Nat.lt_irrefl, true_and, false_or]
  omega

private theorem mem_marksOf_line {lines : List Text} {first : Nat} {mark : SourceMark}
    (member : mark ∈ (lines.zipIdx first).flatMap fun (line, number) =>
      (marks.byRole line).map (placeMark number line)) :
    first ≤ mark.number ∧ lines[mark.number - first]? = some mark.line ∧
      (mark.role, mark.span) ∈ marks.byRole mark.line := by
  obtain ⟨⟨line, number⟩, numbered, inLine⟩ := List.mem_flatMap.mp member
  obtain ⟨found, visited, rfl⟩ := List.mem_map.mp inLine
  obtain ⟨early, same⟩ := List.mk_mem_zipIdx_iff_le_and_getElem?_sub.mp numbered
  exact ⟨early, same, visited⟩

private theorem byLine_perm (marks : MarkSet) (lines : List (Text × Nat)) :
    (lines.flatMap fun (line, number) => marks.lineMarks number line).Perm
      (lines.flatMap fun (line, number) => (marks.byRole line).map (placeMark number line)) := by
  refine List.Perm.flatMap_left _ ?_
  rintro ⟨line, number⟩ _
  have visited : (marks.ofLine line).Perm (marks.byRole line) := by
    rw [ofLine_eq]
    exact stableSort_perm _ _
  exact visited.map _

private theorem byLine_ordered (marks : MarkSet) (lines : List Text) (first : Nat) :
    ((lines.zipIdx first).flatMap fun (line, number) =>
      marks.lineMarks number line).Pairwise fun left right =>
        SourceMark.compareRank left right = .lt := by
  induction lines generalizing first with
  | nil => exact .nil
  | cons line others ih =>
      rw [List.zipIdx_cons, List.flatMap_cons]
      refine List.pairwise_append.mpr ⟨ofLine_ordered marks line first, ih (first + 1), ?_⟩
      intro left leftMember right rightMember
      obtain ⟨_, _, rfl⟩ := List.mem_map.mp leftMember
      have later := (mem_marksOf_line ((byLine_perm marks _).mem_iff.mp rightMember)).1
      rw [SourceMark.compareRank_lt_iff]
      exact .inl later

private theorem eq_of_compareRank {lines : List Text} {first : Nat} {left right : SourceMark}
    (leftMember : left ∈ (lines.zipIdx first).flatMap fun (line, number) =>
      (marks.byRole line).map (placeMark number line))
    (rightMember : right ∈ (lines.zipIdx first).flatMap fun (line, number) =>
      (marks.byRole line).map (placeMark number line))
    (before : (SourceMark.compareRank left right).isLE)
    (after : (SourceMark.compareRank right left).isLE) : left = right := by
  obtain ⟨_, leftLine, leftFound⟩ := mem_marksOf_line leftMember
  obtain ⟨_, rightLine, rightFound⟩ := mem_marksOf_line rightMember
  rw [SourceMark.compareRank_isLE_iff] at before after
  cases left with
  | mk number line role span =>
      cases right with
      | mk otherNumber otherLine otherRole otherSpan =>
          simp only at leftLine rightLine leftFound rightFound before after
          obtain rfl : number = otherNumber := by omega
          obtain rfl : line = otherLine := Option.some.inj (leftLine.symm.trans rightLine)
          have sameRank : role.rank = otherRole.rank := by omega
          obtain rfl : role = otherRole := by
            cases role <;> cases otherRole <;> first | rfl | cases sameRank
          obtain ⟨search, isSearch, inside⟩ := mem_byRole_iff.mp leftFound
          obtain ⟨otherSearch, isOther, otherInside⟩ := mem_byRole_iff.mp rightFound
          obtain rfl : search = otherSearch := Option.some.inj (isSearch.symm.trans isOther)
          have sameStart : span.start = otherSpan.start := by omega
          rw [(search.placed line).eq_of_start_eq inside otherInside sameStart]

theorem marksOf_ordered (marks : MarkSet) (lines : List (Text × Nat)) :
    (marks.marksOf lines).Pairwise fun left right => (SourceMark.compareRank left right).isLE :=
  List.pairwise_mergeSort
    (by intro first second third; simp only [SourceMark.compareRank_isLE_iff]; omega)
    (by
      intro left right
      simp only [Bool.or_eq_true, SourceMark.compareRank_isLE_iff]
      omega) _

theorem marksOf_zipIdx (marks : MarkSet) (lines : List Text) (first : Nat) :
    marks.marksOf (lines.zipIdx first) =
      (lines.zipIdx first).flatMap fun (line, number) => marks.lineMarks number line := by
  have visited := (byLine_ordered marks lines first).imp Ordering.isLE_of_eq_lt
  refine List.Perm.eq_of_pairwise ?_ (marks.marksOf_ordered _) visited
    ((List.mergeSort_perm _ _).trans (byLine_perm marks _).symm)
  intro left right leftMember rightMember
  exact eq_of_compareRank (List.mem_mergeSort.mp leftMember)
    ((byLine_perm marks _).mem_iff.mp rightMember)

theorem marksOf_zipIdx_lt (marks : MarkSet) (lines : List Text) (first : Nat) :
    (marks.marksOf (lines.zipIdx first)).Pairwise fun left right =>
      SourceMark.compareRank left right = .lt := by
  rw [marksOf_zipIdx]
  exact byLine_ordered marks lines first

theorem mem_byRole_of_mem_marksOf {lines : List Text} {mark : SourceMark}
    (member : mark ∈ marks.marksOf (lines.zipIdx 1)) :
    (mark.role, mark.span) ∈ marks.byRole mark.line :=
  (mem_marksOf_line (List.mem_mergeSort.mp member)).2.2

theorem standsIn_of_mem_marksOf {lines : List Text} {mark : SourceMark}
    (member : mark ∈ marks.marksOf (lines.zipIdx 1)) : mark.StandsIn lines := by
  obtain ⟨positive, found, visited⟩ := mem_marksOf_line (List.mem_mergeSort.mp member)
  exact ⟨positive, found, covers_of_mem_byRole visited⟩

end MarkSet
end Traceability
