import Mathlib.Logic.Basic
import Traceability.Issue.Basic
import Traceability.Proofs.StableSort

/-!
The order of issues, told by what they report.

Issues are sorted by the file of the reported tag, then by its line, then by its column, and a
report goes on by the sentence.  Files are told apart by their paths, in the order of the
code points.
-/

namespace Traceability

namespace Occurrence

/-- The first tag stands in a file with a smaller path, or in the same file on a smaller line, or on
the same line at a column that is not greater. -/
def NotAfter (left right : Occurrence) : Prop :=
  compare left.filePath right.filePath = .lt ∨ left.filePath = right.filePath ∧
    (left.line < right.line ∨ left.line = right.line ∧ left.col ≤ right.col)

instance (left right : Occurrence) : Decidable (left.NotAfter right) :=
  inferInstanceAs (Decidable (_ ∨ _ ∧ (_ ∨ _ ∧ _)))

instance : Std.TransCmp compareLocation := by
  unfold compareLocation
  infer_instance

theorem compareLocation_isLE_iff (left right : Occurrence) :
    (compareLocation left right).isLE ↔ left.NotAfter right := by
  simp only [compareLocation, compareLex, compareOn, Ordering.isLE_then_iff_or,
    Std.LawfulEqOrd.compare_eq_iff_eq, Nat.compare_eq_lt, Nat.isLE_compare, NotAfter]

end Occurrence

namespace Issue

/-- The first issue is reported at a smaller place, or at the same one with a sentence that is
not greater. -/
def NotAfter (left right : Issue) : Prop :=
  compare left.location.filePath right.location.filePath = .lt ∨
    left.location.filePath = right.location.filePath ∧
      (left.location.line < right.location.line ∨ left.location.line = right.location.line ∧
        (left.location.col < right.location.col ∨ left.location.col = right.location.col ∧
          (compare left.message right.message).isLE))

instance (left right : Issue) : Decidable (left.NotAfter right) :=
  inferInstanceAs (Decidable (_ ∨ _ ∧ (_ ∨ _ ∧ (_ ∨ _ ∧ _))))

instance : Std.TransCmp compareLocation where
  eq_swap {left right} :=
    (Std.OrientedCmp.eq_swap : Occurrence.compareLocation left.location right.location = _)
  isLE_trans {left middle right} :=
    @Std.TransCmp.isLE_trans _ Occurrence.compareLocation _ left.location middle.location
      right.location

instance : Std.TransCmp compareReport := by
  unfold compareReport
  infer_instance

theorem compareReport_isLE_iff (left right : Issue) :
    (compareReport left right).isLE ↔ left.NotAfter right := by
  simp only [compareReport, compareLocation, Occurrence.compareLocation, compareLex, compareOn,
    Ordering.isLE_then_iff_or, Ordering.then_eq_lt, Ordering.then_eq_eq,
    Std.LawfulEqOrd.compare_eq_iff_eq, Nat.compare_eq_lt, NotAfter,
    and_or_left, or_assoc, and_assoc]

theorem sortByLocation_eq (issues : List Issue) :
    sortByLocation issues =
      issues.mergeSort fun left right => decide (left.location.NotAfter right.location) :=
  stableSort_isLE_of_iff compareLocation
    (fun left right => Occurrence.compareLocation_isLE_iff left.location right.location) issues

theorem sortForReport_eq (issues : List Issue) :
    sortForReport issues = issues.mergeSort fun left right => decide (left.NotAfter right) :=
  stableSort_isLE_of_iff compareReport compareReport_isLE_iff issues

theorem sortByLocation_ordered (issues : List Issue) :
    (sortByLocation issues).Pairwise fun left right => left.location.NotAfter right.location := by
  rw [sortByLocation, stableSort_isLE]
  refine (pairwise_mergeSort_isLE compareLocation issues).imp ?_
  intro left right ordered
  exact (Occurrence.compareLocation_isLE_iff _ _).mp ordered

end Issue
end Traceability
