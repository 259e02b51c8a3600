import Traceability.Scope.Basic
import Traceability.StableSort

/-!
Issues: what a check reports.

A tag without its counterpart is an error.  A second tag of the same
kind and identifier is a warning, and it is discarded: the first one is kept.
-/

namespace Traceability

inductive Severity
  | error
  | warning
  deriving DecidableEq, Repr

def Severity.name : Severity → Text
  | error => "error".toList
  | warning => "warning".toList

inductive IssueKind
  | duplicatedRequire
  | duplicatedSatisfied
  | missingSatisfied
  | missingRequire
  deriving DecidableEq, Repr

namespace IssueKind

def all : List IssueKind :=
  [duplicatedRequire, duplicatedSatisfied, missingSatisfied, missingRequire]

def name : IssueKind → Text
  | duplicatedRequire => "duplicated-require".toList
  | duplicatedSatisfied => "duplicated-satisfied".toList
  | missingSatisfied => "missing-satisfied".toList
  | missingRequire => "missing-require".toList

def ofName? (written : Text) : Option IssueKind :=
  all.find? fun kind => kind.name == written

end IssueKind

inductive Issue
  /-- A later tag of a kind and identifier, and the one that was kept. -/
  | duplicate (later first : Occurrence)
  | missing (present : Occurrence)
  deriving DecidableEq, Repr

namespace Issue

def location : Issue → Occurrence
  | duplicate later _ => later
  | missing present => present

/-- All tags that the issue is about, the reported one first. -/
def anchors : Issue → List Occurrence
  | duplicate later first => [later, first]
  | missing present => [present]

theorem location_mem_anchors (issue : Issue) : issue.location ∈ issue.anchors := by
  cases issue <;> exact .head _

def severity : Issue → Severity
  | duplicate _ _ => .warning
  | missing _ => .error

def kind : Issue → IssueKind
  | duplicate later _ =>
      match later.kind with
      | .require => .duplicatedRequire
      | .satisfied => .duplicatedSatisfied
  | missing present =>
      match present.kind with
      | .require => .missingSatisfied
      | .satisfied => .missingRequire

def message : Issue → Text
  | duplicate later _ => "Duplicated ".toList ++ later.tag.display
  | missing present =>
      "Missing corresponding ".toList ++ present.kind.counterpart.keyword ++ " for ".toList ++
        present.tag.display

def keptPlace? : Issue → Option Text
  | duplicate _ first => some first.location
  | missing _ => none

def details (issue : Issue) : List Text :=
  (issue.keptPlace?.map fun place => "First defined at ".toList ++ place).toList

/-! ### Order -/

def compareLocation : Issue → Issue → Ordering :=
  fun left right => Occurrence.compareLocation left.location right.location

/-- Order by the reported place, then by the sentence. -/
def compareReport : Issue → Issue → Ordering :=
  compareLex compareLocation (compareOn message)

def sortByLocation (issues : List Issue) : List Issue :=
  stableSort (fun left right => (compareLocation left right).isLE) issues

def sortForReport (issues : List Issue) : List Issue :=
  stableSort (fun left right => (compareReport left right).isLE) issues

end Issue

/-! ### Counts -/

structure IssueCounts where
  total : Nat
  errors : Nat
  warnings : Nat
  duplicatedRequire : Nat
  duplicatedSatisfied : Nat
  missingSatisfied : Nat
  missingRequire : Nat
  deriving DecidableEq, Repr

namespace Issue

def countSeverity (severity : Severity) (issues : List Issue) : Nat :=
  (issues.filter (·.severity == severity)).length

def countKind (kind : IssueKind) (issues : List Issue) : Nat :=
  (issues.filter (·.kind == kind)).length

end Issue

def IssueCounts.ofIssues (issues : List Issue) : IssueCounts :=
  { total := issues.length
    errors := Issue.countSeverity .error issues
    warnings := Issue.countSeverity .warning issues
    duplicatedRequire := Issue.countKind .duplicatedRequire issues
    duplicatedSatisfied := Issue.countKind .duplicatedSatisfied issues
    missingSatisfied := Issue.countKind .missingSatisfied issues
    missingRequire := Issue.countKind .missingRequire issues }

end Traceability
