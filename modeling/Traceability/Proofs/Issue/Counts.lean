import Traceability.Proofs.Issue.ProjectPairing

/-!
How many issues there are, and how many tags.

Issues are counted one by one, by their severity and by their kind.  A kind has one severity,
so the numbers of the kinds add up to those of the severities, and these to the number of
all issues (`IssueCounts.Balanced`).  A tag of a file fills a place of a scope or is reported as a
duplicate, and never both.
-/

namespace Traceability

def IssueKind.severity : IssueKind → Severity
  | duplicatedRequire | duplicatedSatisfied => .warning
  | missingSatisfied | missingRequire => .error

namespace Issue

theorem severity_eq (issue : Issue) : issue.severity = issue.kind.severity := by
  cases issue with
  | duplicate later first =>
      rw [kind]
      cases later.kind <;> rfl
  | missing present =>
      rw [kind]
      cases present.kind <;> rfl

theorem countSeverity_concat (severity : Severity) (issues : List Issue) (issue : Issue) :
    countSeverity severity (issues ++ [issue]) =
      countSeverity severity issues + if issue.severity == severity then 1 else 0 := by
  simp only [countSeverity, ← List.countP_eq_length_filter, List.countP_append,
    List.countP_singleton]

theorem countKind_concat (kind : IssueKind) (issues : List Issue) (issue : Issue) :
    countKind kind (issues ++ [issue]) =
      countKind kind issues + if issue.kind == kind then 1 else 0 := by
  simp only [countKind, ← List.countP_eq_length_filter, List.countP_append,
    List.countP_singleton]

theorem countP_isDuplicate (issues : List Issue) :
    issues.countP isDuplicate = countSeverity .warning issues := by
  rw [countSeverity, ← List.countP_eq_length_filter]
  apply List.countP_congr
  intro issue _
  cases issue <;> exact Iff.rfl

end Issue

/-! ### Issues -/

namespace IssueCounts

def ofKind (counts : IssueCounts) : IssueKind → Nat
  | .duplicatedRequire => counts.duplicatedRequire
  | .duplicatedSatisfied => counts.duplicatedSatisfied
  | .missingSatisfied => counts.missingSatisfied
  | .missingRequire => counts.missingRequire

def ofKind? (counts : IssueCounts) : Option IssueKind → Nat
  | none => counts.total
  | some kind => counts.ofKind kind

def nothing : IssueCounts :=
  ofIssues []

def addSeverity (counts : IssueCounts) : Severity → IssueCounts
  | .error => { counts with errors := counts.errors + 1 }
  | .warning => { counts with warnings := counts.warnings + 1 }

def addKind (counts : IssueCounts) : IssueKind → IssueCounts
  | .duplicatedRequire => { counts with duplicatedRequire := counts.duplicatedRequire + 1 }
  | .duplicatedSatisfied => { counts with duplicatedSatisfied := counts.duplicatedSatisfied + 1 }
  | .missingSatisfied => { counts with missingSatisfied := counts.missingSatisfied + 1 }
  | .missingRequire => { counts with missingRequire := counts.missingRequire + 1 }

def add (counts : IssueCounts) (issue : Issue) : IssueCounts :=
  ({ counts with total := counts.total + 1 }.addSeverity issue.severity).addKind issue.kind

/-- The kinds add up to the severities, and the severities to all issues. -/
structure Balanced (counts : IssueCounts) : Prop where
  kinds : counts.duplicatedRequire + counts.duplicatedSatisfied + counts.missingSatisfied +
    counts.missingRequire = counts.total
  errors : counts.errors = counts.missingSatisfied + counts.missingRequire
  warnings : counts.warnings = counts.duplicatedRequire + counts.duplicatedSatisfied

variable {counts : IssueCounts} {issues others : List Issue}

theorem balanced_nothing : nothing.Balanced :=
  ⟨rfl, rfl, rfl⟩

theorem Balanced.add (balanced : counts.Balanced) (issue : Issue) :
    (counts.add issue).Balanced := by
  obtain ⟨kinds, errors, warnings⟩ := balanced
  rw [IssueCounts.add, Issue.severity_eq]
  cases issue.kind <;> constructor <;>
    simp only [IssueKind.severity, addSeverity, addKind] <;> omega

theorem ofIssues_concat (issues : List Issue) (issue : Issue) :
    ofIssues (issues ++ [issue]) = (ofIssues issues).add issue := by
  simp only [ofIssues, add, Issue.countSeverity_concat, Issue.countKind_concat,
    List.length_append, List.length_singleton]
  cases issue.severity <;> cases issue.kind <;> rfl

theorem ofIssues_eq_foldl (issues : List Issue) : ofIssues issues = issues.foldl add nothing := by
  induction issues using List.reverseRecOn with
  | nil => rfl
  | append_singleton seen issue ih => rw [ofIssues_concat, ih, List.foldl_concat]

theorem balanced_ofIssues (issues : List Issue) : (ofIssues issues).Balanced := by
  induction issues using List.reverseRecOn with
  | nil => exact balanced_nothing
  | append_singleton seen issue ih =>
      rw [ofIssues_concat]
      exact ih.add issue

theorem ofIssues_eq_of_perm (same : issues.Perm others) : ofIssues issues = ofIssues others := by
  simp only [ofIssues, Issue.countSeverity, Issue.countKind, same.length_eq,
    (same.filter _).length_eq]

theorem ofIssues_sortForReport (issues : List Issue) :
    ofIssues (Issue.sortForReport issues) = ofIssues issues :=
  ofIssues_eq_of_perm (stableSort_perm _ issues)

theorem warnings_eq_sub (issues : List Issue) :
    issues.length - Issue.countSeverity .error issues = (ofIssues issues).warnings := by
  obtain ⟨kinds, errors, warnings⟩ := balanced_ofIssues issues
  change (ofIssues issues).total - (ofIssues issues).errors = _
  omega

theorem countKind_eq (kind : IssueKind) (issues : List Issue) :
    Issue.countKind kind issues = (ofIssues issues).ofKind kind := by
  cases kind <;> rfl

end IssueCounts

/-! ### Tags -/

namespace TagCounts

theorem total_add (left right : TagCounts) : (left.add right).total = left.total + right.total := by
  simp only [add, total]
  omega

end TagCounts

/-- Every tag of a file is kept or reported as a duplicate. -/
theorem FilePairing.total_add_duplicates (occurrences : List Occurrence) :
    (TagCounts.ofScopes (ofOccurrences occurrences).localScope
        (ofOccurrences occurrences).sharedScope).total +
      (ofOccurrences occurrences).issues.countP Issue.isDuplicate = occurrences.length := by
  have after := after_routed occurrences
  have duplicates : (ofOccurrences occurrences).issues.countP Issue.isDuplicate =
      (Occurrence.duplicates Occurrence.sameClass occurrences).length := by
    rw [issues_ofOccurrences, Issue.sortByLocation, (stableSort_perm _ _).countP_eq,
      List.countP_eq_length_filter, Occurrence.filter_isDuplicate]
  rw [duplicates, ← after.issues]
  exact after.counted

end Traceability
