import Traceability.CommandLine.Run
import Traceability.Proofs.Check.SourceFile
import Traceability.Proofs.Issue.ProjectPairing

/-!
The order in which files are checked.

What files share is paired in the order of their paths, so the order in which they come is
lost there.  The issues of the files themselves do come in that order, and a report sorts them
by place and sentence.  Two issues may agree in both, but then they lie in one file,
and within a file their order is fixed.
-/

namespace Traceability

namespace Issue

/-- Issues that a report may show in either order lie in one file. -/
theorem filePath_eq_of_compareReport {left right : Issue}
    (equal : compareReport left right = .eq) :
    left.location.filePath = right.location.filePath := by
  have place : Occurrence.compareLocation left.location right.location = .eq :=
    (compareLex_eq_eq.mp equal).1
  exact Std.LawfulEqOrd.eq_of_compare (compareLex_eq_eq.mp place).1

end Issue

theorem SourceFile.filePath_of_mem_issues {choice : LanguageChoice} {file : SourceFile}
    {issue : Issue} (member : issue ∈ (file.checked choice).issues) :
    issue.location.filePath = file.path :=
  filePath_of_mem_occurrences
    (FilePairing.mem_of_mem_anchors member issue.location_mem_anchors)

/-! ### What the sorted issues determine -/

theorem Report.ofIssues_eq_of_sorted {issues others : List Issue}
    (sorted : Issue.sortForReport issues = Issue.sortForReport others) (colouring : Colouring) :
    ofIssues colouring issues = ofIssues colouring others := by
  have same : issues.Perm others :=
    calc
      issues.Perm (Issue.sortForReport issues) := (stableSort_perm _ _).symm
      _ = Issue.sortForReport others := sorted
      List.Perm _ others := stableSort_perm _ _
  rw [ofIssues, ofIssues, same.isEmpty_eq, sorted]

theorem CommandLine.CheckResult.ofIssues_eq_of_sorted {issues others : List Issue}
    (sorted : Issue.sortForReport issues = Issue.sortForReport others) :
    ofIssues issues = ofIssues others := by
  rw [ofIssues, ofIssues, sorted]

/-! ### Files in another order -/

theorem ProjectPairing.ofScopes_eq_of_perm {scopes others : List (Text × SharedScope)}
    (same : scopes.Perm others) (distinct : (scopes.map (·.1)).Nodup) :
    ofScopes scopes = ofScopes others := by
  have sorted : sortByName scopes = sortByName others := by
    apply stableSort_isLE_eq_of_perm (compareOn fun scope : Text × SharedScope => scope.1) same
    intro left inLeft right inRight equal
    exact List.inj_on_of_nodup_map distinct inLeft inRight (Std.LawfulEqOrd.eq_of_compare equal)
  rw [ofScopes, ofScopes, sorted]

namespace SourceFile

open CommandLine (CheckResult)

variable {files others : List SourceFile}

theorem ofChecks_eq_of_perm (choice : LanguageChoice) (same : files.Perm others)
    (distinct : (files.map (·.path)).Nodup) :
    ProjectPairing.ofChecks (files.map (checked choice)) =
      ProjectPairing.ofChecks (others.map (checked choice)) := by
  apply ProjectPairing.ofScopes_eq_of_perm ((same.map _).map _)
  rw [List.map_map, List.map_map]
  exact distinct

theorem sortForReport_eq_of_perm (choice : LanguageChoice) (same : files.Perm others)
    (distinct : (files.map (·.path)).Nodup) :
    Issue.sortForReport (FileCheck.allIssues (files.map (checked choice))) =
      Issue.sortForReport (FileCheck.allIssues (others.map (checked choice))) := by
  rw [FileCheck.allIssues, FileCheck.allIssues, ofChecks_eq_of_perm choice same distinct,
    List.flatMap_map, List.flatMap_map]
  apply stableSort_isLE_flatMap_of_perm Issue.compareReport _ same
  intro file inFiles other inOthers left inLeft right inRight equal
  have paths := Issue.filePath_eq_of_compareReport equal
  rw [filePath_of_mem_issues inLeft, filePath_of_mem_issues inRight] at paths
  exact List.inj_on_of_nodup_map distinct inFiles inOthers paths

/-- Files with different paths may be checked in any order: what they share is paired alike,
and the report, the sorted issues and their numbers are the same. -/
theorem results_eq_of_perm (choice : LanguageChoice) (same : files.Perm others)
    (distinct : (files.map (·.path)).Nodup) :
    ∃ checks otherChecks, files.mapM (check choice) = .ok checks ∧
      others.mapM (check choice) = .ok otherChecks ∧
      ProjectPairing.ofChecks checks = ProjectPairing.ofChecks otherChecks ∧
      (∀ colouring, Report.ofIssues colouring (FileCheck.allIssues checks) =
        Report.ofIssues colouring (FileCheck.allIssues otherChecks)) ∧
      CheckResult.ofIssues (FileCheck.allIssues checks) =
        CheckResult.ofIssues (FileCheck.allIssues otherChecks) := by
  have sorted := sortForReport_eq_of_perm choice same distinct
  refine ⟨_, _, mapM_check choice files, mapM_check choice others,
    ofChecks_eq_of_perm choice same distinct, ?_, ?_⟩
  · exact Report.ofIssues_eq_of_sorted sorted
  · exact CommandLine.CheckResult.ofIssues_eq_of_sorted sorted

/-- Both files require the same, and `a.rs` counts as the first of them although it is read
last. -/
def twoRequirements : List SourceFile :=
  [{ path := "b.rs".toList, source := "// REQUIRE(api): login".toList },
    { path := "a.rs".toList, source := "fn main() {} // REQUIRE(api): login".toList }]

theorem results_eq_of_reverse :
    twoRequirements.Perm twoRequirements.reverse ∧
    (twoRequirements.map (·.path)).Nodup ∧
    ∃ checks otherChecks, twoRequirements.mapM (check .auto) = .ok checks ∧
      twoRequirements.reverse.mapM (check .auto) = .ok otherChecks ∧
      ProjectPairing.ofChecks checks = ProjectPairing.ofChecks otherChecks ∧
      (∀ colouring, Report.ofIssues colouring (FileCheck.allIssues checks) =
        Report.ofIssues colouring (FileCheck.allIssues otherChecks)) ∧
      CheckResult.ofIssues (FileCheck.allIssues checks) =
        CheckResult.ofIssues (FileCheck.allIssues otherChecks) :=
  have same : twoRequirements.Perm twoRequirements.reverse := (List.reverse_perm _).symm
  have distinct : (twoRequirements.map (·.path)).Nodup := by decide
  ⟨same, distinct, results_eq_of_perm .auto same distinct⟩

end SourceFile
end Traceability
