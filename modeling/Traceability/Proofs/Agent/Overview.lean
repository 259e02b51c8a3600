import Traceability.Proofs.Agent.Paging
import Traceability.Proofs.Issue.Counts
import Traceability.Proofs.Project.Verdict

/-!
The numbers of a project, wherever they are told.

An agent is told how many issues a project has, by kind and by severity, and it can list them; a
check prints a report that ends with their number.  All of these count the same issues
(`counts_agree`).  They also account for every tag that was read: it is counted among the tags,
or it is a duplicate in its own file.
-/

namespace Traceability

/-! ### Tags of files -/

namespace SourceFile

variable (choice : LanguageChoice)

def parse (file : SourceFile) : Except Fault (List Occurrence) :=
  (occurrencesIn (choice.resolve file.path).marks file.path file.source).map Prod.fst

theorem mapM_parse (files : List SourceFile) :
    files.mapM (parse choice) = .ok (files.map (occurrences choice)) := by
  apply mapM_eq_ok
  intro file _
  rw [parse, MarkSet.occurrencesIn_eq]
  rfl

theorem total_add_duplicates (file : SourceFile) :
    (file.checked choice).counts.total + (file.checked choice).issues.countP Issue.isDuplicate =
      (file.occurrences choice).length :=
  FilePairing.total_add_duplicates (file.occurrences choice)

theorem total_foldl_add_duplicates (files : List SourceFile) (start : TagCounts) :
    ((files.map (checked choice)).foldl (fun total check => total.add check.counts) start).total +
        ((files.map (checked choice)).flatMap (·.issues)).countP Issue.isDuplicate =
      start.total + (files.map (occurrences choice)).flatten.length := by
  induction files generalizing start with
  | nil => rfl
  | cons file rest ih =>
      have first := total_add_duplicates choice file
      have others := ih (start.add (file.checked choice).counts)
      rw [TagCounts.total_add] at others
      simp only [List.map_cons, List.foldl_cons, List.flatMap_cons, List.countP_append,
        List.flatten_cons, List.length_append]
      omega

end SourceFile

namespace CheckRequest

variable {tree : FileTree} {path : Text} {project : ProjectCheck}

/-- Speaking of every place changes nothing but the remarks. -/
theorem run_verbose (ran : run tree { path } = .ok project) (verbose : Bool) :
    run tree { path, verbose } = .ok { project with request := { path, verbose } } := by
  have same : settings tree { path, verbose } = settings tree { path } := rfl
  cases configured : settings tree { path } with
  | error error =>
      simp only [run, configured] at ran
      cases ran
  | ok settings =>
      rw [run_eq_ok configured] at ran
      obtain rfl := Except.ok.inj ran
      exact run_eq_ok (same.trans configured)

/-- The tags that are counted and those that are reported as duplicates in their files are all
tags of the files. -/
theorem total_add_duplicates (ran : run tree { path } = .ok project) :
    project.counts.total + project.issues.countP Issue.isDuplicate =
      ((SourceFile.readable tree project.selection.files).map
        (SourceFile.occurrences project.settings.choice)).flatten.length +
      project.global.issues.countP Issue.isDuplicate := by
  have inFiles := SourceFile.total_foldl_add_duplicates project.settings.choice
    (SourceFile.readable tree project.selection.files) {}
  rw [← checks_of_run ran] at inFiles
  have none : ({} : TagCounts).total = 0 := rfl
  rw [ProjectCheck.counts, ProjectCheck.issues, List.countP_append, ← Nat.add_assoc, inFiles, none,
    Nat.zero_add]

end CheckRequest

/-! ### The report -/

namespace Report

def summaryOf (colouring : Colouring) (total errors warnings : Nat) : Text :=
  Style.paint colouring (Style.ofColour .red) "\u2718".toList ++ ' ' :: Text.ofNat total ++
    " problems (".toList ++ Text.ofNat errors ++
    ' ' :: Style.paint colouring (Style.ofColour .red) (plural errors "error" "errors") ++
    ", ".toList ++ Text.ofNat warnings ++
    ' ' :: Style.paint colouring (Style.ofColour .yellow) (plural warnings "warning" "warnings") ++
    ")\n".toList

theorem summary_eq (colouring : Colouring) (issues : List Issue) :
    summary colouring issues =
      summaryOf colouring (IssueCounts.ofIssues issues).total (IssueCounts.ofIssues issues).errors
        (IssueCounts.ofIssues issues).warnings := by
  rw [← IssueCounts.warnings_eq_sub]
  rfl

/-- A report ends with the numbers of its issues. -/
theorem exists_ofIssues_eq (colouring : Colouring) {issues : List Issue} (nonempty : issues ≠ []) :
    ∃ shown, ofIssues colouring issues = shown ++
      summaryOf colouring (IssueCounts.ofIssues issues).total (IssueCounts.ofIssues issues).errors
        (IssueCounts.ofIssues issues).warnings := by
  rw [← IssueCounts.ofIssues_sortForReport, ← summary_eq, ofIssues,
    List.isEmpty_eq_false_iff.mpr nonempty, if_neg Bool.false_ne_true]
  exact ⟨_, rfl⟩

end Report

namespace CommandLine

theorem CheckResult.ofIssues_eq (issues : List Issue) :
    ofIssues issues =
      { issues := Issue.sortForReport issues
        errors := (IssueCounts.ofIssues issues).errors
        warnings := (IssueCounts.ofIssues issues).warnings } := by
  rw [← IssueCounts.ofIssues_sortForReport, ← IssueCounts.warnings_eq_sub]
  rfl

theorem exists_checkOutput_eq (colouring : Colouring) {issues : List Issue} (files : Nat)
    (nonempty : issues ≠ []) :
    ∃ shown, checkOutput colouring (CheckResult.ofIssues issues) files = shown ++
      Report.summaryOf colouring (IssueCounts.ofIssues issues).total
        (IssueCounts.ofIssues issues).errors (IssueCounts.ofIssues issues).warnings ++
      Report.filesScanned colouring files := by
  have sorted : Issue.sortForReport issues ≠ [] := by
    rw [← List.length_pos_iff, Issue.sortForReport, (stableSort_perm _ issues).length_eq,
      List.length_pos_iff]
    exact nonempty
  obtain ⟨shown, report⟩ := Report.exists_ofIssues_eq colouring sorted
  rw [IssueCounts.ofIssues_sortForReport] at report
  refine ⟨shown, ?_⟩
  rw [checkOutput, CheckResult.ofIssues_eq, List.isEmpty_eq_false_iff.mpr sorted,
    if_neg Bool.false_ne_true, report]

end CommandLine

/-! ### All numbers -/

namespace Agent

open CommandLine (CheckResult runCheck)

def countName : IssueKind → String
  | .duplicatedRequire => "duplicatedRequire"
  | .duplicatedSatisfied => "duplicatedSatisfied"
  | .missingSatisfied => "missingSatisfied"
  | .missingRequire => "missingRequire"

structure Tells (answer : Json) (counts : IssueCounts) (tags : TagCounts) : Prop where
  issues : answer.member? "issues" = some (issueCountsJson counts)
  kinds : ∀ kind, (issueCountsJson counts).member? (countName kind) =
    some (.ofNat (counts.ofKind kind))
  total : (issueCountsJson counts).member? "totalCount" = some (.ofNat counts.total)
  errors : (issueCountsJson counts).member? "errorCount" = some (.ofNat counts.errors)
  warnings : (issueCountsJson counts).member? "warningCount" = some (.ofNat counts.warnings)
  tags : answer.member? "annotations" = some (tagCountsJson tags)

/-- Wherever the numbers of a project are told, they are the same. -/
structure CountsAgree (tree : FileTree) (rootPath : Text) (project : ProjectCheck)
    (counts : IssueCounts) : Prop where
  counted : project.issues.foldl .add .nothing = counts
  balanced : counts.Balanced
  overview : ∀ parameters, onlyRootPath? parameters = some rootPath →
    ∃ answer, overviewTool tree parameters = .ok answer ∧ Tells answer counts project.counts
  listed : ∀ parameters query, IssueQuery.ofJson? parameters = some query →
    query.rootPath = rootPath → ∃ answer, issuesTool tree parameters = .ok answer ∧
      answer.member? "totalCount" = some (.ofNat (counts.ofKind? query.kind))
  result : (CheckResult.ofIssues project.issues).issues.length = counts.total ∧
    (CheckResult.ofIssues project.issues).errors = counts.errors ∧
    (CheckResult.ofIssues project.issues).warnings = counts.warnings
  report : ∀ colouring verbose, ∃ effect,
    runCheck colouring tree { path := rootPath, verbose } = .ok effect ∧
      (project.issues ≠ [] → ∃ shown, effect.stdout = shown ++
        Report.summaryOf colouring counts.total counts.errors counts.warnings ++
        Report.filesScanned colouring project.checks.length)
  /-- A tag that is reported as a duplicate of one in another file is counted in its own. -/
  tags : ∃ parsed, (SourceFile.readable tree project.selection.files).mapM
      (SourceFile.parse project.settings.choice) = .ok parsed ∧
    project.global.issues.countP Issue.isDuplicate ≤ counts.warnings ∧
    project.counts.total + counts.warnings - project.global.issues.countP Issue.isDuplicate =
      parsed.flatten.length

variable {tree : FileTree} {rootPath : Text} {project : ProjectCheck}

theorem checkAt_of_run (ran : CheckRequest.run tree { path := rootPath } = .ok project) :
    checkAt tree rootPath = .ok project := by
  rw [checkAt, ran]
  rfl

theorem tells_overviewJson (project : ProjectCheck) :
    Tells (overviewJson project) (.ofIssues project.issues) project.counts where
  issues := rfl
  kinds kind := by cases kind <;> rfl
  total := rfl
  errors := rfl
  warnings := rfl
  tags := rfl

theorem overviewTool_eq (checked : checkAt tree rootPath = .ok project) {parameters : Json}
    (given : onlyRootPath? parameters = some rootPath) :
    overviewTool tree parameters = .ok (overviewJson project) := by
  rw [overviewTool, given]
  change (checkAt tree rootPath).bind _ = _
  rw [checked]
  rfl

theorem issuesTool_eq (checked : checkAt tree rootPath = .ok project) {parameters : Json}
    {query : IssueQuery} (given : IssueQuery.ofJson? parameters = some query)
    (sameRoot : query.rootPath = rootPath) :
    issuesTool tree parameters = .ok (pageOf (listedIssues project query.kind)
      (query.offset.getD 0) (pageLimit query.limit)).toJson := by
  obtain ⟨_, kind, limit, offset⟩ := query
  subst sameRoot
  rw [issuesTool, given]
  change (scanIssues tree _).bind _ = _
  rw [scanIssues_eq checked]
  rfl

theorem length_listedIssues (project : ProjectCheck) (kind : Option IssueKind) :
    (listedIssues project kind).length =
      (IssueCounts.ofIssues project.issues).ofKind? kind := by
  rw [← ofKind_sortForReport, ← IssueCounts.ofIssues_sortForReport]
  cases kind with
  | none => exact congrArg List.length (List.filter_eq_self.mpr fun _ _ => rfl)
  | some kind => exact IssueCounts.countKind_eq kind _

/-- An overview, a list of the issues, the result of a check and its report have the same
numbers, and together with what is reported only between files they account for each tag of the
files that can be read. -/
theorem counts_agree (ran : CheckRequest.run tree { path := rootPath } = .ok project) :
    CountsAgree tree rootPath project (.ofIssues project.issues) := by
  have checked := checkAt_of_run ran
  have counted := CheckRequest.total_add_duplicates ran
  have warnings : (IssueCounts.ofIssues project.issues).warnings =
      project.issues.countP Issue.isDuplicate :=
    (Issue.countP_isDuplicate project.issues).symm
  constructor
  case counted => exact (IssueCounts.ofIssues_eq_foldl _).symm
  case balanced => exact IssueCounts.balanced_ofIssues _
  case overview =>
    intro parameters given
    exact ⟨_, overviewTool_eq checked given, tells_overviewJson project⟩
  case listed =>
    intro parameters query given sameRoot
    refine ⟨_, issuesTool_eq checked given sameRoot, ?_⟩
    rw [← length_listedIssues]
    rfl
  case result =>
    rw [CheckResult.ofIssues_eq]
    exact ⟨(stableSort_perm _ _).length_eq, rfl, rfl⟩
  case report =>
    intro colouring verbose
    have again := CheckRequest.run_verbose ran verbose
    refine ⟨_, by rw [runCheck, again]; rfl, ?_⟩
    exact CommandLine.exists_checkOutput_eq colouring project.checks.length
  case tags =>
    refine ⟨_, SourceFile.mapM_parse _ _, ?_, ?_⟩
    · rw [warnings, ProjectCheck.issues, List.countP_append]
      exact Nat.le_add_left _ _
    · rw [warnings, counted, Nat.add_sub_cancel]

def repeatedTags : FileTree :=
  { root := .directory [
      ("a.rs".toList, .file (.text "// REQUIRE: x\n// REQUIRE: x\n// SATISFIED(all): s".toList)),
      ("b.rs".toList, .file (.text "// SATISFIED(all): s\n// REQUIRE: y\n// SATISFIED: y".toList)),
      ("c.bin".toList, .file .binary)] }

theorem counts_agree_repeatedTags : ∃ project,
    CheckRequest.run repeatedTags { path := ['.'] } = .ok project ∧
    IssueCounts.ofIssues project.issues =
      { total := 4, errors := 2, warnings := 2, duplicatedRequire := 1, duplicatedSatisfied := 1,
        missingSatisfied := 1, missingRequire := 1 } ∧
    project.counts.total = 5 ∧ project.global.issues.countP Issue.isDuplicate = 1 ∧
    CountsAgree repeatedTags ['.'] project (.ofIssues project.issues) := by
  have run : (CheckRequest.run repeatedTags { path := ['.'] }).map (fun project =>
      (IssueCounts.ofIssues project.issues, project.counts.total,
        project.global.issues.countP Issue.isDuplicate)) =
      .ok ({ total := 4, errors := 2, warnings := 2, duplicatedRequire := 1,
             duplicatedSatisfied := 1, missingSatisfied := 1, missingRequire := 1 }, 5, 1) := by
    decide +kernel
  obtain ⟨project, ran, numbers⟩ := exists_of_map_eq_ok run
  obtain ⟨issues, others⟩ := Prod.mk.inj numbers
  obtain ⟨tags, shared⟩ := Prod.mk.inj others
  exact ⟨project, ran, issues, tags, shared, counts_agree ran⟩

end Agent
end Traceability
