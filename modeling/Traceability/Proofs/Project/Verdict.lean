import Traceability.CommandLine.Run
import Traceability.Proofs.Check.SourceFile
import Traceability.Proofs.Issue.ProjectPairing

/-!
The verdict on a project.

A check fails exactly if some identifier has tags of one kind only, among the tags of one file
that are not shared or among the shared tags of all files.  Whatever is dropped on the way
to the verdict is the later one of two tags of one kind and identifier, so it never decides.
-/

namespace Traceability

theorem TagKind.eq_counterpart_of_ne {kind other : TagKind} (different : other ≠ kind) :
    other = kind.counterpart := by
  cases kind with
  | require =>
      cases other with
      | require => exact absurd rfl different
      | satisfied => rfl
  | satisfied =>
      cases other with
      | require => rfl
      | satisfied => exact absurd rfl different

namespace Occurrence

/-- The identifier has tags, and all of them are of one kind. -/
def OneSided (occurrences : List Occurrence) (id : Text) : Prop :=
  (∃ occurrence ∈ occurrences, occurrence.id = id) ∧
    ∃ kind, ∀ occurrence ∈ occurrences, occurrence.id = id → occurrence.kind = kind

variable {occurrences others : List Occurrence} {id : Text}

theorem oneSided_iff_of_mem_iff
    (same : ∀ occurrence, occurrence ∈ occurrences ↔ occurrence ∈ others) :
    OneSided occurrences id ↔ OneSided others id := by
  simp only [OneSided, same]

theorem oneSided_iff : OneSided occurrences id ↔
    ∃ kind, (first? occurrences kind id).isSome ∧
      ¬(first? occurrences kind.counterpart id).isSome := by
  simp only [isSome_first?_iff]
  constructor
  · rintro ⟨⟨occurrence, member, named⟩, kind, alike⟩
    refine ⟨kind, ⟨occurrence, member, alike occurrence member named, named⟩, ?_⟩
    rintro ⟨other, inside, isOther, alsoNamed⟩
    rw [alike other inside alsoNamed] at isOther
    cases kind <;> cases isOther
  · rintro ⟨kind, ⟨occurrence, member, _, named⟩, missing⟩
    refine ⟨⟨occurrence, member, named⟩, kind, ?_⟩
    intro other inside alsoNamed
    by_contra isOther
    apply missing
    exact ⟨other, inside, TagKind.eq_counterpart_of_ne isOther, alsoNamed⟩

theorem exists_mem_unpaired_iff :
    (∃ issue, issue ∈ unpaired occurrences) ↔ ∃ id, OneSided occurrences id := by
  constructor
  · rintro ⟨issue, member⟩
    obtain ⟨id, _, found⟩ := List.mem_filterMap.mp member
    refine ⟨id, oneSided_iff.mpr ?_⟩
    split at found
    · rename_i require satisfied
      exact ⟨.require, by rw [require]; rfl, by rw [TagKind.counterpart, satisfied]; exact nofun⟩
    · rename_i require satisfied
      exact ⟨.satisfied, by rw [satisfied]; rfl, by rw [TagKind.counterpart, require]; exact nofun⟩
    · cases found
  · rintro ⟨id, oneSided⟩
    have named : id ∈ ids occurrences := by
      obtain ⟨⟨occurrence, member, same⟩, _⟩ := oneSided
      exact Text.mem_ascending.mpr (List.mem_map.mpr ⟨occurrence, member, same⟩)
    obtain ⟨kind, present, missing⟩ := oneSided_iff.mp oneSided
    obtain ⟨first, found⟩ := Option.isSome_iff_exists.mp present
    refine ⟨.missing first, List.mem_filterMap.mpr ⟨id, named, ?_⟩⟩
    rw [Option.not_isSome_iff_eq_none] at missing
    cases kind <;> simp only [TagKind.counterpart] at missing <;> rw [found, missing]

/-- Among the issues of a pairing, the errors are what is unpaired. -/
theorem exists_missing_iff {sameClass : Occurrence → Occurrence → Bool} :
    (∃ issue ∈ Issue.sortByLocation (duplicates sameClass others ++ unpaired occurrences),
      issue.isDuplicate = false) ↔ ∃ id, OneSided occurrences id := by
  rw [← exists_mem_unpaired_iff]
  simp only [Issue.sortByLocation, mem_stableSort, List.mem_append]
  constructor
  · rintro ⟨issue, duplicated | member, missing⟩
    · rw [isDuplicate_of_mem_duplicates duplicated] at missing
      cases missing
    · exact ⟨issue, member⟩
  · rintro ⟨issue, member⟩
    exact ⟨issue, .inr member, isDuplicate_of_mem_unpaired member⟩

end Occurrence

/-! ### The exit status -/

namespace CommandLine

theorem ExitStatus.success_iff {status : ExitStatus} : status = .success ↔ ¬status = .failure := by
  cases status <;> decide

theorem ExitStatus.eq_of_failure_iff {status other : ExitStatus}
    (same : status = .failure ↔ other = .failure) : status = other := by
  cases status with
  | failure => exact (same.mp rfl).symm
  | success =>
      symm
      rw [ExitStatus.success_iff, ← same]
      exact nofun

namespace CheckResult

/-- A check fails exactly if one of its issues is not a duplicate. -/
theorem failure_iff (issues : List Issue) : (ofIssues issues).status = .failure ↔
    ∃ issue ∈ issues, issue.isDuplicate = false := by
  have isError (issue : Issue) : (issue.severity == .error) = !issue.isDuplicate := by
    cases issue <;> rfl
  have counted : 0 < (ofIssues issues).errors ↔ ∃ issue ∈ issues, issue.isDuplicate = false := by
    simp only [ofIssues, Issue.countSeverity, List.length_pos_iff_exists_mem, List.mem_filter,
      Issue.sortForReport, mem_stableSort, isError, Bool.not_eq_true']
  rw [← counted, status]
  split
  · rename_i positive
    exact iff_of_true rfl positive
  · rename_i none
    exact iff_of_false nofun none

end CheckResult
end CommandLine

/-! ### Files of a project -/

namespace SourceFile

open Occurrence (whereShared OneSided)

/-- Some identifier has tags of one kind only: among those of one file that are not shared, or
among the shared ones of all files. -/
def Unbalanced (choice : LanguageChoice) (files : List SourceFile) : Prop :=
  (∃ file ∈ files, ∃ id, OneSided (whereShared false (file.occurrences choice)) id) ∨
    ∃ id, OneSided (files.flatMap fun file => whereShared true (file.occurrences choice)) id

def readable (tree : FileTree) (paths : List Text) : List SourceFile :=
  paths.filterMap fun path => (tree.readText path).toOption.map fun source => { path, source }

theorem ofChecks_checked (choice : LanguageChoice) (files : List SourceFile) :
    ProjectPairing.ofChecks (files.map (checked choice)) =
      ProjectPairing.ofFiles (files.map fun file => (file.path, file.occurrences choice)) := by
  rw [ProjectPairing.ofChecks, ProjectPairing.ofFiles, List.map_map, List.map_map]
  rfl

theorem exists_missing_checked {choice : LanguageChoice} {file : SourceFile} :
    (∃ issue ∈ (file.checked choice).issues, issue.isDuplicate = false) ↔
      ∃ id, OneSided (whereShared false (file.occurrences choice)) id := by
  rw [checked, pairing, FilePairing.issues_ofOccurrences]
  exact Occurrence.exists_missing_iff

theorem exists_missing_flatMap {choice : LanguageChoice} {files : List SourceFile} :
    (∃ issue ∈ (files.map (checked choice)).flatMap (·.issues), issue.isDuplicate = false) ↔
      ∃ file ∈ files, ∃ id, OneSided (whereShared false (file.occurrences choice)) id := by
  constructor
  · rintro ⟨issue, member, missing⟩
    obtain ⟨check, inChecks, inIssues⟩ := List.mem_flatMap.mp member
    obtain ⟨file, inFiles, rfl⟩ := List.mem_map.mp inChecks
    exact ⟨file, inFiles, exists_missing_checked.mp ⟨issue, inIssues, missing⟩⟩
  · rintro ⟨file, inFiles, oneSided⟩
    obtain ⟨issue, inIssues, missing⟩ := exists_missing_checked.mpr oneSided
    exact ⟨issue, List.mem_flatMap.mpr ⟨_, List.mem_map_of_mem inFiles, inIssues⟩, missing⟩

theorem exists_missing_ofChecks {choice : LanguageChoice} {files : List SourceFile} :
    (∃ issue ∈ (ProjectPairing.ofChecks (files.map (checked choice))).issues,
      issue.isDuplicate = false) ↔
      ∃ id, OneSided (files.flatMap fun file => whereShared true (file.occurrences choice)) id := by
  rw [ofChecks_checked, ProjectPairing.ofFiles_eq]
  refine Occurrence.exists_missing_iff.trans (exists_congr fun id => ?_)
  apply Occurrence.oneSided_iff_of_mem_iff
  intro occurrence
  rw [(ProjectPairing.sharedTags_perm _).mem_iff, List.flatMap_map]

end SourceFile

/-! ### Running the check -/

namespace FileResult

def ofPath (tree : FileTree) (choice : LanguageChoice) (path : Text) : FileResult :=
  match tree.readText path with
  | .error error => .unreadable path error
  | .ok source => .checked (SourceFile.checked choice { path, source })

theorem checkOne_eq (tree : FileTree) (choice : LanguageChoice) (path : Text) :
    CheckRequest.checkOne tree choice path = .ok (ofPath tree choice path) := by
  cases content : tree.readText path with
  | error error => simp only [CheckRequest.checkOne, ofPath, content]
  | ok source =>
      have checked := SourceFile.check_eq choice { path, source }
      rw [SourceFile.check] at checked
      simp only [CheckRequest.checkOne, ofPath, content, checked]
      rfl

theorem filterMap_check?_ofPath (tree : FileTree) (choice : LanguageChoice) (paths : List Text) :
    (paths.map (ofPath tree choice)).filterMap check? =
      (SourceFile.readable tree paths).map (SourceFile.checked choice) := by
  rw [List.filterMap_map, SourceFile.readable, List.map_filterMap]
  apply List.filterMap_congr
  intro path _
  simp only [Function.comp_apply, ofPath]
  cases tree.readText path <;> rfl

end FileResult

namespace CheckRequest

variable {tree : FileTree} {request : CheckRequest}

/-- With valid settings a run never fails: each chosen file is checked or set aside. -/
theorem run_eq_ok {settings : CheckSettings} (configured : request.settings tree = .ok settings) :
    request.run tree = .ok
      { request, settings
        selection := FileSelection.ofTree tree request.path settings.config.includes
          settings.config.ignores
        results := (FileSelection.ofTree tree request.path settings.config.includes
          settings.config.ignores).files.map (FileResult.ofPath tree settings.choice) } := by
  simp only [run, configured]
  change Except.bind (Except.mapError _ (List.mapM _ _)) _ = _
  rw [mapM_eq_ok fun path _ => FileResult.checkOne_eq tree settings.choice path]
  rfl

theorem checks_of_run {project : ProjectCheck} (ran : request.run tree = .ok project) :
    project.checks = (SourceFile.readable tree project.selection.files).map
      (SourceFile.checked project.settings.choice) := by
  cases configured : request.settings tree with
  | error error =>
      simp only [run, configured] at ran
      cases ran
  | ok settings =>
      rw [run_eq_ok configured] at ran
      obtain rfl := Except.ok.inj ran
      exact FileResult.filterMap_check?_ofPath tree settings.choice _

theorem issues_of_run {project : ProjectCheck} (ran : request.run tree = .ok project) :
    project.issues = FileCheck.allIssues
      ((SourceFile.readable tree project.selection.files).map
        (SourceFile.checked project.settings.choice)) := by
  rw [← checks_of_run ran]
  rfl

end CheckRequest

/-! ### The verdict -/

namespace CommandLine

theorem status_runCheck {tree : FileTree} {request : CheckRequest} {project : ProjectCheck}
    (ran : request.run tree = .ok project) (colouring : Colouring) :
    (runCheck colouring tree request).map Effect.status =
      .ok (CheckResult.ofIssues project.issues).status := by
  simp only [runCheck, ran]
  rfl

namespace CheckResult

theorem failure_checked_iff (choice : LanguageChoice) (files : List SourceFile) :
    (ofIssues (FileCheck.allIssues (files.map (SourceFile.checked choice)))).status = .failure ↔
      SourceFile.Unbalanced choice files := by
  rw [failure_iff, FileCheck.allIssues]
  simp only [List.mem_append, or_and_right, exists_or]
  exact or_congr SourceFile.exists_missing_flatMap SourceFile.exists_missing_ofChecks

theorem status_eq_of_missing {issues others : List Issue}
    (same : ∀ issue, issue.isDuplicate = false → (issue ∈ others ↔ issue ∈ issues)) :
    (ofIssues others).status = (ofIssues issues).status := by
  apply ExitStatus.eq_of_failure_iff
  rw [failure_iff, failure_iff]
  refine exists_congr fun issue => and_congr_left ?_
  exact same issue

/-- A check fails exactly if some identifier has tags of one kind only.  The same errors lead to
the same status, however many duplicates stand among them and in whatever order, and every
run that reads the files ends with this status. -/
theorem failure_iff_unbalanced (choice : LanguageChoice) (files : List SourceFile) :
    ∃ checks, files.mapM (SourceFile.check choice) = .ok checks ∧
      ((ofIssues (FileCheck.allIssues checks)).status = .failure ↔
        SourceFile.Unbalanced choice files) ∧
      ((ofIssues (FileCheck.allIssues checks)).status = .success ↔
        ¬SourceFile.Unbalanced choice files) ∧
      (∀ others : List Issue, (∀ issue, issue.isDuplicate = false →
          (issue ∈ others ↔ issue ∈ FileCheck.allIssues checks)) →
        (ofIssues others).status = (ofIssues (FileCheck.allIssues checks)).status) ∧
      ∀ (tree : FileTree) (request : CheckRequest) (project : ProjectCheck),
        request.run tree = .ok project → project.settings.choice = choice →
        SourceFile.readable tree project.selection.files = files →
        project.issues = FileCheck.allIssues checks ∧
        ∀ colouring, (runCheck colouring tree request).map Effect.status =
          .ok (ofIssues (FileCheck.allIssues checks)).status := by
  have failure := failure_checked_iff choice files
  refine ⟨_, SourceFile.mapM_check choice files, failure, ?_, ?_, ?_⟩
  · rw [ExitStatus.success_iff, failure]
  · intro others same
    exact status_eq_of_missing same
  · rintro tree request project ran rfl rfl
    have issues := CheckRequest.issues_of_run ran
    refine ⟨issues, ?_⟩
    intro colouring
    rw [status_runCheck ran, issues]

end CheckResult
end CommandLine
end Traceability
