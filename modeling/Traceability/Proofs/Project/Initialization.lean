import Traceability.Proofs.Config.Standard
import Traceability.Proofs.Project.Selection
import Traceability.Proofs.Project.Verdict

/-!
A new configuration changes nothing that is found.

The configuration that is written reads back as the standard one, which is also used where
there is none.  Its file is chosen by its own patterns and read in all languages together,
where its globs begin and end comments, but no tag is in them.  So one more file is
checked, and what is found stays as it was.
-/

namespace Traceability

/-! ### Files without tags -/

theorem flatMap_filter_eq {α β : Type} {items : List α} {keep : α → Bool} {values : α → List β}
    (silent : ∀ item ∈ items, keep item = false → values item = []) :
    (items.filter keep).flatMap values = items.flatMap values := by
  induction items with
  | nil => rfl
  | cons item rest ih =>
      have others := ih fun other member => silent other (.tail _ member)
      cases kept : keep item with
      | true =>
          rw [List.filter_cons_of_pos kept, List.flatMap_cons, List.flatMap_cons, others]
      | false =>
          rw [List.filter_cons_of_neg (Bool.not_eq_true _ ▸ kept), List.flatMap_cons, others,
            silent item (.head _) kept, List.nil_append]

/-- Files that share nothing may be left out. -/
theorem ProjectPairing.ofScopes_filter {scopes : List (Text × SharedScope)}
    {keep : Text × SharedScope → Bool}
    (silent : ∀ scope ∈ scopes, keep scope = false → scope.2.occurrences = []) :
    ofScopes (scopes.filter keep) = ofScopes scopes := by
  have sorted : sortByName (scopes.filter keep) = (sortByName scopes).filter keep :=
    (filter_stableSort (fun _ _ _ => Std.TransCmp.isLE_trans)
      (isLE_total (compareOn fun scope : Text × SharedScope => scope.1)) keep scopes).symm
  have same : (sortByName (scopes.filter keep)).flatMap (·.2.occurrences) =
      (sortByName scopes).flatMap (·.2.occurrences) := by
    rw [sorted]
    apply flatMap_filter_eq
    intro scope member
    exact silent scope (mem_stableSort.mp member)
  rw [ofScopes, ofScopes, same]

theorem FileCheck.allIssues_filter {checks : List FileCheck} {path : Text}
    (silent : ∀ check ∈ checks, check.filePath = path →
      check.issues = [] ∧ check.sharedScope.occurrences = []) :
    allIssues (checks.filter (·.filePath != path)) = allIssues checks := by
  have dropped {filePath : Text} (left : (filePath != path) = false) : filePath = path := by
    simpa using left
  have own : (checks.filter (·.filePath != path)).flatMap (·.issues) =
      checks.flatMap (·.issues) := by
    apply flatMap_filter_eq
    intro check member left
    exact (silent check member (dropped left)).1
  have scopes : (checks.filter (·.filePath != path)).map (fun check =>
        (check.filePath, check.sharedScope)) =
      (checks.map fun check => (check.filePath, check.sharedScope)).filter (·.1 != path) := by
    rw [List.filter_map]
    rfl
  have shared : ProjectPairing.ofChecks (checks.filter (·.filePath != path)) =
      ProjectPairing.ofChecks checks := by
    rw [ProjectPairing.ofChecks, scopes]
    apply ProjectPairing.ofScopes_filter
    intro scope member left
    obtain ⟨check, inChecks, rfl⟩ := List.mem_map.mp member
    exact (silent check inChecks (dropped left)).2
  rw [allIssues, allIssues, own, shared]

/-! ### The file of the written configuration -/

namespace Config

/-- The globs in the text begin and end comments, but there is no tag in them. -/
theorem occurrences_standardText :
    Language.any.marks.occurrences pathHere standardText = [] := by
  have tags : (occurrencesIn Language.any.marks pathHere standardText).map Prod.fst = .ok [] := by
    rfl
  rw [MarkSet.occurrencesIn_eq] at tags
  exact Except.ok.inj tags

theorem resolve_pathHere : LanguageChoice.auto.resolve pathHere = .any := by
  rfl

def standardFile : SourceFile :=
  { path := pathHere, source := standardText }

theorem silent_standardFile : (standardFile.checked .auto).issues = [] ∧
    (standardFile.checked .auto).sharedScope.occurrences = [] := by
  have untagged : standardFile.occurrences .auto = [] := by
    rw [SourceFile.occurrences]
    change (LanguageChoice.auto.resolve pathHere).marks.occurrences pathHere standardText = []
    rw [resolve_pathHere, occurrences_standardText]
  have pairing : standardFile.pairing .auto = FilePairing.ofOccurrences [] := by
    rw [SourceFile.pairing, untagged]
  rw [SourceFile.checked, pairing]
  exact ⟨rfl, rfl⟩

end Config

namespace CheckRequest

/-- A check of the working directory that overrides nothing. -/
def here (verbose : Bool) : CheckRequest :=
  { verbose }

def standardSettings (fromFile : Bool) : CheckSettings :=
  { config := { Config.standard with lang := LanguageChoice.auto.name }, fromFile, choice := .auto }

variable {tree : FileTree} {entries : FileEntry.Entries}

theorem configStart_here (inside : tree.HasCurrent entries) (verbose : Bool) :
    (here verbose).configStart tree = ['.'] := by
  have noFile : tree.containsFile ['.'] = false := by
    rw [FileTree.containsFile, FileTree.get_dot inside]
    rfl
  exact if_neg (Bool.eq_false_iff.mp noFile)

theorem settings_here {fromFile : Bool} (inside : tree.HasCurrent entries) (verbose : Bool)
    (loaded : Config.load tree ['.'] = .ok { config := .standard, fromFile }) :
    (here verbose).settings tree = .ok (standardSettings fromFile) := by
  rw [settings, configStart_here inside, loaded]
  rfl

end CheckRequest

/-! ### What is read -/

namespace SourceFile

variable {tree other : FileTree} {paths : List Text}

theorem readable_filter (tree : FileTree) (paths : List Text) (keep : Text → Bool) :
    readable tree (paths.filter keep) =
      (readable tree paths).filter fun file => keep file.path := by
  rw [readable, readable, List.filterMap_filter, List.filter_filterMap]
  apply List.filterMap_congr
  intro path _
  cases tree.readText path with
  | error error => exact ite_self none
  | ok source => cases kept : keep path <;> simp [Option.filter, Except.toOption, kept]

theorem readable_congr (same : ∀ path ∈ paths, tree.readText path = other.readText path) :
    readable tree paths = readable other paths := by
  apply List.filterMap_congr
  intro path member
  rw [same path member]

end SourceFile

/-- The paths that cannot be read, each with the reason. -/
def FileTree.unreadable (tree : FileTree) (paths : List Text) : List (Text × AccessError) :=
  paths.filterMap fun path =>
    match tree.readText path with
    | .error error => some (path, error)
    | .ok _ => none

theorem CheckRequest.unreadable_of_results {tree : FileTree} {project : ProjectCheck}
    {choice : LanguageChoice} {paths : List Text}
    (results : project.results = paths.map (FileResult.ofPath tree choice)) :
    project.unreadable = tree.unreadable paths := by
  rw [ProjectCheck.unreadable, results, List.filterMap_map]
  apply List.filterMap_congr
  intro path _
  simp only [Function.comp_apply, FileResult.ofPath]
  cases tree.readText path <;> rfl

/-! ### Before and after -/

open Config (configured)
open FileEntry (Entries directory file)

/-- The second tree has the standard configuration in its current directory, where the first one
has none. -/
structure Config.Adds (tree written : FileTree) (entries : Entries) : Prop where
  named : tree.Named
  inside : tree.HasCurrent entries
  absent : entries.lookup fileName = none
  added : written.HasCurrent (configured entries)

namespace FileSelection

variable {tree written : FileTree} {entries : Entries}

def standardFiles (tree : FileTree) : List Text :=
  (ofTree tree ['.'] Config.standard.includes Config.standard.ignores).files

theorem standardFiles_eq (inside : tree.HasCurrent entries) : standardFiles tree =
    Text.ascending (listed Config.standard.includes Config.standard.ignores entries) :=
  files_here inside _ _

theorem filter_standardFiles (adds : Config.Adds tree written entries) :
    (standardFiles written).filter (· != Config.pathHere) = standardFiles tree := by
  rw [standardFiles_eq adds.inside, standardFiles_eq adds.added]
  exact (ascending_listed_append (adds.named.ofCurrent adds.inside) Config.isName_fileName
    adds.absent _ Config.chooses_fileName).2

theorem filter_standardFiles_eq (adds : Config.Adds tree written entries) :
    (standardFiles written).filter (· == Config.pathHere) = [Config.pathHere] := by
  have member : Config.pathHere ∈ standardFiles written := by
    rw [standardFiles_eq adds.added]
    exact (ascending_listed_append (adds.named.ofCurrent adds.inside) Config.isName_fileName
      adds.absent _ Config.chooses_fileName).1
  have once : (standardFiles written).count Config.pathHere = 1 := by
    apply List.count_eq_one_of_mem _ member
    rw [standardFiles_eq adds.added]
    exact nodup_ascending_listed _ _ _
  rw [List.filter_beq, once]
  rfl

theorem readText_written (adds : Config.Adds tree written entries) :
    ∀ path ∈ standardFiles tree, written.readText path = tree.readText path := by
  intro path member
  rw [standardFiles_eq adds.inside] at member
  obtain ⟨names, inEntries, rfl⟩ := mem_ascending_listed member
  exact FileTree.readText_pathOf adds.named adds.inside adds.added inEntries

theorem readText_pathHere (adds : Config.Adds tree written entries) :
    written.readText Config.pathHere = .ok Config.standardText :=
  FileTree.readText_new adds.added Config.isName_fileName Config.refusal?_pathHere adds.absent

theorem readable_written (adds : Config.Adds tree written entries) :
    (SourceFile.readable written (standardFiles written)).filter (·.path != Config.pathHere) =
      SourceFile.readable tree (standardFiles tree) := by
  rw [← SourceFile.readable_filter _ _ (· != Config.pathHere), filter_standardFiles adds]
  exact SourceFile.readable_congr (readText_written adds)

theorem readable_written_eq (adds : Config.Adds tree written entries) :
    (SourceFile.readable written (standardFiles written)).filter (·.path == Config.pathHere) =
      [Config.standardFile] := by
  rw [← SourceFile.readable_filter _ _ (· == Config.pathHere), filter_standardFiles_eq adds,
    SourceFile.readable, List.filterMap_cons, readText_pathHere adds]
  rfl

theorem unreadable_written (adds : Config.Adds tree written entries) :
    written.unreadable (standardFiles written) = tree.unreadable (standardFiles tree) := by
  rw [← filter_standardFiles adds, FileTree.unreadable, FileTree.unreadable,
    List.filterMap_filter]
  apply List.filterMap_congr
  intro path member
  by_cases same : path = Config.pathHere
  · rw [same, readText_pathHere adds]
    simp
  · have kept : path ∈ standardFiles tree := by
      rw [← filter_standardFiles adds, List.mem_filter]
      exact ⟨member, bne_iff_ne.mpr same⟩
    rw [readText_written adds path kept, if_pos (bne_iff_ne.mpr same)]

end FileSelection

namespace CheckRequest

open FileSelection (standardFiles)

variable {tree written : FileTree} {entries : Entries}

def standardCheck (tree : FileTree) (verbose fromFile : Bool) : ProjectCheck :=
  let settings := standardSettings fromFile
  { request := here verbose, settings
    selection := FileSelection.ofTree tree ['.'] settings.config.includes settings.config.ignores
    results := (standardFiles tree).map (FileResult.ofPath tree .auto) }

theorem run_here {fromFile : Bool} (inside : tree.HasCurrent entries) (verbose : Bool)
    (loaded : Config.load tree ['.'] = .ok { config := .standard, fromFile }) :
    (here verbose).run tree = .ok (standardCheck tree verbose fromFile) :=
  run_eq_ok (settings_here inside verbose loaded)

theorem checks_standardCheck (tree : FileTree) (verbose fromFile : Bool) :
    (standardCheck tree verbose fromFile).checks =
      (SourceFile.readable tree (standardFiles tree)).map (SourceFile.checked .auto) :=
  FileResult.filterMap_check?_ofPath _ _ _

variable (verbose : Bool)

theorem filter_checks (adds : Config.Adds tree written entries) :
    (standardCheck written verbose true).checks.filter (·.filePath != Config.pathHere) =
      (standardCheck tree verbose false).checks := by
  rw [checks_standardCheck, checks_standardCheck, List.filter_map,
    ← FileSelection.readable_written adds]
  rfl

theorem filter_checks_eq (adds : Config.Adds tree written entries) :
    (standardCheck written verbose true).checks.filter (·.filePath == Config.pathHere) =
      [Config.standardFile.checked .auto] := by
  have only := FileSelection.readable_written_eq adds
  rw [checks_standardCheck, List.filter_map]
  exact congrArg (List.map (SourceFile.checked .auto)) only

theorem length_checks (adds : Config.Adds tree written entries) :
    (standardCheck written verbose true).checks.length =
      (standardCheck tree verbose false).checks.length + 1 := by
  have split := (standardCheck written verbose true).checks.length_eq_length_filter_add
    (·.filePath == Config.pathHere)
  rw [filter_checks_eq verbose adds, List.length_singleton, Nat.add_comm] at split
  rw [split, ← filter_checks verbose adds]
  rfl

theorem issues_written (adds : Config.Adds tree written entries) :
    (standardCheck written verbose true).issues = (standardCheck tree verbose false).issues := by
  have silent : ∀ check ∈ (standardCheck written verbose true).checks,
      check.filePath = Config.pathHere →
        check.issues = [] ∧ check.sharedScope.occurrences = [] := by
    intro check member same
    have found : check ∈ [Config.standardFile.checked .auto] := by
      rw [← filter_checks_eq verbose adds, List.mem_filter]
      exact ⟨member, beq_iff_eq.mpr same⟩
    rw [List.mem_singleton.mp found]
    exact Config.silent_standardFile
  have left := FileCheck.allIssues_filter silent
  rw [filter_checks verbose adds] at left
  exact left.symm

theorem unreadable_written (adds : Config.Adds tree written entries) :
    (standardCheck written verbose true).unreadable =
      (standardCheck tree verbose false).unreadable := by
  have after : (standardCheck written verbose true).unreadable = _ := unreadable_of_results rfl
  have before : (standardCheck tree verbose false).unreadable = _ := unreadable_of_results rfl
  rw [after, before]
  exact FileSelection.unreadable_written adds

end CheckRequest

namespace CommandLine

/-- The tree that a command leaves behind.  A command that fails leaves it as it was. -/
def treeAfter (tree : FileTree) : Except RunError Effect → FileTree
  | .ok effect => effect.tree
  | .error _ => tree

variable {tree : FileTree} {entries : Entries}

theorem runInit_of_present (colouring : Colouring)
    (present : tree.contains Config.fileName = true) :
    runInit colouring tree = .error .configExists := by
  rw [runInit, if_pos present]

theorem runInit_of_absent (colouring : Colouring) (inside : tree.HasCurrent entries)
    (absent : entries.lookup Config.fileName = none) :
    ∃ effect, runInit colouring tree = .ok effect ∧
      effect.tree.HasCurrent (configured entries) := by
  have missing : ¬tree.contains Config.fileName = true := by
    rw [FileTree.contains_name inside Config.isName_fileName Config.refusal?_fileName, absent]
    exact Bool.false_ne_true
  obtain ⟨written, created, added⟩ := FileTree.createFile_new inside Config.isName_fileName
    Config.refusal?_fileName (by decide) absent (.text Config.standardText)
  rw [runInit, if_neg missing, created]
  exact ⟨_, rfl, added⟩

/-- Creating a configuration does not change what a check of the working directory finds, and
one more file is checked.  Where there is a configuration nothing is created. -/
theorem check_after_init (named : tree.Named) (inside : tree.HasCurrent entries)
    (colouring : Colouring) (verbose : Bool) :
    (tree.contains Config.fileName = true →
      runInit colouring tree = .error .configExists ∧
      treeAfter tree (runInit colouring tree) = tree) ∧
    (tree.contains Config.fileName = false →
      ∃ effect before after,
        runInit colouring tree = .ok effect ∧
        (CheckRequest.here verbose).run tree = .ok before ∧
        (CheckRequest.here verbose).run effect.tree = .ok after ∧
        after.issues = before.issues ∧
        after.unreadable = before.unreadable ∧
        (∃ status,
          (runCheck colouring tree (.here verbose)).map Effect.status = .ok status ∧
          (runCheck colouring effect.tree (.here verbose)).map Effect.status = .ok status) ∧
        after.checks.length = before.checks.length + 1 ∧
        before.checks = after.checks.filter (·.filePath != Config.pathHere)) := by
  constructor
  · intro present
    rw [runInit_of_present colouring present]
    exact ⟨rfl, rfl⟩
  · intro missing
    rw [FileTree.contains_name inside Config.isName_fileName Config.refusal?_fileName,
      Option.isSome_eq_false_iff, Option.isNone_iff_eq_none] at missing
    obtain ⟨effect, created, added⟩ := runInit_of_absent colouring inside missing
    have adds : Config.Adds tree effect.tree entries := ⟨named, inside, missing, added⟩
    have before :=
      CheckRequest.run_here inside verbose (Config.load_here_of_absent inside missing)
    have after := CheckRequest.run_here added verbose (Config.load_here_of_written added missing)
    have issues := CheckRequest.issues_written verbose adds
    refine ⟨effect, _, _, created, before, after, issues,
      CheckRequest.unreadable_written verbose adds, ⟨_, status_runCheck before colouring, ?_⟩,
      CheckRequest.length_checks verbose adds, (CheckRequest.filter_checks verbose adds).symm⟩
    rw [status_runCheck after, issues]

def unconfigured : Entries :=
  [("src".toList, directory [("a.rs".toList, file (.text "// REQUIRE: login".toList))]),
    ("logo.png".toList, file .binary)]

def onlyConfigured : Entries :=
  [(Config.fileName, file (.text "[]".toList))]

/-- A tree that is seen from its only directory. -/
def seenFrom (entries : Entries) : FileTree :=
  { root := directory [("work".toList, directory entries)], current := ["work".toList] }

theorem named_seenFrom (named : (directory entries).Named) : (seenFrom entries).Named :=
  FileEntry.named_nil.cons (by decide) named

theorem named_unconfigured : (directory unconfigured).Named := by
  have sources : (directory [("a.rs".toList, file (.text "// REQUIRE: login".toList))]).Named :=
    FileEntry.named_nil.cons (by decide) (.ofContent _)
  have image : (directory [("logo.png".toList, file .binary)]).Named :=
    FileEntry.named_nil.cons (by decide) (.ofContent _)
  exact image.cons (by decide) sources

theorem named_onlyConfigured : (directory onlyConfigured).Named :=
  FileEntry.named_nil.cons (by decide) (.ofContent _)

theorem check_after_init_unconfigured :
    (seenFrom unconfigured).Named ∧ (seenFrom unconfigured).HasCurrent unconfigured ∧
    (seenFrom unconfigured).contains Config.fileName = false ∧
    (∃ effect before after,
      runInit .plain (seenFrom unconfigured) = .ok effect ∧
      (CheckRequest.here false).run (seenFrom unconfigured) = .ok before ∧
      (CheckRequest.here false).run effect.tree = .ok after ∧
      after.issues = before.issues ∧
      after.unreadable = before.unreadable ∧
      (∃ status,
        (runCheck .plain (seenFrom unconfigured) (.here false)).map Effect.status = .ok status ∧
        (runCheck .plain effect.tree (.here false)).map Effect.status = .ok status) ∧
      after.checks.length = before.checks.length + 1 ∧
      before.checks = after.checks.filter (·.filePath != Config.pathHere)) ∧
    (seenFrom onlyConfigured).Named ∧ (seenFrom onlyConfigured).HasCurrent onlyConfigured ∧
    (seenFrom onlyConfigured).contains Config.fileName = true ∧
    runInit .plain (seenFrom onlyConfigured) = .error .configExists ∧
    treeAfter (seenFrom onlyConfigured) (runInit .plain (seenFrom onlyConfigured)) =
      seenFrom onlyConfigured :=
  ⟨named_seenFrom named_unconfigured, rfl, rfl,
    (check_after_init (named_seenFrom named_unconfigured) rfl .plain false).2 rfl,
    named_seenFrom named_onlyConfigured, rfl, rfl,
    (check_after_init (named_seenFrom named_onlyConfigured) rfl .plain false).1 rfl⟩

end CommandLine
end Traceability
