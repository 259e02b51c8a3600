import Traceability.Check.File
import Traceability.Config.Discovery
import Traceability.Project.Diagnostic
import Traceability.Project.FileSelection

/-!
The check of a whole project.

The request names a file or directory.  Its configuration is loaded, and what the
request itself says takes its place.  The chosen files are read and checked in
ascending order of their paths; a file that is no text is set aside.
-/

namespace Traceability

/-- What is to be checked.  Patterns and language that are given override the
configuration. -/
structure CheckRequest where
  path : Text := ['.']
  lang : Option LanguageChoice := none
  includes : List Text := []
  excludes : List Text := []
  verbose : Bool := false
  deriving DecidableEq, Repr

inductive RunError
  | config (error : ConfigError)
  | configExists
  | access (error : AccessError)
  | serverCommand
  | fault (fault : Fault)
  deriving DecidableEq, Repr

def RunError.message : RunError → Text
  | config error => error.message
  | configExists => Config.fileName ++ " already exists".toList
  | access error => error.message
  | serverCommand => "Serve command should be handled before run()".toList
  | fault _ => "inconsistent positions".toList

structure CheckSettings where
  config : Config
  fromFile : Bool
  choice : LanguageChoice
  deriving DecidableEq, Repr

inductive FileResult
  | checked (check : FileCheck)
  | unreadable (filePath : Text) (error : AccessError)

namespace FileResult

def check? : FileResult → Option FileCheck
  | checked check => some check
  | unreadable _ _ => none

def unreadable? : FileResult → Option (Text × AccessError)
  | checked _ => none
  | unreadable filePath error => some (filePath, error)

def remarks : FileResult → List Diagnostic
  | checked check =>
      (if check.counts.hasLocal || check.counts.hasShared then
        [.tags check.filePath check.counts] else []) ++
      (check.unterminated.map fun block =>
        .unterminatedBlock check.filePath block.startLine block.startCol).toList
  | unreadable filePath error => [.unreadable filePath error]

end FileResult

structure ProjectCheck where
  request : CheckRequest
  settings : CheckSettings
  selection : FileSelection
  results : List FileResult

def FileSelection.remarks (selection : FileSelection) : List Diagnostic :=
  selection.rejected.map (fun (pattern, error) => .invalidPattern pattern error) ++
    selection.inaccessible.map (fun (path, error) => .inaccessible path error)

namespace ProjectCheck

def checks (project : ProjectCheck) : List FileCheck :=
  project.results.filterMap (·.check?)

def unreadable (project : ProjectCheck) : List (Text × AccessError) :=
  project.results.filterMap (·.unreadable?)

def global (project : ProjectCheck) : ProjectPairing :=
  ProjectPairing.ofChecks project.checks

/-- The issues of each file, then those of all files together. -/
def issues (project : ProjectCheck) : List Issue :=
  project.checks.flatMap (·.issues) ++ project.global.issues

def counts (project : ProjectCheck) : TagCounts :=
  project.checks.foldl (fun total check => total.add check.counts) {}

def openingRemarks (project : ProjectCheck) : List Diagnostic :=
  let verbose := project.request.verbose
  let config := project.settings.config
  (if verbose then
    (if project.settings.fromFile then [] else [.noConfigFile Config.fileName]) ++
      [.language config.lang, .includes config.includes, .ignores config.ignores] ++
      project.selection.remarks
  else []) ++
    (if project.selection.inaccessible.isEmpty then []
    else [.skipped project.selection.inaccessible.length verbose])

def fileRemarks (project : ProjectCheck) : List Diagnostic :=
  if project.request.verbose then project.results.flatMap (·.remarks) else []

end ProjectCheck

namespace CheckRequest

/-- The path from which the configuration is searched: the directory of a file, and
every other path itself. -/
def configStart (tree : FileTree) (request : CheckRequest) : Text :=
  if tree.containsFile request.path then
    (Path.parent? request.path).getD ['.']
  else
    request.path

def override (given configured : List Text) : List Text :=
  if given.isEmpty then configured else given

def settings (tree : FileTree) (request : CheckRequest) : Except RunError CheckSettings :=
  match Config.load tree (request.configStart tree) with
  | .error error => .error (.config error)
  | .ok loaded => do
      let choice ←
        match request.lang with
        | some choice => pure choice
        | none => loaded.config.choice.mapError .config
      return { config := { includes := override request.includes loaded.config.includes
                           ignores := override request.excludes loaded.config.ignores
                           lang := choice.name }
               fromFile := loaded.fromFile, choice }

def checkOne (tree : FileTree) (choice : LanguageChoice) (filePath : Text) :
    Except Fault FileResult :=
  match tree.readText filePath with
  | .error error => .ok (.unreadable filePath error)
  | .ok source => (FileCheck.ofSource source filePath choice).map .checked

def run (tree : FileTree) (request : CheckRequest) : Except RunError ProjectCheck := do
  let settings ← request.settings tree
  let selection := FileSelection.ofTree tree request.path settings.config.includes
    settings.config.ignores
  let results ← (selection.files.mapM (checkOne tree settings.choice)).mapError .fault
  return { request, settings, selection, results }

end CheckRequest
end Traceability
