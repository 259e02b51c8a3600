import Traceability.CommandLine.Arguments
import Traceability.FileTree.Change
import Traceability.Report.Issues

/-!
Running a command on a tree of files.

A check prints its report, and it fails when an issue is an error.  Creating a
configuration writes the standard one, unless there is one.
-/

namespace Traceability.CommandLine

inductive ExitStatus
  | success
  | failure
  deriving DecidableEq, Repr

def ExitStatus.code : ExitStatus → Nat
  | success => 0
  | failure => 1

/-- The issues of a check in the order of a report, with their number by severity. -/
structure CheckResult where
  issues : List Issue
  errors : Nat
  warnings : Nat
  deriving DecidableEq, Repr

def CheckResult.ofIssues (issues : List Issue) : CheckResult :=
  let sorted := Issue.sortForReport issues
  let errors := Issue.countSeverity .error sorted
  { issues := sorted, errors, warnings := sorted.length - errors }

def CheckResult.status (result : CheckResult) : ExitStatus :=
  if result.errors > 0 then .failure else .success

/-- What a command leaves behind: its exit status, what it printed, and the tree. -/
structure Effect where
  status : ExitStatus
  stdout : Text
  stderr : Text
  tree : FileTree

def overview : Text :=
  ("A fast CLI tool for checking REQUIRE/SATISFIED traceability annotations in source comments\n" ++
    "\n" ++
    "Usage: reqsat [COMMAND]\n" ++
    "\n" ++
    "Commands:\n" ++
    "  check  Check REQUIRE / SATISFIED annotations for missing and duplicated pairs\n" ++
    "  init   Initialize a new .reqsatrc.json configuration file\n" ++
    "  serve  Start MCP server for AI coding agents\n" ++
    "  help   Print this message or the help of the given subcommand(s)\n" ++
    "\n" ++
    "Options:\n" ++
    "  -h, --help     Print help\n" ++
    "  -V, --version  Print version\n").toList

def version : Text :=
  "reqsat 0.1.0\n".toList

def checkOutput (colouring : Colouring) (result : CheckResult) (files : Nat) : Text :=
  if result.issues.isEmpty then
    Report.success colouring files
  else
    Report.ofIssues colouring result.issues ++ Report.filesScanned colouring files

def runCheck (colouring : Colouring) (tree : FileTree) (request : CheckRequest) :
    Except RunError Effect := do
  let project ← request.run tree
  let result := CheckResult.ofIssues project.issues
  return { status := result.status
           stdout := checkOutput colouring result project.checks.length
           stderr := Diagnostic.textOfAll colouring
               (project.openingRemarks ++ project.fileRemarks) ++
             Report.unreadable colouring project.unreadable.length request.verbose
           tree }

def runInit (colouring : Colouring) (tree : FileTree) : Except RunError Effect := do
  if tree.contains Config.fileName then
    .error .configExists
  else
    let written ←
      (tree.createFile Config.fileName (.text Config.standardText)).mapError .access
    let mark := Style.paint colouring (Style.ofColour .green) "\u2713".toList
    let created := Style.paint colouring (Style.ofColour .green)
      ("Created ".toList ++ Config.fileName)
    return { status := .success, stdout := mark ++ ' ' :: created ++ ['\n'], stderr := [],
             tree := written }

def run (colouring : Colouring) (tree : FileTree) : Command → Except RunError Effect
  | .overview => .ok { status := .success, stdout := overview, stderr := [], tree }
  | .check request => runCheck colouring tree request
  | .init => runInit colouring tree
  | .serve => .error .serverCommand

end Traceability.CommandLine
