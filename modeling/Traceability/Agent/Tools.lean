import Traceability.Project.Check

/-!
The tools that a coding agent calls.

A tool takes its parameters as a JSON object, or as an array of all of them in order,
and answers with a JSON text.  The issues of a project are listed in pages.
-/

namespace Traceability.Agent

inductive ToolError
  | parameters
  | loading (error : ConfigError)
  | initializing (error : RunError)
  deriving DecidableEq, Repr

namespace ToolError

def internalCode : Int :=
  -32603

def message : ToolError → Text
  | parameters => "Invalid parameters".toList
  | loading error => "Failed to load config: ".toList ++ error.message
  | initializing error => "Failed to initialize: ".toList ++ error.message

end ToolError

def instructions : Text :=
  ("Reqsat MCP helps AI agents keep REQUIRE / SATISFIED comment annotations in sync.\n\n" ++
    "A `REQUIRE: <id>` comment must be matched by a `SATISFIED: <id>` comment in the same file.\n" ++
    "Qualified annotations such as `REQUIRE(extern): <id>` are matched across all files.\n\n" ++
    "Available tools:\n" ++
    "1. get_config - Get project configuration\n" ++
    "2. scan_overview - Get annotation counts and issue counts per kind\n" ++
    "3. scan_issues - Get detailed issue list (paginated, optional kind filter)\n\n" ++
    "Recommended Workflow:\n" ++
    "1. Use scan_overview to understand the overall state\n" ++
    "2. Fix missing-satisfied and missing-require errors first\n" ++
    "3. Then remove duplicated annotations (the first occurrence is the one kept)").toList

/-! ### Parameters -/

def nullable? {α : Type} (decode : Json → Option α) : Json → Option (Option α)
  | .null => some none
  | value => (decode value).map some

/-- A parameter that may be left out or be null. -/
def optional? {α : Type} (parameters : Json) (name : String) (decode : Json → Option α) :
    Option (Option α) :=
  nullable? decode ((parameters.member? name).getD .null)

def rootPath? (parameters : Json) : Option Text :=
  (parameters.member? "projectRootPath").bind Json.text?

def onlyRootPath? : Json → Option Text
  | .array [rootPath] => rootPath.text?
  | .array _ => none
  | parameters => rootPath? parameters

def word32? (value : Json) : Option Nat :=
  value.nat?.filter (· < UInt32.size)

/-- The kind of issue that a value names: its name, or an object whose only member has
that name and no value. -/
def issueKind? : Json → Option IssueKind
  | .string (some name) => IssueKind.ofName? name
  | .object [(some name, .null)] => IssueKind.ofName? name
  | _ => none

structure IssueQuery where
  rootPath : Text
  kind : Option IssueKind
  limit : Option Nat
  offset : Option Nat
  deriving DecidableEq, Repr

def IssueQuery.ofJson? : Json → Option IssueQuery
  | .array [rootPath, kind, limit, offset] => do
      return { rootPath := ← rootPath.text?
               kind := ← nullable? issueKind? kind
               limit := ← nullable? word32? limit
               offset := ← nullable? word32? offset }
  | .array _ => none
  | parameters => do
      return { rootPath := ← rootPath? parameters
               kind := ← optional? parameters "kind" issueKind?
               limit := ← optional? parameters "limit" word32?
               offset := ← optional? parameters "offset" word32? }

/-! ### Pages -/

structure IssuePage where
  total : Nat
  issues : List Issue
  offset : Nat
  limit : Nat
  hasMore : Bool
  deriving DecidableEq, Repr

def defaultLimit : Nat :=
  20

def maximalLimit : Nat :=
  100

def pageLimit (requested : Option Nat) : Nat :=
  min (requested.getD defaultLimit) maximalLimit

def ofKind (kind : Option IssueKind) (issues : List Issue) : List Issue :=
  issues.filter fun issue => kind.all (issue.kind == ·)

def pageOf (issues : List Issue) (offset limit : Nat) : IssuePage :=
  let page := (issues.drop offset).take limit
  { total := issues.length, issues := page, offset, limit,
    hasMore := offset + page.length < issues.length }

def issuePage (project : ProjectCheck) (query : IssueQuery) : IssuePage :=
  pageOf (ofKind query.kind (Issue.sortForReport project.issues)) (query.offset.getD 0)
    (pageLimit query.limit)

/-! ### Answers -/

def itemJson (issue : Issue) : Json :=
  .ofMembers ([("kind", .ofText issue.kind.name), ("severity", .ofText issue.severity.name),
    ("message", .ofText issue.message), ("filePath", .ofText issue.location.filePath),
    ("line", .ofNat issue.location.line), ("col", .ofNat issue.location.col),
    ("id", .ofText issue.location.id)] ++
    (issue.keptPlace?.map fun place => ("firstDefinedAt", Json.ofText place)).toList)

def IssuePage.toJson (page : IssuePage) : Json :=
  .ofMembers [("totalCount", .ofNat page.total), ("items", .array (page.issues.map itemJson)),
    ("pagination", .ofMembers [("offset", .ofNat page.offset), ("limit", .ofNat page.limit),
      ("hasMore", .boolean page.hasMore)])]

def tagCountsJson (counts : TagCounts) : Json :=
  .ofMembers [("localRequire", .ofNat counts.localRequire),
    ("localSatisfied", .ofNat counts.localSatisfied),
    ("externalRequire", .ofNat counts.sharedRequire),
    ("externalSatisfied", .ofNat counts.sharedSatisfied)]

def issueCountsJson (counts : IssueCounts) : Json :=
  .ofMembers [("totalCount", .ofNat counts.total), ("errorCount", .ofNat counts.errors),
    ("warningCount", .ofNat counts.warnings),
    ("duplicatedRequire", .ofNat counts.duplicatedRequire),
    ("duplicatedSatisfied", .ofNat counts.duplicatedSatisfied),
    ("missingSatisfied", .ofNat counts.missingSatisfied),
    ("missingRequire", .ofNat counts.missingRequire)]

def overviewJson (project : ProjectCheck) : Json :=
  .ofMembers [("filesChecked", .ofNat project.checks.length),
    ("unreadableFiles", .ofTexts (project.unreadable.map (·.1))),
    ("annotations", tagCountsJson project.counts),
    ("issues", issueCountsJson (.ofIssues project.issues))]

/-! ### Tools -/

def expect {α : Type} : Option α → Except ToolError α
  | some value => .ok value
  | none => .error .parameters

def checkAt (tree : FileTree) (rootPath : Text) : Except ToolError ProjectCheck :=
  (CheckRequest.run tree { path := rootPath }).mapError .initializing

def configTool (tree : FileTree) (parameters : Json) : Except ToolError Json := do
  let rootPath ← expect (onlyRootPath? parameters)
  let loaded ← (Config.load tree rootPath).mapError .loading
  return .ofMembers [("fromFile", .boolean loaded.fromFile), ("config", loaded.config.toJson)]

def overviewTool (tree : FileTree) (parameters : Json) : Except ToolError Json := do
  let rootPath ← expect (onlyRootPath? parameters)
  return overviewJson (← checkAt tree rootPath)

/-- The page that a query asks for.  Every query checks the project anew. -/
def scanIssues (tree : FileTree) (query : IssueQuery) : Except ToolError IssuePage := do
  return issuePage (← checkAt tree query.rootPath) query

def issuesTool (tree : FileTree) (parameters : Json) : Except ToolError Json := do
  let query ← expect (IssueQuery.ofJson? parameters)
  return (← scanIssues tree query).toJson

end Traceability.Agent
