import Traceability.Issue.Basic
import Traceability.Report.Style
import Traceability.Text.Width

/-!
The report of issues on a terminal.

Each issue is shown with its place, the source line and a caret under the first
character of the identifier's part of the line.  The numbers of all lines are as wide
as the widest one.  A summary follows the last issue.

The caret is moved to the right by any number of columns.  A formatter that keeps a width in
16 bits has no report where the columns before the caret are more than 65535; there the text is
the one that it would have without this limit.
-/

namespace Traceability.Report

open Style (paint ofColour)

def severityStyle : Severity → Style
  | .error => { bold := true, colour := some .red }
  | .warning => { bold := true, colour := some .yellow }

def caretStyle : Severity → Style
  | .error => ofColour .red
  | .warning => ofColour .yellow

def spaces (count : Nat) : Text :=
  List.replicate count ' '

def bar (colouring : Colouring) : Text :=
  paint colouring (ofColour .blue) ['|']

def headline (colouring : Colouring) (issue : Issue) : Text :=
  paint colouring (severityStyle issue.severity) issue.severity.name ++ ": ".toList ++
    issue.message ++ "  ".toList ++
    paint colouring { dimmed := true, colour := some .cyan } issue.kind.name ++ ['\n']

def placeLine (colouring : Colouring) (issue : Issue) : Text :=
  "  ".toList ++ paint colouring (ofColour .blue) "-->".toList ++ ' ' :: issue.location.location ++
    ['\n']

def sourceLines (colouring : Colouring) (margin : Nat) (issue : Issue) : Text :=
  spaces margin ++ ' ' :: bar colouring ++ '\n' ::
    paint colouring (ofColour .blue) (Text.padLeft margin (Text.ofNat issue.location.line)) ++
    ' ' :: bar colouring ++ ' ' :: issue.location.sourceLine ++ ['\n']

/-- The columns on the terminal before the reported place. -/
def caretColumns (issue : Issue) : Nat :=
  Text.width (issue.location.sourceLine.take (issue.location.col - 1))

def caretLine (colouring : Colouring) (margin : Nat) (issue : Issue) : Text :=
  spaces margin ++ ' ' :: bar colouring ++ ' ' :: spaces (caretColumns issue) ++
    paint colouring (caretStyle issue.severity) ['^'] ++ ['\n']

def noteLine (colouring : Colouring) (margin : Nat) (note : Text) : Text :=
  spaces margin ++ ' ' :: paint colouring (ofColour .blue) ['='] ++
    ' ' :: paint colouring { bold := true } "note:".toList ++ ' ' :: note ++ ['\n']

def issueText (colouring : Colouring) (margin : Nat) (issue : Issue) : Text :=
  headline colouring issue ++ placeLine colouring issue ++ sourceLines colouring margin issue ++
    caretLine colouring margin issue ++ issue.details.flatMap (noteLine colouring margin) ++
    ['\n']

def plural (count : Nat) (one several : String) : Text :=
  if count = 1 then one.toList else several.toList

def summary (colouring : Colouring) (issues : List Issue) : Text :=
  let errors := Issue.countSeverity .error issues
  let warnings := issues.length - errors
  paint colouring (ofColour .red) "\u2718".toList ++ ' ' :: Text.ofNat issues.length ++
    " problems (".toList ++ Text.ofNat errors ++
    ' ' :: paint colouring (ofColour .red) (plural errors "error" "errors") ++ ", ".toList ++
    Text.ofNat warnings ++
    ' ' :: paint colouring (ofColour .yellow) (plural warnings "warning" "warnings") ++
    ")\n".toList

def marginOf (issues : List Issue) : Nat :=
  (Text.ofNat ((issues.map fun issue => issue.location.line).foldl max 0)).length

/-- The issues in order, and a summary.  Without issues there is no text. -/
def ofIssues (colouring : Colouring) (issues : List Issue) : Text :=
  if issues.isEmpty then
    []
  else
    let sorted := Issue.sortForReport issues
    sorted.flatMap (issueText colouring (marginOf sorted)) ++ summary colouring sorted

def success (colouring : Colouring) (files : Nat) : Text :=
  paint colouring (ofColour .green) "\u2713".toList ++
    ' ' :: paint colouring (ofColour .green)
      ("Checked ".toList ++ Text.ofNat files ++ ' ' :: plural files "file" "files" ++
        " - no issues found".toList) ++ ['\n']

/-- What is said about files that could not be read, unless each was named already. -/
def unreadable (colouring : Colouring) (count : Nat) (verbose : Bool) : Text :=
  if count > 0 && !verbose then
    paint colouring { bold := true, colour := some .yellow } "warning:".toList ++
      ' ' :: Text.ofNat count ++ " file(s) could not be read (use ".toList ++
      paint colouring (ofColour .cyan) "-v".toList ++ " for details)\n".toList
  else
    []

def filesScanned (colouring : Colouring) (files : Nat) : Text :=
  paint colouring { dimmed := true } (Text.ofNat files ++ " file(s) scanned".toList) ++ ['\n']

end Traceability.Report
