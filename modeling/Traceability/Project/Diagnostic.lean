import Traceability.FileTree.Basic
import Traceability.Glob.Pattern
import Traceability.Report.Style
import Traceability.Scope.Basic

/-!
What a run says about itself beside its report.
-/

namespace Traceability

inductive Diagnostic
  | noConfigFile (fileName : Text)
  | language (name : Text)
  | includes (patterns : List Text)
  | ignores (patterns : List Text)
  | invalidPattern (pattern : Text) (error : GlobError)
  | inaccessible (path : Text) (error : AccessError)
  /-- How many places could not be entered; `named` says that each was named. -/
  | skipped (count : Nat) (named : Bool)
  | tags (filePath : Text) (counts : TagCounts)
  | unterminatedBlock (filePath : Text) (line col : Nat)
  | unreadable (filePath : Text) (error : AccessError)
  deriving DecidableEq, Repr

namespace Diagnostic

def dim (colouring : Colouring) (text : Text) : Text :=
  Style.paint colouring { dimmed := true } text

def warning (colouring : Colouring) : Text :=
  Style.paint colouring { bold := true, colour := some .yellow } "warning:".toList

def ratio (satisfied require : Nat) : Text :=
  Text.ofNat satisfied ++ '/' :: Text.ofNat require

def sentence (colouring : Colouring) : Diagnostic → Text
  | noConfigFile fileName =>
      "Note: No ".toList ++ fileName ++ " found, using default configuration".toList
  | language name => dim colouring ("lang=".toList ++ name)
  | includes patterns => dim colouring ("include=".toList ++ Text.join [','] patterns)
  | ignores patterns => dim colouring ("exclude=".toList ++ Text.join [','] patterns)
  | invalidPattern pattern error =>
      warning colouring ++ " Invalid glob pattern '".toList ++ pattern ++ "': ".toList ++
        error.message
  | inaccessible path error =>
      warning colouring ++ " Cannot access path: IO error for operation on ".toList ++ path ++
        ": ".toList ++ error.message
  | skipped count named =>
      "Warning: ".toList ++ Text.ofNat count ++
        " path(s) skipped due to access errors".toList ++
        (if named then [] else " (use -v for details)".toList)
  | tags filePath counts =>
      dim colouring (filePath ++ " local ".toList ++
        ratio counts.localSatisfied counts.localRequire ++ " extern ".toList ++
        ratio counts.sharedSatisfied counts.sharedRequire)
  | unterminatedBlock filePath line col =>
      dim colouring (filePath ++ ':' :: Text.ofNat line ++ ':' :: Text.ofNat col ++
        " unterminated block comment ignored".toList)
  | unreadable filePath error =>
      "Warning: ".toList ++ filePath ++ " - ".toList ++ error.message

def textOfAll (colouring : Colouring) (remarks : List Diagnostic) : Text :=
  remarks.flatMap fun remark => remark.sentence colouring ++ ['\n']

end Diagnostic
end Traceability
