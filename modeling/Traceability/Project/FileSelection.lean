import Traceability.FileTree.Basic
import Traceability.Glob.Pattern
import Traceability.TextTable

/-!
The files of a project.

A pattern with `*` or `?` is a glob over the whole path; any other pattern names a file
or a directory with all that it holds.  Paths are taken relative to the root; a root
that is a file is known by its own path.  A file is chosen when some
pattern includes it and none ignores it.
-/

namespace Traceability

inductive FileFilter
  | below (front : Text)
  | glob (pattern : GlobPattern)
  deriving DecidableEq, Repr

namespace FileFilter

def isWildcard (c : Char) : Bool :=
  c == '*' || c == '?'

def parse (pattern : Text) : Except GlobError FileFilter :=
  if pattern.any isWildcard then
    (GlobPattern.parse pattern).map .glob
  else
    .ok (.below pattern)

def accepts : FileFilter → Text → Bool
  | below front, relative => Path.startsWith relative front
  | glob pattern, relative => pattern.isMatch relative

def ofPatterns (patterns : List Text) : List FileFilter :=
  patterns.filterMap fun pattern => (parse pattern).toOption

def rejected (patterns : List Text) : List (Text × GlobError) :=
  patterns.filterMap fun pattern =>
    match parse pattern with
    | .ok _ => none
    | .error error => some (pattern, error)

end FileFilter

/-- The chosen files in ascending order, the places that could not be entered, and
the patterns that could not be used. -/
structure FileSelection where
  files : List Text
  inaccessible : List (Text × AccessError)
  rejected : List (Text × GlobError)
  deriving DecidableEq, Repr

namespace FileSelection

def pathOf (root : Text) (names : List Text) : Text :=
  names.foldl Path.join root

def relativePath (root : Text) (names : List Text) : Text :=
  if names.isEmpty then root else Text.join ['/'] names

def chooses (includes ignores : List FileFilter) (relative : Text) : Bool :=
  !ignores.any (·.accepts relative) && includes.any (·.accepts relative)

def ascending (paths : List Text) : List Text :=
  (paths.foldl (fun table path => table.insert path ()) TextTable.empty).keys

def chosen (entry : FileEntry) (root : Text) (includes ignores : List FileFilter) : List Text :=
  ascending ((entry.filesBelow.filter fun names =>
    chooses includes ignores (relativePath root names)).map (pathOf root))

def ofTree (tree : FileTree) (root : Text) (includes ignores : List Text) : FileSelection :=
  let rejected := FileFilter.rejected includes ++ FileFilter.rejected ignores
  match tree.get root with
  | .error error => { files := [], inaccessible := [(root, error)], rejected }
  | .ok entry =>
      { files := chosen entry root (FileFilter.ofPatterns includes)
          (FileFilter.ofPatterns ignores)
        inaccessible := [], rejected }

end FileSelection
end Traceability
