import Traceability.Config.Basic
import Traceability.FileTree.Basic
import Traceability.Text.Quoted

/-!
Where the configuration of a directory is found.

The directory and those above it are searched for the configuration file, from the
inside out.  A directory that is the root of a repository is the last one searched.
-/

namespace Traceability

def ConfigError.message : ConfigError → Text
  | unreadable path => "Failed to read config file: ".toList ++ Text.quoted path
  | malformed path => "Failed to parse config file: ".toList ++ Text.quoted path
  | invalidIgnore pattern =>
      "Invalid glob pattern in 'ignores': \"".toList ++ pattern ++ ['\x22']
  | invalidInclude pattern =>
      "Invalid glob pattern in 'includes': \"".toList ++ pattern ++ ['\x22']
  | unknownLanguage lang => "Unknown language in 'lang': \"".toList ++ lang ++ ['\x22']

namespace Config

/-- The entry that marks the root of a repository. -/
def repositoryMark : Text :=
  ".git".toList

/-- The configuration file of the first directory that has one, provided that no
directory before it is the root of a repository. -/
def findIn (tree : FileTree) : List Text → Option Text
  | [] => none
  | directory :: others =>
      if tree.contains (Path.join directory fileName) then
        some (Path.join directory fileName)
      else if tree.contains (Path.join directory repositoryMark) then
        none
      else
        findIn tree others

def find? (tree : FileTree) (start : Text) : Option Text :=
  findIn tree (Path.ancestors start)

structure Loaded where
  config : Config
  fromFile : Bool
  deriving DecidableEq, Repr

def read (tree : FileTree) (path : Text) : Except ConfigError Config :=
  match tree.readText path with
  | .error _ => .error (.unreadable path)
  | .ok content =>
      match parse? content with
      | none => .error (.malformed path)
      | some config => config.validate.map fun _ => config

def load (tree : FileTree) (start : Text) : Except ConfigError Loaded :=
  match find? tree start with
  | none => .ok { config := standard, fromFile := false }
  | some path => (read tree path).map fun config => { config, fromFile := true }

end Config
end Traceability
