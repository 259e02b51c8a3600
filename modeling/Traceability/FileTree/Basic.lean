import Traceability.Path

/-!
A tree of files and directories, seen from its current directory.

A path that starts with `/` begins at the root of the tree, and every other one at the
current directory.  The segment `..` leads to the directory above, and from the root to
the root itself.  A path that goes on after a file leads nowhere, even if it only adds a
separator.  Names and paths have a greatest length, and no path has a character of code
zero.

A listing goes down by names, so no path is too long for it.  Entries that are neither files nor
directories are never listed.  Links to other places and permissions are left out: every entry
is where its directory says, and it may be read.
-/

namespace Traceability

/-- What a file holds: text, or bytes that are no text. -/
inductive FileContent
  | text (content : Text)
  | binary
  deriving DecidableEq, Repr

def FileContent.ofBytes (bytes : ByteArray) : FileContent :=
  match String.fromUTF8? bytes with
  | some content => .text content.toList
  | none => .binary

inductive AccessError
  | notFound
  | notADirectory
  | isADirectory
  | alreadyExists
  | nameTooLong
  | nullInPath
  | invalidArgument
  | notText
  deriving DecidableEq, Repr

namespace AccessError

def message : AccessError → Text
  | notFound => "No such file or directory (os error 2)".toList
  | notADirectory => "Not a directory (os error 20)".toList
  | isADirectory => "Is a directory (os error 21)".toList
  | alreadyExists => "File exists (os error 17)".toList
  | nameTooLong => "File name too long (os error 36)".toList
  | nullInPath => "file name contained an unexpected NUL byte".toList
  | invalidArgument => "Invalid argument (os error 22)".toList
  | notText => "stream did not contain valid UTF-8".toList

end AccessError

/-- What a directory has under a name. -/
inductive FileEntry
  | file (content : FileContent)
  | directory (entries : List (Text × FileEntry))
  /-- A device, a pipe or a socket, with what reading it gives. -/
  | special (reading : Except AccessError Text)

/-- The entries from the root on, and the names that lead from there to the current
directory. -/
structure FileTree where
  root : FileEntry
  current : List Text := []

def maximalNameLength : Nat :=
  255

def maximalPathLength : Nat :=
  4095

def absence (name : Text) : AccessError :=
  if name.byteLength ≤ maximalNameLength then .notFound else .nameTooLong

namespace FileEntry

def isFile : FileEntry → Bool
  | file _ => true
  | _ => false

def isDirectory : FileEntry → Bool
  | directory _ => true
  | _ => false

/-! ### Looking up -/

def descend (entry : FileEntry) : List Text → Except AccessError FileEntry
  | [] => .ok entry
  | name :: names =>
      match entry with
      | directory entries =>
          match entries.lookup name with
          | some inner => inner.descend names
          | none => .error (absence name)
      | _ => .error .notADirectory

/-- The names that lead from the root to where a segment leads from the place of other names. -/
def enter (root : FileEntry) (names : List Text) (segment : Text) :
    Except AccessError (List Text) :=
  match root.descend names with
  | .error error => .error error
  | .ok (directory entries) =>
      if Path.isRedundant segment then .ok names
      else if Path.isAbove segment then .ok names.dropLast
      else if (entries.lookup segment).isSome then .ok (names ++ [segment])
      else .error (absence segment)
  | .ok _ => .error .notADirectory

def resolve (root : FileEntry) (names segments : List Text) : Except AccessError (List Text) :=
  segments.foldlM root.enter names

/-! ### Listing -/

mutual

/-- The names that lead from the entry to each file in it. -/
def filesBelow : FileEntry → List (List Text)
  | file _ => [[]]
  | directory entries => filesOfEntries entries
  | special _ => []

def filesOfEntries : List (Text × FileEntry) → List (List Text)
  | [] => []
  | (name, entry) :: others =>
      (filesBelow entry).map (name :: ·) ++ filesOfEntries others

end

end FileEntry

namespace FileTree

def empty : FileTree :=
  { root := .directory [] }

def refusal? (path : Text) : Option AccessError :=
  if path.contains '\x00' then some .nullInPath
  else if path.isEmpty then some .notFound
  else if maximalPathLength < path.byteLength then some .nameTooLong
  else none

/-- The names that lead from the root to where a path begins. -/
def origin (tree : FileTree) : Text → List Text
  | '/' :: _ => []
  | _ => tree.current

def locate (tree : FileTree) (path : Text) : Except AccessError (List Text) :=
  match refusal? path with
  | some error => .error error
  | none => tree.root.resolve (tree.origin path) (Path.segments path)

def get (tree : FileTree) (path : Text) : Except AccessError FileEntry :=
  (tree.locate path).bind tree.root.descend

def contains (tree : FileTree) (path : Text) : Bool :=
  (tree.get path).isOk

def containsFile (tree : FileTree) (path : Text) : Bool :=
  match tree.get path with
  | .ok entry => entry.isFile
  | .error _ => false

def containsDirectory (tree : FileTree) (path : Text) : Bool :=
  match tree.get path with
  | .ok entry => entry.isDirectory
  | .error _ => false

def readText (tree : FileTree) (path : Text) : Except AccessError Text :=
  match tree.get path with
  | .ok (.file (.text content)) => .ok content
  | .ok (.file .binary) => .error .notText
  | .ok (.directory _) => .error .isADirectory
  | .ok (.special reading) => reading
  | .error error => .error error

end FileTree
end Traceability
