import Traceability.FileTree.Basic

/-!
Changes of a tree of files.

A change of one entry happens as a whole or not at all, and the directory around what is made has
to be there.  A change of several entries can end early, and what it has done by then
stays done.
-/

namespace Traceability

abbrev FileEntry.Entries := List (Text × FileEntry)

open FileEntry (Entries)

/-! ### One entry -/

namespace FileEntry

def setEntry (name : Text) (entry : FileEntry) : Entries → Entries
  | [] => [(name, entry)]
  | (other, current) :: rest =>
      if other == name then (name, entry) :: rest else (other, current) :: setEntry name entry rest

def addEntry (name : Text) (entry : FileEntry) (entries : Entries) :
    Except AccessError Entries :=
  match absence name with
  | .notFound => .ok (setEntry name entry entries)
  | error => .error error

/-! What becomes of the entries of a directory by a change of the last segment of a path. -/

def makeEnding (ending : Path.Ending) (entries : Entries) : Except AccessError Entries :=
  if Path.isReserved ending.last || (entries.lookup ending.last).isSome then
    .error .alreadyExists
  else
    addEntry ending.last (directory []) entries

/-- A path with a separator at its end names no file, and a special entry stays what it
is. -/
def writeEnding (content : FileContent) (ending : Path.Ending) (entries : Entries) :
    Except AccessError Entries :=
  if Path.isReserved ending.last || ending.isOpen then
    .error .isADirectory
  else
    match entries.lookup ending.last with
    | some (directory _) => .error .isADirectory
    | some (special _) => .ok entries
    | some (file _) => .ok (setEntry ending.last (file content) entries)
    | none => addEntry ending.last (file content) entries

def removeEnding (ending : Path.Ending) (entries : Entries) : Except AccessError Entries :=
  if Path.isReserved ending.last then
    .error .invalidArgument
  else
    match entries.lookup ending.last with
    | some _ => .ok (entries.filter fun (other, _) => other != ending.last)
    | none => .error (absence ending.last)

def changeAt (change : Entries → Except AccessError Entries) :
    List Text → FileEntry → Except AccessError FileEntry
  | [], directory entries => (change entries).map directory
  | name :: names, directory entries =>
      match entries.lookup name with
      | some entry =>
          (changeAt change names entry).map fun changed =>
            directory (setEntry name changed entries)
      | none => .error (absence name)
  | _, _ => .error .notADirectory

end FileEntry

namespace FileTree

def changeAt (tree : FileTree) (change : Entries → Except AccessError Entries)
    (names : List Text) : Except AccessError FileTree :=
  (tree.root.changeAt change names).map fun root => { tree with root }

def changeEnding (tree : FileTree) (path : Text)
    (change : Path.Ending → Entries → Except AccessError Entries) :
    Except AccessError FileTree :=
  match refusal? path, Path.ending? path with
  | some error, _ => .error error
  | none, some ending =>
      (tree.root.resolve (tree.origin path) ending.front).bind (tree.changeAt (change ending))
  | none, none => .error .isADirectory

def createDirectory (tree : FileTree) (path : Text) : Except AccessError FileTree :=
  tree.changeEnding path FileEntry.makeEnding

def createFile (tree : FileTree) (path : Text) (content : FileContent) :
    Except AccessError FileTree :=
  tree.changeEnding path (FileEntry.writeEnding content)

def removeEntry (tree : FileTree) (path : Text) : Except AccessError FileTree :=
  tree.changeEnding path FileEntry.removeEnding

/-! ### Several entries -/

/-- What became of a tree, and why the change ended early, if it did. -/
structure Change where
  tree : FileTree
  failure : Option AccessError

namespace Change

def single (tree : FileTree) : Except AccessError FileTree → Change
  | .ok changed => { tree := changed, failure := none }
  | .error error => { tree, failure := some error }

/-- A change that is followed by that of one entry, unless it ended early. -/
def followedBy (first : Change) (next : FileTree → Except AccessError FileTree) : Change :=
  match first.failure with
  | none => single first.tree (next first.tree)
  | some _ => first

end Change

def ensureDirectory (tree : FileTree) (path : Text) : Except AccessError FileTree :=
  match tree.createDirectory path with
  | .ok made => .ok made
  | .error error => if tree.containsDirectory path then .ok tree else .error error

/-- Makes a directory and those around it, from the inside out: the first path is the
one wanted, and each other path is around the one before it. -/
def makeDirectories (tree : FileTree) : List Text → Change
  | [] => .single tree (.ok tree)
  | path :: around =>
      if path.isEmpty then
        .single tree (.ok tree)
      else
        match tree.createDirectory path with
        | .error .notFound => (makeDirectories tree around).followedBy (·.ensureDirectory path)
        | _ => .single tree (tree.ensureDirectory path)

def makeDirectory (tree : FileTree) (path : Text) : Change :=
  tree.makeDirectories (Path.ancestors path)

def writeFile (tree : FileTree) (path : Text) (content : FileContent) : Change :=
  (tree.makeDirectory ((Path.parent? path).getD [])).followedBy (·.createFile path content)

/-- Removes a file, or a directory with all that it holds.  A path that ends with a segment
that is no name leads to a directory that can only be emptied. -/
def remove (tree : FileTree) (path : Text) : Change :=
  match tree.locate path with
  | .error error => .single tree (.error error)
  | .ok names =>
      match tree.removeEntry path with
      | .error .invalidArgument =>
          (Change.single tree (tree.changeAt (fun _ => .ok []) names)).followedBy
            fun _ => .error .invalidArgument
      | result => .single tree result

end FileTree
end Traceability
