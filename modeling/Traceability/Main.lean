import Traceability.CommandLine.Run

/-!
The program: reads the working directory, runs the command and prints its result.

The working directory is the root of the tree that is read: what lies above it is left out.  The
exit code is two when the arguments are not understood or the run itself fails.
-/

namespace Traceability.Program

def emit (stream : IO.FS.Stream) (text : Text) : IO Unit :=
  stream.putStr (String.ofList text)

/-- The bytes of a file as its content; a file that cannot be opened is no text. -/
def contentOf (read : IO ByteArray) : IO FileContent :=
  tryCatch (FileContent.ofBytes <$> read) fun _ => pure .binary

/-- The tree of the working directory; an entry that has no place in a tree is left
out. -/
def readTree : IO FileTree := do
  let here ← IO.currentDir
  let paths ← here.walkDir
  paths.foldlM (fun tree path => do
    let relative := path.toString.toList.drop (here.toString.length + 1)
    if ← path.isDir then
      return (tree.makeDirectory relative).tree
    else
      let content ← contentOf (IO.FS.readBinFile path)
      return (tree.writeFile relative content).tree) FileTree.empty

def save (before after : FileTree) : IO Unit := do
  if !before.contains Config.fileName then
    match after.readText Config.fileName with
    | .ok content =>
        IO.FS.writeFile (String.ofList Config.fileName) (String.ofList content)
    | .error _ => return

def execute (command : CommandLine.Command) : IO UInt32 := do
  let tree ← readTree
  match CommandLine.run .plain tree command with
  | .ok effect =>
      save tree effect.tree
      emit (← IO.getStderr) effect.stderr
      emit (← IO.getStdout) effect.stdout
      return effect.status.code.toUInt32
  | .error error =>
      emit (← IO.getStderr) ("Error: ".toList ++ error.message ++ ['\n'])
      return 2

end Traceability.Program

open Traceability in
def main (arguments : List String) : IO UInt32 := do
  let environment ← IO.getEnv "REQSAT_LANG"
  match CommandLine.parse (environment.map String.toList) (arguments.map String.toList) with
  | .ok command => Program.execute command
  | .error .displayHelp =>
      Program.emit (← IO.getStdout) CommandLine.overview
      return 0
  | .error .displayVersion =>
      Program.emit (← IO.getStdout) CommandLine.version
      return 0
  | .error error =>
      Program.emit (← IO.getStderr) ("error: ".toList ++ error.name ++ ['\n'])
      return 2
