import RpcStubs.CommandLine
import RpcStubs.FileTree.Changes
import RpcStubs.Shell.Run

/-!
# The program

The files that a command may read are named on standard input, one a line. The command runs on
a tree of them, and what it changes there is then written.
-/

namespace RpcStubs

/-- The lines of standard input. -/
partial def readLines (input : IO.FS.Stream) : IO (List String) := do
  let line ← input.getLine
  if line.isEmpty then return []
  let rest ← readLines input
  return String.ofList (line.toList.filter (· != '\n')) :: rest

/-- Adds a file, and the directories on its way. -/
def FileTree.addFile (tree : FileTree) (path : Path) (content : ByteArray) : FileTree :=
  let made := (path.parent?.map tree.makeDirectories).getD (.ok tree)
  match made.bind (·.writeBytes path content) with
  | .ok tree => tree
  | .error _ => tree

def loadFiles (tree : FileTree) : List String → IO FileTree
  | [] => return tree
  | name :: names => do
    let content ← IO.FS.readBinFile name
    loadFiles (tree.addFile ⟨name⟩ content) names

def applyChange : Change → IO Unit
  | .makeDirectory place => IO.FS.createDirAll (FileTree.pathOf place).text
  | .writeFile place content => IO.FS.writeBinFile (FileTree.pathOf place).text content
  | .remove place true => IO.FS.removeDir (FileTree.pathOf place).text
  | .remove place false => IO.FS.removeFile (FileTree.pathOf place).text

/-- The working directory. -/
def workingPlace : IO Place := do
  let path := (← IO.getEnv "PWD").getD "/"
  return (path.splitOn "/").filter (!·.isEmpty)

end RpcStubs

def main (args : List String) : IO UInt32 := do
  let names ← RpcStubs.readLines (← IO.getStdin)
  let before ← RpcStubs.loadFiles (.ofRoot (← RpcStubs.workingPlace)) names
  let (result, after) := RpcStubs.runCommand RpcStubs.Shell.programs args before
  (before.changes after).forM RpcStubs.applyChange
  IO.print result.stdout
  IO.eprint result.errorText
  return result.exit.toUInt32
