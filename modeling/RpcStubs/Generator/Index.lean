import RpcStubs.Path
import RpcStubs.Service.FileId
import RpcStubs.Text.Segments

/-!
# Places of generated files

A package is a chain of directories below the output directory, and each of them has an index of
the modules in it.
-/

namespace RpcStubs

/-- The name of an index. -/
def indexName : String := "mod.rs"

/-- The directory of a package. -/
def packageDir (output : Path) (package : String) : Path :=
  ((Text.nameSegments package).map Text.snakeCase).foldl Path.join output

/-- The path that a generated file is written to. -/
def outputFile (output : Path) (file : FileId) : Path :=
  (packageDir output file.package).join (file.module ++ ".rs")

/-- The modules of each directory, both in increasing order. -/
structure ModuleIndex where
  dirs : List (Path × List String)
  deriving DecidableEq, Repr

namespace ModuleIndex

def empty : ModuleIndex := ⟨[]⟩

/-- Adds a name to a list in increasing order, unless it is there. -/
def insertName (name : String) : List String → List String
  | [] => [name]
  | other :: names =>
    match compare name other with
    | .lt => name :: other :: names
    | .eq => other :: names
    | .gt => other :: insertName name names

/-- Adds a module to a directory. A directory keeps the path it was first named by. -/
def insertIn (dir : Path) (module : String) : List (Path × List String) → List (Path × List String)
  | [] => [(dir, [module])]
  | (other, modules) :: dirs =>
    match dir.cmp other with
    | .lt => (dir, [module]) :: (other, modules) :: dirs
    | .eq => (other, insertName module modules) :: dirs
    | .gt => (other, modules) :: insertIn dir module dirs

def insert (index : ModuleIndex) (dir : Path) (module : String) : ModuleIndex :=
  ⟨insertIn dir module index.dirs⟩

/-- Lists each directory in the one above it, and gives the last. -/
def addDirs (index : ModuleIndex) (dir : Path) : List String → ModuleIndex × Path
  | [] => (index, dir)
  | name :: names => addDirs (index.insert dir name) (dir.join name) names

/-- Lists a generated file and the directories on its way, and gives the directory it is in. -/
def add (index : ModuleIndex) (output : Path) (file : FileId) : ModuleIndex × Path :=
  let (index, dir) := index.addDirs output ((Text.nameSegments file.package).map Text.snakeCase)
  (index.insert dir file.module, dir)

end ModuleIndex

end RpcStubs
