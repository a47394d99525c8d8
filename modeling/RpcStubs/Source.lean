import RpcStubs.Config
import RpcStubs.Declaration.Json
import RpcStubs.FileTree
import RpcStubs.Idl.Inspect

/-!
# Declaration files

The files that a list of sources names, and the declarations in them.
-/

namespace RpcStubs

/-- A declaration that was read, or why it could not be. -/
abbrev Inspected := Except Error Declaration

/-- What declarations are written in. -/
inductive SourceFormat where
  | idl
  | json
  deriving DecidableEq, Repr

namespace SourceFormat

def ofExtension? : String → Option SourceFormat
  | "rs" => some idl
  | "json" => some json
  | _ => none

/-- The declarations of a text. -/
def inspect (format : SourceFormat) (path text package : String) :
    Except Error (List Inspected) :=
  match format with
  | idl => Idl.inspect path text package
  | json => (readDeclarations path text package).map (·.map .ok)

end SourceFormat

/-- A declaration file, with the package of declarations that name none. -/
structure SourceFile where
  path : Path
  package : String
  deriving DecidableEq, Repr

namespace SourceFile

/-- The package is given, or it is the stem of the file's name. -/
def of (path : Path) (package : Option String) : SourceFile :=
  ⟨path, package.getD (path.stem?.getD "")⟩

def format? (path : Path) : Option SourceFormat :=
  path.extension?.bind SourceFormat.ofExtension?

/-- The format and the text of a file. -/
def load (tree : FileTree) (f : SourceFile) : Except Error (SourceFormat × String) :=
  match format? f.path with
  | none =>
    .error (.missingFile ("'" ++ f.path.text ++ "' is not a .rs or .json declaration file"))
  | some format =>
    match tree.read f.path with
    | .ok text => .ok (format, text)
    | .error e => .error (.io ("reading " ++ f.path.text ++ ": " ++ e.message))

/-- The declarations of a file. -/
def inspect (tree : FileTree) (f : SourceFile) : Except Error (List Inspected) := do
  let (format, text) ← f.load tree
  format.inspect f.path.text text f.package

end SourceFile

/-! ## Sources -/

namespace SourceConfig

/-- The paths that a source names, below a base directory. -/
def paths (base : Path) (s : SourceConfig) : List Path :=
  let first := base.join s.path.text
  if s.files.isEmpty then [first] else s.files.map first.join

/-- The declaration files at a path: itself, or those below a directory. -/
def filesAt (tree : FileTree) (package : Option String) (path : Path) :
    Except Error (List SourceFile) :=
  if tree.isDirectory path then
    .ok (((tree.walk path).filter (fun p => (SourceFile.format? p).isSome)).map
      (SourceFile.of · package))
  else if tree.isFile path then .ok [.of path package]
  else
    .error (.missingFile ("'" ++ path.text ++ "' is not a valid path to a file or directory"))

def sourceFiles (tree : FileTree) (base : Path) (s : SourceConfig) :
    Except Error (List SourceFile) :=
  ((s.paths base).mapM (filesAt tree s.package)).map List.flatten

/-- All declaration files of some sources. -/
def allFiles (tree : FileTree) (base : Path) (sources : List SourceConfig) :
    Except Error (List SourceFile) :=
  (sources.mapM (sourceFiles tree base)).map List.flatten

end SourceConfig

/-- The configuration in a file. Its relative paths are meant in the directory of the file. -/
def Config.load (tree : FileTree) (path : Path) : Except Error Config :=
  if tree.isFile path then do
    let text ← (tree.read path).mapError (.io ·.message)
    let config ← Config.parse text
    let place ← (tree.canonical path).mapError (.io ·.message)
    return { config with baseDir := place.parent?.getD ⟨""⟩ }
  else .error (.missingFile ("config file '" ++ path.text ++ "' not found"))

end RpcStubs
