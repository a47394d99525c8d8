import RpcStubs.Error
import RpcStubs.Path
import RpcStubs.Render.Source
import RpcStubs.Toml.Document

/-!
# Configuration

What to generate, and where. Unknown settings are ignored.
-/

namespace RpcStubs

open Json (Value)

/-- Declaration files, or directories that are searched for them. -/
structure SourceConfig where
  path : Path
  /-- Files below the path. If there are none, the path itself is meant. -/
  files : List String
  package : Option String
  deriving DecidableEq, Repr

/-- A single file or directory. -/
def SourceConfig.ofPath (path : Path) : SourceConfig := ⟨path, [], none⟩

def SourceConfig.display (s : SourceConfig) : String := "path(" ++ s.path.text ++ ")"

structure Config where
  sources : List SourceConfig
  /-- The root of the generated files. -/
  outputDir : Path
  /-- The module of the runtime that generated code refers to. -/
  runtime : String
  /-- A program that formats the generated files, with its arguments. -/
  formatter : List String
  /-- What every generated file imports. -/
  imports : List String
  /-- The directory that relative paths are meant in. -/
  baseDir : Path
  deriving DecidableEq, Repr

namespace Config

def defaultOutputDir : Path := ⟨"src/generated"⟩

def default : Config := ⟨[], defaultOutputDir, Renderer.defaultRuntime, [], [], ⟨""⟩⟩

/-- The output directory below the base directory. -/
def outputPath (c : Config) : Path := c.baseDir.join c.outputDir.text

def renderer (c : Config) : Renderer := ⟨c.runtime, c.imports⟩

/-! ## Reading -/

/-- The value of a field of a record, given by name or by place. -/
def fieldOf? (name : String) (index : Nat) : Value → Option Value
  | .object fields => (fields.find? (·.1 == name)).map (·.2)
  | .array elems => elems[index]?
  | _ => none

def isRecord : Value → Bool
  | .object _ => true
  | .array _ => true
  | _ => false

def string? : Value → Option String
  | .string text => some text
  | _ => none

def list? {α : Type} (read : Value → Option α) : Value → Option (List α)
  | .array elems => elems.mapM read
  | _ => none

/-- A setting that may be missing. -/
def setting {α : Type} (read : Value → Option α) (missing : α) : Option Value → Option α
  | some v => read v
  | none => some missing

/-- A value that may be null. -/
def nullable? {α : Type} (read : Value → Option α) : Value → Option (Option α)
  | .null => some none
  | v => (read v).map some

def source? (v : Value) : Option SourceConfig := do
  let path ← (fieldOf? "path" 0 v).bind string?
  let files ← setting (list? string?) [] (fieldOf? "files" 1 v)
  let package ← setting (nullable? string?) none (fieldOf? "package" 2 v)
  return ⟨⟨path⟩, files, package⟩

/-- The configuration of a document. -/
def ofValue? (v : Value) : Option Config := do
  guard (isRecord v)
  let sources ← setting (list? source?) [] (fieldOf? "sources" 0 v)
  let outputDir ← setting string? defaultOutputDir.text (fieldOf? "output_dir" 1 v)
  let runtime ← setting string? Renderer.defaultRuntime (fieldOf? "runtime" 2 v)
  let formatter ← setting (list? string?) [] (fieldOf? "formatter" 3 v)
  let imports ← setting (list? string?) [] (fieldOf? "imports" 4 v)
  let baseDir ← setting string? "" (fieldOf? "base_dir" 5 v)
  return ⟨sources, ⟨outputDir⟩, runtime, formatter, imports, ⟨baseDir⟩⟩

/-- The configuration of a text. -/
def parse (source : String) : Except Error Config :=
  match (Toml.parse? source).bind ofValue? with
  | some config => .ok config
  | none => .error (.config "invalid configuration")

/-! ## Writing -/

def sourceValue (s : SourceConfig) : Value :=
  .object [("path", .string s.path.text), ("files", .strings s.files),
    ("package", .ofOption s.package)]

def toValue (c : Config) : Value :=
  .object [
    ("sources", .array (c.sources.map sourceValue)),
    ("output_dir", .string c.outputDir.text),
    ("runtime", .string c.runtime),
    ("formatter", .strings c.formatter),
    ("imports", .strings c.imports),
    ("base_dir", .string c.baseDir.text)]

end Config

end RpcStubs
