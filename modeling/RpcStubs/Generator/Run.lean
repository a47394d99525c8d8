import RpcStubs.Generator.Plan
import RpcStubs.Program
import RpcStubs.Source

/-!
# Runs of the generator

All sources are read before the first file is written.
-/

namespace RpcStubs

/-! ## Reading -/

/-- Declarations that were read, with the failures of the others. -/
structure Accepted where
  decls : List Declaration
  report : Report

namespace Accepted

def empty : Accepted := ⟨[], .empty⟩

/-- A failure is reported under the declaration it belongs to, or else under the source. -/
def add (source : String) (a : Accepted) : Inspected → Accepted
  | .ok d => { a with decls := a.decls ++ [d] }
  | .error e => { a with report := a.report.fail (e.service?.getD source) e }

/-- Adds the declarations of a source, or its failure. -/
def addSource (a : Accepted) (source : String) : Except Error (List Inspected) → Accepted
  | .ok found => found.foldl (add source) a
  | .error e => { a with report := a.report.fail source e }

/-- The declarations of some files. -/
def ofFiles (tree : FileTree) (files : List SourceFile) : Accepted :=
  files.foldl (fun a f => a.addSource f.path.text (f.inspect tree)) empty

end Accepted

/-! ## Writing -/

namespace Write

/-- Writes a file of a service, in a directory that is made if it is missing. -/
def perform (w : Write) : Disk Unit := do
  Disk.change (·.makeDirectories w.dir)
  Disk.change (·.write w.path w.content)

/-- Writes an index, whose directory exists. -/
def performIndex (w : Write) : Disk Unit := Disk.change (·.write w.path w.content)

end Write

/-- Carries out a plan. -/
def Plan.perform (p : Plan) : Disk Report := do
  p.writes.forM Write.perform
  p.indexWrites.forM Write.performIndex
  return p.finalReport

/-! ## Runs -/

structure Generator where
  config : Config
  programs : Programs
  /-- The command that formats what is generated, if there is one. -/
  formatter : List String

namespace Generator

def of (programs : Programs) (config : Config) : Generator := ⟨config, programs, config.formatter⟩

def withoutFormatter (g : Generator) : Generator := { g with formatter := [] }

def plan (g : Generator) (a : Accepted) : Plan :=
  .of g.config.outputPath g.config.renderer a.report a.decls

/-- Generates code for declarations and formats it. -/
def generateFor (g : Generator) (a : Accepted) : Disk Report := do
  let report ← (g.plan a).perform
  formatFiles g.programs g.formatter report.generated
  return report

/-- Generates code for all declarations of the configured sources. -/
def generate (g : Generator) : Disk Report := do
  let tree ← Disk.files
  let files ← liftM (SourceConfig.allFiles tree g.config.baseDir g.config.sources)
  g.generateFor (.ofFiles tree files)

/-- Generates code for the declarations of one source. -/
def generateFrom (g : Generator) (found : Except Error (List Inspected)) : Disk Report := do
  let found ← liftM found
  g.generateFor (Accepted.empty.addSource "declarations" (.ok found))

end Generator

/-! ## Builds -/

/-- A build prints lines and then has a result. -/
structure BuildResult where
  lines : List String
  result : Except Error Report

/-- The line that names a file on which a build depends. -/
def dependencyLine (path : Path) : String := "cargo:rerun-if-changed=" ++ path.text

/-- A failure of any declaration fails the whole build. -/
def Report.requireSuccess (r : Report) : Except Error Report :=
  match r.failures with
  | [] => .ok r
  | first :: _ =>
    .error (.build (toString r.failures.length ++ " declaration(s) failed, first: " ++
      first.source ++ ": " ++ first.error.message))

/-- Generates code as a part of a build, and names the files that it depends on. -/
def runBuild (programs : Programs) (configPath : Path) (tree : FileTree) :
    BuildResult × FileTree :=
  match Config.load tree configPath with
  | .error e => (⟨[], .error e⟩, tree)
  | .ok config =>
    let first := dependencyLine configPath
    match SourceConfig.allFiles tree config.baseDir config.sources with
    | .error e => (⟨[first], .error e⟩, tree)
    | .ok files =>
      let lines := first :: files.map (dependencyLine ·.path)
      let (result, tree) := (Generator.of programs config).generate.after tree
      (⟨lines, result.bind Report.requireSuccess⟩, tree)

end RpcStubs
