import RpcStubs.Generator.Index
import RpcStubs.Generator.Report
import RpcStubs.Render.Source

/-!
# Plans

Which files are written for a list of declarations, in order. A service is left out if it is
invalid or if one of its files was already written for another.
-/

namespace RpcStubs

/-- A file to be written, and the directory it is in. -/
structure Write where
  dir : Path
  path : Path
  content : String
  deriving DecidableEq, Repr

structure Plan where
  writes : List Write
  /-- The path of each write with the service it belongs to. -/
  owners : List (Path × String)
  index : ModuleIndex
  report : Report
  deriving DecidableEq, Repr

namespace Plan

/-- A plan with the failures that are already known. -/
def start (report : Report) : Plan := ⟨[], [], .empty, report⟩

def owner? (p : Plan) (path : Path) : Option String :=
  (p.owners.find? (fun (other, _) => decide (path.SamePlace other))).map (·.2)

/-- The first path that is taken, and the service that took it. A service may also take a path
twice. -/
def clash? (p : Plan) (service : String) (claimed : List Path) : List Path → Option (Path × String)
  | [] => none
  | path :: paths =>
    match p.owner? path with
    | some other => some (path, other)
    | none =>
      if claimed.any (fun other => decide (path.SamePlace other)) then some (path, service)
      else p.clash? service (path :: claimed) paths

/-- Adds a file of a service. -/
def addFile (output : Path) (service : String) (p : Plan) (file : FileId × String) : Plan :=
  let path := outputFile output file.1
  let (index, dir) := p.index.add output file.1
  { writes := p.writes ++ [⟨dir, path, file.2⟩]
    owners := p.owners ++ [(path, service)]
    index := index
    report := { p.report with generated := p.report.generated ++ [path] } }

/-- Adds a service, unless one of its paths is taken. -/
def addService (output : Path) (r : Renderer) (p : Plan) (d : Declaration) (s : Service) : Plan :=
  let files := r.renderService s
  match p.clash? s.name [] (files.map (fun (file, _) => outputFile output file)) with
  | some (path, other) =>
    { p with report := p.report.fail d.name (.duplicateOutput s.name path.text other) }
  | none =>
    let p := files.foldl (addFile output s.name) p
    { p with report := { p.report with services := p.report.services ++ [s.name] } }

/-- Adds a declaration, or its failure. -/
def addDeclaration (output : Path) (r : Renderer) (p : Plan) (d : Declaration) : Plan :=
  match Service.build d with
  | .ok s => p.addService output r d s
  | .error e => { p with report := p.report.fail d.name e }

/-- The indexes of all directories. -/
def indexWrites (p : Plan) : List Write :=
  p.index.dirs.map (fun (dir, modules) =>
    ⟨dir, dir.join indexName, Renderer.moduleIndex modules⟩)

/-- The report of a plan that is carried out. -/
def finalReport (p : Plan) : Report :=
  { p.report with generated := p.report.generated ++ p.indexWrites.map Write.path }

/-- The plan for a list of declarations. -/
def of (output : Path) (r : Renderer) (report : Report) (decls : List Declaration) : Plan :=
  decls.foldl (addDeclaration output r) (start report)

end Plan

end RpcStubs
