import RpcStubs.Generator.Run
import RpcStubs.Proofs.IndexedDirs

/-!
# Outcomes of a run

Each declaration is either generated or has a failure. The plan of a run is made of these
outcomes alone, and a declaration is generated whenever its places are free.
-/

namespace RpcStubs

/-! ## Outcomes -/

/-- What became of a declaration. -/
inductive Outcome where
  | generated (s : Service)
  | failed (failure : Failure)

namespace Outcome

def service? : Outcome → Option Service
  | generated s => some s
  | failed _ => none

def failure? : Outcome → Option Failure
  | generated _ => none
  | failed failure => some failure

def services (outcomes : List Outcome) : List Service := outcomes.filterMap service?

def failures (outcomes : List Outcome) : List Failure := outcomes.filterMap failure?

@[simp] theorem services_generated (s : Service) (os : List Outcome) :
    services (generated s :: os) = s :: services os := rfl

@[simp] theorem services_failed (failure : Failure) (os : List Outcome) :
    services (failed failure :: os) = services os := rfl

@[simp] theorem failures_generated (s : Service) (os : List Outcome) :
    failures (generated s :: os) = failures os := rfl

@[simp] theorem failures_failed (failure : Failure) (os : List Outcome) :
    failures (failed failure :: os) = failure :: failures os := rfl

theorem mem_services {os : List Outcome} {s : Service} : s ∈ services os ↔ .generated s ∈ os := by
  unfold services
  rw [List.mem_filterMap]
  constructor
  · rintro ⟨o, ho, hs⟩
    cases o with
    | generated t => cases hs; exact ho
    | failed => cases hs
  · intro h
    exact ⟨_, h, rfl⟩

end Outcome

namespace Plan

/-- What becomes of a declaration that is added to a plan. -/
def outcome (output : Path) (p : Plan) (d : Declaration) : Outcome :=
  match Service.build d with
  | .error e => .failed ⟨d.name, e⟩
  | .ok s =>
    match p.clash? s.name [] (s.paths output) with
    | some (path, other) => .failed ⟨d.name, .duplicateOutput s.name path.text other⟩
    | none => .generated s

def serviceWrites (output : Path) (r : Renderer) (s : Service) : List Write :=
  (r.renderService s).map (fun file =>
    ⟨packageDir output file.1.package, outputFile output file.1, file.2⟩)

def indexService (output : Path) (index : ModuleIndex) (s : Service) : ModuleIndex :=
  index.addAll output s.fileIds

/-- A plan with one more outcome. -/
def record (output : Path) (r : Renderer) (p : Plan) : Outcome → Plan
  | .generated s =>
    { writes := p.writes ++ serviceWrites output r s
      owners := p.owners ++ (s.paths output).map (·, s.name)
      index := indexService output p.index s
      report :=
        { generated := p.report.generated ++ s.paths output
          failures := p.report.failures
          services := p.report.services ++ [s.name] } }
  | .failed failure =>
    { p with report := { p.report with failures := p.report.failures ++ [failure] } }

def outcomes (output : Path) (r : Renderer) (p : Plan) : List Declaration → List Outcome
  | [] => []
  | d :: ds => p.outcome output d :: (p.addDeclaration output r d).outcomes output r ds

/-! ## One declaration -/

theorem foldl_addFile (output : Path) (service : String) (files : List (FileId × String))
    (p : Plan) :
    files.foldl (addFile output service) p =
      { writes := p.writes ++ files.map (fun file =>
          ⟨packageDir output file.1.package, outputFile output file.1, file.2⟩)
        owners := p.owners ++ files.map (fun file => (outputFile output file.1, service))
        index := p.index.addAll output (files.map (·.1))
        report := { p.report with
          generated := p.report.generated ++
            files.map (fun file => outputFile output file.1) } } := by
  induction files generalizing p with
  | nil => simp [ModuleIndex.addAll]
  | cons file files ih =>
    rw [List.foldl_cons, ih]
    simp [addFile, ModuleIndex.addAll, ModuleIndex.add_dir]

theorem renderService_files (r : Renderer) (s : Service) :
    (r.renderService s).map (·.1) = s.fileIds := by
  simp only [Renderer.renderService, Service.artifacts, List.map_cons, List.map_nil, Artifact.file,
    Service.interfaceArtifact, Service.descriptorArtifact, Service.clientArtifact,
    Service.providerArtifact, Service.fileIds]

theorem renderService_paths (output : Path) (r : Renderer) (s : Service) :
    (r.renderService s).map (fun file => outputFile output file.1) = s.paths output := by
  rw [Service.paths, ← renderService_files r s, List.map_map]
  rfl

theorem serviceWrites_paths (output : Path) (r : Renderer) (s : Service) :
    (serviceWrites output r s).map Write.path = s.paths output := by
  rw [← renderService_paths output r]
  simp only [serviceWrites, List.map_map, Function.comp_def]

theorem addService_eq_record (output : Path) (r : Renderer) (p : Plan) (d : Declaration)
    (s : Service) (h : p.clash? s.name [] (s.paths output) = none) :
    p.addService output r d s = p.record output r (.generated s) := by
  have howners : (r.renderService s).map (fun file => (outputFile output file.1, s.name)) =
      (s.paths output).map (·, s.name) := by
    rw [← renderService_paths output r s, List.map_map]
    rfl
  simp only [addService, renderService_paths, h, foldl_addFile, howners, record, serviceWrites,
    indexService, renderService_files]

/-- A declaration changes a plan by its outcome only. -/
theorem addDeclaration_eq_record (output : Path) (r : Renderer) (p : Plan) (d : Declaration) :
    p.addDeclaration output r d = p.record output r (p.outcome output d) := by
  unfold addDeclaration outcome
  cases hb : Service.build d with
  | error e => rfl
  | ok s =>
    simp only
    cases hc : p.clash? s.name [] (s.paths output) with
    | none => exact addService_eq_record output r p d s hc
    | some clash =>
      simp only [addService, renderService_paths, hc]
      rfl

/-! ## A whole run -/

theorem foldl_addDeclaration (output : Path) (r : Renderer) (ds : List Declaration) (p : Plan) :
    ds.foldl (addDeclaration output r) p = (p.outcomes output r ds).foldl (record output r) p := by
  induction ds generalizing p with
  | nil => rfl
  | cons d ds ih =>
    rw [List.foldl_cons, ih, outcomes, List.foldl_cons, addDeclaration_eq_record]

/-- What is written, listed and reported follows from the outcomes. -/
theorem foldl_record (output : Path) (r : Renderer) (os : List Outcome) (p : Plan) :
    os.foldl (record output r) p =
      { writes := p.writes ++ (Outcome.services os).flatMap (serviceWrites output r)
        owners := p.owners ++
          (Outcome.services os).flatMap (fun s => (s.paths output).map (·, s.name))
        index := (Outcome.services os).foldl (indexService output) p.index
        report :=
          { generated := p.report.generated ++ (Outcome.services os).flatMap (Service.paths output)
            failures := p.report.failures ++ Outcome.failures os
            services := p.report.services ++ (Outcome.services os).map (·.name) } } := by
  induction os generalizing p with
  | nil => simp [Outcome.services, Outcome.failures]
  | cons o os ih =>
    rw [List.foldl_cons, ih]
    cases o with
    | generated s => simp [record]
    | failed failure => simp [record]

theorem outcomes_length (output : Path) (r : Renderer) (ds : List Declaration) (p : Plan) :
    (p.outcomes output r ds).length = ds.length := by
  induction ds generalizing p with
  | nil => rfl
  | cons d ds ih => simp [outcomes, ih]

theorem outcomes_getElem? (output : Path) (r : Renderer) (ds : List Declaration) (p : Plan)
    (i : Nat) (d : Declaration) (h : ds[i]? = some d) :
    (p.outcomes output r ds)[i]? =
      some ((((p.outcomes output r ds).take i).foldl (record output r) p).outcome output d) := by
  induction ds generalizing p i with
  | nil => simp at h
  | cons d' ds ih =>
    cases i with
    | zero =>
      cases h
      rfl
    | succ i =>
      rw [List.getElem?_cons_succ] at h
      -- The plan of the rest has already recorded the first outcome.
      rw [outcomes, List.getElem?_cons_succ, ih _ i h, List.take_succ_cons, List.foldl_cons,
        ← addDeclaration_eq_record]

/-! ## Places that are taken -/

theorem owner?_eq_none (p : Plan) (path : Path) :
    p.owner? path = none ↔ ∀ x ∈ p.owners, ¬ path.SamePlace x.1 := by
  simp [owner?]

theorem owner?_eq_some {p : Plan} {path : Path} {name : String} (h : p.owner? path = some name) :
    ∃ q, (q, name) ∈ p.owners ∧ path.SamePlace q := by
  unfold owner? at h
  obtain ⟨⟨q, n⟩, hfind, rfl⟩ := Option.map_eq_some_iff.mp h
  exact ⟨q, List.mem_of_find?_eq_some hfind, by simpa using List.find?_some hfind⟩

/-- Paths that differ from each other clash only with those of a service before. -/
theorem clash?_eq_findSome? (p : Plan) (service : String) (claimed paths : List Path)
    (hpaths : paths.Pairwise (fun a b => ¬ a.SamePlace b))
    (hclaimed : ∀ path ∈ paths, ∀ q ∈ claimed, ¬ path.SamePlace q) :
    p.clash? service claimed paths =
      paths.findSome? (fun path => (p.owner? path).map (path, ·)) := by
  induction paths generalizing claimed with
  | nil => rfl
  | cons path paths ih =>
    obtain ⟨hpath, hrest⟩ := List.pairwise_cons.mp hpaths
    obtain ⟨hfree, hclaimed⟩ := List.forall_mem_cons.mp hclaimed
    unfold clash?
    cases ho : p.owner? path with
    | some other => simp [ho]
    | none =>
      -- The paths before this one are claimed by the service itself, and none of them is its place.
      have hany : claimed.any (fun other => decide (path.SamePlace other)) = false := by
        simpa using hfree
      rw [List.findSome?_cons_of_isNone (by simp [ho])]
      simp only [hany, Bool.false_eq_true, if_false]
      apply ih _ hrest
      intro q hq
      exact List.forall_mem_cons.mpr ⟨fun h => hpath q hq h.symm, hclaimed q hq⟩

theorem outcome_of_build {d : Declaration} {s : Service} (h : Service.build d = .ok s)
    (output : Path) (p : Plan) :
    p.outcome output d =
      match (s.paths output).findSome? (fun path => (p.owner? path).map (path, ·)) with
      | some (path, other) => .failed ⟨d.name, .duplicateOutput s.name path.text other⟩
      | none => .generated s := by
  have hpaths := paths_pairwise ((build_eq_ok d s).mp h) output
  rw [outcome, h, ← clash?_eq_findSome? p s.name [] _ hpaths (by simp)]

theorem outcome_eq_generated (output : Path) (p : Plan) (d : Declaration) (s : Service) :
    p.outcome output d = .generated s ↔
      Service.build d = .ok s ∧ ∀ path ∈ s.paths output, p.owner? path = none := by
  cases hb : Service.build d with
  | error e => simp [outcome, hb]
  | ok t =>
    rw [outcome_of_build hb]
    cases hf : (t.paths output).findSome? (fun path => (p.owner? path).map (path, ·)) with
    | none =>
      have hnone : ∀ path ∈ t.paths output, p.owner? path = none := by simpa using hf
      simp only [Outcome.generated.injEq, Except.ok.injEq, iff_self_and]
      rintro rfl
      exact hnone
    | some clash =>
      simp only [reduceCtorEq, Except.ok.injEq, false_iff, not_and]
      rintro rfl hnone
      have : (t.paths output).findSome? (fun path => (p.owner? path).map (path, ·)) = none := by
        simpa using hnone
      rw [this] at hf
      cases hf

theorem outcome_eq_invalid (output : Path) (p : Plan) (d : Declaration) (e : Error)
    (h : Service.build d = .error e) : p.outcome output d = .failed ⟨d.name, e⟩ := by
  rw [outcome, h]

theorem outcome_eq_duplicate (output : Path) (p : Plan) (d : Declaration) (s : Service)
    (h : Service.build d = .ok s) (free rest : List Path) (path : Path)
    (hpaths : s.paths output = free ++ path :: rest)
    (hfree : ∀ q ∈ free, p.owner? q = none) (other : String) (ho : p.owner? path = some other) :
    p.outcome output d = .failed ⟨d.name, .duplicateOutput s.name path.text other⟩ := by
  have hnone : free.findSome? (fun path => (p.owner? path).map (path, ·)) = none := by
    simpa using hfree
  simp only [outcome_of_build h, hpaths, List.findSome?_append, hnone, Option.none_or,
    List.findSome?_cons, ho, Option.map_some]

/-! ## Directories with an index -/

theorem hasDir_indexService (output : Path) (index : ModuleIndex) (s : Service) (dir : Path) :
    (indexService output index s).HasDir dir ↔
      index.HasDir dir ∨ ∃ d ∈ packageDirs output s.package, dir.SamePlace d := by
  simp only [indexService, ModuleIndex.addAll, Service.fileIds, List.foldl_cons, List.foldl_nil,
    ModuleIndex.hasDir_add, Service.interfaceFile, Service.descriptorFile, clientFile_package,
    Service.providerFile, FileId.of, or_assoc, or_self]

theorem preserved_foldl_indexService {P : ModuleIndex → Prop}
    (hinsert : ∀ (index : ModuleIndex) (dir : Path) (module : String), P index →
      P (index.insert dir module))
    (output : Path) (services : List Service) (index : ModuleIndex) (h : P index) :
    P (services.foldl (indexService output) index) := by
  induction services generalizing index with
  | nil => exact h
  | cons s services ih => exact ih _ (ModuleIndex.preserved_addAll hinsert h output s.fileIds)

theorem sorted_foldl_indexService (output : Path) (services : List Service) (index : ModuleIndex)
    (h : index.Sorted) : (services.foldl (indexService output) index).Sorted :=
  preserved_foldl_indexService (fun _ dir module h => h.insert dir module) output services index h

theorem hasDir_foldl_indexService (output : Path) (services : List Service) (index : ModuleIndex)
    (dir : Path) :
    (services.foldl (indexService output) index).HasDir dir ↔
      index.HasDir dir ∨
        ∃ s ∈ services, ∃ d ∈ packageDirs output s.package, dir.SamePlace d := by
  induction services generalizing index with
  | nil => simp
  | cons s services ih => simp [ih, hasDir_indexService, or_assoc]

end Plan

/-! ## Actions on files -/

theorem Disk.after_bind {α β : Type} (action : Disk α) (next : α → Disk β) (tree : FileTree) :
    (action >>= next).after tree =
      match action.after tree with
      | (.ok x, tree') => (next x).after tree'
      | (.error e, tree') => (.error e, tree') := by
  show ExceptT.bindCont next (action.after tree).1 (action.after tree).2 = _
  rcases action.after tree with ⟨_ | _, _⟩ <;> rfl

theorem Disk.after_bind_eq_ok {α β : Type} {action : Disk α} {next : α → Disk β}
    {tree tree'' : FileTree} {y : β} (h : (action >>= next).after tree = (.ok y, tree'')) :
    ∃ x tree', action.after tree = (.ok x, tree') ∧ (next x).after tree' = (.ok y, tree'') := by
  rw [after_bind] at h
  rcases ha : action.after tree with ⟨_ | x, tree'⟩
  · rw [ha] at h
    cases h
  · rw [ha] at h
    exact ⟨x, tree', rfl, h⟩

theorem Plan.perform_report {p : Plan} {tree tree' : FileTree} {report : Report}
    (h : p.perform.after tree = (.ok report, tree')) : report = p.finalReport := by
  obtain ⟨_, _, -, h⟩ := Disk.after_bind_eq_ok h
  obtain ⟨_, _, -, h⟩ := Disk.after_bind_eq_ok h
  cases h
  rfl

namespace Generator

def outcomes (g : Generator) (a : Accepted) : List Outcome :=
  (Plan.start a.report).outcomes g.config.outputPath g.config.renderer a.decls

theorem generateFor_report {g : Generator} {a : Accepted} {tree tree' : FileTree}
    {report : Report} (h : (g.generateFor a).after tree = (.ok report, tree')) :
    report = (g.plan a).finalReport := by
  obtain ⟨_, _, hplan, h⟩ := Disk.after_bind_eq_ok h
  obtain ⟨_, _, -, h⟩ := Disk.after_bind_eq_ok h
  cases h
  exact Plan.perform_report hplan

theorem outcomes_length (g : Generator) (a : Accepted) :
    (g.outcomes a).length = a.decls.length :=
  Plan.outcomes_length ..

theorem plan_eq (g : Generator) (a : Accepted) :
    g.plan a = (g.outcomes a).foldl (Plan.record g.config.outputPath g.config.renderer)
      (.start a.report) :=
  Plan.foldl_addDeclaration ..

end Generator

end RpcStubs
