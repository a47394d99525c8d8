import RpcStubs.CommandLine
import RpcStubs.Proofs.Faults
import RpcStubs.Proofs.Reordering
import RpcStubs.Proofs.RoundTrip

/-!
# Strict and lenient runs

A dump stops at the first fault of its files. A generator reports all of them and goes on. They
agree on what is a fault, except that only a generator looks for files that are written twice.
-/

namespace RpcStubs

def Error.IsDuplicate (e : Error) : Prop :=
  ∃ service file other, e = .duplicateOutput service file other

def SourceFile.IsRead (tree : FileTree) (f : SourceFile) : Prop :=
  ∃ ds : List Declaration, f.inspect tree = .ok (ds.map .ok)

/-- The first fault of some files, and what is said about it. All files are read before the first
declaration is built. -/
inductive StopsAt (tree : FileTree) (files : List SourceFile) : Error → List String → Prop where
  | load {before after : List SourceFile} {f : SourceFile} {e : Error} :
    files = before ++ f :: after → (∀ g ∈ before, g.IsRead tree) →
    f.load tree = .error e → StopsAt tree files e e.chain
  | source {before after : List SourceFile} {f : SourceFile} {loaded : SourceFormat × String}
    {e : Error} :
    files = before ++ f :: after → (∀ g ∈ before, g.IsRead tree) →
    f.load tree = .ok loaded → f.inspect tree = .error e →
    StopsAt tree files e (("failed to read " ++ f.path.text) :: e.chain)
  | declaration {before after : List SourceFile} {f : SourceFile} {ds : List Declaration}
    {rest : List Inspected} {e : Error} :
    files = before ++ f :: after → (∀ g ∈ before, g.IsRead tree) →
    f.inspect tree = .ok (ds.map .ok ++ .error e :: rest) →
    StopsAt tree files e (("failed to read " ++ f.path.text) :: e.chain)
  | service {before after : List Declaration} {d : Declaration} {e : Error} :
    (∀ g ∈ files, g.IsRead tree) → (Accepted.ofFiles tree files).decls = before ++ d :: after →
    (∀ x ∈ before, ∃ s, Service.build x = .ok s) → Service.build d = .error e →
    StopsAt tree files e (("invalid service declaration '" ++ d.name ++ "'") :: e.chain)

/-! ## Reading -/

/-- The declarations of a file, none of which may have a fault. -/
def SourceFile.readAll (tree : FileTree) (f : SourceFile) :
    Except (List String) (List Declaration) := do
  let (format, text) ← (f.load tree).mapError Error.chain
  ((format.inspect f.path.text text f.package).bind (·.mapM id)).mapError
    (fun e => ("failed to read " ++ f.path.text) :: e.chain)

theorem readAllDeclarations_eq (tree : FileTree) (files : List SourceFile) :
    readAllDeclarations tree files = (files.mapM (SourceFile.readAll tree)).map List.flatten := by
  induction files with
  | nil => rfl
  | cons f files ih =>
    rw [List.mapM_cons]
    simp only [readAllDeclarations, ih, SourceFile.readAll, bind_assoc]
    cases (f.load tree).mapError Error.chain with
    | error => rfl
    | ok loaded =>
      simp only [bind, Except.bind, pure, Except.pure]
      split
      · rfl
      · cases files.mapM (SourceFile.readAll tree) <;> rfl

theorem mapM_id_eq_ok (found : List Inspected) (ds : List Declaration) :
    found.mapM id = .ok ds ↔ found = ds.map .ok := by
  rw [mapM_eq_ok]
  constructor
  · intro h
    induction h with
    | nil => rfl
    | cons hx _ ih => rw [List.map_cons, ih, ← hx, id]
  · rintro rfl
    rw [List.forall₂_map_left_iff]
    exact List.forall₂_same.mpr (fun _ _ => rfl)

theorem exists_eq_map_ok (found : List Inspected) (h : ∀ x ∈ found, ∃ d, x = .ok d) :
    ∃ ds : List Declaration, found = ds.map .ok := by
  induction found with
  | nil => exact ⟨[], rfl⟩
  | cons x found ih =>
    obtain ⟨⟨d, rfl⟩, hfound⟩ := List.forall_mem_cons.mp h
    obtain ⟨ds, rfl⟩ := ih hfound
    exact ⟨d :: ds, rfl⟩

theorem mapM_id_eq_error (found : List Inspected) (e : Error) (h : found.mapM id = .error e) :
    ∃ (ds : List Declaration) (rest : List Inspected), found = ds.map .ok ++ .error e :: rest := by
  obtain ⟨before, x, rest, rfl, hbefore, rfl⟩ := (mapM_eq_error _ _ _).mp h
  obtain ⟨ds, rfl⟩ := exists_eq_map_ok before hbefore
  exact ⟨ds, rest, rfl⟩

namespace SourceFile

theorem readAll_eq_ok (tree : FileTree) (f : SourceFile) (ds : List Declaration) :
    f.readAll tree = .ok ds ↔ f.inspect tree = .ok (ds.map .ok) := by
  unfold readAll inspect
  rw [bind_eq_ok, bind_eq_ok]
  simp only [mapError_eq_ok]
  apply exists_congr
  rintro ⟨format, text⟩
  apply and_congr_right
  intro _
  exact (bind_eq_ok _ _ _).trans ⟨fun ⟨_, h, hds⟩ => (mapM_id_eq_ok _ _).mp hds ▸ h,
    fun h => ⟨_, h, (mapM_id_eq_ok _ _).mpr rfl⟩⟩

theorem readAll_eq_error {tree : FileTree} {f : SourceFile} {errors : List String}
    (h : f.readAll tree = .error errors) :
    (∃ e, f.load tree = .error e ∧ errors = e.chain) ∨
    ∃ loaded, f.load tree = .ok loaded ∧ ∃ e : Error,
      errors = ("failed to read " ++ f.path.text) :: e.chain ∧
      (f.inspect tree = .error e ∨ ∃ (ds : List Declaration) (rest : List Inspected),
        f.inspect tree = .ok (ds.map .ok ++ .error e :: rest)) := by
  unfold readAll at h
  rcases (bind_eq_error _ _ _).mp h with h | ⟨loaded, hload, h⟩
  · obtain ⟨e, hload, rfl⟩ := (mapError_eq_error _ _ _).mp h
    exact Or.inl ⟨e, hload, rfl⟩
  · rw [mapError_eq_ok] at hload
    obtain ⟨e, hread, rfl⟩ := (mapError_eq_error _ _ _).mp h
    refine Or.inr ⟨loaded, hload, e, rfl, ?_⟩
    have hinspect : f.inspect tree = loaded.1.inspect f.path.text loaded.2 f.package := by
      rw [inspect, hload]
      rfl
    rw [hinspect]
    rcases (bind_eq_error _ _ _).mp hread with hfound | ⟨found, hfound, hitem⟩
    · exact Or.inl hfound
    · obtain ⟨ds, rest, rfl⟩ := mapM_id_eq_error found e hitem
      exact Or.inr ⟨ds, rest, hfound⟩

end SourceFile

/-! ## Dumps -/

theorem buildAll_eq (ds : List Declaration) :
    buildAll ds = ds.mapM (fun d => (Service.build d).mapError
      (fun e => ("invalid service declaration '" ++ d.name ++ "'") :: e.chain)) := by
  induction ds with
  | nil => rfl
  | cons d ds ih =>
    rw [buildAll, List.mapM_cons, ih]

theorem forall₂_build_iff (ds : List Declaration) (services : List Service) :
    List.Forall₂ (fun d s => Service.build d = .ok s) ds services ↔
      ds.map Service.build = services.map .ok := by
  rw [← List.forall₂_eq_eq_eq, List.forall₂_map_left_iff, List.forall₂_map_right_iff]

theorem buildAll_eq_ok (ds : List Declaration) (services : List Service) :
    buildAll ds = .ok services ↔ ds.map Service.build = services.map .ok := by
  rw [buildAll_eq, mapM_eq_ok]
  simp only [mapError_eq_ok]
  exact forall₂_build_iff ds services

theorem decls_ofFiles (tree : FileTree) (files : List SourceFile) :
    (Accepted.ofFiles tree files).decls =
      files.flatMap (fun f => sourceDecls (f.inspect tree)) := by
  rw [Accepted.ofFiles_eq, Accepted.ofSources_eq, List.flatMap_map]

theorem readAllDeclarations_eq_ok {tree : FileTree} {files : List SourceFile}
    {ds : List Declaration} (h : readAllDeclarations tree files = .ok ds) :
    (∀ f ∈ files, f.IsRead tree) ∧ (Accepted.ofFiles tree files).decls = ds := by
  rw [readAllDeclarations_eq] at h
  rw [decls_ofFiles]
  cases hread : files.mapM (SourceFile.readAll tree) with
  | error errors =>
    rw [hread] at h
    cases h
  | ok dss =>
    rw [hread] at h
    cases h
    have hall := (mapM_eq_ok _ _ _).mp hread
    clear hread
    simp only [SourceFile.readAll_eq_ok] at hall
    induction hall with
    | nil => simp
    | cons hf _ ih =>
      obtain ⟨hfiles, hdecls⟩ := ih
      refine ⟨List.forall_mem_cons.mpr ⟨⟨_, hf⟩, hfiles⟩, ?_⟩
      rw [List.flatMap_cons, List.flatten_cons, hdecls, hf, sourceDecls, List.filterMap_map]
      congr 1
      exact List.filterMap_some

theorem dumpServices_eq_ok {tree : FileTree} {files : List SourceFile} {services : List Service}
    (h : dumpServices tree files = .ok services) :
    (∀ f ∈ files, f.IsRead tree) ∧
      (Accepted.ofFiles tree files).decls.map Service.build = services.map .ok := by
  obtain ⟨ds, hread, hbuild⟩ := (bind_eq_ok _ _ _).mp h
  obtain ⟨hfiles, rfl⟩ := readAllDeclarations_eq_ok hread
  exact ⟨hfiles, (buildAll_eq_ok _ _).mp hbuild⟩

theorem stopsAt_of_readAllDeclarations {tree : FileTree} {files : List SourceFile}
    {errors : List String} (h : readAllDeclarations tree files = .error errors) :
    ∃ e, StopsAt tree files e errors := by
  rw [readAllDeclarations_eq] at h
  cases hread : files.mapM (SourceFile.readAll tree) with
  | ok dss =>
    rw [hread] at h
    cases h
  | error errors' =>
    rw [hread] at h
    cases h
    obtain ⟨before, f, after, hfiles, hbefore, hf⟩ := (mapM_eq_error _ _ _).mp hread
    have hisRead : ∀ g ∈ before, g.IsRead tree := by
      intro g hg
      obtain ⟨ds, hds⟩ := hbefore g hg
      exact ⟨ds, (SourceFile.readAll_eq_ok _ _ _).mp hds⟩
    rcases SourceFile.readAll_eq_error hf with
      ⟨e, hload, rfl⟩ | ⟨loaded, hload, e, rfl, hsource | ⟨ds, rest, hitem⟩⟩
    · exact ⟨e, .load hfiles hisRead hload⟩
    · exact ⟨e, .source hfiles hisRead hload hsource⟩
    · exact ⟨e, .declaration hfiles hisRead hitem⟩

theorem stopsAt_of_dumpServices {tree : FileTree} {files : List SourceFile} {errors : List String}
    (h : dumpServices tree files = .error errors) : ∃ e, StopsAt tree files e errors := by
  rcases (bind_eq_error _ _ _).mp h with hread | ⟨ds, hread, hbuild⟩
  · exact stopsAt_of_readAllDeclarations hread
  · obtain ⟨hfiles, hdecls⟩ := readAllDeclarations_eq_ok hread
    rw [buildAll_eq] at hbuild
    obtain ⟨before, d, after, rfl, hbefore, hd⟩ := (mapM_eq_error _ _ _).mp hbuild
    simp only [mapError_eq_ok] at hbefore
    obtain ⟨e, he, rfl⟩ := (mapError_eq_error _ _ _).mp hd
    exact ⟨e, .service hfiles hdecls hbefore he⟩

/-! ## Causes of faults -/

theorem not_isDuplicate_of_load {tree : FileTree} {f : SourceFile} {e : Error}
    (h : f.load tree = .error e) : ¬ e.IsDuplicate := by
  rintro ⟨service, file, other, rfl⟩
  unfold SourceFile.load at h
  split at h
  · cases h
  · split at h <;> cases h

theorem not_isDuplicate_of_format {format : SourceFormat} {path text package : String} {e : Error}
    (h : format.inspect path text package = .error e) : ¬ e.IsDuplicate := by
  rintro ⟨service, file, other, rfl⟩
  cases format with
  | idl =>
    unfold SourceFormat.inspect Idl.inspect at h
    simp only at h
    split at h <;> cases h
  | json =>
    unfold SourceFormat.inspect readDeclarations at h
    simp only at h
    split at h <;> cases h

theorem not_isDuplicate_of_inspect {tree : FileTree} {f : SourceFile} {e : Error}
    (h : f.inspect tree = .error e) : ¬ e.IsDuplicate := by
  rcases (bind_eq_error _ _ _).mp h with hload | ⟨loaded, -, hfound⟩
  · exact not_isDuplicate_of_load hload
  · exact not_isDuplicate_of_format hfound

theorem Idl.not_isDuplicate_of_itemMarkers {name : String} {attrs : List Attribute} {e : Error}
    (h : itemMarkers name attrs = .error e) : ¬ e.IsDuplicate := by
  obtain ⟨text, -, rfl⟩ := (mapError_eq_error _ _ _).mp h
  rintro ⟨service, file, other, h⟩
  cases h

theorem Idl.holdsOfItems_not_isDuplicate :
    HoldsOfItems (fun _ => True) (fun x => ∀ e, x = .error e → ¬ e.IsDuplicate) := by
  constructor
  case module => exact fun _ _ _ => trivial
  case trait =>
    intro package name attrs methods _ e he
    rcases (bind_eq_error _ _ _).mp he with hmarkers | ⟨_, -, he⟩
    · exact not_isDuplicate_of_itemMarkers hmarkers
    · rcases (bind_eq_error _ _ _).mp he with hmethods | ⟨_, -, he⟩
      · obtain ⟨_, m, _, -, -, hm⟩ := (mapM_eq_error _ _ _).mp hmethods
        obtain ⟨cause, -, rfl⟩ := (mapError_eq_error _ _ _).mp hm
        rintro ⟨service, file, other, h⟩
        cases h
      · cases he
  case plain =>
    intro package kind name attrs _ e he
    rcases (bind_eq_error _ _ _).mp he with hmarkers | ⟨_, -, he⟩
    · exact not_isDuplicate_of_itemMarkers hmarkers
    · cases he

theorem not_isDuplicate_of_mem {tree : FileTree} {f : SourceFile} {found : List Inspected}
    {e : Error} (h : f.inspect tree = .ok found) (he : .error e ∈ found) : ¬ e.IsDuplicate := by
  obtain ⟨⟨format, text⟩, -, hfound⟩ := (bind_eq_ok _ _ _).mp h
  cases format with
  | idl =>
    unfold SourceFormat.inspect Idl.inspect at hfound
    simp only at hfound
    split at hfound
    · cases hfound
      exact Idl.holdsOfItems_not_isDuplicate.items _ trivial _ _ he e rfl
    · cases hfound
  | json =>
    -- A document is read as a whole, so no declaration of it fails alone.
    unfold SourceFormat.inspect at hfound
    simp only at hfound
    cases hread : readDeclarations f.path.text text f.package with
    | error _ =>
      rw [hread] at hfound
      cases hfound
    | ok ds =>
      rw [hread] at hfound
      cases hfound
      simp at he

theorem not_isDuplicate_of_build {d : Declaration} {e : Error} (h : Service.build d = .error e) :
    ¬ e.IsDuplicate := by
  rintro ⟨service, file, other, rfl⟩
  cases firstFault_of_build h

theorem StopsAt.not_isDuplicate {tree : FileTree} {files : List SourceFile} {e : Error}
    {errors : List String} (h : StopsAt tree files e errors) : ¬ e.IsDuplicate := by
  cases h with
  | load _ _ hload => exact not_isDuplicate_of_load hload
  | source _ _ _ hinspect => exact not_isDuplicate_of_inspect hinspect
  | declaration _ _ hinspect => exact not_isDuplicate_of_mem hinspect (by simp)
  | service _ _ _ hbuild => exact not_isDuplicate_of_build hbuild

/-! ## Reports -/

theorem failures_ofFiles (tree : FileTree) (files : List SourceFile) :
    (Accepted.ofFiles tree files).report.failures =
      files.flatMap (fun f => sourceFailures f.path.text (f.inspect tree)) := by
  rw [Accepted.ofFiles_eq, Accepted.ofSources_eq]
  exact List.flatMap_map ..

namespace Generator

variable (g : Generator) (tree : FileTree) (files : List SourceFile)

theorem reported_of_source {f : SourceFile} {failure : Failure} (hf : f ∈ files)
    (h : failure ∈ sourceFailures f.path.text (f.inspect tree)) :
    failure ∈ (g.plan (.ofFiles tree files)).finalReport.failures := by
  rw [(g.accounts _).failures, failures_ofFiles]
  apply List.mem_append_left
  exact List.mem_flatMap.mpr ⟨f, hf, h⟩

theorem reported_of_inspect {f : SourceFile} {e : Error} (hf : f ∈ files)
    (h : f.inspect tree = .error e) :
    ⟨f.path.text, e⟩ ∈ (g.plan (.ofFiles tree files)).finalReport.failures := by
  apply g.reported_of_source tree files hf
  rw [h]
  exact List.mem_cons_self

theorem reported_of_stopsAt {e : Error} {errors : List String} (h : StopsAt tree files e errors) :
    ∃ source, ⟨source, e⟩ ∈ (g.plan (.ofFiles tree files)).finalReport.failures := by
  cases h with
  | @load before after f e hfiles _ hload =>
    have hinspect : f.inspect tree = .error e := (bind_eq_error _ _ _).mpr (Or.inl hload)
    exact ⟨_, g.reported_of_inspect tree files (by simp [hfiles]) hinspect⟩
  | @source before after f loaded e hfiles _ _ hinspect =>
    exact ⟨_, g.reported_of_inspect tree files (by simp [hfiles]) hinspect⟩
  | @declaration before after f ds rest e hfiles _ hinspect =>
    have hf : f ∈ files := by simp [hfiles]
    have hmem : ⟨e.service?.getD f.path.text, e⟩ ∈ sourceFailures f.path.text (f.inspect tree) := by
      rw [hinspect]
      exact List.mem_filterMap.mpr ⟨.error e, by simp, rfl⟩
    exact ⟨_, g.reported_of_source tree files hf hmem⟩
  | @service before after d e _ hdecls _ hbuild =>
    have hd : (Accepted.ofFiles tree files).decls[before.length]? = some d := by simp [hdecls]
    have hat := (g.accounts _).invalid _ d e hd hbuild
    refine ⟨d.name, ?_⟩
    rw [(g.accounts _).failures]
    apply List.mem_append_right
    exact List.mem_filterMap.mpr ⟨_, List.mem_of_getElem? hat, rfl⟩

theorem isDuplicate_of_valid (a : Accepted) (h : ∀ d ∈ a.decls, ∃ s, Service.build d = .ok s)
    (f : Failure) (hf : f ∈ Outcome.failures (g.outcomes a)) : f.error.IsDuplicate := by
  obtain ⟨o, ho, hfailure⟩ := List.mem_filterMap.mp hf
  obtain ⟨i, hi⟩ := List.getElem?_of_mem ho
  obtain ⟨d, hd⟩ := g.exists_decl a hi
  obtain ⟨s, hs⟩ := h d (List.mem_of_getElem? hd)
  have hat := g.outcome_at a i d hd
  rw [hi, Option.some.injEq] at hat
  rcases (g.planBefore a i).outcome_cases g.config.outputPath d with
    heq | ⟨service, file, other, heq⟩
  · rw [hat, heq, Declaration.outcome, hs] at hfailure
    cases hfailure
  · rw [hat, heq] at hfailure
    cases hfailure
    exact ⟨service, file, other, rfl⟩

theorem isDuplicate_of_dumpServices {services : List Service}
    (h : dumpServices tree files = .ok services) :
    ∀ f ∈ (g.plan (.ofFiles tree files)).finalReport.failures, f.error.IsDuplicate := by
  obtain ⟨hread, hbuild⟩ := dumpServices_eq_ok h
  have hsources : (Accepted.ofFiles tree files).report.failures = [] := by
    rw [failures_ofFiles, List.flatMap_eq_nil_iff]
    intro f hf
    obtain ⟨ds, hds⟩ := hread f hf
    rw [hds]
    simp [sourceFailures, Inspected.failure?, List.filterMap_map, Function.comp_def]
  rw [(g.accounts _).failures, hsources, List.nil_append]
  apply g.isDuplicate_of_valid
  intro d hd
  have hmem := List.mem_map_of_mem (f := Service.build) hd
  rw [hbuild] at hmem
  obtain ⟨s, -, hs⟩ := List.mem_map.mp hmem
  exact ⟨s, hs.symm⟩

end Generator

/-! ## Commands -/

theorem Json.Value.prettyElems_eq (depth : Nat) (vs : List Json.Value) :
    prettyElems depth vs =
      [','].intercalate (vs.map (fun v => newline depth ++ v.pretty depth)) := by
  induction vs with
  | nil => rfl
  | cons v vs ih =>
    cases vs with
    | nil => simp [prettyElems]
    | cons w vs =>
      rw [prettyElems, ih]
      · simp [List.intercalate_cons_cons]
      · simp

def Service.printed (s : Service) : List Char := Json.Value.newline 1 ++ s.dump.pretty 1

theorem dumpText_toList (services : List Service) :
    (dumpText services).toList = '[' :: [','].intercalate (services.map Service.printed) ++
      (if services.isEmpty then [']'] else ['\n', ']']) := by
  cases services with
  | nil => decide
  | cons s services =>
    have helems := Json.Value.prettyElems_eq 1 ((s :: services).map Service.dump)
    rw [List.map_map] at helems
    rw [dumpText, Json.Value.prettyText, String.toList_ofList, List.map_cons, Json.Value.pretty,
      ← List.map_cons, helems, List.append_assoc]
    · rfl
    · simp

theorem runDump_eq {package : Option String} {paths : List Path} {tree : FileTree}
    {files : List SourceFile}
    (h : SourceConfig.allFiles tree (FileTree.pathOf tree.cwd)
      (paths.map (⟨·, [], package⟩)) = .ok files) :
    runDump package paths tree = .ofDump (dumpServices tree files) := by
  unfold runDump
  simp only [h]
  rfl

theorem Generator.generate_eq {g : Generator} {tree : FileTree} {files : List SourceFile}
    (h : SourceConfig.allFiles tree g.config.baseDir g.config.sources = .ok files) :
    g.generate.after tree = (g.generateFor (.ofFiles tree files)).after tree := by
  unfold Generator.generate
  rw [Disk.after_bind]
  show Disk.after (liftM (SourceConfig.allFiles tree g.config.baseDir g.config.sources) >>=
    fun files => g.generateFor (.ofFiles tree files)) tree = _
  rw [h]
  rfl

/-- A dump of some files succeeds if and only if the generator finds no fault in them but files that
are written twice. Both then build the same services. Otherwise the fault at which the dump stops
is one that the generator reports. What a dump prints is one element for each service, in order. -/
theorem dump_agrees_with_generator (g : Generator) (tree tree' : FileTree)
    (files : List SourceFile) (report : Report)
    (h : (g.generateFor (.ofFiles tree files)).after tree = (.ok report, tree')) :
    ((∃ services, dumpServices tree files = .ok services) ↔
      ∀ f ∈ report.failures, f.error.IsDuplicate) ∧
    (∀ services, dumpServices tree files = .ok services →
      (Accepted.ofFiles tree files).decls.map Service.build = services.map .ok) ∧
    (∀ errors, dumpServices tree files = .error errors →
      ∃ e, StopsAt tree files e errors ∧ ∃ source, ⟨source, e⟩ ∈ report.failures) ∧
    (∀ package paths,
      SourceConfig.allFiles tree (FileTree.pathOf tree.cwd)
        (paths.map (⟨·, [], package⟩)) = .ok files →
      runDump package paths tree = .ofDump (dumpServices tree files)) ∧
    (∀ services, ∃ text, CommandResult.ofDump (.ok services) = .success (text ++ "\n") ∧
      text.toList = '[' :: [','].intercalate (services.map Service.printed) ++
        (if services.isEmpty then [']'] else ['\n', ']'])) ∧
    (SourceConfig.allFiles tree g.config.baseDir g.config.sources = .ok files →
      g.generate.after tree = (.ok report, tree')) := by
  obtain rfl := Generator.generateFor_report h
  have hstops : ∀ errors, dumpServices tree files = .error errors →
      ∃ e, StopsAt tree files e errors ∧
        ∃ source, ⟨source, e⟩ ∈ (g.plan (.ofFiles tree files)).finalReport.failures := by
    intro errors herrors
    obtain ⟨e, he⟩ := stopsAt_of_dumpServices herrors
    exact ⟨e, he, g.reported_of_stopsAt tree files he⟩
  refine ⟨⟨?_, ?_⟩, ?_, hstops, ?_, ?_, ?_⟩
  · rintro ⟨services, hservices⟩
    exact g.isDuplicate_of_dumpServices tree files hservices
  · intro hdup
    cases hdump : dumpServices tree files with
    | ok services => exact ⟨services, rfl⟩
    | error errors =>
      obtain ⟨e, he, source, hmem⟩ := hstops errors hdump
      exact absurd (hdup _ hmem) he.not_isDuplicate
  · intro services hservices
    exact (dumpServices_eq_ok hservices).2
  · intro package paths hfiles
    exact runDump_eq hfiles
  · intro services
    exact ⟨dumpText services, rfl, dumpText_toList services⟩
  · intro hfiles
    rw [Generator.generate_eq hfiles, h]

theorem inspect_document {tree : FileTree} {f : SourceFile} {ds : List Declaration}
    (hformat : SourceFile.format? f.path = some .json)
    (hbytes : tree.readBytes f.path = .ok (declarationsText ds).toUTF8)
    (hdepth : (Json.Value.array (ds.map Declaration.toJson)).depth ≤ 127)
    (hpackage : ∀ d ∈ ds, d.package ≠ "") : f.inspect tree = .ok (ds.map .ok) := by
  have hread : tree.read f.path = .ok (declarationsText ds) := by
    simp only [FileTree.read, hbytes, String.fromUTF8?, String.toUTF8_eq_toByteArray,
      (declarationsText ds).isValidUTF8, dif_pos]
    rfl
  have hload : f.load tree = .ok (.json, declarationsText ds) := by
    simp only [SourceFile.load, hformat, hread]
  rw [SourceFile.inspect, hload]
  exact inspect_of_packages hdepth hpackage

def echoDecls : List Declaration := [echo "a-b" "Echo", echo "aB" "ECHO"]

def echoTree : FileTree where
  entries := [(["w"], .directory), (["w", "idl.json"], .file (declarationsText echoDecls).toUTF8)]
  cwd := ["w"]

def document : SourceFile := ⟨⟨"idl.json"⟩, "net"⟩

def notes : SourceFile := ⟨⟨"notes.txt"⟩, "net"⟩

theorem document_inspect : document.inspect echoTree = .ok (echoDecls.map .ok) := by
  apply inspect_document
  · decide +kernel
  · rfl
  · decide +kernel
  · decide

def notesMessage : String := "'notes.txt' is not a .rs or .json declaration file"

theorem ofFiles_document :
    Accepted.ofFiles echoTree [document] = .ofSources [("idl.json", .ok (echoDecls.map .ok))] := by
  rw [Accepted.ofFiles_eq]
  simp only [List.map_cons, List.map_nil, document_inspect]
  rfl

theorem dump_agrees_with_generator_echoes :
    (∃ report tree',
      (plainGenerator.generateFor (.ofFiles echoTree [document])).after echoTree =
        (.ok report, tree') ∧
      report.failures = [⟨"ECHO", .duplicateOutput "ECHO" "out/a_b/echo.rs" "Echo"⟩] ∧
      ∃ services, dumpServices echoTree [document] = .ok services) ∧
    ∃ report tree',
      (plainGenerator.generateFor (.ofFiles echoTree [notes])).after echoTree =
        (.ok report, tree') ∧
      report.failures = [⟨"notes.txt", .missingFile notesMessage⟩] ∧
      ∃ errors, dumpServices echoTree [notes] = .error errors ∧
        StopsAt echoTree [notes] (.missingFile notesMessage) errors := by
  constructor
  · obtain ⟨report, tree', h, hfailures⟩ := exists_run plainGenerator
      (.ofSources [("idl.json", .ok (echoDecls.map .ok))]) echoTree
      (fun report => report.failures =
        [⟨"ECHO", .duplicateOutput "ECHO" "out/a_b/echo.rs" "Echo"⟩]) (by decide +kernel)
    rw [← ofFiles_document] at h
    refine ⟨report, tree', h, hfailures, ?_⟩
    apply (dump_agrees_with_generator _ _ _ _ _ h).1.mpr
    rw [hfailures]
    simp [Error.IsDuplicate]
  · obtain ⟨report, tree', h, hfailures⟩ := exists_run plainGenerator
      (.ofFiles echoTree [notes]) echoTree
      (fun report => report.failures = [⟨"notes.txt", .missingFile notesMessage⟩])
      (by decide +kernel)
    refine ⟨report, tree', h, hfailures, ?_⟩
    obtain ⟨hsucceeds, -, hstops, -⟩ := dump_agrees_with_generator _ _ _ _ _ h
    rw [hfailures] at hsucceeds hstops
    cases hdump : dumpServices echoTree [notes] with
    | ok services =>
      obtain ⟨service, file, other, heq⟩ := hsucceeds.mp ⟨services, hdump⟩ _ List.mem_cons_self
      cases heq
    | error errors =>
      obtain ⟨e, he, source, hmem⟩ := hstops errors hdump
      cases List.mem_singleton.mp hmem
      exact ⟨errors, rfl, he⟩

end RpcStubs
