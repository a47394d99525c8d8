import RpcStubs.Proofs.Below
import RpcStubs.Proofs.Contents
import RpcStubs.Proofs.Isolation

/-!
# Files that are written over

The files of a run are at different places, but for one name: a module `mod` has the place of the
index of its directory, and the index is written last.
-/

namespace RpcStubs

/-! ## Names of files -/

theorem mem_paths {output : Path} {s : Service} {p : Path} :
    p ∈ s.paths output ↔ ∃ file ∈ s.fileIds, outputFile output file = p :=
  List.mem_map

theorem join_file_samePlace {p q : Path} {m n : String} (hm : ∀ c ∈ m.toList, Text.PathSafe c)
    (hn : ∀ c ∈ n.toList, Text.PathSafe c) :
    (p.join (m ++ ".rs")).SamePlace (q.join (n ++ ".rs")) ↔ p.SamePlace q ∧ m = n := by
  rw [Path.SamePlace, Path.components_join_file p m hm, Path.components_join_file q n hn]
  constructor
  · intro h
    obtain ⟨hdir, hname⟩ := List.append_inj' h rfl
    simp only [List.cons.injEq, Component.name.injEq, and_true] at hname
    exact ⟨hdir, (String.append_left_inj _).mp hname⟩
  · rintro ⟨hdir, rfl⟩
    rw [hdir]

theorem indexName_eq : indexName = "mod" ++ ".rs" := by decide

theorem pathSafe_mod : ∀ c ∈ "mod".toList, Text.PathSafe c := by simp [Text.PathSafe]

theorem join_file_samePlace_index {p dir : Path} {m : String}
    (h : ∀ c ∈ m.toList, Text.PathSafe c) :
    (p.join (m ++ ".rs")).SamePlace (dir.join indexName) ↔ p.SamePlace dir ∧ m = "mod" := by
  rw [indexName_eq, join_file_samePlace h pathSafe_mod]

theorem join_index_samePlace {p q : Path} :
    (p.join indexName).SamePlace (q.join indexName) ↔ p.SamePlace q := by
  rw [indexName_eq, join_file_samePlace pathSafe_mod pathSafe_mod, and_iff_left rfl]

/-! ## Files of a run -/

theorem Outcome.service?_eq_some {o : Outcome} {s : Service} :
    o.service? = some s ↔ o = .generated s := by
  cases o <;> simp [service?]

namespace Generator

variable (g : Generator) (a : Accepted)

def services : List Service := Outcome.services (g.outcomes a)

theorem plan_writes : (g.plan a).writes = (g.services a).flatMap
    (Plan.serviceWrites g.config.outputPath g.config.renderer) := by
  rw [plan_eq, Plan.foldl_record]
  rfl

theorem plan_index : (g.plan a).index =
    (g.services a).foldl (Plan.indexService g.config.outputPath) .empty := by
  rw [plan_eq, Plan.foldl_record]
  rfl

theorem plan_generated : (g.plan a).report.generated =
    a.report.generated ++ (g.services a).flatMap (Service.paths g.config.outputPath) := by
  rw [plan_eq, Plan.foldl_record]
  rfl

theorem index_sorted : (g.plan a).index.Sorted := by
  rw [plan_index]
  exact Plan.sorted_foldl_indexService _ _ _ List.Pairwise.nil

theorem index_hasDir (dir : Path) : (g.plan a).index.HasDir dir ↔
    ∃ s ∈ g.services a, ∃ d ∈ packageDirs g.config.outputPath s.package, dir.SamePlace d := by
  rw [plan_index, Plan.hasDir_foldl_indexService]
  simp [ModuleIndex.HasDir, ModuleIndex.empty]

theorem services_apart : (g.services a).Pairwise (fun s t =>
    ∀ p ∈ s.paths g.config.outputPath, ∀ q ∈ t.paths g.config.outputPath, ¬ p.SamePlace q) := by
  unfold services Outcome.services
  rw [List.pairwise_filterMap, List.pairwise_iff_getElem]
  intro i j hi hj hlt s hs t ht p hp q hq hsame
  have hsi : (g.outcomes a)[i]? = some (.generated s) := by
    rw [List.getElem?_eq_getElem hi, Outcome.service?_eq_some.mp hs]
  have htj : (g.outcomes a)[j]? = some (.generated t) := by
    rw [List.getElem?_eq_getElem hj, Outcome.service?_eq_some.mp ht]
  obtain ⟨d, hd⟩ := g.exists_decl a htj
  obtain ⟨-, hfree⟩ := (g.generated_iff a j d t hd).mp htj
  exact hfree q hq i ⟨hlt, s, hsi, p, hp, hsame.symm⟩

theorem built_of_mem_services {s : Service} (hs : s ∈ g.services a) : ∃ d, Built d s := by
  obtain ⟨i, hi⟩ := List.mem_iff_getElem?.mp (Outcome.mem_services.mp hs)
  obtain ⟨d, hd⟩ := g.exists_decl a hi
  obtain ⟨hb, -⟩ := (g.generated_iff a i d s hd).mp hi
  exact ⟨d, (build_eq_ok d s).mp hb⟩

theorem paths_apart : ((g.services a).flatMap (Service.paths g.config.outputPath)).Pairwise
    (fun p q => ¬ p.SamePlace q) := by
  rw [List.pairwise_flatMap]
  constructor
  · intro s hs
    obtain ⟨d, hd⟩ := g.built_of_mem_services a hs
    exact paths_pairwise hd _
  · exact g.services_apart a

theorem indexes_apart : (g.plan a).indexWrites.Pairwise (fun v w => ¬ v.path.SamePlace w.path) := by
  unfold Plan.indexWrites
  rw [List.pairwise_map]
  apply (g.index_sorted a).apart.imp
  intro e e' hapart hsame
  exact hapart (join_index_samePlace.mp hsame)

end Generator

/-! ## Places -/

/-- A path that adds names to another. -/
def Path.Below (output p : Path) : Prop :=
  ∃ names : List String, p.components = output.components ++ names.map .name

theorem foldl_step_names (place : Place) (names : List String) :
    (names.map Component.name).foldl Component.step place = place ++ names := by
  induction names generalizing place with
  | nil => simp
  | cons name names ih => simp [ih, Component.step]

theorem Path.Below.samePlace {output p q : Path} (hp : output.Below p) (hq : output.Below q)
    {cwd : Place} (h : p.placeFrom cwd = q.placeFrom cwd) : p.SamePlace q := by
  obtain ⟨ns, hns⟩ := hp
  obtain ⟨ms, hms⟩ := hq
  simp only [placeFrom, hns, hms, List.foldl_append, foldl_step_names] at h
  rw [SamePlace, hns, hms, List.append_cancel_left h]

theorem below_of_added {output p : Path} {names : List String}
    (h : p.components = output.components ++ addedComponents names) : output.Below p :=
  ⟨names.filter (· ≠ ""), h⟩

theorem Path.Below.join_file {output dir : Path} (h : output.Below dir) {m : String}
    (hm : ∀ c ∈ m.toList, Text.PathSafe c) : output.Below (dir.join (m ++ ".rs")) := by
  obtain ⟨names, hnames⟩ := h
  refine ⟨names ++ [m ++ ".rs"], ?_⟩
  rw [components_join_file dir m hm, hnames, List.append_assoc, List.map_append]
  rfl

/-- Of writes below one directory, one that is apart from those behind it can be read in the end. -/
theorem AllDone.read_of_apart {output : Path} {before ws after : List Write} {t t' : FileTree}
    (h : AllDone (before ++ (ws ++ after)) t t')
    (hbelow : ∀ v ∈ ws ++ after, output.Below v.path)
    (hapart : ws.Pairwise (fun v w => ¬ v.path.SamePlace w.path)) {w : Write} (hw : w ∈ ws)
    (hafter : ∀ v ∈ after, ¬ w.path.SamePlace v.path) :
    t'.readBytes w.path = .ok w.content.toUTF8 := by
  obtain ⟨earlier, later, rfl⟩ := List.append_of_mem hw
  rw [List.append_assoc, List.cons_append, ← List.append_assoc] at h
  apply h.read
  intro v hv hplace
  have hmem : v ∈ (earlier ++ w :: later) ++ after := by
    rw [List.append_assoc, List.cons_append]
    exact List.mem_append_right _ (List.mem_cons_of_mem _ hv)
  have hsame := (hbelow w (List.mem_append_left _ hw)).samePlace (hbelow v hmem) hplace
  rcases List.mem_append.mp hv with hv | hv
  · rw [List.pairwise_append, List.pairwise_cons] at hapart
    exact hapart.2.1.1 v hv hsame
  · exact hafter v hv hsame

namespace Generator

variable (g : Generator) (a : Accepted)

theorem writes_paths : (g.plan a).writes.map Write.path =
    (g.services a).flatMap (Service.paths g.config.outputPath) := by
  rw [plan_writes, List.map_flatMap]
  simp only [Plan.serviceWrites_paths]

theorem writes_apart : (g.plan a).writes.Pairwise (fun v w => ¬ v.path.SamePlace w.path) := by
  have h := g.paths_apart a
  rwa [← writes_paths, List.pairwise_map] at h

theorem mem_writes {w : Write} : w ∈ (g.plan a).writes ↔
    ∃ s ∈ g.services a, ∃ f ∈ g.config.renderer.renderService s,
      w = ⟨packageDir g.config.outputPath f.1.package, outputFile g.config.outputPath f.1,
        f.2⟩ := by
  rw [plan_writes, List.mem_flatMap]
  simp only [Plan.serviceWrites, List.mem_map, eq_comm]

theorem write_below {w : Write} (hw : w ∈ (g.plan a).writes) :
    g.config.outputPath.Below w.path := by
  obtain ⟨s, -, f, hf, rfl⟩ := (g.mem_writes a).mp hw
  obtain ⟨-, hsafe⟩ := fileIds_safe s f.1 (mem_fileIds_of_rendered hf)
  exact (below_of_added (components_packageDir _ _)).join_file hsafe

theorem dir_below {e : Path × List String} (he : e ∈ (g.plan a).index.dirs) :
    g.config.outputPath.Below e.1 := by
  obtain ⟨s, -, d, hd, hsame⟩ := (g.index_hasDir a e.1).mp ⟨e, he, rfl⟩
  obtain ⟨before, after, hnames, rfl⟩ := mem_packageDirs.mp hd
  exact below_of_added (hsame.trans (components_packageDirs hnames))

theorem index_below {w : Write} (hw : w ∈ (g.plan a).indexWrites) :
    g.config.outputPath.Below w.path := by
  obtain ⟨e, he, rfl⟩ := List.mem_map.mp hw
  rw [indexName_eq]
  exact (g.dir_below a he).join_file pathSafe_mod

/-! ## Contents -/

/-- The files of a run before they are formatted. -/
def unformatted (tree : FileTree) : FileTree := ((g.plan a).perform.after tree).2

variable {g a}

theorem perform_of_run {tree tree' : FileTree} {report : Report}
    (h : (g.generateFor a).after tree = (.ok report, tree')) :
    (g.plan a).perform.after tree = (.ok report, g.unformatted a tree) ∧
      (g.formatter = [] → tree' = g.unformatted a tree) := by
  obtain ⟨written, mid, hplan, h⟩ := Disk.after_bind_eq_ok h
  obtain ⟨_, last, hformat, h⟩ := Disk.after_bind_eq_ok h
  cases h
  have hmid : g.unformatted a tree = mid := by rw [unformatted, hplan]
  refine ⟨by rw [hplan, hmid], fun hnone => ?_⟩
  rw [hmid]
  rw [hnone] at hformat
  cases hformat
  rfl

theorem index_read {tree tree' : FileTree} {report : Report}
    (h : (g.generateFor a).after tree = (.ok report, tree')) {w : Write}
    (hw : w ∈ (g.plan a).indexWrites) :
    (g.unformatted a tree).readBytes w.path = .ok w.content.toUTF8 := by
  have hdone := Plan.allDone (perform_of_run h).1
  have hbelow : ∀ v ∈ (g.plan a).indexWrites ++ [], g.config.outputPath.Below v.path := by
    intro v hv
    rw [List.append_nil] at hv
    exact g.index_below a hv
  rw [← List.append_nil (g.plan a).indexWrites] at hdone
  exact hdone.read_of_apart hbelow (g.indexes_apart a) hw (by simp)

theorem write_read {tree tree' : FileTree} {report : Report}
    (h : (g.generateFor a).after tree = (.ok report, tree')) {w : Write}
    (hw : w ∈ (g.plan a).writes)
    (hindex : ∀ v ∈ (g.plan a).indexWrites, ¬ w.path.SamePlace v.path) :
    (g.unformatted a tree).readBytes w.path = .ok w.content.toUTF8 := by
  have hdone := Plan.allDone (perform_of_run h).1
  have hbelow : ∀ v ∈ (g.plan a).writes ++ (g.plan a).indexWrites,
      g.config.outputPath.Below v.path := by
    intro v hv
    rcases List.mem_append.mp hv with hv | hv
    · exact g.write_below a hv
    · exact g.index_below a hv
  rw [← List.nil_append (_ ++ _)] at hdone
  exact hdone.read_of_apart hbelow (g.writes_apart a) hw hindex

theorem generated_eq {tree tree' : FileTree} {report : Report}
    (h : (g.generateFor a).after tree = (.ok report, tree')) :
    report.generated = a.report.generated ++
      ((g.services a).flatMap (Service.paths g.config.outputPath) ++
        (g.plan a).indexWrites.map Write.path) := by
  rw [generateFor_report h, Plan.finalReport, plan_generated, List.append_assoc]

theorem generated_ofSources {sources : List (String × Except Error (List Inspected))}
    {tree tree' : FileTree} {report : Report}
    (h : (g.generateFor (.ofSources sources)).after tree = (.ok report, tree')) :
    report.generated =
      (g.services (.ofSources sources)).flatMap (Service.paths g.config.outputPath) ++
        (g.plan (.ofSources sources)).indexWrites.map Write.path := by
  have hempty : (Accepted.ofSources sources).report.generated = [] := by
    rw [Accepted.ofSources_eq]
  rw [generated_eq h, hempty, List.nil_append]

theorem exists_index_of_mem {s : Service} (hs : s ∈ g.services a) {file : FileId}
    (hfile : file ∈ s.fileIds) : ∃ w ∈ (g.plan a).indexWrites,
      ∃ dir : Path, w.path = dir.join indexName ∧
        (packageDir g.config.outputPath file.package).SamePlace dir := by
  obtain ⟨hpackage, -⟩ := fileIds_safe s file hfile
  obtain ⟨e, he, hsame⟩ := (g.index_hasDir a (packageDir g.config.outputPath file.package)).mpr
    ⟨s, hs, _, packageDir_mem_packageDirs _ _, by rw [hpackage]; rfl⟩
  exact ⟨_, List.mem_map_of_mem he, e.1, rfl, hsame⟩

/-- Only a module with the name of an index is at the place of one. -/
theorem samePlace_index_iff {s : Service} (hs : s ∈ g.services a) {file : FileId}
    (hfile : file ∈ s.fileIds) :
    (∃ w ∈ (g.plan a).indexWrites, (outputFile g.config.outputPath file).SamePlace w.path) ↔
      file.module = "mod" := by
  obtain ⟨-, hsafe⟩ := fileIds_safe s file hfile
  constructor
  · rintro ⟨w, hw, hsame⟩
    obtain ⟨e, -, rfl⟩ := List.mem_map.mp hw
    exact ((join_file_samePlace_index hsafe).mp hsame).2
  · intro hmod
    obtain ⟨w, hw, dir, hpath, hdir⟩ := exists_index_of_mem hs hfile
    exact ⟨w, hw, hpath ▸ (join_file_samePlace_index hsafe).mpr ⟨hdir, hmod⟩⟩

theorem files_apart_iff :
    ((g.services a).flatMap (Service.paths g.config.outputPath) ++
      (g.plan a).indexWrites.map Write.path).Pairwise (fun p q => ¬ p.SamePlace q) ↔
      ∀ s ∈ g.services a, ∀ file ∈ s.fileIds, file.module ≠ "mod" := by
  rw [List.pairwise_append, List.pairwise_map]
  constructor
  · rintro ⟨-, -, hboth⟩ s hs file hfile hmod
    obtain ⟨w, hw, hsame⟩ := (samePlace_index_iff hs hfile).mpr hmod
    exact hboth _ (List.mem_flatMap.mpr ⟨s, hs, mem_paths.mpr ⟨file, hfile, rfl⟩⟩) _
      (List.mem_map_of_mem hw) hsame
  · intro hmod
    refine ⟨g.paths_apart a, g.indexes_apart a, ?_⟩
    intro p hp q hq hsame
    obtain ⟨s, hs, hp⟩ := List.mem_flatMap.mp hp
    obtain ⟨file, hfile, rfl⟩ := mem_paths.mp hp
    obtain ⟨w, hw, rfl⟩ := List.mem_map.mp hq
    exact hmod s hs file hfile ((samePlace_index_iff hs hfile).mp ⟨w, hw, hsame⟩)

theorem artifact_read {tree tree' : FileTree} {report : Report}
    (h : (g.generateFor a).after tree = (.ok report, tree')) {s : Service} (hs : s ∈ g.services a)
    {f : FileId × String} (hf : f ∈ g.config.renderer.renderService s)
    (hmod : f.1.module ≠ "mod") :
    (g.unformatted a tree).readBytes (outputFile g.config.outputPath f.1) = .ok f.2.toUTF8 := by
  have hw := (g.mem_writes a).mpr ⟨s, hs, f, hf, rfl⟩
  apply write_read h hw
  intro v hv hsame
  exact hmod ((samePlace_index_iff hs (mem_fileIds_of_rendered hf)).mp ⟨v, hv, hsame⟩)

end Generator

/-! ## Runs -/

/-- The files of a run are at different places if and only if no module is named like an index. A
file with another name is left as it was rendered, until it is formatted. -/
theorem generated_places_differ_iff (g : Generator)
    (sources : List (String × Except Error (List Inspected))) (tree tree' : FileTree)
    (report : Report)
    (h : (g.generateFor (.ofSources sources)).after tree = (.ok report, tree')) :
    (report.generated.Pairwise (fun p q => ¬ p.SamePlace q) ↔
      ∀ s ∈ g.services (.ofSources sources), ∀ file ∈ s.fileIds, file.module ≠ "mod") ∧
    (∀ s ∈ g.services (.ofSources sources), ∀ f ∈ g.config.renderer.renderService s,
      f.1.module ≠ "mod" →
      (g.unformatted (.ofSources sources) tree).readBytes (outputFile g.config.outputPath f.1) =
        .ok f.2.toUTF8) ∧
    (g.formatter = [] → tree' = g.unformatted (.ofSources sources) tree) := by
  refine ⟨?_, ?_, (Generator.perform_of_run h).2⟩
  · rw [Generator.generated_ofSources h]
    exact Generator.files_apart_iff
  · intro s hs f hf hmod
    exact Generator.artifact_read h hs hf hmod

theorem exists_run (g : Generator) (a : Accepted) (tree : FileTree) (P : Report → Prop)
    [DecidablePred P]
    (h : ((g.generateFor a).after tree).1.toOption.any (fun report => decide (P report)) = true) :
    ∃ report tree', (g.generateFor a).after tree = (.ok report, tree') ∧ P report := by
  rcases hrun : (g.generateFor a).after tree with ⟨_ | report, tree'⟩
  · rw [hrun] at h
    cases h
  · rw [hrun] at h
    exact ⟨report, tree', rfl, of_decide_eq_true h⟩

def echoSource (services : List (String × String)) :
    List (String × Except Error (List Inspected)) :=
  [("idl.json", .ok (services.map (fun s => .ok (echo s.1 s.2))))]

theorem generated_places_differ_echo :
    ∃ report tree',
      (plainGenerator.generateFor (.ofSources (echoSource [("", "Echo")]))).after
        (.ofRoot ["w"]) = (.ok report, tree') ∧
      report.services = ["Echo"] ∧ report.generated.Pairwise (fun p q => ¬ p.SamePlace q) := by
  obtain ⟨report, tree', h, hservices⟩ := exists_run plainGenerator
    (.ofSources (echoSource [("", "Echo")])) (.ofRoot ["w"])
    (fun report => report.services = ["Echo"]) (by decide +kernel)
  refine ⟨report, tree', h, hservices, ?_⟩
  apply (generated_places_differ_iff _ _ _ _ _ h).1.mpr
  decide +kernel

/-- The interface `Mod` is reported as generated, but the index of its directory is in its place. -/
theorem mod_written_over :
    ∃ report tree',
      (plainGenerator.generateFor (.ofSources (echoSource [("", "Mod")]))).after
        (.ofRoot ["w"]) = (.ok report, tree') ∧
      report.services = ["Mod"] ∧ report.failures = [] ∧
      ¬ report.generated.Pairwise (fun p q => ¬ p.SamePlace q) ∧
      ∃ s ∈ plainGenerator.services (.ofSources (echoSource [("", "Mod")])),
        ∃ f ∈ plainGenerator.config.renderer.renderService s,
          tree'.readBytes (outputFile plainGenerator.config.outputPath f.1) ≠ .ok f.2.toUTF8 := by
  obtain ⟨report, tree', h, hservices, hfailures, hplaces⟩ := exists_run plainGenerator
    (.ofSources (echoSource [("", "Mod")])) (.ofRoot ["w"])
    (fun report => report.services = ["Mod"] ∧ report.failures = [] ∧
      ¬ report.generated.Pairwise (fun p q => ¬ p.SamePlace q)) (by decide +kernel)
  have hindex : ∃ s ∈ plainGenerator.services (.ofSources (echoSource [("", "Mod")])),
      ∃ f ∈ plainGenerator.config.renderer.renderService s,
        ∃ w ∈ (plainGenerator.plan (.ofSources (echoSource [("", "Mod")]))).indexWrites,
          w.path = outputFile plainGenerator.config.outputPath f.1 ∧ w.content ≠ f.2 := by
    decide +kernel
  obtain ⟨s, hs, f, hf, w, hw, hpath, hcontent⟩ := hindex
  refine ⟨report, tree', h, hservices, hfailures, hplaces, s, hs, f, hf, ?_⟩
  rw [(Generator.perform_of_run h).2 rfl, ← hpath, Generator.index_read h hw]
  intro heq
  exact hcontent (String.toByteArray_inj.mp (Except.ok.inj heq))

end RpcStubs
