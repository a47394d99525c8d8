import RpcStubs.Proofs.Listing

/-!
# Files of listed modules

A module `m` that is listed in a directory is found in the file `m.rs` or in the index of a
directory `m`. It is found in both only if a module and a directory share the name.
-/

namespace RpcStubs

def Report.HasFile (report : Report) (p : Path) : Prop := ∃ q ∈ report.generated, p.SamePlace q

instance (report : Report) (p : Path) : Decidable (report.HasFile p) :=
  inferInstanceAs (Decidable (∃ q ∈ report.generated, p.SamePlace q))

/-- A directory holds a file of a module. -/
def HoldsModule (output : Path) (services : List Service) (dir : Path) (m : String) : Prop :=
  ∃ s ∈ services, ∃ file ∈ s.fileIds,
    file.module = m ∧ dir.SamePlace (packageDir output file.package)

/-- A directory is on the way to the files of a service. -/
def LeadsToFiles (output : Path) (services : List Service) (dir : Path) : Prop :=
  ∃ s ∈ services, ∃ d ∈ packageDirs output s.package, dir.SamePlace d

theorem FileId.ListedIn.cases {file : FileId} {output dir : Path} {m : String}
    (h : file.ListedIn output dir m) (hm : ∀ c ∈ m.toList, Text.PathSafe c) :
    (file.module = m ∧ dir.SamePlace (packageDir output file.package)) ∨
      ∃ d ∈ packageDirs output file.package, (dir.join m).SamePlace d := by
  obtain ⟨before, after, hsplit, hdir⟩ := h
  rcases List.eq_nil_or_concat after with rfl | ⟨after, last, rfl⟩
  · obtain ⟨hpackage, hname⟩ := List.append_inj' hsplit rfl
    left
    refine ⟨List.singleton_inj.mp hname, ?_⟩
    rw [Path.SamePlace, hdir, components_packageDir, hpackage]
  · have hnames : packageNames file.package = (before ++ [m]) ++ after := by
      rw [List.concat_eq_append, ← List.cons_append, ← List.append_assoc] at hsplit
      rw [(List.append_inj' hsplit rfl).1, List.append_assoc, List.singleton_append]
    right
    refine ⟨_, mem_packageDirs.mpr ⟨before ++ [m], after, hnames, rfl⟩, ?_⟩
    rw [Path.SamePlace, components_packageDirs hnames, Path.components_join_safe dir m hm, hdir,
      addedComponents_append, List.append_assoc]

instance (output : Path) (services : List Service) (dir : Path) (m : String) :
    Decidable (HoldsModule output services dir m) :=
  inferInstanceAs (Decidable (∃ s ∈ services, ∃ file ∈ s.fileIds, _ ∧ _))

instance (output : Path) (services : List Service) (dir : Path) :
    Decidable (LeadsToFiles output services dir) :=
  inferInstanceAs (Decidable (∃ s ∈ services, ∃ d ∈ packageDirs output s.package, _))

namespace Generator

variable {g : Generator} {a : Accepted}
  {sources : List (String × Except Error (List Inspected))} {tree tree' : FileTree}
  {report : Report}

theorem hasFile_iff (h : (g.generateFor (.ofSources sources)).after tree = (.ok report, tree'))
    (p : Path) :
    report.HasFile p ↔
      (∃ s ∈ g.services (.ofSources sources), ∃ file ∈ s.fileIds,
        p.SamePlace (outputFile g.config.outputPath file)) ∨
      ∃ e ∈ (g.plan (.ofSources sources)).index.dirs, p.SamePlace (e.1.join indexName) := by
  unfold Report.HasFile
  rw [generated_ofSources h]
  constructor
  · rintro ⟨q, hq, hsame⟩
    rcases List.mem_append.mp hq with hq | hq
    · obtain ⟨s, hs, hq⟩ := List.mem_flatMap.mp hq
      obtain ⟨file, hfile, rfl⟩ := mem_paths.mp hq
      exact Or.inl ⟨s, hs, file, hfile, hsame⟩
    · obtain ⟨w, hw, rfl⟩ := List.mem_map.mp hq
      obtain ⟨e, he, rfl⟩ := List.mem_map.mp hw
      exact Or.inr ⟨e, he, hsame⟩
  · rintro (⟨s, hs, file, hfile, hsame⟩ | ⟨e, he, hsame⟩)
    · refine ⟨_, List.mem_append_left _ ?_, hsame⟩
      exact List.mem_flatMap.mpr ⟨s, hs, mem_paths.mpr ⟨file, hfile, rfl⟩⟩
    · refine ⟨_, List.mem_append_right _ ?_, hsame⟩
      exact List.mem_map.mpr ⟨_, List.mem_map_of_mem he, rfl⟩

theorem leadsToFiles_iff (dir : Path) :
    LeadsToFiles g.config.outputPath (g.services a) dir ↔ (g.plan a).index.HasDir dir :=
  (g.index_hasDir a dir).symm

theorem hasFile_module (h : (g.generateFor (.ofSources sources)).after tree = (.ok report, tree'))
    {dir : Path} {m : String} (hm : ∀ c ∈ m.toList, Text.PathSafe c)
    (hdir : LeadsToFiles g.config.outputPath (g.services (.ofSources sources)) dir) :
    report.HasFile (dir.join (m ++ ".rs")) ↔
      m = "mod" ∨ HoldsModule g.config.outputPath (g.services (.ofSources sources)) dir m := by
  rw [hasFile_iff h]
  constructor
  · rintro (⟨s, hs, file, hfile, hsame⟩ | ⟨e, he, hsame⟩)
    · obtain ⟨-, hsafe⟩ := fileIds_safe s file hfile
      obtain ⟨hplace, hname⟩ := (join_file_samePlace hm hsafe).mp hsame
      exact Or.inr ⟨s, hs, file, hfile, hname.symm, hplace⟩
    · exact Or.inl ((join_file_samePlace_index hm).mp hsame).2
  · rintro (hmod | ⟨s, hs, file, hfile, rfl, hplace⟩)
    · obtain ⟨e, he, hsame⟩ := (leadsToFiles_iff dir).mp hdir
      exact Or.inr ⟨e, he, (join_file_samePlace_index hm).mpr ⟨hsame, hmod⟩⟩
    · exact Or.inl ⟨s, hs, file, hfile, (join_file_samePlace hm hm).mpr ⟨hplace, rfl⟩⟩

theorem hasFile_index (h : (g.generateFor (.ofSources sources)).after tree = (.ok report, tree'))
    (dir : Path) :
    report.HasFile (dir.join indexName) ↔
      LeadsToFiles g.config.outputPath (g.services (.ofSources sources)) dir := by
  rw [hasFile_iff h, leadsToFiles_iff]
  constructor
  · rintro (⟨s, hs, file, hfile, hsame⟩ | ⟨e, he, hsame⟩)
    · obtain ⟨hpackage, hsafe⟩ := fileIds_safe s file hfile
      obtain ⟨hplace, -⟩ := (join_file_samePlace_index hsafe).mp hsame.symm
      exact (leadsToFiles_iff dir).mp
        ⟨s, hs, _, packageDir_mem_packageDirs _ _, hpackage ▸ hplace.symm⟩
    · exact ⟨e, he, join_index_samePlace.mp hsame⟩
  · rintro ⟨e, he, hsame⟩
    exact Or.inr ⟨e, he, join_index_samePlace.mpr hsame⟩

theorem listed_pathSafe {dir : Path} {m : String} (h : (g.plan a).index.Lists dir m) :
    ∀ c ∈ m.toList, Text.PathSafe c := by
  obtain ⟨s, hs, file, hfile, before, after, hsplit, -⟩ := (g.index_lists a dir m).mp h
  apply FileId.pathSafe_names (fileIds_safe s file hfile).2
  simp [hsplit]

theorem listed_cases {dir : Path} {m : String} (h : (g.plan a).index.Lists dir m) :
    HoldsModule g.config.outputPath (g.services a) dir m ∨
      LeadsToFiles g.config.outputPath (g.services a) (dir.join m) := by
  obtain ⟨s, hs, file, hfile, hlisted⟩ := (g.index_lists a dir m).mp h
  rcases hlisted.cases (listed_pathSafe h) with hmodule | ⟨d, hd, hsame⟩
  · exact Or.inl ⟨s, hs, file, hfile, hmodule⟩
  · rw [(fileIds_safe s file hfile).1] at hd
    exact Or.inr ⟨s, hs, d, hd, hsame⟩

end Generator

/-- Each module that an index lists is found. It is found once unless a directory with its name
leads to files and a module or the index itself has that name, too. -/
theorem listed_modules_resolve (g : Generator)
    (sources : List (String × Except Error (List Inspected))) (tree tree' : FileTree)
    (report : Report)
    (h : (g.generateFor (.ofSources sources)).after tree = (.ok report, tree')) :
    ∀ e ∈ (g.plan (.ofSources sources)).index.dirs,
      (g.unformatted (.ofSources sources) tree).readBytes (e.1.join indexName) =
        .ok (String.join ((indexLines e.2).map (· ++ "\n"))).toUTF8 ∧
      ∀ m ∈ e.2,
        (report.HasFile (e.1.join (m ++ ".rs")) ∨ report.HasFile ((e.1.join m).join indexName)) ∧
        (Xor (report.HasFile (e.1.join (m ++ ".rs")))
            (report.HasFile ((e.1.join m).join indexName)) ↔
          ¬ ((m = "mod" ∨
              HoldsModule g.config.outputPath (g.services (.ofSources sources)) e.1 m) ∧
            LeadsToFiles g.config.outputPath (g.services (.ofSources sources)) (e.1.join m))) := by
  intro e he
  refine ⟨Generator.index_text h he, ?_⟩
  intro m hm
  have hlists : (g.plan (.ofSources sources)).index.Lists e.1 m := ⟨e, he, rfl, hm⟩
  have hdir := (Generator.leadsToFiles_iff e.1).mpr ⟨e, he, rfl⟩
  rw [Generator.hasFile_module h (Generator.listed_pathSafe hlists) hdir,
    Generator.hasFile_index h, xor_iff_or_and_not_and]
  have hfound := (Generator.listed_cases hlists).imp_left (Or.inr (a := m = "mod"))
  exact ⟨hfound, and_iff_right hfound⟩

theorem listed_modules_resolve_nested :
    ∃ report tree',
      (plainGenerator.generateFor (.ofSources (echoSource [("a", "Echo")]))).after
        (.ofRoot ["w"]) = (.ok report, tree') ∧
      report.services = ["Echo"] ∧
      ∀ e ∈ (plainGenerator.plan (.ofSources (echoSource [("a", "Echo")]))).index.dirs,
        ∀ m ∈ e.2, Xor (report.HasFile (e.1.join (m ++ ".rs")))
          (report.HasFile ((e.1.join m).join indexName)) := by
  obtain ⟨report, tree', h, hservices⟩ := exists_run plainGenerator
    (.ofSources (echoSource [("a", "Echo")])) (.ofRoot ["w"])
    (fun report => report.services = ["Echo"]) (by decide +kernel)
  refine ⟨report, tree', h, hservices, ?_⟩
  intro e he m hm
  apply ((listed_modules_resolve _ _ _ _ _ h e he).2 m hm).2.mpr
  revert e m
  decide +kernel

/-- The module `echo` is found in `echo.rs` and in `echo/mod.rs`, and nothing has failed. -/
theorem echo_found_twice :
    ∃ report tree',
      (plainGenerator.generateFor
        (.ofSources (echoSource [("", "Echo"), ("echo", "Tone")]))).after
          (.ofRoot ["w"]) = (.ok report, tree') ∧
      report.services = ["Echo", "Tone"] ∧ report.failures = [] ∧
      ∃ e ∈ (plainGenerator.plan
          (.ofSources (echoSource [("", "Echo"), ("echo", "Tone")]))).index.dirs,
        "echo" ∈ e.2 ∧ report.HasFile (e.1.join ("echo" ++ ".rs")) ∧
          report.HasFile ((e.1.join "echo").join indexName) := by
  obtain ⟨report, tree', h, hservices, hfailures, hfound⟩ := exists_run plainGenerator
    (.ofSources (echoSource [("", "Echo"), ("echo", "Tone")])) (.ofRoot ["w"])
    (fun report => report.services = ["Echo", "Tone"] ∧ report.failures = [] ∧
      ∃ e ∈ (plainGenerator.plan
          (.ofSources (echoSource [("", "Echo"), ("echo", "Tone")]))).index.dirs,
        "echo" ∈ e.2 ∧ report.HasFile (e.1.join ("echo" ++ ".rs")) ∧
          report.HasFile ((e.1.join "echo").join indexName)) (by decide +kernel)
  exact ⟨report, tree', h, hservices, hfailures, hfound⟩

end RpcStubs
