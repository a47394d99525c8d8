import RpcStubs.Proofs.Overwriting

/-!
# What indexes list

The index of a directory lists the modules in it and the directories below it that lead to files,
each of them once.
-/

namespace RpcStubs

/-! ## Names in order -/

namespace ModuleIndex

theorem mem_insertName {name x : String} {names : List String} :
    x ∈ insertName name names ↔ x = name ∨ x ∈ names := by
  induction names with
  | nil => simp [insertName]
  | cons other names ih =>
    rw [insertName]
    split
    · simp
    · rename_i heq
      rw [Std.LawfulEqOrd.eq_of_compare heq]
      simp
    · rw [List.mem_cons, ih, List.mem_cons]
      exact or_left_comm

theorem increasing_insertName {name : String} {names : List String} (h : names.Pairwise (· < ·)) :
    (insertName name names).Pairwise (· < ·) := by
  induction names with
  | nil => exact List.pairwise_singleton _ _
  | cons other names ih =>
    obtain ⟨hother, hnames⟩ := List.pairwise_cons.mp h
    rw [insertName]
    split
    · rename_i hlt
      have hlt : name < other := compare_lt_iff_lt.mp hlt
      refine List.pairwise_cons.mpr ⟨?_, h⟩
      intro x hx
      rcases List.mem_cons.mp hx with rfl | hx
      · exact hlt
      · exact hlt.trans (hother x hx)
    · exact h
    · rename_i hgt
      refine List.pairwise_cons.mpr ⟨?_, ih hnames⟩
      intro x hx
      rcases mem_insertName.mp hx with rfl | hx
      · exact compare_gt_iff_gt.mp hgt
      · exact hother x hx

/-! ## Lists of directories -/

/-- A name is in the list of a directory. -/
def Lists (index : ModuleIndex) (dir : Path) (name : String) : Prop :=
  ∃ e ∈ index.dirs, dir.SamePlace e.1 ∧ name ∈ e.2

def NamesIncrease (index : ModuleIndex) : Prop := ∀ e ∈ index.dirs, e.2.Pairwise (· < ·)

theorem lists_insertIn (dir q : Path) (module x : String) (dirs : List (Path × List String)) :
    (∃ e ∈ insertIn dir module dirs, q.SamePlace e.1 ∧ x ∈ e.2) ↔
      (q.SamePlace dir ∧ x = module) ∨ ∃ e ∈ dirs, q.SamePlace e.1 ∧ x ∈ e.2 := by
  induction dirs with
  | nil => simp [insertIn]
  | cons first rest ih =>
    obtain ⟨other, modules⟩ := first
    rw [insertIn]
    split
    · simp
    · rename_i heq
      have hdir : dir.SamePlace other := (Path.cmp_eq_eq dir other).mp heq
      have hsame : q.SamePlace dir ↔ q.SamePlace other :=
        ⟨fun h => h.trans hdir, fun h => h.trans hdir.symm⟩
      simp only [List.exists_mem_cons_iff, mem_insertName, hsame, and_or_left, or_assoc]
    · simp only [List.exists_mem_cons_iff, ih]
      exact or_left_comm

theorem lists_insert (index : ModuleIndex) (dir q : Path) (module x : String) :
    (index.insert dir module).Lists q x ↔ (q.SamePlace dir ∧ x = module) ∨ index.Lists q x :=
  lists_insertIn dir q module x index.dirs

theorem namesIncrease_insertIn {dir : Path} {module : String} {dirs : List (Path × List String)}
    (h : ∀ e ∈ dirs, e.2.Pairwise (· < ·)) :
    ∀ e ∈ insertIn dir module dirs, e.2.Pairwise (· < ·) := by
  induction dirs with
  | nil => simp [insertIn]
  | cons first rest ih =>
    obtain ⟨other, modules⟩ := first
    obtain ⟨hfirst, hrest⟩ := List.forall_mem_cons.mp h
    rw [insertIn]
    split
    · exact List.forall_mem_cons.mpr ⟨List.pairwise_singleton _ _, h⟩
    · exact List.forall_mem_cons.mpr ⟨increasing_insertName hfirst, hrest⟩
    · exact List.forall_mem_cons.mpr ⟨hfirst, ih hrest⟩

theorem NamesIncrease.insert {index : ModuleIndex} (h : index.NamesIncrease) (dir : Path)
    (module : String) : (index.insert dir module).NamesIncrease :=
  namesIncrease_insertIn h

/-! ## One file -/

theorem exists_split_cons {name x : String} {names : List String} {P : List String → Prop} :
    (∃ before after, name :: names = before ++ x :: after ∧ P before) ↔
      (P [] ∧ x = name) ∨ ∃ before after, names = before ++ x :: after ∧ P (name :: before) := by
  constructor
  · rintro ⟨_ | ⟨first, before⟩, after, heq, hP⟩
    · cases heq
      exact Or.inl ⟨hP, rfl⟩
    · cases heq
      exact Or.inr ⟨before, after, rfl, hP⟩
  · rintro (⟨hP, rfl⟩ | ⟨before, after, rfl, hP⟩)
    · exact ⟨[], names, rfl, hP⟩
    · exact ⟨name :: before, after, rfl, hP⟩

theorem lists_addDirs (index : ModuleIndex) (dir q : Path) (names : List String)
    (module x : String) :
    ((index.addDirs dir names).1.insert (index.addDirs dir names).2 module).Lists q x ↔
      index.Lists q x ∨ ∃ before after, names ++ [module] = before ++ x :: after ∧
        q.SamePlace (before.foldl Path.join dir) := by
  -- On the names that are left, from the directory that those before them lead to.
  induction names generalizing index dir with
  | nil =>
    rw [addDirs, lists_insert, List.nil_append, exists_split_cons, or_comm]
    simp
  | cons name names ih =>
    rw [addDirs, ih, lists_insert, List.cons_append, exists_split_cons, or_assoc, or_left_comm]
    rfl

theorem lists_add (index : ModuleIndex) (output q : Path) (file : FileId) (x : String) :
    (index.add output file).1.Lists q x ↔
      index.Lists q x ∨ ∃ before after,
        packageNames file.package ++ [file.module] = before ++ x :: after ∧
          q.SamePlace (before.foldl Path.join output) :=
  lists_addDirs index output q _ file.module x

end ModuleIndex

/-- A name on the way to a file, with the directory that it is in. -/
def FileId.ListedIn (file : FileId) (output dir : Path) (name : String) : Prop :=
  ∃ before after, packageNames file.package ++ [file.module] = before ++ name :: after ∧
    dir.components = output.components ++ addedComponents before

theorem FileId.pathSafe_names {file : FileId} (h : ∀ c ∈ file.module.toList, Text.PathSafe c) :
    ∀ name ∈ packageNames file.package ++ [file.module], ∀ c ∈ name.toList, Text.PathSafe c := by
  intro name hname
  rcases List.mem_append.mp hname with hname | hname
  · exact pathSafe_packageNames _ name hname
  · rwa [List.mem_singleton.mp hname]

namespace ModuleIndex

theorem lists_add_safe (index : ModuleIndex) (output q : Path) (file : FileId) (x : String)
    (h : ∀ c ∈ file.module.toList, Text.PathSafe c) :
    (index.add output file).1.Lists q x ↔ index.Lists q x ∨ file.ListedIn output q x := by
  rw [lists_add]
  apply or_congr_right
  apply exists_congr
  intro before
  apply exists_congr
  intro after
  apply and_congr_right
  intro hsplit
  have hsafe : ∀ name ∈ before, ∀ c ∈ name.toList, Text.PathSafe c := by
    intro name hname
    exact FileId.pathSafe_names h name (hsplit ▸ List.mem_append_left _ hname)
  rw [Path.SamePlace, Path.components_foldl_join output before hsafe]

/-! ## A whole run -/

theorem lists_addAll (output q : Path) (x : String) (files : List FileId) (index : ModuleIndex)
    (h : ∀ file ∈ files, ∀ c ∈ file.module.toList, Text.PathSafe c) :
    (addAll output index files).Lists q x ↔
      index.Lists q x ∨ ∃ file ∈ files, file.ListedIn output q x := by
  unfold addAll
  induction files generalizing index with
  | nil => simp
  | cons file files ih =>
    obtain ⟨hfile, hfiles⟩ := List.forall_mem_cons.mp h
    rw [List.foldl_cons, ih _ hfiles, lists_add_safe _ _ _ _ _ hfile, List.exists_mem_cons_iff,
      or_assoc]

end ModuleIndex

theorem Plan.foldl_indexService (output : Path) (services : List Service) (index : ModuleIndex) :
    services.foldl (indexService output) index =
      index.addAll output (services.flatMap Service.fileIds) :=
  (List.foldl_flatMap ..).symm

namespace Generator

variable (g : Generator) (a : Accepted)

theorem index_lists (dir : Path) (name : String) :
    (g.plan a).index.Lists dir name ↔
      ∃ s ∈ g.services a, ∃ file ∈ s.fileIds, file.ListedIn g.config.outputPath dir name := by
  have hsafe : ∀ file ∈ (g.services a).flatMap Service.fileIds,
      ∀ c ∈ file.module.toList, Text.PathSafe c := by
    intro file hfile
    obtain ⟨s, -, hfile⟩ := List.mem_flatMap.mp hfile
    exact (fileIds_safe s file hfile).2
  rw [plan_index, Plan.foldl_indexService, ModuleIndex.lists_addAll _ _ _ _ _ hsafe]
  simp only [ModuleIndex.Lists, ModuleIndex.empty, List.not_mem_nil, false_and, exists_false,
    false_or, List.mem_flatMap]
  constructor
  · rintro ⟨file, ⟨s, hs, hfile⟩, hlisted⟩
    exact ⟨s, hs, file, hfile, hlisted⟩
  · rintro ⟨s, hs, file, hfile, hlisted⟩
    exact ⟨file, ⟨s, hs, hfile⟩, hlisted⟩

theorem index_namesIncrease : (g.plan a).index.NamesIncrease := by
  have hempty : ModuleIndex.empty.NamesIncrease := by
    intro e he
    cases he
  rw [plan_index]
  exact Plan.preserved_foldl_indexService (fun _ dir module h => h.insert dir module) _ _ _ hempty

end Generator

/-! ## Texts of indexes -/

theorem Writer.line_of_flat {w : Writer} (h : w.depth = 0) (line : String) :
    w.line line = ⟨w.text ++ (line ++ "\n"), w.depth⟩ := by
  unfold Writer.line
  by_cases hempty : line = ""
  · simp [hempty]
  · simp [hempty, h, indentation, String.append_assoc]

theorem Writer.run_lines (w : Writer) (lines : List String) (h : w.depth = 0) :
    w.run (lines.map .plain) = ⟨w.text ++ String.join (lines.map (· ++ "\n")), w.depth⟩ := by
  unfold Writer.run
  induction lines generalizing w with
  | nil => simp
  | cons line lines ih =>
    have hstep : w.step (.plain line) = w.line line := congrArg w.line (Step.text_plain line)
    rw [List.map_cons, List.foldl_cons, hstep, line_of_flat h,
      ih ⟨w.text ++ (line ++ "\n"), w.depth⟩ h, List.map_cons, String.join_cons,
      String.append_assoc]

def indexLines (modules : List String) : List String :=
  "// This file is generated automatically by stubgen. Do not edit." :: "" ::
    modules.map (fun m => "pub mod " ++ m ++ ";")

theorem moduleIndex_eq (modules : List String) :
    Renderer.moduleIndex modules = String.join ((indexLines modules).map (· ++ "\n")) := by
  have hsteps : Renderer.header ++ modules.map (fun m => Step.plain s!"pub mod {m};") =
      (indexLines modules).map .plain := by
    rw [indexLines, List.map_cons, List.map_cons, List.map_map]
    rfl
  rw [Renderer.moduleIndex, hsteps, Step.render, Writer.run_lines _ _ rfl]
  simp [Writer.take, Writer.empty]

theorem Generator.index_text {g : Generator} {a : Accepted} {tree tree' : FileTree}
    {report : Report} (h : (g.generateFor a).after tree = (.ok report, tree'))
    {e : Path × List String} (he : e ∈ (g.plan a).index.dirs) :
    (g.unformatted a tree).readBytes (e.1.join indexName) =
      .ok (String.join ((indexLines e.2).map (· ++ "\n"))).toUTF8 := by
  obtain ⟨dir, modules⟩ := e
  have hw : (⟨dir, dir.join indexName, Renderer.moduleIndex modules⟩ : Write) ∈
      (g.plan a).indexWrites := List.mem_map_of_mem he
  have hread := Generator.index_read h hw
  simp only at hread
  rw [← moduleIndex_eq]
  exact hread

/-! ## Indexes and files -/

/-- The indexes of a run, as they are left, say which files it has written. -/
structure IndexesDescribe (g : Generator) (a : Accepted) (report : Report) (left : FileTree) :
    Prop where
  generated : report.generated = a.report.generated ++
    ((g.services a).flatMap Service.fileIds).map (outputFile g.config.outputPath) ++
    (g.plan a).index.dirs.map (fun e => e.1.join indexName)
  /-- A name is listed in a directory if and only if it is on the way to a written file. -/
  listed : ∀ (dir : Path) (name : String), (g.plan a).index.Lists dir name ↔
    ∃ s ∈ g.services a, ∃ file ∈ s.fileIds, file.ListedIn g.config.outputPath dir name
  once : ∀ e ∈ (g.plan a).index.dirs, e.2.Pairwise (· < ·)
  /-- A directory has one index. -/
  dirs_differ : (g.plan a).index.dirs.Pairwise (fun e e' => ¬ e.1.SamePlace e'.1)
  texts : ∀ e ∈ (g.plan a).index.dirs, left.readBytes (e.1.join indexName) =
    .ok (String.join ((indexLines e.2).map (· ++ "\n"))).toUTF8
  /-- A listed file is there, unless the index of its directory is in its place. -/
  files : ∀ s ∈ g.services a, ∀ file ∈ s.fileIds, file.module ≠ "mod" →
    ∃ text, (file, text) ∈ g.config.renderer.renderService s ∧
      left.readBytes (outputFile g.config.outputPath file) = .ok text.toUTF8
  places : ∀ (index : ModuleIndex) (file : FileId), outputFile g.config.outputPath file =
    (index.add g.config.outputPath file).2.join (file.module ++ ".rs")

/-- After a run the indexes describe what was written, until they are formatted. -/
theorem indexes_describe_files (g : Generator) (a : Accepted) (tree tree' : FileTree)
    (report : Report) (h : (g.generateFor a).after tree = (.ok report, tree')) :
    IndexesDescribe g a report (g.unformatted a tree) ∧
      (g.formatter = [] → tree' = g.unformatted a tree) := by
  refine ⟨?_, (Generator.perform_of_run h).2⟩
  constructor
  case generated =>
    rw [Generator.generated_eq h, List.map_flatMap, Plan.indexWrites, List.map_map,
      List.append_assoc]
    rfl
  case listed => exact g.index_lists a
  case once => exact g.index_namesIncrease a
  case dirs_differ => exact (g.index_sorted a).apart
  case texts =>
    intro e he
    exact Generator.index_text h he
  case files =>
    intro s hs file hfile hmod
    obtain ⟨text, htext⟩ := exists_rendered g.config.renderer hfile
    have hread := Generator.artifact_read h hs htext hmod
    exact ⟨text, htext, hread⟩
  case places =>
    intro index file
    rw [ModuleIndex.add_dir]
    rfl

theorem indexes_describe_files_nested :
    ∃ report tree',
      (plainGenerator.generateFor (.ofSources (echoSource [("a::-", "Echo")]))).after
        (.ofRoot ["w"]) = (.ok report, tree') ∧
      report.services = ["Echo"] ∧
      (plainGenerator.plan (.ofSources (echoSource [("a::-", "Echo")]))).index.dirs =
        [(⟨"out"⟩, ["a"]),
          (⟨"out/a"⟩, ["", "echo", "echo_client", "echo_descriptor", "echo_provider"])] ∧
      IndexesDescribe plainGenerator (.ofSources (echoSource [("a::-", "Echo")])) report tree' := by
  obtain ⟨report, tree', h, hservices⟩ := exists_run plainGenerator
    (.ofSources (echoSource [("a::-", "Echo")])) (.ofRoot ["w"])
    (fun report => report.services = ["Echo"]) (by decide +kernel)
  obtain ⟨hdescribe, hleft⟩ := indexes_describe_files _ _ _ _ _ h
  rw [← hleft rfl] at hdescribe
  exact ⟨report, tree', h, hservices, by decide +kernel, hdescribe⟩

end RpcStubs
