import RpcStubs.Proofs.Outcomes

/-!
# Paths below the output directory

The names of a package and of its modules are put behind the output directory as they are. None of
them leads up or to another root.
-/

namespace RpcStubs

/-- The names of the directories between the output directory and the files of a package. -/
def packageNames (package : String) : List String :=
  (Text.nameSegments package).map Text.snakeCase

/-- The components that names add to a path. An empty one adds nothing. -/
def addedComponents (names : List String) : List Component :=
  (names.filter (· ≠ "")).map Component.name

@[simp] theorem addedComponents_nil : addedComponents [] = [] := rfl

theorem addedComponents_append (as bs : List String) :
    addedComponents (as ++ bs) = addedComponents as ++ addedComponents bs := by
  simp [addedComponents]

theorem addedComponents_singleton {name : String} (h : name ≠ "") :
    addedComponents [name] = [.name name] := by
  simp [addedComponents, h]

/-! ## Joined names -/

namespace Path

theorem components_join_safe (p : Path) (name : String)
    (h : ∀ c ∈ name.toList, Text.PathSafe c) :
    (p.join name).components = p.components ++ addedComponents [name] := by
  have hslash : '/' ∉ name.toList := fun hm => (h _ hm).1 rfl
  have hdot : '.' ∉ name.toList := fun hm => (h _ hm).2 rfl
  have hne : ∀ rest, name.toList ≠ '.' :: rest := by
    intro rest he
    rw [he] at hdot
    simp at hdot
  rw [components_join p name hslash (hne [])]
  by_cases hempty : name = ""
  · simp [hempty, laterComponent?, addedComponents]
  · have hlist : name.toList.isEmpty = false := by simpa using hempty
    simp [laterComponent?, hlist, hne, addedComponents_singleton hempty]

theorem components_foldl_join (p : Path) (names : List String)
    (h : ∀ name ∈ names, ∀ c ∈ name.toList, Text.PathSafe c) :
    (names.foldl join p).components = p.components ++ addedComponents names := by
  induction names generalizing p with
  | nil => simp
  | cons name names ih =>
    obtain ⟨hname, hnames⟩ := List.forall_mem_cons.mp h
    rw [List.foldl_cons, ih _ hnames, components_join_safe p name hname, List.append_assoc,
      ← addedComponents_append, List.singleton_append]

end Path

theorem pathSafe_packageNames (package : String) :
    ∀ name ∈ packageNames package, ∀ c ∈ name.toList, Text.PathSafe c := by
  intro name hname
  obtain ⟨segment, -, rfl⟩ := List.mem_map.mp hname
  exact Text.pathSafe_snakeCase segment

theorem components_packageDir (output : Path) (package : String) :
    (packageDir output package).components =
      output.components ++ addedComponents (packageNames package) :=
  Path.components_foldl_join output _ (pathSafe_packageNames package)

theorem mem_scanl_join {names : List String} {dir d : Path} :
    d ∈ names.scanl Path.join dir ↔
      ∃ before after, names = before ++ after ∧ d = before.foldl Path.join dir := by
  induction names generalizing dir with
  | nil => simp
  | cons name names ih =>
    rw [List.scanl_cons, List.mem_cons, ih]
    constructor
    · rintro (rfl | ⟨before, after, rfl, rfl⟩)
      · exact ⟨[], name :: names, rfl, rfl⟩
      · exact ⟨name :: before, after, rfl, rfl⟩
    · rintro ⟨before, after, hsplit, rfl⟩
      cases before with
      | nil => exact Or.inl rfl
      | cons first before =>
        cases hsplit
        exact Or.inr ⟨before, after, rfl, rfl⟩

theorem mem_packageDirs {output d : Path} {package : String} :
    d ∈ packageDirs output package ↔
      ∃ before after, packageNames package = before ++ after ∧ d = before.foldl Path.join output :=
  mem_scanl_join

theorem packageDir_mem_packageDirs (output : Path) (package : String) :
    packageDir output package ∈ packageDirs output package :=
  mem_packageDirs.mpr ⟨packageNames package, [], by simp, rfl⟩

theorem components_packageDirs {output : Path} {package : String} {before after : List String}
    (h : packageNames package = before ++ after) :
    (before.foldl Path.join output).components = output.components ++ addedComponents before := by
  apply Path.components_foldl_join
  intro name hname
  exact pathSafe_packageNames package name (h ▸ List.mem_append_left _ hname)

theorem components_outputFile (output : Path) (file : FileId)
    (h : ∀ c ∈ file.module.toList, Text.PathSafe c) :
    (outputFile output file).components =
      output.components ++ addedComponents (packageNames file.package) ++
        [.name (file.module ++ ".rs")] := by
  rw [outputFile, Path.components_join_file _ _ h, components_packageDir]

/-! ## Plain names -/

/-- A name that stays in the directory that it is put in. -/
structure PlainName (name : String) : Prop where
  ne_empty : name ≠ ""
  ne_current : name ≠ "."
  ne_parent : name ≠ ".."
  no_slash : '/' ∉ name.toList
  relative : (Path.mk name).isAbsolute = false

theorem plainName_of_mem {name : String} {c : Char} (hc : c ∈ name.toList) (hdot : c ≠ '.')
    (hslash : '/' ∉ name.toList) : PlainName name where
  ne_empty := by
    rintro rfl
    simp at hc
  ne_current := by
    rintro rfl
    simp [hdot] at hc
  ne_parent := by
    rintro rfl
    simp [hdot] at hc
  no_slash := hslash
  relative := by
    have hhead : name.toList.head? ≠ some '/' := fun h => hslash (List.mem_of_mem_head? h)
    simpa [Path.isAbsolute] using hhead

theorem plainName_of_pathSafe {name : String} (h : ∀ c ∈ name.toList, Text.PathSafe c)
    (hne : name ≠ "") : PlainName name := by
  have hlist : name.toList ≠ [] := by simpa using hne
  obtain ⟨c, cs, hcs⟩ := List.exists_cons_of_ne_nil hlist
  have hc : c ∈ name.toList := by simp [hcs]
  exact plainName_of_mem hc (h c hc).2 (fun hm => (h _ hm).1 rfl)

theorem plainName_file {stem : String} (h : ∀ c ∈ stem.toList, Text.PathSafe c) :
    PlainName (stem ++ ".rs") := by
  apply plainName_of_mem (c := 'r')
  · simp
  · decide
  · intro hm
    rw [String.toList_append, List.mem_append] at hm
    rcases hm with hm | hm
    · exact (h _ hm).1 rfl
    · simp at hm

/-! ## Files of a service -/

theorem mem_fileIds_of_rendered {r : Renderer} {s : Service} {f : FileId × String}
    (hf : f ∈ r.renderService s) : f.1 ∈ s.fileIds := by
  have hmem : f.1 ∈ (r.renderService s).map (·.1) := List.mem_map_of_mem hf
  rwa [Plan.renderService_files] at hmem

theorem exists_rendered (r : Renderer) {s : Service} {file : FileId} (h : file ∈ s.fileIds) :
    ∃ text, (file, text) ∈ r.renderService s := by
  rw [← Plan.renderService_files r s, List.mem_map] at h
  obtain ⟨f, hf, rfl⟩ := h
  exact ⟨f.2, hf⟩

theorem Plan.mem_writes_addService {output : Path} {r : Renderer} {p : Plan} {d : Declaration}
    {s : Service} {w : Write} (hw : w ∈ (p.addService output r d s).writes) :
    w ∈ p.writes ∨ ∃ f ∈ r.renderService s,
      w = ⟨packageDir output f.1.package, outputFile output f.1, f.2⟩ := by
  unfold Plan.addService at hw
  simp only at hw
  split at hw
  · exact Or.inl hw
  · rw [Plan.foldl_addFile] at hw
    simp only [List.mem_append, List.mem_map] at hw
    rcases hw with hw | ⟨f, hf, rfl⟩
    · exact Or.inl hw
    · exact Or.inr ⟨f, hf, rfl⟩

/-- The place of a generated file: plain names behind the output directory, the last of them that of
the file. -/
structure StaysBelow (output : Path) (package module : String) (path : Path) : Prop where
  components : path.components = output.components ++ addedComponents (packageNames package) ++
    [.name (module ++ ".rs")]
  dirs_plain : ∀ name ∈ packageNames package, name ≠ "" → PlainName name
  file_plain : PlainName (module ++ ".rs")

/-- Whatever the names of a service are, its files are below the output directory. -/
theorem output_stays_below (output : Path) (r : Renderer) (s : Service) :
    (∀ f ∈ r.renderService s,
      StaysBelow output s.package f.1.module (outputFile output f.1)) ∧
    ∀ (p : Plan) (d : Declaration), ∀ w ∈ (p.addService output r d s).writes,
      w ∈ p.writes ∨ ∃ f ∈ r.renderService s,
        w.content = f.2 ∧ StaysBelow output s.package f.1.module w.path := by
  have hfiles : ∀ f ∈ r.renderService s,
      StaysBelow output s.package f.1.module (outputFile output f.1) := by
    intro f hf
    obtain ⟨hpackage, hsafe⟩ := fileIds_safe s f.1 (mem_fileIds_of_rendered hf)
    constructor
    case components => rw [components_outputFile output f.1 hsafe, hpackage]
    case dirs_plain =>
      intro name hname hne
      exact plainName_of_pathSafe (pathSafe_packageNames _ name hname) hne
    case file_plain => exact plainName_file hsafe
  refine ⟨hfiles, ?_⟩
  intro p d w hw
  rcases Plan.mem_writes_addService hw with hold | ⟨f, hf, rfl⟩
  · exact Or.inl hold
  · exact Or.inr ⟨f, hf, rfl, hfiles f hf⟩

def stray : Service :=
  { name := "..", package := "../up::/root::.::A b", wireName := "/", clientName := "/Home",
    providerName := "../../Far", descriptorName := "./Near", methods := [], docs := [] }

theorem output_stays_below_stray :
    (Renderer.default.renderService stray).map (fun f => (outputFile ⟨"out"⟩ f.1).text) =
      ["out/up/root/a_b/.rs", "out/up/root/a_b/near.rs", "out/up/root/a_b/home.rs",
        "out/up/root/a_b/far.rs"] ∧
    ∀ f ∈ Renderer.default.renderService stray,
      StaysBelow ⟨"out"⟩ stray.package f.1.module (outputFile ⟨"out"⟩ f.1) :=
  ⟨by decide +kernel, (output_stays_below ⟨"out"⟩ .default stray).1⟩

end RpcStubs
