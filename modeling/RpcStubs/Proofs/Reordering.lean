import RpcStubs.Proofs.AnyOrder
import RpcStubs.Proofs.Listing

/-!
# Declarations in any order

Unless two declarations want the same place, each is generated or fails whatever comes before it.
The files of a run and its indexes are then the same in every order of the declarations, but for one
case: an output directory that ends in a dot cannot be made by a file that is right in it.
-/

namespace RpcStubs

/-! ## Joined names -/

theorem PlainName.laterComponent? {name : String} (h : PlainName name) :
    Path.laterComponent? name.toList = some (.name name) := by
  have hempty : name.toList ≠ [] := by simpa using h.ne_empty
  have hcurrent : name.toList ≠ ['.'] := fun heq => h.ne_current (String.toList_inj.mp heq)
  have hparent : name.toList ≠ ['.', '.'] := fun heq => h.ne_parent (String.toList_inj.mp heq)
  simp [Path.laterComponent?, hempty, hcurrent, hparent]

namespace Path

theorem join_empty_join (p : Path) (child : String) : (p.join "").join child = p.join child := by
  unfold join
  by_cases hroot : child.toList.head? = some '/'
  · rw [if_pos hroot, if_pos hroot]
  · by_cases hend : (p.text.isEmpty || decide (p.text.toList.getLast? = some '/')) = true
    · simp [hend]
    · simp [hend, hroot]

theorem foldl_join_join (p : Path) (names : List String) (child : String) :
    (names.foldl join p).join child = ((names.filter (· ≠ "")).foldl join p).join child := by
  induction names generalizing p with
  | nil => rfl
  | cons name names ih =>
    rw [List.foldl_cons, ih]
    by_cases hempty : name = ""
    · subst hempty
      rw [List.filter_cons_of_neg (by simp)]
      cases names.filter (· ≠ "") with
      | nil => exact join_empty_join p child
      | cons next rest => rw [List.foldl_cons, List.foldl_cons, join_empty_join]
    · rw [List.filter_cons_of_pos (by simpa using hempty), List.foldl_cons]

theorem steps_foldl_join (p : Path) (names : List String)
    (h : ∀ name ∈ names, ∀ c ∈ name.toList, Text.PathSafe c) :
    (names.foldl join p).steps = p.steps ++ addedComponents names ∧
      (names.foldl join p).isAbsolute = p.isAbsolute := by
  induction names generalizing p with
  | nil => simp
  | cons name names ih =>
    obtain ⟨hname, hnames⟩ := List.forall_mem_cons.mp h
    have hslash : '/' ∉ name.toList := fun hm => (hname _ hm).1 rfl
    have hlater : (laterComponent? name.toList).toList = addedComponents [name] := by
      by_cases hempty : name = ""
      · simp [hempty, laterComponent?, addedComponents]
      · rw [(plainName_of_pathSafe hname hempty).laterComponent?, addedComponents_singleton hempty]
        rfl
    obtain ⟨hsteps, habs⟩ := ih (p.join name) hnames
    obtain ⟨-, -, -, hjoin, -⟩ := p.pieces_join hslash
    rw [List.foldl_cons, hsteps, habs, hjoin, p.steps_join hslash, hlater, List.append_assoc,
      ← addedComponents_append, List.singleton_append]
    exact ⟨rfl, rfl⟩

theorem endsInDot_join {p : Path} {name : String} (h : ∀ c ∈ name.toList, Text.PathSafe c)
    (hdot : (p.join name).endsInDot = true) : p.endsInDot = true ∧ name = "" := by
  obtain ⟨front, hjoin, hp, -, -⟩ := p.pieces_join (fun hm => (h _ hm).1 rfl)
  by_cases hempty : name = ""
  · refine ⟨?_, hempty⟩
    rw [endsInDot, hjoin, hempty] at hdot
    rcases hp with hp | hp <;> simpa [endsInDot, hp] using hdot
  · rw [endsInDot_of_last hjoin (plainName_of_pathSafe h hempty).laterComponent?] at hdot
    cases hdot

theorem endsInDot_foldl_join {p : Path} {names : List String}
    (h : ∀ name ∈ names, ∀ c ∈ name.toList, Text.PathSafe c)
    (hdot : (names.foldl join p).endsInDot = true) :
    p.endsInDot = true ∧ addedComponents names = [] := by
  induction names generalizing p with
  | nil => exact ⟨hdot, rfl⟩
  | cons name names ih =>
    obtain ⟨hname, hnames⟩ := List.forall_mem_cons.mp h
    obtain ⟨hjoined, hrest⟩ := ih hnames hdot
    obtain ⟨hp, rfl⟩ := endsInDot_join hname hjoined
    exact ⟨hp, hrest⟩

end Path

/-! ## Indexes -/

def namesOf (cs : List Component) : List String :=
  cs.filterMap (fun c => match c with | .name text => some text | _ => none)

theorem namesOf_addedComponents (names : List String) :
    namesOf (addedComponents names) = names.filter (· ≠ "") := by
  simp only [namesOf, addedComponents, List.filterMap_map, Function.comp_def, List.filterMap_some]

def indexPath (output : Path) (cs : List Component) : Path :=
  ((namesOf (cs.drop output.components.length)).foldl Path.join output).join indexName

theorem join_indexName {output dir : Path} {names : List String}
    (hsafe : ∀ name ∈ names, ∀ c ∈ name.toList, Text.PathSafe c)
    (hdir : dir = names.foldl Path.join output) :
    dir.join indexName = indexPath output dir.components := by
  rw [hdir, indexPath, Path.components_foldl_join output names hsafe, List.drop_left,
    namesOf_addedComponents, Path.foldl_join_join]

namespace ModuleIndex

theorem mem_addDirs {index : ModuleIndex} {dir : Path} {names : List String} {module : String}
    {e : Path × List String}
    (he : e ∈ ((index.addDirs dir names).1.insert (index.addDirs dir names).2 module).dirs) :
    (∃ old ∈ index.dirs, e.1 = old.1) ∨ e.1 ∈ names.scanl Path.join dir := by
  induction names generalizing index dir with
  | nil =>
    rcases mem_insertIn he with heq | hold
    · exact Or.inr (by simp [heq, addDirs])
    · exact Or.inl hold
  | cons name names ih =>
    rw [List.scanl_cons, List.mem_cons]
    rcases ih he with ⟨old, hold, heq⟩ | hmem
    · rcases mem_insertIn hold with hdir | ⟨older, holder, hkept⟩
      · exact Or.inr (Or.inl (heq.trans hdir))
      · exact Or.inl ⟨older, holder, heq.trans hkept⟩
    · exact Or.inr (Or.inr hmem)

theorem mem_addAll {output : Path} {files : List FileId} {index : ModuleIndex}
    {e : Path × List String} (he : e ∈ (index.addAll output files).dirs) :
    (∃ old ∈ index.dirs, e.1 = old.1) ∨ ∃ file ∈ files, e.1 ∈ packageDirs output file.package := by
  unfold addAll at he
  induction files generalizing index with
  | nil => exact Or.inl ⟨e, he, rfl⟩
  | cons file files ih =>
    rcases ih he with ⟨old, hold, heq⟩ | ⟨later, hlater, hmem⟩
    · rcases mem_addDirs hold with ⟨older, holder, hkept⟩ | hmem
      · exact Or.inl ⟨older, holder, heq.trans hkept⟩
      · exact Or.inr ⟨file, by simp, heq ▸ hmem⟩
    · exact Or.inr ⟨later, List.mem_cons_of_mem _ hlater, hmem⟩

/-- What an index has of a directory: its components and its list. -/
def summary (index : ModuleIndex) : List (List Component × List String) :=
  index.dirs.map (fun e => (e.1.components, e.2))

def DirBefore (x y : List Component × List String) : Prop :=
  List.compareLex Component.cmp x.1 y.1 = .lt

instance : Std.Asymm DirBefore where
  asymm _ _ h h' := by
    have hgt := Std.OrientedCmp.gt_of_lt h'
    rw [h] at hgt
    cases hgt

theorem Sorted.summary_increasing {index : ModuleIndex} (h : index.Sorted) :
    index.summary.Pairwise DirBefore := by
  refine List.pairwise_map.mpr (h.imp ?_)
  intro e e' hlt
  rwa [Path.cmp_eq_compareLex] at hlt

theorem Sorted.eq_of_samePlace {index : ModuleIndex} (h : index.Sorted) {e e' : Path × List String}
    (he : e ∈ index.dirs) (he' : e' ∈ index.dirs) (hsame : e.1.SamePlace e'.1) : e = e' := by
  have hnodup : (index.dirs.map (fun e => e.1.components)).Nodup := List.pairwise_map.mpr h.apart
  exact List.inj_on_of_nodup_map hnodup he he' hsame

theorem Sorted.lists_iff {index : ModuleIndex} (h : index.Sorted) {e : Path × List String}
    (he : e ∈ index.dirs) (name : String) : index.Lists e.1 name ↔ name ∈ e.2 := by
  constructor
  · rintro ⟨e', he', hsame, hname⟩
    rwa [h.eq_of_samePlace he he' hsame]
  · exact fun hname => ⟨e, he, rfl, hname⟩

section Compared

variable {i j : ModuleIndex} (hi : i.Sorted) (hj : j.Sorted) (hni : i.NamesIncrease)
  (hnj : j.NamesIncrease) (hdirs : ∀ dir, i.HasDir dir ↔ j.HasDir dir)
  (hlists : ∀ dir name, i.Lists dir name ↔ j.Lists dir name)

include hi hj hni hnj hdirs hlists

theorem mem_summary_of_same {x : List Component × List String} (hx : x ∈ i.summary) :
    x ∈ j.summary := by
  obtain ⟨e, he, rfl⟩ := List.mem_map.mp hx
  obtain ⟨e', he', hsame⟩ := (hdirs e.1).mp ⟨e, he, rfl⟩
  have hnames : e.2 = e'.2 := by
    apply (hni e he).eq_of_mem_iff (hnj e' he')
    intro name
    rw [← hi.lists_iff he, hlists, ← hj.lists_iff he']
    have hcomponents : e.1.components = e'.1.components := hsame
    simp only [Lists, Path.SamePlace, hcomponents]
  exact List.mem_map.mpr ⟨e', he', by rw [hnames, hsame]⟩

theorem summary_eq : i.summary = j.summary := by
  have hmem : ∀ x, x ∈ i.summary ↔ x ∈ j.summary := fun x =>
    ⟨mem_summary_of_same hi hj hni hnj hdirs hlists,
      mem_summary_of_same hj hi hnj hni (fun dir => (hdirs dir).symm)
        (fun dir name => (hlists dir name).symm)⟩
  exact hi.summary_increasing.eq_of_mem_iff hj.summary_increasing hmem

end Compared

end ModuleIndex

/-! ## Outcomes without clashes -/

/-- What becomes of a declaration whose places are free. -/
def Declaration.outcome (d : Declaration) : Outcome :=
  match Service.build d with
  | .ok s => .generated s
  | .error e => .failed ⟨d.name, e⟩

/-- Two declarations that do not want the same place. -/
def Declaration.Apart (output : Path) (d e : Declaration) : Prop :=
  ∀ s t, Service.build d = .ok s → Service.build e = .ok t →
    ∀ p ∈ s.paths output, ∀ q ∈ t.paths output, ¬ p.SamePlace q

theorem Declaration.Apart.symm {output : Path} {d e : Declaration} (h : d.Apart output e) :
    e.Apart output d :=
  fun s t hs ht p hp q hq hsame => h t s ht hs q hq p hp hsame.symm

def Report.NoDuplicates (r : Report) : Prop :=
  ∀ f ∈ r.failures, ∀ service file other, f.error ≠ .duplicateOutput service file other

theorem Plan.outcome_cases (output : Path) (p : Plan) (d : Declaration) :
    p.outcome output d = d.outcome ∨
      ∃ service file other, p.outcome output d =
        .failed ⟨d.name, .duplicateOutput service file other⟩ := by
  unfold Plan.outcome Declaration.outcome
  cases Service.build d with
  | error e => exact Or.inl rfl
  | ok s =>
    simp only
    cases p.clash? s.name [] (s.paths output) with
    | none => exact Or.inl rfl
    | some clash => exact Or.inr ⟨_, _, _, rfl⟩

namespace Generator

variable (g : Generator) (a : Accepted)

theorem outcomes_eq_map
    (h : ∀ (i : Nat) (d : Declaration), a.decls[i]? = some d →
      (g.outcomes a)[i]? = some d.outcome) :
    g.outcomes a = a.decls.map Declaration.outcome := by
  apply List.ext_getElem?
  intro i
  rw [List.getElem?_map]
  cases hd : a.decls[i]? with
  | none =>
    rw [List.getElem?_eq_none_iff] at hd
    rw [Option.map_none, List.getElem?_eq_none_iff, outcomes_length]
    exact hd
  | some d => rw [h i d hd, Option.map_some]

theorem outcomes_of_noDuplicates (h : (g.plan a).finalReport.NoDuplicates) :
    g.outcomes a = a.decls.map Declaration.outcome := by
  apply outcomes_eq_map
  intro i d hd
  have hat := g.outcome_at a i d hd
  rcases (g.planBefore a i).outcome_cases g.config.outputPath d with heq | ⟨s, file, other, heq⟩
  · rw [hat, heq]
  · have hmem : (⟨d.name, .duplicateOutput s file other⟩ : Failure) ∈
        (g.plan a).finalReport.failures := by
      rw [(g.accounts a).failures]
      apply List.mem_append_right
      exact List.mem_filterMap.mpr ⟨_, List.mem_of_getElem? (hat.trans (congrArg some heq)), rfl⟩
    exact absurd rfl (h _ hmem s file other)

theorem decls_apart (h : g.outcomes a = a.decls.map Declaration.outcome) :
    a.decls.Pairwise (Declaration.Apart g.config.outputPath) := by
  rw [List.pairwise_iff_getElem]
  intro i j hi hj hlt s t hs ht p hp q hq hsame
  have hgenerated : ∀ (k : Nat) (hk : k < a.decls.length) (u : Service),
      Service.build a.decls[k] = .ok u → (g.outcomes a)[k]? = some (.generated u) := by
    intro k hk u hu
    simp only [h, List.getElem?_map, List.getElem?_eq_getElem hk, Option.map_some,
      Declaration.outcome, hu]
  obtain ⟨-, hfree⟩ := (g.generated_iff a j _ t (List.getElem?_eq_getElem hj)).mp
    (hgenerated j hj t ht)
  exact hfree q hq i ⟨hlt, s, hgenerated i hi s hs, p, hp, hsame.symm⟩

theorem outcomes_of_apart (h : a.decls.Pairwise (Declaration.Apart g.config.outputPath)) :
    g.outcomes a = a.decls.map Declaration.outcome := by
  apply outcomes_eq_map
  intro i d hd
  obtain ⟨hi, rfl⟩ := List.getElem?_eq_some_iff.mp hd
  rw [Declaration.outcome]
  cases hb : Service.build a.decls[i] with
  | error e => rw [g.outcome_at a i _ hd, Plan.outcome_eq_invalid _ _ _ e hb]
  | ok s =>
    refine (g.generated_iff a i _ s hd).mpr ⟨hb, ?_⟩
    rintro path hpath j ⟨hlt, t, ht, q, hq, hsame⟩
    have hj : j < a.decls.length := by omega
    obtain ⟨hbuilt, -⟩ := (g.generated_iff a j _ t (List.getElem?_eq_getElem hj)).mp ht
    exact List.pairwise_iff_getElem.mp h j i hj hi hlt t s hbuilt hb q hq path hpath hsame.symm

end Generator

/-- The same declarations and failures in another order. -/
structure Reordered (a b : Accepted) : Prop where
  decls : b.decls.Perm a.decls
  generated : b.report.generated.Perm a.report.generated
  failures : b.report.failures.Perm a.report.failures
  services : b.report.services.Perm a.report.services

theorem Reordered.of_found {found found' : List Inspected} (h : found'.Perm found)
    (source : String) :
    Reordered (Accepted.empty.addSource source (.ok found))
      (Accepted.empty.addSource source (.ok found')) := by
  rw [Accepted.addSource_eq, Accepted.addSource_eq]
  exact ⟨h.filterMap _, .refl _, h.filterMap _, .refl _⟩

namespace Generator

variable {g : Generator} {a b : Accepted}

theorem outcomes_perm (h : Reordered a b) (hdup : (g.plan a).finalReport.NoDuplicates) :
    (g.outcomes b).Perm (g.outcomes a) := by
  have ha := g.outcomes_of_noDuplicates a hdup
  have hb := g.outcomes_of_apart b
    ((h.decls.pairwise_iff Declaration.Apart.symm).mpr (g.decls_apart a ha))
  rw [ha, hb]
  exact h.decls.map _

theorem services_perm (h : Reordered a b) (hdup : (g.plan a).finalReport.NoDuplicates) :
    (g.services b).Perm (g.services a) :=
  (outcomes_perm h hdup).filterMap _

theorem writes_perm (h : (g.services b).Perm (g.services a)) :
    (g.plan b).writes.Perm (g.plan a).writes := by
  rw [plan_writes, plan_writes]
  exact h.flatMap_right _

theorem index_summary (h : (g.services b).Perm (g.services a)) :
    (g.plan b).index.summary = (g.plan a).index.summary := by
  apply ModuleIndex.summary_eq (g.index_sorted b) (g.index_sorted a) (g.index_namesIncrease b)
    (g.index_namesIncrease a)
  · intro dir
    simp only [index_hasDir, h.mem_iff]
  · intro dir name
    simp only [index_lists, h.mem_iff]

theorem index_dir_named {e : Path × List String} (he : e ∈ (g.plan a).index.dirs) :
    ∃ names : List String, (∀ name ∈ names, ∀ c ∈ name.toList, Text.PathSafe c) ∧
      e.1 = names.foldl Path.join g.config.outputPath := by
  rw [plan_index, Plan.foldl_indexService] at he
  rcases ModuleIndex.mem_addAll he with ⟨old, hold, -⟩ | ⟨file, -, hmem⟩
  · cases hold
  · obtain ⟨before, after, hnames, hdir⟩ := mem_packageDirs.mp hmem
    refine ⟨before, ?_, hdir⟩
    intro name hname
    exact pathSafe_packageNames _ name (hnames ▸ List.mem_append_left _ hname)

theorem indexWrites_eq (g : Generator) (a : Accepted) :
    (g.plan a).indexWrites.map (fun w => (w.path, w.content)) =
      (g.plan a).index.summary.map (fun x =>
        (indexPath g.config.outputPath x.1, Renderer.moduleIndex x.2)) := by
  rw [Plan.indexWrites, ModuleIndex.summary, List.map_map, List.map_map]
  apply List.map_congr_left
  intro e he
  obtain ⟨names, hsafe, hdir⟩ := index_dir_named he
  simp only [Function.comp_apply, join_indexName hsafe hdir]

theorem indexWrites_reordered (h : (g.services b).Perm (g.services a)) :
    (g.plan b).indexWrites.map (fun w => (w.path, w.content)) =
      (g.plan a).indexWrites.map (fun w => (w.path, w.content)) := by
  rw [indexWrites_eq, indexWrites_eq, index_summary h]

/-! ## Files in any order -/

theorem write_fits {w : Write} (hw : w ∈ (g.plan a).writes) : w.Fits := by
  obtain ⟨s, -, f, hf, rfl⟩ := (g.mem_writes a).mp hw
  have hplain := plainName_file (fileIds_safe s f.1 (mem_fileIds_of_rendered hf)).2
  exact ⟨f.1.module ++ ".rs", hplain.no_slash, hplain.laterComponent?, rfl⟩

theorem write_dir {w : Write} (hw : w ∈ (g.plan a).writes) : ∃ names : List String,
    (∀ name ∈ names, ∀ c ∈ name.toList, Text.PathSafe c) ∧
    w.dir = names.foldl Path.join g.config.outputPath := by
  obtain ⟨s, -, f, -, rfl⟩ := (g.mem_writes a).mp hw
  exact ⟨packageNames f.1.package, pathSafe_packageNames _, rfl⟩

theorem write_isAbsolute {w : Write} (hw : w ∈ (g.plan a).writes) :
    w.dir.isAbsolute = g.config.outputPath.isAbsolute := by
  obtain ⟨names, hsafe, hdir⟩ := write_dir hw
  rw [hdir]
  exact (Path.steps_foldl_join _ names hsafe).2

theorem write_way {w : Write} (hw : w ∈ (g.plan a).writes) (cwd : Place) :
    ∃ names : List String, (∀ name ∈ names, ∀ c ∈ name.toList, Text.PathSafe c) ∧
      w.dir.way cwd = g.config.outputPath.way cwd ++
        namedPlaces (g.config.outputPath.placeFrom cwd) (names.map .name) := by
  obtain ⟨names, hsafe, hdir⟩ := write_dir hw
  obtain ⟨hsteps, habs⟩ := Path.steps_foldl_join g.config.outputPath names hsafe
  refine ⟨names.filter (· ≠ ""), fun name hname => hsafe name (List.mem_of_mem_filter hname), ?_⟩
  rw [hdir, Path.way, hsteps, namedPlaces_append, Path.start, habs, Path.placeFrom_eq]
  rfl

/-- The name of a file has a dot, so it is not the name of a directory. -/
theorem write_place {w : Write} (hw : w ∈ (g.plan a).writes) (cwd : Place) :
    ∃ names file, w.place cwd = g.config.outputPath.placeFrom cwd ++ names ++ [file] ∧
      '.' ∈ file.toList := by
  obtain ⟨s, -, f, hf, rfl⟩ := (g.mem_writes a).mp hw
  obtain ⟨-, hsafe⟩ := fileIds_safe s f.1 (mem_fileIds_of_rendered hf)
  refine ⟨(packageNames f.1.package).filter (· ≠ ""), f.1.module ++ ".rs", ?_, by simp⟩
  simp only [Write.place, Path.placeFrom, components_outputFile _ _ hsafe, List.foldl_append,
    addedComponents, foldl_step_names, List.foldl_cons, List.foldl_nil, Component.step]

theorem writes_not_on_way {tree : FileTree} (hclear : ∀ w ∈ (g.plan a).writes, w.Clear tree)
    {v w : Write} (hv : v ∈ (g.plan a).writes) (hw : w ∈ (g.plan a).writes) :
    v.place tree.cwd ∉ w.dir.way tree.cwd := by
  intro hmem
  obtain ⟨names, hsafe, hway⟩ := write_way hw tree.cwd
  rw [hway] at hmem
  rcases List.mem_append.mp hmem with hmem | hmem
  · obtain ⟨_, -, hown⟩ := write_way hv tree.cwd
    apply (hclear v hv).apart
    rw [hown]
    exact List.mem_append_left _ hmem
  · obtain ⟨below, hbelow, -, hnames⟩ := mem_namedPlaces_names hmem
    obtain ⟨before, file, hplace, hdot⟩ := write_place hv tree.cwd
    rw [hplace, List.append_assoc] at hbelow
    have hfile : file ∈ below := by
      rw [← List.append_cancel_left hbelow]
      simp
    exact (hsafe file (hnames file hfile) _ hdot).2 rfl

/-- A directory of a service that ends in a dot is there before the run. -/
def DotsPresent (g : Generator) (a : Accepted) (tree : FileTree) : Prop :=
  ∀ s ∈ g.services a, (packageDir g.config.outputPath s.package).endsInDot = true →
    tree.get? (g.config.outputPath.placeFrom tree.cwd) = some .directory

theorem writes_compatible {tree tree' : FileTree} {u : Unit} (hdots : g.DotsPresent a tree)
    (h : ((g.plan a).writes.forM Write.perform).after tree = (.ok u, tree')) :
    Compatible tree (g.plan a).writes := by
  have hclear := clear_of_forM (fun w hw => write_fits hw)
    (fun v hv w hw => (write_isAbsolute hv).trans (write_isAbsolute hw).symm) h
  constructor
  case fits => exact fun w hw => write_fits hw
  case clear => exact hclear
  case apart => exact fun v hv w hw => writes_not_on_way hclear hv hw
  case places =>
    apply (g.writes_apart a).imp_of_mem
    intro v w hv hw hne hplace
    exact hne ((g.write_below a hv).samePlace (g.write_below a hw) hplace)
  case dots =>
    intro w hw hdot
    obtain ⟨s, hs, f, hf, rfl⟩ := (g.mem_writes a).mp hw
    obtain ⟨hpackage, -⟩ := fileIds_safe s f.1 (mem_fileIds_of_rendered hf)
    -- Names of packages have no dots, so the dot is that of the output directory.
    obtain ⟨-, hnone⟩ := Path.endsInDot_foldl_join (pathSafe_packageNames _) hdot
    have hplace : (packageDir g.config.outputPath f.1.package).placeFrom tree.cwd =
        g.config.outputPath.placeFrom tree.cwd := by
      rw [Path.placeFrom, components_packageDir, hnone, List.append_nil]
      rfl
    rw [hplace]
    exact hdots s hs (hpackage ▸ hdot)

theorem forM_performIndex_congr {vs ws : List Write}
    (h : vs.map (fun w => (w.path, w.content)) = ws.map (fun w => (w.path, w.content))) :
    vs.forM Write.performIndex = ws.forM Write.performIndex := by
  induction vs generalizing ws with
  | nil =>
    obtain rfl := List.map_eq_nil_iff.mp h.symm
    rfl
  | cons v vs ih =>
    cases ws with
    | nil => cases h
    | cons w ws =>
      simp only [List.map_cons, List.cons.injEq, Prod.mk.injEq] at h
      obtain ⟨⟨hpath, hcontent⟩, hrest⟩ := h
      show (v.performIndex >>= fun _ => vs.forM Write.performIndex) =
        (w.performIndex >>= fun _ => ws.forM Write.performIndex)
      rw [ih hrest, Write.performIndex, Write.performIndex, hpath, hcontent]

/-- A plan that is carried out in one order of the services can be in every other. -/
theorem perform_reordered {tree tree' : FileTree} {report : Report}
    (hperm : (g.services b).Perm (g.services a)) (hdots : g.DotsPresent a tree)
    (h : (g.plan a).perform.after tree = (.ok report, tree')) :
    ∃ tree'', (g.plan b).perform.after tree = (.ok (g.plan b).finalReport, tree'') ∧
      SameFiles tree' tree'' := by
  obtain ⟨_, mid, hwrites, h⟩ := Disk.after_bind_eq_ok h
  obtain ⟨_, last, hindexes, h⟩ := Disk.after_bind_eq_ok h
  cases h
  have hcompatible := writes_compatible hdots hwrites
  obtain ⟨midA, hA, hdescribesA⟩ := hcompatible.forM_perform
  obtain ⟨midB, hB, hdescribesB⟩ := (hcompatible.perm (writes_perm hperm)).forM_perform
  obtain rfl : mid = midA := by
    rw [hwrites] at hA
    cases hA
    rfl
  have hsame := hdescribesA.sameFiles hdescribesB (fun w => (writes_perm hperm).mem_iff)
  have hindex : (g.plan b).indexWrites.forM Write.performIndex =
      (g.plan a).indexWrites.forM Write.performIndex :=
    forM_performIndex_congr (indexWrites_reordered hperm)
  obtain ⟨tree'', hlast, hfinal⟩ := hsame.forM_performIndex hindexes
  refine ⟨tree'', ?_, hfinal⟩
  rw [Plan.perform, Disk.after_bind, hB]
  simp only [hindex, Disk.after_bind, hlast]
  rfl

/-! ## Reports in any order -/

theorem report_reordered (h : Reordered a b) (hdup : (g.plan a).finalReport.NoDuplicates) :
    (g.plan b).finalReport.services.Perm (g.plan a).finalReport.services ∧
    (g.plan b).finalReport.failures.Perm (g.plan a).finalReport.failures ∧
    (g.plan b).finalReport.generated.Perm (g.plan a).finalReport.generated := by
  have hservices := services_perm h hdup
  refine ⟨?_, ?_, ?_⟩
  · rw [(g.accounts a).services, (g.accounts b).services]
    exact h.services.append (hservices.map _)
  · rw [(g.accounts a).failures, (g.accounts b).failures]
    exact h.failures.append ((outcomes_perm h hdup).filterMap _)
  · have hindex : (g.plan b).indexWrites.map Write.path =
        (g.plan a).indexWrites.map Write.path := by
      have heq := congrArg (List.map Prod.fst) (indexWrites_reordered hservices)
      rwa [List.map_map, List.map_map] at heq
    simp only [Plan.finalReport, plan_generated, hindex]
    exact (h.generated.append (hservices.flatMap_right _)).append (.refl _)

/-! ## Formatting -/

/-- The formatter does the same to files in whatever order it is given them. -/
def FormatsInAnyOrder (g : Generator) : Prop :=
  ∀ (files files' : List Path) (t u t' : FileTree) (x : Unit), files'.Perm files → SameFiles t u →
    (formatFiles g.programs g.formatter files).after t = (.ok x, t') →
    ∃ u', (formatFiles g.programs g.formatter files').after u = (.ok (), u') ∧ SameFiles t' u'

theorem formatsInAnyOrder_of_none (h : g.formatter = []) : g.FormatsInAnyOrder := by
  intro files files' t u t' x _ hsame hformat
  rw [h] at *
  cases hformat
  exact ⟨u, rfl, hsame⟩

theorem generateFor_of_perform {tree mid tree' : FileTree} {report : Report}
    (hperform : (g.plan a).perform.after tree = (.ok report, mid))
    (hformat : (formatFiles g.programs g.formatter report.generated).after mid = (.ok (), tree')) :
    (g.generateFor a).after tree = (.ok report, tree') := by
  rw [generateFor, Disk.after_bind, hperform]
  simp only [Disk.after_bind, hformat]
  rfl

end Generator

theorem Report.NoDuplicates.perm {r r' : Report} (h : r.NoDuplicates)
    (hperm : r'.failures.Perm r.failures) : r'.NoDuplicates :=
  fun f hf => h f (hperm.mem_iff.mp hf)

/-! ## Whole runs -/

/-- The order of the declarations does not matter to a run without duplicates, as long as no file
goes right into a missing directory whose path ends in a dot. The files are the same before they are
formatted, and after it if the formatter does not depend on the order either. -/
theorem generation_ignores_order (g : Generator) (a b : Accepted) (tree tree' : FileTree)
    (report : Report) (horder : Reordered a b)
    (h : (g.generateFor a).after tree = (.ok report, tree')) (hdup : report.NoDuplicates)
    (hdots : g.DotsPresent a tree) :
    ∃ report', (g.plan b).perform.after tree = (.ok report', g.unformatted b tree) ∧
      report'.NoDuplicates ∧ report'.services.Perm report.services ∧
      report'.failures.Perm report.failures ∧ report'.generated.Perm report.generated ∧
      SameFiles (g.unformatted a tree) (g.unformatted b tree) ∧
      (g.FormatsInAnyOrder → ∃ tree'', (g.generateFor b).after tree = (.ok report', tree'') ∧
        SameFiles tree' tree'') := by
  obtain rfl := Generator.generateFor_report h
  obtain ⟨hservices, hfailures, hgenerated⟩ := Generator.report_reordered horder hdup
  obtain ⟨hperform, -⟩ := Generator.perform_of_run h
  obtain ⟨mid, hmid, hsame⟩ :=
    Generator.perform_reordered (Generator.services_perm horder hdup) hdots hperform
  obtain rfl : g.unformatted b tree = mid := by rw [Generator.unformatted, hmid]
  refine ⟨_, hmid, hdup.perm hfailures, hservices, hfailures, hgenerated, hsame, ?_⟩
  intro hformatter
  obtain ⟨_, left, hleft, hrest⟩ := Disk.after_bind_eq_ok h
  obtain ⟨_, last, hformat, hrest⟩ := Disk.after_bind_eq_ok hrest
  cases hrest
  rw [hperform] at hleft
  cases hleft
  obtain ⟨tree'', hformat', hsame'⟩ := hformatter _ _ _ _ _ _ hgenerated hsame hformat
  exact ⟨tree'', Generator.generateFor_of_perform hmid hformat', hsame'⟩

def echoFound (services : List (String × String)) : Accepted :=
  Accepted.empty.addSource "declarations" (.ok (services.map (fun s => .ok (echo s.1 s.2))))

theorem generation_ignores_order_echo :
    ∃ tree', (plainGenerator.generateFor (echoFound [("", "Echo"), ("x", "Tone")])).after
        (.ofRoot ["w"]) = (.ok (plainGenerator.plan
          (echoFound [("", "Echo"), ("x", "Tone")])).finalReport, tree') ∧
      ∃ report' tree'', (plainGenerator.generateFor (echoFound [("x", "Tone"), ("", "Echo")])).after
        (.ofRoot ["w"]) = (.ok report', tree'') ∧
        report'.services.Perm ["Echo", "Tone"] ∧ SameFiles tree' tree'' := by
  obtain ⟨report, tree', h, hservices, hfailures, hdots⟩ := exists_run plainGenerator
    (echoFound [("", "Echo"), ("x", "Tone")]) (.ofRoot ["w"])
    (fun report => report.services = ["Echo", "Tone"] ∧ report.failures = [] ∧
      plainGenerator.config.outputPath.endsInDot = false) (by decide +kernel)
  have horder : Reordered (echoFound [("", "Echo"), ("x", "Tone")])
      (echoFound [("x", "Tone"), ("", "Echo")]) :=
    .of_found (.swap ..) _
  have hdup : report.NoDuplicates := by
    intro f hf
    rw [hfailures] at hf
    cases hf
  have hpresent : plainGenerator.DotsPresent (echoFound [("", "Echo"), ("x", "Tone")])
      (.ofRoot ["w"]) := by
    intro s _ hdot
    rw [(Path.endsInDot_foldl_join (pathSafe_packageNames _) hdot).1] at hdots
    cases hdots
  obtain ⟨report', -, -, hnames, -, -, -, hrun⟩ :=
    generation_ignores_order _ _ _ _ _ _ horder h hdup hpresent
  obtain ⟨tree'', hrun, hsame⟩ := hrun (Generator.formatsInAnyOrder_of_none rfl)
  refine ⟨tree', ?_, report', tree'', hrun, hservices ▸ hnames, hsame⟩
  rw [← Generator.generateFor_report h]
  exact h

def dottedGenerator : Generator := .of .none { Config.default with outputDir := ⟨"out/."⟩ }

/-- The directory is made by a file below it, but not by one that is right in it. -/
theorem missing_dot_needs_order :
    ∃ report tree', (dottedGenerator.generateFor (echoFound [("x", "Tone"), ("", "Echo")])).after
        (.ofRoot ["w"]) = (.ok report, tree') ∧
      report.services = ["Tone", "Echo"] ∧ report.failures = [] ∧
      ((dottedGenerator.generateFor (echoFound [("", "Echo"), ("x", "Tone")])).after
        (.ofRoot ["w"])).1 = .error (.io OsError.notFound.message) := by
  obtain ⟨report, tree', h, hservices, hfailures⟩ := exists_run dottedGenerator
    (echoFound [("x", "Tone"), ("", "Echo")]) (.ofRoot ["w"])
    (fun report => report.services = ["Tone", "Echo"] ∧ report.failures = []) (by decide +kernel)
  exact ⟨report, tree', h, hservices, hfailures, by decide +kernel⟩

end RpcStubs
