import RpcStubs.Proofs.Outcomes

/-!
# Accounting for declarations

A run that ends well reports each declaration once, as a service or as a failure. Declarations are
taken in order, and each is generated unless it is invalid or a place of it is taken.
-/

namespace RpcStubs

/-! ## Accounts -/

/-- The declaration at `j` stands before the one at `i`, and the place of a path was written for
it. -/
def WrittenBefore (output : Path) (outcomes : List Outcome) (i : Nat) (path : Path) (j : Nat) :
    Prop :=
  j < i ∧ ∃ t, outcomes[j]? = some (.generated t) ∧ ∃ q ∈ t.paths output, path.SamePlace q

/-- The outcomes of a run, one for each declaration, and how its report is made of them. -/
structure Accounts (output : Path) (a : Accepted) (report : Report) (outcomes : List Outcome) :
    Prop where
  length : outcomes.length = a.decls.length
  generated : ∀ (i : Nat) (d : Declaration) (s : Service), a.decls[i]? = some d →
    (outcomes[i]? = some (.generated s) ↔ Service.build d = .ok s ∧
      ∀ path ∈ s.paths output, ∀ j, ¬ WrittenBefore output outcomes i path j)
  invalid : ∀ (i : Nat) (d : Declaration) (e : Error), a.decls[i]? = some d →
    Service.build d = .error e → outcomes[i]? = some (.failed ⟨d.name, e⟩)
  /-- The first path that is taken is reported, with the declaration that took it. -/
  duplicate : ∀ (i j : Nat) (d other : Declaration) (s : Service) (free rest : List Path)
    (path : Path), a.decls[i]? = some d → Service.build d = .ok s →
    s.paths output = free ++ path :: rest →
    (∀ q ∈ free, ∀ k, ¬ WrittenBefore output outcomes i q k) →
    WrittenBefore output outcomes i path j → a.decls[j]? = some other →
    outcomes[i]? = some (.failed ⟨d.name, .duplicateOutput d.name path.text other.name⟩)
  names : ∀ (i : Nat) (d : Declaration) (s : Service), a.decls[i]? = some d →
    outcomes[i]? = some (.generated s) → s.name = d.name
  services : report.services = a.report.services ++ (Outcome.services outcomes).map (·.name)
  failures : report.failures = a.report.failures ++ Outcome.failures outcomes
  /-- The files of the services, and then an index for each directory on the way to one of them. -/
  files : ∃ dirs : List Path,
    report.generated = a.report.generated ++
      (Outcome.services outcomes).flatMap (Service.paths output) ++ dirs.map (·.join indexName) ∧
    dirs.Pairwise (fun p q => p.cmp q = .lt) ∧
    ∀ dir : Path, (∃ q ∈ dirs, dir.SamePlace q) ↔
      ∃ s ∈ Outcome.services outcomes, ∃ d ∈ packageDirs output s.package, dir.SamePlace d

/-! ## Owners of places -/

theorem mem_take_iff (outcomes : List Outcome) (i : Nat) (o : Outcome) :
    o ∈ outcomes.take i ↔ ∃ j, j < i ∧ outcomes[j]? = some o := by
  rw [List.mem_iff_getElem?]
  constructor
  · rintro ⟨j, hj⟩
    rw [List.getElem?_take] at hj
    split at hj
    · exact ⟨j, by assumption, hj⟩
    · cases hj
  · rintro ⟨j, hlt, hj⟩
    exact ⟨j, by rw [List.getElem?_take, if_pos hlt, hj]⟩

theorem Plan.mem_owners (output : Path) (r : Renderer) (report : Report) (outcomes : List Outcome)
    (x : Path × String) :
    x ∈ (outcomes.foldl (record output r) (start report)).owners ↔
      ∃ s, .generated s ∈ outcomes ∧ x.1 ∈ s.paths output ∧ s.name = x.2 := by
  rw [foldl_record]
  simp only [start, List.nil_append, List.mem_flatMap, Outcome.mem_services, List.mem_map]
  constructor
  · rintro ⟨s, hs, path, hpath, rfl⟩
    exact ⟨s, hs, hpath, rfl⟩
  · rintro ⟨s, hs, hpath, hname⟩
    exact ⟨s, hs, x.1, hpath, by rw [hname]⟩

namespace Generator

variable (g : Generator) (a : Accepted)

def planBefore (i : Nat) : Plan :=
  ((g.outcomes a).take i).foldl (Plan.record g.config.outputPath g.config.renderer)
    (.start a.report)

abbrev Wrote (i : Nat) (path : Path) (j : Nat) : Prop :=
  WrittenBefore g.config.outputPath (g.outcomes a) i path j

theorem owner?_planBefore_eq_none (i : Nat) (path : Path) :
    (g.planBefore a i).owner? path = none ↔ ∀ j, ¬ g.Wrote a i path j := by
  rw [Plan.owner?_eq_none]
  constructor
  · rintro h j ⟨hlt, t, ht, q, hq, hsame⟩
    have hmem : (q, t.name) ∈ (g.planBefore a i).owners :=
      (Plan.mem_owners ..).mpr ⟨t, (mem_take_iff ..).mpr ⟨j, hlt, ht⟩, hq, rfl⟩
    exact h _ hmem hsame
  · intro h x hx hsame
    obtain ⟨t, ht, hq, -⟩ := (Plan.mem_owners ..).mp hx
    obtain ⟨j, hlt, hj⟩ := (mem_take_iff ..).mp ht
    exact h j ⟨hlt, t, hj, x.1, hq, hsame⟩

theorem owner?_planBefore_eq_some (i : Nat) (path : Path) (name : String)
    (h : (g.planBefore a i).owner? path = some name) :
    ∃ j t, g.Wrote a i path j ∧ (g.outcomes a)[j]? = some (.generated t) ∧ t.name = name := by
  obtain ⟨q, hq, hsame⟩ := Plan.owner?_eq_some h
  obtain ⟨t, ht, hpath, hname⟩ := (Plan.mem_owners ..).mp hq
  obtain ⟨j, hlt, hj⟩ := (mem_take_iff ..).mp ht
  exact ⟨j, t, ⟨hlt, t, hj, q, hpath, hsame⟩, hj, hname⟩

/-! ## Declarations in order -/

theorem outcome_at (i : Nat) (d : Declaration) (hd : a.decls[i]? = some d) :
    (g.outcomes a)[i]? = some ((g.planBefore a i).outcome g.config.outputPath d) :=
  Plan.outcomes_getElem? _ _ _ _ i d hd

theorem exists_decl {i : Nat} {o : Outcome} (h : (g.outcomes a)[i]? = some o) :
    ∃ d, a.decls[i]? = some d := by
  obtain ⟨hlt, -⟩ := List.getElem?_eq_some_iff.mp h
  rw [outcomes_length] at hlt
  exact ⟨_, List.getElem?_eq_getElem hlt⟩

theorem generated_iff (i : Nat) (d : Declaration) (s : Service) (hd : a.decls[i]? = some d) :
    (g.outcomes a)[i]? = some (.generated s) ↔ Service.build d = .ok s ∧
      ∀ path ∈ s.paths g.config.outputPath, ∀ j, ¬ g.Wrote a i path j := by
  rw [g.outcome_at a i d hd, Option.some.injEq, Plan.outcome_eq_generated]
  simp only [owner?_planBefore_eq_none]

theorem name_of_generated (i : Nat) (d : Declaration) (s : Service) (hd : a.decls[i]? = some d)
    (hs : (g.outcomes a)[i]? = some (.generated s)) : s.name = d.name := by
  obtain ⟨hb, -⟩ := (g.generated_iff a i d s hd).mp hs
  exact ((build_eq_ok d s).mp hb).name

theorem not_wrote_later {i i' : Nat} {path : Path} {j k : Nat} (hj : g.Wrote a i path j)
    (hk : g.Wrote a i' path k) : ¬ j < k := by
  intro hlt
  obtain ⟨-, t, ht, q, hq, hsame⟩ := hk
  obtain ⟨-, t', ht', q', hq', hsame'⟩ := hj
  obtain ⟨d, hd⟩ := g.exists_decl a ht
  -- The declaration at `k` would have found the place taken by the one at `j`.
  apply ((g.generated_iff a k d t hd).mp ht).2 q hq j
  exact ⟨hlt, t', ht', q', hq', hsame.symm.trans hsame'⟩

theorem wrote_unique {i i' : Nat} {path : Path} {j k : Nat} (hj : g.Wrote a i path j)
    (hk : g.Wrote a i' path k) : j = k := by
  have h₁ := g.not_wrote_later a hj hk
  have h₂ := g.not_wrote_later a hk hj
  omega

theorem duplicate_reported (i j : Nat) (d other : Declaration) (s : Service)
    (free rest : List Path) (path : Path) (hd : a.decls[i]? = some d)
    (hb : Service.build d = .ok s) (hpaths : s.paths g.config.outputPath = free ++ path :: rest)
    (hfree : ∀ q ∈ free, ∀ k, ¬ g.Wrote a i q k) (hj : g.Wrote a i path j)
    (hother : a.decls[j]? = some other) :
    (g.outcomes a)[i]? =
      some (.failed ⟨d.name, .duplicateOutput d.name path.text other.name⟩) := by
  cases ho : (g.planBefore a i).owner? path with
  | none => exact absurd hj ((g.owner?_planBefore_eq_none a i path).mp ho j)
  | some name =>
    obtain ⟨k, t, hk, ht, rfl⟩ := g.owner?_planBefore_eq_some a i path name ho
    obtain rfl := g.wrote_unique a hj hk
    have hfree' : ∀ q ∈ free, (g.planBefore a i).owner? q = none := fun q hq =>
      (g.owner?_planBefore_eq_none a i q).mpr (hfree q hq)
    rw [g.outcome_at a i d hd,
      Plan.outcome_eq_duplicate _ _ d s hb free rest path hpaths hfree' _ ho,
      ((build_eq_ok d s).mp hb).name, g.name_of_generated a j other t hother ht]

/-! ## Runs -/

theorem accounts :
    Accounts g.config.outputPath a (g.plan a).finalReport (g.outcomes a) := by
  have hplan := (g.plan_eq a).trans (Plan.foldl_record ..)
  constructor
  case length => exact g.outcomes_length a
  case generated => exact g.generated_iff a
  case invalid =>
    intro i d e hd hb
    rw [g.outcome_at a i d hd, Plan.outcome_eq_invalid _ _ d e hb]
  case duplicate => exact g.duplicate_reported a
  case names => exact g.name_of_generated a
  case services => rw [hplan]; rfl
  case failures => rw [hplan]; rfl
  case files =>
    refine ⟨(g.plan a).index.dirs.map (·.1), ?_, ?_, ?_⟩
    · simp [Plan.finalReport, Plan.indexWrites, hplan, Plan.start]
    · rw [hplan, List.pairwise_map]
      exact Plan.sorted_foldl_indexService _ _ _ List.Pairwise.nil
    · intro dir
      have hdir := Plan.hasDir_foldl_indexService g.config.outputPath
        (Outcome.services (g.outcomes a)) .empty dir
      rw [hplan]
      simpa [ModuleIndex.HasDir, ModuleIndex.empty, Plan.start] using hdir

end Generator

/-- The report of a run accounts for every declaration, and a service does not clash with
itself. -/
theorem declarations_accounted_for (g : Generator) (a : Accepted) (tree tree' : FileTree)
    (report : Report) (h : (g.generateFor a).after tree = (.ok report, tree')) :
    (∀ (d : Declaration) (s : Service), Service.build d = .ok s →
      (s.paths g.config.outputPath).Pairwise (fun p q => ¬ p.SamePlace q)) ∧
    Accounts g.config.outputPath a report (g.outcomes a) := by
  constructor
  · intro d s hb
    exact paths_pairwise ((build_eq_ok d s).mp hb) _
  · rw [Generator.generateFor_report h]
    exact g.accounts a

def echo (package name : String) : Declaration :=
  ⟨name, package, .interface, [⟨Marker.service, .empty⟩], [], []⟩

/-- Two services whose packages are one directory, and a record. -/
def echoes : Accepted :=
  ⟨[echo "a-b" "Echo", echo "aB" "ECHO", ⟨"Tone", "", .record, [], [], []⟩], .empty⟩

def plainGenerator : Generator := .of .none { Config.default with outputDir := ⟨"out"⟩ }

theorem declarations_accounted_for_echoes :
    ∃ report tree',
      (plainGenerator.generateFor echoes).after (.ofRoot ["w"]) = (.ok report, tree') ∧
      report.services = ["Echo"] ∧
      report.failures = [⟨"ECHO", .duplicateOutput "ECHO" "out/a_b/echo.rs" "Echo"⟩,
        ⟨"Tone", .notInterface "Tone"⟩] ∧
      Accounts ⟨"out"⟩ echoes report (plainGenerator.outcomes echoes) := by
  have hrun : ((plainGenerator.generateFor echoes).after (.ofRoot ["w"])).1.toOption.map
      (fun report => (report.services, report.failures)) =
      some (["Echo"], [⟨"ECHO", .duplicateOutput "ECHO" "out/a_b/echo.rs" "Echo"⟩,
        ⟨"Tone", .notInterface "Tone"⟩]) := by decide +kernel
  rcases h : (plainGenerator.generateFor echoes).after (.ofRoot ["w"]) with ⟨_ | report, tree'⟩
  · rw [h] at hrun
    cases hrun
  · obtain ⟨-, haccounts⟩ := declarations_accounted_for _ _ _ _ _ h
    rw [h] at hrun
    simp only [Except.toOption, Option.map_some, Option.some.injEq, Prod.mk.injEq] at hrun
    exact ⟨report, tree', rfl, hrun.1, hrun.2, haccounts⟩

end RpcStubs
