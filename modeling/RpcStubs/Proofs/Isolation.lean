import RpcStubs.Proofs.Accounting

/-!
# Failures are isolated

What failed may be taken out of the input of a run: a source that could not be read, a declaration
that could not be read, and one that was invalid or came too late for its places. The run then
writes the same files, and the other failures are the same.
-/

namespace RpcStubs

/-! ## Sources -/

namespace Accepted

def ofSources (sources : List (String × Except Error (List Inspected))) : Accepted :=
  sources.foldl (fun a source => a.addSource source.1 source.2) empty

theorem ofFiles_eq (tree : FileTree) (files : List SourceFile) :
    ofFiles tree files = ofSources (files.map (fun f => (f.path.text, f.inspect tree))) := by
  unfold ofFiles ofSources
  rw [List.foldl_map]

end Accepted

def Inspected.failure? (source : String) : Inspected → Option Failure
  | .ok _ => none
  | .error e => some ⟨e.service?.getD source, e⟩

def sourceDecls : Except Error (List Inspected) → List Declaration
  | .ok found => found.filterMap Except.toOption
  | .error _ => []

def sourceFailures (source : String) : Except Error (List Inspected) → List Failure
  | .ok found => found.filterMap (Inspected.failure? source)
  | .error e => [⟨source, e⟩]

namespace Accepted

theorem foldl_add (source : String) (found : List Inspected) (a : Accepted) :
    found.foldl (add source) a =
      { decls := a.decls ++ found.filterMap Except.toOption
        report := { a.report with
          failures := a.report.failures ++ found.filterMap (Inspected.failure? source) } } := by
  induction found generalizing a with
  | nil => simp
  | cons x found ih =>
    rw [List.foldl_cons, ih]
    cases x with
    | ok d => simp [add, List.filterMap_cons, Inspected.failure?, Except.toOption]
    | error e => simp [add, List.filterMap_cons, Inspected.failure?, Except.toOption, Report.fail]

theorem addSource_eq (a : Accepted) (source : String) (found : Except Error (List Inspected)) :
    a.addSource source found =
      { decls := a.decls ++ sourceDecls found
        report := { a.report with
          failures := a.report.failures ++ sourceFailures source found } } := by
  cases found with
  | ok found => exact foldl_add source found a
  | error e => simp [addSource, sourceDecls, sourceFailures, Report.fail]

theorem foldl_addSource (sources : List (String × Except Error (List Inspected)))
    (a : Accepted) :
    sources.foldl (fun a source => a.addSource source.1 source.2) a =
      { decls := a.decls ++ sources.flatMap (fun s => sourceDecls s.2)
        report := { a.report with
          failures := a.report.failures ++
            sources.flatMap (fun s => sourceFailures s.1 s.2) } } := by
  induction sources generalizing a with
  | nil => simp
  | cons source sources ih =>
    rw [List.foldl_cons, ih, addSource_eq]
    simp

theorem ofSources_eq (sources : List (String × Except Error (List Inspected))) :
    ofSources sources =
      ⟨sources.flatMap (fun s => sourceDecls s.2),
        ⟨[], sources.flatMap (fun s => sourceFailures s.1 s.2), []⟩⟩ :=
  foldl_addSource sources empty

end Accepted

/-! ## Marked items -/

/-- An item, and whether it stays when others are taken out. -/
structure Marked (α : Type) where
  stays : Bool
  item : α

namespace Marked

variable {α β : Type}

def all (l : List (Marked α)) : List α := l.map (·.item)

def kept (l : List (Marked α)) : List α := all (l.filter (·.stays))

def pick (f : α → Option β) (l : List (Marked α)) : List (Marked β) :=
  l.filterMap (fun m => (f m.item).map (⟨m.stays, ·⟩))

def mark (l : List (Marked α)) (items : List β) : List (Marked β) :=
  (l.zip items).map (fun (m, item) => ⟨m.stays, item⟩)

theorem all_append (l l' : List (Marked α)) : all (l ++ l') = all l ++ all l' := List.map_append

theorem kept_append (l l' : List (Marked α)) : kept (l ++ l') = kept l ++ kept l' := by
  simp [kept, all]

@[simp] theorem all_cons (m : Marked α) (l : List (Marked α)) :
    all (m :: l) = m.item :: all l := rfl

@[simp] theorem kept_cons_stays (item : α) (l : List (Marked α)) :
    kept (⟨true, item⟩ :: l) = item :: kept l := rfl

@[simp] theorem kept_cons_goes (item : α) (l : List (Marked α)) :
    kept (⟨false, item⟩ :: l) = kept l := rfl

theorem all_pick (f : α → Option β) (l : List (Marked α)) :
    all (pick f l) = (all l).filterMap f := by
  simp [all, pick, List.map_filterMap, List.filterMap_map, Function.comp_def]

theorem kept_pick (f : α → Option β) (l : List (Marked α)) :
    kept (pick f l) = (kept l).filterMap f := by
  have hpick : (pick f l).filter (·.stays) = pick f (l.filter (·.stays)) := by
    unfold pick
    rw [List.filter_filterMap, List.filterMap_filter]
    apply List.filterMap_congr
    rintro ⟨_ | _, item⟩ - <;> cases f item <;> rfl
  rw [kept, hpick, all_pick, kept]

@[simp] theorem mark_cons (m : Marked α) (l : List (Marked α)) (item : β) (items : List β) :
    mark (m :: l) (item :: items) = ⟨m.stays, item⟩ :: mark l items := rfl

theorem all_mark (l : List (Marked α)) (items : List β) (h : items.length = l.length) :
    all (mark l items) = items := by
  rw [all, mark, List.map_map]
  exact List.map_snd_zip h.le

end Marked

/-- A source that failed as a whole, or else the marked items that were found in it. -/
inductive MarkedSource where
  | failed (name : String) (error : Error) (stays : Bool)
  | read (name : String) (found : List (Marked Inspected))

namespace MarkedSource

def full : MarkedSource → String × Except Error (List Inspected)
  | failed name error _ => (name, .error error)
  | read name found => (name, .ok (Marked.all found))

def rest? : MarkedSource → Option (String × Except Error (List Inspected))
  | failed name error stays => if stays then some (name, .error error) else none
  | read name found => some (name, .ok (Marked.kept found))

def decls : MarkedSource → List (Marked Declaration)
  | failed _ _ _ => []
  | read _ found => Marked.pick Except.toOption found

def failures : MarkedSource → List (Marked Failure)
  | failed name error stays => [⟨stays, ⟨name, error⟩⟩]
  | read name found => Marked.pick (Inspected.failure? name) found

def input (sources : List MarkedSource) : Accepted := .ofSources (sources.map full)

def restInput (sources : List MarkedSource) : Accepted := .ofSources (sources.filterMap rest?)

theorem input_eq (sources : List MarkedSource) :
    input sources = ⟨Marked.all (sources.flatMap decls),
      ⟨[], Marked.all (sources.flatMap failures), []⟩⟩ := by
  rw [input, Accepted.ofSources_eq]
  induction sources with
  | nil => rfl
  | cons source sources ih =>
    simp only [Accepted.mk.injEq, Report.mk.injEq, true_and, and_true] at ih
    simp only [List.map_cons, List.flatMap_cons, Marked.all_append, ih]
    cases source with
    | failed name error stays => rfl
    | read name found =>
      simp [full, decls, failures, sourceDecls, sourceFailures, Marked.all_pick]

theorem restInput_eq (sources : List MarkedSource) :
    restInput sources = ⟨Marked.kept (sources.flatMap decls),
      ⟨[], Marked.kept (sources.flatMap failures), []⟩⟩ := by
  rw [restInput, Accepted.ofSources_eq]
  induction sources with
  | nil => rfl
  | cons source sources ih =>
    simp only [Accepted.mk.injEq, Report.mk.injEq, true_and, and_true] at ih
    simp only [List.flatMap_cons, Marked.kept_append, ← ih]
    cases source with
    | failed name error stays =>
      cases stays with
      | false => rfl
      | true => rfl
    | read name found =>
      simp [rest?, decls, failures, sourceDecls, sourceFailures, Marked.kept_pick]

end MarkedSource

/-! ## Outcomes -/

/-- Only failed declarations are taken out. -/
def OnlyFailedGo (outcomes : List (Marked Outcome)) : Prop :=
  ∀ m ∈ outcomes, m.stays = false → m.item.failure?.isSome = true

instance (outcomes : List (Marked Outcome)) : Decidable (OnlyFailedGo outcomes) :=
  inferInstanceAs (Decidable (∀ m ∈ outcomes, _))

theorem services_kept (outcomes : List (Marked Outcome)) (h : OnlyFailedGo outcomes) :
    Outcome.services (Marked.kept outcomes) = Outcome.services (Marked.all outcomes) := by
  induction outcomes with
  | nil => rfl
  | cons m outcomes ih =>
    obtain ⟨hm, hrest⟩ := List.forall_mem_cons.mp h
    obtain ⟨stays, o⟩ := m
    cases o with
    | failed failure => cases stays <;> simp [ih hrest]
    | generated s =>
      -- A generated service stays.
      cases stays with
      | false => cases hm rfl
      | true => simp [ih hrest]

namespace Plan

theorem outcome_congr (output : Path) {p q : Plan} (h : q.owners = p.owners) (d : Declaration) :
    q.outcome output d = p.outcome output d := by
  have howner : ∀ path, q.owner? path = p.owner? path := by
    intro path
    rw [owner?, owner?, h]
  cases hb : Service.build d with
  | error e => rw [outcome_eq_invalid output q d e hb, outcome_eq_invalid output p d e hb]
  | ok s => simp only [outcome_of_build hb, howner]

theorem record_owners (output : Path) (r : Renderer) {p q : Plan} (h : q.owners = p.owners)
    (o : Outcome) : (q.record output r o).owners = (p.record output r o).owners := by
  cases o with
  | generated s => simp [record, h]
  | failed failure => exact h

theorem outcomes_kept (output : Path) (r : Renderer) (ds : List (Marked Declaration))
    {p q : Plan} (howners : q.owners = p.owners)
    (h : OnlyFailedGo (Marked.mark ds (p.outcomes output r (Marked.all ds)))) :
    q.outcomes output r (Marked.kept ds) =
      Marked.kept (Marked.mark ds (p.outcomes output r (Marked.all ds))) := by
  -- Over plans with the same owners, since a failure that is taken out leaves them as they were.
  induction ds generalizing p q with
  | nil => rfl
  | cons m ds ih =>
    obtain ⟨stays, d⟩ := m
    rw [Marked.all_cons, outcomes, Marked.mark_cons, addDeclaration_eq_record] at h ⊢
    obtain ⟨hd, hds⟩ := List.forall_mem_cons.mp h
    cases stays with
    | true =>
      rw [Marked.kept_cons_stays, Marked.kept_cons_stays, outcomes, addDeclaration_eq_record,
        outcome_congr output howners, ih (record_owners output r howners _) hds]
    | false =>
      rw [Marked.kept_cons_goes, Marked.kept_cons_goes]
      apply ih _ hds
      cases ho : p.outcome output d with
      | generated s => rw [ho] at hd; cases hd rfl
      | failed failure => exact howners

end Plan

/-! ## Runs -/

def Plan.withFailures (p : Plan) (failures : List Failure) : Plan :=
  { p with report := { p.report with failures := failures } }

theorem Plan.perform_withFailures (p : Plan) (failures : List Failure) (tree : FileTree) :
    (p.withFailures failures).perform.after tree =
      ((p.perform.after tree).1.map (fun report => { report with failures := failures }),
        (p.perform.after tree).2) := by
  have hwrites : (p.withFailures failures).writes = p.writes := rfl
  have hindexes : (p.withFailures failures).indexWrites = p.indexWrites := rfl
  simp only [Plan.perform, Disk.after_bind, hwrites, hindexes]
  rcases Disk.after (p.writes.forM Write.perform) tree with ⟨_ | _, tree'⟩
  · rfl
  · simp only
    rcases Disk.after (p.indexWrites.forM Write.performIndex) tree' with ⟨_ | _, tree''⟩ <;> rfl

theorem Generator.generateFor_withFailures {g : Generator} {a b : Accepted}
    {failures : List Failure} (h : g.plan b = (g.plan a).withFailures failures) (tree : FileTree) :
    (g.generateFor b).after tree =
      (((g.generateFor a).after tree).1.map (fun report => { report with failures := failures }),
        ((g.generateFor a).after tree).2) := by
  simp only [Generator.generateFor, Disk.after_bind, h, Plan.perform_withFailures]
  rcases (g.plan a).perform.after tree with ⟨_ | report, tree'⟩
  · rfl
  · simp only [Except.map]
    rcases (formatFiles g.programs g.formatter report.generated).after tree' with ⟨_ | _, _⟩ <;> rfl

/-- The runs on two inputs differ in their failures only. The marked failures are those of the
first, and the second has those that stay. -/
structure Isolated (g : Generator) (a b : Accepted) (failures : List (Marked Failure)) : Prop where
  writes : (g.plan b).writes = (g.plan a).writes
  indexes : (g.plan b).indexWrites = (g.plan a).indexWrites
  reports : ∀ (tree tree' : FileTree) (report : Report),
    (g.generateFor a).after tree = (.ok report, tree') →
    report.failures = Marked.all failures ∧
    (g.generateFor b).after tree =
      (.ok { report with failures := Marked.kept failures }, tree')
  errors : ∀ (tree tree' : FileTree) (e : Error),
    (g.generateFor a).after tree = (.error e, tree') →
    (g.generateFor b).after tree = (.error e, tree')

namespace MarkedSource

/-- The outcomes of a run on all sources, with the marks of the declarations. -/
def outcomes (g : Generator) (sources : List MarkedSource) : List (Marked Outcome) :=
  Marked.mark (sources.flatMap decls) (g.outcomes (input sources))

/-- The failures of a run on all sources, with the marks of the items that failed. -/
def allFailures (g : Generator) (sources : List MarkedSource) : List (Marked Failure) :=
  sources.flatMap failures ++ Marked.pick Outcome.failure? (outcomes g sources)

theorem all_outcomes (g : Generator) (sources : List MarkedSource) :
    Marked.all (outcomes g sources) = g.outcomes (input sources) := by
  apply Marked.all_mark
  rw [Generator.outcomes_length, input_eq, Marked.all, List.length_map]

theorem kept_outcomes (g : Generator) (sources : List MarkedSource)
    (h : OnlyFailedGo (outcomes g sources)) :
    Marked.kept (outcomes g sources) = g.outcomes (restInput sources) := by
  unfold outcomes Generator.outcomes at h ⊢
  rw [input_eq] at h ⊢
  rw [restInput_eq]
  symm
  apply Plan.outcomes_kept _ _ _ _ h
  rfl

theorem plan_input_failures (g : Generator) (sources : List MarkedSource) :
    (g.plan (input sources)).report.failures = Marked.all (allFailures g sources) := by
  rw [allFailures, Marked.all_append, Marked.all_pick, all_outcomes, g.plan_eq, Plan.foldl_record,
    input_eq]
  rfl

theorem plan_restInput (g : Generator) (sources : List MarkedSource)
    (h : OnlyFailedGo (outcomes g sources)) :
    g.plan (restInput sources) =
      (g.plan (input sources)).withFailures (Marked.kept (allFailures g sources)) := by
  have hservices := services_kept _ h
  rw [all_outcomes, kept_outcomes g sources h] at hservices
  rw [g.plan_eq, g.plan_eq, Plan.foldl_record, Plan.foldl_record, hservices, allFailures,
    Marked.kept_append, Marked.kept_pick, kept_outcomes g sources h, input_eq, restInput_eq]
  rfl

end MarkedSource

/-- Taking failed items out of the input of a run changes its failures only. -/
theorem failures_isolated (g : Generator) (sources : List MarkedSource)
    (h : OnlyFailedGo (MarkedSource.outcomes g sources)) :
    Isolated g (MarkedSource.input sources) (MarkedSource.restInput sources)
      (MarkedSource.allFailures g sources) := by
  have hplan := MarkedSource.plan_restInput g sources h
  have hrun := Generator.generateFor_withFailures hplan
  constructor
  case writes => rw [hplan]; rfl
  case indexes => rw [hplan]; rfl
  case reports =>
    intro tree tree' report hrep
    constructor
    · rw [Generator.generateFor_report hrep]
      exact MarkedSource.plan_input_failures g sources
    · rw [hrun, hrep]
      rfl
  case errors =>
    intro tree tree' e he
    rw [hrun, he]
    rfl

/-- Two unreadable sources, and one in which most of the items fail. A failure of each kind stays
and another is taken out. -/
def troubled : List MarkedSource :=
  [.failed "a.rs" (.missingFile "a.rs") false,
    .read "b.rs" [⟨true, .ok (echo "" "Echo")⟩, ⟨false, .ok (echo "-" "ECHO")⟩,
      ⟨true, .ok (echo "-" "Echo")⟩, ⟨false, .error (.parse "b.rs" "first")⟩,
      ⟨true, .error (.parse "b.rs" "second")⟩, ⟨false, .ok ⟨"Tone", "", .record, [], [], []⟩⟩,
      ⟨true, .ok ⟨"Pitch", "", .record, [], [], []⟩⟩],
    .failed "c.rs" (.missingFile "c.rs") true]

theorem failures_isolated_troubled :
    OnlyFailedGo (MarkedSource.outcomes plainGenerator troubled) ∧
      Marked.kept (MarkedSource.allFailures plainGenerator troubled) =
        [⟨"b.rs", .parse "b.rs" "second"⟩, ⟨"c.rs", .missingFile "c.rs"⟩,
          ⟨"Echo", .duplicateOutput "Echo" "out/echo.rs" "Echo"⟩,
          ⟨"Pitch", .notInterface "Pitch"⟩] ∧
      Isolated plainGenerator (MarkedSource.input troubled) (MarkedSource.restInput troubled)
        (MarkedSource.allFailures plainGenerator troubled) := by
  have h : OnlyFailedGo (MarkedSource.outcomes plainGenerator troubled) := by decide +kernel
  exact ⟨h, by decide +kernel, failures_isolated plainGenerator troubled h⟩

end RpcStubs
