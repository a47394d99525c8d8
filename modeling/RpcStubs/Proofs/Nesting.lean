import RpcStubs.Proofs.Below
import RpcStubs.Proofs.Inspection

/-!
# Directories of nested modules

The name of a module is joined to a package by two colons, and the package is cut at two colons
again. The cut need not be where the names were joined, but it is off by a colon at most, and colons
do not show in the names of directories.
-/

namespace RpcStubs

/-! ## Segments of a joined package -/

namespace Text

theorem segments_ne_nil (cs : List Char) : segments cs ≠ [] := by
  fun_induction segments cs with
  | case1 => simp
  | case2 rest ih => simp
  | case3 c rest _ h ih => simp
  | case4 c rest _ s ss h ih => simp

theorem segments_cons {c : Char} {cs : List Char} (h : c = ':' → cs.head? ≠ some ':') :
    ∃ s ss, segments cs = s :: ss ∧ segments (c :: cs) = (c :: s) :: ss := by
  obtain ⟨s, ss, hsegments⟩ := List.exists_cons_of_ne_nil (segments_ne_nil cs)
  refine ⟨s, ss, hsegments, ?_⟩
  unfold segments
  split
  · simp_all
  · rename_i heq
    simp_all
  · rename_i heq
    cases heq
    simp [hsegments]

theorem segments_of_not_mem {cs : List Char} (h : ':' ∉ cs) : segments cs = [cs] := by
  induction cs with
  | nil => rfl
  | cons c cs ih =>
    have hhead : c = ':' → cs.head? ≠ some ':' := fun hc => absurd (by simp [hc]) h
    obtain ⟨s, ss, hsegments, hcons⟩ := segments_cons hhead
    rw [ih (fun hm => h (List.mem_cons_of_mem _ hm))] at hsegments
    cases hsegments
    exact hcons

/-- The segments of a text, without and with a name joined to it. The name is a segment of its own,
or a colon moves over to it. -/
inductive Joined (name : List Char) : List (List Char) → List (List Char) → Prop
  | own (s : List Char) : Joined name [s] [s, name]
  | moved (s : List Char) : Joined name [s ++ [':']] [s, ':' :: name]
  | later {before after : List (List Char)} (s : List Char) (h : Joined name before after) :
      Joined name (s :: before) (s :: after)

theorem Joined.push {s t name : List Char} {before after : List (List Char)}
    (h : Joined name (s :: before) (t :: after)) (c : Char) :
    Joined name ((c :: s) :: before) ((c :: t) :: after) := by
  cases h with
  | own => exact .own _
  | moved s => exact .moved (c :: _)
  | later s h => exact .later _ h

theorem segments_colons (cs : List Char) : segments (':' :: ':' :: cs) = [] :: segments cs := by
  rw [segments]

theorem segments_join (cs : List Char) {name : List Char} (hname : ':' ∉ name) :
    Joined name (segments cs) (segments (cs ++ ':' :: ':' :: name)) := by
  have hown : segments name = [name] := segments_of_not_mem hname
  have hmoved : segments (':' :: name) = [':' :: name] := by
    have hhead : name.head? ≠ some ':' := fun h => hname (List.mem_of_mem_head? h)
    obtain ⟨s, ss, hsegments, hcons⟩ := segments_cons (fun _ => hhead)
    rw [hown] at hsegments
    cases hsegments
    exact hcons
  induction cs using segments.induct with
  | case1 =>
    rw [List.nil_append, segments_colons, hown]
    exact .own []
  | case2 rest ih =>
    rw [List.cons_append, List.cons_append, segments_colons, segments_colons]
    exact .later [] ih
  | case3 c rest _ hnil ih => exact absurd hnil (segments_ne_nil rest)
  | case4 c rest hcolons _ _ _ ih =>
    by_cases hlone : c = ':' ∧ rest = []
    · -- A colon at the end goes with the first of the two behind it, and the second moves.
      obtain ⟨rfl, rfl⟩ := hlone
      rw [List.cons_append, List.nil_append, segments_colons, hmoved]
      exact .moved []
    · have hrest : c = ':' → rest.head? ≠ some ':' := by
        rintro rfl hhead
        cases rest with
        | nil => cases hhead
        | cons d rest =>
          cases hhead
          exact hcolons rest rfl rfl
      have hjoined : c = ':' → (rest ++ ':' :: ':' :: name).head? ≠ some ':' := by
        intro hc
        cases rest with
        | nil => exact absurd ⟨hc, rfl⟩ hlone
        | cons d rest => exact hrest hc
      obtain ⟨s, ss, hbefore, hbefore'⟩ := segments_cons hrest
      obtain ⟨t, ts, hafter, hafter'⟩ := segments_cons hjoined
      rw [List.cons_append, hbefore', hafter']
      rw [hbefore, hafter] at ih
      exact ih.push c

/-! ## Words around a colon -/

theorem pieces_ne_nil (cs : List Char) : pieces cs ≠ [] := by
  cases cs with
  | nil => simp [pieces]
  | cons c cs =>
    unfold pieces
    split
    · split <;> simp
    · simp

theorem snakeChars_colon_cons (cs : List Char) : snakeChars (':' :: cs) = snakeChars cs := by
  have hcolon : isAlphanumeric ':' = false := by decide +kernel
  simp [snakeChars, words, pieces, hcolon, pieceWords]

theorem pieces_concat {cs : List Char} {c : Char} (hc : isAlphanumeric c = false) :
    pieces (cs ++ [c]) = pieces cs ++ [[]] := by
  induction cs with
  | nil => simp [pieces, hc]
  | cons d cs ih =>
    obtain ⟨p, ps, hp⟩ := List.exists_cons_of_ne_nil (pieces_ne_nil cs)
    rw [List.cons_append, pieces, pieces, ih, hp]
    split <;> simp

theorem snakeChars_colon_concat (cs : List Char) : snakeChars (cs ++ [':']) = snakeChars cs := by
  have hcolon : isAlphanumeric ':' = false := by decide +kernel
  simp [snakeChars, words, pieces_concat hcolon, pieceWords]

end Text

/-! ## Directories -/

def segmentDir (segment : List Char) : String := String.ofList (Text.snakeChars segment)

theorem segmentDir_nil : segmentDir [] = "" := by
  simp [segmentDir, Text.snakeChars, Text.words, Text.pieces, Text.pieceWords]

theorem addedComponents_cons (name : String) (names : List String) :
    addedComponents (name :: names) = addedComponents [name] ++ addedComponents names := by
  rw [← addedComponents_append, List.singleton_append]

theorem addedComponents_packageNames (package : String) :
    addedComponents (packageNames package) =
      addedComponents ((Text.segments package.toList).map segmentDir) := by
  unfold packageNames Text.nameSegments
  induction Text.segments package.toList with
  | nil => rfl
  | cons segment segments ih =>
    rw [List.map_cons, addedComponents_cons, ← ih]
    cases segment with
    | nil => simp [segmentDir_nil, addedComponents]
    | cons c cs =>
      simp only [List.filter_cons, List.isEmpty_cons, Bool.not_false, if_true, List.map_cons]
      rw [addedComponents_cons]
      simp [segmentDir, Text.snakeCase]

theorem Text.Joined.addedComponents {name : List Char} {before after : List (List Char)}
    (h : Joined name before after) :
    addedComponents (after.map segmentDir) =
      addedComponents (before.map segmentDir) ++ addedComponents [segmentDir name] := by
  induction h with
  | own s =>
    rw [← addedComponents_append]
    rfl
  | moved s =>
    have hs : segmentDir (s ++ [':']) = segmentDir s := by
      rw [segmentDir, snakeChars_colon_concat, segmentDir]
    have hname : segmentDir (':' :: name) = segmentDir name := by
      rw [segmentDir, snakeChars_colon_cons, segmentDir]
    rw [← addedComponents_append]
    simp only [List.map_cons, List.map_nil, hs, hname, List.singleton_append]
  | later s h ih =>
    rw [List.map_cons, List.map_cons, addedComponents_cons, ih, ← List.append_assoc,
      ← addedComponents_cons]

namespace Idl

theorem addedComponents_modulePackage (package : String) {name : String}
    (hname : ':' ∉ name.toList) :
    addedComponents (packageNames (modulePackage package name)) =
      addedComponents (packageNames package) ++ addedComponents [Text.snakeCase name] := by
  simp only [addedComponents_packageNames]
  unfold modulePackage
  split
  · rename_i hempty
    have hnone : addedComponents ((Text.segments "".toList).map segmentDir) = [] := by
      simp [Text.segments, segmentDir_nil, addedComponents]
    rw [String.isEmpty_iff.mp hempty, hnone, Text.segments_of_not_mem hname, List.nil_append]
    rfl
  · have hjoined := (Text.segments_join package.toList hname).addedComponents
    rw [String.toList_append, String.toList_append, List.append_assoc]
    exact hjoined

theorem addedComponents_packageOf (package : String) {modules : List String}
    (hmodules : ∀ m ∈ modules, IsWord m.toList) :
    addedComponents (packageNames (packageOf package modules)) =
      addedComponents (packageNames package) ++ addedComponents (modules.map Text.snakeCase) := by
  induction modules using List.reverseRecOn with
  | nil => simp
  | append_singleton modules name ih =>
    have hinit : ∀ m ∈ modules, IsWord m.toList := fun m hm => hmodules m (by simp [hm])
    have hne : ∀ m ∈ modules, m ≠ "" := by
      rintro m hm rfl
      exact (hinit _ hm).ne_nil rfl
    have hcolon : ':' ∉ name.toList := (hmodules name (by simp)).colon_not_mem
    rw [← modulePackage_packageOf hne, addedComponents_modulePackage _ hcolon, ih hinit,
      List.map_append, addedComponents_append, List.append_assoc]
    rfl

def modulesDir (output : Path) (package : String) (modules : List String) : Path :=
  (modules.map Text.snakeCase).foldl Path.join (packageDir output package)

theorem components_modulesDir (output : Path) (package : String) (modules : List String) :
    (modulesDir output package modules).components =
      (packageDir output package).components ++ addedComponents (modules.map Text.snakeCase) := by
  apply Path.components_foldl_join
  intro name hname
  obtain ⟨m, -, rfl⟩ := List.mem_map.mp hname
  exact Text.pathSafe_snakeCase m

theorem components_packageDir_packageOf (output : Path) (package : String)
    {modules : List String} (hmodules : ∀ m ∈ modules, IsWord m.toList) :
    (packageDir output (packageOf package modules)).components =
      (modulesDir output package modules).components := by
  rw [components_modulesDir, components_packageDir, components_packageDir,
    addedComponents_packageOf package hmodules, List.append_assoc]

/-! ## Files of a declaration -/

theorem package_of_results {leaf : Leaf} {source package : String} (hleaf : leaf.Found source)
    {d : Declaration} (hd : .ok d ∈ leaf.results package) :
    d.package = packageOf package leaf.modules := by
  have hresult : ResultOf (packageOf package leaf.modules) leaf.item (.ok d) :=
    resultOf_of_mem hleaf.flat hd
  obtain ⟨modules, item⟩ := leaf
  cases item with
  | trait name attrs methods =>
    obtain ⟨_, _, _, _, rfl⟩ := hresult
    rfl
  | plain kind name attrs =>
    obtain ⟨_, _, rfl⟩ := hresult
    rfl
  | module name items => exact hresult.elim
  | other => exact hresult.elim

end Idl

theorem Built.package_eq {d : Declaration} {s : Service} (h : Built d s) :
    s.package = d.package := by
  obtain ⟨marker, -, hs⟩ := h.marker
  rw [hs]
  rfl

theorem components_of_build {d : Declaration} {s : Service} (h : Service.build d = .ok s)
    (output : Path) {r : Renderer} {f : FileId × String} (hf : f ∈ r.renderService s) :
    f.1.package = d.package ∧ (outputFile output f.1).components =
      (packageDir output d.package).components ++ [.name (f.1.module ++ ".rs")] := by
  obtain ⟨hpackage, hsafe⟩ := fileIds_safe s f.1 (mem_fileIds_of_rendered hf)
  rw [((build_eq_ok d s).mp h).package_eq] at hpackage
  refine ⟨hpackage, ?_⟩
  rw [components_outputFile output f.1 hsafe, hpackage, components_packageDir]

theorem Plan.writes_addDeclaration (output : Path) (r : Renderer) (p : Plan) (d : Declaration) :
    ∃ added, (p.addDeclaration output r d).writes = p.writes ++ added ∧
      (∀ s, Service.build d = .ok s → (∀ path ∈ s.paths output, p.owner? path = none) →
        added = serviceWrites output r s) ∧
      ∀ w ∈ added, w.dir = packageDir output d.package ∧
        ∃ name, w.path.components = w.dir.components ++ [.name name] := by
  rw [addDeclaration_eq_record]
  cases houtcome : p.outcome output d with
  | generated s =>
    obtain ⟨hbuild, -⟩ := (outcome_eq_generated output p d s).mp houtcome
    refine ⟨serviceWrites output r s, rfl, ?_, ?_⟩
    · intro t ht _
      cases hbuild.symm.trans ht
      rfl
    · intro w hw
      obtain ⟨f, hf, rfl⟩ := List.mem_map.mp hw
      obtain ⟨hpackage, hcomponents⟩ := components_of_build hbuild output hf
      exact ⟨by rw [hpackage], _, by rw [hcomponents, hpackage]⟩
  | failed failure =>
    refine ⟨[], (List.append_nil _).symm, ?_, by simp⟩
    intro s hbuild hfree
    cases houtcome.symm.trans ((outcome_eq_generated output p d s).mpr ⟨hbuild, hfree⟩)

namespace Idl

/-- A declaration inside modules is written to a directory for each of them. -/
theorem nested_modules_nested_directories {source : String} {items : List ItemSyntax}
    (h : parseFile source = some items) (path package : String) (output : Path) (r : Renderer) :
    inspect path source package =
        .ok ((itemsLeaves [] items).flatMap (Leaf.results package)) ∧
      (∀ leaf ∈ itemsLeaves [] items, ∀ d, .ok d ∈ leaf.results package →
        (packageDir output d.package).SamePlace (modulesDir output package leaf.modules) ∧
        (∀ s, Service.build d = .ok s → ∀ f ∈ r.renderService s,
          (outputFile output f.1).components =
            (modulesDir output package leaf.modules).components ++ [.name (f.1.module ++ ".rs")]) ∧
        ∀ p : Plan, ∃ added, (p.addDeclaration output r d).writes = p.writes ++ added ∧
          (∀ s, Service.build d = .ok s → (∀ path ∈ s.paths output, p.owner? path = none) →
            added = Plan.serviceWrites output r s ∧ added.map Write.path = s.paths output) ∧
          ∀ w ∈ added, w.dir.SamePlace (modulesDir output package leaf.modules) ∧
            ∃ name, w.path.components = w.dir.components ++ [.name name]) ∧
      ∀ modules, (∀ m ∈ modules, IsWord m.toList) →
        (packageDir output (packageOf package modules)).SamePlace
          (modulesDir output package modules) ∧
        (modulesDir output package modules).components =
          (packageDir output package).components ++
            addedComponents (modules.map Text.snakeCase) := by
  refine ⟨inspect_of_parseFile h path package, ?_, ?_⟩
  · intro leaf hleaf d hd
    have hfound := found_of_parseFile h leaf hleaf
    have hplace : (packageDir output d.package).components =
        (modulesDir output package leaf.modules).components := by
      rw [package_of_results hfound hd]
      exact components_packageDir_packageOf output package hfound.modules
    refine ⟨hplace, ?_, ?_⟩
    · intro s hs f hf
      rw [← hplace]
      exact (components_of_build hs output hf).2
    · intro p
      obtain ⟨added, hwrites, hgenerated, hadded⟩ := p.writes_addDeclaration output r d
      refine ⟨added, hwrites, ?_, ?_⟩
      · intro s hs hfree
        rw [hgenerated s hs hfree]
        exact ⟨rfl, Plan.serviceWrites_paths output r s⟩
      · intro w hw
        obtain ⟨hdir, hpath⟩ := hadded w hw
        exact ⟨by rw [hdir]; exact hplace, hpath⟩
  · intro modules hmodules
    exact ⟨components_packageDir_packageOf output package hmodules,
      components_modulesDir output package modules⟩

def deepSource : String :=
  "mod r#type \x7b mod HTTPServer \x7b mod __ \x7b #[service] trait S \x7b\x7d \x7d \x7d \x7d"

theorem nested_modules_nested_directories_deep :
    ∃ items leaf d, parseFile deepSource = some items ∧ leaf ∈ itemsLeaves [] items ∧
      leaf.modules = ["r#type", "HTTPServer", "__"] ∧ .ok d ∈ leaf.results "a:::" ∧
      (packageDir ⟨"out"⟩ d.package).SamePlace ⟨"out/a/r_type/http_server"⟩ := by
  have hmodules : (parseFile deepSource).map
      (fun items => (itemsLeaves [] items).map Leaf.modules) =
        some [["r#type", "HTTPServer", "__"]] := by decide +kernel
  let d : Declaration :=
    ⟨"S", "a:::::r#type::HTTPServer::__", .interface, [⟨"service", .empty⟩], [], []⟩
  have hinspect : inspect "idl" deepSource "a:::" = .ok [.ok d] := by decide +kernel
  obtain ⟨items, h, hleaves⟩ := Option.map_eq_some_iff.mp hmodules
  obtain ⟨hfound, hnested, -⟩ :=
    nested_modules_nested_directories h "idl" "a:::" ⟨"out"⟩ .default
  rw [hinspect] at hfound
  have hd : .ok d ∈ (itemsLeaves [] items).flatMap (Leaf.results "a:::") :=
    Except.ok.inj hfound ▸ List.mem_cons_self
  obtain ⟨leaf, hleaf, hd⟩ := List.mem_flatMap.mp hd
  have hname : leaf.modules = ["r#type", "HTTPServer", "__"] := by
    have hmem : leaf.modules ∈ (itemsLeaves [] items).map Leaf.modules :=
      List.mem_map_of_mem hleaf
    rwa [hleaves, List.mem_singleton] at hmem
  have hplace := (hnested leaf hleaf d hd).1
  rw [hname] at hplace
  refine ⟨items, leaf, d, h, hleaf, hname, hd, hplace.trans ?_⟩
  decide +kernel

end Idl

end RpcStubs
