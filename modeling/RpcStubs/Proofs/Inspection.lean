import RpcStubs.Proofs.FileItems

/-!
# Inspection of nested modules

The declarations of a file are those of its items one after the other, whatever the modules are that
the items stand in. A module only adds its name to the package.
-/

namespace RpcStubs.Idl

/-! ## Items and the modules around them -/

/-- An item that is no module, with the names of the modules around it from the outside in. -/
structure Leaf where
  modules : List String
  item : ItemSyntax

mutual

def itemLeaves (modules : List String) : ItemSyntax → List Leaf
  | .trait name attrs methods => [⟨modules, .trait name attrs methods⟩]
  | .module name items => itemsLeaves (modules ++ [name]) items
  | .plain kind name attrs => [⟨modules, .plain kind name attrs⟩]
  | .other => [⟨modules, .other⟩]

/-- All items but the modules, in the order of the file. -/
def itemsLeaves (modules : List String) : List ItemSyntax → List Leaf
  | [] => []
  | item :: items => itemLeaves modules item ++ itemsLeaves modules items

end

theorem itemsLeaves_eq_flatMap (modules : List String) (items : List ItemSyntax) :
    itemsLeaves modules items = items.flatMap (itemLeaves modules) := by
  induction items with
  | nil => rfl
  | cons item items ih => rw [itemsLeaves, ih, List.flatMap_cons]

theorem itemsDecls_eq_flatMap (package : String) (items : List ItemSyntax) :
    itemsDecls package items = items.flatMap (itemDecls package) := by
  induction items with
  | nil => rfl
  | cons item items ih => rw [itemsDecls, ih, List.flatMap_cons]

theorem itemsDecls_append (package : String) (xs ys : List ItemSyntax) :
    itemsDecls package (xs ++ ys) = itemsDecls package xs ++ itemsDecls package ys := by
  simp only [itemsDecls_eq_flatMap, List.flatMap_append]

structure Leaf.Found (source : String) (leaf : Leaf) : Prop where
  item : FoundIn source leaf.item
  flat : ∀ name items, leaf.item ≠ .module name items
  modules : ∀ m ∈ leaf.modules, IsWord m.toList

theorem itemLeaves_of_flat {item : ItemSyntax} (h : ∀ name items, item ≠ .module name items)
    (modules : List String) : itemLeaves modules item = [⟨modules, item⟩] := by
  cases item with
  | module name items => exact absurd rfl (h name items)
  | trait name attrs methods => rw [itemLeaves]
  | plain kind name attrs => rw [itemLeaves]
  | other => rw [itemLeaves]

theorem FoundIn.leaves {source : String} {item : ItemSyntax} (h : FoundIn source item)
    {modules : List String} (hmodules : ∀ m ∈ modules, IsWord m.toList) :
    ∀ leaf ∈ itemLeaves modules item, leaf.Found source := by
  have hleaf : ∀ {item modules}, FoundIn source item → (∀ m ∈ modules, IsWord m.toList) →
      (∀ name items, item ≠ .module name items) →
      ∀ leaf ∈ itemLeaves modules item, leaf.Found source := by
    intro item modules hitem hmodules hflat leaf hleaf
    rw [itemLeaves_of_flat hflat, List.mem_singleton] at hleaf
    subst hleaf
    exact ⟨hitem, hflat, hmodules⟩
  -- Over the modules around an item, to which each module adds its own name.
  induction h generalizing modules with
  | trait htypes => exact hleaf (.trait htypes) hmodules (by simp)
  | plain => exact hleaf .plain hmodules (by simp)
  | other => exact hleaf .other hmodules (by simp)
  | @module name items hname hitems ih =>
    intro leaf hleaf
    rw [itemLeaves, itemsLeaves_eq_flatMap, List.mem_flatMap] at hleaf
    obtain ⟨item, hitem, hleaf⟩ := hleaf
    refine ih item hitem ?_ leaf hleaf
    intro m hm
    rcases List.mem_append.mp hm with hm | hm
    · exact hmodules m hm
    · rw [List.mem_singleton.mp hm]
      exact hname

theorem found_of_parseFile {source : String} {items : List ItemSyntax}
    (h : parseFile source = some items) : ∀ leaf ∈ itemsLeaves [] items, leaf.Found source := by
  intro leaf hleaf
  rw [itemsLeaves_eq_flatMap, List.mem_flatMap] at hleaf
  obtain ⟨item, hitem, hleaf⟩ := hleaf
  exact (foundIn_of_parseFile h item hitem).leaves (by simp) leaf hleaf

/-! ## Packages -/

/-- A package with the names of modules behind it. -/
def packageOf (package : String) (modules : List String) : String :=
  "::".intercalate (if package = "" then modules else package :: modules)

@[simp] theorem packageOf_nil (package : String) : packageOf package [] = package := by
  by_cases hempty : package = "" <;> simp [packageOf, hempty]

theorem intercalate_ne_empty {sep : String} {names : List String} (hnames : names ≠ [])
    (h : ∀ name ∈ names, name ≠ "") : sep.intercalate names ≠ "" := by
  obtain ⟨first, names, rfl⟩ := List.exists_cons_of_ne_nil hnames
  have hfirst := h first List.mem_cons_self
  cases names with
  | nil => rwa [String.intercalate_singleton]
  | cons second names =>
    rw [String.intercalate_cons_cons]
    simp [String.append_eq_empty_iff, hfirst]

theorem modulePackage_packageOf {package : String} {modules : List String}
    (hmodules : ∀ m ∈ modules, m ≠ "") (name : String) :
    modulePackage (packageOf package modules) name = packageOf package (modules ++ [name]) := by
  let parts := if package = "" then modules else package :: modules
  have hparts : ∀ part ∈ parts, part ≠ "" := by
    intro part hpart
    by_cases hpackage : package = "" <;> simp [parts, hpackage] at hpart
    · exact hmodules part hpart
    · rcases hpart with rfl | hpart
      · exact hpackage
      · exact hmodules part hpart
  have hconcat : packageOf package (modules ++ [name]) = "::".intercalate (parts ++ [name]) := by
    by_cases hpackage : package = "" <;> simp [packageOf, parts, hpackage]
  rw [hconcat]
  show modulePackage ("::".intercalate parts) name = _
  unfold modulePackage
  by_cases hnil : parts = []
  · simp [hnil]
  · have hne : ("::".intercalate parts).isEmpty = false := by
      rw [← Bool.not_eq_true, String.isEmpty_iff]
      exact intercalate_ne_empty hnil hparts
    rw [hne, String.intercalate_append_of_ne_nil hnil (by simp), String.intercalate_singleton]
    rfl

/-! ## The result of an item -/

def Declares : ItemSyntax → Prop
  | .trait _ attrs methods => (∃ a ∈ attrs, a.name = some Marker.service) ∨
      ∃ m ∈ methods, ∃ a ∈ m.attrs, ∃ kind : CallKind, a.name = some kind.markerName
  | .plain _ _ attrs => ∃ a ∈ attrs, a.name = some Marker.service
  | .module _ _ => False
  | .other => False

def MalformedMarker (name : String) (attrs : List Attribute) (e : Error) : Prop :=
  ∃ cause, markers attrs = .error cause ∧ e = .invalidServiceMarker name cause

/-- The method cannot be read, and all those before it can. -/
def FirstUnreadable (name : String) (methods : List MethodSyntax) (e : Error) : Prop :=
  ∃ before m after cause, methods = before ++ m :: after ∧
    (∀ b ∈ before, ∃ d, b.toDecl = .ok d) ∧ m.toDecl = .error cause ∧
    e = .method name m.signature.name cause

def ResultOf (package : String) : ItemSyntax → Except Error Declaration → Prop
  | .trait name attrs methods, .ok d => ∃ marks decls, markers attrs = .ok marks ∧
      List.Forall₂ (fun m decl => m.toDecl = .ok decl) methods decls ∧
      d = ⟨name, package, .interface, marks, decls, docs attrs⟩
  | .trait name attrs methods, .error e => MalformedMarker name attrs e ∨
      (∃ marks, markers attrs = .ok marks) ∧ FirstUnreadable name methods e
  | .plain kind name attrs, .ok d => ∃ marks, markers attrs = .ok marks ∧
      d = ⟨name, package, kind, marks, [], docs attrs⟩
  | .plain _ name attrs, .error e => MalformedMarker name attrs e
  | _, _ => False

theorem isService_iff (a : Attribute) : a.isService = true ↔ a.name = some Marker.service := by
  simp [Attribute.isService]

theorem isCallKind_iff (a : Attribute) :
    a.isCallKind = true ↔ ∃ kind : CallKind, a.name = some kind.markerName := by
  have hall : ∀ kind : CallKind, kind ∈ CallKind.all := by
    rintro ⟨⟩ <;> decide
  unfold Attribute.isCallKind
  cases a.name with
  | none => simp
  | some name =>
    simp only [CallKind.ofMarker?, List.find?_isSome, decide_eq_true_eq, Option.some.injEq]
    constructor
    · rintro ⟨kind, -, rfl⟩
      exact ⟨kind, rfl⟩
    · rintro ⟨kind, rfl⟩
      exact ⟨kind, hall kind, rfl⟩

theorem exists_of_forall₂ {α β : Type} {R : α → β → Prop} {xs : List α} {ys : List β}
    (h : List.Forall₂ R xs ys) {x : α} (hx : x ∈ xs) : ∃ y ∈ ys, R x y := by
  induction h with
  | nil => cases hx
  | cons hxy _ ih =>
    rcases List.mem_cons.mp hx with rfl | hx
    · exact ⟨_, List.mem_cons_self, hxy⟩
    · obtain ⟨y, hy, hR⟩ := ih hx
      exact ⟨y, List.mem_cons_of_mem _ hy, hR⟩

theorem mapM_toDeclIn_eq_error {name : String} {methods : List MethodSyntax} {e : Error}
    (h : methods.mapM (MethodSyntax.toDeclIn name) = .error e) :
    FirstUnreadable name methods e := by
  obtain ⟨before, m, after, hsplit, hbefore, hm⟩ := (mapM_eq_error _ _ _).mp h
  obtain ⟨cause, hcause, rfl⟩ := (mapError_eq_error _ _ _).mp hm
  refine ⟨before, m, after, cause, hsplit, ?_, hcause, rfl⟩
  intro b hb
  obtain ⟨d, hd⟩ := hbefore b hb
  exact ⟨d, (mapError_eq_ok _ _ _).mp hd⟩

theorem mapM_toDeclIn_eq_ok {name : String} {methods : List MethodSyntax}
    {decls : List MethodDecl} (h : methods.mapM (MethodSyntax.toDeclIn name) = .ok decls) :
    List.Forall₂ (fun m decl => m.toDecl = .ok decl) methods decls :=
  ((mapM_eq_ok _ _ _).mp h).imp fun _ _ hm => (mapError_eq_ok _ _ _).mp hm

theorem resultOf_traitDecl (package name : String) (attrs : List Attribute)
    (methods : List MethodSyntax) :
    ResultOf package (.trait name attrs methods) (traitDecl package name attrs methods) := by
  unfold traitDecl itemMarkers
  cases hmarks : markers attrs with
  | error cause => exact .inl ⟨cause, hmarks, rfl⟩
  | ok marks =>
    cases hdecls : methods.mapM (MethodSyntax.toDeclIn name) with
    | error e => exact .inr ⟨⟨marks, hmarks⟩, mapM_toDeclIn_eq_error hdecls⟩
    | ok decls => exact ⟨marks, decls, hmarks, mapM_toDeclIn_eq_ok hdecls, rfl⟩

theorem resultOf_plainDecl (package : String) (kind : DeclKind) (name : String)
    (attrs : List Attribute) :
    ResultOf package (.plain kind name attrs) (plainDecl package kind name attrs) := by
  unfold plainDecl itemMarkers
  cases hmarks : markers attrs with
  | error cause => exact ⟨cause, hmarks, rfl⟩
  | ok marks => exact ⟨marks, hmarks, rfl⟩

theorem itemDecls_trait (package name : String) (attrs : List Attribute)
    (methods : List MethodSyntax) [Decidable (Declares (.trait name attrs methods))] :
    itemDecls package (.trait name attrs methods) =
      if Declares (.trait name attrs methods) then [traitDecl package name attrs methods]
      else [] := by
  rw [itemDecls]
  congr 1
  simp [Declares, isService_iff, isCallKind_iff]

theorem itemDecls_plain (package : String) (kind : DeclKind) (name : String)
    (attrs : List Attribute) [Decidable (Declares (.plain kind name attrs))] :
    itemDecls package (.plain kind name attrs) =
      if Declares (.plain kind name attrs) then [plainDecl package kind name attrs] else [] := by
  rw [itemDecls]
  congr 1
  simp [Declares, isService_iff]

open Classical in
theorem itemDecls_of_declares {item : ItemSyntax} (h : Declares item) (package : String) :
    ∃ r, itemDecls package item = [r] ∧ ResultOf package item r := by
  cases item with
  | trait name attrs methods =>
    refine ⟨_, ?_, resultOf_traitDecl package name attrs methods⟩
    rw [itemDecls_trait, if_pos h]
  | module name items => exact h.elim
  | plain kind name attrs =>
    refine ⟨_, ?_, resultOf_plainDecl package kind name attrs⟩
    rw [itemDecls_plain, if_pos h]
  | other => exact h.elim

open Classical in
theorem itemDecls_of_not_declares {item : ItemSyntax} (h : ¬ Declares item)
    (hflat : ∀ name items, item ≠ .module name items) (package : String) :
    itemDecls package item = [] := by
  cases item with
  | trait name attrs methods => rw [itemDecls_trait, if_neg h]
  | module name items => exact absurd rfl (hflat name items)
  | plain kind name attrs => rw [itemDecls_plain, if_neg h]
  | other => rw [itemDecls]

/-! ## The results of a file -/

/-- The results of an item, which depend on nothing but the item and the modules around it. -/
def Leaf.results (package : String) (leaf : Leaf) : List (Except Error Declaration) :=
  itemDecls (packageOf package leaf.modules) leaf.item

theorem FoundIn.itemDecls_eq {source : String} {item : ItemSyntax} (h : FoundIn source item)
    (package : String) {modules : List String} (hmodules : ∀ m ∈ modules, m ≠ "") :
    itemDecls (packageOf package modules) item =
      (itemLeaves modules item).flatMap (Leaf.results package) := by
  induction h generalizing modules with
  | trait htypes => simp [itemLeaves, Leaf.results]
  | @module name items hname hitems ih =>
    have hname : name ≠ "" := by
      rintro rfl
      exact hname.ne_nil rfl
    have hinner : ∀ m ∈ modules ++ [name], m ≠ "" := by
      intro m hm
      rcases List.mem_append.mp hm with hm | hm
      · exact hmodules m hm
      · rw [List.mem_singleton.mp hm]
        exact hname
    rw [itemDecls, modulePackage_packageOf hmodules, itemsDecls_eq_flatMap, itemLeaves,
      itemsLeaves_eq_flatMap, List.flatMap_assoc]
    exact List.flatMap_congr fun item hitem => ih item hitem hinner
  | plain => simp [itemLeaves, Leaf.results]
  | other => simp [itemLeaves, Leaf.results]

theorem itemsDecls_of_parseFile {source : String} {items : List ItemSyntax}
    (h : parseFile source = some items) (package : String) :
    itemsDecls package items = (itemsLeaves [] items).flatMap (Leaf.results package) := by
  rw [itemsDecls_eq_flatMap, itemsLeaves_eq_flatMap, List.flatMap_assoc]
  apply List.flatMap_congr
  intro item hitem
  have hleaves : itemDecls (packageOf package []) item = _ :=
    (foundIn_of_parseFile h item hitem).itemDecls_eq package (by simp)
  rwa [packageOf_nil] at hleaves

open Classical in
theorem resultOf_of_mem {item : ItemSyntax} (hflat : ∀ name items, item ≠ .module name items)
    {package : String} {r : Except Error Declaration} (hr : r ∈ itemDecls package item) :
    ResultOf package item r := by
  by_cases hdeclares : Declares item
  · obtain ⟨result, hresult, hspec⟩ := itemDecls_of_declares hdeclares package
    rw [hresult] at hr
    rwa [List.mem_singleton.mp hr]
  · rw [itemDecls_of_not_declares hdeclares hflat] at hr
    cases hr

theorem exists_leaf_of_inspect {path source package : String}
    {found : List (Except Error Declaration)} (h : inspect path source package = .ok found)
    {r : Except Error Declaration} (hr : r ∈ found) :
    ∃ leaf : Leaf, leaf.Found source ∧ ResultOf (packageOf package leaf.modules) leaf.item r := by
  unfold inspect at h
  split at h
  · rename_i items hitems
    cases h
    rw [itemsDecls_of_parseFile hitems, List.mem_flatMap] at hr
    obtain ⟨leaf, hleaf, hr⟩ := hr
    have hfound := found_of_parseFile hitems leaf hleaf
    exact ⟨leaf, hfound, resultOf_of_mem hfound.flat hr⟩
  · cases h

theorem inspect_of_parseFile {source : String} {items : List ItemSyntax}
    (h : parseFile source = some items) (path package : String) :
    inspect path source package = .ok ((itemsLeaves [] items).flatMap (Leaf.results package)) := by
  unfold inspect
  rw [h]
  exact congrArg Except.ok (itemsDecls_of_parseFile h package)

theorem ResultOf.isError_iff {package name : String} {attrs : List Attribute}
    {methods : List MethodSyntax} {r : Except Error Declaration}
    (h : ResultOf package (.trait name attrs methods) r) :
    (∃ e, r = .error e) ↔ (∃ cause, markers attrs = .error cause) ∨
      ∃ m ∈ methods, ∃ cause, m.toDecl = .error cause := by
  cases r with
  | error e =>
    refine ⟨fun _ => ?_, fun _ => ⟨e, rfl⟩⟩
    obtain ⟨cause, hcause, -⟩ | ⟨-, before, m, after, cause, rfl, -, hm, -⟩ := h
    · exact .inl ⟨cause, hcause⟩
    · exact .inr ⟨m, by simp, cause, hm⟩
  | ok d =>
    obtain ⟨marks, decls, hmarks, hdecls, -⟩ := h
    refine ⟨by simp, ?_⟩
    rintro (⟨cause, hcause⟩ | ⟨m, hm, cause, hcause⟩)
    · rw [hmarks] at hcause
      cases hcause
    · obtain ⟨decl, -, hdecl⟩ := exists_of_forall₂ hdecls hm
      rw [hdecl] at hcause
      cases hcause

/-- The declarations of a file are found item by item. -/
theorem inspected_item_by_item {source : String} {items : List ItemSyntax}
    (h : parseFile source = some items) (path package : String) :
    inspect path source package =
        .ok ((itemsLeaves [] items).flatMap (Leaf.results package)) ∧
      (∀ leaf ∈ itemsLeaves [] items,
        (Declares leaf.item → ∃ r, leaf.results package = [r] ∧
          ResultOf (packageOf package leaf.modules) leaf.item r) ∧
        (¬ Declares leaf.item → leaf.results package = [])) ∧
      (∀ xs ys, itemsDecls package (xs ++ ys) = itemsDecls package xs ++ itemsDecls package ys) ∧
      ∀ modules name attrs methods,
        ∀ r ∈ (Leaf.mk modules (.trait name attrs methods)).results package,
          (∃ e, r = .error e) ↔ (∃ cause, markers attrs = .error cause) ∨
            ∃ m ∈ methods, ∃ cause, m.toDecl = .error cause := by
  refine ⟨inspect_of_parseFile h path package, ?_, itemsDecls_append package, ?_⟩
  · intro leaf hleaf
    have hflat := (found_of_parseFile h leaf hleaf).flat
    exact ⟨fun hdeclares => itemDecls_of_declares hdeclares _,
      fun hnot => itemDecls_of_not_declares hnot hflat _⟩
  · intro modules name attrs methods r hr
    classical
    rw [Leaf.results, itemDecls_trait] at hr
    split at hr
    · rw [List.mem_singleton.mp hr]
      exact (resultOf_traitDecl _ name attrs methods).isError_iff
    · cases hr

def nestedSource : String :=
  "mod a \x7b mod b \x7b #[service] trait S \x7b fn f(&self) -> u8; \x7d trait N \x7b\x7d \x7d " ++
  "mod c \x7b trait T \x7b #[unary] fn g(&self, (x, y): u8); \x7d \x7d \x7d #[service] struct R;"

theorem inspected_item_by_item_nested :
    ∃ items, parseFile nestedSource = some items ∧
      inspect "idl" nestedSource "p" =
        .ok ((itemsLeaves [] items).flatMap (Leaf.results "p")) ∧
      (inspect "idl" nestedSource "p").map (·.map (·.map Declaration.package)) =
        .ok [.ok "p::a::b", .error (.method "T" "g" (.invalidParameter "(x , y)")), .ok "p"] := by
  have hfound : (inspect "idl" nestedSource "p").map (·.map (·.map Declaration.package)) =
      .ok [.ok "p::a::b", .error (.method "T" "g" (.invalidParameter "(x , y)")), .ok "p"] := by
    decide +kernel
  cases h : parseFile nestedSource with
  | none =>
    rw [inspect, h] at hfound
    cases hfound
  | some items => exact ⟨items, rfl, (inspected_item_by_item h "idl" "p").1, hfound⟩

end RpcStubs.Idl
