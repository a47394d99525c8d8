import RpcStubs.Proofs.Consistency
import RpcStubs.Proofs.ReadBack
import RpcStubs.Source

/-!
# Declarations survive their text

Declarations that are written as a document are read back from it, as long as the document is not
nested too deep. Only a missing package is filled in.
-/

namespace RpcStubs

open Json (Value Reader Field Reads ReadsEntry)

/-! ## Maps -/

namespace SortedMap

variable {β : Type}

theorem insertEntry_last {entries : List (String × β)} {key : String} (value : β)
    (h : ∀ e ∈ entries, e.1 < key) :
    insertEntry key value entries = entries ++ [(key, value)] := by
  induction entries with
  | nil => rfl
  | cons e entries ih =>
    obtain ⟨he, hentries⟩ := List.forall_mem_cons.mp h
    rw [insertEntry, if_neg (String.lt_asymm he), if_pos he, ih hentries]
    rfl

theorem ofList_entries (m : SortedMap β) : ofList m.entries = m := by
  have hfold : ∀ (es : List (String × β)) (m : SortedMap β), KeysIncrease (m.entries ++ es) →
      (es.foldl (fun m e => m.insert e.1 e.2) m).entries = m.entries ++ es := by
    intro es
    induction es with
    | nil => simp
    | cons e es ih =>
      intro m h
      have hlast : (m.insert e.1 e.2).entries = m.entries ++ [e] := by
        apply insertEntry_last
        intro x hx
        exact (List.pairwise_append.mp h).2.2 x hx e List.mem_cons_self
      rw [List.foldl_cons, ih, hlast, List.append_assoc]
      · rfl
      · rw [hlast, List.append_assoc]
        exact h
  apply ext
  rw [ofList, hfold]
  · rfl
  · exact m.increasing

end SortedMap

/-! ## Fields and types -/

theorem Json.Reads.field {σ α : Type} {r : Reader α} {v : Value} {a : α} (h : Reads r v a)
    (name : String) (required : Bool) (get : σ → Option α) (set : σ → Option α → σ) :
    Reads (Field.of name required get set r).read v (fun draft => set draft (some a)) where
  begins := h.begins
  reads := by
    intro depth rest hdepth hlimit
    unfold Json.Field.of
    simp only [Json.bind_apply, h.reads depth rest hdepth hlimit, Json.pure_apply]

theorem typeRefsToJson_eq (ts : List TypeRef) : typeRefsToJson ts = ts.map TypeRef.toJson := by
  induction ts with
  | nil => rfl
  | cons t ts ih => rw [typeRefsToJson, ih, List.map_cons]

theorem TypeRef.toJson_plain (name : String) :
    (TypeRef.mk name []).toJson = .object [("name", .string name)] := by
  rw [toJson]

theorem TypeRef.toJson_args (name : String) (t : TypeRef) (ts : List TypeRef) :
    (TypeRef.mk name (t :: ts)).toJson = .object [("name", .string name),
      ("args", .array ((t :: ts).map toJson))] := by
  rw [toJson, typeRefsToJson_eq]
  simp

theorem reads_typeRefUpTo (fuel : Nat) (t : TypeRef) (h : t.toJson.depth ≤ fuel) :
    Reads (typeRefReaderUpTo fuel) t.toJson t := by
  induction fuel generalizing t with
  | zero =>
    obtain ⟨name, _ | ⟨arg, args⟩⟩ := t
    · simp [TypeRef.toJson_plain, Value.depth] at h
    · simp [TypeRef.toJson_args, Value.depth] at h
  | succ fuel ih =>
    obtain ⟨name, _ | ⟨arg, args⟩⟩ := t
    · rw [TypeRef.toJson_plain, typeRefReaderUpTo]
      exact Json.reads_record (.cons rfl rfl ((Json.reads_string name).field ..) (.nil _)) rfl
    · rw [TypeRef.toJson_args] at h ⊢
      have hargs : List.Forall₂ (Reads (typeRefReaderUpTo fuel)) ((arg :: args).map TypeRef.toJson)
          (arg :: args) := by
        rw [List.forall₂_map_left_iff]
        refine List.forall₂_same.mpr (fun t ht => ih t ?_)
        have hdepth := Value.depth_le_depthElems (List.mem_map_of_mem (f := TypeRef.toJson) ht)
        simp only [Value.depth, Value.depthFields] at h
        omega
      rw [typeRefReaderUpTo]
      exact Json.reads_record (.cons rfl rfl ((Json.reads_string name).field ..)
        (.cons rfl rfl ((Json.reads_list hargs).field ..) (.nil _))) rfl

theorem TypeRef.exists_toJson (t : TypeRef) : ∃ fields, t.toJson = .object fields := by
  obtain ⟨name, _ | ⟨arg, args⟩⟩ := t
  · exact ⟨_, toJson_plain name⟩
  · exact ⟨_, toJson_args name arg args⟩

theorem reads_typeRef (t : TypeRef) : Reads typeRefReader t.toJson t where
  begins := by
    obtain ⟨fields, hfields⟩ := t.exists_toJson
    rw [hfields]
    exact ⟨'{', _, rfl, by decide, by decide⟩
  reads := by
    intro depth rest hdepth hlimit
    exact (reads_typeRefUpTo Json.depthLimit t (by omega)).reads depth rest hdepth hlimit

theorem reads_returnType (type : Option TypeRef) :
    Reads (Json.nullable typeRefReader)
      (match type with
       | some type => type.toJson
       | none => .null) type := by
  cases type with
  | none => exact Json.reads_null _
  | some t =>
    have h := reads_typeRef t
    obtain ⟨fields, hfields⟩ := t.exists_toJson
    simp only
    rw [hfields] at h ⊢
    exact h.nullable

/-! ## Declarations -/

theorem reads_each {α : Type} {r : Reader α} {write : α → Value} (h : ∀ a, Reads r (write a) a)
    (as : List α) : Reads (Json.listOf r) (.array (as.map write)) as := by
  apply Json.reads_list
  rw [List.forall₂_map_left_iff]
  exact List.forall₂_same.mpr (fun a _ => h a)

theorem reads_marker (m : Marker) : Reads markerReader m.toJson m := by
  obtain ⟨name, args⟩ := m
  unfold Marker.toJson
  split
  · rename_i hempty
    have hargs : args = .empty := SortedMap.ext (List.isEmpty_iff.mp hempty)
    rw [hargs]
    exact Json.reads_record (.cons rfl rfl ((Json.reads_string name).field ..) (.nil _)) rfl
  · have hmap : Reads (Json.mapOf Json.string)
        (.object (args.entries.map (fun e => (e.1, .string e.2)))) args := by
      have hentries : List.Forall₂ (ReadsEntry Json.string)
          (args.entries.map (fun e => (e.1, .string e.2))) args.entries := by
        rw [List.forall₂_map_left_iff]
        exact List.forall₂_same.mpr (fun e _ => ⟨rfl, Json.reads_string e.2⟩)
      have h := Json.reads_map hentries
      rwa [args.ofList_entries] at h
    exact Json.reads_record (.cons rfl rfl ((Json.reads_string name).field ..)
      (.cons rfl rfl (hmap.field ..) (.nil _))) rfl

theorem reads_parameter (p : Parameter) : Reads parameterReader p.toJson p :=
  Json.reads_record (.cons rfl rfl ((Json.reads_string p.name).field ..)
    (.cons rfl rfl ((reads_typeRef p.type).field ..) (.nil _))) rfl

theorem reads_method (d : MethodDecl) : Reads methodReader d.toJson d :=
  Json.reads_record
    (.cons rfl rfl ((Json.reads_string d.name).field ..) <|
      .cons rfl rfl ((reads_each reads_marker d.markers).field ..) <|
      .cons rfl rfl ((reads_each reads_parameter d.params).field ..) <|
      .cons rfl rfl ((reads_returnType d.returnType).field ..) <|
      .cons rfl rfl ((Json.reads_bool d.isAsync).field ..) <|
      .cons rfl rfl ((reads_each Json.reads_string d.docs).field ..) <|
      .nil _) rfl

theorem reads_kind (kind : DeclKind) :
    Reads (Json.choice DeclKind.variants) (.string kind.text) kind := by
  cases kind <;> exact Json.reads_choice rfl

theorem reads_declaration (d : Declaration) : Reads declarationReader d.toJson d :=
  Json.reads_record
    (.cons rfl rfl ((Json.reads_string d.name).field ..) <|
      .cons rfl rfl ((Json.reads_string d.package).field ..) <|
      .cons rfl rfl ((reads_kind d.kind).field ..) <|
      .cons rfl rfl ((reads_each reads_marker d.markers).field ..) <|
      .cons rfl rfl ((reads_each reads_method d.methods).field ..) <|
      .cons rfl rfl ((reads_each Json.reads_string d.docs).field ..) <|
      .nil _) rfl

theorem readDeclarations_text (decls : List Declaration) (path package : String)
    (h : (Value.array (decls.map Declaration.toJson)).depth < Json.depthLimit) :
    readDeclarations path (declarationsText decls) package =
      .ok (decls.map (Declaration.withDefaultPackage package)) := by
  unfold readDeclarations declarationsText
  rw [Json.parse_compactText (reads_each reads_declaration decls) h]

/-! ## Declarations of a file -/

namespace Idl

/-- What holds of the traits and the plain items in packages of a kind. -/
structure HoldsOfItems (Q : String → Prop) (P : Except Error Declaration → Prop) : Prop where
  module : ∀ package name, Q package → Q (modulePackage package name)
  trait : ∀ package name attrs methods, Q package → P (traitDecl package name attrs methods)
  plain : ∀ package kind name attrs, Q package → P (plainDecl package kind name attrs)

section Items

variable {Q : String → Prop} {P : Except Error Declaration → Prop}

mutual

theorem HoldsOfItems.item (h : HoldsOfItems Q P) (package : String) (hq : Q package)
    (item : ItemSyntax) : ∀ x ∈ itemDecls package item, P x := by
  intro x hx
  cases item with
  | trait name attrs methods =>
    rw [itemDecls] at hx
    split at hx
    · rw [List.mem_singleton.mp hx]
      exact h.trait package name attrs methods hq
    · cases hx
  | module name items =>
    rw [itemDecls] at hx
    exact HoldsOfItems.items h _ (h.module package name hq) items x hx
  | plain kind name attrs =>
    rw [itemDecls] at hx
    split at hx
    · rw [List.mem_singleton.mp hx]
      exact h.plain package kind name attrs hq
    · cases hx
  | other => cases hx

theorem HoldsOfItems.items (h : HoldsOfItems Q P) (package : String) (hq : Q package)
    (items : List ItemSyntax) : ∀ x ∈ itemsDecls package items, P x := by
  intro x hx
  cases items with
  | nil => cases hx
  | cons item items =>
    rw [itemsDecls] at hx
    rcases List.mem_append.mp hx with hx | hx
    · exact HoldsOfItems.item h package hq item x hx
    · exact HoldsOfItems.items h package hq items x hx

end

end Items

theorem modulePackage_ne_empty {package : String} (name : String) (h : package ≠ "") :
    modulePackage package name ≠ "" := by
  have hempty : package.isEmpty = false := by
    rw [← Bool.not_eq_true, String.isEmpty_iff]
    exact h
  rw [modulePackage, hempty]
  intro heq
  have hlen := congrArg String.length heq
  simp [String.length_append] at hlen

theorem package_ne_empty {path source package : String} {found : List Inspected}
    (h : inspect path source package = .ok found) (hpackage : package ≠ "") {d : Declaration}
    (hd : .ok d ∈ found) : d.package ≠ "" := by
  have hitems : HoldsOfItems (· ≠ "") (fun x => ∀ d, x = .ok d → d.package ≠ "") := by
    constructor
    case module => exact fun package name hq => modulePackage_ne_empty name hq
    case trait =>
      intro package name attrs methods hq d hd
      obtain ⟨_, _, hd⟩ := (bind_eq_ok _ _ _).mp hd
      obtain ⟨_, _, hd⟩ := (bind_eq_ok _ _ _).mp hd
      cases hd
      exact hq
    case plain =>
      intro package kind name attrs hq d hd
      obtain ⟨_, _, hd⟩ := (bind_eq_ok _ _ _).mp hd
      cases hd
      exact hq
  unfold inspect at h
  split at h
  · cases h
    exact hitems.items package hpackage _ _ hd d rfl
  · cases h

end Idl

/-! ## Round trips -/

theorem inspect_declarationsText (decls : List Declaration) (path package : String)
    (h : (Value.array (decls.map Declaration.toJson)).depth ≤ 127) :
    SourceFormat.json.inspect path (declarationsText decls) package =
      .ok ((decls.map (Declaration.withDefaultPackage package)).map .ok) := by
  unfold SourceFormat.inspect
  simp only [readDeclarations_text decls path package (Nat.lt_succ_of_le h), Except.map]

/-- Declarations that name their packages are read back as they are. -/
theorem inspect_of_packages {decls : List Declaration} {path package : String}
    (h : (Value.array (decls.map Declaration.toJson)).depth ≤ 127)
    (hpackage : ∀ d ∈ decls, d.package ≠ "") :
    SourceFormat.json.inspect path (declarationsText decls) package = .ok (decls.map .ok) := by
  rw [inspect_declarationsText decls path package h]
  have hdecls : decls.map (Declaration.withDefaultPackage package) = decls.map id := by
    apply List.map_congr_left
    intro d hd
    simp [Declaration.withDefaultPackage, String.isEmpty_iff, hpackage d hd]
  rw [hdecls, List.map_id]

/-- Declarations are read back from their text, with the package of the source where they name none.
So those of a file that has a package are read back as they are. -/
theorem declarations_read_back (decls : List Declaration) (path package : String)
    (h : (Value.array (decls.map Declaration.toJson)).depth ≤ 127) :
    SourceFormat.json.inspect path (declarationsText decls) package =
      .ok (decls.map (fun d =>
        .ok (if d.package = "" then { d with package := package } else d))) ∧
    ∀ (file source filePackage : String) (found : List Inspected), filePackage ≠ "" →
      SourceFormat.idl.inspect file source filePackage = .ok found →
      decls = found.filterMap Except.toOption →
      SourceFormat.json.inspect path (declarationsText decls) package =
        .ok (decls.map .ok) := by
  refine ⟨?_, ?_⟩
  · rw [inspect_declarationsText decls path package h, List.map_map]
    congr 1
    apply List.map_congr_left
    intro d _
    simp [Declaration.withDefaultPackage, String.isEmpty_iff]
  · rintro file source filePackage found hpackage hfound rfl
    apply inspect_of_packages h
    intro d hd
    obtain ⟨x, hx, hxd⟩ := List.mem_filterMap.mp hd
    cases x with
    | error e => cases hxd
    | ok d' =>
      cases hxd
      exact Idl.package_ne_empty hfound hpackage hx

def escaped : Declaration where
  name := "Say\"\\/"
  package := ""
  kind := .enumeration
  markers := [⟨Marker.service, .ofList [("b\n", "\x00\x1f"), ("a", "é\u2028"), ("", "")]⟩]
  methods := [⟨"", [], [⟨"\t", ⟨"Vec", [⟨"Map", [.named "", .unit]⟩]⟩⟩], some (.named "\r"), true,
    ["", "\x7f\x08\x0c"]⟩]
  docs := [" first", ""]

def nestedText : String :=
  "mod a\x7b#[service]trait Echo\x7b#[unary(\"Say\")]" ++
    "async fn say(&self,text:Vec<u8>)->a::B;\x7d\x7d"

def nestedDecl : Declaration where
  name := "Echo"
  package := "net::a"
  kind := .interface
  markers := [⟨Marker.service, .empty⟩]
  methods := [⟨"say", [⟨"unary", .ofList [(Marker.nameKey, "Say")]⟩],
    [⟨"text", ⟨"Vec", [.named "u8"]⟩⟩], some (.named "a::B"), true, []⟩]
  docs := []

theorem declarations_read_back_escaped :
    (Value.array ([escaped, orders].map Declaration.toJson)).depth ≤ 127 ∧
    SourceFormat.json.inspect "d.json" (declarationsText [escaped, orders]) "net" =
      .ok [.ok { escaped with package := "net" }, .ok orders] ∧
    ∃ found, SourceFormat.idl.inspect "echo.rs" nestedText "net" = .ok found ∧
      found.filterMap Except.toOption = [nestedDecl] ∧
      SourceFormat.json.inspect "d.json" (declarationsText [nestedDecl]) "" =
        .ok [.ok nestedDecl] := by
  have hdepth : (Value.array ([escaped, orders].map Declaration.toJson)).depth ≤ 127 := by
    decide +kernel
  have hfound : ((SourceFormat.idl.inspect "echo.rs" nestedText "net").toOption.map
      (·.filterMap Except.toOption)) = some [nestedDecl] := by decide +kernel
  refine ⟨hdepth, (declarations_read_back [escaped, orders] "d.json" "net" hdepth).1, ?_⟩
  cases hinspect : SourceFormat.idl.inspect "echo.rs" nestedText "net" with
  | error e =>
    rw [hinspect] at hfound
    cases hfound
  | ok found =>
    rw [hinspect] at hfound
    have hdecls := Option.some.inj hfound
    refine ⟨found, rfl, hdecls, ?_⟩
    exact (declarations_read_back [nestedDecl] "d.json" "" (by decide +kernel)).2 _ _ _ found
      (by decide) hinspect hdecls.symm

end RpcStubs
