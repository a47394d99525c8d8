import RpcStubs.Declaration
import RpcStubs.Error
import RpcStubs.Json.Reader
import RpcStubs.Json.Value

/-!
# Declarations in documents

Each kind of declaration has a writer `toJson` and a reader. All fields but names and the types
of parameters may be missing.
-/

namespace RpcStubs

open Json (Value Reader Record Field)

/-! ## Writing -/

/-- The fields of a record with lists that are left out if they are empty. -/
def Json.Value.unlessEmpty (name : String) (elems : List Value) : List (String × Value) :=
  if elems.isEmpty then [] else [(name, .array elems)]

mutual

def TypeRef.toJson : TypeRef → Value
  | ⟨name, []⟩ => .object [("name", .string name)]
  | ⟨name, args⟩ => .object [("name", .string name), ("args", .array (typeRefsToJson args))]

def typeRefsToJson : List TypeRef → List Value
  | [] => []
  | t :: ts => t.toJson :: typeRefsToJson ts

end

def Marker.toJson (m : Marker) : Value :=
  .object (("name", .string m.name) ::
    if m.args.isEmpty then []
    else [("args", .object (m.args.entries.map (fun (key, value) => (key, .string value))))])

def Parameter.toJson (p : Parameter) : Value :=
  .object [("name", .string p.name), ("type", p.type.toJson)]

def MethodDecl.toJson (d : MethodDecl) : Value :=
  .object [
    ("name", .string d.name),
    ("markers", .array (d.markers.map Marker.toJson)),
    ("params", .array (d.params.map Parameter.toJson)),
    ("return_type",
      match d.returnType with
      | some type => type.toJson
      | none => .null),
    ("async", .bool d.isAsync),
    ("docs", .strings d.docs)]

def DeclKind.variants : List (String × DeclKind) := [
  ("interface", .interface), ("struct", .record), ("enum", .enumeration),
  ("function", .function), ("other", .other)]

def DeclKind.text : DeclKind → String
  | interface => "interface"
  | record => "struct"
  | enumeration => "enum"
  | function => "function"
  | other => "other"

def Declaration.toJson (d : Declaration) : Value :=
  .object [
    ("name", .string d.name),
    ("package", .string d.package),
    ("kind", .string d.kind.text),
    ("markers", .array (d.markers.map Marker.toJson)),
    ("methods", .array (d.methods.map MethodDecl.toJson)),
    ("docs", .strings d.docs)]

/-! ## Reading -/

/-- A field whose value is kept in the draft by `set`. -/
def Json.Field.of {σ α : Type} (name : String) (required : Bool) (get : σ → Option α)
    (set : σ → Option α → σ) (r : Reader α) : Field σ where
  name := name
  required := required
  isSet draft := (get draft).isSome
  read depth := do
    let a ← r depth
    return fun draft => set draft (some a)

structure TypeRefDraft where
  name : Option String
  args : Option (List TypeRef)

def typeRefRecord (inner : Reader TypeRef) : Record TypeRefDraft TypeRef where
  name := "TypeRef"
  fields := [
    .of "name" true (·.name) (fun d v => { d with name := v }) Json.string,
    .of "args" false (·.args) (fun d v => { d with args := v }) (Json.listOf inner)]
  empty := ⟨none, none⟩
  finish draft := draft.name.map (⟨·, draft.args.getD []⟩)

/-- Types nested at most `fuel` deep. -/
def typeRefReaderUpTo : Nat → Reader TypeRef
  | 0 => fun _ => Json.fault .recursionLimit
  | fuel + 1 => (typeRefRecord (typeRefReaderUpTo fuel)).reader

/-- The limit of nesting is reached before the depth. -/
def typeRefReader : Reader TypeRef := typeRefReaderUpTo Json.depthLimit

structure MarkerDraft where
  name : Option String
  args : Option (SortedMap String)

def markerRecord : Record MarkerDraft Marker where
  name := "Marker"
  fields := [
    .of "name" true (·.name) (fun d v => { d with name := v }) Json.string,
    .of "args" false (·.args) (fun d v => { d with args := v }) (Json.mapOf Json.string)]
  empty := ⟨none, none⟩
  finish draft := draft.name.map (⟨·, draft.args.getD .empty⟩)

def markerReader : Reader Marker := markerRecord.reader

structure ParameterDraft where
  name : Option String
  type : Option TypeRef

def parameterRecord : Record ParameterDraft Parameter where
  name := "ParamDecl"
  fields := [
    .of "name" true (·.name) (fun d v => { d with name := v }) Json.string,
    .of "type" true (·.type) (fun d v => { d with type := v }) typeRefReader]
  empty := ⟨none, none⟩
  finish draft := do
    let name ← draft.name
    let type ← draft.type
    return ⟨name, type⟩

def parameterReader : Reader Parameter := parameterRecord.reader

structure MethodDraft where
  name : Option String
  markers : Option (List Marker)
  params : Option (List Parameter)
  returnType : Option (Option TypeRef)
  isAsync : Option Bool
  docs : Option (List String)

def methodRecord : Record MethodDraft MethodDecl where
  name := "MethodDecl"
  fields := [
    .of "name" true (·.name) (fun d v => { d with name := v }) Json.string,
    .of "markers" false (·.markers) (fun d v => { d with markers := v })
      (Json.listOf markerReader),
    .of "params" false (·.params) (fun d v => { d with params := v })
      (Json.listOf parameterReader),
    .of "return_type" false (·.returnType) (fun d v => { d with returnType := v })
      (Json.nullable typeRefReader),
    .of "async" false (·.isAsync) (fun d v => { d with isAsync := v }) Json.bool,
    .of "docs" false (·.docs) (fun d v => { d with docs := v }) (Json.listOf Json.string)]
  empty := ⟨none, none, none, none, none, none⟩
  finish draft := do
    let name ← draft.name
    return {
      name := name
      markers := draft.markers.getD []
      params := draft.params.getD []
      returnType := draft.returnType.getD none
      isAsync := draft.isAsync.getD false
      docs := draft.docs.getD [] }

def methodReader : Reader MethodDecl := methodRecord.reader

structure DeclarationDraft where
  name : Option String
  package : Option String
  kind : Option DeclKind
  markers : Option (List Marker)
  methods : Option (List MethodDecl)
  docs : Option (List String)

def declarationRecord : Record DeclarationDraft Declaration where
  name := "InterfaceDecl"
  fields := [
    .of "name" true (·.name) (fun d v => { d with name := v }) Json.string,
    .of "package" false (·.package) (fun d v => { d with package := v }) Json.string,
    .of "kind" false (·.kind) (fun d v => { d with kind := v })
      (Json.choice DeclKind.variants),
    .of "markers" false (·.markers) (fun d v => { d with markers := v })
      (Json.listOf markerReader),
    .of "methods" false (·.methods) (fun d v => { d with methods := v })
      (Json.listOf methodReader),
    .of "docs" false (·.docs) (fun d v => { d with docs := v }) (Json.listOf Json.string)]
  empty := ⟨none, none, none, none, none, none⟩
  finish draft := do
    let name ← draft.name
    return {
      name := name
      package := draft.package.getD ""
      kind := draft.kind.getD .interface
      markers := draft.markers.getD []
      methods := draft.methods.getD []
      docs := draft.docs.getD [] }

def declarationReader : Reader Declaration := declarationRecord.reader

/-! ## Documents -/

/-- A declaration without a package belongs to a default one. -/
def Declaration.withDefaultPackage (package : String) (d : Declaration) : Declaration :=
  if d.package.isEmpty then { d with package := package } else d

/-- The text of a list of declarations. -/
def declarationsText (decls : List Declaration) : String :=
  (Value.array (decls.map Declaration.toJson)).compactText

/-- The declarations of a document. -/
def readDeclarations (path source package : String) : Except Error (List Declaration) :=
  match Json.parse (Json.listOf declarationReader) source with
  | .ok decls => .ok (decls.map (Declaration.withDefaultPackage package))
  | .error text => .error (.json (path ++ ": " ++ text))

end RpcStubs
