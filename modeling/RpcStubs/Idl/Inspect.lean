import RpcStubs.Error
import RpcStubs.Idl.File
import RpcStubs.Idl.MarkerArgs

/-!
# Declarations of a file

A trait is a declaration if it or one of its methods carries a marker. Other items are
declarations only if they carry the marker of a service, so that the mistake is reported.
-/

namespace RpcStubs.Idl

/-! ## Types -/

def unsupported {α : Type} (trees : List TokenTree) : Except MethodError α :=
  .error (.unsupportedType (TokenTree.textOf trees))

mutual

/-- The type that a type of a file refers to. -/
def TypeSyntax.typeRef : TypeSyntax → Except MethodError TypeRef
  | .paren elem _ => elem.typeRef
  | .unit _ => .ok TypeRef.unit
  | .path path trees => path.typeRef trees
  | .bounded traits trees => do
    match ← streamBound traits with
    | some element => return TypeRef.streamOf element
    | none => unsupported trees
  | .other trees => unsupported trees

/-- Only the last segment may have arguments. `trees` is the whole type. -/
def PathSyntax.typeRef (trees : List TokenTree) : PathSyntax → Except MethodError TypeRef
  | .mk absolute segments => do
    let (names, args) ← segmentRefs trees segments
    let name := "::".intercalate names
    return ⟨if absolute then "::" ++ name else name, args⟩

def segmentRefs (trees : List TokenTree) :
    List SegmentSyntax → Except MethodError (List String × List TypeRef)
  | [] => .ok ([], [])
  | [.mk name args] => do
    let args ← args.typeRefs trees
    return ([name], args)
  | .mk name .none :: segment :: segments => do
    let (names, args) ← segmentRefs trees (segment :: segments)
    return (name :: names, args)
  | .mk _ _ :: _ :: _ => unsupported trees

def SegmentArgs.typeRefs (trees : List TokenTree) : SegmentArgs → Except MethodError (List TypeRef)
  | .none => .ok []
  | .angled args => argRefs trees args
  | .parenthesized => unsupported trees

/-- Lifetimes are left out. -/
def argRefs (trees : List TokenTree) : List ArgSyntax → Except MethodError (List TypeRef)
  | [] => .ok []
  | .lifetime :: args => argRefs trees args
  | .type type :: args => do
    let first ← type.typeRef
    let rest ← argRefs trees args
    return first :: rest
  | .assoc _ _ :: _ => unsupported trees
  | .other :: _ => unsupported trees

/-- The element of the first bound that is a stream. -/
def streamBound : List PathSyntax → Except MethodError (Option TypeRef)
  | [] => .ok none
  | .mk _ segments :: paths => do
    match ← lastStream segments with
    | some element => return some element
    | none => streamBound paths

def lastStream : List SegmentSyntax → Except MethodError (Option TypeRef)
  | [] => .ok none
  | [.mk name args] => if name = TypeRef.streamName then args.item else .ok none
  | _ :: segment :: segments => lastStream (segment :: segments)

def SegmentArgs.item : SegmentArgs → Except MethodError (Option TypeRef)
  | .none => .ok none
  | .angled args => itemArg args
  | .parenthesized => .ok none

/-- The type that is given for the items of a stream. -/
def itemArg : List ArgSyntax → Except MethodError (Option TypeRef)
  | [] => .ok none
  | .assoc name type :: args =>
    if name = "Item" then do
      let element ← type.typeRef
      return some element
    else itemArg args
  | .lifetime :: args => itemArg args
  | .type _ :: args => itemArg args
  | .other :: args => itemArg args

end

/-! ## Markers and documentation -/

namespace Attribute

def isService (a : Attribute) : Bool := a.name == some Marker.service

def isCallKind (a : Attribute) : Bool :=
  match a.name with
  | some name => (CallKind.ofMarker? name).isSome
  | none => false

/-- The marker that an attribute of a name is, or what is wrong with it. -/
def toMarker (name : String) : AttributeForm → Except String Marker
  | .path => .ok ⟨name, .empty⟩
  | .list args =>
    match readArgs args with
    | .ok args => .ok ⟨name, .ofList args⟩
    | .error e => .error ("#[" ++ name ++ "(..)]: " ++ e.message)
  | .value _ =>
    .error ("#[" ++ name ++ " = ..] is not supported, use #[" ++ name ++ "(name = \"..\")]")

/-- A line of documentation, without the blank in front of it and those at its end. -/
def doc? (a : Attribute) : Option String :=
  match a.name, a.form with
  | some "doc", .value (some text) =>
    let line :=
      match text.toList with
      | ' ' :: rest => rest
      | line => line
    some (String.ofList (Text.trimEnd line))
  | _, _ => none

end Attribute

/-- The markers among attributes. The others are left out. -/
def markers : List Attribute → Except String (List Marker)
  | [] => .ok []
  | a :: attrs =>
    match a.name with
    | some name =>
      if a.isService || a.isCallKind then do
        let first ← Attribute.toMarker name a.form
        let rest ← markers attrs
        return first :: rest
      else markers attrs
    | none => markers attrs

def docs (attrs : List Attribute) : List String := attrs.filterMap Attribute.doc?

/-! ## Methods -/

def ParamSyntax.toParameter (p : ParamSyntax) : Except MethodError Parameter :=
  match p.pattern with
  | .name name => do
    let type ← p.type.typeRef
    return ⟨name, type⟩
  | .other trees => .error (.invalidParameter (TokenTree.textOf trees))

def MethodSyntax.toDecl (m : MethodSyntax) : Except MethodError MethodDecl := do
  let params ← m.signature.params.mapM ParamSyntax.toParameter
  let returnType ← m.signature.output.mapM TypeSyntax.typeRef
  let markers ← (markers m.attrs).mapError MethodError.invalidMarker
  return {
    name := m.signature.name
    markers := markers
    params := params
    returnType := returnType
    isAsync := m.signature.isAsync
    docs := docs m.attrs }

/-- The cause of a failure belongs to the method. -/
def MethodSyntax.toDeclIn (service : String) (m : MethodSyntax) : Except Error MethodDecl :=
  m.toDecl.mapError (Error.method service m.signature.name)

/-! ## Items -/

/-- The markers of an item, or what is wrong with one of them. -/
def itemMarkers (name : String) (attrs : List Attribute) : Except Error (List Marker) :=
  (markers attrs).mapError (Error.invalidServiceMarker name)

def traitDecl (package name : String) (attrs : List Attribute) (methods : List MethodSyntax) :
    Except Error Declaration := do
  let markers ← itemMarkers name attrs
  let methods ← methods.mapM (MethodSyntax.toDeclIn name)
  return ⟨name, package, .interface, markers, methods, docs attrs⟩

def plainDecl (package : String) (kind : DeclKind) (name : String) (attrs : List Attribute) :
    Except Error Declaration := do
  let markers ← itemMarkers name attrs
  return ⟨name, package, kind, markers, [], docs attrs⟩

/-- The package of a module in a package. -/
def modulePackage (package name : String) : String :=
  if package.isEmpty then name else package ++ "::" ++ name

mutual

/-- The declarations of an item in a package. -/
def itemDecls (package : String) : ItemSyntax → List (Except Error Declaration)
  | .trait name attrs methods =>
    if attrs.any Attribute.isService || methods.any (·.attrs.any Attribute.isCallKind) then
      [traitDecl package name attrs methods]
    else []
  | .module name items => itemsDecls (modulePackage package name) items
  | .plain kind name attrs =>
    if attrs.any Attribute.isService then [plainDecl package kind name attrs] else []
  | .other => []

def itemsDecls (package : String) : List ItemSyntax → List (Except Error Declaration)
  | [] => []
  | item :: items => itemDecls package item ++ itemsDecls package items

end

/-- The declarations of a source text. One that cannot be read is an error of its own. -/
def inspect (path source package : String) : Except Error (List (Except Error Declaration)) :=
  match parseFile source with
  | some items => .ok (itemsDecls package items)
  | none => .error (.parse path "invalid syntax")

end RpcStubs.Idl
