import RpcStubs.CallKind
import RpcStubs.SortedMap
import RpcStubs.Text.Blank
import RpcStubs.TypeRef

/-!
# Declarations

What a source file declares, before any check: interfaces with their markers, methods and
parameters.
-/

namespace RpcStubs

/-- An attribute with string arguments. -/
structure Marker where
  name : String
  args : SortedMap String
  deriving DecidableEq, Repr

namespace Marker

/-- Marks an interface as a service. -/
def service : String := "service"

/-- The argument that overrides a wire name. -/
def nameKey : String := "name"

def clientKey : String := "client"

def providerKey : String := "provider"

/-- The trimmed value of an argument. A blank value counts as absent. -/
def arg (m : Marker) (key : String) : Option String :=
  match m.args.get? key with
  | none => none
  | some value =>
    let trimmed := Text.trim value.toList
    if trimmed.isEmpty then none else some (String.ofList trimmed)

def callKind? (m : Marker) : Option CallKind := CallKind.ofMarker? m.name

end Marker

/-- A named and typed parameter of a method or field of a record. -/
structure Parameter where
  name : String
  type : TypeRef
  deriving DecidableEq, Repr

structure MethodDecl where
  name : String
  markers : List Marker
  params : List Parameter
  returnType : Option TypeRef
  isAsync : Bool
  docs : List String
  deriving DecidableEq, Repr

/-- What a declaration declares. Only interfaces define services. -/
inductive DeclKind where
  | interface
  | record
  | enumeration
  | function
  | other
  deriving DecidableEq, Repr

structure Declaration where
  name : String
  package : String
  kind : DeclKind
  markers : List Marker
  methods : List MethodDecl
  docs : List String
  deriving DecidableEq, Repr

namespace Declaration

/-- The first marker of a name. -/
def marker? (d : Declaration) (name : String) : Option Marker :=
  d.markers.find? (·.name == name)

end Declaration

end RpcStubs
