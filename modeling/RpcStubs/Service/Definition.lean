import RpcStubs.Service.FileId
import RpcStubs.Service.Method

/-!
# Service definitions

A service is built from an interface declaration once all of its methods are classified and no
two generated names collide.
-/

namespace RpcStubs

structure Service where
  name : String
  package : String
  wireName : String
  clientName : String
  providerName : String
  descriptorName : String
  methods : List Method
  docs : List String
  deriving DecidableEq, Repr

namespace Service

/-- A wire name that ends in `Service` gives way to `Client`. Any other is kept. -/
def defaultClientName (wireName : String) : String :=
  match Text.dropSuffix? "Service".toList wireName.toList with
  | some base => String.ofList base ++ "Client"
  | none => wireName

def defaultProviderName (wireName : String) : String := wireName ++ "Provider"

def defaultDescriptorName (wireName : String) : String := wireName ++ "Descriptor"

/-- The first method of a declared name. -/
def method? (s : Service) (name : String) : Option Method :=
  s.methods.find? (·.name == name)

/-! ## Files -/

def interfaceFile (s : Service) : FileId := .of s.package s.name

def descriptorFile (s : Service) : FileId := .of s.package s.descriptorName

def providerFile (s : Service) : FileId := .of s.package s.providerName

/-- A client that would share the interface's module moves to a module of its own. -/
def clientFile (s : Service) : FileId :=
  let file := FileId.of s.package s.clientName
  if file.module = s.interfaceFile.module then { file with module := file.module ++ "_client" }
  else file

/-! ## Collisions -/

/-- What two methods of a service may not share. -/
inductive MethodCollision where
  | wrapper (name first second : String)
  | wireName (name first second : String)
  deriving DecidableEq, Repr

/-- The first earlier method that has the same request wrapper. -/
def wrapperClash? (earlier : List Method) (m : Method) : Option MethodCollision :=
  match m.request.wrapper? with
  | none => none
  | some wrapper =>
    (earlier.find? (fun e => e.request.wrapper? = some wrapper)).map
      (fun e => .wrapper wrapper e.name m.name)

/-- The first earlier method that has the same wire name. -/
def wireNameClash? (earlier : List Method) (m : Method) : Option MethodCollision :=
  (earlier.find? (·.wireName == m.wireName)).map (fun e => .wireName m.wireName e.name m.name)

/-- The first method that collides with one of those before it. -/
def methodCollision? (earlier : List Method) : List Method → Option MethodCollision
  | [] => none
  | m :: rest =>
    match wrapperClash? earlier m <|> wireNameClash? earlier m with
    | some clash => some clash
    | none => methodCollision? (earlier ++ [m]) rest

/-- The name that two files share. Interface and client may define the same type name. -/
def sharedName? (first second : Role × FileId) : Option String :=
  if first.2.name = second.2.name ∧ (first.1, second.1) ≠ (.interface, .client) then
    some first.2.name
  else if first.2.module = second.2.module then some first.2.module
  else none

/-- The files of a service, in the order in which they are compared. -/
def files (s : Service) : List (Role × FileId) :=
  [(.interface, s.interfaceFile), (.client, s.clientFile), (.provider, s.providerFile),
    (.descriptor, s.descriptorFile)]

/-- The first two files that share a name. -/
def fileCollision? : List (Role × FileId) → Option (String × Role × Role)
  | [] => none
  | f :: rest =>
    match rest.findSome? (fun g => (sharedName? f g).map (·, f.1, g.1)) with
    | some clash => some clash
    | none => fileCollision? rest

/-- Refuses a service with names that would collide in the generated code. -/
def validate (s : Service) : Except Error Unit :=
  match methodCollision? [] s.methods with
  | some (.wrapper name first second) => .error (.wrapperCollision s.name name first second)
  | some (.wireName name first second) => .error (.duplicateWireName s.name name first second)
  | none =>
    match fileCollision? s.files with
    | some (name, first, second) => .error (.artifactCollision s.name name first second)
    | none => .ok ()

/-! ## Building -/

/-- Classifies every method. The first one that fails is named. -/
def classifyMethods (service : String) : List MethodDecl → Except Error (List Method)
  | [] => .ok []
  | d :: rest => do
    let m ← (Method.classify d).mapError (Error.method service d.name)
    let ms ← classifyMethods service rest
    return m :: ms

/-- The service of a marked interface, before its names are checked. -/
def ofMarker (d : Declaration) (marker : Marker) (methods : List Method) : Service :=
  let wireName := (marker.arg Marker.nameKey).getD d.name
  { name := d.name
    package := d.package
    wireName := wireName
    clientName := (marker.arg Marker.clientKey).getD (defaultClientName wireName)
    providerName := (marker.arg Marker.providerKey).getD (defaultProviderName wireName)
    descriptorName := defaultDescriptorName wireName
    methods := methods
    docs := d.docs }

/-- The service that a declaration defines. A fault of any method fails the whole. -/
def build (d : Declaration) : Except Error Service := do
  if d.kind ≠ .interface then
    throw (.notInterface d.name)
  match d.marker? Marker.service with
  | none => throw (.missingServiceMarker d.name)
  | some marker =>
    let methods ← classifyMethods d.name d.methods
    let service := ofMarker d marker methods
    service.validate
    return service

end Service

end RpcStubs
