import RpcStubs.Service.Request

/-!
# Methods of a service

A method declaration is classified by its call-kind marker. The faults are looked for in a
fixed order: marker, suspension, response, request.
-/

namespace RpcStubs

structure Method where
  name : String
  wireName : String
  kind : CallKind
  request : RequestShape
  /-- The response type without the stream around it. -/
  response : TypeRef
  docs : List String
  deriving DecidableEq, Repr

/-- The call-kind markers of a method, each with its kind. -/
def MethodDecl.kindMarkers (d : MethodDecl) : List (CallKind × Marker) :=
  d.markers.filterMap (fun m => m.callKind?.map (·, m))

namespace Method

/-- The single call-kind marker of a declaration. -/
def kindOf (d : MethodDecl) : Except MethodError (CallKind × Marker) :=
  match d.kindMarkers with
  | [] => .error .unannotated
  | [found] => .ok found
  | several => .error (.conflictingKinds (several.map (·.1)))

/-- The element type of the response. A method without a return type responds with unit. -/
def responseOf (kind : CallKind) (found : Option TypeRef) : Except MethodError TypeRef :=
  if kind.streamsResponses then
    match found.bind TypeRef.streamElement? with
    | some element => .ok element
    | none => .error (.responseShape kind found)
  else .ok (found.getD TypeRef.unit)

def classify (d : MethodDecl) : Except MethodError Method := do
  let (kind, marker) ← kindOf d
  if kind.mustSuspend ≠ d.isAsync then
    throw (.suspension kind kind.mustSuspend)
  let response ← responseOf kind d.returnType
  let request ← (RequestShape.resolve d.name d.params kind.streamsRequests).mapError
    MethodError.requestShape
  return {
    name := d.name
    wireName := (marker.arg Marker.nameKey).getD d.name
    kind := kind
    request := request
    response := response
    docs := d.docs }

def mustSuspend (m : Method) : Bool := m.kind.mustSuspend

def requestType (m : Method) : TypeRef := m.request.type

/-- The return type in the service interface. -/
def returnType (m : Method) : TypeRef :=
  if m.kind.streamsResponses then TypeRef.streamOf m.response else m.response

/-- The parameters in the service interface. -/
def params (m : Method) : List Parameter :=
  match m.request with
  | .none => []
  | .single name type =>
    [⟨name, if m.kind.streamsRequests then TypeRef.streamOf type else type⟩]
  | .composite params _ => params

end Method

end RpcStubs
