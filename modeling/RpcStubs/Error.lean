import RpcStubs.CallKind
import RpcStubs.TypeRef

/-!
# Errors

Each cause of a failure is a constructor, and its wording is in one function.
-/

namespace RpcStubs

/-- A parameter list that fits no request shape. -/
inductive RequestError where
  | missingStream
  | notStream (found : TypeRef)
  | severalStreams (count : Nat)
  deriving DecidableEq, Repr

def RequestError.message : RequestError → String
  | missingStream =>
    "a streaming request requires exactly one stream-typed parameter, none was declared"
  | notStream found => s!"expected a single stream-of-T parameter, found '{found.display}'"
  | severalStreams count =>
    "multiple parameters are not supported for streaming-request call kinds (" ++
      toString count ++ " declared)"

/-- Why a single method cannot be used. -/
inductive MethodError where
  | unannotated
  | conflictingKinds (kinds : List CallKind)
  | suspension (kind : CallKind) (expected : Bool)
  | responseShape (kind : CallKind) (found : Option TypeRef)
  | requestShape (cause : RequestError)
  | unsupportedType (text : String)
  | invalidParameter (text : String)
  | invalidMarker (text : String)
  deriving DecidableEq, Repr

def MethodError.message : MethodError → String
  | unannotated =>
    "method carries none of the call-kind markers (unary, client_stream, server_stream, " ++
      "bidi_stream)"
  | conflictingKinds kinds =>
    "method carries more than one call-kind marker: " ++
      ", ".intercalate (kinds.map CallKind.name)
  | suspension kind expected =>
    kind.name ++ " methods must " ++ (if expected then "" else "not ") ++ "be async"
  | responseShape kind found =>
    kind.name ++ " methods must return a single stream-of-T type, found " ++
      (match found with
       | some type => "'" ++ type.display ++ "'"
       | none => "no return type")
  | requestShape cause => "invalid request shape: " ++ cause.message
  | unsupportedType text => s!"'{text}' is an unsupported type"
  | invalidParameter text => s!"parameters must be plain identifiers, found '{text}'"
  | invalidMarker text => text

/-- The four files made for a service. -/
inductive Role where
  | interface
  | client
  | provider
  | descriptor
  deriving DecidableEq, Repr

def Role.name : Role → String
  | interface => "interface"
  | client => "client"
  | provider => "provider"
  | descriptor => "descriptor"

inductive Error where
  | missingFile (text : String)
  | io (text : String)
  | parse (path text : String)
  | notInterface (service : String)
  | missingServiceMarker (service : String)
  | invalidServiceMarker (service text : String)
  | method (service method : String) (cause : MethodError)
  | wrapperCollision (service wrapper first second : String)
  | duplicateWireName (service wireName first second : String)
  | artifactCollision (service name : String) (first second : Role)
  | duplicateOutput (service file other : String)
  | config (text : String)
  | build (text : String)
  | json (text : String)
  | formatter (text : String)
  deriving DecidableEq, Repr

namespace Error

def message : Error → String
  | missingFile text => "missing input file: " ++ text
  | io text => "io error: " ++ text
  | parse path text => "parse error in " ++ path ++ ": " ++ text
  | notInterface service =>
    s!"'{service}' is not an interface and cannot be used as a service definition"
  | missingServiceMarker service => s!"interface '{service}' is missing the #[service] marker"
  | invalidServiceMarker service text => service ++ ": " ++ text
  | method service name cause => service ++ "::" ++ name ++ ": " ++ cause.message
  | wrapperCollision service wrapper first second =>
    s!"service {service}: methods '{first}' and '{second}' both synthesize request wrapper " ++
      s!"'{wrapper}'"
  | duplicateWireName service wireName first second =>
    s!"service {service}: methods '{first}' and '{second}' share wire name '{wireName}'"
  | artifactCollision service name first second =>
    s!"service {service}: generated name '{name}' is used for both the " ++ first.name ++
      " and the " ++ second.name
  | duplicateOutput service file other =>
    s!"service {service}: generated file '{file}' was already written for {other}"
  | config text => "config: " ++ text
  | build text => "build: " ++ text
  | json text => "json: " ++ text
  | formatter text => "formatter: " ++ text

/-- The declaration an error belongs to. -/
def service? : Error → Option String
  | notInterface service | missingServiceMarker service | invalidServiceMarker service _
  | method service _ _ | wrapperCollision service _ _ _ | duplicateWireName service _ _ _
  | artifactCollision service _ _ _ | duplicateOutput service _ _ => some service
  | _ => none

/-- The method an error belongs to. -/
def method? : Error → Option String
  | method _ name _ => some name
  | _ => none

/-- The message, followed by the messages of its causes. -/
def chain : Error → List String
  | e@(method _ _ (.requestShape cause)) =>
    [e.message, (MethodError.requestShape cause).message, cause.message]
  | e@(method _ _ cause) => [e.message, cause.message]
  | e => [e.message]

end Error

end RpcStubs
