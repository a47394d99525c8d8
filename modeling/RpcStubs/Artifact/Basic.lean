import RpcStubs.Service.Definition

/-!
# Artifacts

What is generated for a service, described without its text: the service interface, the
descriptor with its records and codecs, the client and the provider.
-/

namespace RpcStubs

/-- A method as the interface declares it. -/
structure Signature where
  name : String
  isAsync : Bool
  params : List Parameter
  returns : TypeRef
  docs : List String
  deriving DecidableEq, Repr

def Method.signature (m : Method) : Signature :=
  { name := m.name
    isAsync := m.mustSuspend
    params := m.params
    returns := m.returnType
    docs := m.docs }

structure InterfaceArtifact where
  file : FileId
  name : String
  wireName : String
  methods : List Signature
  docs : List String
  deriving DecidableEq, Repr

/-- The record of a composite request. -/
structure Wrapper where
  name : String
  fields : List Parameter
  deriving DecidableEq, Repr

/-- The codec of one type, bound to a name in the generated code. -/
structure CodecBinding where
  ident : String
  canonicalName : String
  type : TypeRef
  deriving DecidableEq, Repr

/-- Unit has a fixed codec. Every other type has a binding. -/
inductive CodecRef where
  | unit
  | binding (ident : String)
  deriving DecidableEq, Repr

structure DescriptorEntry where
  /-- The declared name of the method. -/
  method : String
  wireName : String
  kind : CallKind
  requestType : TypeRef
  responseType : TypeRef
  requestCodec : CodecRef
  responseCodec : CodecRef
  deriving DecidableEq, Repr

structure DescriptorArtifact where
  file : FileId
  name : String
  wireName : String
  wrappers : List Wrapper
  codecs : List CodecBinding
  entries : List DescriptorEntry
  deriving DecidableEq, Repr

namespace DescriptorArtifact

def entry? (a : DescriptorArtifact) (method : String) : Option DescriptorEntry :=
  a.entries.find? (·.method == method)

def codec? (a : DescriptorArtifact) (ident : String) : Option CodecBinding :=
  a.codecs.find? (·.ident == ident)

end DescriptorArtifact

/-- The value that a client sends. -/
inductive CallArgument where
  /-- A record of the parameters of these names. -/
  | wrapper (name : String) (fields : List String)
  | forward (param : String)
  | unit
  deriving DecidableEq, Repr

structure ClientMethod where
  signature : Signature
  /-- The descriptor entry of the call. -/
  entry : String
  kind : CallKind
  argument : CallArgument
  requestType : TypeRef
  responseType : TypeRef
  deriving DecidableEq, Repr

structure ClientArtifact where
  file : FileId
  name : String
  interface : FileId
  descriptor : FileId
  methods : List ClientMethod
  deriving DecidableEq, Repr

/-- How a request becomes the arguments of the service method. -/
inductive Adapter where
  /-- The record's fields in order. -/
  | destructure (wrapper : String) (fields : List String)
  | passThrough
  | zeroArg
  deriving DecidableEq, Repr

structure ProviderBinding where
  method : String
  entry : String
  kind : CallKind
  adapter : Adapter
  requestType : TypeRef
  responseType : TypeRef
  deriving DecidableEq, Repr

structure ProviderArtifact where
  file : FileId
  name : String
  interface : FileId
  descriptor : FileId
  bindings : List ProviderBinding
  deriving DecidableEq, Repr

inductive Artifact where
  | interface (a : InterfaceArtifact)
  | descriptor (a : DescriptorArtifact)
  | client (a : ClientArtifact)
  | provider (a : ProviderArtifact)
  deriving DecidableEq, Repr

def Artifact.file : Artifact → FileId
  | interface a => a.file
  | descriptor a => a.file
  | client a => a.file
  | provider a => a.file

end RpcStubs
