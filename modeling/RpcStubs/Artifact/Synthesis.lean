import RpcStubs.Artifact.Codecs

/-!
# Artifacts of a service
-/

namespace RpcStubs

namespace Method

def argument (m : Method) : CallArgument :=
  match m.request with
  | .none => .unit
  | .single name _ => .forward name
  | .composite params wrapper => .wrapper wrapper (params.map (·.name))

def adapter (m : Method) : Adapter :=
  match m.request with
  | .none => .zeroArg
  | .single _ _ => .passThrough
  | .composite params wrapper => .destructure wrapper (params.map (·.name))

/-- The record of a composite request. -/
def record? (m : Method) : Option Wrapper :=
  match m.request with
  | .composite params wrapper => some ⟨wrapper, params⟩
  | _ => none

def clientMethod (m : Method) : ClientMethod :=
  { signature := m.signature
    entry := m.name
    kind := m.kind
    argument := m.argument
    requestType := m.requestType
    responseType := m.response }

def providerBinding (m : Method) : ProviderBinding :=
  { method := m.name
    entry := m.name
    kind := m.kind
    adapter := m.adapter
    requestType := m.requestType
    responseType := m.response }

/-- The descriptor entry of a method. The request's codec is bound before the response's. -/
def descriptorEntry (m : Method) (table : CodecTable) : DescriptorEntry × CodecTable :=
  let (requestCodec, table) := table.bind m.requestType
  let (responseCodec, table) := table.bind m.response
  ({ method := m.name
     wireName := m.wireName
     kind := m.kind
     requestType := m.requestType
     responseType := m.response
     requestCodec := requestCodec
     responseCodec := responseCodec }, table)

end Method

namespace Service

/-- The entries of the methods, and the table of the codecs that they use. -/
def descriptorEntries (table : CodecTable) : List Method → List DescriptorEntry × CodecTable
  | [] => ([], table)
  | m :: rest =>
    let (entry, table) := m.descriptorEntry table
    let (entries, table) := descriptorEntries table rest
    (entry :: entries, table)

def interfaceArtifact (s : Service) : InterfaceArtifact :=
  { file := s.interfaceFile
    name := s.name
    wireName := s.wireName
    methods := s.methods.map Method.signature
    docs := s.docs }

def descriptorArtifact (s : Service) : DescriptorArtifact :=
  let (entries, codecs) := descriptorEntries [] s.methods
  { file := s.descriptorFile
    name := s.descriptorName
    wireName := s.wireName
    wrappers := s.methods.filterMap Method.record?
    codecs := codecs
    entries := entries }

def clientArtifact (s : Service) : ClientArtifact :=
  { file := s.clientFile
    name := s.clientName
    interface := s.interfaceFile
    descriptor := s.descriptorFile
    methods := s.methods.map Method.clientMethod }

def providerArtifact (s : Service) : ProviderArtifact :=
  { file := s.providerFile
    name := s.providerName
    interface := s.interfaceFile
    descriptor := s.descriptorFile
    bindings := s.methods.map Method.providerBinding }

/-- The four artifacts, in the order in which they are written. -/
def artifacts (s : Service) : List Artifact :=
  [.interface s.interfaceArtifact, .descriptor s.descriptorArtifact,
    .client s.clientArtifact, .provider s.providerArtifact]

end Service

end RpcStubs
