import RpcStubs.Artifact.Synthesis
import RpcStubs.Declaration.Json

/-!
# Service models in documents

A dump of a service holds its definition and the artifacts made for it.
-/

namespace RpcStubs

open Json (Value)

/-- Lines of documentation are left out if there are none. -/
def docsField (docs : List String) : List (String × Value) :=
  Value.unlessEmpty "docs" (docs.map .string)

def parametersJson (params : List Parameter) : Value := .array (params.map Parameter.toJson)

/-! ## Definitions -/

def RequestShape.toJson : RequestShape → Value
  | none => .object [("shape", .string "NoRequest")]
  | single name type =>
    .object [("shape", .string "Simple"), ("name", .string name), ("ty", type.toJson)]
  | composite params wrapper =>
    .object [("shape", .string "Composite"), ("parameters", parametersJson params),
      ("wrapper", .string wrapper)]

def Method.toJson (m : Method) : Value :=
  .object ([
    ("declared_name", .string m.name),
    ("wire_method_name", .string m.wireName),
    ("call_kind", .string m.kind.name),
    ("request", m.request.toJson),
    ("response_element_type", m.response.toJson)] ++ docsField m.docs)

def Service.toJson (s : Service) : Value :=
  .object ([
    ("declared_name", .string s.name),
    ("package", .string s.package),
    ("wire_service_name", .string s.wireName),
    ("client_name", .string s.clientName),
    ("provider_name", .string s.providerName),
    ("descriptor_name", .string s.descriptorName),
    ("methods", .array (s.methods.map Method.toJson))] ++ docsField s.docs)

/-! ## Artifacts -/

def FileId.toJson (f : FileId) : Value :=
  .object [("package", .string f.package), ("name", .string f.name),
    ("module", .string f.module)]

def Signature.toJson (s : Signature) : Value :=
  .object ([
    ("name", .string s.name),
    ("is_async", .bool s.isAsync),
    ("params", parametersJson s.params),
    ("returns", s.returns.toJson)] ++ docsField s.docs)

def Wrapper.toJson (w : Wrapper) : Value :=
  .object [("name", .string w.name), ("fields", parametersJson w.fields)]

def CodecBinding.toJson (b : CodecBinding) : Value :=
  .object [("ident", .string b.ident), ("canonical_name", .string b.canonicalName),
    ("type", b.type.toJson)]

def CodecRef.toJson : CodecRef → Value
  | unit => .string "Unit"
  | binding ident => .object [("Binding", .string ident)]

def DescriptorEntry.toJson (e : DescriptorEntry) : Value :=
  .object [
    ("method", .string e.method),
    ("wire_method_name", .string e.wireName),
    ("call_kind", .string e.kind.name),
    ("request_type", e.requestType.toJson),
    ("response_type", e.responseType.toJson),
    ("request_codec", e.requestCodec.toJson),
    ("response_codec", e.responseCodec.toJson)]

def CallArgument.toJson : CallArgument → Value
  | wrapper name fields =>
    .object [("Wrapper", .object [("wrapper", .string name), ("fields", .strings fields)])]
  | forward param => .object [("Forward", .string param)]
  | unit => .string "Unit"

def ClientMethod.toJson (m : ClientMethod) : Value :=
  .object [
    ("signature", m.signature.toJson),
    ("entry", .string m.entry),
    ("call_kind", .string m.kind.name),
    ("argument", m.argument.toJson),
    ("request_type", m.requestType.toJson),
    ("response_type", m.responseType.toJson)]

def Adapter.toJson : Adapter → Value
  | destructure wrapper fields =>
    .object [("Destructure", .object [("wrapper", .string wrapper), ("fields", .strings fields)])]
  | passThrough => .string "PassThrough"
  | zeroArg => .string "ZeroArg"

def ProviderBinding.toJson (b : ProviderBinding) : Value :=
  .object [
    ("method", .string b.method),
    ("entry", .string b.entry),
    ("call_kind", .string b.kind.name),
    ("adapter", b.adapter.toJson),
    ("request_type", b.requestType.toJson),
    ("response_type", b.responseType.toJson)]

def Artifact.toJson : Artifact → Value
  | interface a =>
    .object ([
      ("artifact", .string "interface"),
      ("file", a.file.toJson),
      ("name", .string a.name),
      ("wire_service_name", .string a.wireName),
      ("methods", .array (a.methods.map Signature.toJson))] ++ docsField a.docs)
  | descriptor a =>
    .object [
      ("artifact", .string "descriptor"),
      ("file", a.file.toJson),
      ("name", .string a.name),
      ("wire_service_name", .string a.wireName),
      ("wrappers", .array (a.wrappers.map Wrapper.toJson)),
      ("codecs", .array (a.codecs.map CodecBinding.toJson)),
      ("entries", .array (a.entries.map DescriptorEntry.toJson))]
  | client a =>
    .object [
      ("artifact", .string "client"),
      ("file", a.file.toJson),
      ("name", .string a.name),
      ("interface", a.interface.toJson),
      ("descriptor", a.descriptor.toJson),
      ("methods", .array (a.methods.map ClientMethod.toJson))]
  | provider a =>
    .object [
      ("artifact", .string "provider"),
      ("file", a.file.toJson),
      ("name", .string a.name),
      ("interface", a.interface.toJson),
      ("descriptor", a.descriptor.toJson),
      ("bindings", .array (a.bindings.map ProviderBinding.toJson))]

/-! ## Dumps -/

/-- A service together with its artifacts. -/
def Service.dump (s : Service) : Value :=
  .object [("definition", s.toJson), ("artifacts", .array (s.artifacts.map Artifact.toJson))]

/-- The text of a list of services, as it is printed. -/
def dumpText (services : List Service) : String :=
  (Value.array (services.map Service.dump)).prettyText

end RpcStubs
