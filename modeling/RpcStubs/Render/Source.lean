import RpcStubs.Artifact.Synthesis
import RpcStubs.Render.Writer
import RpcStubs.Text.Quoted

/-!
# Source text of artifacts

Every artifact is a Rust module. The modules name each other as siblings of one package and the
types of a runtime crate.
-/

namespace RpcStubs

/-- What the generated files have in common. -/
structure Renderer where
  /-- Crate path of the runtime. -/
  runtime : String
  /-- Paths that every file imports for the types of the declarations. -/
  imports : List String
  deriving DecidableEq, Repr

namespace Renderer

def defaultRuntime : String := "stubgen_runtime"

def default : Renderer := ⟨defaultRuntime, []⟩

def header : List Step :=
  [.plain "// This file is generated automatically by stubgen. Do not edit.", .plain ""]

/-! ## Pieces -/

def docLine (doc : String) : String :=
  if doc.isEmpty then "///" else "/// " ++ String.ofList (Text.trimEnd doc.toList)

def docLines (docs : List String) : List Step := docs.map (fun doc => .plain (docLine doc))

/-- A list of blocks with an empty line between two of them. -/
def separated : List (List Step) → List Step
  | [] => []
  | [steps] => steps
  | steps :: rest => steps ++ .plain "" :: separated rest

def allowUnused (path : String) : List Step :=
  [.plain "#[allow(unused_imports)]", .plain s!"use {path};"]

/-- Imports of the runtime's items and of the declarations' types. -/
def runtimeUse (r : Renderer) (items : List String) : List Step :=
  allowUnused (r.runtime ++ "::\x7b" ++ ", ".intercalate items ++ "\x7d") ++
    r.imports.flatMap allowUnused

/-- How the type `importer` names a sibling: by path if the two have the same name. -/
def siblingPiece (importer : String) (sibling : FileId) : Piece :=
  if sibling.name = importer then .byPath sibling.module sibling.name else .named sibling.name

/-- The names imported from the descriptor's module, in increasing order. -/
def descriptorNames (descriptor : FileId) (wrappers : List String) : List String :=
  SortedMap.sortKeys (wrappers ++ [descriptor.name])

/-- The interface is imported unless the importing type has its name. -/
def siblingUses (importer : String) (interface descriptor : FileId) (wrappers : List String) :
    List Step :=
  (if interface.name = importer then []
   else [.line [.uses interface.module [interface.name]]]) ++
  [.line [.uses descriptor.module (descriptorNames descriptor wrappers)]]

def signatureParams (params : List Parameter) : String :=
  String.join (params.map (fun p => ", " ++ p.name ++ ": " ++ p.type.display))

def signatureText (s : Signature) : String :=
  if s.isAsync then
    s!"async fn {s.name}(&self{signatureParams s.params}) -> RpcResult<{s.returns.display}>"
  else s!"fn {s.name}(&self{signatureParams s.params}) -> {s.returns.display}"

def codecText : CodecRef → String
  | .unit => "Codec::unit()"
  | .binding ident => ident ++ ".clone()"

/-! ## Artifacts -/

/-- A method of an interface: its documentation and its signature. -/
def signatureSteps (s : Signature) : List Step :=
  docLines s.docs ++ [.plain (signatureText s ++ ";")]

def interfaceSteps (r : Renderer) (a : InterfaceArtifact) : List Step :=
  [.plain "use async_trait::async_trait;"] ++ r.runtimeUse ["RpcResult", "Stream"] ++
  [.plain ""] ++ docLines a.docs ++
  [.plain s!"/// wire name: `{a.wireName}`", .plain "#[async_trait]"] ++
  block [.trait a.name, .text ": Send + Sync \x7b"] (separated (a.methods.map signatureSteps))
    "\x7d"

def wrapperSteps (w : Wrapper) : List Step :=
  [.plain "#[derive(Clone, Debug, PartialEq, Serialize, Deserialize)]"] ++
  block [.struct w.name, .text " \x7b"]
    (w.fields.map (fun f => .plain s!"pub {f.name}: {f.type.display},")) "\x7d" ++
  [.plain ""]

/-- The field of a descriptor in which an entry is kept. -/
def fieldStep (e : DescriptorEntry) : Step :=
  .plain s!"pub {e.method}: MethodDescriptor<{e.requestType.display}, {e.responseType.display}>,"

def entrySteps (e : DescriptorEntry) : List Step :=
  block [.text s!"{e.method}: MethodDescriptor::new("]
    [.plain "Self::SERVICE_NAME,",
     .plain (Text.quoted e.wireName ++ ","),
     .plain s!"CallKind::{e.kind.name},",
     .plain (codecText e.requestCodec ++ ","),
     .plain (codecText e.responseCodec ++ ",")]
    "),"

def descriptorSteps (r : Renderer) (a : DescriptorArtifact) : List Step :=
  (if a.wrappers.isEmpty then []
   else [.plain "use serde::\x7bDeserialize, Serialize\x7d;"]) ++
  r.runtimeUse ["CallKind", "Codec", "CodecFactory", "MethodDescriptor"] ++
  [.plain ""] ++ a.wrappers.flatMap wrapperSteps ++
  [.plain s!"/// Method registry for the `{a.wireName}` service",
   .plain "#[derive(Clone, Debug)]"] ++
  block [.struct a.name, .text " \x7b"] (a.entries.map fieldStep) "\x7d" ++
  [.plain ""] ++
  block [.text s!"impl {a.name} \x7b"]
    ([.plain ("pub const SERVICE_NAME: &'static str = " ++ Text.quoted a.wireName ++ ";"),
      .plain ""] ++
     block [.text ("pub fn new<F: CodecFactory + ?Sized>(" ++
         (if a.codecs.isEmpty then "_codecs" else "codecs") ++ ": &F) -> Self \x7b")]
       (a.codecs.map (fun c =>
          .plain s!"let {c.ident}: Codec<{c.type.display}> = codecs.codec();") ++
        block [.text "Self \x7b"] (a.entries.flatMap entrySteps) "\x7d")
       "\x7d")
    "\x7d"

/-- The argument of a call. A record is built by its name. -/
def argumentLine : CallArgument → Line
  | .wrapper name fields => [.named name, .text (" \x7b " ++ ", ".intercalate fields ++ " \x7d")]
  | .forward param => [.text param]
  | .unit => [.text "()"]

def argumentWrapper? : CallArgument → Option String
  | .wrapper name _ => some name
  | _ => none

def clientMethodSteps (m : ClientMethod) : List Step :=
  block [.text (signatureText m.signature ++ " \x7b")]
    [.line (.text s!"self.transport.{m.kind.markerName}(&self.descriptor.{m.entry}, " ::
      argumentLine m.argument ++
      [.text (")" ++ (if m.kind.mustSuspend then ".await" else ""))])]
    "\x7d"

def clientSteps (r : Renderer) (a : ClientArtifact) : List Step :=
  [.plain "use std::sync::Arc;", .plain "", .plain "use async_trait::async_trait;"] ++
  r.runtimeUse ["RpcResult", "Stream", "Transport"] ++
  siblingUses a.name a.interface a.descriptor
    (a.methods.filterMap (fun m => argumentWrapper? m.argument)) ++
  [.plain "",
   .plain s!"/// Calls the `{a.interface.name}` service through a transport",
   .plain "#[derive(Clone, Debug)]"] ++
  block [.struct a.name, .text "<T> \x7b"]
    [.plain "transport: T,",
     .line [.text "descriptor: Arc<", .named a.descriptor.name, .text ">,"]] "\x7d" ++
  [.plain ""] ++
  block [.text s!"impl<T: Transport> {a.name}<T> \x7b"]
    (block [.text "pub fn new(transport: T, descriptor: Arc<", .named a.descriptor.name,
        .text ">) -> Self \x7b"]
      [.plain "Self \x7b transport, descriptor \x7d"] "\x7d")
    "\x7d" ++
  [.plain "", .plain "#[async_trait]"] ++
  block [.text "impl<T: Transport> ", siblingPiece a.name a.interface,
      .text s!" for {a.name}<T> \x7b"]
    (separated (a.methods.map clientMethodSteps)) "\x7d"

def adapterWrapper? : Adapter → Option String
  | .destructure wrapper _ => some wrapper
  | _ => none

/-- The type of a request. A request that is taken apart is a record. -/
def requestPiece (b : ProviderBinding) : Piece :=
  match b.adapter with
  | .destructure _ _ => .named b.requestType.display
  | _ => .text b.requestType.display

/-- The parameter of a handler. A request that is dropped has no name. -/
def handlerParam (b : ProviderBinding) : Line :=
  .text (match b.adapter with
    | .zeroArg => "_: "
    | _ => "request: ") ::
  if b.kind.streamsRequests then [.text (TypeRef.streamName ++ "<"), requestPiece b, .text ">"]
  else [requestPiece b]

/-- The call of the service method inside a handler. -/
def handlerCall (b : ProviderBinding) : String :=
  s!"this.{b.method}(" ++
  (match b.adapter with
   | .zeroArg => ""
   | .passThrough => "request"
   | .destructure _ fields => ", ".intercalate (fields.map ("request." ++ ·))) ++ ")"

def bindingSteps (b : ProviderBinding) : List Step :=
  let register : Line :=
    .text s!"registry.register_{b.kind.markerName}(&descriptor.{b.entry}, move |" ::
      handlerParam b
  [.plain "let this = Arc::clone(&self);"] ++
  if b.kind.mustSuspend then
    block (register ++ [.text "| \x7b"])
      [.plain "let this = Arc::clone(&this);",
       .plain ("async move \x7b " ++ handlerCall b ++ ".await \x7d")]
      "\x7d);"
  else [.line (register ++ [.text ("| " ++ handlerCall b ++ ");")])]

def providerSteps (r : Renderer) (a : ProviderArtifact) : List Step :=
  [.plain "use std::sync::Arc;", .plain ""] ++
  r.runtimeUse ["Registry", "Stream"] ++
  siblingUses a.name a.interface a.descriptor
    (a.bindings.filterMap (fun b => adapterWrapper? b.adapter)) ++
  [.plain "",
   .plain (s!"/// Binds an implementation of `{a.interface.name}` to a registry. " ++
     "Implement the service trait,"),
   .plain "/// add an empty impl of this trait, then call `bind` once."] ++
  block [.trait a.name, .text ": ", .named a.interface.name, .text " + Sized + 'static \x7b"]
    (block [.text "fn bind(self: Arc<Self>, registry: &mut Registry, descriptor: &",
        .named a.descriptor.name, .text ") \x7b"]
      (a.bindings.flatMap bindingSteps) "\x7d")
    "\x7d"

def steps (r : Renderer) (a : Artifact) : List Step :=
  header ++
  match a with
  | .interface a => r.interfaceSteps a
  | .descriptor a => r.descriptorSteps a
  | .client a => r.clientSteps a
  | .provider a => r.providerSteps a

/-- The text of an artifact's file. -/
def render (r : Renderer) (a : Artifact) : String := Step.render (r.steps a)

/-- The module index of a package directory. -/
def moduleIndex (modules : List String) : String :=
  Step.render (header ++ modules.map (fun m => .plain s!"pub mod {m};"))

/-- The files of a service with their text, in the order in which they are written. -/
def renderService (r : Renderer) (s : Service) : List (FileId × String) :=
  s.artifacts.map (fun a => (a.file, r.render a))

end Renderer

end RpcStubs
