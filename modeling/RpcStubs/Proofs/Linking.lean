import RpcStubs.Proofs.Bracketing
import RpcStubs.Proofs.Consistency
import RpcStubs.Proofs.Places

/-!
# Names across generated files

A generated file defines types, imports types of its siblings and names them, as the marks in its
lines say. What a client or a provider takes from a sibling is defined there, and what it names is
taken from a sibling.
-/

namespace RpcStubs

/-! ## Marks -/

namespace Piece

def isMark : Piece → Bool
  | text _ => false
  | _ => true

def defined? : Piece → Option String
  | trait name => some name
  | struct name => some name
  | _ => none

def imports : Piece → List (String × String)
  | uses module names => names.map (module, ·)
  | _ => []

def named? : Piece → Option String
  | named name => some name
  | _ => none

def byPath? : Piece → Option (String × String)
  | byPath module name => some (module, name)
  | _ => none

end Piece

namespace Line

def marked (lines : List Line) : List Piece := lines.flatMap (List.filter Piece.isMark)

def definitions (lines : List Line) : List String := (marked lines).filterMap Piece.defined?

def imports (lines : List Line) : List (String × String) := (marked lines).flatMap Piece.imports

def names (lines : List Line) : List String := (marked lines).filterMap Piece.named?

def paths (lines : List Line) : List (String × String) := (marked lines).filterMap Piece.byPath?

end Line

/-! ## Files that fit together -/

namespace Service

def artifact (s : Service) : Role → Artifact
  | .interface => .interface s.interfaceArtifact
  | .client => .client s.clientArtifact
  | .provider => .provider s.providerArtifact
  | .descriptor => .descriptor s.descriptorArtifact

/-- The lines of the file of a role. -/
def lines (r : Renderer) (s : Service) (role : Role) : List Line :=
  (r.steps (s.artifact role)).map Step.content

def wrapperNames (s : Service) : List String := s.methods.filterMap (·.request.wrapper?)

/-- A name behind its module is that of a type which the file of a role defines. The file is in
the package of the importing file, and the only one of the service in its module. -/
structure Provides (r : Renderer) (s : Service) (importer role : Role) (x : String × String) :
    Prop where
  package : (s.artifact role).file.package = (s.artifact importer).file.package
  module : (s.artifact role).file.module = x.1
  only : ∀ other, (s.artifact other).file.module = x.1 → other = role
  defines : x.2 ∈ Line.definitions (s.lines r role)

end Service

/-! ## Lines and text -/

namespace Step

def marks (steps : List Step) : List Piece := Line.marked (steps.map content)

@[simp] theorem marks_nil : marks [] = [] := rfl

@[simp] theorem marks_cons (step : Step) (steps : List Step) :
    marks (step :: steps) = step.content.filter Piece.isMark ++ marks steps := rfl

@[simp] theorem marks_append (xs ys : List Step) : marks (xs ++ ys) = marks xs ++ marks ys := by
  simp [marks, Line.marked]

@[simp] theorem marks_block (first : Line) (body : List Step) (last : String) :
    marks (block first body last) = first.filter Piece.isMark ++ marks body := by
  simp [block, content, Piece.isMark]

@[simp] theorem content_line (content : Line) : (line content).content = content := rfl

@[simp] theorem filter_content_plain (text : String) :
    (plain text).content.filter Piece.isMark = [] := rfl

@[simp] theorem marks_map_plain {α : Type} (f : α → String) (l : List α) :
    marks (l.map (fun a => plain (f a))) = [] := by
  induction l with
  | nil => rfl
  | cons a l ih => simp [ih]

theorem marks_flatMap {α : Type} (f : α → List Step) (l : List α) :
    marks (l.flatMap f) = l.flatMap (fun a => marks (f a)) := by
  induction l with
  | nil => rfl
  | cons a l ih => simp [ih]

theorem marks_separated {α : Type} (f : α → List Step) (l : List α) :
    marks (Renderer.separated (l.map f)) = l.flatMap (fun a => marks (f a)) := by
  induction l with
  | nil => rfl
  | cons a l ih =>
    cases l with
    | nil => simp [Renderer.separated]
    | cons b l =>
      simp only [List.map_cons, Renderer.separated, marks_append, marks_cons, filter_content_plain,
        List.nil_append, List.flatMap_cons] at ih ⊢
      rw [ih]

end Step

namespace Piece

@[simp] theorem isMark_text (t : String) : (text t).isMark = false := rfl

@[simp] theorem isMark_trait (name : String) : (trait name).isMark = true := by rfl

@[simp] theorem isMark_struct (name : String) : (struct name).isMark = true := by rfl

@[simp] theorem isMark_uses (module : String) (names : List String) :
    (uses module names).isMark = true := by rfl

@[simp] theorem isMark_named (name : String) : (named name).isMark = true := by rfl

end Piece

namespace Renderer

open Step (marks)

theorem marks_header_append (steps : List Step) : marks (header ++ steps) = marks steps := by
  have hheader : marks header = [] := rfl
  rw [Step.marks_append, hheader, List.nil_append]

@[simp] theorem marks_docLines (docs : List String) : marks (docLines docs) = [] :=
  Step.marks_map_plain docLine docs

@[simp] theorem marks_runtimeUse (r : Renderer) (items : List String) :
    marks (r.runtimeUse items) = [] := by
  simp [runtimeUse, allowUnused, Step.marks_flatMap]

@[simp] theorem isMark_siblingPiece (importer : String) (sibling : FileId) :
    (siblingPiece importer sibling).isMark = true := by
  unfold siblingPiece
  split <;> rfl

theorem marks_siblingUses (importer : String) (interface descriptor : FileId)
    (wrappers : List String) :
    marks (siblingUses importer interface descriptor wrappers) =
      (if interface.name = importer then [] else [.uses interface.module [interface.name]]) ++
        [.uses descriptor.module (descriptorNames descriptor wrappers)] := by
  unfold siblingUses
  split <;> simp

theorem marks_interfaceSteps (r : Renderer) (a : InterfaceArtifact) :
    marks (r.interfaceSteps a) = [.trait a.name] := by
  have hmethods : marks (separated (a.methods.map signatureSteps)) = [] := by
    simp [Step.marks_separated, signatureSteps]
  simp [interfaceSteps, hmethods]

theorem marks_descriptorSteps (r : Renderer) (a : DescriptorArtifact) :
    marks (r.descriptorSteps a) = (a.wrappers.map (·.name) ++ [a.name]).map .struct := by
  have hwrapper : ∀ w, marks (wrapperSteps w) = [.struct w.name] := by
    intro w
    simp [wrapperSteps]
  have hentries : marks (a.entries.flatMap entrySteps) = [] := by
    simp [Step.marks_flatMap, entrySteps]
  have hfields : marks (a.entries.map fieldStep) = [] := Step.marks_map_plain _ _
  have hwrappers : marks (a.wrappers.flatMap wrapperSteps) = a.wrappers.map (.struct ·.name) := by
    simp only [Step.marks_flatMap, hwrapper, List.map_eq_flatMap]
  unfold descriptorSteps
  split <;> simp [hentries, hfields, hwrappers]

theorem flatMap_toList {α β γ : Type} (f : α → Option β) (g : β → γ) (l : List α) :
    l.flatMap (fun a => (f a).toList.map g) = (l.filterMap f).map g := by
  induction l with
  | nil => rfl
  | cons a l ih => cases hf : f a <;> simp [hf, ih]

theorem marks_clientMethodSteps (m : ClientMethod) :
    marks (clientMethodSteps m) = (argumentWrapper? m.argument).toList.map .named := by
  cases hm : m.argument <;> simp [clientMethodSteps, argumentLine, argumentWrapper?, hm]

theorem marks_clientSteps (r : Renderer) (a : ClientArtifact) :
    marks (r.clientSteps a) =
      marks (siblingUses a.name a.interface a.descriptor
        (a.methods.filterMap (fun m => argumentWrapper? m.argument))) ++
      [.struct a.name, .named a.descriptor.name, .named a.descriptor.name,
        siblingPiece a.name a.interface] ++
      (a.methods.filterMap (fun m => argumentWrapper? m.argument)).map .named := by
  simp [clientSteps, Step.marks_separated, marks_clientMethodSteps, flatMap_toList]

/-- The handler of a record names it, since the request is of that type. -/
theorem marks_bindingSteps (m : Method) :
    marks (bindingSteps m.providerBinding) = m.request.wrapper?.toList.map .named := by
  cases hr : m.request <;> cases hs : m.kind.mustSuspend <;> cases hq : m.kind.streamsRequests <;>
    simp [bindingSteps, handlerParam, requestPiece, Method.providerBinding, Method.adapter,
      Method.requestType, RequestShape.type, RequestShape.wrapper?, TypeRef.named, TypeRef.display,
      hr, hs, hq]

theorem marks_providerSteps (r : Renderer) (a : ProviderArtifact) :
    marks (r.providerSteps a) =
      marks (siblingUses a.name a.interface a.descriptor
        (a.bindings.filterMap (fun b => adapterWrapper? b.adapter))) ++
      [.trait a.name, .named a.interface.name, .named a.descriptor.name] ++
      a.bindings.flatMap (fun b => marks (bindingSteps b)) := by
  simp [providerSteps, Step.marks_flatMap]

end Renderer

/-! ## The files of a service -/

namespace Service

open Line (marked definitions imports names)

theorem client_wrappers (s : Service) :
    s.clientArtifact.methods.filterMap (fun m => Renderer.argumentWrapper? m.argument) =
      s.wrapperNames := by
  rw [clientArtifact, wrapperNames, List.filterMap_map]
  apply List.filterMap_congr
  intro m _
  simp only [Function.comp, Method.clientMethod, Method.argument]
  cases m.request <;> rfl

theorem provider_wrappers (s : Service) :
    s.providerArtifact.bindings.filterMap (fun b => Renderer.adapterWrapper? b.adapter) =
      s.wrapperNames := by
  rw [providerArtifact, wrapperNames, List.filterMap_map]
  apply List.filterMap_congr
  intro m _
  simp only [Function.comp, Method.providerBinding, Method.adapter]
  cases m.request <;> rfl

theorem descriptor_wrappers (s : Service) :
    s.descriptorArtifact.wrappers.map (·.name) = s.wrapperNames := by
  rw [descriptorArtifact, wrapperNames, List.map_filterMap]
  exact List.filterMap_congr (fun m _ => record?_wrapper? m)

def descriptorNames (s : Service) : List String :=
  Renderer.descriptorNames s.descriptorFile s.wrapperNames

def descriptorImports (s : Service) : List (String × String) :=
  s.descriptorNames.map (s.descriptorFile.module, ·)

variable (r : Renderer) (s : Service)

theorem marked_lines (role : Role) :
    marked (s.lines r role) = Step.marks (r.steps (s.artifact role)) := rfl

theorem marked_interface : marked (s.lines r .interface) = [.trait s.name] := by
  rw [marked_lines, artifact, Renderer.steps, Renderer.marks_header_append,
    Renderer.marks_interfaceSteps]
  rfl

theorem marked_descriptor :
    marked (s.lines r .descriptor) = (s.wrapperNames ++ [s.descriptorName]).map .struct := by
  rw [marked_lines, artifact, Renderer.steps, Renderer.marks_header_append,
    Renderer.marks_descriptorSteps, descriptor_wrappers]
  rfl

theorem definitions_interface : definitions (s.lines r .interface) = [s.name] := by
  rw [definitions, marked_interface]
  rfl

theorem definitions_descriptor :
    definitions (s.lines r .descriptor) = s.wrapperNames ++ [s.descriptorName] := by
  rw [definitions, marked_descriptor, List.filterMap_map]
  exact List.filterMap_some

theorem marked_client :
    marked (s.lines r .client) =
      List.flatten [
        if s.name = s.clientName then [] else [.uses s.interfaceFile.module [s.name]],
        [.uses s.descriptorFile.module s.descriptorNames,
          .struct s.clientName, .named s.descriptorName, .named s.descriptorName,
          if s.name = s.clientName then .byPath s.interfaceFile.module s.name else .named s.name],
        s.wrapperNames.map .named] := by
  rw [marked_lines, artifact, Renderer.steps, Renderer.marks_header_append,
    Renderer.marks_clientSteps, Renderer.marks_siblingUses, client_wrappers]
  by_cases hname : s.name = s.clientName <;>
    simp [hname, clientArtifact, descriptorNames, Renderer.siblingPiece, interfaceFile,
      descriptorFile, FileId.of]

theorem marked_provider :
    marked (s.lines r .provider) =
      List.flatten [
        if s.name = s.providerName then [] else [.uses s.interfaceFile.module [s.name]],
        [.uses s.descriptorFile.module s.descriptorNames,
          .trait s.providerName, .named s.name, .named s.descriptorName],
        s.wrapperNames.map .named] := by
  have hbindings : s.providerArtifact.bindings.flatMap (fun b => Step.marks
      (Renderer.bindingSteps b)) = s.wrapperNames.map .named := by
    simp only [providerArtifact, List.flatMap_map, Renderer.marks_bindingSteps,
      Renderer.flatMap_toList, wrapperNames]
  rw [marked_lines, artifact, Renderer.steps, Renderer.marks_header_append,
    Renderer.marks_providerSteps, Renderer.marks_siblingUses, provider_wrappers,
    hbindings]
  by_cases hname : s.name = s.providerName <;>
    simp [hname, providerArtifact, descriptorNames, interfaceFile, descriptorFile, FileId.of]

theorem imports_named (names : List String) : (names.map Piece.named).flatMap Piece.imports = [] :=
  List.flatMap_eq_nil_iff.mpr (by simp [Piece.imports])

theorem definitions_client : definitions (s.lines r .client) = [s.clientName] := by
  rw [definitions, marked_client]
  split <;> simp [List.filterMap_cons, List.filterMap_map, Function.comp_def, Piece.defined?]

theorem definitions_provider : definitions (s.lines r .provider) = [s.providerName] := by
  rw [definitions, marked_provider]
  split <;> simp [List.filterMap_cons, List.filterMap_map, Function.comp_def, Piece.defined?]

theorem imports_client :
    imports (s.lines r .client) =
      (if s.name = s.clientName then [] else [(s.interfaceFile.module, s.name)]) ++
        s.descriptorImports := by
  rw [imports, marked_client]
  split <;> simp [imports_named, Piece.imports, descriptorImports]

theorem imports_provider :
    imports (s.lines r .provider) =
      (if s.name = s.providerName then [] else [(s.interfaceFile.module, s.name)]) ++
        s.descriptorImports := by
  rw [imports, marked_provider]
  split <;> simp [imports_named, Piece.imports, descriptorImports]

theorem mem_descriptorNames (name : String) :
    name ∈ s.descriptorNames ↔ name = s.descriptorName ∨ name ∈ s.wrapperNames := by
  rw [descriptorNames, Renderer.descriptorNames, SortedMap.mem_sortKeys, List.mem_append,
    List.mem_singleton, or_comm]
  rfl

theorem mem_descriptorImports (x : String × String) :
    x ∈ s.descriptorImports ↔
      x.1 = s.descriptorFile.module ∧ (x.2 = s.descriptorName ∨ x.2 ∈ s.wrapperNames) := by
  obtain ⟨module, name⟩ := x
  rw [← mem_descriptorNames, descriptorImports, List.mem_map]
  constructor
  · rintro ⟨name, hname, heq⟩
    cases heq
    exact ⟨rfl, hname⟩
  · rintro ⟨rfl, hname⟩
    exact ⟨name, hname, rfl⟩

theorem mem_descriptorImports_of_name {name : String}
    (h : name = s.descriptorName ∨ name ∈ s.wrapperNames) :
    (s.descriptorFile.module, name) ∈ s.descriptorImports :=
  (s.mem_descriptorImports _).mpr ⟨rfl, h⟩

end Service

namespace Built

variable {d : Declaration} {s : Service}

theorem role_of_module (h : Built d s) {a b : Role}
    (hab : (s.artifact a).file.module = (s.artifact b).file.module) : a = b := by
  have hmem : ∀ role, (role, (s.artifact role).file) ∈ s.files := by
    intro role
    cases role <;> simp [Service.files, Service.artifact, Artifact.file,
      Service.interfaceArtifact, Service.clientArtifact, Service.providerArtifact,
      Service.descriptorArtifact]
  have hfiles := List.inj_on_of_nodup_map h.modules_nodup (hmem a) (hmem b) hab
  exact congrArg Prod.fst hfiles

theorem names_ne (h : Built d s) : s.name ≠ s.providerName ∧ s.name ≠ s.descriptorName ∧
    s.clientName ≠ s.providerName ∧ s.clientName ≠ s.descriptorName ∧
    s.providerName ≠ s.descriptorName := by
  have hclient : s.clientFile.name = s.clientName := by
    unfold Service.clientFile
    simp only
    split <;> rfl
  have hfiles := h.files
  simp only [Service.files, List.pairwise_cons, List.mem_cons, List.not_mem_nil, or_false,
    forall_eq_or_imp, forall_eq, sharedName?_eq_none, hclient] at hfiles
  obtain ⟨⟨-, ⟨hip, -⟩, hid, -⟩, ⟨⟨hcp, -⟩, hcd, -⟩, ⟨hpd, -⟩, -⟩ := hfiles
  refine ⟨?_, ?_, ?_, ?_, ?_⟩ <;> intro heq
  · cases hip heq
  · cases hid heq
  · cases hcp heq
  · cases hcd heq
  · cases hpd heq

theorem provides_interface (r : Renderer) (h : Built d s) {importer : Role}
    (hpackage : (s.artifact importer).file.package = s.package) :
    s.Provides r importer .interface (s.interfaceFile.module, s.name) where
  package := hpackage.symm
  module := rfl
  only := fun _ hother => h.role_of_module (b := .interface) hother
  defines := by simp [Service.definitions_interface]

theorem provides_descriptor (r : Renderer) (h : Built d s) {importer : Role}
    (hpackage : (s.artifact importer).file.package = s.package) {x : String × String}
    (hx : x ∈ s.descriptorImports) : s.Provides r importer .descriptor x := by
  obtain ⟨hmodule, hname⟩ := (s.mem_descriptorImports x).mp hx
  constructor
  case package => exact hpackage.symm
  case module => exact hmodule.symm
  case only => exact fun _ hother => h.role_of_module (b := .descriptor) (hother.trans hmodule)
  case defines =>
    rw [Service.definitions_descriptor, List.mem_append, List.mem_singleton]
    exact hname.symm

theorem resolves (r : Renderer) (h : Built d s) {importer : Role}
    (hpackage : (s.artifact importer).file.package = s.package) {x : String × String}
    (hx : x = (s.interfaceFile.module, s.name) ∨ x ∈ s.descriptorImports) :
    (x.2 = s.name ∧ s.Provides r importer .interface x) ∨
    ((x.2 = s.descriptorName ∨ x.2 ∈ s.wrapperNames) ∧ s.Provides r importer .descriptor x) := by
  rcases hx with rfl | hx
  · exact .inl ⟨rfl, h.provides_interface r hpackage⟩
  · exact .inr ⟨((s.mem_descriptorImports x).mp hx).2, h.provides_descriptor r hpackage hx⟩

end Built

end RpcStubs
