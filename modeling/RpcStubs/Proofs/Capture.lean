import RpcStubs.Proofs.Linking
import RpcStubs.Proofs.Shapes

/-!
# Names that records take

The record of a method is named after the method. The name is checked against those of other
records only, so it can be that of another generated type or of a declared one.
-/

namespace RpcStubs

/-! ## Names of types -/

mutual

def TypeRef.names : TypeRef → List String
  | ⟨name, args⟩ => name :: argNames args

def TypeRef.argNames : List TypeRef → List String
  | [] => []
  | t :: ts => t.names ++ argNames ts

end

def MethodDecl.typeNames (d : MethodDecl) : List String :=
  d.params.flatMap (·.type.names) ++ d.returnType.toList.flatMap TypeRef.names

def Declaration.typeNames (d : Declaration) : List String := d.methods.flatMap MethodDecl.typeNames

def Signature.typeNames (s : Signature) : List String :=
  s.params.flatMap (·.type.names) ++ s.returns.names

/-- The type names that a file defines or takes from a sibling. -/
def Service.scope (r : Renderer) (s : Service) (role : Role) : List String :=
  Line.definitions (s.lines r role) ++ (Line.imports (s.lines r role)).map (·.2)

/-! ## Names of records -/

def IsRecordName (name : String) : Prop := ∃ method, name = RequestShape.wrapperName method

theorem getLast?_append_string (s t : String) (c : Char) (h : t.toList.getLast? = some c) :
    (s ++ t).toList.getLast? = some c := by
  rw [String.toList_append, List.getLast?_append, h]
  rfl

theorem IsRecordName.last {name : String} (h : IsRecordName name) :
    name.toList.getLast? = some 't' := by
  obtain ⟨method, rfl⟩ := h
  exact getLast?_append_string _ "Request" 't' (by decide)

theorem Classified.isRecordName {d : MethodDecl} {m : Method} (h : Classified d m) {w : String}
    (hw : m.request.wrapper? = some w) : IsRecordName w :=
  ⟨d.name, ((resolve_eq_ok ..).mp h.request).wrapper_name hw⟩

/-! ## Streams -/

/-- A record's name is in a stream if it is in the element, as no stream has such a name. -/
theorem TypeRef.IsStreamOf.mem_names {t element : TypeRef} (h : t.IsStreamOf element) {w : String}
    (hw : IsRecordName w) : w ∈ t.names ↔ w ∈ (TypeRef.streamOf element).names := by
  obtain ⟨hpath, hargs⟩ := h
  obtain ⟨name, args⟩ := t
  simp only at hpath hargs
  subst hargs
  have hlast : name.toList.getLast? = some 'm' := by
    rcases hpath with rfl | ⟨front, rfl⟩
    · rfl
    · exact getLast?_append_string front "::Stream" 'm' (by decide)
  have hname : w ≠ name := by
    rintro rfl
    rw [hw.last] at hlast
    cases hlast
  have hstream : w ≠ TypeRef.streamName := by
    rintro rfl
    cases hw.last
  simp [TypeRef.streamOf, TypeRef.names, hname, hstream]

/-! ## Declared types in signatures -/

namespace Classified

variable {d : MethodDecl} {m : Method} {w : String}

theorem mem_params (h : Classified d m) (hw : IsRecordName w) :
    w ∈ d.params.flatMap (·.type.names) ↔ w ∈ m.params.flatMap (·.type.names) := by
  rcases h.params_cases with ⟨-, hparams⟩ | ⟨-, p, element, hp, hstream, hparams⟩
  · rw [hparams]
  · simp [hparams, hp, hstream.mem_names hw]

theorem mem_returns (h : Classified d m) (hw : IsRecordName w) :
    w ∈ d.returnType.toList.flatMap TypeRef.names ↔ w ∈ m.returnType.names := by
  rcases h.returnType_cases with ⟨-, hreturn⟩ | ⟨-, type, element, htype, hstream, hreturn⟩
  · rw [hreturn]
    cases d.returnType with
    | some t => simp
    | none =>
      have hunit : w ≠ "()" := by
        rintro rfl
        cases hw.last
      simp [TypeRef.unit, TypeRef.named, TypeRef.names, TypeRef.argNames, hunit]
  · simp [hreturn, htype, hstream.mem_names hw]

theorem mem_signature (h : Classified d m) (hw : IsRecordName w) :
    w ∈ d.typeNames ↔ w ∈ m.signature.typeNames := by
  unfold MethodDecl.typeNames Signature.typeNames
  rw [List.mem_append, List.mem_append, h.mem_params hw, h.mem_returns hw]
  rfl

end Classified

/-! ## Scopes of files -/

namespace Service

variable (r : Renderer) (s : Service)

theorem descriptorNames_nodup : s.descriptorNames.Nodup :=
  (SortedMap.sortKeys_increasing _).imp (fun hlt => ne_of_lt hlt)

theorem scope_interface : s.scope r .interface = [s.name] := by
  rw [scope, definitions_interface, Line.imports, marked_interface]
  rfl

theorem scope_descriptor : s.scope r .descriptor = s.wrapperNames ++ [s.descriptorName] := by
  have himports : Line.imports (s.lines r .descriptor) = [] := by
    rw [Line.imports, marked_descriptor, List.flatMap_eq_nil_iff]
    rintro _ hpiece
    obtain ⟨name, -, rfl⟩ := List.mem_map.mp hpiece
    rfl
  rw [scope, definitions_descriptor, himports, List.map_nil, List.append_nil]

theorem map_descriptorImports : s.descriptorImports.map (·.2) = s.descriptorNames := by
  rw [descriptorImports, List.map_map]
  exact List.map_id _

theorem scope_client :
    s.scope r .client =
      s.clientName :: ((if s.name = s.clientName then [] else [s.name]) ++ s.descriptorNames) := by
  rw [scope, definitions_client, imports_client, List.map_append, map_descriptorImports]
  split <;> rfl

theorem scope_provider (h : s.name ≠ s.providerName) :
    s.scope r .provider = s.providerName :: s.name :: s.descriptorNames := by
  rw [scope, definitions_provider, imports_provider, if_neg h, List.map_append,
    map_descriptorImports]
  rfl

end Service

namespace Built

variable {d : Declaration} {s : Service}

theorem declared (h : Built d s) {m : Method} (hm : m ∈ s.methods) :
    ∃ decl ∈ d.methods, Classified decl m := by
  obtain ⟨i, hi⟩ := List.mem_iff_getElem?.mp hm
  obtain ⟨decl, hdecl, hc⟩ := forall₂_getElem? h.methods.flip hi
  exact ⟨decl, List.mem_of_getElem? hdecl, hc⟩

theorem isRecordName (h : Built d s) {w : String} (hw : w ∈ s.wrapperNames) : IsRecordName w := by
  obtain ⟨m, hm, hw⟩ := List.mem_filterMap.mp hw
  obtain ⟨decl, -, hc⟩ := h.declared hm
  exact hc.isRecordName hw

theorem wrapperNames_nodup (h : Built d s) : s.wrapperNames.Nodup := by
  rw [← s.descriptor_wrappers]
  exact List.pairwise_map.mpr (records_pairwise s.methods h.apart)

theorem descriptor_not_mem (h : Built d s) : s.descriptorName ∉ s.wrapperNames := by
  intro hmem
  have hlast := (h.isRecordName hmem).last
  obtain ⟨marker, -, hs⟩ := h.marker
  have hname : s.descriptorName = s.wireName ++ "Descriptor" := by
    rw [hs]
    rfl
  rw [hname, getLast?_append_string _ "Descriptor" 'r' (by decide)] at hlast
  cases hlast

theorem provider_not_mem (h : Built d s) {marker : Marker}
    (hmarker : d.marker? Marker.service = some marker)
    (hdefault : marker.arg Marker.providerKey = none) : s.providerName ∉ s.wrapperNames := by
  intro hmem
  have hlast := (h.isRecordName hmem).last
  obtain ⟨marker', hmarker', hs⟩ := h.marker
  cases hmarker.symm.trans hmarker'
  have hname : s.providerName = s.wireName ++ "Provider" := by
    rw [hs]
    simp only [Service.ofMarker, hdefault]
    rfl
  rw [hname, getLast?_append_string _ "Provider" 'r' (by decide)] at hlast
  cases hlast

theorem scopes_nodup_iff (r : Renderer) (h : Built d s) :
    (∀ role, (s.scope r role).Nodup) ↔
      s.name ∉ s.wrapperNames ∧ s.clientName ∉ s.wrapperNames ∧
        s.providerName ∉ s.wrapperNames := by
  obtain ⟨hip, hid, hcp, hcd, hpd⟩ := h.names_ne
  have hnames := s.descriptorNames_nodup
  constructor
  · intro hall
    -- The client and the provider take all records, so that these two files tell all three names.
    have hclient := hall .client
    have hprovider := hall .provider
    rw [s.scope_client] at hclient
    rw [s.scope_provider r hip] at hprovider
    simp only [List.nodup_cons, List.mem_cons, List.mem_append, not_or,
      s.mem_descriptorNames] at hclient hprovider
    exact ⟨hprovider.2.1.2, hclient.1.2.2, hprovider.1.2.2⟩
  · rintro ⟨hi, hc, hp⟩ role
    cases role with
    | interface => simp [s.scope_interface]
    | client =>
      rw [s.scope_client]
      split <;> simp_all [s.mem_descriptorNames, List.nodup_cons, eq_comm]
    | provider =>
      rw [s.scope_provider r hip]
      simp_all [s.mem_descriptorNames, List.nodup_cons, eq_comm]
    | descriptor =>
      rw [s.scope_descriptor, List.nodup_append_comm, List.singleton_append, List.nodup_cons]
      exact ⟨h.descriptor_not_mem, h.wrapperNames_nodup⟩

theorem mem_typeNames (h : Built d s) {w : String} (hw : IsRecordName w) :
    w ∈ d.typeNames ↔ ∃ call ∈ s.clientArtifact.methods, w ∈ call.signature.typeNames := by
  unfold Declaration.typeNames
  rw [List.mem_flatMap]
  constructor
  · rintro ⟨decl, hdecl, hmem⟩
    obtain ⟨i, hi⟩ := List.mem_iff_getElem?.mp hdecl
    obtain ⟨m, hm, hc⟩ := forall₂_getElem? h.methods hi
    refine ⟨m.clientMethod, List.mem_map_of_mem (List.mem_of_getElem? hm), ?_⟩
    exact (hc.mem_signature hw).mp hmem
  · rintro ⟨_, hcall, hmem⟩
    obtain ⟨m, hm, rfl⟩ := List.mem_map.mp hcall
    obtain ⟨decl, hdecl, hc⟩ := h.declared hm
    exact ⟨decl, hdecl, (hc.mem_signature hw).mpr hmem⟩

end Built

/-! ## Records and other types -/

/-- The client takes a record whose name is that of a type in one of its signatures. -/
def Service.TakesForRecord (r : Renderer) (s : Service) (name : String) : Prop :=
  name ∈ s.wrapperNames ∧ (s.descriptorFile.module, name) ∈ Line.imports (s.lines r .client) ∧
    ∃ call ∈ s.clientArtifact.methods, name ∈ call.signature.typeNames

/-- No record has the name of another record, of the descriptor, or of a provider that is named by
default. Names of the interface, the client and a provider named otherwise are not compared with
the records, and neither are those of declared types. So a file has each name once if and only if
no record has one of the first three, and no declared type is taken for a record if and only if
none has its name. -/
theorem records_capture_iff (r : Renderer) (d : Declaration) (s : Service)
    (h : Service.build d = .ok s) :
    s.wrapperNames.Nodup ∧ s.descriptorName ∉ s.wrapperNames ∧
    (∀ marker, d.marker? Marker.service = some marker →
      marker.arg Marker.providerKey = none → s.providerName ∉ s.wrapperNames) ∧
    ((∀ role, (s.scope r role).Nodup) ↔
      s.name ∉ s.wrapperNames ∧ s.clientName ∉ s.wrapperNames ∧
        s.providerName ∉ s.wrapperNames) ∧
    ∀ name, s.TakesForRecord r name ↔ name ∈ s.wrapperNames ∧ name ∈ d.typeNames := by
  have hb := (build_eq_ok d s).mp h
  refine ⟨hb.wrapperNames_nodup, hb.descriptor_not_mem,
    fun marker hmarker hdefault => hb.provider_not_mem hmarker hdefault,
    hb.scopes_nodup_iff r, ?_⟩
  intro name
  constructor
  · rintro ⟨hw, -, hmem⟩
    exact ⟨hw, (hb.mem_typeNames (hb.isRecordName hw)).mpr hmem⟩
  · rintro ⟨hw, hmem⟩
    refine ⟨hw, ?_, (hb.mem_typeNames (hb.isRecordName hw)).mp hmem⟩
    rw [s.imports_client]
    exact List.mem_append_right _ (s.mem_descriptorImports_of_name (.inr hw))

theorem records_capture_nothing_orders :
    ∃ s, Service.build orders = .ok s ∧ (∀ role, (s.scope .default role).Nodup) ∧
      ¬ s.TakesForRecord .default "CreateRequest" := by
  obtain ⟨-, -, -, hscopes, htypes⟩ := records_capture_iff .default orders _ rfl
  refine ⟨_, rfl, hscopes.mpr (by decide +kernel), ?_⟩
  rw [htypes]
  decide +kernel

/-- An interface that has the name of its method's record, as a type of the method has. -/
def nested : Declaration where
  name := "GetRequest"
  package := ""
  kind := .interface
  markers := [⟨Marker.service, .empty⟩]
  methods := [⟨"get", [⟨"unary", .empty⟩],
    [⟨"id", .named "u64"⟩, ⟨"after", ⟨"Vec", [.named "GetRequest"]⟩⟩], none, true, []⟩]
  docs := []

/-- It is accepted. The provider takes two types of one name, and the client takes the parameter's
type for the record. -/
theorem nested_name_captured :
    ∃ s, Service.build nested = .ok s ∧ s.name ∈ s.wrapperNames ∧
      ¬ (s.scope .default .provider).Nodup ∧ s.TakesForRecord .default "GetRequest" := by
  have hb := (build_eq_ok nested _).mp rfl
  refine ⟨_, rfl, by decide +kernel, ?_, ?_⟩
  · rw [Service.scope_provider _ _ (by decide +kernel)]
    decide +kernel
  · refine ⟨by decide +kernel, ?_, (hb.mem_typeNames ⟨"get", by decide +kernel⟩).mp (by decide)⟩
    rw [Service.imports_client]
    apply List.mem_append_right
    exact Service.mem_descriptorImports_of_name _ (.inr (by decide +kernel))

end RpcStubs
