import RpcStubs.Artifact.Synthesis
import RpcStubs.Proofs.Shapes

/-!
# The artifacts of a service agree

Each artifact has one item for each method, in the same order, and the four items of a method
fit together.
-/

namespace RpcStubs

/-! ## Agreement -/

/-- A stream of `element` exactly if `streams` holds, and else `element` itself. -/
def Carries (streams : Bool) (element whole : TypeRef) : Prop :=
  (whole = TypeRef.streamOf element ↔ streams = true) ∧ (streams = false → whole = element)

/-- The parameters of a signature, the argument of the client and the adapter of the provider
carry the same request. A record is found in `wrappers` under its name, and only once. -/
inductive RequestsAgree (kind : CallKind) (request : TypeRef) (wrappers : List Wrapper) :
    List Parameter → CallArgument → Adapter → Prop where
  | nothing : request = TypeRef.unit → RequestsAgree kind request wrappers [] .unit .zeroArg
  | single (p : Parameter) : Carries kind.streamsRequests request p.type →
      RequestsAgree kind request wrappers [p] (.forward p.name) .passThrough
  | record (w : Wrapper) : request = TypeRef.named w.name →
      wrappers.filter (·.name = w.name) = [w] →
      RequestsAgree kind request wrappers w.fields (.wrapper w.name (w.fields.map (·.name)))
        (.destructure w.name (w.fields.map (·.name)))

/-- The four items that are made for a declared method. -/
structure ItemsAgree (d : MethodDecl) (wrappers : List Wrapper) (signature : Signature)
    (entry : DescriptorEntry) (call : ClientMethod) (binding : ProviderBinding) : Prop where
  declared : ∃ m, Method.classify d = .ok m ∧ entry.kind = m.kind ∧
    entry.requestType = m.requestType ∧ entry.responseType = m.response
  signatures : call.signature = signature
  name : signature.name = d.name
  paramNames : signature.params.map (·.name) = d.params.map (·.name)
  entryName : entry.method = d.name
  callEntry : call.entry = entry.method
  bindingEntry : binding.entry = entry.method
  bindingMethod : binding.method = entry.method
  kinds : call.kind = entry.kind ∧ binding.kind = entry.kind
  requestTypes : call.requestType = entry.requestType ∧ binding.requestType = entry.requestType
  responseTypes :
    call.responseType = entry.responseType ∧ binding.responseType = entry.responseType
  requests : RequestsAgree entry.kind entry.requestType wrappers signature.params call.argument
    binding.adapter
  returns : Carries entry.kind.streamsResponses entry.responseType signature.returns

/-- The artifacts of a declaration have one item for each of its methods, at the method's
place. -/
def ArtifactsAgree (d : Declaration) (artifacts : List Artifact) : Prop :=
  ∃ interface descriptor client provider,
    artifacts = [.interface interface, .descriptor descriptor, .client client,
      .provider provider] ∧
    client.interface = interface.file ∧ client.descriptor = descriptor.file ∧
    provider.interface = interface.file ∧ provider.descriptor = descriptor.file ∧
    interface.methods.length = d.methods.length ∧ descriptor.entries.length = d.methods.length ∧
    client.methods.length = d.methods.length ∧ provider.bindings.length = d.methods.length ∧
    ∀ (i : Nat) (method : MethodDecl), d.methods[i]? = some method →
      ∃ signature entry call binding,
        interface.methods[i]? = some signature ∧ descriptor.entries[i]? = some entry ∧
        client.methods[i]? = some call ∧ provider.bindings[i]? = some binding ∧
        ItemsAgree method descriptor.wrappers signature entry call binding

/-! ## Streams -/

theorem streamOf_ne (t : TypeRef) : t ≠ TypeRef.streamOf t := by
  intro h
  have := congrArg sizeOf h
  simp [TypeRef.streamOf] at this
  omega

theorem carries_ite (streams : Bool) (t : TypeRef) :
    Carries streams t (if streams then TypeRef.streamOf t else t) := by
  cases streams with
  | false => simp [Carries, streamOf_ne]
  | true => simp [Carries]

/-! ## Entries of the descriptor -/

/-- What an entry takes from its method, codecs aside. -/
structure EntryOf (m : Method) (entry : DescriptorEntry) : Prop where
  method : entry.method = m.name
  wireName : entry.wireName = m.wireName
  kind : entry.kind = m.kind
  requestType : entry.requestType = m.requestType
  responseType : entry.responseType = m.response

theorem descriptorEntries_entryOf (table : CodecTable) (ms : List Method) :
    List.Forall₂ EntryOf ms (Service.descriptorEntries table ms).1 := by
  induction ms generalizing table with
  | nil => exact .nil
  | cons m rest ih => exact .cons ⟨rfl, rfl, rfl, rfl, rfl⟩ (ih _)

theorem descriptorArtifact_entries (s : Service) :
    List.Forall₂ EntryOf s.methods s.descriptorArtifact.entries :=
  descriptorEntries_entryOf [] s.methods

/-! ## Records of the descriptor -/

theorem record?_wrapper? (m : Method) : m.record?.map (·.name) = m.request.wrapper? := by
  unfold Method.record? RequestShape.wrapper?
  cases m.request <;> rfl

theorem records_pairwise (ms : List Method) (h : ms.Pairwise Apart) :
    (ms.filterMap Method.record?).Pairwise (fun v w => v.name ≠ w.name) := by
  apply h.filterMap
  intro e m hem v hv w hw heq
  apply hem.1 w.name
  · rw [← record?_wrapper?, hw]; rfl
  · rw [← record?_wrapper?, hv, ← heq]; rfl

theorem filter_eq_singleton {α β : Type} [DecidableEq β] (f : α → β) (l : List α) (a : α)
    (hp : l.Pairwise (fun x y => f x ≠ f y)) (ha : a ∈ l) :
    l.filter (fun x => f x = f a) = [a] := by
  induction l with
  | nil => cases ha
  | cons x rest ih =>
    obtain ⟨hx, hrest⟩ := List.pairwise_cons.mp hp
    rcases List.mem_cons.mp ha with rfl | ha
    · rw [List.filter_cons_of_pos (by simp), List.filter_eq_nil_iff.mpr]
      intro y hy
      simpa using (hx y hy).symm
    · rw [List.filter_cons_of_neg (by simpa using hx a ha)]
      exact ih hrest ha

theorem record_unique (ms : List Method) (h : ms.Pairwise Apart) (m : Method) (hm : m ∈ ms)
    (w : Wrapper) (hw : m.record? = some w) :
    (ms.filterMap Method.record?).filter (·.name = w.name) = [w] :=
  filter_eq_singleton (·.name) _ w (records_pairwise ms h) (List.mem_filterMap.mpr ⟨m, hm, hw⟩)

/-! ## Requests -/

theorem requestsAgree_method (ms : List Method) (h : ms.Pairwise Apart) (m : Method)
    (hm : m ∈ ms) :
    RequestsAgree m.kind m.requestType (ms.filterMap Method.record?) m.params m.argument
      m.adapter := by
  have hrecord := record_unique ms h m hm
  unfold Method.record? at hrecord
  unfold Method.requestType Method.params Method.argument Method.adapter
  cases hr : m.request with
  | none => exact .nothing rfl
  | single name type => exact .single ⟨name, _⟩ (carries_ite _ _)
  | composite params wrapper =>
    rw [hr] at hrecord
    exact .record ⟨wrapper, params⟩ rfl (hrecord _ rfl)

theorem itemsAgree_method (d : MethodDecl) (ms : List Method) (h : ms.Pairwise Apart)
    (m : Method) (hm : m ∈ ms) (hd : Classified d m) (entry : DescriptorEntry)
    (he : EntryOf m entry) :
    ItemsAgree d (ms.filterMap Method.record?) m.signature entry m.clientMethod
      m.providerBinding where
  declared := ⟨m, (classify_eq_ok d m).mpr hd, he.kind, he.requestType, he.responseType⟩
  signatures := rfl
  name := hd.name
  paramNames := hd.params_names
  entryName := he.method.trans hd.name
  callEntry := he.method.symm
  bindingEntry := he.method.symm
  bindingMethod := he.method.symm
  kinds := ⟨he.kind.symm, he.kind.symm⟩
  requestTypes := ⟨he.requestType.symm, he.requestType.symm⟩
  responseTypes := ⟨he.responseType.symm, he.responseType.symm⟩
  requests := by
    rw [he.kind, he.requestType]
    exact requestsAgree_method ms h m hm
  returns := by
    rw [he.kind, he.responseType]
    exact carries_ite _ _

/-! ## All artifacts -/

/-- The artifacts of every accepted declaration agree, method by method. -/
theorem artifacts_agree (d : Declaration) (s : Service) (h : Service.build d = .ok s) :
    ArtifactsAgree d s.artifacts := by
  have hb := (build_eq_ok d s).mp h
  have hentries := descriptorArtifact_entries s
  have hlen := hb.methods.length_eq
  refine ⟨s.interfaceArtifact, s.descriptorArtifact, s.clientArtifact, s.providerArtifact, rfl,
    rfl, rfl, rfl, rfl, ?_, ?_, ?_, ?_, ?_⟩
  · simp [Service.interfaceArtifact, hlen]
  · rw [← hentries.length_eq, hlen]
  · simp [Service.clientArtifact, hlen]
  · simp [Service.providerArtifact, hlen]
  · intro i method hi
    obtain ⟨m, hm, hc⟩ := forall₂_getElem? hb.methods hi
    obtain ⟨entry, he, heo⟩ := forall₂_getElem? hentries hm
    refine ⟨m.signature, entry, m.clientMethod, m.providerBinding, ?_, he, ?_, ?_, ?_⟩
    · simp [Service.interfaceArtifact, hm]
    · simp [Service.clientArtifact, hm]
    · simp [Service.providerArtifact, hm]
    · exact itemsAgree_method method s.methods hb.apart m (List.mem_of_getElem? hm) hc entry heo

def orders : Declaration where
  name := "OrderService"
  package := "shop::orders"
  kind := .interface
  markers := [⟨Marker.service, .ofList [(Marker.nameKey, "Orders")]⟩]
  methods := [
    ⟨"create", [⟨"unary", .empty⟩],
      [⟨"customer", .named "String"⟩, ⟨"items", ⟨"Vec", [.named "Item"]⟩⟩,
        ⟨"express", .named "bool"⟩],
      some (.named "Order"), true, []⟩,
    ⟨"upload", [⟨"client_stream", .empty⟩], [⟨"chunks", .streamOf (.named "u8")⟩], none, true, []⟩,
    ⟨"watch", [⟨"server_stream", .empty⟩], [⟨"customer", .named "String"⟩, ⟨"since", .named "u64"⟩],
      some (.streamOf (.named "Order")), false, []⟩,
    ⟨"ping", [⟨"unary", .empty⟩], [], none, true, []⟩]
  docs := []

theorem artifacts_agree_orders :
    ∃ s, Service.build orders = .ok s ∧ ArtifactsAgree orders s.artifacts := by
  refine ⟨_, rfl, artifacts_agree orders _ rfl⟩

end RpcStubs
