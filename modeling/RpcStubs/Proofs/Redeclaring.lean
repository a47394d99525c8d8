import RpcStubs.Proofs.Shapes

/-!
# Methods declared again

A classified method has all that its declaration says: the interface shows the declared parameters
and return type, and the method can be declared again from what was kept of it. Only the path in
front of a stream that is sent is lost.
-/

namespace RpcStubs

/-! ## What the interface shows -/

/-- How a declared type is shown in the interface. A stream that is sent loses its path. -/
inductive ShownAs : Bool → TypeRef → TypeRef → Prop where
  | plain (type : TypeRef) : ShownAs false type type
  | stream {type element : TypeRef} : type.IsStreamOf element →
      ShownAs true type (.streamOf element)

/-- The marker of a method's kind. It has an argument only for a wire name that is not the declared
name. -/
def Method.marker (m : Method) : Marker where
  name := m.kind.markerName
  args := if m.wireName = m.name then .empty else .ofList [(Marker.nameKey, m.wireName)]

/-- The declaration of a classified method, from what was kept of it. -/
def Method.redeclared (m : Method) : MethodDecl where
  name := m.name
  markers := [m.marker]
  params := m.params
  returnType := some m.returnType
  isAsync := m.mustSuspend
  docs := m.docs

theorem Classified.shown_params {d : MethodDecl} {m : Method} (h : Classified d m) :
    List.Forall₂ (fun declared shown => shown.name = declared.name ∧
      ShownAs m.kind.streamsRequests declared.type shown.type) d.params m.params := by
  rcases h.params_cases with ⟨hkind, hparams⟩ | ⟨hkind, p, element, hp, hstream, hparams⟩
  · rw [hkind, hparams, List.forall₂_same]
    exact fun p _ => ⟨rfl, .plain _⟩
  · rw [hkind, hparams, hp]
    exact .cons ⟨rfl, .stream hstream⟩ .nil

theorem Classified.shown_return {d : MethodDecl} {m : Method} (h : Classified d m) :
    ShownAs m.kind.streamsResponses (d.returnType.getD .unit) m.returnType := by
  rcases h.returnType_cases with ⟨hkind, hreturn⟩ | ⟨hkind, type, element, htype, hstream, hreturn⟩
  · rw [hkind, hreturn]
    exact .plain _
  · rw [hkind, hreturn, htype]
    exact .stream hstream

/-! ## The marker -/

theorem CallKind.ofMarker?_markerName (kind : CallKind) :
    CallKind.ofMarker? kind.markerName = some kind := by
  cases kind <;> decide

theorem Text.trim_trim (cs : List Char) : Text.trim (Text.trim cs) = Text.trim cs := by
  have hend : ∀ l, Text.trimEnd l = l.rdropWhile Text.isBlank := fun _ => rfl
  have hstart : Text.trimStart (Text.trim cs) = Text.trim cs := by
    cases htrim : Text.trim cs with
    | nil => rfl
    | cons c tail =>
      -- What is left begins with the first character that is not blank.
      obtain ⟨rest, hrest⟩ : c :: tail <+: Text.trimStart cs := by
        rw [← htrim, Text.trim, hend]
        exact List.rdropWhile_prefix _ _
      have hhead := List.head?_dropWhile_not Text.isBlank cs
      rw [← Text.trimStart, ← hrest] at hhead
      have hc : Text.isBlank c = false := hhead
      simp [Text.trimStart, hc]
  rw [Text.trim, hstart, Text.trim, hend, hend, List.rdropWhile_idempotent]

theorem Marker.arg_of_trimmed {value : List Char} (hvalue : value ≠ [])
    (htrim : Text.trim value = value) (name : String) :
    Marker.arg ⟨name, .ofList [(Marker.nameKey, String.ofList value)]⟩ Marker.nameKey =
      some (String.ofList value) := by
  have hget : (SortedMap.ofList [(Marker.nameKey, String.ofList value)]).get? Marker.nameKey =
      some (String.ofList value) := rfl
  simp [Marker.arg, hget, htrim, hvalue]

theorem Classified.wireName_cases {d : MethodDecl} {m : Method} (h : Classified d m) :
    m.wireName = m.name ∨
      ∃ value, value ≠ [] ∧ Text.trim value = value ∧ m.wireName = String.ofList value := by
  obtain ⟨marker, -, hwire⟩ := h.kind
  rw [Marker.arg] at hwire
  split at hwire
  · rw [h.name]
    exact Or.inl hwire
  · simp only at hwire
    split at hwire
    · rw [h.name]
      exact Or.inl hwire
    · rename_i hempty
      refine Or.inr ⟨_, ?_, Text.trim_trim _, hwire⟩
      simpa using hempty

theorem Classified.wireName_marker {d : MethodDecl} {m : Method} (h : Classified d m) :
    m.wireName = (m.marker.arg Marker.nameKey).getD m.name := by
  rw [Method.marker]
  split
  · rename_i hsame
    exact hsame
  · rename_i hother
    rcases h.wireName_cases with hsame | ⟨value, hvalue, htrim, hwire⟩
    · exact absurd hsame hother
    · rw [hwire, Marker.arg_of_trimmed hvalue htrim, Option.getD_some]

theorem kindOf_redeclared (m : Method) :
    Method.kindOf m.redeclared = .ok (m.kind, m.marker) := by
  have hkind : m.marker.callKind? = some m.kind := CallKind.ofMarker?_markerName m.kind
  simp only [Method.kindOf, MethodDecl.kindMarkers, Method.redeclared, List.filterMap_cons, hkind,
    Option.map_some, List.filterMap_nil]

/-! ## Classification of the new declaration -/

theorem TypeRef.isStreamOf_streamOf (element : TypeRef) :
    (TypeRef.streamOf element).IsStreamOf element :=
  ⟨Or.inl rfl, rfl⟩

theorem responseOf_returnType (m : Method) :
    Method.responseOf m.kind (some m.returnType) = .ok m.response := by
  rw [responseOf_eq_ok, Method.returnType]
  cases hkind : m.kind.streamsResponses with
  | true => exact Or.inl ⟨rfl, _, rfl, TypeRef.isStreamOf_streamOf _⟩
  | false => exact Or.inr ⟨rfl, rfl⟩

theorem Classified.resolve_params {d : MethodDecl} {m : Method} (h : Classified d m) :
    RequestShape.resolve d.name m.params m.kind.streamsRequests = .ok m.request := by
  rcases h.params_cases with ⟨-, hparams⟩ | ⟨hkind, p, element, hp, hstream, hparams⟩
  · rw [hparams]
    exact h.request
  · have hrequest := h.request
    rw [hkind, hp, (resolve_of_resolved (.stream p element hstream))] at hrequest
    rw [hkind, hparams, ← hrequest]
    exact resolve_of_resolved (.stream _ element (TypeRef.isStreamOf_streamOf element))

theorem Classified.redeclared {d : MethodDecl} {m : Method} (h : Classified d m) :
    Classified m.redeclared m := by
  constructor
  case kind => exact ⟨m.marker, kindOf_redeclared m, h.wireName_marker⟩
  case suspends => rfl
  case response => exact responseOf_returnType m
  case request =>
    have hrequest := h.resolve_params
    rwa [← h.name] at hrequest
  case name => rfl
  case docs => rfl

/-- The interface of a classified method has the declared name, parameters and return type, where a
stream that is sent loses its path, and it suspends as declared. Declared again from what was kept,
the method is classified as the same method. -/
theorem classify_loses_nothing (d : MethodDecl) (m : Method) (h : Method.classify d = .ok m) :
    m.name = d.name ∧
    List.Forall₂ (fun declared shown => shown.name = declared.name ∧
      ShownAs m.kind.streamsRequests declared.type shown.type) d.params m.params ∧
    ShownAs m.kind.streamsResponses (d.returnType.getD .unit) m.returnType ∧
    m.mustSuspend = d.isAsync ∧ m.docs = d.docs ∧
    Method.classify m.redeclared = .ok m := by
  have hc := (classify_eq_ok d m).mp h
  exact ⟨hc.name, hc.shown_params, hc.shown_return, hc.suspends, hc.docs,
    (classify_eq_ok ..).mpr hc.redeclared⟩

def watch : MethodDecl where
  name := "watch"
  markers := [⟨"deprecated", .empty⟩, ⟨"bidi_stream", .ofList [(Marker.nameKey, " Watch\t")]⟩]
  params := [⟨"events", ⟨"futures::Stream", [.named "Event"]⟩⟩]
  returnType := some ⟨"std::io::Stream", [⟨"io::Stream", [.named "u8"]⟩]⟩
  isAsync := false
  docs := ["Watches."]

theorem classify_loses_nothing_watch :
    ∃ m, Method.classify watch = .ok m ∧ m.wireName = "Watch" ∧
      m.params = [⟨"events", .streamOf (.named "Event")⟩] ∧
      m.returnType = .streamOf ⟨"io::Stream", [.named "u8"]⟩ ∧
      Method.classify m.redeclared = .ok m := by
  have hclassify : Method.classify watch = .ok ⟨"watch", "Watch", .bidiStream,
      .single "events" (.named "Event"), ⟨"io::Stream", [.named "u8"]⟩, ["Watches."]⟩ := by
    decide +kernel
  obtain ⟨-, -, -, -, -, hagain⟩ := classify_loses_nothing watch _ hclassify
  exact ⟨_, hclassify, rfl, rfl, rfl, hagain⟩

end RpcStubs
