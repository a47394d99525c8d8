import RpcStubs.Proofs.Build

/-!
# Shapes of methods

A method can be classified if it has one call-kind marker, is asynchronous as its kind asks for, and
has a stream wherever its kind sends one. Else the first of these that fails is reported.
-/

namespace RpcStubs

/-! ## Streams -/

namespace TypeRef

def IsStreamPath (path : String) : Prop := path = "Stream" ∨ ∃ front, path = front ++ "::Stream"

/-- A stream, qualified or not, whose only argument is `element`. -/
def IsStreamOf (type element : TypeRef) : Prop := IsStreamPath type.name ∧ type.args = [element]

theorem untilColons_eq_iff {cs segment : List Char} (hsegment : ':' ∉ segment) :
    Text.untilColons cs = segment ↔
      cs = segment ∨ ∃ rest, cs = segment ++ ':' :: ':' :: rest := by
  fun_induction Text.untilColons cs generalizing segment with
  | case1 rest =>
    cases segment with
    | nil => simp
    | cons c segment =>
      have hc : ':' ≠ c := by
        rintro rfl
        exact hsegment List.mem_cons_self
      simp [hc]
  | case2 c rest hcolons ih =>
    cases segment with
    | nil =>
      simp only [reduceCtorEq, List.nil_append, false_or, false_iff, not_exists]
      intro tail h
      cases h
      exact hcolons tail rfl rfl
    | cons d segment =>
      have hrest : ':' ∉ segment := fun h => hsegment (List.mem_cons_of_mem _ h)
      simp [ih hrest, and_or_left]
  | case3 => simp [eq_comm]

theorem baseName_eq_streamName_iff (type : TypeRef) :
    type.baseName = streamName ↔ IsStreamPath type.name := by
  have hchars : ∀ s t : String, s = t ↔ s.toList.reverse = t.toList.reverse := by
    intro s t
    rw [List.reverse_inj, String.toList_inj]
  have hfront : (∃ front, type.name = front ++ "::Stream") ↔
      ∃ rest, type.name.toList.reverse = "Stream".toList.reverse ++ ':' :: ':' :: rest := by
    constructor
    · rintro ⟨front, h⟩
      exact ⟨front.toList.reverse, by simp [h]⟩
    · rintro ⟨rest, h⟩
      refine ⟨String.ofList rest.reverse, (hchars _ _).mpr ?_⟩
      simpa using h
  rw [IsStreamPath, hfront, hchars type.name, ← untilColons_eq_iff (by decide), baseName, hchars,
    String.toList_ofList, Text.baseSegment, List.reverse_reverse, streamName]

theorem streamElement?_eq_some_iff (type element : TypeRef) :
    type.streamElement? = some element ↔ type.IsStreamOf element := by
  rw [IsStreamOf, ← baseName_eq_streamName_iff, streamElement?]
  split
  · rename_i e hargs
    simp only [Option.ite_none_right_eq_some, Option.some.injEq, hargs, List.cons.injEq, and_true]
  · rename_i hargs
    simp only [reduceCtorEq, false_iff, not_and]
    intro _ h
    exact hargs element h

theorem streamElement?_eq_none_iff (type : TypeRef) :
    type.streamElement? = none ↔ ∀ element, ¬ type.IsStreamOf element := by
  rw [Option.eq_none_iff_forall_ne_some]
  simp only [ne_eq, streamElement?_eq_some_iff]

end TypeRef

/-! ## Legal shapes -/

namespace MethodDecl

/-- The kinds that the markers of a method select, in order. Other markers do not count. -/
def kinds (d : MethodDecl) : List CallKind := d.markers.filterMap Marker.callKind?

def RespondsAs (d : MethodDecl) (kind : CallKind) : Prop :=
  kind.streamsResponses = true →
    ∃ type element, d.returnType = some type ∧ type.IsStreamOf element

def RequestsAs (d : MethodDecl) (kind : CallKind) : Prop :=
  kind.streamsRequests = true → ∃ p element, d.params = [p] ∧ p.type.IsStreamOf element

/-- A method that has the shape of its only kind. -/
structure Legal (d : MethodDecl) (kind : CallKind) : Prop where
  marker : d.kinds = [kind]
  suspends : d.isAsync = kind.mustSuspend
  responds : d.RespondsAs kind
  requests : d.RequestsAs kind

end MethodDecl

/-- The first fault of a method. Each case rules out those before it. -/
inductive FirstMethodFault (d : MethodDecl) : MethodError → Prop where
  | unannotated : d.kinds = [] → FirstMethodFault d .unannotated
  | conflicting : 2 ≤ d.kinds.length → FirstMethodFault d (.conflictingKinds d.kinds)
  | suspension (kind : CallKind) : d.kinds = [kind] → d.isAsync ≠ kind.mustSuspend →
      FirstMethodFault d (.suspension kind kind.mustSuspend)
  | response (kind : CallKind) : d.kinds = [kind] → d.isAsync = kind.mustSuspend →
      ¬ d.RespondsAs kind → FirstMethodFault d (.responseShape kind d.returnType)
  | missing (kind : CallKind) : d.kinds = [kind] → d.isAsync = kind.mustSuspend →
      d.RespondsAs kind → kind.streamsRequests = true → d.params = [] →
      FirstMethodFault d (.requestShape .missingStream)
  | notStream (kind : CallKind) (p : Parameter) : d.kinds = [kind] →
      d.isAsync = kind.mustSuspend → d.RespondsAs kind → kind.streamsRequests = true →
      d.params = [p] → (∀ element, ¬ p.type.IsStreamOf element) →
      FirstMethodFault d (.requestShape (.notStream p.type))
  | several (kind : CallKind) : d.kinds = [kind] → d.isAsync = kind.mustSuspend →
      d.RespondsAs kind → kind.streamsRequests = true → 2 ≤ d.params.length →
      FirstMethodFault d (.requestShape (.severalStreams d.params.length))

/-! ## Markers -/

theorem MethodDecl.kindMarkers_kinds (d : MethodDecl) : d.kindMarkers.map (·.1) = d.kinds := by
  rw [kindMarkers, kinds, List.map_filterMap]
  congr 1
  funext m
  cases m.callKind? <;> rfl

theorem kindOf_eq_ok (d : MethodDecl) (kind : CallKind) :
    (∃ marker, Method.kindOf d = .ok (kind, marker)) ↔ d.kinds = [kind] := by
  rw [← d.kindMarkers_kinds, Method.kindOf]
  split
  · rename_i h
    simp [h]
  · rename_i found h
    obtain ⟨k, marker⟩ := found
    simp [h]
  · rename_i hnil hone
    simp only [reduceCtorEq, exists_false, false_iff]
    intro h
    obtain ⟨found, hfound, -⟩ := List.map_eq_singleton_iff.mp h
    exact hone found hfound

theorem kindOf_eq_error (d : MethodDecl) (e : MethodError) :
    Method.kindOf d = .error e ↔
      (d.kinds = [] ∧ e = .unannotated) ∨
        (2 ≤ d.kinds.length ∧ e = .conflictingKinds d.kinds) := by
  rw [← d.kindMarkers_kinds, Method.kindOf]
  split
  · rename_i h
    simp [h, eq_comm]
  · rename_i found h
    simp [h]
  · rename_i hnil hone
    have hlength : 2 ≤ d.kindMarkers.length := by
      match hmarkers : d.kindMarkers with
      | [] => exact absurd hmarkers hnil
      | [found] => exact absurd hmarkers (hone found)
      | _ :: _ :: _ => simp
    have hne : d.kindMarkers ≠ [] := hnil
    simp only [Except.error.injEq, List.map_eq_nil_iff, hne, false_and, false_or, List.length_map,
      hlength, true_and]
    exact eq_comm

/-! ## Responses -/

theorem responseOf_eq_ok (kind : CallKind) (found : Option TypeRef) (response : TypeRef) :
    Method.responseOf kind found = .ok response ↔
      (kind.streamsResponses = true ∧ ∃ type, found = some type ∧ type.IsStreamOf response) ∨
        (kind.streamsResponses = false ∧ response = found.getD .unit) := by
  cases hkind : kind.streamsResponses with
  | false => simp [Method.responseOf, hkind, eq_comm]
  | true =>
    simp only [Method.responseOf, hkind, if_true, true_and, Bool.true_eq_false, false_and, or_false,
      ← TypeRef.streamElement?_eq_some_iff, ← Option.bind_eq_some_iff]
    cases found.bind TypeRef.streamElement? <;> simp

theorem responseOf_eq_error (kind : CallKind) (found : Option TypeRef) (e : MethodError) :
    Method.responseOf kind found = .error e ↔
      kind.streamsResponses = true ∧
        (¬ ∃ type element, found = some type ∧ type.IsStreamOf element) ∧
        e = .responseShape kind found := by
  cases hkind : kind.streamsResponses with
  | false => simp [Method.responseOf, hkind]
  | true =>
    have hstream : (∃ type element, found = some type ∧ type.IsStreamOf element) ↔
        ∃ element, found.bind TypeRef.streamElement? = some element := by
      simp only [Option.bind_eq_some_iff, TypeRef.streamElement?_eq_some_iff]
      exact exists_comm
    simp only [Method.responseOf, hkind, if_true, true_and, hstream]
    cases found.bind TypeRef.streamElement? <;> simp [eq_comm]

theorem exists_response_iff (d : MethodDecl) (kind : CallKind) :
    (∃ response, Method.responseOf kind d.returnType = .ok response) ↔ d.RespondsAs kind := by
  cases h : Method.responseOf kind d.returnType with
  | ok response =>
    simp only [Except.ok.injEq, exists_eq', true_iff]
    intro hkind
    rcases (responseOf_eq_ok ..).mp h with ⟨-, type, htype, hstream⟩ | ⟨hfalse, -⟩
    · exact ⟨type, response, htype, hstream⟩
    · cases hkind.symm.trans hfalse
  | error e =>
    obtain ⟨hkind, hnone, -⟩ := (responseOf_eq_error ..).mp h
    simp only [reduceCtorEq, exists_false, false_iff]
    exact fun hresponds => hnone (hresponds hkind)

/-! ## Requests -/

/-- How a parameter list becomes a request. -/
inductive Resolved (method : String) : List Parameter → Bool → RequestShape → Prop where
  | nothing : Resolved method [] false .none
  | plain (p : Parameter) : Resolved method [p] false (.single p.name p.type)
  | stream (p : Parameter) (element : TypeRef) : p.type.IsStreamOf element →
      Resolved method [p] true (.single p.name element)
  | record (params : List Parameter) : 2 ≤ params.length →
      Resolved method params false (.composite params (RequestShape.wrapperName method))

/-- Why a parameter list cannot carry a stream. -/
inductive Unresolved : List Parameter → RequestError → Prop where
  | missing : Unresolved [] .missingStream
  | notStream (p : Parameter) : (∀ element, ¬ p.type.IsStreamOf element) →
      Unresolved [p] (.notStream p.type)
  | several (params : List Parameter) : 2 ≤ params.length →
      Unresolved params (.severalStreams params.length)

theorem resolve_several (method : String) {params : List Parameter} (h : 2 ≤ params.length)
    (streamed : Bool) :
    RequestShape.resolve method params streamed =
      if streamed then .error (.severalStreams params.length)
      else .ok (.composite params (RequestShape.wrapperName method)) := by
  match params, h with
  | _ :: _ :: _, _ => cases streamed <;> rfl

theorem resolve_of_resolved {method : String} {params : List Parameter} {streamed : Bool}
    {shape : RequestShape} (h : Resolved method params streamed shape) :
    RequestShape.resolve method params streamed = .ok shape := by
  cases h with
  | nothing => rfl
  | plain p => rfl
  | stream p element hstream =>
    rw [RequestShape.resolve, (TypeRef.streamElement?_eq_some_iff _ _).mpr hstream]
  | record params hlength => exact resolve_several method hlength false

theorem resolve_of_unresolved {method : String} {params : List Parameter} {e : RequestError}
    (h : Unresolved params e) : RequestShape.resolve method params true = .error e := by
  cases h with
  | missing => rfl
  | notStream p hstream =>
    rw [RequestShape.resolve, (TypeRef.streamElement?_eq_none_iff _).mpr hstream]
  | several params hlength => exact resolve_several method hlength true

theorem resolved_or_unresolved (method : String) (params : List Parameter) (streamed : Bool) :
    (∃ shape, Resolved method params streamed shape) ∨
      (streamed = true ∧ ∃ e, Unresolved params e) := by
  match params, streamed with
  | [], false => exact Or.inl ⟨_, .nothing⟩
  | [p], false => exact Or.inl ⟨_, .plain p⟩
  | p :: q :: rest, false => exact Or.inl ⟨_, .record _ (by simp)⟩
  | [], true => exact Or.inr ⟨rfl, _, .missing⟩
  | [p], true =>
    by_cases hstream : ∃ element, p.type.IsStreamOf element
    · obtain ⟨element, hstream⟩ := hstream
      exact Or.inl ⟨_, .stream p element hstream⟩
    · exact Or.inr ⟨rfl, _, .notStream p (not_exists.mp hstream)⟩
  | p :: q :: rest, true => exact Or.inr ⟨rfl, _, .several _ (by simp)⟩

theorem resolve_eq_ok (method : String) (params : List Parameter) (streamed : Bool)
    (shape : RequestShape) :
    RequestShape.resolve method params streamed = .ok shape ↔
      Resolved method params streamed shape := by
  refine ⟨fun h => ?_, resolve_of_resolved⟩
  rcases resolved_or_unresolved method params streamed with ⟨shape', hshape⟩ | ⟨rfl, e, he⟩
  · cases h.symm.trans (resolve_of_resolved hshape)
    exact hshape
  · cases h.symm.trans (resolve_of_unresolved he)

theorem resolve_eq_error (method : String) (params : List Parameter) (streamed : Bool)
    (e : RequestError) :
    RequestShape.resolve method params streamed = .error e ↔
      streamed = true ∧ Unresolved params e := by
  constructor
  · intro h
    rcases resolved_or_unresolved method params streamed with ⟨shape, hshape⟩ | ⟨rfl, e', he⟩
    · cases h.symm.trans (resolve_of_resolved hshape)
    · cases h.symm.trans (resolve_of_unresolved he)
      exact ⟨rfl, he⟩
  · rintro ⟨rfl, h⟩
    exact resolve_of_unresolved h

theorem exists_request_iff (d : MethodDecl) (kind : CallKind) :
    (∃ shape, RequestShape.resolve d.name d.params kind.streamsRequests = .ok shape) ↔
      d.RequestsAs kind := by
  simp only [resolve_eq_ok]
  constructor
  · rintro ⟨shape, hshape⟩ hkind
    rw [hkind] at hshape
    generalize hparams : d.params = params at hshape
    cases hshape with
    | stream p element hstream => exact ⟨p, element, rfl, hstream⟩
  · intro hrequests
    cases hkind : kind.streamsRequests with
    | true =>
      obtain ⟨p, element, hparams, hstream⟩ := hrequests hkind
      rw [hparams]
      exact ⟨_, .stream p element hstream⟩
    | false =>
      rcases resolved_or_unresolved d.name d.params false with hshape | ⟨hfalse, -⟩
      · exact hshape
      · cases hfalse

/-! ## Classification -/

theorem legal_iff (d : MethodDecl) :
    (∃ m, Method.classify d = .ok m) ↔ ∃ kind, d.Legal kind := by
  simp only [classify_eq_ok]
  constructor
  · rintro ⟨m, h⟩
    obtain ⟨marker, hkind, -⟩ := h.kind
    exact ⟨m.kind, (kindOf_eq_ok ..).mp ⟨marker, hkind⟩, h.suspends.symm,
      (exists_response_iff ..).mp ⟨_, h.response⟩, (exists_request_iff ..).mp ⟨_, h.request⟩⟩
  · rintro ⟨kind, h⟩
    obtain ⟨marker, hkind⟩ := (kindOf_eq_ok ..).mpr h.marker
    obtain ⟨response, hresponse⟩ := (exists_response_iff ..).mpr h.responds
    obtain ⟨request, hrequest⟩ := (exists_request_iff ..).mpr h.requests
    exact ⟨⟨d.name, _, kind, request, response, d.docs⟩, ⟨marker, hkind, rfl⟩, h.suspends.symm,
      hresponse, hrequest, rfl, rfl⟩

theorem classify_eq_error (d : MethodDecl) (e : MethodError) :
    Method.classify d = .error e ↔ Method.kindOf d = .error e ∨
      ∃ kind, d.kinds = [kind] ∧
        ((d.isAsync ≠ kind.mustSuspend ∧ e = .suspension kind kind.mustSuspend) ∨
          (d.isAsync = kind.mustSuspend ∧
            (Method.responseOf kind d.returnType = .error e ∨
              (d.RespondsAs kind ∧ ∃ cause,
                RequestShape.resolve d.name d.params kind.streamsRequests = .error cause ∧
                  e = .requestShape cause)))) := by
  simp only [← kindOf_eq_ok, ← exists_response_iff]
  unfold Method.classify
  rw [bind_eq_error]
  apply or_congr_right
  constructor
  · rintro ⟨⟨kind, marker⟩, hkind, h⟩
    refine ⟨kind, ⟨marker, hkind⟩, ?_⟩
    -- The suspension is checked before the response, and the response before the request.
    by_cases hs : kind.mustSuspend = d.isAsync
    · simp only [ne_eq, hs, not_true_eq_false, if_false] at h
      refine Or.inr ⟨hs.symm, ?_⟩
      rcases (bind_eq_error _ _ _).mp h with h | ⟨response, hresponse, h⟩
      · exact Or.inl h
      · rcases (bind_eq_error _ _ _).mp h with h | ⟨request, -, h⟩
        · obtain ⟨cause, hcause, rfl⟩ := (mapError_eq_error _ _ _).mp h
          exact Or.inr ⟨⟨response, hresponse⟩, cause, hcause, rfl⟩
        · cases h
    · simp only [ne_eq, hs, not_false_eq_true, if_true] at h
      cases h
      exact Or.inl ⟨fun heq => hs heq.symm, rfl⟩
  · rintro ⟨kind, ⟨marker, hkind⟩, h⟩
    refine ⟨(kind, marker), hkind, ?_⟩
    rcases h with ⟨hs, rfl⟩ | ⟨hs, h⟩
    · simp only [ne_eq, hs.symm, not_false_eq_true, if_true]
      rfl
    · simp only [ne_eq, hs, not_true_eq_false, if_false]
      rcases h with h | ⟨⟨response, hresponse⟩, cause, hcause, rfl⟩
      · exact (bind_eq_error _ _ _).mpr (Or.inl h)
      · refine (bind_eq_error _ _ _).mpr (Or.inr ⟨response, hresponse, ?_⟩)
        refine (bind_eq_error _ _ _).mpr (Or.inl ?_)
        exact (mapError_eq_error _ _ _).mpr ⟨cause, hcause, rfl⟩

theorem firstMethodFault_of_classify {d : MethodDecl} {e : MethodError}
    (h : Method.classify d = .error e) : FirstMethodFault d e := by
  rcases (classify_eq_error d e).mp h with h | ⟨kind, hkind, ⟨hs, rfl⟩ | ⟨hs, h⟩⟩
  · rcases (kindOf_eq_error d e).mp h with ⟨hnil, rfl⟩ | ⟨hlength, rfl⟩
    · exact .unannotated hnil
    · exact .conflicting hlength
  · exact .suspension kind hkind hs
  · rcases h with h | ⟨hresponds, cause, hcause, rfl⟩
    · obtain ⟨hstreams, hnone, rfl⟩ := (responseOf_eq_error ..).mp h
      exact .response kind hkind hs (fun hresponds => hnone (hresponds hstreams))
    · obtain ⟨hstreams, hcause⟩ := (resolve_eq_error ..).mp hcause
      generalize hparams : d.params = params at hcause
      cases hcause with
      | missing => exact .missing kind hkind hs hresponds hstreams hparams
      | notStream p hstream => exact .notStream kind p hkind hs hresponds hstreams hparams hstream
      | several _ hlength =>
        subst hparams
        exact .several kind hkind hs hresponds hstreams hlength

theorem classify_of_firstMethodFault {d : MethodDecl} {e : MethodError}
    (h : FirstMethodFault d e) : Method.classify d = .error e := by
  rw [classify_eq_error, kindOf_eq_error]
  cases h with
  | unannotated hnil => exact Or.inl (Or.inl ⟨hnil, rfl⟩)
  | conflicting hlength => exact Or.inl (Or.inr ⟨hlength, rfl⟩)
  | suspension kind hkind hs => exact Or.inr ⟨kind, hkind, Or.inl ⟨hs, rfl⟩⟩
  | response kind hkind hs hresponds =>
    obtain ⟨hstreams, hnone⟩ := Classical.not_imp.mp hresponds
    refine Or.inr ⟨kind, hkind, Or.inr ⟨hs, Or.inl ?_⟩⟩
    exact (responseOf_eq_error ..).mpr ⟨hstreams, hnone, rfl⟩
  | missing kind hkind hs hresponds hstreams hparams =>
    refine Or.inr ⟨kind, hkind, Or.inr ⟨hs, Or.inr ⟨hresponds, _, ?_, rfl⟩⟩⟩
    rw [hstreams, hparams]
    exact resolve_of_unresolved .missing
  | notStream kind p hkind hs hresponds hstreams hparams hstream =>
    refine Or.inr ⟨kind, hkind, Or.inr ⟨hs, Or.inr ⟨hresponds, _, ?_, rfl⟩⟩⟩
    rw [hstreams, hparams]
    exact resolve_of_unresolved (.notStream p hstream)
  | several kind hkind hs hresponds hstreams hlength =>
    refine Or.inr ⟨kind, hkind, Or.inr ⟨hs, Or.inr ⟨hresponds, _, ?_, rfl⟩⟩⟩
    rw [hstreams]
    exact resolve_of_unresolved (.several _ hlength)

/-! ## Requests of a classified method -/

/-- The shape of a request goes by the number of parameters. A streamed request is a single one. -/
structure ShapedBy (params : List Parameter) (streamed : Bool) (shape : RequestShape) : Prop where
  nothing : shape = .none ↔ params.length = 0
  single : (∃ name type, shape = .single name type) ↔ params.length = 1
  record : (∃ fields wrapper, shape = .composite fields wrapper) ↔ 2 ≤ params.length
  streamed : streamed = true → ∃ name type, shape = .single name type

theorem Resolved.shapedBy {method : String} {params : List Parameter} {streamed : Bool}
    {shape : RequestShape} (h : Resolved method params streamed shape) :
    ShapedBy params streamed shape := by
  cases h with
  | nothing => constructor <;> simp
  | plain p => constructor <;> simp
  | stream p element _ => constructor <;> simp
  | record params hlength =>
    have hnil : params ≠ [] := by
      rintro rfl
      simp at hlength
    constructor
    case nothing => simp [hnil]
    case single =>
      simp only [reduceCtorEq, exists_false, false_iff]
      omega
    case record => simp [hlength]
    case streamed => simp

theorem Resolved.wrapper_name {method : String} {params : List Parameter} {streamed : Bool}
    {shape : RequestShape} (h : Resolved method params streamed shape) {w : String}
    (hw : shape.wrapper? = some w) : w = RequestShape.wrapperName method := by
  cases h with
  | nothing => cases hw
  | plain p => cases hw
  | stream p element _ => cases hw
  | record params _ => exact (Option.some.inj hw).symm

/-! ## What the interface shows -/

namespace Classified

variable {d : MethodDecl} {m : Method}

theorem params_cases (h : Classified d m) :
    (m.kind.streamsRequests = false ∧ m.params = d.params) ∨
      (m.kind.streamsRequests = true ∧ ∃ p element, d.params = [p] ∧ p.type.IsStreamOf element ∧
        m.params = [⟨p.name, .streamOf element⟩]) := by
  have hrequest := (resolve_eq_ok ..).mp h.request
  rw [Method.params]
  generalize d.params = params at hrequest
  generalize m.kind.streamsRequests = streamed at hrequest
  generalize m.request = request at hrequest
  cases hrequest with
  | nothing => exact Or.inl ⟨rfl, rfl⟩
  | plain p => exact Or.inl ⟨rfl, rfl⟩
  | stream p element hstream => exact Or.inr ⟨rfl, p, element, rfl, hstream, rfl⟩
  | record params _ => exact Or.inl ⟨rfl, rfl⟩

theorem params_names (h : Classified d m) : m.params.map (·.name) = d.params.map (·.name) := by
  rcases h.params_cases with ⟨-, hparams⟩ | ⟨-, p, element, hp, -, hparams⟩
  · rw [hparams]
  · rw [hparams, hp]
    rfl

theorem returnType_cases (h : Classified d m) :
    (m.kind.streamsResponses = false ∧ m.returnType = d.returnType.getD .unit) ∨
      (m.kind.streamsResponses = true ∧ ∃ type element, d.returnType = some type ∧
        type.IsStreamOf element ∧ m.returnType = .streamOf element) := by
  rw [Method.returnType]
  rcases (responseOf_eq_ok ..).mp h.response with ⟨hkind, type, htype, hstream⟩ | ⟨hkind, hresponse⟩
  · exact Or.inr ⟨hkind, type, _, htype, hstream, if_pos hkind⟩
  · rw [hkind, ← hresponse]
    exact Or.inl ⟨rfl, rfl⟩

end Classified

/-- A method is accepted if and only if it has the shape of its only kind, and then its request goes
by the number of its parameters. Else its first fault is reported, and nothing but that. -/
theorem classify_accepts_legal (d : MethodDecl) :
    ((∃ m, Method.classify d = .ok m) ↔ ∃ kind, d.Legal kind) ∧
    (∀ m, Method.classify d = .ok m →
      d.Legal m.kind ∧ ShapedBy d.params m.kind.streamsRequests m.request) ∧
    ∀ e, Method.classify d = .error e ↔ FirstMethodFault d e := by
  refine ⟨legal_iff d, ?_, fun e => ⟨firstMethodFault_of_classify, classify_of_firstMethodFault⟩⟩
  intro m hm
  have hc := (classify_eq_ok d m).mp hm
  obtain ⟨marker, hmarker, -⟩ := hc.kind
  have hkind := (kindOf_eq_ok ..).mp ⟨marker, hmarker⟩
  obtain ⟨kind, hlegal⟩ := (legal_iff d).mp ⟨m, hm⟩
  cases hlegal.marker.symm.trans hkind
  exact ⟨hlegal, ((resolve_eq_ok ..).mp hc.request).shapedBy⟩

end RpcStubs
