import RpcStubs.Proofs.Consistency

/-!
# Arguments across a call

A client makes one request value from the arguments of a call, and the provider makes the
arguments of the service method from that value. They are the same arguments in the same order.
-/

namespace RpcStubs

/-! ## Values of a call -/

/-- A value in generated code. What the declared types hold is left open. -/
inductive Datum (α : Type) where
  | unit
  | plain (value : α)
  | record (name : String) (fields : List (String × Datum α))

def Signature.scope {α : Type} (s : Signature) (args : List (Datum α)) :
    List (String × Datum α) :=
  (s.params.map (·.name)).zip args

/-- The request value. The fields of a record are the parameters of the same names. -/
def CallArgument.request? {α : Type} (scope : List (String × Datum α)) :
    CallArgument → Option (Datum α)
  | .wrapper name fields =>
    (fields.mapM (fun field => (scope.lookup field).map (field, ·))).map (.record name)
  | .forward param => scope.lookup param
  | .unit => some .unit

/-- The arguments that the service method is called with. A record is taken apart by the names
of its fields. -/
def Adapter.args? {α : Type} : Adapter → Datum α → Option (List (Datum α))
  | .destructure wrapper fields, .record name values =>
    if name = wrapper then fields.mapM (fun field => values.lookup field) else none
  | .destructure _ _, _ => none
  | .passThrough, request => some [request]
  | .zeroArg, _ => some []

/-- At the place of a method, the provider calls the service with the arguments that the client
was called with, for every list of arguments that fits the interface. -/
def KeepsArguments (α : Type) (s : Service) (i : Nat) : Prop :=
  ∃ signature call binding, s.interfaceArtifact.methods[i]? = some signature ∧
    s.clientArtifact.methods[i]? = some call ∧ s.providerArtifact.bindings[i]? = some binding ∧
    ∀ args : List (Datum α), args.length = signature.params.length →
      (call.argument.request? (signature.scope args)).bind binding.adapter.args? = some args

/-! ## Looking up names -/

theorem mapM_eq_some {α β : Type} {f : α → Option β} {as : List α} {bs : List β}
    (h : List.Forall₂ (fun a b => f a = some b) as bs) : as.mapM f = some bs := by
  induction h with
  | nil => rfl
  | cons hab _ ih => simp [List.mapM_cons, hab, ih]

theorem mapM_pair_eq_some {α β : Type} {f : α → Option β} {as : List α} {bs : List β}
    (h : List.Forall₂ (fun a b => f a = some b) as bs) :
    as.mapM (fun a => (f a).map (a, ·)) = some (as.zip bs) := by
  induction h with
  | nil => rfl
  | cons hab _ ih => simp [List.mapM_cons, hab, ih]

theorem lookup_zip {β : Type} (before : List (String × β)) (names : List String)
    (values : List β) (hlen : values.length = names.length) (hnodup : names.Nodup)
    (hbefore : ∀ p ∈ before, p.1 ∉ names) :
    List.Forall₂ (fun name value => (before ++ names.zip values).lookup name = some value)
      names values := by
  induction names generalizing before values with
  | nil =>
    rw [List.eq_nil_of_length_eq_zero hlen]
    exact .nil
  | cons name names ih =>
    obtain ⟨value, values, rfl⟩ := List.exists_cons_of_length_eq_add_one hlen
    obtain ⟨hname, hnodup⟩ := List.nodup_cons.mp hnodup
    have hnone : before.lookup name = none := by
      rw [List.lookup_eq_none_iff]
      intro p hp
      have : p.1 ≠ name := fun h => hbefore p hp (by simp [h])
      simpa using this.symm
    constructor
    · simp [List.lookup_append, hnone]
    · have hrest := ih (before ++ [(name, value)]) values (by simpa using hlen) hnodup (by
        intro p hp
        rcases List.mem_append.mp hp with hp | hp
        · exact fun h => hbefore p hp (List.mem_cons_of_mem _ h)
        · rw [List.mem_singleton.mp hp]
          exact hname)
      simpa using hrest

theorem record_round_trip {α : Type} (wrapper : String) (names : List String)
    (args : List (Datum α)) (hlen : args.length = names.length) (hnodup : names.Nodup) :
    ((CallArgument.wrapper wrapper names).request? (names.zip args)).bind
      (Adapter.destructure wrapper names).args? = some args := by
  have hlookup := lookup_zip [] names args hlen hnodup (by simp)
  simp only [List.nil_append] at hlookup
  have hpack := mapM_pair_eq_some hlookup
  simp only [CallArgument.request?, hpack, Option.map_some, Option.bind_some, Adapter.args?,
    if_true]
  exact mapM_eq_some hlookup

/-! ## Calls -/

theorem requestsAgree_round_trip {α : Type} {kind : CallKind} {request : TypeRef}
    {wrappers : List Wrapper} {params : List Parameter} {argument : CallArgument}
    {adapter : Adapter} (h : RequestsAgree kind request wrappers params argument adapter)
    (hnodup : (params.map (·.name)).Nodup) (args : List (Datum α))
    (hlen : args.length = params.length) :
    (argument.request? ((params.map (·.name)).zip args)).bind adapter.args? = some args := by
  cases h with
  | nothing =>
    rw [List.eq_nil_of_length_eq_zero hlen]
    rfl
  | single p =>
    obtain ⟨arg, rfl⟩ := List.length_eq_one_iff.mp hlen
    simp [CallArgument.request?, Adapter.args?]
  | record w => exact record_round_trip w.name _ args (by simpa using hlen) hnodup

/-- What a client packs from the arguments of a call, the provider of the same method unpacks
to the same arguments. The parameters of a method have different names. -/
theorem arguments_survive (α : Type) (d : Declaration) (s : Service)
    (h : Service.build d = .ok s) (i : Nat) (method : MethodDecl)
    (hi : d.methods[i]? = some method) (hnodup : (method.params.map (·.name)).Nodup) :
    KeepsArguments α s i := by
  have hb := (build_eq_ok d s).mp h
  obtain ⟨m, hm, hc⟩ := forall₂_getElem? hb.methods hi
  have hagree := requestsAgree_method s.methods hb.apart m (List.mem_of_getElem? hm)
  refine ⟨m.signature, m.clientMethod, m.providerBinding, ?_, ?_, ?_, ?_⟩
  · simp [Service.interfaceArtifact, hm]
  · simp [Service.clientArtifact, hm]
  · simp [Service.providerArtifact, hm]
  · intro args hlen
    rw [← hc.params_names] at hnodup
    exact requestsAgree_round_trip hagree hnodup args hlen

theorem arguments_survive_orders :
    ∃ s method, Service.build orders = .ok s ∧ orders.methods[0]? = some method ∧
      method.params.map (·.name) = ["customer", "items", "express"] ∧
      KeepsArguments Nat s 0 :=
  ⟨_, _, rfl, rfl, rfl, arguments_survive Nat orders _ rfl 0 _ rfl (by decide)⟩

end RpcStubs
