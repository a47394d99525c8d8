import RpcStubs.Proofs.Consistency

/-!
# Looking up methods by name

Calls are dispatched by the declared name of a method. A look-up finds the first method of a name,
so each method finds itself only if no name is declared twice.
-/

namespace RpcStubs

def Declaration.methodNames (d : Declaration) : List String := d.methods.map (·.name)

/-- The name of the method at `i` leads to the items at `j`: to the method itself, and from the
client and the provider to the entry of the descriptor. -/
structure LeadsTo (s : Service) (i j : Nat) : Prop where
  method : ∃ m found, s.methods[i]? = some m ∧ s.methods[j]? = some found ∧
    s.method? m.name = some found
  client : ∃ call entry, s.clientArtifact.methods[i]? = some call ∧
    s.descriptorArtifact.entries[j]? = some entry ∧
    s.descriptorArtifact.entry? call.entry = some entry
  provider : ∃ binding entry, s.providerArtifact.bindings[i]? = some binding ∧
    s.descriptorArtifact.entries[j]? = some entry ∧
    s.descriptorArtifact.entry? binding.entry = some entry

/-! ## First items -/

theorem find?_eq_getElem?_idxOf {α : Type} (key : α → String) (l : List α) (k : String) :
    l.find? (fun x => key x == k) = l[(l.map key).idxOf k]? := by
  induction l with
  | nil => rfl
  | cons x rest ih =>
    by_cases hx : key x = k
    · rw [List.find?_cons_of_pos (by simpa using hx), List.map_cons, hx, List.idxOf_cons_self]
      rfl
    · rw [List.find?_cons_of_neg (by simpa using hx), ih, List.map_cons, List.idxOf_cons_ne _ hx,
        List.getElem?_cons_succ]

theorem nodup_of_idxOf (names : List String)
    (h : ∀ (i : Nat) (name : String), names[i]? = some name → names.idxOf name = i) :
    names.Nodup := by
  rw [List.nodup_iff_getElem?_ne_getElem?]
  intro i j hij hj heq
  obtain ⟨name, hname⟩ : ∃ name, names[j]? = some name := ⟨_, List.getElem?_eq_getElem hj⟩
  have hi := h i name (heq.trans hname)
  have hj := h j name hname
  omega

namespace Built

variable {d : Declaration} {s : Service}

theorem method_names (h : Built d s) : s.methods.map (·.name) = d.methodNames := by
  unfold Declaration.methodNames
  apply List.ext_getElem?
  intro i
  rw [List.getElem?_map, List.getElem?_map]
  cases hd : d.methods[i]? with
  | none =>
    rw [List.getElem?_eq_none_iff, h.methods.length_eq, ← List.getElem?_eq_none_iff] at hd
    rw [hd]
    rfl
  | some decl =>
    obtain ⟨m, hm, hc⟩ := forall₂_getElem? h.methods hd
    rw [hm, Option.map_some, Option.map_some, hc.name]

theorem entry_names (h : Built d s) :
    s.descriptorArtifact.entries.map (·.method) = d.methodNames := by
  rw [← h.method_names]
  have hentries := descriptorArtifact_entries s
  generalize s.methods = ms, s.descriptorArtifact.entries = entries at hentries
  induction hentries with
  | nil => rfl
  | cons hentry _ ih => rw [List.map_cons, List.map_cons, ih, hentry.method]

/-- The wire names tell the methods apart, even if the declared names do not. -/
theorem methods_nodup (h : Built d s) : s.methods.Nodup :=
  h.apart.imp (fun hapart heq => hapart.2 (congrArg Method.wireName heq))

theorem method?_eq (h : Built d s) (name : String) :
    s.method? name = s.methods[d.methodNames.idxOf name]? := by
  rw [Service.method?, find?_eq_getElem?_idxOf, h.method_names]

theorem entry?_eq (h : Built d s) (name : String) :
    s.descriptorArtifact.entry? name =
      s.descriptorArtifact.entries[d.methodNames.idxOf name]? := by
  rw [DescriptorArtifact.entry?, find?_eq_getElem?_idxOf, h.entry_names]

theorem idxOf_lt (h : Built d s) {name : String} (hname : name ∈ d.methodNames) :
    d.methodNames.idxOf name < s.methods.length := by
  rw [← List.length_map (f := (·.name)), h.method_names]
  exact List.idxOf_lt_length_of_mem hname

theorem leadsTo_iff (h : Built d s) (i j : Nat) :
    LeadsTo s i j ↔ ∃ name, d.methodNames[i]? = some name ∧ d.methodNames.idxOf name = j := by
  constructor
  · rintro ⟨⟨m, found, hm, hfound, hlook⟩, -, -⟩
    have hname : d.methodNames[i]? = some m.name := by
      rw [← h.method_names, List.getElem?_map, hm]
      rfl
    refine ⟨m.name, hname, ?_⟩
    rw [h.method?_eq, ← hfound] at hlook
    have hlt := h.idxOf_lt (List.mem_of_getElem? hname)
    exact (List.getElem?_inj hlt h.methods_nodup).mp hlook
  · rintro ⟨name, hname, rfl⟩
    rw [← h.method_names, List.getElem?_map] at hname
    obtain ⟨m, hm, rfl⟩ := Option.map_eq_some_iff.mp hname
    have hmem : m.name ∈ d.methodNames := by
      rw [← h.method_names]
      exact List.mem_map_of_mem (List.mem_of_getElem? hm)
    obtain ⟨found, hfound⟩ : ∃ found, s.methods[d.methodNames.idxOf m.name]? = some found :=
      ⟨_, List.getElem?_eq_getElem (h.idxOf_lt hmem)⟩
    obtain ⟨entry, hentry, -⟩ := forall₂_getElem? (descriptorArtifact_entries s) hfound
    constructor
    case method => exact ⟨m, found, hm, hfound, by rw [h.method?_eq, hfound]⟩
    case client =>
      refine ⟨m.clientMethod, entry, by simp [Service.clientArtifact, hm], hentry, ?_⟩
      rw [h.entry?_eq, ← hentry]
      rfl
    case provider =>
      refine ⟨m.providerBinding, entry, by simp [Service.providerArtifact, hm], hentry, ?_⟩
      rw [h.entry?_eq, ← hentry]
      rfl

end Built

/-! ## Look-ups of a service -/

/-- Each name leads to the first method that has it. So every method is found by its own name if and
only if the declared names are all different, which is not checked. -/
theorem lookups_find_first (d : Declaration) (s : Service) (h : Service.build d = .ok s) :
    (∀ (i : Nat) (name : String), d.methodNames[i]? = some name →
      LeadsTo s i (d.methodNames.idxOf name)) ∧
    ((∀ i < d.methods.length, LeadsTo s i i) ↔ d.methodNames.Nodup) := by
  have hb := (build_eq_ok d s).mp h
  refine ⟨fun i name hname => (hb.leadsTo_iff i _).mpr ⟨name, hname, rfl⟩, ?_, ?_⟩
  · intro hall
    apply nodup_of_idxOf
    intro i name hname
    obtain ⟨hi, -⟩ := List.getElem?_eq_some_iff.mp hname
    rw [Declaration.methodNames, List.length_map] at hi
    obtain ⟨name', hname', hidx⟩ := (hb.leadsTo_iff i i).mp (hall i hi)
    cases hname.symm.trans hname'
    exact hidx
  · intro hnodup i hi
    rw [← List.length_map (f := (·.name))] at hi
    refine (hb.leadsTo_iff i i).mpr ⟨_, List.getElem?_eq_getElem hi, ?_⟩
    exact hnodup.idxOf_getElem i hi

theorem lookups_find_first_orders :
    ∃ s, Service.build orders = .ok s ∧ orders.methodNames.Nodup ∧
      ∀ i < orders.methods.length, LeadsTo s i i := by
  have hnodup : orders.methodNames.Nodup := by decide
  exact ⟨_, rfl, hnodup, (lookups_find_first orders _ rfl).2.mpr hnodup⟩

def repeated : Declaration where
  name := "Echo"
  package := ""
  kind := .interface
  markers := [⟨Marker.service, .empty⟩]
  methods := [
    ⟨"get", [⟨"unary", .empty⟩], [], none, true, []⟩,
    ⟨"get", [⟨"unary", .ofList [(Marker.nameKey, "Fetch")]⟩], [⟨"id", .named "u64"⟩], none, true,
      []⟩]
  docs := []

/-- The second method is accepted, but its name leads to the first. -/
theorem repeated_name_leads_astray :
    ∃ s, Service.build repeated = .ok s ∧ LeadsTo s 1 0 ∧ ¬ LeadsTo s 1 1 := by
  refine ⟨_, rfl, ?_⟩
  rw [((build_eq_ok repeated _).mp rfl).leadsTo_iff, ((build_eq_ok repeated _).mp rfl).leadsTo_iff]
  exact ⟨⟨"get", rfl, rfl⟩, by rintro ⟨name, hname, hidx⟩; cases hname; cases hidx⟩

end RpcStubs
