import RpcStubs.Proofs.CodecNames

/-!
# An index of codecs

Each type that is sent has one binding, in the order in which the types are first met. The bindings
of a canonical name can be looked up through an index of their positions. The index is kept along
with the table, never leads out of it, and gives the same codecs.
-/

namespace RpcStubs

/-! ## The index -/

/-- A table of bindings, and the positions of those of each canonical name. -/
structure CodecIndex where
  bindings : CodecTable
  byName : SortedMap (List Nat)

namespace CodecIndex

def empty : CodecIndex := ⟨[], .empty⟩

def slots (index : CodecIndex) (canonical : String) : List Nat :=
  (index.byName.get? canonical).getD []

/-- The first of some positions that holds the binding of a type. A position outside the table is an
error. -/
def lookup (table : CodecTable) (type : TypeRef) : List Nat → Except Nat (Option CodecBinding)
  | [] => .ok none
  | i :: rest =>
    match table[i]? with
    | none => .error i
    | some b => if b.type = type then .ok (some b) else lookup table type rest

def bind (index : CodecIndex) (type : TypeRef) : Except Nat (CodecRef × CodecIndex) :=
  if type.isUnit then .ok (.unit, index)
  else
    let canonical := type.canonicalName
    let slots := index.slots canonical
    match lookup index.bindings type slots with
    | .error i => .error i
    | .ok (some b) => .ok (.binding b.ident, index)
    | .ok none =>
      let ident := CodecTable.identOf canonical slots.length
      .ok (.binding ident,
        { bindings := index.bindings ++ [⟨ident, canonical, type⟩]
          byName := index.byName.insert canonical (slots ++ [index.bindings.length]) })

def bindAll (index : CodecIndex) : List TypeRef → Except Nat (List CodecRef × CodecIndex)
  | [] => .ok ([], index)
  | type :: rest => do
    let (codec, index) ← index.bind type
    let (codecs, index) ← index.bindAll rest
    return (codec :: codecs, index)

/-- The index lists the positions of each canonical name, in order. From the second on they are
numbered. -/
structure InStep (index : CodecIndex) : Prop where
  inBounds : ∀ canonical slots, index.byName.get? canonical = some slots →
    ∀ i ∈ slots, i < index.bindings.length
  increasing : ∀ canonical, (index.slots canonical).Pairwise (· < ·)
  mem_iff : ∀ canonical i, i ∈ index.slots canonical ↔
    ∃ b, index.bindings[i]? = some b ∧ b.canonicalName = canonical
  numbered : ∀ canonical i b k, i ∈ index.slots canonical → index.bindings[i]? = some b → 2 ≤ k →
    (b.ident = Text.snakeCase canonical ++ "_" ++ toString k ++ "_codec" ↔
      (index.slots canonical)[k - 1]? = some i)

end CodecIndex

/-- The types that a service sends: the request and the response of each method. -/
def Service.sentTypes (s : Service) : List TypeRef :=
  s.methods.flatMap (fun m => [m.requestType, m.response])

/-! ## Maps -/

theorem SortedMap.get?_insert {β : Type} (m : SortedMap β) (key : String) (value : β)
    (k : String) : (m.insert key value).get? k = if k = key then some value else m.get? k := by
  obtain ⟨entries, increasing⟩ := m
  simp only [get?, insert]
  clear increasing
  induction entries with
  | nil =>
    by_cases h : k = key
    · simp [insertEntry, h]
    · simp [insertEntry, h, Ne.symm h]
  | cons e rest ih =>
    rw [insertEntry]
    split
    · by_cases h : k = key
      · simp [h]
      · simp [h, Ne.symm h]
    · split
      · rename_i hlt
        by_cases h : e.1 = k
        · have hne : k ≠ key := by
            rintro rfl
            exact String.lt_irrefl _ (h ▸ hlt)
          simp [h, hne]
        · have hbeq : (e.1 == k) = false := by simpa using h
          rw [List.find?_cons, hbeq, List.find?_cons, hbeq]
          exact ih
      · rename_i h₁ h₂
        have hkey := eq_of_not_lt h₁ h₂
        by_cases h : k = key
        · simp [h]
        · simp [h, Ne.symm h, ← hkey]

/-! ## Positions -/

namespace CodecTable

def placed (table : CodecTable) (canonical : String) : List (CodecBinding × Nat) :=
  table.zipIdx.filter (·.1.canonicalName = canonical)

theorem mem_placed {table : CodecTable} {canonical : String} {p : CodecBinding × Nat} :
    p ∈ table.placed canonical ↔ table[p.2]? = some p.1 ∧ p.1.canonicalName = canonical := by
  simp [placed, List.mem_zipIdx_iff_getElem?]

theorem placed_fst (table : CodecTable) (canonical : String) :
    (table.placed canonical).map (·.1) = table.ofName canonical := by
  have hbindings : table.zipIdx.map (·.1) = table := List.zipIdx_map_fst 0 table
  rw [placed, ofName]
  conv_rhs => rw [← hbindings]
  rw [List.filter_map]
  rfl

theorem placed_snoc (table : CodecTable) (b : CodecBinding) (canonical : String) :
    placed (table ++ [b]) canonical = table.placed canonical ++
      if b.canonicalName = canonical then [(b, table.length)] else [] := by
  rw [placed, List.zipIdx_append, List.filter_append, ← placed, Nat.zero_add]
  by_cases h : b.canonicalName = canonical
  · simp [h]
  · simp [h]

theorem placed_increasing (table : CodecTable) (canonical : String) :
    ((table.placed canonical).map (·.2)).Pairwise (· < ·) := by
  have hpositions : (table.zipIdx.map (·.2)).Pairwise (· < ·) := by
    rw [List.zipIdx_map_snd]
    exact List.pairwise_lt_range'
  exact hpositions.sublist (List.filter_sublist.map _)

/-- The types that are bound one after the other, without an index. -/
def bindAll (table : CodecTable) : List TypeRef → List CodecRef × CodecTable
  | [] => ([], table)
  | type :: rest =>
    let (codec, table) := table.bind type
    let (codecs, table) := bindAll table rest
    (codec :: codecs, table)

end CodecTable

/-! ## The index and the table -/

namespace CodecIndex

/-- The index of a name has the positions of its bindings. -/
def Mirrors (index : CodecIndex) : Prop :=
  ∀ canonical, index.slots canonical = (index.bindings.placed canonical).map (·.2)

theorem mirrors_empty : empty.Mirrors := fun _ => rfl

theorem lookup_placed {table : CodecTable} (type : TypeRef) {ps : List (CodecBinding × Nat)}
    (h : ∀ p ∈ ps, table[p.2]? = some p.1) :
    lookup table type (ps.map (·.2)) = .ok ((ps.map (·.1)).find? (·.type = type)) := by
  induction ps with
  | nil => rfl
  | cons p ps ih =>
    obtain ⟨hp, hps⟩ := List.forall_mem_cons.mp h
    rw [List.map_cons, lookup, hp, List.map_cons, List.find?_cons]
    simp only
    split
    · rename_i htype
      simp [htype]
    · rename_i htype
      simp [htype, ih hps]

theorem Mirrors.lookup {index : CodecIndex} (h : index.Mirrors) (type : TypeRef) :
    CodecIndex.lookup index.bindings type (index.slots type.canonicalName) =
      .ok ((index.bindings.ofName type.canonicalName).find? (·.type = type)) := by
  rw [h, ← CodecTable.placed_fst]
  exact lookup_placed type (fun p hp => (CodecTable.mem_placed.mp hp).1)

theorem Mirrors.snoc {index : CodecIndex} (h : index.Mirrors) (b : CodecBinding) :
    Mirrors ⟨index.bindings ++ [b], index.byName.insert b.canonicalName
      (index.slots b.canonicalName ++ [index.bindings.length])⟩ := by
  intro canonical
  rw [slots, SortedMap.get?_insert, CodecTable.placed_snoc, List.map_append]
  by_cases hname : b.canonicalName = canonical
  · simp [hname, h canonical]
  · simp only [Ne.symm hname, if_false, hname, List.map_nil, List.append_nil]
    exact h canonical

theorem Mirrors.bind {index : CodecIndex} (h : index.Mirrors) (type : TypeRef) :
    ∃ index', index.bind type = .ok ((index.bindings.bind type).1, index') ∧
      index'.bindings = (index.bindings.bind type).2 ∧ index'.Mirrors := by
  unfold CodecIndex.bind CodecTable.bind
  split
  · exact ⟨index, rfl, rfl, h⟩
  · have hlength : (index.slots type.canonicalName).length =
        (index.bindings.ofName type.canonicalName).length := by
      rw [h, ← CodecTable.placed_fst, List.length_map, List.length_map]
    simp only [h.lookup type]
    cases (index.bindings.ofName type.canonicalName).find? (·.type = type) with
    | some b => exact ⟨index, rfl, rfl, h⟩
    | none =>
      rw [hlength]
      exact ⟨_, rfl, rfl, h.snoc ⟨_, type.canonicalName, type⟩⟩

theorem Mirrors.bindAll {index : CodecIndex} (h : index.Mirrors) (types : List TypeRef) :
    ∃ index', index.bindAll types = .ok ((index.bindings.bindAll types).1, index') ∧
      index'.bindings = (index.bindings.bindAll types).2 ∧ index'.Mirrors := by
  induction types generalizing index with
  | nil => exact ⟨index, rfl, rfl, h⟩
  | cons type rest ih =>
    obtain ⟨index₁, hbind, hbindings₁, h₁⟩ := h.bind type
    obtain ⟨index₂, hrest, hbindings₂, h₂⟩ := ih h₁
    rw [hbindings₁] at hrest hbindings₂
    refine ⟨index₂, ?_, hbindings₂, h₂⟩
    exact (bind_eq_ok _ _ _).mpr ⟨_, hbind, (bind_eq_ok _ _ _).mpr ⟨_, hrest, rfl⟩⟩

theorem Mirrors.inStep {index : CodecIndex} (h : index.Mirrors)
    (hnames : index.bindings.WellNamed) : index.InStep := by
  have hmem : ∀ canonical i, i ∈ index.slots canonical ↔
      ∃ b, index.bindings[i]? = some b ∧ b.canonicalName = canonical := by
    intro canonical i
    rw [h canonical]
    simp [CodecTable.mem_placed]
  constructor
  case increasing =>
    intro canonical
    rw [h canonical]
    exact CodecTable.placed_increasing _ _
  case mem_iff => exact hmem
  case inBounds =>
    intro canonical slots hslots i hi
    have hi' : i ∈ index.slots canonical := by
      rw [CodecIndex.slots, hslots]
      exact hi
    obtain ⟨b, hb, -⟩ := (hmem canonical i).mp hi'
    exact (List.getElem?_eq_some_iff.mp hb).1
  case numbered =>
    intro canonical i b k hi hb hk
    obtain ⟨k, rfl⟩ := Nat.exists_eq_add_of_le' hk
    obtain ⟨b', hb', hname⟩ := (hmem canonical i).mp hi
    cases hb.symm.trans hb'
    -- The binding has some number `n` among those of its name.
    obtain ⟨n, hn⟩ := List.getElem?_of_mem
      (CodecTable.mem_placed (p := (b, i)) |>.mpr ⟨hb, hname⟩)
    have hident : b.ident = CodecTable.identOf canonical n := by
      apply hnames.idents canonical n b
      rw [← CodecTable.placed_fst, List.getElem?_map, hn]
      rfl
    have hslot : (index.slots canonical)[n]? = some i := by
      rw [h canonical, List.getElem?_map, hn]
      rfl
    rw [hident, ← CodecTable.identOf_succ]
    constructor
    · intro heq
      obtain rfl := CodecTable.identOf_inj heq
      exact hslot
    · intro heq
      have hnodup : (index.slots canonical).Nodup := by
        rw [h canonical]
        exact (CodecTable.placed_increasing _ _).imp Nat.ne_of_lt
      obtain ⟨hlt, -⟩ := List.getElem?_eq_some_iff.mp hslot
      rw [(List.getElem?_inj hlt hnodup).mp (hslot.trans heq.symm)]
      rfl

end CodecIndex

/-! ## Types in order -/

namespace CodecTable

def lacks (table : CodecTable) (type : TypeRef) : Bool :=
  type ≠ .unit ∧ type ∉ table.map (·.type)

theorem lacks_newBinding (table : CodecTable) (type t : TypeRef) :
    lacks (table ++ [table.newBinding type]) t = (!(t == type) && table.lacks t) := by
  have htype : (table.newBinding type).type = type := rfl
  rw [Bool.eq_iff_iff]
  simp only [lacks, List.map_append, List.map_cons, List.map_nil, List.mem_append,
    List.mem_singleton, htype, decide_eq_true_eq, Bool.and_eq_true, Bool.not_eq_true',
    beq_eq_false_iff_ne, not_or]
  tauto

theorem bindAll_types {table : CodecTable} (h : table.WellNamed) (types : List TypeRef) :
    (table.bindAll types).2.WellNamed ∧
      (table.bindAll types).2.map (·.type) =
        table.map (·.type) ++ (types.filter table.lacks).eraseDups := by
  induction types generalizing table with
  | nil => simpa [bindAll] using h
  | cons type rest ih =>
    rw [bindAll]
    obtain ⟨hnames, htypes⟩ := ih (extends_bind h type).wellNamed
    refine ⟨hnames, htypes.trans ?_⟩
    rcases bind_cases h type with ⟨rfl, heq⟩ | ⟨b, hb, rfl, heq⟩ | ⟨hunit, hnew, heq⟩
    · rw [heq, List.filter_cons_of_neg (by simp [lacks])]
    · have hmem : b.type ∈ table.map (·.type) := List.mem_map_of_mem hb
      rw [heq, List.filter_cons_of_neg (by simp [lacks, -List.mem_map, hmem])]
    · have hlacks : table.lacks type = true := by
        simpa [lacks] using ⟨hunit, hnew⟩
      have hrest : lacks (table ++ [table.newBinding type]) =
          fun t => !(t == type) && table.lacks t :=
        funext (table.lacks_newBinding type)
      rw [heq, hrest, List.filter_cons_of_pos hlacks, List.eraseDups_cons, List.filter_filter,
        List.map_append, List.append_assoc]
      rfl

theorem bindAll_append (table : CodecTable) (types more : List TypeRef) :
    table.bindAll (types ++ more) =
      ((table.bindAll types).1 ++ ((table.bindAll types).2.bindAll more).1,
        ((table.bindAll types).2.bindAll more).2) := by
  induction types generalizing table with
  | nil => rfl
  | cons type rest ih => simp only [List.cons_append, bindAll, ih]

end CodecTable

theorem descriptorEntries_eq (table : CodecTable) (ms : List Method) :
    (Service.descriptorEntries table ms).2 =
        (table.bindAll (ms.flatMap (fun m => [m.requestType, m.response]))).2 ∧
      ((Service.descriptorEntries table ms).1.flatMap DescriptorEntry.uses).map (·.2) =
        (table.bindAll (ms.flatMap (fun m => [m.requestType, m.response]))).1 := by
  induction ms generalizing table with
  | nil => exact ⟨rfl, rfl⟩
  | cons m ms ih =>
    obtain ⟨htable, hcodecs⟩ := ih (m.descriptorEntry table).2
    refine ⟨htable, ?_⟩
    rw [Service.descriptorEntries]
    simp only [List.flatMap_cons, List.map_append, hcodecs]
    rfl

theorem descriptorArtifact_codecs (s : Service) :
    s.descriptorArtifact.codecs = (CodecTable.bindAll [] s.sentTypes).2 :=
  (descriptorEntries_eq [] s.methods).1

theorem descriptorArtifact_uses (s : Service) :
    (s.descriptorArtifact.entries.flatMap DescriptorEntry.uses).map (·.2) =
      (CodecTable.bindAll [] s.sentTypes).1 :=
  (descriptorEntries_eq [] s.methods).2

/-- The codecs of a service are those of the types that it sends, each once, in the order in which
they are first met. The same codecs are found with an index. At each point of such a run the index
is in step with the table, so no look-up leads out of it. -/
theorem codecs_bound_once (s : Service) :
    s.descriptorArtifact.codecs.map (·.type) = (s.sentTypes.filter (· ≠ .unit)).eraseDups ∧
    (∀ b ∈ s.descriptorArtifact.codecs, b.canonicalName = b.type.canonicalName) ∧
    ∀ before rest, s.sentTypes = before ++ rest →
      ∃ codecs index codecs' index', CodecIndex.empty.bindAll before = .ok (codecs, index) ∧
        index.InStep ∧ index.bindAll rest = .ok (codecs', index') ∧
        (s.descriptorArtifact.entries.flatMap DescriptorEntry.uses).map (·.2) = codecs ++ codecs' ∧
        s.descriptorArtifact.codecs = index'.bindings := by
  rw [descriptorArtifact_codecs, descriptorArtifact_uses]
  obtain ⟨hnames, htypes⟩ := CodecTable.bindAll_types CodecTable.wellNamed_nil s.sentTypes
  refine ⟨?_, hnames.canonical, ?_⟩
  · have hlacks : CodecTable.lacks [] = fun t => decide (t ≠ .unit) := by
      funext t
      simp [CodecTable.lacks]
    rw [htypes, hlacks]
    rfl
  · intro before rest hsplit
    obtain ⟨index, hrun, hbindings, hmirrors⟩ := CodecIndex.mirrors_empty.bindAll before
    obtain ⟨index', hrun', hbindings', -⟩ := hmirrors.bindAll rest
    have hbefore := (CodecTable.bindAll_types CodecTable.wellNamed_nil before).1
    rw [hbindings] at hrun' hbindings'
    refine ⟨_, index, _, index', hrun, hmirrors.inStep (hbindings ▸ hbefore), hrun', ?_, ?_⟩
    · rw [hsplit, CodecTable.bindAll_append]
      rfl
    · rw [hsplit, CodecTable.bindAll_append, hbindings']
      rfl

-- Three types of one canonical name, the last of which is met twice.
example : (CodecIndex.empty.bindAll [⟨"Vec", [.named "String"]⟩, .named "StringVec", .unit,
      .named "u8", .named "string::Vec", .named "StringVec", .named "string::Vec"]).toOption.map
        (fun result => (result.1, result.2.byName.entries)) =
    some ([.binding "string_vec_codec", .binding "string_vec_2_codec", .unit,
        .binding "u8_codec", .binding "string_vec_3_codec", .binding "string_vec_2_codec",
        .binding "string_vec_3_codec"],
      [("StringVec", [0, 1, 3]), ("U8", [2])]) := by decide +kernel

end RpcStubs
