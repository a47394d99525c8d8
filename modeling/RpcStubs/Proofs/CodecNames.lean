import RpcStubs.Proofs.Consistency

/-!
# Names of codecs

Each type that a service sends has one binding, and an entry refers to the bindings of its types.
The bindings of one canonical name are numbered, but two canonical names may be spelled alike in
snake case, and then a name leads to more than one binding.
-/

namespace RpcStubs

theorem TypeRef.isUnit_iff (type : TypeRef) : type.isUnit = true ↔ type = .unit := by
  obtain ⟨name, args⟩ := type
  simp [isUnit, unit, named]

namespace CodecTable

/-- The codec of a type is that of its only binding. -/
def Refers (table : CodecTable) (type : TypeRef) (codec : CodecRef) : Prop :=
  (codec = .unit ↔ type = .unit) ∧
  (type ≠ .unit → ∃ b, codec = .binding b.ident ∧ table.filter (·.type = type) = [b])

/-- The codec of a type leads to one binding, which is that of the type. -/
def Resolves (table : CodecTable) (type : TypeRef) (codec : CodecRef) : Prop :=
  (codec = .unit ↔ type = .unit) ∧
  (type ≠ .unit → ∃ b, codec = .binding b.ident ∧ b.type = type ∧
    table.filter (·.ident = b.ident) = [b])

/-- No two canonical names are spelled alike, nor is one spelled like another with a number. -/
structure SpelledApart (table : CodecTable) : Prop where
  names : ∀ b ∈ table, ∀ c ∈ table,
    Text.snakeCase b.canonicalName = Text.snakeCase c.canonicalName →
    b.canonicalName = c.canonicalName
  numbers : ∀ b ∈ table, ∀ c ∈ table, ∀ n, 2 ≤ n → n ≤ (table.ofName c.canonicalName).length →
    Text.snakeCase b.canonicalName ≠ Text.snakeCase c.canonicalName ++ "_" ++ toString n

/-! ## Numbers -/

theorem underscore_not_mem_toString (n : Nat) : '_' ∉ (toString n).toList := by
  rw [Nat.toString_eq_repr, Nat.toList_repr]
  intro h
  cases Nat.isDigit_of_mem_toDigits (by decide) (by decide) h

theorem append_underscore_inj {a b u v : List Char} (hu : '_' ∉ u) (hv : '_' ∉ v)
    (h : a ++ '_' :: u = b ++ '_' :: v) : a = b ∧ u = v := by
  rcases List.append_eq_append_iff.mp h with ⟨w, rfl, hw⟩ | ⟨w, rfl, hw⟩
  · cases w with
    | nil => simp_all
    | cons c w => simp_all
  · cases w with
    | nil => simp_all
    | cons c w => simp_all

/-- A number behind the last underscore can be told from the text before it. -/
theorem numbered_inj {s t : String} {m n : Nat}
    (h : s ++ "_" ++ toString m = t ++ "_" ++ toString n) : s = t ∧ m = n := by
  have hchars :
      s.toList ++ '_' :: (toString m).toList = t.toList ++ '_' :: (toString n).toList := by
    simpa using congrArg String.toList h
  obtain ⟨htext, hnumber⟩ := append_underscore_inj (underscore_not_mem_toString m)
    (underscore_not_mem_toString n) hchars
  exact ⟨String.toList_inj.mp htext, Nat.repr_inj.mp (String.toList_inj.mp hnumber)⟩

theorem ne_numbered (s : String) (n : Nat) : s ≠ s ++ "_" ++ toString n := by
  intro h
  have hlength := congrArg String.length h
  rw [String.length_append, String.length_append, show "_".length = 1 from rfl] at hlength
  omega

theorem identOf_zero (canonical : String) :
    identOf canonical 0 = Text.snakeCase canonical ++ "_codec" := rfl

theorem identOf_succ (canonical : String) (n : Nat) :
    identOf canonical (n + 1) =
      Text.snakeCase canonical ++ "_" ++ toString (n + 2) ++ "_codec" := rfl

theorem identOf_eq {x y : String} {m n : Nat} (h : identOf x m = identOf y n) :
    (m = n ∧ Text.snakeCase x = Text.snakeCase y) ∨
    (1 ≤ n ∧ Text.snakeCase x = Text.snakeCase y ++ "_" ++ toString (n + 1)) ∨
    (1 ≤ m ∧ Text.snakeCase y = Text.snakeCase x ++ "_" ++ toString (m + 1)) := by
  cases m with
  | zero =>
    cases n with
    | zero =>
      rw [identOf_zero, identOf_zero, String.append_left_inj] at h
      exact Or.inl ⟨rfl, h⟩
    | succ n =>
      rw [identOf_zero, identOf_succ, String.append_left_inj] at h
      exact Or.inr (Or.inl ⟨by omega, h⟩)
  | succ m =>
    cases n with
    | zero =>
      rw [identOf_zero, identOf_succ, String.append_left_inj] at h
      exact Or.inr (Or.inr ⟨by omega, h.symm⟩)
    | succ n =>
      rw [identOf_succ, identOf_succ, String.append_left_inj] at h
      obtain ⟨hname, hnumber⟩ := numbered_inj h
      exact Or.inl ⟨by omega, hname⟩

theorem identOf_inj {canonical : String} {m n : Nat}
    (h : identOf canonical m = identOf canonical n) : m = n := by
  rcases identOf_eq h with ⟨hmn, -⟩ | ⟨-, hname⟩ | ⟨-, hname⟩
  · exact hmn
  · exact absurd hname (ne_numbered _ _)
  · exact absurd hname (ne_numbered _ _)

/-! ## Tables -/

/-- What holds of a table after any number of types. The bindings of a canonical name are numbered
from zero, in order. -/
structure WellNamed (table : CodecTable) : Prop where
  noUnit : ∀ b ∈ table, b.type ≠ .unit
  types : (table.map (·.type)).Nodup
  canonical : ∀ b ∈ table, b.canonicalName = b.type.canonicalName
  idents : ∀ (canonical : String) (n : Nat) (b : CodecBinding),
    (table.ofName canonical)[n]? = some b → b.ident = identOf canonical n

theorem mem_ofName {table : CodecTable} {canonical : String} {b : CodecBinding} :
    b ∈ table.ofName canonical ↔ b ∈ table ∧ b.canonicalName = canonical := by
  simp [ofName]

theorem wellNamed_nil : WellNamed [] := by
  constructor <;> simp [ofName]

def newBinding (table : CodecTable) (type : TypeRef) : CodecBinding :=
  ⟨identOf type.canonicalName (table.ofName type.canonicalName).length, type.canonicalName, type⟩

theorem bind_cases {table : CodecTable} (h : table.WellNamed) (type : TypeRef) :
    (type = .unit ∧ table.bind type = (.unit, table)) ∨
    (∃ b ∈ table, b.type = type ∧ table.bind type = (.binding b.ident, table)) ∨
    (type ≠ .unit ∧ (∀ b ∈ table, b.type ≠ type) ∧
      table.bind type =
        (.binding (table.newBinding type).ident, table ++ [table.newBinding type])) := by
  by_cases hunit : type = .unit
  · left
    exact ⟨hunit, by simp [bind, (TypeRef.isUnit_iff type).mpr hunit]⟩
  right
  have hnot : type.isUnit = false := by simpa [← TypeRef.isUnit_iff] using hunit
  cases hfind : (table.ofName type.canonicalName).find? (·.type = type) with
  | some b =>
    left
    have hb := (mem_ofName.mp (List.mem_of_find?_eq_some hfind)).1
    have htype : b.type = type := by simpa using List.find?_some hfind
    exact ⟨b, hb, htype, by simp [bind, hnot, hfind]⟩
  | none =>
    right
    refine ⟨hunit, ?_, by simp [bind, hnot, hfind, newBinding]⟩
    -- A binding of the type has its canonical name, so it would have been found.
    intro b hb htype
    have hname : b ∈ table.ofName type.canonicalName :=
      mem_ofName.mpr ⟨hb, htype ▸ h.canonical b hb⟩
    simpa [htype] using List.find?_eq_none.mp hfind b hname

theorem ofName_snoc (table : CodecTable) (b : CodecBinding) (canonical : String) :
    ofName (table ++ [b]) canonical =
      table.ofName canonical ++ if b.canonicalName = canonical then [b] else [] := by
  rw [ofName, List.filter_append, ← ofName, List.filter_singleton]
  simp

theorem WellNamed.snoc {table : CodecTable} (h : table.WellNamed) {type : TypeRef}
    (hunit : type ≠ .unit) (hnew : ∀ b ∈ table, b.type ≠ type) :
    WellNamed (table ++ [table.newBinding type]) := by
  constructor
  case noUnit => simpa [or_imp, forall_and, newBinding] using ⟨h.noUnit, hunit⟩
  case types =>
    rw [List.map_append, List.nodup_append]
    refine ⟨h.types, by simp, ?_⟩
    rintro t ht u hu rfl
    obtain ⟨b, hb, rfl⟩ := List.mem_map.mp ht
    exact hnew b hb (by simpa [newBinding] using hu)
  case canonical => simpa [or_imp, forall_and, newBinding] using h.canonical
  case idents =>
    intro canonical n b hb
    rw [ofName_snoc] at hb
    -- An old binding of the name, the new one, or a number past both.
    rcases Nat.lt_trichotomy n (table.ofName canonical).length with hlt | rfl | hlt
    · rw [List.getElem?_append_left hlt] at hb
      exact h.idents canonical n b hb
    · rw [List.getElem?_append_right le_rfl, Nat.sub_self] at hb
      split at hb
      next hname =>
        cases hb
        rw [← hname]
        rfl
      · cases hb
    · rw [List.getElem?_append_right hlt.le] at hb
      split at hb
      · rw [List.getElem?_singleton, if_neg (by omega)] at hb
        cases hb
      · cases hb

/-- A codec that a table has for a type. -/
inductive Gives (table : CodecTable) : TypeRef → CodecRef → Prop where
  | unit : Gives table .unit .unit
  | binding {b : CodecBinding} : b ∈ table → Gives table b.type (.binding b.ident)

theorem Gives.mono {table table' : CodecTable} (hsub : table ⊆ table') {type : TypeRef}
    {codec : CodecRef} (h : table.Gives type codec) : table'.Gives type codec := by
  cases h with
  | unit => exact .unit
  | binding hb => exact .binding (hsub hb)

/-- A table that has been extended for some types, each of which was given a codec. -/
structure Extends (table table' : CodecTable) (uses : List (TypeRef × CodecRef)) : Prop where
  wellNamed : table'.WellNamed
  subset : table ⊆ table'
  gives : ∀ use ∈ uses, table'.Gives use.1 use.2
  used : ∀ b ∈ table', b ∈ table ∨ ∃ use ∈ uses, use.1 = b.type

theorem Extends.refl {table : CodecTable} (h : table.WellNamed) : table.Extends table [] :=
  ⟨h, List.Subset.refl _, by simp, fun _ hb => Or.inl hb⟩

theorem Extends.trans {t₁ t₂ t₃ : CodecTable} {xs ys : List (TypeRef × CodecRef)}
    (h : t₁.Extends t₂ xs) (h' : t₂.Extends t₃ ys) : t₁.Extends t₃ (xs ++ ys) := by
  constructor
  case wellNamed => exact h'.wellNamed
  case subset => exact List.Subset.trans h.subset h'.subset
  case gives =>
    intro use huse
    rcases List.mem_append.mp huse with huse | huse
    · exact (h.gives use huse).mono h'.subset
    · exact h'.gives use huse
  case used =>
    intro b hb
    rcases h'.used b hb with hb | ⟨use, huse, heq⟩
    · rcases h.used b hb with hb | ⟨use, huse, heq⟩
      · exact Or.inl hb
      · exact Or.inr ⟨use, List.mem_append_left _ huse, heq⟩
    · exact Or.inr ⟨use, List.mem_append_right _ huse, heq⟩

theorem extends_bind {table : CodecTable} (h : table.WellNamed) (type : TypeRef) :
    table.Extends (table.bind type).2 [(type, (table.bind type).1)] := by
  rcases bind_cases h type with ⟨rfl, heq⟩ | ⟨b, hb, rfl, heq⟩ | ⟨hunit, hnew, heq⟩
  · rw [heq]
    exact ⟨h, List.Subset.refl _, by simpa using Gives.unit, fun _ hb => Or.inl hb⟩
  · rw [heq]
    exact ⟨h, List.Subset.refl _, by simpa using Gives.binding hb, fun _ hb => Or.inl hb⟩
  · rw [heq]
    have hgives : Gives (table ++ [table.newBinding type]) type
        (.binding (table.newBinding type).ident) :=
      Gives.binding (b := table.newBinding type) (by simp)
    refine ⟨h.snoc hunit hnew, List.subset_append_left _ _, by simpa using hgives, ?_⟩
    intro b hb
    rcases List.mem_append.mp hb with hb | hb
    · exact Or.inl hb
    · rw [List.mem_singleton.mp hb]
      exact Or.inr ⟨_, List.mem_singleton.mpr rfl, rfl⟩

end CodecTable

/-! ## Entries -/

def DescriptorEntry.uses (entry : DescriptorEntry) : List (TypeRef × CodecRef) :=
  [(entry.requestType, entry.requestCodec), (entry.responseType, entry.responseCodec)]

theorem extends_descriptorEntry {table : CodecTable} (h : table.WellNamed) (m : Method) :
    table.Extends (m.descriptorEntry table).2 (m.descriptorEntry table).1.uses := by
  have hrequest := CodecTable.extends_bind h m.requestType
  exact hrequest.trans (CodecTable.extends_bind hrequest.wellNamed m.response)

theorem extends_descriptorEntries {table : CodecTable} (h : table.WellNamed) (ms : List Method) :
    table.Extends (Service.descriptorEntries table ms).2
      ((Service.descriptorEntries table ms).1.flatMap DescriptorEntry.uses) := by
  induction ms generalizing table with
  | nil => exact .refl h
  | cons m ms ih =>
    have hentry := extends_descriptorEntry h m
    exact hentry.trans (ih hentry.wellNamed)

theorem extends_descriptorArtifact (s : Service) :
    CodecTable.Extends [] s.descriptorArtifact.codecs
      (s.descriptorArtifact.entries.flatMap DescriptorEntry.uses) :=
  extends_descriptorEntries CodecTable.wellNamed_nil s.methods

/-! ## Names that lead to bindings -/

namespace CodecTable

variable {table : CodecTable}

theorem filter_of_nodup_map {β : Type} [DecidableEq β] (f : CodecBinding → β)
    (h : (table.map f).Nodup) {b : CodecBinding} (hb : b ∈ table) :
    table.filter (fun c => f c = f b) = [b] := by
  rw [List.Nodup, List.pairwise_map] at h
  exact filter_eq_singleton f table b h hb

theorem Gives.refers (h : table.WellNamed) {type : TypeRef} {codec : CodecRef}
    (hgives : table.Gives type codec) : table.Refers type codec := by
  cases hgives with
  | unit => exact ⟨by simp, fun hunit => absurd rfl hunit⟩
  | @binding b hb =>
    refine ⟨by simpa using h.noUnit b hb, fun _ => ⟨b, rfl, ?_⟩⟩
    exact filter_of_nodup_map (·.type) h.types hb

theorem Gives.resolves (h : table.WellNamed) (hidents : (table.map (·.ident)).Nodup)
    {type : TypeRef} {codec : CodecRef} (hgives : table.Gives type codec) :
    table.Resolves type codec := by
  cases hgives with
  | unit => exact ⟨by simp, fun hunit => absurd rfl hunit⟩
  | @binding b hb =>
    refine ⟨by simpa using h.noUnit b hb, fun _ => ⟨b, rfl, rfl, ?_⟩⟩
    exact filter_of_nodup_map (·.ident) hidents hb

theorem WellNamed.eq_of_type (h : table.WellNamed) {b c : CodecBinding} (hb : b ∈ table)
    (hc : c ∈ table) (heq : b.type = c.type) : b = c :=
  List.inj_on_of_nodup_map h.types hb hc heq

theorem WellNamed.nodup_idents_iff (h : table.WellNamed) :
    (table.map (·.ident)).Nodup ↔ ∀ b ∈ table, ∀ c ∈ table, b.ident = c.ident → b = c :=
  List.nodup_map_iff_inj_on (List.Nodup.of_map _ h.types)

theorem exists_number {b : CodecBinding} (hb : b ∈ table) :
    ∃ n : Nat, (table.ofName b.canonicalName)[n]? = some b :=
  List.getElem?_of_mem (mem_ofName.mpr ⟨hb, rfl⟩)

theorem canonicalName_of_number {canonical : String} {n : Nat} {b : CodecBinding}
    (h : (table.ofName canonical)[n]? = some b) : b ∈ table ∧ b.canonicalName = canonical :=
  mem_ofName.mp (List.mem_of_getElem? h)

theorem WellNamed.eq_of_canonicalName (h : table.WellNamed) {b c : CodecBinding} (hb : b ∈ table)
    (hc : c ∈ table) (hname : b.canonicalName = c.canonicalName) (hident : b.ident = c.ident) :
    b = c := by
  obtain ⟨m, hm⟩ := exists_number hb
  obtain ⟨n, hn⟩ := exists_number hc
  rw [hname] at hm
  rw [h.idents _ m b hm, h.idents _ n c hn] at hident
  obtain rfl := identOf_inj hident
  rw [hm] at hn
  exact Option.some.inj hn

theorem WellNamed.exists_first (h : table.WellNamed) {b : CodecBinding} (hb : b ∈ table) :
    ∃ c ∈ table, c.canonicalName = b.canonicalName ∧
      c.ident = Text.snakeCase b.canonicalName ++ "_codec" := by
  obtain ⟨n, hn⟩ := exists_number hb
  obtain ⟨hlt, -⟩ := List.getElem?_eq_some_iff.mp hn
  have hfirst := List.getElem?_eq_getElem (Nat.zero_lt_of_lt hlt)
  obtain ⟨hmem, hname⟩ := canonicalName_of_number hfirst
  exact ⟨_, hmem, hname, h.idents _ 0 _ hfirst⟩

theorem WellNamed.spelledApart (h : table.WellNamed)
    (hidents : ∀ b ∈ table, ∀ c ∈ table, b.ident = c.ident → b = c) : table.SpelledApart := by
  constructor
  case names =>
    intro b hb c hc hspelled
    obtain ⟨b', hb', hbname, hbident⟩ := h.exists_first hb
    obtain ⟨c', hc', hcname, hcident⟩ := h.exists_first hc
    have heq := hidents b' hb' c' hc' (by rw [hbident, hcident, hspelled])
    rw [← hbname, ← hcname, heq]
  case numbers =>
    intro b hb c _ n htwo hn hspelled
    obtain ⟨b', hb', hbname, hbident⟩ := h.exists_first hb
    obtain ⟨m, rfl⟩ := Nat.exists_eq_add_of_le' htwo
    have hlt : m + 1 < (table.ofName c.canonicalName).length := by omega
    have hnumber := List.getElem?_eq_getElem hlt
    obtain ⟨hmem, hcname⟩ := canonicalName_of_number hnumber
    have hcident := h.idents _ (m + 1) _ hnumber
    have heq := hidents b' hb' _ hmem (by rw [hbident, hcident, identOf_succ, hspelled])
    have hname : b.canonicalName = c.canonicalName := by rw [← hbname, heq, hcname]
    rw [hname] at hspelled
    exact ne_numbered _ _ hspelled

theorem WellNamed.eq_of_ident (h : table.WellNamed) (hapart : table.SpelledApart)
    {b c : CodecBinding} (hb : b ∈ table) (hc : c ∈ table) (hident : b.ident = c.ident) :
    b = c := by
  obtain ⟨m, hm⟩ := exists_number hb
  obtain ⟨n, hn⟩ := exists_number hc
  obtain ⟨hmlt, -⟩ := List.getElem?_eq_some_iff.mp hm
  obtain ⟨hnlt, -⟩ := List.getElem?_eq_some_iff.mp hn
  have heq : identOf b.canonicalName m = identOf c.canonicalName n := by
    rw [← h.idents _ m b hm, ← h.idents _ n c hn, hident]
  rcases identOf_eq heq with ⟨-, hspelled⟩ | ⟨hone, hspelled⟩ | ⟨hone, hspelled⟩
  · exact h.eq_of_canonicalName hb hc (hapart.names b hb c hc hspelled) hident
  · exact absurd hspelled (hapart.numbers b hb c hc (n + 1) (by omega) (by omega))
  · exact absurd hspelled (hapart.numbers c hc b hb (m + 1) (by omega) (by omega))

theorem WellNamed.nodup_idents_iff_spelledApart (h : table.WellNamed) :
    (table.map (·.ident)).Nodup ↔ table.SpelledApart := by
  rw [h.nodup_idents_iff]
  constructor
  · exact h.spelledApart
  · intro hapart b hb c hc
    exact h.eq_of_ident hapart hb hc

theorem Resolves.ident_unique (h : table.WellNamed) {b c : CodecBinding} {codec : CodecRef}
    (hresolves : table.Resolves b.type codec) (hb : b ∈ table) (hc : c ∈ table)
    (hident : b.ident = c.ident) : b = c := by
  obtain ⟨b', -, htype, hfilter⟩ := hresolves.2 (h.noUnit b hb)
  have hb' : b' ∈ table := List.mem_of_mem_filter (hfilter ▸ List.mem_singleton.mpr rfl)
  obtain rfl := h.eq_of_type hb' hb htype
  have hmem : c ∈ table.filter (·.ident = b'.ident) := by simp [hc, hident]
  rw [hfilter] at hmem
  exact (List.mem_singleton.mp hmem).symm

end CodecTable

/-- The codecs of an entry are those of the only bindings of its types, and unit has none. They
can be found by name if and only if no name is used twice, which depends on how the canonical
names are spelled. Bindings of one canonical name always have different names. -/
theorem codecs_resolve_iff (s : Service) :
    (∀ entry ∈ s.descriptorArtifact.entries, ∀ use ∈ entry.uses,
      CodecTable.Refers s.descriptorArtifact.codecs use.1 use.2) ∧
    (∀ b ∈ s.descriptorArtifact.codecs, ∀ c ∈ s.descriptorArtifact.codecs,
      b.canonicalName = c.canonicalName → b.ident = c.ident → b = c) ∧
    ((∀ entry ∈ s.descriptorArtifact.entries, ∀ use ∈ entry.uses,
        CodecTable.Resolves s.descriptorArtifact.codecs use.1 use.2) ↔
      (s.descriptorArtifact.codecs.map (·.ident)).Nodup) ∧
    ((s.descriptorArtifact.codecs.map (·.ident)).Nodup ↔
      CodecTable.SpelledApart s.descriptorArtifact.codecs) := by
  have hextends := extends_descriptorArtifact s
  have h := hextends.wellNamed
  have hgives : ∀ entry ∈ s.descriptorArtifact.entries, ∀ use ∈ entry.uses,
      CodecTable.Gives s.descriptorArtifact.codecs use.1 use.2 := by
    intro entry hentry use huse
    exact hextends.gives use (List.mem_flatMap.mpr ⟨entry, hentry, huse⟩)
  refine ⟨?_, ?_, ⟨?_, ?_⟩, h.nodup_idents_iff_spelledApart⟩
  · intro entry hentry use huse
    exact (hgives entry hentry use huse).refers h
  · intro b hb c hc
    exact h.eq_of_canonicalName hb hc
  · intro hresolves
    rw [h.nodup_idents_iff]
    intro b hb c hc hident
    rcases hextends.used b hb with hnil | ⟨use, huse, htype⟩
    · cases hnil
    · obtain ⟨entry, hentry, huse⟩ := List.mem_flatMap.mp huse
      have hres := hresolves entry hentry use huse
      rw [htype] at hres
      exact hres.ident_unique h hb hc hident
  · intro hidents entry hentry use huse
    exact (hgives entry hentry use huse).resolves h hidents

-- The letter of the first type has three characters in upper case, and two of them end a word.
example : Text.snakeCase (TypeRef.named "ΐ2").canonicalName =
    Text.snakeCase (TypeRef.named "Ι").canonicalName ++ "_" ++ toString 2 := by decide +kernel

def taking (name : String) (type : TypeRef) : MethodDecl :=
  ⟨name, [⟨"unary", .empty⟩], [⟨"x", type⟩], none, true, []⟩

/-- The canonical names of two types, `AB` and `Ab`, are spelled alike. -/
def alike : Declaration where
  name := "Echo"
  package := ""
  kind := .interface
  markers := [⟨Marker.service, .empty⟩]
  methods := [taking "a" ⟨"B", [.named "A"]⟩, taking "b" (.named "Ab")]
  docs := []

/-- Both bindings have one name, so the second hides the first. -/
theorem alike_codecs_not_resolved :
    ∃ s, Service.build alike = .ok s ∧
      s.descriptorArtifact.codecs =
        [⟨"ab_codec", "AB", ⟨"B", [.named "A"]⟩⟩, ⟨"ab_codec", "Ab", .named "Ab"⟩] ∧
      s.descriptorArtifact.entries.map DescriptorEntry.uses =
        [[(⟨"B", [.named "A"]⟩, .binding "ab_codec"), (.unit, .unit)],
          [(.named "Ab", .binding "ab_codec"), (.unit, .unit)]] ∧
      ¬ ∀ entry ∈ s.descriptorArtifact.entries, ∀ use ∈ entry.uses,
        CodecTable.Resolves s.descriptorArtifact.codecs use.1 use.2 := by
  have hrun : (Service.build alike).toOption.map
      (fun s => (s.descriptorArtifact.codecs, s.descriptorArtifact.entries.map
        DescriptorEntry.uses)) =
      some ([⟨"ab_codec", "AB", ⟨"B", [.named "A"]⟩⟩, ⟨"ab_codec", "Ab", .named "Ab"⟩],
        [[(⟨"B", [.named "A"]⟩, .binding "ab_codec"), (.unit, .unit)],
          [(.named "Ab", .binding "ab_codec"), (.unit, .unit)]]) := by decide +kernel
  cases hbuild : Service.build alike with
  | error e =>
    rw [hbuild] at hrun
    cases hrun
  | ok s =>
    rw [hbuild] at hrun
    simp only [Except.toOption, Option.map_some, Option.some.injEq, Prod.mk.injEq] at hrun
    obtain ⟨hcodecs, huses⟩ := hrun
    refine ⟨s, rfl, hcodecs, huses, ?_⟩
    intro hresolves
    have hmem : [(TypeRef.named "Ab", CodecRef.binding "ab_codec"), (.unit, .unit)] ∈
        s.descriptorArtifact.entries.map DescriptorEntry.uses := by simp [huses]
    obtain ⟨entry, hentry, heq⟩ := List.mem_map.mp hmem
    have hres := hresolves entry hentry (TypeRef.named "Ab", CodecRef.binding "ab_codec")
      (by simp [heq])
    obtain ⟨b, hident, -, hfilter⟩ := hres.2 (by decide)
    rw [hcodecs, ← CodecRef.binding.inj hident] at hfilter
    cases hfilter

end RpcStubs
