import RpcStubs.Proofs.Build

/-!
# Faults of a declaration

A declaration defines a service if its methods can be classified and all names that are made for
it differ. Else its first fault is reported: the kind, the marker, a method, two methods that
collide, and at last two files that collide.
-/

namespace RpcStubs

/-! ## Valid declarations -/

/-- Two of the four files, in the order in which they are compared. -/
def Role.pairs : List (Role × Role) :=
  [(.interface, .client), (.interface, .provider), (.interface, .descriptor),
    (.client, .provider), (.client, .descriptor), (.provider, .descriptor)]

def Service.fileOf (s : Service) : Role → FileId
  | .interface => s.interfaceFile
  | .client => s.clientFile
  | .provider => s.providerFile
  | .descriptor => s.descriptorFile

namespace Declaration

def serviceArg? (d : Declaration) (key : String) : Option String :=
  (d.marker? Marker.service).bind (·.arg key)

def wireName (d : Declaration) : String := (d.serviceArg? Marker.nameKey).getD d.name

/-- The service that a declaration describes, whether or not its names collide. Names that are not
given are made from the wire name, and methods that cannot be classified are left out. -/
def draft (d : Declaration) : Service where
  name := d.name
  package := d.package
  wireName := d.wireName
  clientName := (d.serviceArg? Marker.clientKey).getD (Service.defaultClientName d.wireName)
  providerName := (d.serviceArg? Marker.providerKey).getD (d.wireName ++ "Provider")
  descriptorName := d.wireName ++ "Descriptor"
  methods := d.methods.filterMap (fun m => (Method.classify m).toOption)
  docs := d.docs

def IsMarked (d : Declaration) : Prop := ∃ marker ∈ d.markers, marker.name = Marker.service

/-- An interface that is marked and whose methods can all be classified. -/
structure Readable (d : Declaration) : Prop where
  kind : d.kind = .interface
  marked : d.IsMarked
  methods : ∀ m ∈ d.methods, ∃ r, Method.classify m = .ok r

/-- A declaration whose names do not collide either. Only interface and client may have the same
type name. -/
structure Valid (d : Declaration) : Prop extends Readable d where
  wrappers : (d.draft.methods.filterMap (·.request.wrapper?)).Nodup
  wireNames : (d.draft.methods.map (·.wireName)).Nodup
  typeNames : ∀ p ∈ Role.pairs, p ≠ (.interface, .client) →
    (d.draft.fileOf p.1).name ≠ (d.draft.fileOf p.2).name
  modules : ∀ p ∈ Role.pairs, (d.draft.fileOf p.1).module ≠ (d.draft.fileOf p.2).module

end Declaration

/-! ## First faults -/

/-- Of the methods before `second`, `first` is the only one that has the same `key`. -/
def OnlyShares (key : Method → Option String) (earlier : List Method) (first second : Method)
    (name : String) : Prop :=
  ∃ front back, earlier = front ++ first :: back ∧ key first = some name ∧
    key second = some name ∧ ∀ m ∈ front ++ back, key m ≠ some name

/-- What the files of two roles share. The name of the type counts before that of the module. -/
inductive FilesShare (s : Service) (r r' : Role) : String → Prop where
  | type : (r, r') ≠ (.interface, .client) → (s.fileOf r).name = (s.fileOf r').name →
      FilesShare s r r' (s.fileOf r).name
  | module : ((s.fileOf r).name = (s.fileOf r').name → (r, r') = (.interface, .client)) →
      (s.fileOf r).module = (s.fileOf r').module → FilesShare s r r' (s.fileOf r).module

/-- The first fault of a declaration, as the error that reports it. Each case rules out those
before it. -/
inductive FirstFault (d : Declaration) : Error → Prop where
  | kind : d.kind ≠ .interface → FirstFault d (.notInterface d.name)
  | marker : d.kind = .interface → ¬ d.IsMarked → FirstFault d (.missingServiceMarker d.name)
  | method (before after : List MethodDecl) (m : MethodDecl) (cause : MethodError) :
      d.kind = .interface → d.IsMarked → d.methods = before ++ m :: after →
      (∀ x ∈ before, ∃ r, Method.classify x = .ok r) → Method.classify m = .error cause →
      FirstFault d (.method d.name m.name cause)
  | wrapper (earlier later : List Method) (first second : Method) (name : String) :
      d.Readable → d.draft.methods = earlier ++ second :: later → earlier.Pairwise Apart →
      OnlyShares (·.request.wrapper?) earlier first second name →
      FirstFault d (.wrapperCollision d.name name first.name second.name)
  | wireName (earlier later : List Method) (first second : Method) (name : String) :
      d.Readable → d.draft.methods = earlier ++ second :: later → earlier.Pairwise Apart →
      (∀ m ∈ earlier, ∀ w, second.request.wrapper? = some w → m.request.wrapper? ≠ some w) →
      OnlyShares (some ·.wireName) earlier first second name →
      FirstFault d (.duplicateWireName d.name name first.name second.name)
  | files (before after : List (Role × Role)) (r r' : Role) (name : String) :
      d.Readable → d.draft.methods.Pairwise Apart → Role.pairs = before ++ (r, r') :: after →
      (∀ p ∈ before, ∀ n, ¬ FilesShare d.draft p.1 p.2 n) → FilesShare d.draft r r' name →
      FirstFault d (.artifactCollision d.name name r r')

theorem FirstFault.service {d : Declaration} {e : Error} (h : FirstFault d e) :
    e.service? = some d.name := by
  cases h <;> rfl

/-! ## Methods that collide -/

theorem pairwise_apart_iff (ms : List Method) :
    ms.Pairwise Apart ↔
      (ms.filterMap (·.request.wrapper?)).Nodup ∧ (ms.map (·.wireName)).Nodup := by
  unfold List.Nodup
  rw [List.pairwise_filterMap, List.pairwise_map, ← List.pairwise_and_iff]
  have hiff : ∀ e m : Method, Apart e m ↔
      (∀ b, e.request.wrapper? = some b → ∀ b', m.request.wrapper? = some b' → b ≠ b') ∧
        e.wireName ≠ m.wireName := by
    intro e m
    unfold Apart
    constructor
    · rintro ⟨hw, hn⟩
      refine ⟨?_, hn⟩
      rintro b hb _ hb' rfl
      exact hw b hb' hb
    · rintro ⟨hw, hn⟩
      exact ⟨fun w hm he => hw w he w hm rfl, hn⟩
  exact List.Pairwise.iff (fun {e m} => hiff e m)

theorem onlyShares_of_find? {key : Method → Option String} {earlier : List Method}
    (hkeys : earlier.Pairwise (fun e m => ∀ n, key m = some n → key e ≠ some n))
    {first second : Method} {name : String} (hsecond : key second = some name) :
    earlier.find? (fun e => key e = some name) = some first ↔
      OnlyShares key earlier first second name := by
  rw [List.find?_eq_some_iff_append]
  simp only [decide_eq_true_eq, Bool.not_eq_true', decide_eq_false_iff_not]
  constructor
  · rintro ⟨hfirst, front, back, rfl, hfront⟩
    refine ⟨front, back, rfl, hfirst, hsecond, ?_⟩
    intro m hm
    rcases List.mem_append.mp hm with hm | hm
    · exact hfront m hm
    · -- A later one with the same key would not be apart from `first`.
      have hback := (List.pairwise_cons.mp (List.pairwise_append.mp hkeys).2.1).1 m hm
      intro heq
      exact hback name heq hfirst
  · rintro ⟨front, back, rfl, hfirst, -, hothers⟩
    exact ⟨hfirst, front, back, rfl, fun m hm => hothers m (List.mem_append_left _ hm)⟩

theorem wrapperClash?_eq_some {earlier : List Method} (hearlier : earlier.Pairwise Apart)
    (second : Method) (clash : Service.MethodCollision) :
    Service.wrapperClash? earlier second = some clash ↔ ∃ first name,
      OnlyShares (·.request.wrapper?) earlier first second name ∧
        clash = .wrapper name first.name second.name := by
  have hkeys := hearlier.imp (fun {e m} (h : Apart e m) => h.1)
  unfold Service.wrapperClash?
  cases hw : second.request.wrapper? with
  | none =>
    constructor
    · intro h; cases h
    · rintro ⟨first, name, ⟨_, _, _, _, h, _⟩, _⟩
      cases hw.symm.trans h
  | some w =>
    simp only [Option.map_eq_some_iff, onlyShares_of_find? hkeys hw]
    constructor
    · rintro ⟨first, hfirst, rfl⟩
      exact ⟨first, w, hfirst, rfl⟩
    · rintro ⟨first, name, hshares, rfl⟩
      obtain ⟨_, _, _, _, hname, _⟩ := id hshares
      cases hw.symm.trans hname
      exact ⟨first, hshares, rfl⟩

theorem wireNameClash?_eq_some {earlier : List Method} (hearlier : earlier.Pairwise Apart)
    (second : Method) (clash : Service.MethodCollision) :
    Service.wireNameClash? earlier second = some clash ↔ ∃ first name,
      OnlyShares (some ·.wireName) earlier first second name ∧
        clash = .wireName name first.name second.name := by
  have hkeys : earlier.Pairwise (fun e m => ∀ n, some m.wireName = some n →
      some e.wireName ≠ some n) := by
    refine hearlier.imp (fun {e m} (h : Apart e m) => ?_)
    rintro n hm he
    exact h.2 (Option.some.inj (he.trans hm.symm))
  have hfind : ∀ first, earlier.find? (·.wireName == second.wireName) = some first ↔
      OnlyShares (some ·.wireName) earlier first second second.wireName := by
    intro first
    rw [← onlyShares_of_find? hkeys rfl]
    simp [BEq.beq]
  unfold Service.wireNameClash?
  simp only [Option.map_eq_some_iff, hfind]
  constructor
  · rintro ⟨first, hfirst, rfl⟩
    exact ⟨first, _, hfirst, rfl⟩
  · rintro ⟨first, name, hshares, rfl⟩
    obtain ⟨_, _, _, _, hname, _⟩ := id hshares
    cases hname
    exact ⟨first, hshares, rfl⟩

theorem methodCollision?_eq_some (earlier ms : List Method) (clash : Service.MethodCollision) :
    Service.methodCollision? earlier ms = some clash ↔ ∃ before second after,
      ms = before ++ second :: after ∧ Service.methodCollision? earlier before = none ∧
        (Service.wrapperClash? (earlier ++ before) second <|>
          Service.wireNameClash? (earlier ++ before) second) = some clash := by
  induction ms generalizing earlier with
  | nil =>
    constructor
    · intro h; cases h
    · rintro ⟨before, second, after, h, -⟩
      simp at h
  | cons m rest ih =>
    rw [Service.methodCollision?]
    -- Either `m` collides and is `second`, or it stands among those before `second`.
    cases hc : Service.wrapperClash? earlier m <|> Service.wireNameClash? earlier m with
    | some c =>
      constructor
      · intro h
        exact ⟨[], m, rest, rfl, rfl, by simpa [hc] using h⟩
      · rintro ⟨before, second, after, h, hnone, hclash⟩
        cases before with
        | nil =>
          cases h
          simpa [hc] using hclash
        | cons b before =>
          cases h
          rw [Service.methodCollision?, hc] at hnone
          cases hnone
    | none =>
      simp only [ih]
      constructor
      · rintro ⟨before, second, after, rfl, hnone, hclash⟩
        refine ⟨m :: before, second, after, rfl, ?_, ?_⟩
        · rw [Service.methodCollision?, hc]
          exact hnone
        · simpa using hclash
      · rintro ⟨before, second, after, h, hnone, hclash⟩
        cases before with
        | nil =>
          cases h
          rw [List.append_nil, hc] at hclash
          cases hclash
        | cons b before =>
          cases h
          rw [Service.methodCollision?, hc] at hnone
          exact ⟨before, second, after, rfl, hnone, by simpa using hclash⟩

/-! ## Files that collide -/

theorem sharedName?_eq_some (s : Service) (r r' : Role) (name : String) :
    Service.sharedName? (r, s.fileOf r) (r', s.fileOf r') = some name ↔
      FilesShare s r r' name := by
  unfold Service.sharedName?
  constructor
  · intro h
    split at h
    · rename_i hshared
      cases h
      exact .type hshared.2 hshared.1
    · rename_i hshared
      split at h
      · rename_i hmodule
        cases h
        refine .module (fun hname => ?_) hmodule
        by_contra hne
        exact hshared ⟨hname, hne⟩
      · cases h
  · intro h
    cases h with
    | type hne hname => rw [if_pos ⟨hname, hne⟩]
    | module hname hmodule => rw [if_neg (fun h => h.2 (hname h.1)), if_pos hmodule]

theorem fileCollision?_cons (f : Role × FileId) (rest : List (Role × FileId)) :
    Service.fileCollision? (f :: rest) =
      (rest.findSome? (fun g => (Service.sharedName? f g).map (·, f.1, g.1))).or
        (Service.fileCollision? rest) := by
  rw [Service.fileCollision?]
  cases rest.findSome? (fun g => (Service.sharedName? f g).map (·, f.1, g.1)) <;> rfl

theorem fileCollision?_files (s : Service) :
    Service.fileCollision? s.files = Role.pairs.findSome? (fun p =>
      (Service.sharedName? (p.1, s.fileOf p.1) (p.2, s.fileOf p.2)).map (·, p.1, p.2)) := by
  have hcons : ∀ {α β : Type} (f : α → Option β) (a : α) (l : List α),
      (a :: l).findSome? f = (f a).or (l.findSome? f) := by
    intro α β f a l
    rw [List.findSome?_cons]
    cases f a <;> rfl
  have hnil : Service.fileCollision? [] = none := rfl
  simp only [Service.files, fileCollision?_cons, hnil, Role.pairs, hcons, List.findSome?_nil,
    Service.fileOf, Option.or_none, Option.or_assoc]

theorem fileCollision?_files_eq_none (s : Service) :
    Service.fileCollision? s.files = none ↔
      ∀ p ∈ Role.pairs, ∀ name, ¬ FilesShare s p.1 p.2 name := by
  rw [fileCollision?_files, List.findSome?_eq_none_iff]
  simp only [Option.map_eq_none_iff, ← sharedName?_eq_some, ← Option.eq_none_iff_forall_ne_some]

theorem fileCollision?_files_eq_some (s : Service) (name : String) (r r' : Role) :
    Service.fileCollision? s.files = some (name, r, r') ↔ ∃ before after,
      Role.pairs = before ++ (r, r') :: after ∧
        (∀ p ∈ before, ∀ n, ¬ FilesShare s p.1 p.2 n) ∧ FilesShare s r r' name := by
  rw [fileCollision?_files, List.findSome?_eq_some_iff]
  constructor
  · rintro ⟨before, ⟨q, q'⟩, after, hpairs, hfound, hbefore⟩
    obtain ⟨n, hn, heq⟩ := Option.map_eq_some_iff.mp hfound
    cases heq
    refine ⟨before, after, hpairs, ?_, (sharedName?_eq_some ..).mp hn⟩
    intro p hp n hshare
    have hnone := hbefore p hp
    rw [(sharedName?_eq_some ..).mpr hshare] at hnone
    cases hnone
  · rintro ⟨before, after, hpairs, hbefore, hshare⟩
    refine ⟨before, (r, r'), after, hpairs, ?_, ?_⟩
    · rw [(sharedName?_eq_some ..).mpr hshare]
      rfl
    · intro p hp
      rw [Option.map_eq_none_iff, Option.eq_none_iff_forall_ne_some]
      intro n hn
      exact hbefore p hp n ((sharedName?_eq_some ..).mp hn)

/-- A client that would share the module of the interface is moved. -/
theorem client_module_ne (s : Service) : s.interfaceFile.module ≠ s.clientFile.module := by
  unfold Service.clientFile
  simp only
  split
  · rename_i h
    rw [← h]
    intro heq
    have hlen := congrArg String.length heq
    rw [String.length_append] at hlen
    have : "_client".length = 7 := rfl
    omega
  · rename_i h
    exact fun heq => h heq.symm

/-! ## Building -/

theorem filesShare_iff (s : Service) :
    (∀ p ∈ Role.pairs, ∀ name, ¬ FilesShare s p.1 p.2 name) ↔
      (∀ p ∈ Role.pairs, p ≠ (.interface, .client) → (s.fileOf p.1).name ≠ (s.fileOf p.2).name) ∧
        ∀ p ∈ Role.pairs, (s.fileOf p.1).module ≠ (s.fileOf p.2).module := by
  constructor
  · intro h
    have hnames : ∀ p ∈ Role.pairs, p ≠ (.interface, .client) →
        (s.fileOf p.1).name ≠ (s.fileOf p.2).name :=
      fun p hp hne hname => h p hp _ (.type hne hname)
    refine ⟨hnames, fun p hp hmodule => h p hp _ (.module ?_ hmodule)⟩
    intro hname
    by_contra hne
    exact hnames p hp hne hname
  · rintro ⟨hnames, hmodules⟩ p hp name hshare
    cases hshare with
    | type hne hname => exact hnames p hp hne hname
    | module _ hmodule => exact hmodules p hp hmodule

theorem isMarked_iff (d : Declaration) :
    d.IsMarked ↔ ∃ marker, d.marker? Marker.service = some marker := by
  unfold Declaration.IsMarked Declaration.marker?
  rw [← Option.isSome_iff_exists, List.find?_isSome]
  simp

theorem classifyMethods_eq_mapM (service : String) (ds : List MethodDecl) :
    Service.classifyMethods service ds =
      ds.mapM (fun d => (Method.classify d).mapError (Error.method service d.name)) := by
  induction ds with
  | nil => rfl
  | cons d ds ih => rw [Service.classifyMethods, List.mapM_cons, ih]

theorem classifyMethods_eq_error (service : String) (ds : List MethodDecl) (e : Error) :
    Service.classifyMethods service ds = .error e ↔ ∃ before m after cause,
      ds = before ++ m :: after ∧ (∀ x ∈ before, ∃ r, Method.classify x = .ok r) ∧
        Method.classify m = .error cause ∧ e = .method service m.name cause := by
  rw [classifyMethods_eq_mapM, mapM_eq_error]
  simp only [mapError_eq_ok, mapError_eq_error]
  constructor
  · rintro ⟨before, m, after, hds, hbefore, cause, hcause, rfl⟩
    exact ⟨before, m, after, cause, hds, hbefore, hcause, rfl⟩
  · rintro ⟨before, m, after, cause, hds, hbefore, hcause, rfl⟩
    exact ⟨before, m, after, hds, hbefore, cause, hcause, rfl⟩

theorem classifyMethods_of_forall (service : String) (ds : List MethodDecl)
    (h : ∀ m ∈ ds, ∃ r, Method.classify m = .ok r) :
    Service.classifyMethods service ds =
      .ok (ds.filterMap (fun m => (Method.classify m).toOption)) := by
  rw [classifyMethods_eq_mapM, mapM_eq_ok]
  induction ds with
  | nil => exact .nil
  | cons d ds ih =>
    obtain ⟨⟨r, hr⟩, hrest⟩ := List.forall_mem_cons.mp h
    rw [List.filterMap_cons_some (b := r) (by rw [hr]; rfl)]
    exact .cons (by rw [hr]; rfl) (ih hrest)

theorem validate_eq_error (s : Service) (e : Error) :
    s.validate = .error e ↔
      (∃ name first second,
        Service.methodCollision? [] s.methods = some (.wrapper name first second) ∧
          e = .wrapperCollision s.name name first second) ∨
      (∃ name first second,
        Service.methodCollision? [] s.methods = some (.wireName name first second) ∧
          e = .duplicateWireName s.name name first second) ∨
      (Service.methodCollision? [] s.methods = none ∧ ∃ name r r',
        Service.fileCollision? s.files = some (name, r, r') ∧
          e = .artifactCollision s.name name r r') := by
  unfold Service.validate
  cases Service.methodCollision? [] s.methods with
  | some clash => cases clash <;> simp [eq_comm]
  | none =>
    cases Service.fileCollision? s.files with
    | none => simp
    | some clash =>
      obtain ⟨name, r, r'⟩ := clash
      simp [eq_comm]

theorem firstFault_of_clash {d : Declaration} (h : d.Readable) {clash : Service.MethodCollision} :
    Service.methodCollision? [] d.draft.methods = some clash ↔
      (∃ name first second, clash = .wrapper name first second ∧
        FirstFault d (.wrapperCollision d.name name first second)) ∨
      (∃ name first second, clash = .wireName name first second ∧
        FirstFault d (.duplicateWireName d.name name first second)) := by
  rw [methodCollision?_eq_some]
  simp only [List.nil_append, methodCollision?_eq_none, List.not_mem_nil, false_implies,
    implies_true, true_and, Option.orElse_eq_orElse, Option.orElse_eq_or, Option.or_eq_some_iff]
  constructor
  · rintro ⟨earlier, second, later, hmethods, hearlier, hclash | ⟨hnone, hclash⟩⟩
    · obtain ⟨first, name, hshares, rfl⟩ := (wrapperClash?_eq_some hearlier ..).mp hclash
      exact Or.inl ⟨_, _, _, rfl, .wrapper _ _ _ _ _ h hmethods hearlier hshares⟩
    · obtain ⟨first, name, hshares, rfl⟩ := (wireNameClash?_eq_some hearlier ..).mp hclash
      rw [wrapperClash?_eq_none] at hnone
      exact Or.inr ⟨_, _, _, rfl, .wireName _ _ _ _ _ h hmethods hearlier hnone hshares⟩
  · rintro (⟨name, first, second, rfl, hfault⟩ | ⟨name, first, second, rfl, hfault⟩)
    · cases hfault with
      | wrapper earlier later first second name _ hmethods hearlier hshares =>
        refine ⟨earlier, second, later, hmethods, hearlier, Or.inl ?_⟩
        exact (wrapperClash?_eq_some hearlier ..).mpr ⟨first, name, hshares, rfl⟩
    · cases hfault with
      | wireName earlier later first second name _ hmethods hearlier hnone hshares =>
        refine ⟨earlier, second, later, hmethods, hearlier, Or.inr ⟨?_, ?_⟩⟩
        · exact (wrapperClash?_eq_none ..).mpr hnone
        · exact (wireNameClash?_eq_some hearlier ..).mpr ⟨first, name, hshares, rfl⟩

theorem validate_draft {d : Declaration} (h : d.Readable) (e : Error) :
    d.draft.validate = .error e ↔ FirstFault d e := by
  have hname : d.draft.name = d.name := rfl
  have hapart : Service.methodCollision? [] d.draft.methods = none ↔
      d.draft.methods.Pairwise Apart := by
    simp [methodCollision?_eq_none]
  rw [validate_eq_error, hname, hapart]
  simp only [firstFault_of_clash h, fileCollision?_files_eq_some]
  constructor
  · rintro (⟨name, first, second, hclash, rfl⟩ | ⟨name, first, second, hclash, rfl⟩ |
      ⟨hmethods, name, r, r', ⟨before, after, hpairs, hbefore, hshare⟩, rfl⟩)
    · rcases hclash with ⟨_, _, _, heq, hfault⟩ | ⟨_, _, _, heq, -⟩
      · cases heq
        exact hfault
      · cases heq
    · rcases hclash with ⟨_, _, _, heq, -⟩ | ⟨_, _, _, heq, hfault⟩
      · cases heq
      · cases heq
        exact hfault
    · exact .files before after r r' name h hmethods hpairs hbefore hshare
  · intro hfault
    cases hfault with
    | kind hk => exact absurd h.kind hk
    | marker _ hm => exact absurd h.marked hm
    | method before after m cause _ _ hmethods _ hcause =>
      obtain ⟨r, hr⟩ := h.methods m (by rw [hmethods]; simp)
      cases hcause.symm.trans hr
    | wrapper earlier later first second name _ hmethods hearlier hshares =>
      refine Or.inl ⟨_, _, _, Or.inl ⟨_, _, _, rfl, ?_⟩, rfl⟩
      exact .wrapper _ _ _ _ _ h hmethods hearlier hshares
    | wireName earlier later first second name _ hmethods hearlier hnone hshares =>
      refine Or.inr (Or.inl ⟨_, _, _, Or.inr ⟨_, _, _, rfl, ?_⟩, rfl⟩)
      exact .wireName _ _ _ _ _ h hmethods hearlier hnone hshares
    | files before after r r' name _ hmethods hpairs hbefore hshare =>
      exact Or.inr (Or.inr ⟨hmethods, name, r, r', ⟨before, after, hpairs, hbefore, hshare⟩, rfl⟩)

theorem build_of_kind {d : Declaration} (h : d.kind ≠ .interface) :
    Service.build d = .error (.notInterface d.name) := by
  unfold Service.build
  simp only [ne_eq, h, not_false_eq_true, if_true]
  rfl

theorem build_of_unmarked {d : Declaration} (hkind : d.kind = .interface)
    (hmarked : ¬ d.IsMarked) : Service.build d = .error (.missingServiceMarker d.name) := by
  have hnone : d.marker? Marker.service = none := by
    rw [isMarked_iff, not_exists] at hmarked
    exact Option.eq_none_iff_forall_ne_some.mpr hmarked
  unfold Service.build
  simp only [hkind, ne_eq, not_true_eq_false, if_false, hnone]
  rfl

theorem ofMarker_eq_draft {d : Declaration} {marker : Marker}
    (h : d.marker? Marker.service = some marker) (methods : List Method) :
    Service.ofMarker d marker methods = { d.draft with methods := methods } := by
  simp [Service.ofMarker, Declaration.draft, Declaration.wireName, Declaration.serviceArg?, h,
    Service.defaultProviderName, Service.defaultDescriptorName]

theorem build_of_marked {d : Declaration} (hkind : d.kind = .interface) (hmarked : d.IsMarked) :
    Service.build d = Service.classifyMethods d.name d.methods >>= fun methods =>
      { d.draft with methods := methods }.validate >>= fun _ =>
        .ok { d.draft with methods := methods } := by
  obtain ⟨marker, hmarker⟩ := (isMarked_iff d).mp hmarked
  unfold Service.build
  simp only [hkind, ne_eq, not_true_eq_false, if_false, hmarker, ofMarker_eq_draft hmarker]
  rfl

theorem build_of_readable {d : Declaration} (h : d.Readable) :
    Service.build d = d.draft.validate >>= fun _ => .ok d.draft := by
  rw [build_of_marked h.kind h.marked, classifyMethods_of_forall d.name d.methods h.methods]
  rfl

theorem readable_of_classifyMethods {d : Declaration} {methods : List Method}
    (hkind : d.kind = .interface) (hmarked : d.IsMarked)
    (h : Service.classifyMethods d.name d.methods = .ok methods) : d.Readable := by
  refine ⟨hkind, hmarked, fun m hm => ?_⟩
  rw [classifyMethods_eq_mapM, mapM_eq_ok] at h
  obtain ⟨i, hi⟩ := List.mem_iff_getElem?.mp hm
  obtain ⟨r, -, hr⟩ := forall₂_getElem? h hi
  exact ⟨r, (mapError_eq_ok ..).mp hr⟩

theorem firstFault_of_build {d : Declaration} {e : Error} (h : Service.build d = .error e) :
    FirstFault d e := by
  by_cases hkind : d.kind = .interface
  case neg =>
    cases (build_of_kind hkind).symm.trans h
    exact .kind hkind
  by_cases hmarked : d.IsMarked
  case neg =>
    cases (build_of_unmarked hkind hmarked).symm.trans h
    exact .marker hkind hmarked
  cases hmethods : Service.classifyMethods d.name d.methods with
  | error e' =>
    obtain ⟨before, m, after, cause, hds, hbefore, hcause, rfl⟩ :=
      (classifyMethods_eq_error ..).mp hmethods
    rw [build_of_marked hkind hmarked, hmethods] at h
    cases h
    exact .method before after m cause hkind hmarked hds hbefore hcause
  | ok methods =>
    have hreadable := readable_of_classifyMethods hkind hmarked hmethods
    rw [build_of_readable hreadable, bind_eq_error] at h
    rcases h with h | ⟨_, _, h⟩
    · exact (validate_draft hreadable e).mp h
    · cases h

theorem build_of_readable_fault {d : Declaration} {e : Error} (hreadable : d.Readable)
    (h : FirstFault d e) : Service.build d = .error e := by
  rw [build_of_readable hreadable, (validate_draft hreadable e).mpr h]
  rfl

theorem build_of_firstFault {d : Declaration} {e : Error} (h : FirstFault d e) :
    Service.build d = .error e := by
  have hfault := h
  cases h with
  | kind hkind => exact build_of_kind hkind
  | marker hkind hmarked => exact build_of_unmarked hkind hmarked
  | method before after m cause hkind hmarked hmethods hbefore hcause =>
    have herror := (classifyMethods_eq_error d.name d.methods _).mpr
      ⟨before, m, after, cause, hmethods, hbefore, hcause, rfl⟩
    rw [build_of_marked hkind hmarked, herror]
    rfl
  | wrapper _ _ _ _ _ hreadable => exact build_of_readable_fault hreadable hfault
  | wireName _ _ _ _ _ hreadable => exact build_of_readable_fault hreadable hfault
  | files _ _ _ _ _ hreadable => exact build_of_readable_fault hreadable hfault

theorem validate_draft_eq_ok (d : Declaration) :
    d.draft.validate = .ok () ↔
      ((d.draft.methods.filterMap (·.request.wrapper?)).Nodup ∧
        (d.draft.methods.map (·.wireName)).Nodup) ∧
      (∀ p ∈ Role.pairs, p ≠ (.interface, .client) →
        (d.draft.fileOf p.1).name ≠ (d.draft.fileOf p.2).name) ∧
      ∀ p ∈ Role.pairs, (d.draft.fileOf p.1).module ≠ (d.draft.fileOf p.2).module := by
  rw [validate_eq_ok, pairwise_apart_iff, ← fileCollision?_eq_none, fileCollision?_files_eq_none,
    filesShare_iff]

theorem readable_of_build {d : Declaration} {s : Service} (h : Service.build d = .ok s) :
    d.Readable := by
  have hb := (build_eq_ok d s).mp h
  obtain ⟨marker, hmarker, -⟩ := hb.marker
  have hmethods := (classifyMethods_eq_ok d.name d.methods s.methods).mpr hb.methods
  exact readable_of_classifyMethods hb.kind ((isMarked_iff d).mpr ⟨marker, hmarker⟩) hmethods

theorem build_eq_ok_iff_valid (d : Declaration) (s : Service) :
    Service.build d = .ok s ↔ d.Valid ∧ s = d.draft := by
  constructor
  · intro h
    have hreadable := readable_of_build h
    rw [build_of_readable hreadable] at h
    obtain ⟨_, hvalid, h⟩ := (bind_eq_ok _ _ _).mp h
    cases h
    obtain ⟨⟨hwrappers, hwires⟩, hnames, hmodules⟩ := (validate_draft_eq_ok d).mp hvalid
    exact ⟨⟨hreadable, hwrappers, hwires, hnames, hmodules⟩, rfl⟩
  · rintro ⟨hvalid, rfl⟩
    have hok := (validate_draft_eq_ok d).mpr
      ⟨⟨hvalid.wrappers, hvalid.wireNames⟩, hvalid.typeNames, hvalid.modules⟩
    rw [build_of_readable hvalid.toReadable, hok]
    rfl

/-- A declaration is accepted if and only if it is valid, and what it then defines is its draft.
Else its first fault is reported, and nothing but that. The modules of interface and client never
collide. -/
theorem build_reports_first_fault (d : Declaration) :
    ((∃ s, Service.build d = .ok s) ↔ d.Valid) ∧
    (∀ s, Service.build d = .ok s → s = d.draft) ∧
    (∀ e, Service.build d = .error e ↔ FirstFault d e) ∧
    (∀ e, Service.build d = .error e → e.service? = some d.name) ∧
    ∀ s : Service, (s.fileOf .interface).module ≠ (s.fileOf .client).module := by
  refine ⟨?_, ?_, ?_, ?_, client_module_ne⟩
  · simp only [build_eq_ok_iff_valid, exists_and_left, exists_eq, and_true]
  · intro s h
    exact ((build_eq_ok_iff_valid d s).mp h).2
  · exact fun e => ⟨firstFault_of_build, build_of_firstFault⟩
  · exact fun e h => (firstFault_of_build h).service

end RpcStubs
