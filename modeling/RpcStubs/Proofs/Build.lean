import Mathlib
import RpcStubs.Service.Definition

/-!
# Accepted declarations

What is known of a service once it is built: each method is the classification of the declared
one at its place, and no two names that are made for the service collide.
-/

namespace RpcStubs

/-! ## Results and lists -/

theorem bind_eq_ok {ε α β : Type} (x : Except ε α) (f : α → Except ε β) (b : β) :
    (x >>= f) = .ok b ↔ ∃ a, x = .ok a ∧ f a = .ok b := by
  cases x with
  | error e =>
    constructor
    · intro h; cases h
    · rintro ⟨a, h, _⟩; cases h
  | ok a =>
    constructor
    · intro h; exact ⟨a, rfl, h⟩
    · rintro ⟨a', h, hf⟩; cases h; exact hf

theorem bind_eq_error {ε α β : Type} (x : Except ε α) (f : α → Except ε β) (e : ε) :
    (x >>= f) = .error e ↔ x = .error e ∨ ∃ a, x = .ok a ∧ f a = .error e := by
  cases x with
  | error e' => simp [bind, Except.bind]
  | ok a => simp [bind, Except.bind]

theorem mapError_eq_ok {ε ε' α : Type} (f : ε → ε') (x : Except ε α) (a : α) :
    x.mapError f = .ok a ↔ x = .ok a := by
  cases x <;> simp [Except.mapError]

theorem mapError_eq_error {ε ε' α : Type} (f : ε → ε') (x : Except ε α) (e : ε') :
    x.mapError f = .error e ↔ ∃ cause, x = .error cause ∧ f cause = e := by
  cases x <;> simp [Except.mapError]

theorem mapM_eq_ok {ε α β : Type} (f : α → Except ε β) (xs : List α) (ys : List β) :
    xs.mapM f = .ok ys ↔ List.Forall₂ (fun x y => f x = .ok y) xs ys := by
  induction xs generalizing ys with
  | nil =>
    rw [List.mapM_nil, List.forall₂_nil_left_iff]
    constructor
    · intro h; cases h; rfl
    · rintro rfl; rfl
  | cons x xs ih =>
    rw [List.mapM_cons, List.forall₂_cons_left_iff, bind_eq_ok]
    constructor
    · rintro ⟨y, hy, h⟩
      obtain ⟨rest, hrest, h⟩ := (bind_eq_ok _ _ _).mp h
      cases h
      exact ⟨y, rest, hy, (ih rest).mp hrest, rfl⟩
    · rintro ⟨y, rest, hy, hrest, rfl⟩
      exact ⟨y, hy, (bind_eq_ok _ _ _).mpr ⟨rest, (ih rest).mpr hrest, rfl⟩⟩

theorem mapM_eq_error {ε α β : Type} (f : α → Except ε β) (xs : List α) (e : ε) :
    xs.mapM f = .error e ↔ ∃ before x after, xs = before ++ x :: after ∧
      (∀ y ∈ before, ∃ b, f y = .ok b) ∧ f x = .error e := by
  induction xs with
  | nil =>
    constructor
    · intro h; cases h
    · rintro ⟨before, x, after, h, -⟩
      simp at h
  | cons x xs ih =>
    have htail : ∀ y, ((xs.mapM f >>= fun ys => pure (y :: ys)) = .error e) ↔
        xs.mapM f = .error e := by
      intro y
      rw [bind_eq_error]
      constructor
      · rintro (h | ⟨_, _, h⟩)
        · exact h
        · cases h
      · exact Or.inl
    rw [List.mapM_cons, bind_eq_error]
    simp only [htail]
    constructor
    · rintro (hx | ⟨y, hy, h⟩)
      · exact ⟨[], x, xs, rfl, by simp, hx⟩
      · obtain ⟨before, z, after, rfl, hbefore, hz⟩ := ih.mp h
        refine ⟨x :: before, z, after, rfl, ?_, hz⟩
        exact List.forall_mem_cons.mpr ⟨⟨y, hy⟩, hbefore⟩
    · rintro ⟨before, z, after, h, hbefore, hz⟩
      cases before with
      | nil =>
        cases h
        exact Or.inl hz
      | cons w before =>
        cases h
        obtain ⟨⟨y, hy⟩, hbefore⟩ := List.forall_mem_cons.mp hbefore
        exact Or.inr ⟨y, hy, ih.mpr ⟨before, z, after, rfl, hbefore, hz⟩⟩

theorem forall₂_getElem? {α β : Type} {r : α → β → Prop} {as : List α} {bs : List β}
    (h : List.Forall₂ r as bs) {i : Nat} {a : α} (ha : as[i]? = some a) :
    ∃ b, bs[i]? = some b ∧ r a b := by
  obtain ⟨hi, rfl⟩ := List.getElem?_eq_some_iff.mp ha
  have hi' : i < bs.length := h.length_eq ▸ hi
  exact ⟨bs[i], List.getElem?_eq_getElem hi', h.get hi hi'⟩

/-! ## Methods -/

/-- A method that passed all checks, next to its declaration. -/
structure Classified (d : MethodDecl) (m : Method) : Prop where
  kind : ∃ marker, Method.kindOf d = .ok (m.kind, marker) ∧
    m.wireName = (marker.arg Marker.nameKey).getD d.name
  suspends : m.kind.mustSuspend = d.isAsync
  response : Method.responseOf m.kind d.returnType = .ok m.response
  request : RequestShape.resolve d.name d.params m.kind.streamsRequests = .ok m.request
  name : m.name = d.name
  docs : m.docs = d.docs

theorem classify_eq_ok (d : MethodDecl) (m : Method) :
    Method.classify d = .ok m ↔ Classified d m := by
  unfold Method.classify
  rw [bind_eq_ok]
  constructor
  · rintro ⟨⟨kind, marker⟩, hkind, h⟩
    by_cases hs : kind.mustSuspend = d.isAsync
    · simp only [ne_eq, hs, not_true_eq_false, if_false] at h
      obtain ⟨response, hresponse, h⟩ := (bind_eq_ok _ _ _).mp h
      obtain ⟨request, hrequest, h⟩ := (bind_eq_ok _ _ _).mp h
      cases h
      exact ⟨⟨marker, hkind, rfl⟩, hs, hresponse, (mapError_eq_ok _ _ _).mp hrequest, rfl, rfl⟩
    · simp only [ne_eq, hs, not_false_eq_true, if_true] at h
      cases h
  · rintro ⟨⟨marker, hkind, hwire⟩, hs, hresponse, hrequest, hname, hdocs⟩
    refine ⟨(m.kind, marker), hkind, ?_⟩
    simp only [ne_eq, hs, not_true_eq_false, if_false]
    refine (bind_eq_ok _ _ _).mpr ⟨m.response, hresponse, ?_⟩
    refine (bind_eq_ok _ _ _).mpr ⟨m.request, (mapError_eq_ok _ _ _).mpr hrequest, ?_⟩
    rw [← hwire, ← hname, ← hdocs]
    rfl

theorem classifyMethods_eq_ok (service : String) (ds : List MethodDecl) (ms : List Method) :
    Service.classifyMethods service ds = .ok ms ↔ List.Forall₂ Classified ds ms := by
  induction ds generalizing ms with
  | nil =>
    rw [List.forall₂_nil_left_iff, Service.classifyMethods]
    constructor
    · intro h; cases h; rfl
    · rintro rfl; rfl
  | cons d ds ih =>
    rw [List.forall₂_cons_left_iff, Service.classifyMethods, bind_eq_ok]
    constructor
    · rintro ⟨m, hm, h⟩
      obtain ⟨rest, hrest, h⟩ := (bind_eq_ok _ _ _).mp h
      cases h
      rw [mapError_eq_ok, classify_eq_ok] at hm
      exact ⟨m, rest, hm, (ih rest).mp hrest, rfl⟩
    · rintro ⟨m, rest, hm, hrest, rfl⟩
      rw [← classify_eq_ok] at hm
      refine ⟨m, (mapError_eq_ok _ _ _).mpr hm, ?_⟩
      exact (bind_eq_ok _ _ _).mpr ⟨rest, (ih rest).mpr hrest, rfl⟩

/-! ## Collisions -/

/-- Two methods share neither a wire name nor a request record. -/
def Apart (e m : Method) : Prop :=
  (∀ w, m.request.wrapper? = some w → e.request.wrapper? ≠ some w) ∧ e.wireName ≠ m.wireName

theorem wrapperClash?_eq_none (earlier : List Method) (m : Method) :
    Service.wrapperClash? earlier m = none ↔
      ∀ e ∈ earlier, ∀ w, m.request.wrapper? = some w → e.request.wrapper? ≠ some w := by
  unfold Service.wrapperClash?
  cases hw : m.request.wrapper? with
  | none => simp
  | some w => simp

theorem wireNameClash?_eq_none (earlier : List Method) (m : Method) :
    Service.wireNameClash? earlier m = none ↔ ∀ e ∈ earlier, e.wireName ≠ m.wireName := by
  simp [Service.wireNameClash?]

theorem clash_eq_none (earlier : List Method) (m : Method) :
    (Service.wrapperClash? earlier m <|> Service.wireNameClash? earlier m) = none ↔
      ∀ e ∈ earlier, Apart e m := by
  simp only [Option.orElse_eq_orElse, Option.orElse_eq_or, Option.or_eq_none_iff,
    wrapperClash?_eq_none, wireNameClash?_eq_none, Apart]
  constructor
  · rintro ⟨hw, hn⟩ e he
    exact ⟨hw e he, hn e he⟩
  · intro h
    exact ⟨fun e he => (h e he).1, fun e he => (h e he).2⟩

theorem methodCollision?_eq_none (earlier ms : List Method) :
    Service.methodCollision? earlier ms = none ↔
      (∀ e ∈ earlier, ∀ m ∈ ms, Apart e m) ∧ ms.Pairwise Apart := by
  induction ms generalizing earlier with
  | nil => simp [Service.methodCollision?]
  | cons m rest ih =>
    have hsplit : Service.methodCollision? earlier (m :: rest) = none ↔
        (∀ e ∈ earlier, Apart e m) ∧ Service.methodCollision? (earlier ++ [m]) rest = none := by
      rw [← clash_eq_none, Service.methodCollision?]
      cases Service.wrapperClash? earlier m <|> Service.wireNameClash? earlier m <;> simp
    rw [hsplit, ih, List.pairwise_cons]
    simp only [List.forall_mem_append, List.forall_mem_singleton, List.forall_mem_cons]
    constructor
    · rintro ⟨hm, ⟨hearlier, hrest⟩, hp⟩
      exact ⟨fun e he => ⟨hm e he, hearlier e he⟩, hrest, hp⟩
    · rintro ⟨h, hrest, hp⟩
      exact ⟨fun e he => (h e he).1, ⟨fun e he => (h e he).2, hrest⟩, hp⟩

theorem sharedName?_eq_none (f g : Role × FileId) :
    Service.sharedName? f g = none ↔
      (f.2.name = g.2.name → (f.1, g.1) = (.interface, .client)) ∧ f.2.module ≠ g.2.module := by
  unfold Service.sharedName?
  split
  · rename_i h
    simp only [reduceCtorEq, false_iff, not_and]
    intro hn
    exact absurd (hn h.1) h.2
  · rename_i h
    split
    · simp_all
    · simp_all

theorem fileCollision?_eq_none (fs : List (Role × FileId)) :
    Service.fileCollision? fs = none ↔
      fs.Pairwise (fun f g => Service.sharedName? f g = none) := by
  induction fs with
  | nil => simp [Service.fileCollision?]
  | cons f rest ih =>
    rw [List.pairwise_cons, ← ih, Service.fileCollision?]
    have hfirst : rest.findSome? (fun g => (Service.sharedName? f g).map (·, f.1, g.1)) = none ↔
        ∀ g ∈ rest, Service.sharedName? f g = none := by
      simp
    rw [← hfirst]
    cases rest.findSome? (fun g => (Service.sharedName? f g).map (·, f.1, g.1)) <;> simp

theorem validate_eq_ok (s : Service) :
    s.validate = .ok () ↔ s.methods.Pairwise Apart ∧
      s.files.Pairwise (fun f g => Service.sharedName? f g = none) := by
  have hm := methodCollision?_eq_none [] s.methods
  rw [← fileCollision?_eq_none]
  unfold Service.validate
  simp only [List.not_mem_nil, false_implies, implies_true, true_and] at hm
  rw [← hm]
  cases Service.methodCollision? [] s.methods with
  | some clash => cases clash <;> simp
  | none => cases Service.fileCollision? s.files <;> simp

/-! ## Services -/

/-- A service that was built, next to its declaration. -/
structure Built (d : Declaration) (s : Service) : Prop where
  kind : d.kind = .interface
  marker : ∃ marker, d.marker? Marker.service = some marker ∧
    s = Service.ofMarker d marker s.methods
  methods : List.Forall₂ Classified d.methods s.methods
  apart : s.methods.Pairwise Apart
  files : s.files.Pairwise (fun f g => Service.sharedName? f g = none)

theorem build_eq_ok (d : Declaration) (s : Service) : Service.build d = .ok s ↔ Built d s := by
  unfold Service.build
  by_cases hk : d.kind = .interface
  · simp only [ne_eq, hk, not_true_eq_false, if_false]
    cases hmark : d.marker? Marker.service with
    | none =>
      constructor
      · intro h; cases h
      · rintro ⟨_, ⟨marker, h, _⟩, _⟩
        rw [hmark] at h
        cases h
    | some marker =>
      simp only
      constructor
      · intro h
        obtain ⟨methods, hmethods, h⟩ := (bind_eq_ok _ _ _).mp h
        obtain ⟨_, hvalid, h⟩ := (bind_eq_ok _ _ _).mp h
        cases h
        obtain ⟨hapart, hfiles⟩ := (validate_eq_ok _).mp hvalid
        exact ⟨hk, ⟨marker, hmark, rfl⟩, (classifyMethods_eq_ok _ _ _).mp hmethods, hapart, hfiles⟩
      · rintro ⟨_, ⟨marker', hmark', hs⟩, hmethods, hapart, hfiles⟩
        cases hmark.symm.trans hmark'
        refine (bind_eq_ok _ _ _).mpr ⟨s.methods, (classifyMethods_eq_ok _ _ _).mpr hmethods, ?_⟩
        rw [← hs]
        exact (bind_eq_ok _ _ _).mpr ⟨(), (validate_eq_ok s).mpr ⟨hapart, hfiles⟩, rfl⟩
  · constructor
    · intro h
      simp only [ne_eq, hk, not_false_eq_true, if_true] at h
      cases h
    · intro h; exact absurd h.kind hk

namespace Built

variable {d : Declaration} {s : Service}

theorem name (h : Built d s) : s.name = d.name := by
  obtain ⟨marker, _, hs⟩ := h.marker
  rw [hs]; rfl

theorem modules_nodup (h : Built d s) : (s.files.map (·.2.module)).Nodup := by
  unfold List.Nodup
  rw [List.pairwise_map]
  exact h.files.imp (fun hfg => ((sharedName?_eq_none _ _).mp hfg).2)

end Built

end RpcStubs
