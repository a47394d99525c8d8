import RpcStubs.Idl.Inspect
import RpcStubs.Proofs.Build
import RpcStubs.Proofs.Readers

/-!
# Types of a file

A type that is read at some place of a file refers to nothing, or to a type whose path and arguments
could be written again.
-/

namespace RpcStubs

namespace Idl

/-! ## Paths -/

def bareWords : List String := ["super", "self", "crate", "try"]

/-- A word that may be a segment of a path. -/
structure IsSegment (w : String) : Prop where
  word : IsWord w.toList
  allowed : isIdentifier w = true ∨ w = "Self" ∨ w ∈ bareWords

structure IsPath (absolute : Bool) (names : List String) : Prop where
  ne_nil : names ≠ []
  segments : ∀ name ∈ names, IsSegment name
  /-- This word only follows two colons. -/
  first : absolute = false → names.head? ≠ some "try"

def pathText (absolute : Bool) (names : List String) : String :=
  if absolute then "::" ++ "::".intercalate names else "::".intercalate names

/-- A type whose text could stand in a file. -/
inductive Readable : TypeRef → Prop
  | unit : Readable .unit
  | path {absolute : Bool} {names : List String} {args : List TypeRef}
      (hpath : IsPath absolute names)
      (hargs : args ≠ [] → ∀ name ∈ names.getLast?, name ∉ bareWords)
      (hreadable : ∀ arg ∈ args, Readable arg) : Readable ⟨pathText absolute names, args⟩

theorem Readable.streamOf {element : TypeRef} (h : Readable element) :
    Readable (.streamOf element) := by
  have hword : IsWord ['S', 't', 'r', 'e', 'a', 'm'] := by
    refine .plain (by decide) ?_
    intro d hd
    fin_cases hd <;> decide
  have hpath : IsPath false ["Stream"] := by
    refine ⟨by simp, ?_, by simp⟩
    intro name hname
    rw [List.mem_singleton.mp hname]
    exact ⟨hword, .inl (by decide)⟩
  have hargs : [element] ≠ [] → ∀ name ∈ ["Stream"].getLast?, name ∉ bareWords := by
    simp [bareWords]
  exact .path hpath hargs (by simpa using h)

/-! ## What the syntax of a type refers to -/

/-- Whatever the type refers to can be written again. -/
def TypeSyntax.Good (t : TypeSyntax) : Prop := ∀ r, t.typeRef = .ok r → Readable r

def ArgSyntax.Good : ArgSyntax → Prop
  | .type t => t.Good
  | .assoc _ t => t.Good
  | _ => True

def SegmentArgs.Good : SegmentArgs → Prop
  | .angled args => ∀ a ∈ args, a.Good
  | _ => True

def PathSyntax.GoodArgs (p : PathSyntax) : Prop := ∀ s ∈ p.segments, s.args.Good

structure SegmentSyntax.Good (s : SegmentSyntax) : Prop where
  name : IsSegment s.name
  args : s.args.Good
  bare : s.name ∈ bareWords → s.args = .none

structure PathSyntax.Good (p : PathSyntax) : Prop where
  ne_nil : p.segments ≠ []
  segments : ∀ s ∈ p.segments, s.Good

theorem unsupported_ne_ok {α : Type} {trees : List TokenTree} {a : α} :
    unsupported trees ≠ .ok a := by
  simp [unsupported]

theorem readable_of_argRefs {trees : List TokenTree} {args : List ArgSyntax}
    {refs : List TypeRef} (hargs : ∀ a ∈ args, a.Good) (h : argRefs trees args = .ok refs) :
    ∀ r ∈ refs, Readable r := by
  induction args generalizing refs with
  | nil =>
    cases h
    simp
  | cons a args ih =>
    obtain ⟨ha, hrest⟩ := List.forall_mem_cons.mp hargs
    cases a with
    | lifetime => exact ih hrest h
    | type t =>
      rw [argRefs] at h
      obtain ⟨first, hfirst, h⟩ := (bind_eq_ok _ _ _).mp h
      obtain ⟨rest, hrefs, h⟩ := (bind_eq_ok _ _ _).mp h
      cases h
      exact List.forall_mem_cons.mpr ⟨ha first hfirst, ih hrest hrefs⟩
    | assoc name t => exact absurd h unsupported_ne_ok
    | other => exact absurd h unsupported_ne_ok

theorem readable_of_typeRefs {trees : List TokenTree} {args : SegmentArgs}
    {refs : List TypeRef} (hargs : args.Good) (h : args.typeRefs trees = .ok refs) :
    ∀ r ∈ refs, Readable r := by
  cases args with
  | none =>
    cases h
    simp
  | angled args => exact readable_of_argRefs hargs h
  | parenthesized => exact absurd h unsupported_ne_ok

theorem segmentRefs_eq_ok {trees : List TokenTree} {segments : List SegmentSyntax}
    {names : List String} {refs : List TypeRef} (hsegments : ∀ s ∈ segments, s.Good)
    (h : segmentRefs trees segments = .ok (names, refs)) :
    names = segments.map SegmentSyntax.name ∧ (∀ r ∈ refs, Readable r) ∧
      (refs ≠ [] → ∀ name ∈ names.getLast?, name ∉ bareWords) := by
  induction segments generalizing names with
  | nil =>
    cases h
    simp
  | cons s segments ih =>
    obtain ⟨hs, hrest⟩ := List.forall_mem_cons.mp hsegments
    obtain ⟨name, args⟩ := s
    cases segments with
    | nil =>
      rw [segmentRefs] at h
      obtain ⟨found, hfound, h⟩ := (bind_eq_ok _ _ _).mp h
      cases h
      refine ⟨rfl, readable_of_typeRefs hs.args hfound, ?_⟩
      intro hne last hlast hbare
      cases hlast
      have hnone : args = .none := hs.bare hbare
      subst hnone
      cases hfound
      exact hne rfl
    | cons second segments =>
      cases args with
      | none =>
        rw [segmentRefs] at h
        obtain ⟨⟨later, found⟩, hlater, h⟩ := (bind_eq_ok _ _ _).mp h
        cases h
        obtain ⟨rfl, hreadable, hlast⟩ := ih hrest hlater
        exact ⟨rfl, hreadable, by simpa using hlast⟩
      | angled args => exact absurd h unsupported_ne_ok
      | parenthesized => exact absurd h unsupported_ne_ok

theorem PathSyntax.Good.readable {p : PathSyntax} (hp : p.Good) (trees : List TokenTree)
    (hfirst : p.absolute = false → ∀ s ∈ p.segments.head?, s.name ≠ "try") :
    (TypeSyntax.path p trees).Good := by
  obtain ⟨absolute, segments⟩ := p
  intro r hr
  rw [TypeSyntax.typeRef, PathSyntax.typeRef] at hr
  obtain ⟨⟨names, refs⟩, hrefs, hr⟩ := (bind_eq_ok _ _ _).mp hr
  cases hr
  obtain ⟨rfl, hreadable, hlast⟩ := segmentRefs_eq_ok hp.segments hrefs
  have hpath : IsPath absolute (segments.map SegmentSyntax.name) := by
    constructor
    case ne_nil => exact mt List.map_eq_nil_iff.mp hp.ne_nil
    case segments =>
      intro name hname
      obtain ⟨s, hs, rfl⟩ := List.mem_map.mp hname
      exact (hp.segments s hs).name
    case first =>
      intro habsolute hhead
      rw [List.head?_map] at hhead
      obtain ⟨s, hs, hname⟩ := Option.map_eq_some_iff.mp hhead
      exact hfirst habsolute s hs hname
  exact .path hpath hlast hreadable

/-! ## Streams -/

theorem readable_of_itemArg {args : List ArgSyntax} {element : TypeRef}
    (hargs : ∀ a ∈ args, a.Good) (h : itemArg args = .ok (some element)) : Readable element := by
  induction args with
  | nil => cases h
  | cons a args ih =>
    obtain ⟨ha, hrest⟩ := List.forall_mem_cons.mp hargs
    cases a with
    | lifetime => exact ih hrest h
    | type t => exact ih hrest h
    | other => exact ih hrest h
    | assoc name t =>
      rw [itemArg] at h
      split at h
      · obtain ⟨found, hfound, h⟩ := (bind_eq_ok _ _ _).mp h
        cases h
        exact ha element hfound
      · exact ih hrest h

theorem readable_of_lastStream {segments : List SegmentSyntax} {element : TypeRef}
    (hsegments : ∀ s ∈ segments, s.args.Good) (h : lastStream segments = .ok (some element)) :
    Readable element := by
  induction segments with
  | nil => cases h
  | cons s segments ih =>
    obtain ⟨hs, hrest⟩ := List.forall_mem_cons.mp hsegments
    obtain ⟨name, args⟩ := s
    cases segments with
    | nil =>
      rw [lastStream] at h
      split at h
      · cases args with
        | none => cases h
        | angled args => exact readable_of_itemArg hs h
        | parenthesized => cases h
      · cases h
    | cons second segments => exact ih hrest h

theorem readable_of_streamBound {paths : List PathSyntax} {element : TypeRef}
    (hpaths : ∀ p ∈ paths, p.GoodArgs) (h : streamBound paths = .ok (some element)) :
    Readable element := by
  induction paths with
  | nil => cases h
  | cons p paths ih =>
    obtain ⟨hp, hrest⟩ := List.forall_mem_cons.mp hpaths
    obtain ⟨absolute, segments⟩ := p
    rw [streamBound] at h
    obtain ⟨found, hfound, h⟩ := (bind_eq_ok _ _ _).mp h
    cases found with
    | none => exact ih hrest h
    | some found =>
      cases h
      exact readable_of_lastStream hp hfound

theorem TypeSyntax.good_bounded {traits : List PathSyntax} (htraits : ∀ p ∈ traits, p.GoodArgs)
    (trees : List TokenTree) : (TypeSyntax.bounded traits trees).Good := by
  intro r hr
  rw [TypeSyntax.typeRef] at hr
  obtain ⟨found, hfound, hr⟩ := (bind_eq_ok _ _ _).mp hr
  cases found with
  | none => exact absurd hr unsupported_ne_ok
  | some element =>
    cases hr
    exact (readable_of_streamBound htraits hfound).streamOf

theorem TypeSyntax.good_other (trees : List TokenTree) : (TypeSyntax.other trees).Good :=
  fun _ hr => absurd hr unsupported_ne_ok

theorem TypeSyntax.good_unit (trees : List TokenTree) : (TypeSyntax.unit trees).Good := by
  rintro _ ⟨⟩
  exact .unit

theorem TypeSyntax.Good.paren {t : TypeSyntax} (ht : t.Good) (trees : List TokenTree) :
    (TypeSyntax.paren t trees).Good := by
  intro r hr
  rw [TypeSyntax.typeRef] at hr
  exact ht r hr

/-! ## Readers of paths -/

open Parse

/-- What the types and paths are that a table of readers finds in a file. -/
structure Grammar.ReadsTypes (file : List TokenTree) (g : Grammar) : Prop where
  type : ∀ plus ts, Within file ts → (g.type plus).Ensures ts (fun t _ => t.Good)
  path : ∀ exprStyle ts, Within file ts → (g.path exprStyle).Ensures ts (fun p _ =>
    p.Good ∧ (p.absolute = false → nextWord? ts = p.segments.head?.map SegmentSyntax.name))

def BoundForm.Good : BoundForm → Prop
  | .trait p => p.GoodArgs
  | _ => True

theorem PathSyntax.Good.goodArgs {p : PathSyntax} (hp : p.Good) : p.GoodArgs :=
  fun s hs => (hp.segments s hs).args

theorem PathSyntax.GoodArgs.parenthesizeLast {p : PathSyntax} (hp : p.GoodArgs) :
    p.parenthesizeLast.GoodArgs := by
  unfold PathSyntax.parenthesizeLast
  split
  · intro s hs
    simp only [PathSyntax.segments, List.mem_append, List.mem_singleton] at hs
    rcases hs with hs | rfl
    · exact hp s (List.mem_of_mem_dropLast hs)
    · trivial
  · exact hp

namespace Grammar

variable {file ts : List TokenTree} {g : Grammar}

theorem ensures_genericArgument (hg : g.ReadsTypes file) (hts : Within file ts) :
    g.genericArgument.Ensures ts (fun a _ => a.Good) := by
  unfold genericArgument
  apply ensures_look
  split
  · exact ensures_after fun _ _ _ => ensures_pure trivial
  split
  · exact ensures_after fun _ _ _ => ensures_pure trivial
  refine (hg.type true ts hts).bind ?_
  intro t us hus ht
  split
  · apply ensures_look
    split
    · apply ensures_after
      intro _ vs hvs
      apply ensures_look
      split
      · exact ensures_after fun _ _ _ => ensures_pure trivial
      · refine (hg.type true vs (hts.suffix (hvs.trans hus))).bind ?_
        intro value _ _ hvalue
        exact ensures_pure hvalue
    split
    · exact ensures_after fun _ _ _ => ensures_after fun _ _ _ => ensures_pure trivial
    · exact ensures_pure ht
  · exact ensures_pure ht

theorem ensures_argPieces (hg : g.ReadsTypes file) (fuel : Nat) (hts : Within file ts) :
    (g.argPieces fuel).Ensures ts (fun pieces _ => ∀ p ∈ pieces, p.arg.Good) := by
  induction fuel generalizing ts with
  | zero => exact ensures_fail
  | succ fuel ih =>
    unfold argPieces
    apply ensures_look
    split
    · exact ensures_pure (by simp)
    refine Ensures.bind (R := fun x _ => x.1.Good)
      (ensures_aside ((ensures_genericArgument hg hts).mono ?_)) ?_
    · intro a us _ ha trees
      exact ha
    rintro ⟨a, trees⟩ us hus ha
    apply ensures_look
    split
    · exact ensures_pure (by simpa using ha)
    apply ensures_after
    intro _ vs hvs
    refine (ih (hts.suffix (hvs.trans hus))).bind ?_
    intro pieces _ _ hpieces
    exact ensures_pure (List.forall_mem_cons.mpr ⟨ha, hpieces⟩)

theorem ensures_angledArgs (hg : g.ReadsTypes file) (hts : Within file ts) :
    g.angledArgs.Ensures ts (fun args _ => ∀ a ∈ args, a.Good) := by
  unfold angledArgs
  apply ensures_after
  intro _ us hus
  apply ensures_after
  intro _ vs hvs
  apply ensures_look
  refine (ensures_argPieces hg _ (hts.suffix (hvs.trans hus))).bind ?_
  intro pieces _ _ hpieces
  apply ensures_after
  intro _ _ _
  apply ensures_after
  intro _ _ _
  apply ensures_pure
  simpa using hpieces

theorem ensures_segmentArgs (hg : g.ReadsTypes file) (exprStyle : Bool) (hts : Within file ts) :
    (g.segmentArgs exprStyle).Ensures ts (fun args _ => args.Good) := by
  unfold segmentArgs
  apply ensures_look
  split
  · refine (ensures_angledArgs hg hts).bind ?_
    intro args _ _ hargs
    exact ensures_pure hargs
  · exact ensures_pure trivial

theorem not_mem_bareWords {w : String} (h : isIdentifier w = true ∨ w = "Self") :
    w ∉ bareWords := by
  intro hbare
  simp only [bareWords, List.mem_cons, List.not_mem_nil, or_false] at hbare
  rcases hbare with rfl | rfl | rfl | rfl <;> exact absurd h (by decide)

theorem ensures_segment (hfile : AllLexical file) (hg : g.ReadsTypes file) (exprStyle : Bool)
    (hts : Within file ts) :
    (g.segment exprStyle).Ensures ts (fun s _ => s.Good ∧ nextWord? ts = some s.name) := by
  unfold segment
  apply ensures_look
  split
  · rename_i hbare
    apply ensures_bind
    apply ensures_anyWord
    rintro w us rfl
    have hw : w ∈ bareWords := by simpa [nextIsAnyWord, nextWord?, bareWords] using hbare
    exact ensures_pure ⟨⟨⟨hts.isWord hfile, .inr (.inr hw)⟩, trivial, fun _ => rfl⟩, rfl⟩
  split
  · rename_i hword
    apply ensures_bind
    apply ensures_anyWord
    rintro w us rfl
    have hw : isIdentifier w = true ∨ w = "Self" := by
      simpa [nextIsIdent, nextIsWord, nextWord?] using hword
    refine (ensures_segmentArgs hg exprStyle hts.next).bind ?_
    intro args _ _ hargs
    apply ensures_pure
    refine ⟨⟨⟨hts.isWord hfile, ?_⟩, hargs, ?_⟩, rfl⟩
    · exact hw.imp_right .inl
    · exact fun hbare => absurd hbare (not_mem_bareWords hw)
  · exact ensures_fail

theorem ensures_moreSegments (hfile : AllLexical file) (hg : g.ReadsTypes file)
    (exprStyle : Bool) (fuel : Nat) (hts : Within file ts) :
    (g.moreSegments exprStyle fuel).Ensures ts (fun segments _ => ∀ s ∈ segments, s.Good) := by
  induction fuel generalizing ts with
  | zero => exact ensures_pure (by simp)
  | succ fuel ih =>
    unfold moreSegments
    apply ensures_look
    split
    · apply ensures_after
      intro _ us hus
      refine (ensures_segment hfile hg exprStyle (hts.suffix hus)).bind ?_
      rintro first vs hvs ⟨hfirst, -⟩
      refine (ih (hts.suffix (hvs.trans hus))).bind ?_
      intro rest _ _ hrest
      exact ensures_pure (List.forall_mem_cons.mpr ⟨hfirst, hrest⟩)
    · exact ensures_pure (by simp)

theorem ensures_genericPath (hfile : AllLexical file) (hg : g.ReadsTypes file)
    (exprStyle : Bool) (hts : Within file ts) :
    (g.genericPath exprStyle).Ensures ts (fun p _ =>
      p.Good ∧ (p.absolute = false → nextWord? ts = p.segments.head?.map SegmentSyntax.name)) := by
  have hcolons : (operator? "::").Ensures ts (fun absolute us => absolute = false → us = ts) :=
    ensures_operator? (fun _ => rfl) (by simp)
  unfold genericPath
  refine hcolons.bind ?_
  intro absolute us hus hstart
  refine (ensures_segment hfile hg exprStyle (hts.suffix hus)).bind ?_
  rintro first vs hvs ⟨hfirst, hword⟩
  apply ensures_look
  refine (ensures_moreSegments hfile hg exprStyle _ (hts.suffix (hvs.trans hus))).bind ?_
  intro rest _ _ hrest
  apply ensures_pure
  refine ⟨⟨by simp [PathSyntax.segments], List.forall_mem_cons.mpr ⟨hfirst, hrest⟩⟩, ?_⟩
  intro habsolute
  rw [← hstart habsolute, hword]
  rfl

/-! ## Readers of bounds -/

theorem ensures_traitPath (hg : g.ReadsTypes file) (hts : Within file ts) :
    g.traitPath.Ensures ts (fun p _ => p.GoodArgs) := by
  unfold traitPath
  refine (hg.path false ts hts).bind ?_
  rintro path us _ ⟨hpath, -⟩
  apply ensures_look
  split
  · apply ensures_after
    intro _ _ _
    apply ensures_after
    intro _ _ _
    exact ensures_pure hpath.goodArgs.parenthesizeLast
  · exact ensures_pure hpath.goodArgs

theorem ensures_traitBound (hg : g.ReadsTypes file) (allowConst : Bool) (hts : Within file ts) :
    (g.traitBound allowConst).Ensures ts (fun r _ => r.2.GoodArgs) := by
  unfold traitBound
  apply ensures_after
  rintro ⟨bound, binder⟩ us hus
  apply ensures_after
  intro isConst vs hvs
  apply ensures_after
  intro maybe ws hws
  apply ensures_after
  intro _ xs hxs
  apply ensures_after
  intro _ ys hys
  have hys := hts.suffix (hys.trans (hxs.trans (hws.trans (hvs.trans hus))))
  refine (ensures_traitPath hg hys).bind ?_
  intro path _ _ hpath
  exact ensures_pure hpath

theorem ensures_bound (hg : g.ReadsTypes file) (allowCapture allowConst : Bool)
    (hts : Within file ts) :
    (g.bound allowCapture allowConst).Ensures ts (fun b _ => b.Good) := by
  have hread : (if nextIsGroup .paren ts then group .paren (g.traitBound allowConst)
      else g.traitBound allowConst).Ensures ts (fun r _ => r.2.GoodArgs) := by
    split
    · apply ensures_group
      rintro us rest rfl
      exact ensures_traitBound hg allowConst hts.inside
    · exact ensures_traitBound hg allowConst hts
  unfold bound
  apply ensures_look
  split
  · exact ensures_after fun _ _ _ => ensures_pure trivial
  split
  · apply ensures_after
    intro _ _ _
    split
    · exact ensures_pure trivial
    · exact ensures_fail
  have hahead : ∀ (p : Parse (Bool × PathSyntax)),
      (ahead p).Ensures ts (fun _ us => us = ts) := fun p => ensures_ahead rfl (fun _ => rfl)
  refine (hahead _).bind ?_
  rintro found us - rfl
  split
  · exact ensures_after fun _ _ _ => ensures_pure trivial
  · refine hread.bind ?_
    rintro ⟨isConst, path⟩ _ _ hpath
    exact ensures_pure hpath

theorem ensures_boundsUpTo (hg : g.ReadsTypes file) (plus allowCapture allowConst : Bool)
    (fuel : Nat) (hts : Within file ts) :
    (g.boundsUpTo plus allowCapture allowConst fuel).Ensures ts
      (fun bounds _ => ∀ b ∈ bounds, b.Good) := by
  induction fuel generalizing ts with
  | zero => exact ensures_fail
  | succ fuel ih =>
    unfold boundsUpTo
    refine (ensures_bound hg allowCapture allowConst hts).bind ?_
    intro first us hus hfirst
    have hsingle : ∀ b ∈ [first], b.Good := by simpa using hfirst
    apply ensures_look
    split
    · apply ensures_after
      intro _ vs hvs
      apply ensures_look
      split
      · refine (ih (hts.suffix (hvs.trans hus))).bind ?_
        intro rest _ _ hrest
        exact ensures_pure (List.forall_mem_cons.mpr ⟨hfirst, hrest⟩)
      · exact ensures_pure hsingle
    · exact ensures_pure hsingle

/-! ## Readers of types -/

theorem ensures_opaqueType (hg : g.ReadsTypes file) (plus : Bool) (hts : Within file ts) :
    (g.opaqueType plus).Ensures ts (fun form _ => ∀ trees, (form trees).Good) := by
  unfold opaqueType bounds
  apply ensures_after
  intro _ us hus
  refine Ensures.bind (ensures_look (ensures_boundsUpTo hg plus true true _ (hts.suffix hus))) ?_
  intro bounds _ _ hbounds
  split
  · apply ensures_pure
    apply TypeSyntax.good_bounded
    intro p hp
    obtain ⟨b, hb, hpath⟩ := List.mem_filterMap.mp hp
    have hgood := hbounds b hb
    cases b with
    | trait path =>
      cases hpath
      exact hgood
    | lifetime => cases hpath
    | capture => cases hpath
    | verbatim => cases hpath
  · exact ensures_fail

def ParenForm.Good : ParenForm → Prop
  | .nested t => t.Good
  | _ => True

theorem ensures_parenBody (hg : g.ReadsTypes file) (hts : Within file ts) :
    g.parenBody.Ensures ts (fun form _ => form.Good) := by
  unfold parenBody
  apply ensures_look
  split
  · exact ensures_pure trivial
  split
  · apply ensures_after
    rintro ⟨_, trees⟩ _ _
    exact ensures_pure (TypeSyntax.good_other trees)
  split
  · exact ensures_after fun _ _ _ => ensures_pure trivial
  refine (hg.type true ts hts).bind ?_
  intro first _ _ hfirst
  apply ensures_after
  intro comma _ _
  split
  · exact ensures_after fun _ _ _ => ensures_pure trivial
  · exact ensures_pure hfirst

theorem ensures_parenType (hg : g.ReadsTypes file) (plus : Bool) (hts : Within file ts) :
    (g.parenType plus).Ensures ts (fun form _ => ∀ trees, (form trees).Good) := by
  have hbody : (group .paren g.parenBody).Ensures ts (fun form _ => form.Good) := by
    apply ensures_group
    rintro us rest rfl
    exact ensures_parenBody hg hts.inside
  unfold parenType
  refine hbody.bind ?_
  intro form us _ hform
  cases form with
  | unit => exact ensures_pure TypeSyntax.good_unit
  | tuple => exact ensures_pure TypeSyntax.good_other
  | object =>
    apply ensures_look
    exact ensures_after fun _ _ _ => ensures_pure TypeSyntax.good_other
  | nested t =>
    have hparen : (pure (TypeSyntax.paren t) : Parse TypeForm).Ensures us
        (fun form _ => ∀ trees, (form trees).Good) := ensures_pure hform.paren
    cases t with
    | path p trees =>
      apply ensures_look
      split
      · apply ensures_look
        exact ensures_after fun _ _ _ => ensures_pure TypeSyntax.good_other
      · exact hparen
    | paren elem trees => exact hparen
    | unit trees => exact hparen
    | bounded traits trees => exact hparen
    | other trees => exact hparen

theorem ensures_qualifiedPath (hg : g.ReadsTypes file) (exprStyle : Bool)
    (hts : Within file ts) :
    (g.qualifiedPath exprStyle).Ensures ts (fun found _ => ∀ p ∈ found,
      p.Good ∧ (p.absolute = false → nextWord? ts = p.segments.head?.map SegmentSyntax.name)) := by
  have hangle : (operator? "<").Ensures ts (fun found us => found = false → us = ts) :=
    ensures_operator? (fun _ => rfl) (by simp)
  have hnone : ∀ us, (pure none : Parse (Option PathSyntax)).Ensures us (fun found _ =>
      ∀ p ∈ found, p.Good ∧
        (p.absolute = false → nextWord? ts = p.segments.head?.map SegmentSyntax.name)) :=
    fun us => ensures_pure (by simp)
  unfold qualifiedPath
  refine hangle.bind ?_
  intro found us _ hus
  split
  · apply ensures_after
    intro _ _ _
    apply ensures_after
    intro isAs _ _
    dsimp only
    split
    all_goals repeat
      first
        | exact hnone _
        | apply ensures_look
        | (apply ensures_after; intro _ _ _)
  · rename_i hfound
    obtain rfl := hus (by simpa using hfound)
    refine (hg.path exprStyle us hts).bind ?_
    intro path _ _ hpath
    exact ensures_pure (by simpa using hpath)

theorem ne_try_of_startsPath {w : String}
    (hstart : (startsPath ts || nextIs "::" ts || nextIs "<" ts) = true)
    (hword : nextWord? ts = some w) : w ≠ "try" := by
  rintro rfl
  cases ts with
  | nil => cases hword
  | cons t ts =>
    cases t with
    | ident text =>
      cases hword
      revert hstart
      simp [startsPath, nextIsIdent, nextIsAnyWord, nextWord?, nextIs, dropOperator?, isIdentifier,
        reservedWords]
    | punct c joint => cases hword
    | literal lit => cases hword
    | group d trees => cases hword

theorem ensures_pathType (hg : g.ReadsTypes file) (plus bound : Bool) (hts : Within file ts)
    (hstart : (startsPath ts || nextIs "::" ts || nextIs "<" ts) = true) :
    (g.pathType plus bound).Ensures ts (fun form _ => ∀ trees, (form trees).Good) := by
  unfold pathType
  refine (ensures_qualifiedPath hg false hts).bind ?_
  intro found us hus hfound
  cases found with
  | none => exact ensures_pure TypeSyntax.good_other
  | some path =>
    obtain ⟨hgood, hword⟩ := hfound path rfl
    apply ensures_look
    split
    · exact ensures_after fun _ _ _ => ensures_after fun _ _ _ =>
        ensures_pure TypeSyntax.good_other
    split
    · exact ensures_after fun _ _ _ => ensures_pure TypeSyntax.good_other
    · apply ensures_pure
      intro trees
      apply hgood.readable
      intro habsolute s hs
      apply ne_try_of_startsPath hstart
      rw [hword habsolute, hs]
      rfl

theorem ensures_typeForm (hg : g.ReadsTypes file) (plus : Bool) (hts : Within file ts) :
    (g.typeForm plus).Ensures ts (fun form _ => ∀ trees, (form trees).Good) := by
  -- Of the types without a path only opaque ones are not kept as they are written.
  have hother : ∀ us, (pure TypeSyntax.other : Parse TypeForm).Ensures us
      (fun form _ => ∀ trees, (form trees).Good) := fun _ => ensures_pure TypeSyntax.good_other
  unfold typeForm
  apply ensures_after
  intro bound us hus
  have hplace := hts.suffix hus
  apply ensures_look
  refine ensures_ite (fun _ => ensures_parenType hg plus hplace) fun _ => ?_
  refine ensures_ite (fun _ => ensures_after fun _ _ _ => hother _) fun _ => ?_
  refine ensures_ite (ensures_pathType hg plus bound hplace) fun _ => ?_
  refine ensures_ite (fun _ => ?_) fun _ => ?_
  · exact ensures_after fun _ _ _ => ensures_after fun _ _ _ => ensures_after fun _ _ _ =>
      hother _
  refine ensures_ite (fun _ => ensures_after fun _ _ _ => hother _) fun _ => ?_
  refine ensures_ite (fun _ => ?_) fun _ => ?_
  · apply ensures_after
    intro _ _ _
    apply ensures_after
    intro isConst _ _
    apply ensures_ite
    · exact fun _ => ensures_after fun _ _ _ => ensures_after fun _ _ _ => hother _
    · exact fun _ => ensures_after fun _ _ _ => hother _
  refine ensures_ite (fun _ => ?_) fun _ => ?_
  · exact ensures_after fun _ _ _ => ensures_after fun _ _ _ => ensures_after fun _ _ _ =>
      ensures_after fun _ _ _ => hother _
  refine ensures_ite (fun _ => ensures_after fun _ _ _ => hother _) fun _ => ?_
  refine ensures_ite (fun _ => ensures_opaqueType hg plus hplace) fun _ => ?_
  refine ensures_ite (fun _ => ensures_after fun _ _ _ => hother _) fun _ => ?_
  exact ensures_ite (fun _ => ensures_after fun _ _ _ => hother _) fun _ => ensures_fail

theorem ensures_typeSyntax (hg : g.ReadsTypes file) (plus : Bool) (hts : Within file ts) :
    (g.typeSyntax plus).Ensures ts (fun t _ => t.Good) := by
  have hform : (captured (g.typeForm plus)).Ensures ts (fun x _ => (x.1 x.2).Good) :=
    ensures_captured ((ensures_typeForm hg plus hts).mono fun form _ _ h trees => h trees)
  unfold typeSyntax
  refine hform.bind ?_
  rintro ⟨form, trees⟩ _ _ hgood
  exact ensures_pure hgood

/-! ## All tables -/

theorem readsTypes_empty (file : List TokenTree) : empty.ReadsTypes file :=
  ⟨fun _ _ _ => ensures_fail, fun _ _ _ => ensures_fail⟩

theorem ReadsTypes.deeper (hfile : AllLexical file) (hg : g.ReadsTypes file) :
    g.deeper.ReadsTypes file :=
  ⟨fun plus _ hts => ensures_typeSyntax hg plus hts,
    fun exprStyle _ hts => ensures_genericPath hfile hg exprStyle hts⟩

theorem readsTypes_ofDepth (hfile : AllLexical file) (n : Nat) :
    (ofDepth n).ReadsTypes file := by
  induction n with
  | zero => exact readsTypes_empty file
  | succ n ih => exact ih.deeper hfile

end Grammar

/-! ## Types that are written in a file -/

/-- A type that is read at some place of a file, at any depth. -/
def WrittenIn (source : String) (t : TypeSyntax) : Prop :=
  ∃ file place depth plus taken s, fileTrees source = some file ∧ Within file place ∧
    ((Grammar.ofDepth depth).type plus).run ⟨place, taken⟩ = some (t, s)

theorem WrittenIn.good {source : String} {t : TypeSyntax} (h : WrittenIn source t) : t.Good := by
  obtain ⟨file, place, depth, plus, taken, s, hfile, hplace, hread⟩ := h
  have hreads := Grammar.readsTypes_ofDepth (fileTrees_lexical hfile) depth
  exact hreads.type plus place hplace taken _ hread

end Idl

end RpcStubs
