import RpcStubs.Proofs.Inspection
import RpcStubs.Proofs.Lexing

/-!
# Types as text

The text of a type is read again as a type that refers to the same. `ReadAs` says so of trees and
is put together as the text is; the text is then cut into such trees.
-/

namespace RpcStubs

def MethodDecl.types (m : MethodDecl) : List TypeRef :=
  m.params.map Parameter.type ++ m.returnType.toList

namespace Idl

open Parse

/-! ## Where a type begins and ends -/

/-- No type goes on here. -/
def EndsType (us : List TokenTree) : Prop :=
  us = [] ∨ ∃ c joint vs, us = .punct c joint :: vs ∧ (c = ',' ∨ c = '>')

theorem EndsType.nextIs_eq_false {us : List TokenTree} (h : EndsType us) {op : String}
    (hop : op ∈ ["!", "+", "=", ":", "::", "<"]) : nextIs op us = false := by
  simp only [List.mem_cons, List.not_mem_nil, or_false] at hop
  obtain rfl | ⟨c, joint, vs, rfl, rfl | rfl⟩ := h <;>
    rcases hop with rfl | rfl | rfl | rfl | rfl | rfl <;> rfl

/-- A generic argument that begins so is a type. -/
structure StartsType (ts : List TokenTree) : Prop where
  lifetime : nextIsLifetime ts = false
  literal : nextIsLiteral ts = false
  brace : nextIsGroup .brace ts = false
  operator : ∀ op ∈ [">", "=", "<="], nextIs op ts = false

def colons : List TokenTree := [.punct ':' true, .punct ':' false]

theorem startsType_colons (ts : List TokenTree) : StartsType (colons ++ ts) := by
  refine ⟨rfl, rfl, rfl, ?_⟩
  simp [colons, nextIs, dropOperator?]

theorem startsType_group (inner ts : List TokenTree) : StartsType (.group .paren inner :: ts) := by
  refine ⟨rfl, rfl, rfl, ?_⟩
  simp [nextIs, dropOperator?]

theorem IsSegment.ne {w v : String} (hw : IsSegment w)
    (hv : v ∈ ["true", "false", "for", "fn", "unsafe", "extern"]) : w ≠ v := by
  rintro rfl
  have hallowed := hw.allowed
  simp only [List.mem_cons, List.not_mem_nil, or_false] at hv
  rcases hv with rfl | rfl | rfl | rfl | rfl | rfl <;> exact absurd hallowed (by decide)

theorem startsType_word {w : String} (hw : IsSegment w) (ts : List TokenTree) :
    StartsType (.ident w :: ts) := by
  refine ⟨rfl, ?_, rfl, ?_⟩
  · simp [nextIsLiteral, hw.ne]
  · simp [nextIs, dropOperator?]

/-- The trees, wherever a type may end after them, are read as a type that refers to `r`. -/
structure ReadAs (r : TypeRef) (ts : List TokenTree) : Prop where
  ne_nil : ts ≠ []
  starts : ∀ us, StartsType (ts ++ us)
  reads : ∀ n plus us, 2 * ts.length ≤ n → EndsType us →
    ∃ t, ((Grammar.ofDepth n).type plus).Reads (ts ++ us) us t ∧ t.typeRef = .ok r

/-- Arguments up to the closing angle bracket. -/
inductive ReadArgsAs : List TypeRef → List TokenTree → Prop
  | last {r : TypeRef} {ts : List TokenTree} (joint : Bool) (hr : ReadAs r ts) :
      ReadArgsAs [r] (ts ++ [.punct '>' joint])
  | more {r : TypeRef} {rs : List TypeRef} {ts us : List TokenTree} (joint : Bool)
      (hr : ReadAs r ts) (hrs : ReadArgsAs rs us) :
      ReadArgsAs (r :: rs) (ts ++ .punct ',' joint :: us)

theorem ReadArgsAs.length_le {refs : List TypeRef} {ts : List TokenTree}
    (h : ReadArgsAs refs ts) : refs.length ≤ ts.length := by
  induction h with
  | last joint hr => simp
  | more joint hr hrs ih =>
    simp only [List.length_append, List.length_cons]
    omega

theorem ReadArgsAs.starts {refs : List TypeRef} {ts : List TokenTree} (h : ReadArgsAs refs ts)
    (us : List TokenTree) : StartsType (ts ++ us) := by
  cases h with
  | last joint hr =>
    rw [List.append_assoc]
    exact hr.starts _
  | more joint hr hrs =>
    rw [List.append_assoc]
    exact hr.starts _

/-! ## Arguments -/

namespace Grammar

variable {g : Grammar} {ts us tl : List TokenTree} {args : SegmentArgs}

theorem reads_genericArgument {t : TypeSyntax} (hstarts : StartsType ts) (hus : EndsType us)
    (h : (g.type true).Reads ts us t) : g.genericArgument.Reads ts us (.type t) := by
  unfold genericArgument
  apply reads_look
  rw [if_neg (by simp [hstarts.lifetime]), if_neg (by simp [hstarts.literal, hstarts.brace])]
  refine h.bind ?_
  split
  · apply reads_look
    rw [if_neg (by simp [hus.nextIs_eq_false]), if_neg (by simp [hus.nextIs_eq_false])]
    exact reads_pure _
  · exact reads_pure _

theorem reads_argPieces {n : Nat} {refs : List TypeRef} (h : ReadArgsAs refs ts)
    (hn : 2 * ts.length ≤ n) {fuel : Nat} (hfuel : refs.length ≤ fuel) (us : List TokenTree) :
    ∃ pieces joint, ((ofDepth n).argPieces fuel).Reads (ts ++ us) (.punct '>' joint :: us) pieces ∧
      ∀ trees, argRefs trees (pieces.map ArgPiece.arg) = .ok refs := by
  -- One depth serves all arguments, and each of them takes a unit of fuel.
  induction h generalizing fuel with
  | @last r ts joint hr =>
    cases fuel with
    | zero => simp at hfuel
    | succ fuel =>
      have hends : EndsType (.punct '>' joint :: us) := .inr ⟨_, _, _, rfl, .inr rfl⟩
      obtain ⟨t, ht, href⟩ := hr.reads n true _ (by simp at hn; omega) hends
      obtain ⟨trees, haside⟩ := (reads_genericArgument (hr.starts _) hends ht).aside
      refine ⟨[⟨.type t, trees, false⟩], joint, ?_, ?_⟩
      · rw [List.append_assoc, List.singleton_append]
        unfold argPieces
        apply reads_look
        rw [if_neg (by simp [(hr.starts _).operator])]
        refine haside.bind ?_
        apply reads_look
        rw [if_pos (by rfl)]
        exact reads_pure _
      · intro trees
        simp [argRefs, href]
        rfl
  | @more r rs ts vs joint hr hrs ih =>
    cases fuel with
    | zero => simp at hfuel
    | succ fuel =>
      have hends : EndsType (.punct ',' joint :: vs ++ us) := .inr ⟨_, _, _, rfl, .inl rfl⟩
      obtain ⟨t, ht, href⟩ := hr.reads n true _ (by simp at hn; omega) hends
      obtain ⟨trees, haside⟩ := (reads_genericArgument (hr.starts _) hends ht).aside
      obtain ⟨pieces, joint', hpieces, hrefs⟩ := ih (by simp at hn; omega)
        (by simpa using hfuel)
      have hcomma : (operator ",").Reads (.punct ',' joint :: vs ++ us) (vs ++ us) () :=
        reads_operator rfl
      obtain ⟨comma, hcomma⟩ := hcomma.aside
      refine ⟨⟨.type t, trees, true⟩ :: pieces, joint', ?_, ?_⟩
      · rw [List.append_assoc]
        unfold argPieces
        apply reads_look
        rw [if_neg (by simp [(hr.starts _).operator])]
        refine haside.bind ?_
        apply reads_look
        rw [if_neg (by simp [nextIs, dropOperator?])]
        exact hcomma.bind (hpieces.bind (reads_pure _))
      · intro trees
        simp [argRefs, href, hrefs]
        rfl

theorem reads_angledArgs {n : Nat} {refs : List TypeRef} (h : ReadArgsAs refs ts)
    (hn : 2 * ts.length ≤ n) (joint : Bool) (us : List TokenTree) :
    ∃ args, (ofDepth n).angledArgs.Reads (.punct '<' joint :: ts ++ us) us args ∧
      ∀ trees, argRefs trees args = .ok refs := by
  have hfuel : refs.length ≤ (ts ++ us).length + 1 := by
    have := h.length_le
    simp only [List.length_append]
    omega
  obtain ⟨pieces, joint', hpieces, hrefs⟩ := reads_argPieces h hn hfuel us
  have hopen : (operator "<").Reads (.punct '<' joint :: ts ++ us) (ts ++ us) () :=
    reads_operator rfl
  have hclose : (operator ">").Reads (.punct '>' joint' :: us) us () := reads_operator rfl
  have hkeep : (keep (ArgPiece.printAll pieces)).Reads (.punct '>' joint' :: us)
      (.punct '>' joint' :: us) () := reads_replaceTrees 0 _
  refine ⟨pieces.map ArgPiece.arg, ?_, hrefs⟩
  unfold angledArgs
  refine (reads_no_operator rfl).bind (hopen.bind (reads_look ?_))
  exact hpieces.bind (hkeep.bind (hclose.bind (reads_pure _)))

theorem reads_no_segmentArgs (hus : startsArgs false us = false) :
    (g.segmentArgs false).Reads us us .none := by
  unfold segmentArgs
  apply reads_look
  rw [if_neg (by simp [hus])]
  exact reads_pure _

theorem reads_segmentArgs {n : Nat} {refs : List TypeRef} (h : ReadArgsAs refs ts)
    (hn : 2 * ts.length ≤ n) (joint : Bool) (us : List TokenTree) :
    ∃ args, ((ofDepth n).segmentArgs false).Reads (.punct '<' joint :: ts ++ us) us args ∧
      ∀ trees, args.typeRefs trees = .ok refs := by
  obtain ⟨args, hargs, hrefs⟩ := reads_angledArgs h hn joint us
  have hstarts : startsArgs false (.punct '<' joint :: ts ++ us) = true := by
    have hequals := (h.starts us).operator "=" (by simp)
    have hless := (h.starts us).operator "<=" (by simp)
    cases joint <;> simp_all [startsArgs, nextIs, dropOperator?]
  refine ⟨.angled args, ?_, hrefs⟩
  unfold segmentArgs
  apply reads_look
  rw [if_pos hstarts]
  exact hargs.bind (reads_pure _)

/-! ## Segments -/

def joinTrees : List String → List TokenTree
  | [] => []
  | [w] => [.ident w]
  | w :: v :: ws => .ident w :: (colons ++ joinTrees (v :: ws))

theorem length_le_joinTrees (ws : List String) : ws.length ≤ (joinTrees ws).length := by
  fun_induction joinTrees ws with
  | case1 => simp
  | case2 w => simp
  | case3 w v ws ih =>
    simp only [List.length_cons, List.length_append] at ih ⊢
    omega

/-- A path without the arguments of its last segment. -/
def pathTrees (absolute : Bool) (names : List String) : List TokenTree :=
  if absolute then colons ++ joinTrees names else joinTrees names

/-- Only the last segment has arguments. -/
def segmentsOf (args : SegmentArgs) : List String → List SegmentSyntax
  | [] => []
  | [w] => [.mk w args]
  | w :: v :: ws => .mk w .none :: segmentsOf args (v :: ws)

theorem segmentRefs_segmentsOf {trees : List TokenTree} {refs : List TypeRef}
    (h : args.typeRefs trees = .ok refs) (w : String) (ws : List String) :
    segmentRefs trees (segmentsOf args (w :: ws)) = .ok (w :: ws, refs) := by
  induction ws generalizing w with
  | nil =>
    rw [segmentsOf, segmentRefs, h]
    rfl
  | cons v ws ih =>
    obtain ⟨s, ss, hsegments⟩ : ∃ s ss, segmentsOf args (v :: ws) = s :: ss := by
      cases ws <;> exact ⟨_, _, rfl⟩
    rw [segmentsOf, hsegments, segmentRefs, ← hsegments, ih v]
    rfl

/-- What follows the last name of a path is read as its arguments. -/
structure EndsPath (g : Grammar) (name : String) (ts us : List TokenTree) (args : SegmentArgs) :
    Prop where
  bare : name ∈ bareWords → ts = us ∧ args = .none
  reads : name ∉ bareWords → (g.segmentArgs false).Reads ts us args

theorem reads_segment {w : String} (hw : IsSegment w) (h : EndsPath g w ts us args) :
    (g.segment false).Reads (.ident w :: ts) us (.mk w args) := by
  unfold segment
  apply reads_look
  by_cases hbare : w ∈ bareWords
  · obtain ⟨rfl, rfl⟩ := h.bare hbare
    rw [if_pos (by simpa [nextIsAnyWord, nextWord?, bareWords] using hbare)]
    exact (reads_anyWord w).bind (reads_pure _)
  · have hallowed : isIdentifier w = true ∨ w = "Self" := by
      have := hw.allowed
      tauto
    rw [if_neg (by simpa [nextIsAnyWord, nextWord?, bareWords] using hbare),
      if_pos (by simpa [nextIsIdent, nextIsWord, nextWord?] using hallowed)]
    exact (reads_anyWord w).bind ((h.reads hbare).bind (reads_pure _))

theorem reads_no_moreSegments (hus : nextIs "::" us = false) (fuel : Nat) :
    (g.moreSegments false fuel).Reads us us [] := by
  cases fuel with
  | zero => exact reads_pure _
  | succ fuel =>
    unfold moreSegments
    apply reads_look
    rw [if_neg (by simp [hus])]
    exact reads_pure _

theorem reads_segments {w : String} {ws : List String} (hws : ∀ v ∈ w :: ws, IsSegment v)
    (hlast : ∀ v ∈ (w :: ws).getLast?, EndsPath g v tl us args) (hus : nextIs "::" us = false) :
    ∃ vs first rest, first :: rest = segmentsOf args (w :: ws) ∧ ws.length ≤ vs.length ∧
      (g.segment false).Reads (joinTrees (w :: ws) ++ tl) vs first ∧
      ∀ fuel, ws.length ≤ fuel → (g.moreSegments false fuel).Reads vs us rest := by
  induction ws generalizing w with
  | nil =>
    have hw := hws w (by simp)
    exact ⟨us, .mk w args, [], rfl, by simp, reads_segment hw (hlast w rfl),
      fun fuel _ => reads_no_moreSegments hus fuel⟩
  | cons v ws ih =>
    obtain ⟨hw, hws⟩ := List.forall_mem_cons.mp hws
    obtain ⟨vs, first, rest, hsegments, hlength, hfirst, hrest⟩ := ih hws
      (by simpa using hlast)
    -- Nothing but two colons and a word follows the segment.
    have hcolons : EndsPath g w (colons ++ (joinTrees (v :: ws) ++ tl))
        (colons ++ (joinTrees (v :: ws) ++ tl)) .none := by
      refine ⟨fun _ => ⟨rfl, rfl⟩, fun _ => reads_no_segmentArgs ?_⟩
      cases ws <;> rfl
    refine ⟨colons ++ (joinTrees (v :: ws) ++ tl), .mk w .none, first :: rest, ?_, ?_, ?_, ?_⟩
    · rw [hsegments]
      rfl
    · have := length_le_joinTrees (v :: ws)
      simp only [List.length_append]
      omega
    · exact reads_segment hw hcolons
    · intro fuel hfuel
      cases fuel with
      | zero => simp at hfuel
      | succ fuel =>
        unfold moreSegments
        apply reads_look
        rw [if_pos (by cases ws <;> rfl)]
        have hoperator : (operator "::").Reads (colons ++ (joinTrees (v :: ws) ++ tl))
            (joinTrees (v :: ws) ++ tl) () := reads_operator rfl
        exact hoperator.bind (hfirst.bind ((hrest fuel (by simpa using hfuel)).bind
          (reads_pure _)))

theorem reads_genericPath {absolute : Bool} {names : List String} (hpath : IsPath absolute names)
    (hlast : ∀ v ∈ names.getLast?, EndsPath g v tl us args) (hus : nextIs "::" us = false) :
    (g.genericPath false).Reads (pathTrees absolute names ++ tl) us
      (.mk absolute (segmentsOf args names)) := by
  obtain ⟨w, ws, rfl⟩ := List.exists_cons_of_ne_nil hpath.ne_nil
  obtain ⟨vs, first, rest, hsegments, hlength, hfirst, hrest⟩ :=
    reads_segments hpath.segments hlast hus
  have habsolute : (operator? "::").Reads (pathTrees absolute (w :: ws) ++ tl)
      (joinTrees (w :: ws) ++ tl) absolute := by
    cases absolute with
    | false => exact reads_no_operator (by cases ws <;> rfl)
    | true =>
      have hnext : nextIs "::" (pathTrees true (w :: ws) ++ tl) = true := rfl
      exact reads_operator? hnext
  unfold genericPath
  refine habsolute.bind (hfirst.bind (reads_look ((hrest _ hlength).bind ?_)))
  rw [hsegments]
  exact reads_pure _

/-! ## Types -/

/-- How the trees of a path begin. -/
inductive StartsPath : List TokenTree → Prop
  | colons (ts : List TokenTree) : StartsPath (colons ++ ts)
  | word {w : String} (hw : IsSegment w) (htry : w ≠ "try") (ts : List TokenTree) :
      StartsPath (.ident w :: ts)

theorem startsPath_pathTrees {absolute : Bool} {names : List String}
    (hpath : IsPath absolute names) (tl : List TokenTree) :
    StartsPath (pathTrees absolute names ++ tl) := by
  obtain ⟨w, ws, rfl⟩ := List.exists_cons_of_ne_nil hpath.ne_nil
  cases absolute with
  | true => exact .colons _
  | false =>
    have hw := hpath.segments w List.mem_cons_self
    have htry : w ≠ "try" := fun h => hpath.first rfl (by rw [h]; rfl)
    cases ws with
    | nil => exact .word hw htry _
    | cons v ws => exact .word hw htry _

theorem StartsPath.startsType (h : StartsPath ts) : StartsType ts := by
  cases h with
  | colons ts => exact startsType_colons ts
  | word hw htry ts => exact startsType_word hw ts

theorem reads_typeBinder (hfor : nextIsWord "for" ts = false) :
    g.typeBinder.Reads ts ts false := by
  unfold typeBinder
  apply reads_look
  rw [if_neg (by simp [hfor])]
  exact reads_pure _

theorem reads_pathType {p : PathSyntax} {plus : Bool} (h : StartsPath ts)
    (hp : (g.path false).Reads ts us p) (hus : EndsType us) :
    (g.pathType plus false).Reads ts us (.path p) := by
  have hqualified : (g.qualifiedPath false).Reads ts us (some p) := by
    have hangle : nextIs "<" ts = false := by
      cases h <;> rfl
    unfold qualifiedPath
    exact (reads_no_operator hangle).bind (hp.bind (reads_pure _))
  unfold pathType
  refine hqualified.bind (reads_look ?_)
  rw [if_neg (by simp [hus.nextIs_eq_false]), if_neg (by simp [hus.nextIs_eq_false])]
  exact reads_pure _

theorem reads_typeForm {p : PathSyntax} {plus : Bool} (h : StartsPath ts)
    (hp : (g.path false).Reads ts us p) (hus : EndsType us) :
    (g.typeForm plus).Reads ts us (.path p) := by
  have hfor : nextIsWord "for" ts = false := by
    cases h with
    | colons ts => rfl
    | word hw htry ts => simp [nextIsWord, nextWord?, hw.ne]
  have hgroup : nextIsGroup .paren ts = false := by
    cases h <;> rfl
  have hpointer : nextIsAnyWord ["fn", "unsafe", "extern"] ts = false := by
    cases h with
    | colons ts => rfl
    | word hw htry ts => simp [nextIsAnyWord, nextWord?, hw.ne]
  have hstarts : (startsPath ts || nextIs "::" ts || nextIs "<" ts) = true := by
    cases h with
    | colons ts => rfl
    | @word w hw htry ts =>
      have hallowed := hw.allowed
      simp only [bareWords, List.mem_cons, List.not_mem_nil, or_false] at hallowed
      simp only [startsPath, nextIsIdent, nextIsAnyWord, nextWord?, Bool.or_eq_true,
        List.contains_iff_mem, List.mem_cons, List.not_mem_nil, or_false]
      tauto
  unfold typeForm
  refine (reads_typeBinder hfor).bind (reads_look ?_)
  rw [if_neg (by simp [hgroup]), if_neg (by simp [hpointer]), if_pos hstarts]
  exact reads_pathType h hp hus

theorem reads_typeSyntax {plus : Bool} {form : TypeForm}
    (h : (g.typeForm plus).Reads ts us form) :
    ∃ trees, (g.typeSyntax plus).Reads ts us (form trees) := by
  obtain ⟨trees, hform⟩ := h.captured
  refine ⟨trees, ?_⟩
  unfold typeSyntax
  exact hform.bind (reads_pure _)

theorem reads_unitForm {plus : Bool} (us : List TokenTree) :
    (g.typeForm plus).Reads (.group .paren [] :: us) us .unit := by
  have hbody : g.parenBody.Reads [] [] .unit := by
    unfold parenBody
    exact reads_look (reads_pure _)
  unfold typeForm
  refine (reads_typeBinder rfl).bind (reads_look ?_)
  rw [if_pos (by rfl)]
  unfold parenType
  exact (hbody.group .paren).bind (reads_pure _)

end Grammar

/-! ## Trees that are read as a type -/

open Grammar

theorem typeRef_segmentsOf {args : SegmentArgs} {refs : List TypeRef} {trees : List TokenTree}
    (h : args.typeRefs trees = .ok refs) (absolute : Bool) {names : List String}
    (hnames : names ≠ []) :
    (TypeSyntax.path (.mk absolute (segmentsOf args names)) trees).typeRef =
      .ok ⟨pathText absolute names, refs⟩ := by
  obtain ⟨w, ws, rfl⟩ := List.exists_cons_of_ne_nil hnames
  rw [TypeSyntax.typeRef, PathSyntax.typeRef, segmentRefs_segmentsOf h]
  rfl

theorem readAs_unit : ReadAs .unit [.group .paren []] := by
  refine ⟨by simp, fun us => startsType_group [] us, ?_⟩
  intro n plus us hn _
  obtain ⟨m, rfl⟩ : ∃ m, n = m + 1 := ⟨n - 1, by simp at hn; omega⟩
  have hunit : ∃ trees, ((ofDepth (m + 1)).type plus).Reads (.group .paren [] :: us) us
      (.unit trees) := reads_typeSyntax (reads_unitForm us)
  obtain ⟨trees, hunit⟩ := hunit
  exact ⟨_, hunit, rfl⟩

theorem readAs_pathTrees {absolute : Bool} {names : List String} {refs : List TypeRef}
    {tl : List TokenTree} (hpath : IsPath absolute names)
    (h : ∀ n us, 2 * tl.length ≤ n → EndsType us →
      ∃ args, (∀ v ∈ names.getLast?, EndsPath (ofDepth n) v (tl ++ us) us args) ∧
        ∀ trees, args.typeRefs trees = .ok refs) :
    ReadAs ⟨pathText absolute names, refs⟩ (pathTrees absolute names ++ tl) := by
  have hne : pathTrees absolute names ≠ [] := by
    intro hnil
    have := startsPath_pathTrees hpath []
    rw [hnil] at this
    cases this
  have hlength := List.length_pos_iff.mpr hne
  refine ⟨by simp [hne], ?_, ?_⟩
  · intro us
    rw [List.append_assoc]
    exact (startsPath_pathTrees hpath _).startsType
  · intro n plus us hn hus
    rw [List.length_append] at hn
    obtain ⟨m, rfl⟩ : ∃ m, n = m + 2 := ⟨n - 2, by omega⟩
    obtain ⟨args, hargs, hrefs⟩ := h m us (by omega) hus
    have hp : ((ofDepth (m + 1)).path false).Reads (pathTrees absolute names ++ (tl ++ us)) us
        (.mk absolute (segmentsOf args names)) :=
      reads_genericPath hpath hargs (hus.nextIs_eq_false (by simp))
    have htype : ∃ trees, ((ofDepth (m + 2)).type plus).Reads _ us (.path _ trees) :=
      reads_typeSyntax (reads_typeForm (startsPath_pathTrees hpath _) hp hus)
    obtain ⟨trees, htype⟩ := htype
    rw [List.append_assoc]
    exact ⟨_, htype, typeRef_segmentsOf (hrefs trees) absolute hpath.ne_nil⟩

theorem readAs_path {absolute : Bool} {names : List String} (hpath : IsPath absolute names) :
    ReadAs ⟨pathText absolute names, []⟩ (pathTrees absolute names) := by
  rw [← List.append_nil (pathTrees absolute names)]
  apply readAs_pathTrees hpath
  intro n us _ hus
  have hends : startsArgs false us = false := by
    simp [startsArgs, hus.nextIs_eq_false]
  refine ⟨.none, ?_, fun _ => rfl⟩
  exact fun v _ => ⟨fun _ => ⟨rfl, rfl⟩, fun _ => reads_no_segmentArgs hends⟩

theorem readAs_angled {absolute : Bool} {names : List String} {refs : List TypeRef}
    {ts : List TokenTree} (hpath : IsPath absolute names)
    (hlast : ∀ name ∈ names.getLast?, name ∉ bareWords) (joint : Bool)
    (hrefs : ReadArgsAs refs ts) :
    ReadAs ⟨pathText absolute names, refs⟩
      (pathTrees absolute names ++ .punct '<' joint :: ts) := by
  apply readAs_pathTrees hpath
  intro n us hn _
  have hdepth : 2 * ts.length ≤ n := by
    rw [List.length_cons] at hn
    omega
  obtain ⟨args, hargs, hfound⟩ := reads_segmentArgs hrefs hdepth joint us
  refine ⟨args, ?_, hfound⟩
  exact fun v hv => ⟨fun hbare => absurd hbare (hlast v hv), fun _ => hargs⟩

/-! ## The text of a type -/

def EndsText (rest : List Char) : Prop := rest = [] ∨ ∃ c cs, rest = c :: cs ∧ c ∈ [',', '>']

theorem EndsText.endsWord {rest : List Char} (h : EndsText rest) : EndsWord rest := by
  obtain rfl | ⟨c, cs, rfl, hc⟩ := h
  · rintro _ ⟨⟩
  · apply endsWord_mark
    simp only [typeMarks, List.mem_cons, List.not_mem_nil, or_false] at hc ⊢
    tauto

theorem lexesAs_colons {rest : List Char} (h : startsPunct rest = false) :
    LexesAs [':', ':'] rest colons := by
  have hfirst : LexesAs [':'] ([':'] ++ rest) [.punct ':' true] :=
    lexesAs_punct (by simp [typeMarks]) _
  have hsecond : LexesAs [':'] rest [.punct ':' false] := by
    rw [← h]
    exact lexesAs_punct (by simp [typeMarks]) rest
  exact hfirst.append hsecond

theorem startsPunct_intercalate {w : String} (hw : IsWord w.toList) (ws : List String)
    (rest : List Char) : startsPunct (("::".intercalate (w :: ws)).toList ++ rest) = false := by
  cases ws with
  | nil =>
    rw [String.intercalate_singleton]
    exact startsPunct_word hw rest
  | cons v ws =>
    rw [String.intercalate_cons_cons, String.toList_append, String.toList_append,
      List.append_assoc, List.append_assoc]
    exact startsPunct_word hw _

theorem lexesAs_intercalate {w : String} {ws : List String} {rest : List Char}
    (hws : ∀ v ∈ w :: ws, IsSegment v) (hrest : EndsWord rest) :
    LexesAs ("::".intercalate (w :: ws)).toList rest (joinTrees (w :: ws)) := by
  induction ws generalizing w with
  | nil =>
    rw [String.intercalate_singleton]
    exact lexesAs_word (hws w List.mem_cons_self).word hrest
  | cons v ws ih =>
    obtain ⟨hw, hws⟩ := List.forall_mem_cons.mp hws
    have hv := (hws v List.mem_cons_self).word
    have hlater : LexesAs ([':', ':'] ++ ("::".intercalate (v :: ws)).toList) rest
        (colons ++ joinTrees (v :: ws)) :=
      (lexesAs_colons (startsPunct_intercalate hv ws rest)).append (ih hws)
    have hends : EndsWord (':' :: ':' :: ("::".intercalate (v :: ws)).toList ++ rest) :=
      endsWord_mark (by simp [typeMarks]) _
    have hfirst := lexesAs_word hw.word hends
    rw [String.intercalate_cons_cons, String.toList_append, String.toList_append,
      List.append_assoc]
    exact hfirst.append hlater

theorem lexesAs_pathText {absolute : Bool} {names : List String} {rest : List Char}
    (hpath : IsPath absolute names) (hrest : EndsWord rest) :
    LexesAs (pathText absolute names).toList rest (pathTrees absolute names) := by
  obtain ⟨w, ws, rfl⟩ := List.exists_cons_of_ne_nil hpath.ne_nil
  have hw := (hpath.segments w List.mem_cons_self).word
  have hnames := lexesAs_intercalate hpath.segments hrest
  cases absolute with
  | false => exact hnames
  | true =>
    have hcolons := lexesAs_colons (startsPunct_intercalate hw ws rest)
    simp only [pathText, if_true, String.toList_append]
    exact hcolons.append hnames

/-- The text of a type is cut into trees that are read as the same type. -/
def Reprints (r : TypeRef) : Prop :=
  ∀ rest, EndsText rest → ∃ ts, LexesAs r.display.toList rest ts ∧ ReadAs r ts

theorem lexesAs_args {r : TypeRef} {rs : List TypeRef} (h : ∀ s ∈ r :: rs, Reprints s)
    (rest : List Char) :
    ∃ ts, LexesAs (r.display.toList ++ (TypeRef.displayRest rs).toList ++ ['>']) rest ts ∧
      ReadArgsAs (r :: rs) ts := by
  induction rs generalizing r with
  | nil =>
    obtain ⟨ts, hts, hread⟩ := h r List.mem_cons_self ('>' :: rest) (.inr ⟨_, _, rfl, by simp⟩)
    obtain ⟨joint, hclose⟩ := (lexesAs_nil rest).mark (by simp [typeMarks] : '>' ∈ typeMarks)
    refine ⟨ts ++ [.punct '>' joint], ?_, .last joint hread⟩
    simpa [TypeRef.displayRest] using hts.append hclose
  | cons s rs ih =>
    obtain ⟨hr, hrs⟩ := List.forall_mem_cons.mp h
    obtain ⟨us, hus, hargs⟩ := ih hrs
    have hblank := (lexesAs_blank (by decide : isSpace ' ' = true) _).append hus
    obtain ⟨joint, hcomma⟩ := hblank.mark (by simp [typeMarks] : ',' ∈ typeMarks)
    have hends : ∀ cs, EndsText (',' :: cs) := fun cs => .inr ⟨_, cs, rfl, by simp⟩
    obtain ⟨ts, hts, hread⟩ := hr _ (hends _)
    refine ⟨ts ++ .punct ',' joint :: us, ?_, .more joint hread hargs⟩
    simpa [TypeRef.displayRest] using hts.append hcomma

theorem Readable.reprints {r : TypeRef} (h : Readable r) : Reprints r := by
  induction h with
  | unit => exact fun rest _ => ⟨_, lexesAs_parens rest, readAs_unit⟩
  | @path absolute names args hpath hargs hreadable ih =>
    intro rest hrest
    cases args with
    | nil => exact ⟨_, lexesAs_pathText hpath hrest.endsWord, readAs_path hpath⟩
    | cons r rs =>
      obtain ⟨ts, hts, hread⟩ := lexesAs_args ih rest
      obtain ⟨joint, hangle⟩ := hts.mark (by simp [typeMarks] : '<' ∈ typeMarks)
      have hends := endsWord_mark (by simp [typeMarks] : '<' ∈ typeMarks)
      refine ⟨_, ?_, readAs_angled hpath (hargs (by simp)) joint hread⟩
      simpa [TypeRef.display] using (lexesAs_pathText hpath (hends _)).append hangle

/-! ## Reading a type again -/

def parseType (source : String) : Option TypeSyntax :=
  (tokenTrees source.toList).bind fun trees =>
    (readAll ((Grammar.ofDepth (nestingBound trees)).type true) trees).map Prod.fst

theorem length_le_sizeOf (ts : List TokenTree) : ts.length ≤ TokenTree.sizeOf ts := by
  induction ts with
  | nil => simp
  | cons t ts ih =>
    have hone : 1 ≤ t.size := by
      cases t <;> simp [TokenTree.size]
    simp only [List.length_cons, TokenTree.sizeOf]
    omega

theorem Readable.parseType_display {r : TypeRef} (h : Readable r) :
    ∃ t, parseType r.display = some t ∧ t.typeRef = .ok r := by
  obtain ⟨ts, hlex, hread⟩ := h.reprints [] (.inl rfl)
  have hdepth : 2 * ts.length ≤ nestingBound ts := by
    have := length_le_sizeOf ts
    unfold nestingBound
    omega
  obtain ⟨t, ht, href⟩ := hread.reads _ true [] hdepth (.inl rfl)
  rw [List.append_nil] at ht
  obtain ⟨taken, hall⟩ := ht.readAll
  refine ⟨t, ?_, href⟩
  simp only [parseType, hlex.tokenTrees, Option.bind_some, hall, Option.map_some]

/-! ## Types of inspected methods -/

theorem toParameter_eq_ok {p : ParamSyntax} {parameter : Parameter}
    (h : p.toParameter = .ok parameter) : p.type.typeRef = .ok parameter.type := by
  unfold ParamSyntax.toParameter at h
  split at h
  · obtain ⟨type, htype, h⟩ := (bind_eq_ok _ _ _).mp h
    cases h
    exact htype
  · cases h

theorem typeRef_of_toDecl {m : MethodSyntax} {d : MethodDecl} (h : m.toDecl = .ok d)
    {r : TypeRef} (hr : r ∈ d.types) :
    ∃ t ∈ m.signature.types, t.typeRef = .ok r := by
  obtain ⟨params, hparams, h⟩ := (bind_eq_ok _ _ _).mp h
  obtain ⟨returnType, hreturn, h⟩ := (bind_eq_ok _ _ _).mp h
  obtain ⟨marks, -, h⟩ := (bind_eq_ok _ _ _).mp h
  cases h
  rcases List.mem_append.mp hr with hr | hr
  · obtain ⟨parameter, hparameter, rfl⟩ := List.mem_map.mp hr
    have hflip := ((mapM_eq_ok _ _ _).mp hparams).flip
    obtain ⟨p, hp, hread⟩ := exists_of_forall₂ hflip hparameter
    exact ⟨p.type, List.mem_append_left _ (List.mem_map_of_mem hp), toParameter_eq_ok hread⟩
  · have hr : returnType = some r := Option.mem_toList.mp hr
    subst hr
    cases houtput : m.signature.output with
    | none =>
      rw [houtput] at hreturn
      cases hreturn
    | some t =>
      rw [houtput] at hreturn
      obtain ⟨type, htype, h⟩ := (bind_eq_ok _ _ _).mp hreturn
      cases h
      exact ⟨t, by simp [SignatureSyntax.types, houtput], htype⟩

theorem written_of_inspect {path source package : String}
    {found : List (Except Error Declaration)} (h : inspect path source package = .ok found)
    {d : Declaration} (hd : .ok d ∈ found) {m : MethodDecl} (hm : m ∈ d.methods) {r : TypeRef}
    (hr : r ∈ m.types) : ∃ t, WrittenIn source t ∧ t.typeRef = .ok r := by
  obtain ⟨⟨modules, item⟩, hfound, hresult⟩ := exists_leaf_of_inspect h hd
  cases item with
  | trait name attrs methods =>
    obtain ⟨marks, decls, -, hdecls, rfl⟩ := hresult
    obtain ⟨method, hmethod, hdecl⟩ := exists_of_forall₂ hdecls.flip hm
    obtain ⟨t, ht, href⟩ := typeRef_of_toDecl hdecl hr
    cases hfound.item with
    | trait htypes => exact ⟨t, htypes method hmethod t ht, href⟩
  | plain kind name attrs =>
    obtain ⟨marks, -, rfl⟩ := hresult
    cases hm
  | module name items => exact hresult.elim
  | other => exact hresult.elim

/-- Whatever type a file refers to, its text is read as the same type, so that different types have
different texts. -/
theorem types_survive_printing (source : String) :
    (∀ t r, WrittenIn source t → t.typeRef = .ok r →
      ∃ t', parseType r.display = some t' ∧ t'.typeRef = .ok r) ∧
    (∀ source' t t' r r', WrittenIn source t → t.typeRef = .ok r →
      WrittenIn source' t' → t'.typeRef = .ok r' → r ≠ r' → r.display ≠ r'.display) ∧
    ∀ path package found, inspect path source package = .ok found →
      ∀ d, .ok d ∈ found → ∀ m ∈ d.methods, ∀ r ∈ m.types,
        ∃ t, WrittenIn source t ∧ t.typeRef = .ok r := by
  refine ⟨?_, ?_, ?_⟩
  · intro t r ht href
    exact (ht.good r href).parseType_display
  · intro source' t t' r r' ht href ht' href' hne hdisplay
    obtain ⟨u, hu, hur⟩ := (ht.good r href).parseType_display
    obtain ⟨v, hv, hvr⟩ := (ht'.good r' href').parseType_display
    rw [hdisplay, hv] at hu
    cases hu
    rw [hvr] at hur
    exact hne (Except.ok.inj hur).symm
  · intro path package found hfound d hd m hm r hr
    exact written_of_inspect hfound hd hm hr

def roundaboutSource : String :=
  "#[service] trait S \x7b " ++
  "fn f(&self, x: (::a::r#type<'_, Vec::<u8,>>)) -> impl Stream<Item = ()>; \x7d"

theorem types_survive_printing_roundabout :
    ∃ d m, inspect "idl" roundaboutSource "p" = .ok [.ok d] ∧ d.methods = [m] ∧
      m.types.map TypeRef.display = ["::a::r#type<Vec<u8>>", "Stream<()>"] ∧
      ∀ r ∈ m.types, ∃ t, parseType r.display = some t ∧ t.typeRef = .ok r := by
  let x : Parameter := ⟨"x", ⟨"::a::r#type", [⟨"Vec", [⟨"u8", []⟩]⟩]⟩⟩
  let m : MethodDecl := ⟨"f", [], [x], some (.streamOf .unit), false, []⟩
  let d : Declaration := ⟨"S", "p", .interface, [⟨"service", .empty⟩], [m], []⟩
  have hfound : inspect "idl" roundaboutSource "p" = .ok [.ok d] := by decide +kernel
  have hsurvive := types_survive_printing roundaboutSource
  refine ⟨d, m, hfound, rfl, by decide +kernel, ?_⟩
  intro r hr
  obtain ⟨t, ht, href⟩ :=
    hsurvive.2.2 _ _ _ hfound d List.mem_cons_self m List.mem_cons_self r hr
  exact hsurvive.1 t r ht href

end Idl

end RpcStubs
