import RpcStubs.Proofs.FileTypes

/-!
# Items of a file

The types in the methods of a file are types that are written in it, and its modules are named by
words.
-/

namespace RpcStubs.Idl

open Parse

def SignatureSyntax.types (s : SignatureSyntax) : List TypeSyntax :=
  s.params.map ParamSyntax.type ++ s.output.toList

/-- An item of a file. -/
inductive FoundIn (source : String) : ItemSyntax → Prop
  | trait {name : String} {attrs : List Attribute} {methods : List MethodSyntax}
      (h : ∀ m ∈ methods, ∀ t ∈ m.signature.types, WrittenIn source t) :
      FoundIn source (.trait name attrs methods)
  | module {name : String} {items : List ItemSyntax} (hname : IsWord name.toList)
      (hitems : ∀ item ∈ items, FoundIn source item) : FoundIn source (.module name items)
  | plain {kind : DeclKind} {name : String} {attrs : List Attribute} :
      FoundIn source (.plain kind name attrs)
  | other : FoundIn source .other

namespace Grammar

/-- What a table of readers finds in the trees of a file. -/
structure ReadsItems (source : String) (file : List TokenTree) (g : Grammar) : Prop where
  type : ∀ plus ts, Within file ts → (g.type plus).Ensures ts (fun t _ => WrittenIn source t)
  item : ∀ ts, Within file ts → g.item.Ensures ts (fun item _ => FoundIn source item)

variable {source : String} {file ts : List TokenTree} {g : Grammar}

/-! ## Signatures -/

def ArgForm.Written (source : String) : ArgForm → Prop
  | .param p => WrittenIn source p.type
  | _ => True

theorem ensures_argForm (hg : g.ReadsItems source file) (hts : Within file ts) :
    g.argForm.Ensures ts (fun form _ => form.Written source) := by
  have hahead : (ahead g.receiver).Ensures ts (fun _ us => us = ts) :=
    ensures_ahead rfl (fun _ => rfl)
  unfold argForm
  refine hahead.bind ?_
  rintro found us - rfl
  cases found with
  | some _ => exact ensures_after fun _ _ _ => ensures_pure trivial
  | none =>
    apply ensures_look
    split
    · refine (hg.type true us hts).bind ?_
      intro type _ _ htype
      exact ensures_pure htype
    · apply ensures_after
      rintro ⟨form, trees⟩ vs hvs
      dsimp only
      apply ensures_after
      intro _ ws hws
      apply ensures_after
      intro dots xs hxs
      split
      · exact ensures_pure trivial
      · refine (hg.type true xs (hts.suffix (hxs.trans (hws.trans hvs)))).bind ?_
        intro type _ _ htype
        exact ensures_pure htype

theorem ensures_argOrDots (hg : g.ReadsItems source file) (hts : Within file ts) :
    g.argOrDots.Ensures ts (fun form _ => form.Written source) := by
  unfold argOrDots
  apply ensures_after
  intro dots us hus
  split
  · exact ensures_pure trivial
  · exact ensures_argForm hg (hts.suffix hus)

theorem ensures_argForms (hg : g.ReadsItems source file) (first : Bool) (fuel : Nat)
    (hts : Within file ts) :
    (g.argForms first fuel).Ensures ts (fun params _ => ∀ p ∈ params, WrittenIn source p.type) := by
  induction fuel generalizing first ts with
  | zero => exact ensures_fail
  | succ fuel ih =>
    have hnil : ∀ us, (pure [] : Parse (List ParamSyntax)).Ensures us
        (fun params _ => ∀ p ∈ params, WrittenIn source p.type) := fun _ => ensures_pure (by simp)
    unfold argForms
    apply ensures_after
    intro done us hus
    split
    · exact hnil us
    apply ensures_after
    intro _ vs hvs
    have hplace := (hts.suffix hus).suffix hvs
    refine (ensures_argOrDots hg hplace).bind ?_
    intro form ws hws hform
    cases form with
    | variadic => exact ensures_after fun _ _ _ => hnil _
    | receiver =>
      dsimp only
      split
      · exact ensures_bind ensures_fail
      apply ensures_after
      intro last xs hxs
      split
      · exact hnil xs
      apply ensures_after
      intro _ ys hys
      exact ih false (hplace.suffix (hys.trans (hxs.trans hws)))
    | param p =>
      have hp : WrittenIn source p.type := hform
      apply ensures_after
      intro last xs hxs
      split
      · exact ensures_pure (by simpa using hp)
      apply ensures_after
      intro _ ys hys
      refine (ih false (hplace.suffix (hys.trans (hxs.trans hws)))).bind ?_
      intro rest _ _ hrest
      exact ensures_pure (List.forall_mem_cons.mpr ⟨hp, hrest⟩)

theorem ensures_result (hg : g.ReadsItems source file) (plus : Bool) (hts : Within file ts) :
    (g.result plus).Ensures ts (fun output _ => ∀ t ∈ output, WrittenIn source t) := by
  unfold result
  apply ensures_after
  intro arrow us hus
  split
  · refine (hg.type plus us (hts.suffix hus)).bind ?_
    intro type _ _ htype
    exact ensures_pure (by simpa using htype)
  · exact ensures_pure (by simp)

theorem ensures_signature (hg : g.ReadsItems source file) (allowSafe : Bool)
    (hts : Within file ts) :
    (g.signature allowSafe).Ensures ts (fun s _ => ∀ t ∈ s.types, WrittenIn source t) := by
  unfold signature
  apply ensures_after
  intro isAsync us hus
  apply ensures_after
  intro name vs hvs
  apply ensures_after
  intro _ ws hws
  have hplace := hts.suffix (hws.trans (hvs.trans hus))
  have hparams : (group .paren (do g.argForms true ((← remaining).length + 1))).Ensures ws
      (fun params _ => ∀ p ∈ params, WrittenIn source p.type) := by
    apply ensures_group
    rintro inner rest rfl
    exact ensures_look (ensures_argForms hg true _ hplace.inside)
  refine hparams.bind ?_
  intro params xs hxs hparams
  refine (ensures_result hg true (hplace.suffix hxs)).bind ?_
  intro output _ _ houtput
  apply ensures_after
  intro _ _ _
  apply ensures_pure
  intro t ht
  simp only [SignatureSyntax.types, List.mem_append, List.mem_map, Option.mem_toList] at ht
  rcases ht with ⟨p, hp, rfl⟩ | ht
  · exact hparams p hp
  · exact houtput t ht

/-! ## Items -/

theorem ensures_traitMember (hg : g.ReadsItems source file) (hts : Within file ts) :
    g.traitMember.Ensures ts
      (fun found _ => ∀ m ∈ found, ∀ t ∈ m.signature.types, WrittenIn source t) := by
  have hnone : ∀ us, (pure none : Parse (Option MethodSyntax)).Ensures us
      (fun found _ => ∀ m ∈ found, ∀ t ∈ m.signature.types, WrittenIn source t) :=
    fun _ => ensures_pure (by simp)
  unfold traitMember
  apply ensures_after
  intro attrs us hus
  apply ensures_after
  intro visible vs hvs
  apply ensures_after
  intro default ws hws
  apply ensures_look
  split
  · refine (ensures_signature hg false (hts.suffix (hws.trans (hvs.trans hus)))).bind ?_
    intro signature _ _ hsignature
    apply ensures_after
    intro inner _ _
    split
    · exact hnone _
    · exact ensures_pure (by simpa using hsignature)
  split
  · exact ensures_after fun _ _ _ => hnone _
  split
  · exact ensures_after fun _ _ _ => hnone _
  split
  · exact ensures_after fun _ _ _ => hnone _
  · exact ensures_fail

theorem ensures_traitBody (hg : g.ReadsItems source file) (name : String)
    (attrs : List Attribute) (hts : Within file ts) :
    (g.traitBody name attrs).Ensures ts (fun item _ => FoundIn source item) := by
  unfold traitBody
  apply ensures_after
  intro _ us hus
  apply ensures_after
  intro _ vs hvs
  apply ensures_group
  rintro inner rest rfl
  have hplace := (hts.suffix (hvs.trans hus)).inside
  apply ensures_after
  intro innerAttrs ws hws
  refine Ensures.bind (ensures_many fun xs hxs =>
    ensures_traitMember hg (hplace.suffix (hxs.trans hws))) ?_
  intro members _ _ hmembers
  apply ensures_pure
  apply FoundIn.trait
  intro m hm
  obtain ⟨found, hfound, hsome⟩ := List.mem_filterMap.mp hm
  exact hmembers found hfound m hsome

theorem ensures_traitItem (hg : g.ReadsItems source file) (attrs : List Attribute)
    (hts : Within file ts) :
    (g.traitItem attrs).Ensures ts (fun item _ => FoundIn source item) := by
  unfold traitItem
  apply ensures_look
  apply ensures_after
  intro _ us hus
  apply ensures_after
  intro _ vs hvs
  apply ensures_after
  intro _ ws hws
  apply ensures_after
  intro name xs hxs
  apply ensures_after
  intro _ ys hys
  apply ensures_look
  split
  · exact ensures_after fun _ _ _ => ensures_after fun _ _ _ => ensures_after fun _ _ _ =>
      ensures_after fun _ _ _ => ensures_pure .other
  · exact ensures_traitBody hg name attrs
      (hts.suffix (hys.trans (hxs.trans (hws.trans (hvs.trans hus)))))

theorem ensures_moduleName (hfile : AllLexical file) (hts : Within file ts) :
    moduleName.Ensures ts (fun name _ => IsWord name.toList) := by
  unfold moduleName
  apply ensures_look
  split
  · apply ensures_anyWord
    rintro name us rfl
    exact hts.isWord hfile
  · apply ensures_ident
    rintro name us rfl -
    exact hts.isWord hfile

theorem ensures_moduleItem (hfile : AllLexical file) (hg : g.ReadsItems source file)
    (hts : Within file ts) :
    g.moduleItem.Ensures ts (fun item _ => FoundIn source item) := by
  unfold moduleItem
  apply ensures_after
  intro _ us hus
  apply ensures_after
  intro _ vs hvs
  have hplace := hts.suffix (hvs.trans hus)
  refine (ensures_moduleName hfile hplace).bind ?_
  intro name ws hws hname
  apply ensures_after
  intro closed xs hxs
  split
  · exact ensures_pure .other
  apply ensures_group
  rintro inner rest rfl
  have hinside := (hplace.suffix (hxs.trans hws)).inside
  apply ensures_after
  intro _ ys hys
  refine Ensures.bind (ensures_many fun zs hzs =>
    hg.item zs (hinside.suffix (hzs.trans hys))) ?_
  intro items _ _ hitems
  exact ensures_pure (.module hname hitems)

theorem ensures_functionItem (attrs : List Attribute) :
    (g.functionItem attrs).Ensures ts (fun item _ => FoundIn source item) := by
  unfold functionItem
  apply ensures_after
  intro signature _ _
  apply ensures_after
  intro inner _ _
  cases inner with
  | some inner => exact ensures_pure .plain
  | none => exact ensures_pure .other

theorem ensures_itemAfter (hfile : AllLexical file) (hg : g.ReadsItems source file)
    (attrs : List Attribute) (hts : Within file ts) :
    (g.itemAfter attrs).Ensures ts (fun item _ => FoundIn source item) := by
  have hother : ∀ us, (pure ItemSyntax.other : Parse ItemSyntax).Ensures us
      (fun item _ => FoundIn source item) := fun _ => ensures_pure .other
  -- Case by case, in the order in which the grammar tries them.
  unfold itemAfter
  apply ensures_after
  intro visible us hus
  have hplace := hts.suffix hus
  have htrait := ensures_traitItem hg attrs hplace
  have hmodule := ensures_moduleItem hfile hg hplace
  apply ensures_look
  refine ensures_ite (fun _ => ensures_functionItem attrs) fun _ => ?_
  refine ensures_ite (fun _ => ?_) fun _ => ?_
  · refine ensures_ite (fun _ => ensures_after fun _ _ _ => hother _) fun _ => ?_
    refine ensures_ite (fun _ => ensures_bind ensures_fail) fun _ => ?_
    exact ensures_after fun _ _ _ => hother _
  refine ensures_ite (fun _ => ensures_after fun _ _ _ => hother _) fun _ => ?_
  refine ensures_ite (fun _ => ensures_after fun _ _ _ => hother _) fun _ => ?_
  refine ensures_ite (fun _ => ensures_after fun _ _ _ => hother _) fun _ => ?_
  refine ensures_ite (fun _ => ?_) fun _ => ?_
  · refine ensures_ite (fun _ => htrait) fun _ => ?_
    refine ensures_ite (fun _ => ensures_after fun _ _ _ => hother _) fun _ => ?_
    refine ensures_ite (fun _ => ensures_after fun _ _ _ => hother _) fun _ => ?_
    exact ensures_ite (fun _ => hmodule) fun _ => ensures_fail
  refine ensures_ite (fun _ => hmodule) fun _ => ?_
  refine ensures_ite (fun _ => ?_) fun _ => ?_
  · apply ensures_after
    rintro ⟨name, defined⟩ _ _
    apply ensures_pure
    cases defined
    · exact .other
    · exact .plain
  refine ensures_ite (fun _ => ?_) fun _ => ?_
  · exact ensures_after fun _ _ _ => ensures_after fun _ _ _ => ensures_after fun _ _ _ =>
      ensures_after fun _ _ _ => ensures_pure .plain
  refine ensures_ite (fun _ => ?_) fun _ => ?_
  · exact ensures_after fun _ _ _ => ensures_after fun _ _ _ => ensures_after fun _ _ _ =>
      ensures_after fun _ _ _ => ensures_after fun _ _ _ => ensures_pure .plain
  refine ensures_ite (fun _ => ?_) fun _ => ?_
  · exact ensures_after fun _ _ _ => ensures_after fun _ _ _ => ensures_after fun _ _ _ =>
      ensures_after fun _ _ _ => ensures_after fun _ _ _ => ensures_pure .plain
  refine ensures_ite (fun _ => htrait) fun _ => ?_
  refine ensures_ite (fun _ => ensures_after fun _ _ _ => hother _) fun _ => ?_
  refine ensures_ite (fun _ => ensures_after fun _ _ _ => hother _) fun _ => ?_
  exact ensures_ite (fun _ => ensures_after fun _ _ _ => hother _) fun _ => ensures_fail

theorem ensures_itemSyntax (hfile : AllLexical file) (hg : g.ReadsItems source file)
    (hts : Within file ts) :
    g.itemSyntax.Ensures ts (fun item _ => FoundIn source item) := by
  unfold itemSyntax
  apply ensures_after
  intro attrs us hus
  exact ensures_itemAfter hfile hg attrs (hts.suffix hus)

theorem readsItems_ofDepth (hfile : fileTrees source = some file) (n : Nat) :
    (ofDepth n).ReadsItems source file := by
  have htype : ∀ n plus ts, Within file ts →
      ((ofDepth n).type plus).Ensures ts (fun t _ => WrittenIn source t) :=
    fun n plus ts hts taken r hr => ⟨file, ts, n, plus, taken, r.2, hfile, hts, hr⟩
  induction n with
  | zero => exact ⟨htype 0, fun _ _ => ensures_fail⟩
  | succ n ih =>
    exact ⟨htype (n + 1), fun _ hts => ensures_itemSyntax (fileTrees_lexical hfile) ih hts⟩

end Grammar

theorem foundIn_of_parseFile {source : String} {items : List ItemSyntax}
    (h : parseFile source = some items) : ∀ item ∈ items, FoundIn source item := by
  unfold parseFile at h
  obtain ⟨file, hfile, h⟩ := Option.bind_eq_some_iff.mp h
  unfold parseItems at h
  obtain ⟨⟨found, taken⟩, hread, heq⟩ := Option.map_eq_some_iff.mp h
  obtain ⟨s, hrun⟩ := readAll_eq_some hread
  have hg := Grammar.readsItems_ofDepth hfile (nestingBound file)
  have hitems : (Grammar.ofDepth (nestingBound file)).file.Ensures file
      (fun items _ => ∀ item ∈ items, FoundIn source item) := by
    unfold Grammar.file
    apply ensures_after
    intro _ us hus
    exact ensures_many fun vs hvs => hg.item vs (Within.all.suffix (hvs.trans hus))
  cases heq
  exact hitems [] (found, s) hrun

end RpcStubs.Idl
