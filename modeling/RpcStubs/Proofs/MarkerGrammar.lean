import RpcStubs.Proofs.CodecIndex
import RpcStubs.Proofs.Inspection

/-!
# Arguments of markers by their grammar

The arguments of a marker are strings and keys with strings, between commas. What is read is just
what this grammar admits, and it is kept as a map in which the last argument of a key counts.
-/

namespace RpcStubs.Idl

/-! ## Grammar -/

/-- The trees of one argument. A string alone sets the name. -/
inductive ArgTrees : List TokenTree → String × String → Prop
  | bare {lit : Literal} {value : String} (h : lit.stringValue? = some value) :
      ArgTrees [.literal lit] (Marker.nameKey, value)
  | keyed {key : String} (joint : Bool) {lit : Literal} {value : String}
      (hkey : key ∉ reservedWords) (h : lit.stringValue? = some value) :
      ArgTrees [.ident key, .punct '=' joint, .literal lit] (key, value)

/-- The trees of arguments with a comma between two of them, and possibly after the last. -/
inductive ArgListTrees : List TokenTree → List (String × String) → Prop
  | none : ArgListTrees [] []
  | last {ts : List TokenTree} {arg : String × String} (h : ArgTrees ts arg) :
      ArgListTrees ts [arg]
  | more {ts rest : List TokenTree} {arg : String × String} {args : List (String × String)}
      (joint : Bool) (h : ArgTrees ts arg) (hrest : ArgListTrees rest args) :
      ArgListTrees (ts ++ .punct ',' joint :: rest) (arg :: args)

/-- The map of some arguments: they are put in one after the other, so that the last one of a key is
found, and no other key is. -/
structure ArgMap (args : List (String × String)) (map : SortedMap String) : Prop where
  inserted : map = args.foldl (fun m arg => m.insert arg.1 arg.2) .empty
  found : ∀ key, map.get? key = args.reverse.lookup key
  keys : ∀ key, key ∈ map.keys ↔ ∃ value, (key, value) ∈ args

def markerNames : List String :=
  ["service", "unary", "client_stream", "server_stream", "bidi_stream"]

/-- An attribute and the marker that it is. -/
inductive MarkerOf : Attribute → Marker → Prop
  | path (name : String) : MarkerOf ⟨some name, .path⟩ ⟨name, .empty⟩
  | list {name : String} {trees : List TokenTree} {args : List (String × String)}
      {map : SortedMap String} (h : ArgListTrees trees args) (hmap : ArgMap args map) :
      MarkerOf ⟨some name, .list trees⟩ ⟨name, map⟩

def Attribute.isMarker (a : Attribute) : Bool := a.name.any (markerNames.contains ·)

/-! ## One argument -/

theorem dropOperator?_singleton (c : Char) (ts rest : List TokenTree) :
    dropOperator? [c] ts = some rest ↔ ∃ joint, ts = .punct c joint :: rest := by
  cases ts with
  | nil => simp [dropOperator?]
  | cons t ts =>
    cases t with
    | punct d joint => simp [dropOperator?, eq_comm]
    | ident _ => simp [dropOperator?]
    | literal _ => simp [dropOperator?]
    | group _ _ => simp [dropOperator?]

theorem isIdentifier_iff (word : String) : isIdentifier word = true ↔ word ∉ reservedWords := by
  simp [isIdentifier]

theorem readArgValue_eq_ok (key : String) (ts rest : List TokenTree) (arg : String × String) :
    readArgValue key ts = .ok (arg, rest) ↔
      ∃ lit value, ts = .literal lit :: rest ∧ lit.stringValue? = some value ∧
        arg = (key, value) := by
  cases ts with
  | nil => simp [readArgValue]
  | cons t ts =>
    cases t with
    | literal lit =>
      cases hvalue : lit.stringValue? with
      | none => simp [readArgValue, hvalue]
      | some value => simp [readArgValue, hvalue, and_comm, eq_comm]
    | ident _ => simp [readArgValue]
    | punct _ _ => simp [readArgValue]
    | group _ _ => simp [readArgValue]

theorem readKeyedArg_eq_ok (ts rest : List TokenTree) (arg : String × String) :
    readKeyedArg ts = .ok (arg, rest) ↔
      ∃ key joint lit value, ts = .ident key :: .punct '=' joint :: .literal lit :: rest ∧
        key ∉ reservedWords ∧ lit.stringValue? = some value ∧ arg = (key, value) := by
  constructor
  · intro h
    unfold readKeyedArg at h
    split at h
    · rename_i key us
      split at h
      · rename_i hkey
        split at h
        · rename_i vs hdrop
          obtain ⟨joint, rfl⟩ := (dropOperator?_singleton '=' us vs).mp hdrop
          obtain ⟨lit, value, rfl, hvalue, harg⟩ := (readArgValue_eq_ok key vs rest arg).mp h
          exact ⟨key, joint, lit, value, rfl, (isIdentifier_iff key).mp hkey, hvalue, harg⟩
        · cases h
      · cases h
    · cases h
  · rintro ⟨key, joint, lit, value, rfl, hkey, hvalue, rfl⟩
    simp [readKeyedArg, (isIdentifier_iff key).mpr hkey, dropOperator?, readArgValue, hvalue]

theorem kind_of_stringValue? {lit : Literal} {value : String} (h : lit.stringValue? = some value) :
    lit.kind = .string := by
  by_contra hkind
  simp [Literal.stringValue?, hkind] at h

theorem readArg_eq_ok (ts rest : List TokenTree) (arg : String × String) :
    readArg ts = .ok (arg, rest) ↔ ∃ front, ArgTrees front arg ∧ ts = front ++ rest := by
  unfold readArg
  constructor
  · intro h
    split at h
    · obtain ⟨lit, value, rfl, hvalue, rfl⟩ := (readArgValue_eq_ok ..).mp h
      exact ⟨_, .bare hvalue, rfl⟩
    · obtain ⟨key, joint, lit, value, rfl, hkey, hvalue, rfl⟩ := (readKeyedArg_eq_ok ..).mp h
      exact ⟨_, .keyed joint hkey hvalue, rfl⟩
  · rintro ⟨front, harg, rfl⟩
    cases harg with
    | bare hvalue =>
      have hstring : nextIsString (.literal _ :: rest) = true :=
        beq_iff_eq.mpr (kind_of_stringValue? hvalue)
      exact (if_pos hstring).trans ((readArgValue_eq_ok ..).mpr ⟨_, _, rfl, hvalue, rfl⟩)
    | keyed joint hkey hvalue =>
      exact (readKeyedArg_eq_ok ..).mpr ⟨_, joint, _, _, rfl, hkey, hvalue, rfl⟩

theorem ArgTrees.ne_nil {ts : List TokenTree} {arg : String × String} (h : ArgTrees ts arg) :
    ts ≠ [] := by
  cases h <;> simp

/-! ## All arguments -/

theorem readArgsUpTo_last {ts : List TokenTree} {arg : String × String} (fuel : Nat)
    (hne : ts ≠ []) (h : readArg ts = .ok (arg, [])) : readArgsUpTo (fuel + 1) ts = .ok [arg] := by
  obtain ⟨t, ts, rfl⟩ := List.exists_cons_of_ne_nil hne
  simp only [readArgsUpTo, h]

theorem readArgsUpTo_more {ts rest : List TokenTree} {arg : String × String}
    {args : List (String × String)} {fuel : Nat} {joint : Bool} (hne : ts ≠ [])
    (h : readArg ts = .ok (arg, .punct ',' joint :: rest))
    (hrest : readArgsUpTo fuel rest = .ok args) :
    readArgsUpTo (fuel + 1) ts = .ok (arg :: args) := by
  obtain ⟨t, ts, rfl⟩ := List.exists_cons_of_ne_nil hne
  simp [readArgsUpTo, h, dropOperator?, hrest]

/-- What the grammar admits is read. Every argument takes a tree, so the fuel lasts. -/
theorem ArgListTrees.readArgsUpTo {ts : List TokenTree} {args : List (String × String)}
    (h : ArgListTrees ts args) {fuel : Nat} (hfuel : ts.length ≤ fuel) :
    readArgsUpTo fuel ts = .ok args := by
  induction h generalizing fuel with
  | none => cases fuel <;> rfl
  | @last ts arg harg =>
    have hlength := List.length_pos_of_ne_nil harg.ne_nil
    obtain ⟨fuel, rfl⟩ := Nat.exists_eq_add_of_le' (Nat.le_trans hlength hfuel)
    have hread : readArg ts = .ok (arg, []) :=
      (readArg_eq_ok ..).mpr ⟨ts, harg, (List.append_nil ts).symm⟩
    exact readArgsUpTo_last fuel harg.ne_nil hread
  | @more ts rest arg args joint harg hrest ih =>
    rw [List.length_append, List.length_cons] at hfuel
    obtain ⟨fuel, rfl⟩ : ∃ n, fuel = n + 1 := ⟨fuel - 1, by omega⟩
    have hread : readArg (ts ++ .punct ',' joint :: rest) = .ok (arg, .punct ',' joint :: rest) :=
      (readArg_eq_ok ..).mpr ⟨ts, harg, rfl⟩
    exact readArgsUpTo_more (by simp) hread (ih (by omega))

theorem argListTrees_of_readArgsUpTo (fuel : Nat) (ts : List TokenTree)
    (args : List (String × String)) (h : readArgsUpTo fuel ts = .ok args) :
    ArgListTrees ts args := by
  induction fuel generalizing ts args with
  | zero =>
    cases ts with
    | nil =>
      cases h
      exact .none
    | cons t ts => cases h
  | succ fuel ih =>
    cases ts with
    | nil =>
      cases h
      exact .none
    | cons t ts =>
      simp only [readArgsUpTo] at h
      split at h
      · cases h
      · rename_i arg hread
        cases h
        obtain ⟨front, harg, hfront⟩ := (readArg_eq_ok ..).mp hread
        rw [hfront, List.append_nil]
        exact .last harg
      · rename_i arg u us hread
        obtain ⟨front, harg, hfront⟩ := (readArg_eq_ok ..).mp hread
        split at h
        · cases h
        · rename_i rest hdrop
          obtain ⟨joint, hcomma⟩ := (dropOperator?_singleton ..).mp hdrop
          split at h
          · rename_i args hrest
            cases h
            rw [hfront, hcomma]
            exact .more joint harg (ih rest args hrest)
          · cases h

theorem readArgs_eq_ok (ts : List TokenTree) (args : List (String × String)) :
    readArgs ts = .ok args ↔ ArgListTrees ts args :=
  ⟨argListTrees_of_readArgsUpTo _ ts args, fun h => h.readArgsUpTo (Nat.le_refl _)⟩

/-! ## Maps of arguments -/

theorem ofList_concat (args : List (String × String)) (arg : String × String) :
    SortedMap.ofList (args ++ [arg]) = (SortedMap.ofList args).insert arg.1 arg.2 :=
  List.foldl_concat ..

theorem get?_ofList (args : List (String × String)) (key : String) :
    (SortedMap.ofList args).get? key = args.reverse.lookup key := by
  -- From the right, since the argument that is put in last is the first one looked at.
  induction args using List.reverseRecOn with
  | nil => rfl
  | append_singleton args arg ih =>
    rw [ofList_concat, SortedMap.get?_insert, ih, List.reverse_concat, List.lookup_cons]
    by_cases h : key = arg.1
    · simp [h]
    · rw [if_neg h, beq_false_of_ne h]

theorem argMap_ofList (args : List (String × String)) : ArgMap args (.ofList args) where
  inserted := rfl
  found := get?_ofList args
  keys key := by simp [SortedMap.mem_keys_ofList]

theorem ArgMap.eq_ofList {args : List (String × String)} {map : SortedMap String}
    (h : ArgMap args map) : map = .ofList args := h.inserted

/-! ## Markers -/

/-- The marker that an attribute is, whatever its name. -/
def Attribute.asMarker (a : Attribute) : Except String Marker :=
  match a.name with
  | some name => Attribute.toMarker name a.form
  | none => .error ""

theorem asMarker_eq_ok (a : Attribute) (m : Marker) : a.asMarker = .ok m ↔ MarkerOf a m := by
  constructor
  · intro h
    obtain ⟨_ | name, form⟩ := a
    · cases h
    · cases form with
      | path =>
        cases h
        exact .path name
      | list trees =>
        simp only [Attribute.asMarker, Attribute.toMarker] at h
        split at h
        · rename_i args hargs
          cases h
          exact .list ((readArgs_eq_ok trees args).mp hargs) (argMap_ofList args)
        · cases h
      | value text => cases h
  · intro h
    cases h with
    | path name => rfl
    | list hargs hmap =>
      simp only [Attribute.asMarker, Attribute.toMarker, (readArgs_eq_ok ..).mpr hargs,
        hmap.eq_ofList]

theorem isMarker_iff (a : Attribute) :
    a.isMarker = true ↔ ∃ name ∈ markerNames, a.name = some name := by
  obtain ⟨_ | name, form⟩ := a <;> simp [Attribute.isMarker]

theorem isMarker_eq (a : Attribute) : a.isMarker = (a.isService || a.isCallKind) := by
  rw [Bool.eq_iff_iff, isMarker_iff, Bool.or_eq_true, isService_iff, isCallKind_iff]
  constructor
  · rintro ⟨name, hname, h⟩
    simp only [markerNames, List.mem_cons, List.not_mem_nil, or_false] at hname
    rcases hname with rfl | rfl | rfl | rfl | rfl
    · exact Or.inl h
    · exact Or.inr ⟨.unary, h⟩
    · exact Or.inr ⟨.clientStream, h⟩
    · exact Or.inr ⟨.serverStream, h⟩
    · exact Or.inr ⟨.bidiStream, h⟩
  · rintro (h | ⟨kind, h⟩)
    · exact ⟨_, by decide, h⟩
    · exact ⟨_, by cases kind <;> decide, h⟩

theorem markers_eq_mapM (attrs : List Attribute) :
    markers attrs = (attrs.filter Attribute.isMarker).mapM Attribute.asMarker := by
  induction attrs with
  | nil => rfl
  | cons a attrs ih =>
    obtain ⟨_ | name, form⟩ := a
    · exact ih
    · rw [List.filter_cons, isMarker_eq]
      simp only [markers, ih]
      split
      · rw [List.mapM_cons]
        rfl
      · rfl

theorem markers_eq_ok (attrs : List Attribute) (ms : List Marker) :
    markers attrs = .ok ms ↔ List.Forall₂ MarkerOf (attrs.filter Attribute.isMarker) ms := by
  simp only [markers_eq_mapM, mapM_eq_ok, asMarker_eq_ok]

theorem exists_markerOf_iff (name : String) (form : AttributeForm) :
    (∃ m, MarkerOf ⟨some name, form⟩ m) ↔
      form = .path ∨ ∃ trees args, form = .list trees ∧ ArgListTrees trees args := by
  constructor
  · rintro ⟨m, h⟩
    cases h with
    | path => exact Or.inl rfl
    | list hargs _ => exact Or.inr ⟨_, _, rfl, hargs⟩
  · rintro (rfl | ⟨trees, args, rfl, hargs⟩)
    · exact ⟨_, .path name⟩
    · exact ⟨_, .list hargs (argMap_ofList args)⟩

theorem exists_markers_iff (attrs : List Attribute) :
    (∃ ms, markers attrs = .ok ms) ↔ ∀ a ∈ attrs, a.isMarker → ∃ m, MarkerOf a m := by
  constructor
  · rintro ⟨ms, h⟩ a ha hmarker
    have hmem := List.mem_filter.mpr ⟨ha, hmarker⟩
    obtain ⟨m, -, hm⟩ := exists_of_forall₂ ((markers_eq_ok attrs ms).mp h) hmem
    exact ⟨m, hm⟩
  · intro h
    cases hmarkers : markers attrs with
    | ok ms => exact ⟨ms, rfl⟩
    | error e =>
      rw [markers_eq_mapM, mapM_eq_error] at hmarkers
      obtain ⟨before, a, after, hfilter, -, hfault⟩ := hmarkers
      have ha : a ∈ attrs.filter Attribute.isMarker := by simp [hfilter]
      obtain ⟨m, hm⟩ := h a (List.mem_of_mem_filter ha) (List.of_mem_filter ha)
      rw [(asMarker_eq_ok a m).mpr hm] at hfault
      cases hfault

/-! ## Attributes and declarations -/

theorem Grammar.reads_markerBody (g : Grammar) {name : String} (hname : name ∈ markerNames)
    (d : Delimiter) (trees : List TokenTree) :
    g.attributeBody.Reads [.ident name, .group d trees] [] ⟨some name, .list trees⟩ := by
  intro taken
  simp only [markerNames, List.mem_cons, List.not_mem_nil, or_false] at hname
  rcases hname with rfl | rfl | rfl | rfl | rfl <;> cases d <;> exact ⟨_, rfl⟩

theorem Grammar.reads_markerAttribute (g : Grammar) {name : String} (hname : name ∈ markerNames)
    (joint : Bool) (d : Delimiter) (trees later : List TokenTree) :
    g.outerAttribute.Reads
      (.punct '#' joint :: .group .bracket [.ident name, .group d trees] :: later) later
      ⟨some name, .list trees⟩ := by
  unfold outerAttribute
  exact (Parse.reads_operator rfl).bind ((g.reads_markerBody hname d trees).group .bracket)

theorem traitDecl_of_fault {attrs : List Attribute} {e : String} (h : markers attrs = .error e)
    (package name : String) (methods : List MethodSyntax) :
    traitDecl package name attrs methods = .error (.invalidServiceMarker name e) := by
  rw [traitDecl, itemMarkers, h]
  rfl

theorem plainDecl_of_fault {attrs : List Attribute} {e : String} (h : markers attrs = .error e)
    (package name : String) (kind : DeclKind) :
    plainDecl package kind name attrs = .error (.invalidServiceMarker name e) := by
  rw [plainDecl, itemMarkers, h]
  rfl

/-- A fault of a parameter or of the return type may be reported first. -/
theorem toDecl_of_fault {attrs : List Attribute} {e : String} (h : markers attrs = .error e)
    (signature : SignatureSyntax) :
    ∃ cause, (MethodSyntax.mk attrs signature).toDecl = .error cause := by
  cases hdecl : (MethodSyntax.mk attrs signature).toDecl with
  | error cause => exact ⟨cause, rfl⟩
  | ok d =>
    rw [MethodSyntax.toDecl, bind_eq_ok] at hdecl
    obtain ⟨params, -, hdecl⟩ := hdecl
    obtain ⟨returnType, -, hdecl⟩ := (bind_eq_ok ..).mp hdecl
    obtain ⟨ms, hmarkers, -⟩ := (bind_eq_ok ..).mp hdecl
    rw [mapError_eq_ok, h] at hmarkers
    cases hmarkers

/-- The markers among attributes are read exactly if the arguments of each follow the grammar. There
is then one marker for each of them, in order, with the map of its arguments. Otherwise no marker is
given, and nothing is declared. -/
theorem markers_follow_grammar (attrs : List Attribute) :
    (∀ ms, markers attrs = .ok ms ↔
      List.Forall₂ MarkerOf (attrs.filter Attribute.isMarker) ms) ∧
    ((∃ ms, markers attrs = .ok ms) ↔ ∀ name ∈ markerNames, ∀ form, ⟨some name, form⟩ ∈ attrs →
      form = .path ∨ ∃ trees args, form = .list trees ∧ ArgListTrees trees args) ∧
    (∀ e, markers attrs = .error e →
      (∀ package name methods, traitDecl package name attrs methods =
        .error (.invalidServiceMarker name e)) ∧
      (∀ package kind name, plainDecl package kind name attrs =
        .error (.invalidServiceMarker name e)) ∧
      ∀ signature, ∃ cause, (MethodSyntax.mk attrs signature).toDecl = .error cause) ∧
    ∀ name ∈ markerNames, ∀ joint d trees later, ∀ g : Grammar,
      g.outerAttribute.Reads
        (.punct '#' joint :: .group .bracket [.ident name, .group d trees] :: later) later
        ⟨some name, .list trees⟩ := by
  refine ⟨markers_eq_ok attrs, ?_, ?_, ?_⟩
  · rw [exists_markers_iff]
    constructor
    · intro h name hname form hmem
      have hmarker := (isMarker_iff ⟨some name, form⟩).mpr ⟨name, hname, rfl⟩
      exact (exists_markerOf_iff name form).mp (h _ hmem hmarker)
    · rintro h ⟨_, form⟩ hmem hmarker
      obtain ⟨name, hname, rfl⟩ := (isMarker_iff _).mp hmarker
      exact (exists_markerOf_iff name form).mpr (h name hname form hmem)
  · intro e he
    refine ⟨?_, ?_, ?_⟩
    · intro package name methods
      exact traitDecl_of_fault he package name methods
    · intro package kind name
      exact plainDecl_of_fault he package name kind
    · intro signature
      exact toDecl_of_fault he signature
  · intro name hname joint d trees later g
    exact g.reads_markerAttribute hname joint d trees later

end RpcStubs.Idl
