import RpcStubs.Proofs.Overwriting

/-!
# Ways through directories

The way along a path goes through a place for each of its names. To make the directories of a path
is to turn these places into directories, and nothing else. That is possible whenever no file is in
the way, unless the path ends in a dot behind a name that is missing.
-/

namespace RpcStubs

/-! ## Steps of a path -/

/-- The place that a component gives a name to. -/
def Component.named? (place : Place) : Component → Option Place
  | name text => some (place ++ [text])
  | _ => none

def Component.Short : Component → Prop
  | name text => text.utf8ByteSize ≤ 255
  | _ => True

/-- The places of the names on a way. -/
def namedPlaces (place : Place) : List Component → List Place
  | [] => []
  | c :: cs => (c.named? place).toList ++ namedPlaces (c.step place) cs

theorem namedPlaces_append (place : Place) (cs ds : List Component) :
    namedPlaces place (cs ++ ds) =
      namedPlaces place cs ++ namedPlaces (cs.foldl Component.step place) ds := by
  induction cs generalizing place with
  | nil => rfl
  | cons c cs ih =>
    simp only [List.cons_append, namedPlaces, ih, List.append_assoc, List.foldl_cons]

theorem mem_namedPlaces_names {place q : Place} {names : List String}
    (h : q ∈ namedPlaces place (names.map .name)) :
    ∃ below, q = place ++ below ∧ below ≠ [] ∧ ∀ name ∈ below, name ∈ names := by
  induction names generalizing place with
  | nil => cases h
  | cons name names ih =>
    rw [List.map_cons, namedPlaces, List.mem_append] at h
    rcases h with h | h
    · exact ⟨[name], by simpa [Component.named?] using h, by simp, by simp⟩
    · obtain ⟨below, hq, -, hmem⟩ := ih h
      refine ⟨name :: below, by simpa [Component.step] using hq, by simp, ?_⟩
      exact List.forall_mem_cons.mpr ⟨by simp, fun n hn => List.mem_cons_of_mem _ (hmem n hn)⟩

namespace Path

/-- The steps along a path, after its start. -/
def steps (p : Path) : List Component := p.pieces.filterMap laterComponent?

def start (cwd : Place) (p : Path) : Place := if p.isAbsolute then [] else cwd

/-- The places of the names of a path. -/
def way (cwd : Place) (p : Path) : List Place := namedPlaces (p.start cwd) p.steps

/-- The last piece that is not empty is a dot. -/
def endsInDot (p : Path) : Bool := (p.pieces.filter (!·.isEmpty)).getLast? == some ['.']

theorem laterComponent?_eq_none {piece : List Char} :
    laterComponent? piece = none ↔ piece = [] ∨ piece = ['.'] := by
  unfold laterComponent?
  by_cases hpiece : (piece.isEmpty || decide (piece = ['.'])) = true
  · rw [if_pos hpiece]
    simpa using hpiece
  · rw [if_neg hpiece]
    refine iff_of_false ?_ (by simpa using hpiece)
    split <;> simp

theorem laterComponent?_cases (piece : List Char) :
    laterComponent? piece = none ∨ laterComponent? piece = some .parent ∨
      ∃ text, laterComponent? piece = some (.name text) := by
  unfold laterComponent?
  split
  · exact .inl rfl
  · split
    · exact .inr (.inl rfl)
    · exact .inr (.inr ⟨_, rfl⟩)

theorem components_eq (p : Path) : ∃ front, p.components = front ++ p.steps ∧
    ∀ cwd, front.foldl Component.step cwd = p.start cwd := by
  obtain ⟨first, rest, hpieces⟩ := List.exists_cons_of_ne_nil (FileTree.pieces_ne_nil p)
  rw [components_of_pieces p first rest hpieces, steps, hpieces]
  unfold start
  by_cases habs : p.isAbsolute = true
  · obtain ⟨rest', hrest⟩ := FileTree.pieces_of_isAbsolute habs
    cases hpieces.symm.trans hrest
    exact ⟨[.root], by simp [habs, laterComponent?], by simp [habs, Component.step]⟩
  · by_cases hdot : first = ['.']
    · exact ⟨[.current], by simp [habs, hdot, firstComponent?, laterComponent?],
        by simp [habs, Component.step]⟩
    · refine ⟨[], ?_, by simp [habs]⟩
      rw [if_neg habs, firstComponent?, if_neg hdot, List.filterMap_cons]
      cases laterComponent? first <;> rfl

theorem placeFrom_eq (p : Path) (cwd : Place) :
    p.placeFrom cwd = p.steps.foldl Component.step (p.start cwd) := by
  obtain ⟨front, hcomponents, hfront⟩ := p.components_eq
  rw [placeFrom, hcomponents, List.foldl_append, hfront]

end Path

/-! ## Parents -/

namespace Path

def stepsOf (cs : List Char) : List Component := (cs.splitOn '/').filterMap laterComponent?

theorem splitOn_snoc (xs : List Char) {last : List Char} (h : '/' ∉ last) :
    (xs ++ '/' :: last).splitOn '/' = xs.splitOn '/' ++ [last] := by
  rw [List.splitOn_append_cons_self, List.splitOn_eq_singleton h]

theorem stepsOf_snoc (xs : List Char) {last : List Char} (h : '/' ∉ last) :
    stepsOf (xs ++ '/' :: last) = stepsOf xs ++ (laterComponent? last).toList := by
  rw [stepsOf, splitOn_snoc xs h, List.filterMap_append]
  cases hlast : laterComponent? last <;> simp [stepsOf, hlast]

theorem reverse_cases (cs : List Char) :
    ('/' ∉ cs ∧ cs.dropWhile (· != '/') = []) ∨
      ∃ last rest, '/' ∉ last ∧ cs = last ++ '/' :: rest ∧
        cs.dropWhile (· != '/') = '/' :: rest := by
  induction cs with
  | nil => simp
  | cons c cs ih =>
    by_cases hc : c = '/'
    · exact .inr ⟨[], cs, by simp, by simp [hc], by simp [hc]⟩
    · rcases ih with ⟨hcs, hdrop⟩ | ⟨last, rest, hlast, rfl, hdrop⟩
      · exact .inl ⟨by simp [hcs, Ne.symm hc], by simp [hc, hdrop]⟩
      · refine .inr ⟨c :: last, rest, by simp [hlast, Ne.symm hc], rfl, ?_⟩
        rw [List.dropWhile_cons_of_pos (by simpa using hc), hdrop]

/-- A text without the slashes and dots at its end. -/
structure Stripped (cs s : List Char) : Prop where
  isPrefix : s <+: cs
  steps : stepsOf s = stepsOf cs
  head : s.head? = cs.head?
  shape : s = ['/'] ∨ (∀ r, s.reverse ≠ '/' :: r) ∧ ∀ r, s.reverse ≠ '.' :: '/' :: r

theorem stripped_dropSlashes (cs : List Char) : Stripped cs.reverse (dropSlashes cs).reverse := by
  have hslash : ∀ xs : List Char, stepsOf (xs ++ ['/']) = stepsOf xs := by
    intro xs
    rw [stepsOf_snoc xs (by simp)]
    simp [laterComponent?]
  fun_induction dropSlashes cs with
  | case1 => exact ⟨List.prefix_rfl, rfl, rfl, .inl rfl⟩
  | case2 rest hrest ih =>
    have hne : rest.reverse ≠ [] := by simpa using hrest
    rw [List.reverse_cons]
    refine ⟨ih.isPrefix.trans (List.prefix_append _ _), ih.steps.trans (hslash _).symm, ?_,
      ih.shape⟩
    rw [ih.head, List.head?_append_of_ne_nil _ hne]
  | case3 rest ih =>
    have hdot : ('.' :: '/' :: rest).reverse = ('/' :: rest).reverse ++ ['.'] := by simp
    have hsteps : stepsOf ('.' :: '/' :: rest).reverse = stepsOf ('/' :: rest).reverse := by
      have happ : ('.' :: '/' :: rest).reverse = rest.reverse ++ '/' :: ['.'] := by simp
      rw [happ, stepsOf_snoc _ (by simp), List.reverse_cons, hslash]
      simp [laterComponent?]
    refine ⟨?_, ih.steps.trans hsteps.symm, ?_, ih.shape⟩
    · rw [hdot]
      exact ih.isPrefix.trans (List.prefix_append _ _)
    · rw [ih.head, hdot, List.head?_append_of_ne_nil _ (by simp)]
  | case4 cs hlone hslashed hdotted =>
    refine ⟨List.prefix_rfl, rfl, rfl, .inr ⟨?_, ?_⟩⟩
    · intro r hr
      rw [List.reverse_reverse] at hr
      exact hslashed r hr
    · intro r hr
      rw [List.reverse_reverse] at hr
      exact hdotted r hr

theorem Stripped.last {cs s : List Char} (h : Stripped cs s) (hsteps : stepsOf s ≠ []) :
    ('/' ∉ s ∧ s.reverse.dropWhile (· != '/') = [] ∧ ∃ c, laterComponent? s = some c) ∨
      ∃ rest last c, '/' ∉ last ∧ s = rest ++ '/' :: last ∧
        s.reverse.dropWhile (· != '/') = '/' :: rest.reverse ∧ laterComponent? last = some c := by
  rcases reverse_cases s.reverse with ⟨hs, hdrop⟩ | ⟨last, rest, hlast, hrev, hdrop⟩
  · have hs : '/' ∉ s := by simpa using hs
    refine .inl ⟨hs, hdrop, ?_⟩
    rw [stepsOf, List.splitOn_eq_singleton hs] at hsteps
    cases hc : laterComponent? s with
    | none => simp [hc] at hsteps
    | some c => exact ⟨c, rfl⟩
  · have happ : s = rest.reverse ++ '/' :: last.reverse := by
      rw [← List.reverse_reverse s, hrev]
      simp
    have hlast' : '/' ∉ last.reverse := by simpa using hlast
    refine .inr ⟨rest.reverse, last.reverse, ?_⟩
    cases hc : laterComponent? last.reverse with
    | some c => exact ⟨c, hlast', happ, by simpa using hdrop, rfl⟩
    | none =>
      exfalso
      have hpiece : last = [] ∨ last = ['.'] := by simpa using laterComponent?_eq_none.mp hc
      rcases h.shape with rfl | ⟨hslash, hdot⟩
      · exact hsteps rfl
      · rcases hpiece with rfl | rfl
        · exact hslash rest hrev
        · exact hdot rest hrev

theorem endsInDot_of_last {p : Path} {front : List (List Char)} {piece : List Char} {c : Component}
    (hpieces : p.pieces = front ++ [piece]) (hc : laterComponent? piece = some c) :
    p.endsInDot = false := by
  have hne : piece ≠ [] := by
    rintro rfl
    cases hc
  have hdot : piece ≠ ['.'] := by
    rintro rfl
    cases hc
  simp [endsInDot, hpieces, List.filter_append, hne, hdot]

theorem Stripped.steps_of_endsInDot {cs : List Char} {p : Path} (h : Stripped cs p.text.toList)
    (hdot : p.endsInDot = true) : p.steps = [] := by
  by_contra hne
  have hlast : ∃ front piece c, p.pieces = front ++ [piece] ∧ laterComponent? piece = some c := by
    rcases h.last hne with ⟨hslash, -, c, hc⟩ | ⟨rest, last, c, hslash, htext, -, hc⟩
    · exact ⟨[], p.text.toList, c, List.splitOn_eq_singleton hslash, hc⟩
    · exact ⟨rest.splitOn '/', last, c, by rw [pieces, htext, splitOn_snoc rest hslash], hc⟩
  obtain ⟨front, piece, c, hpieces, hc⟩ := hlast
  rw [endsInDot_of_last hpieces hc] at hdot
  cases hdot

theorem parent?_of_steps {p : Path} (h : p.steps ≠ []) : ∃ q c, p.parent? = some q ∧
    p.steps = q.steps ++ [c] ∧ q.isAbsolute = p.isAbsolute ∧
    q.text.toList <+: p.text.toList ∧ (q.endsInDot = true → q.steps = []) := by
  obtain ⟨front, hcomponents, -⟩ := p.components_eq
  obtain ⟨last, hlast⟩ : ∃ last, p.steps.getLast? = some last :=
    ⟨_, List.getLast?_eq_some_getLast h⟩
  have hroot : last ≠ .root := by
    rintro rfl
    obtain ⟨piece, -, hpiece⟩ := List.mem_filterMap.mp (List.mem_of_mem_getLast? hlast)
    rcases laterComponent?_cases piece with h | h | ⟨text, h⟩ <;> rw [h] at hpiece <;>
      cases hpiece
  have hparent : p.parent? = some ⟨String.ofList (dropSlashes
      ((dropSlashes p.text.toList.reverse).dropWhile (· != '/'))).reverse⟩ := by
    rw [parent?, hcomponents, List.getLast?_append, hlast]
    cases last with
    | root => exact absurd rfl hroot
    | _ => rfl
  have hshown := stripped_dropSlashes p.text.toList.reverse
  rw [List.reverse_reverse] at hshown
  generalize hs : (dropSlashes p.text.toList.reverse).reverse = s at hshown
  have hsteps : p.steps = stepsOf s := hshown.steps.symm
  rw [hparent, ← List.reverse_reverse (dropSlashes p.text.toList.reverse), hs]
  rcases hshown.last (hsteps ▸ h) with
    ⟨hslash, hdrop, c, hc⟩ | ⟨rest, last, c, hslash, happ, hdrop, hc⟩
  · -- There is one step only, from the start.
    refine ⟨⟨""⟩, c, by simp [hdrop, dropSlashes], ?_, ?_, by simp, by decide⟩
    · rw [hsteps, stepsOf, List.splitOn_eq_singleton hslash, List.filterMap_cons_some hc]
      rfl
    · have hhead : p.text.toList.head? ≠ some '/' := by
        rw [← hshown.head]
        exact fun hhead => hslash (List.mem_of_mem_head? hhead)
      simp [isAbsolute, hhead]
  · -- The last step stands behind a slash, and stripping what is before it loses no step.
    have hrest := stripped_dropSlashes ('/' :: rest.reverse)
    rw [List.reverse_cons, List.reverse_reverse] at hrest
    rw [hdrop]
    generalize (dropSlashes ('/' :: rest.reverse)).reverse = s' at hrest
    have htext : (Path.mk (String.ofList s')).text.toList = s' := String.toList_ofList
    refine ⟨_, c, rfl, ?_, ?_, ?_, ?_⟩
    · have hq : (Path.mk (String.ofList s')).steps = stepsOf s' := by
        rw [steps, pieces, htext, stepsOf]
      rw [hsteps, hq, hrest.steps, happ, stepsOf_snoc rest hslash, stepsOf_snoc rest (by simp), hc]
      simp [laterComponent?]
    · have hhead : s'.head? = p.text.toList.head? := by
        rw [hrest.head, ← hshown.head, happ]
        cases rest <;> rfl
      rw [isAbsolute, isAbsolute, htext, hhead]
    · rw [htext]
      refine (hrest.isPrefix.trans ?_).trans hshown.isPrefix
      rw [happ]
      exact ⟨last, by simp⟩
    · rw [← htext] at hrest
      exact hrest.steps_of_endsInDot

end Path

/-! ## Following a way -/

namespace FileTree

variable {t : FileTree}

theorem enter_of_none {place : Place} {piece : List Char} (h : Path.laterComponent? piece = none) :
    t.enter place piece = .ok (.present place .directory) := by
  unfold Path.laterComponent? at h
  unfold enter
  split at h
  · rename_i hpiece
    rw [if_pos hpiece]
  · split at h <;> cases h

theorem enter_of_parent {place : Place} {piece : List Char}
    (h : Path.laterComponent? piece = some .parent) :
    t.enter place piece = .ok (.present place.dropLast .directory) := by
  unfold Path.laterComponent? at h
  unfold enter
  split at h
  · cases h
  · rename_i hpiece
    split at h
    · rename_i hparent
      rw [if_neg hpiece, if_pos hparent]
    · cases h

theorem enter_of_name {place : Place} {piece : List Char} {text : String}
    (h : Path.laterComponent? piece = some (.name text)) :
    t.enter place piece = if 255 < text.utf8ByteSize then .error .nameTooLong
      else .ok (t.targetAt (place ++ [text])) := by
  unfold Path.laterComponent? at h
  unfold enter
  split at h
  · cases h
  · rename_i hpiece
    split at h
    · cases h
    · rename_i hparent
      cases h
      rw [if_neg hpiece, if_neg hparent, targetAt]
      simp only
      by_cases hlong : 255 < (String.ofList piece).utf8ByteSize
      · rw [if_pos hlong, if_pos hlong]
      · rw [if_neg hlong, if_neg hlong]
        cases t.get? (place ++ [String.ofList piece]) <;> rfl

theorem follow_present_iff (place q : Place) (pieces : List (List Char)) :
    t.follow (.present place .directory) pieces = .ok (.present q .directory) ↔
      (∀ c ∈ pieces.filterMap Path.laterComponent?, c.Short) ∧
      (∀ x ∈ namedPlaces place (pieces.filterMap Path.laterComponent?),
        t.get? x = some .directory) ∧
      q = (pieces.filterMap Path.laterComponent?).foldl Component.step place := by
  induction pieces generalizing place with
  | nil => simp [follow, namedPlaces, eq_comm]
  | cons piece pieces ih =>
    -- A piece is nothing, a step up or a name, and only at a name the tree is looked at.
    rcases Path.laterComponent?_cases piece with h | h | ⟨text, h⟩
    · rw [follow, enter_of_none h, List.filterMap_cons_none h]
      exact ih place
    · rw [follow, enter_of_parent h, List.filterMap_cons_some h]
      simp only [ih, List.forall_mem_cons, Component.Short, true_and, namedPlaces,
        Component.named?, Option.toList_none, List.nil_append, List.foldl_cons, Component.step]
    · rw [follow, enter_of_name h, List.filterMap_cons_some h]
      by_cases hlong : 255 < text.utf8ByteSize
      · rw [if_pos hlong]
        simp [Component.Short, Nat.not_le.mpr hlong]
      · rw [if_neg hlong, targetAt]
        simp only [List.forall_mem_cons, Component.Short, Nat.not_lt.mp hlong, true_and,
          namedPlaces, Component.named?, Option.toList_some, List.singleton_append,
          List.foldl_cons, Component.step]
        cases hchild : t.get? (place ++ [text]) with
        | none =>
          simp only [reduceCtorEq, false_and, and_false, iff_false]
          intro hfollow
          obtain ⟨_, htarget, -⟩ := follow_vacant hfollow
          cases htarget
        | some entry =>
          cases entry with
          | directory =>
            simp only [true_and]
            exact ih _
          | file content =>
            simp only [Option.some.injEq, reduceCtorEq, false_and, and_false, iff_false]
            intro hfollow
            cases pieces <;> cases hfollow

theorem follow_vacant_pieces {place : Place} {slash : Bool} {pieces : List (List Char)}
    {target : Target} (h : t.follow (.vacant place slash) pieces = .ok target) :
    ∀ piece ∈ pieces, piece = [] := by
  induction pieces generalizing slash with
  | nil => simp
  | cons piece pieces ih =>
    rw [follow] at h
    split at h
    · rename_i hpiece
      exact List.forall_mem_cons.mpr ⟨by simpa using hpiece, ih h⟩
    · cases h

theorem follow_slashes {place : Place} {slash : Bool} {pieces : List (List Char)}
    (h : ∀ piece ∈ pieces, piece = []) :
    ∃ slash', t.follow (.vacant place slash) pieces = .ok (.vacant place slash') := by
  induction pieces generalizing slash with
  | nil => exact ⟨slash, rfl⟩
  | cons piece pieces ih =>
    obtain ⟨rfl, hpieces⟩ := List.forall_mem_cons.mp h
    exact ih hpieces

theorem follow_vacant_cases (t : FileTree) (place : Place) (slash : Bool)
    (pieces : List (List Char)) :
    (∃ slash', t.follow (.vacant place slash) pieces = .ok (.vacant place slash')) ∨
      t.follow (.vacant place slash) pieces = .error .notFound := by
  induction pieces generalizing slash with
  | nil => exact .inl ⟨slash, rfl⟩
  | cons piece pieces ih =>
    rw [follow]
    split
    · exact ih true
    · exact .inr rfl

theorem filterMap_slashes {pieces : List (List Char)} (h : ∀ piece ∈ pieces, piece = []) :
    pieces.filterMap Path.laterComponent? = [] := by
  rw [List.filterMap_eq_nil_iff]
  intro piece hpiece
  rw [h piece hpiece]
  rfl

theorem follow_vacant_ways {place q : Place} {slash : Bool} {pieces : List (List Char)}
    (h : t.follow (.present place .directory) pieces = .ok (.vacant q slash)) :
    q ∈ namedPlaces place (pieces.filterMap Path.laterComponent?) ∧
      ∀ x ∈ namedPlaces place (pieces.filterMap Path.laterComponent?),
        x = q ∨ t.get? x = some .directory := by
  induction pieces generalizing place with
  | nil => cases h
  | cons piece pieces ih =>
    rcases Path.laterComponent?_cases piece with hpiece | hpiece | ⟨text, hpiece⟩
    · rw [follow, enter_of_none hpiece] at h
      rw [List.filterMap_cons_none hpiece]
      exact ih h
    · rw [follow, enter_of_parent hpiece] at h
      rw [List.filterMap_cons_some hpiece]
      exact ih h
    · rw [follow, enter_of_name hpiece] at h
      rw [List.filterMap_cons_some hpiece]
      simp only [namedPlaces, Component.named?, Option.toList_some, List.singleton_append,
        Component.step, List.mem_cons]
      by_cases hlong : 255 < text.utf8ByteSize
      · rw [if_pos hlong] at h
        cases h
      · rw [if_neg hlong, targetAt] at h
        cases hchild : t.get? (place ++ [text]) with
        | none =>
          rw [hchild] at h
          obtain ⟨_, htarget, -⟩ := follow_vacant h
          cases htarget
          -- Nothing can follow but slashes, which name no further place.
          rw [filterMap_slashes (follow_vacant_pieces h)]
          simp [namedPlaces]
        | some entry =>
          rw [hchild] at h
          cases entry with
          | file content => cases pieces <;> cases h
          | directory =>
            obtain ⟨hq, hways⟩ := ih h
            exact ⟨.inr hq, fun x hx => hx.elim (fun hx => .inr (hx ▸ hchild)) (hways x)⟩

/-- Without files on it, a way leads to a directory, to something missing, or past it. -/
theorem follow_open {place : Place} {pieces : List (List Char)}
    (hshort : ∀ c ∈ pieces.filterMap Path.laterComponent?, c.Short)
    (hfree : ∀ x ∈ namedPlaces place (pieces.filterMap Path.laterComponent?), ∀ content,
      t.get? x ≠ some (.file content)) :
    (∃ q, t.follow (.present place .directory) pieces = .ok (.present q .directory)) ∨
    (∃ q slash, t.follow (.present place .directory) pieces = .ok (.vacant q slash)) ∨
    t.follow (.present place .directory) pieces = .error .notFound := by
  induction pieces generalizing place with
  | nil => exact .inl ⟨place, rfl⟩
  | cons piece pieces ih =>
    rcases Path.laterComponent?_cases piece with hpiece | hpiece | ⟨text, hpiece⟩
    · rw [List.filterMap_cons_none hpiece] at hshort hfree
      rw [follow, enter_of_none hpiece]
      exact ih hshort hfree
    · rw [List.filterMap_cons_some hpiece] at hshort hfree
      rw [follow, enter_of_parent hpiece]
      exact ih (List.forall_mem_cons.mp hshort).2 hfree
    · rw [List.filterMap_cons_some hpiece] at hshort hfree
      obtain ⟨htext, hshort⟩ := List.forall_mem_cons.mp hshort
      obtain ⟨hchild, hfree⟩ := List.forall_mem_cons.mp hfree
      rw [follow, enter_of_name hpiece, if_neg (Nat.not_lt.mpr htext), targetAt]
      cases hentry : t.get? (place ++ [text]) with
      | none =>
        right
        rcases follow_vacant_cases t (place ++ [text]) false pieces with ⟨slash, h⟩ | h
        · exact .inl ⟨_, slash, h⟩
        · exact .inr h
      | some entry =>
        cases entry with
        | file content => exact absurd hentry (hchild content)
        | directory => exact ih hshort hfree

/-! ## Making directories -/

/-- The way along a path can begin. -/
def Starts (t : FileTree) (p : Path) : Prop :=
  ∃ entry, t.get? t.cwd = some entry ∧ (p.isAbsolute = true ∨ entry = .directory)

/-- The names of a path are short and no file is in its way. -/
structure Open (t : FileTree) (p : Path) : Prop where
  starts : t.Starts p
  short : ∀ c ∈ p.steps, c.Short
  free : ∀ x ∈ p.way t.cwd, ∀ content, t.get? x ≠ some (.file content)

/-- Places become directories, and nothing else changes. -/
structure MadeWay (way : List Place) (t t' : FileTree) : Prop where
  cwd : t'.cwd = t.cwd
  entries : ∀ q, t'.get? q = if q ∈ way then some .directory else t.get? q

theorem resolve_of_starts {p : Path} (hp : Accepts p) (h : t.Starts p) :
    t.resolve p = t.follow (.present (p.start t.cwd) .directory) p.pieces := by
  obtain ⟨entry, hentry, hdirectory⟩ := h
  obtain ⟨hnul, hempty, hlong⟩ := hp
  rw [resolve, if_neg hnul, if_neg hempty, if_neg hlong, hentry, Path.start]
  by_cases habs : p.isAbsolute = true
  · simp only [if_pos habs]
  · simp only [if_neg habs, hdirectory.resolve_left habs]

theorem isDirectory_of_resolve {p : Path} {q : Place}
    (h : t.resolve p = .ok (.present q .directory)) : t.isDirectory p = true := by
  simp [isDirectory, find, h, Entry.isDirectory]

theorem MadeWay.of_directories {way : List Place} (h : ∀ x ∈ way, t.get? x = some .directory) :
    MadeWay way t t := by
  refine ⟨rfl, fun q => ?_⟩
  split
  · exact h q ‹_›
  · rfl

theorem MadeWay.trans {way way' : List Place} {t mid t' : FileTree} (h : MadeWay way t mid)
    (h' : MadeWay way' mid t') (hsub : way ⊆ way') : MadeWay way' t t' := by
  refine ⟨h'.cwd.trans h.cwd, fun q => ?_⟩
  rw [h'.entries]
  by_cases hq : q ∈ way'
  · rw [if_pos hq, if_pos hq]
  · rw [if_neg hq, if_neg hq, h.entries, if_neg (fun hmem => hq (hsub hmem))]

theorem makeDirectory_open {p : Path} (hp : Accepts p) (h : t.Open p) :
    (∃ t', t.makeDirectory p = .ok t' ∧ MadeWay (p.way t.cwd) t t') ∨
    (t.makeDirectory p = .error .fileExists ∧ t.isDirectory p = true ∧
      MadeWay (p.way t.cwd) t t) ∨
    t.resolve p = .error .notFound := by
  have hresolve := resolve_of_starts hp h.starts
  rcases follow_open h.short h.free with ⟨q, hq⟩ | ⟨q, slash, hq⟩ | hq <;> rw [hq] at hresolve
  · obtain ⟨-, hways, -⟩ := (follow_present_iff _ _ _).mp hq
    exact .inr (.inl ⟨by rw [makeDirectory, hresolve], isDirectory_of_resolve hresolve,
      .of_directories hways⟩)
  · have hmem : q ∈ p.way t.cwd := (follow_vacant_ways hq).1
    have hways := (follow_vacant_ways hq).2
    have hroot : q ≠ [] := by
      rintro rfl
      cases resolve_vacant hresolve
    refine .inl ⟨t.set q .directory, by rw [makeDirectory, hresolve], rfl, fun x => ?_⟩
    by_cases hx : q = x
    · rw [← hx, if_pos hmem, get?_set_self t hroot]
    · rw [get?_set_of_ne t hx]
      split
      · exact (hways x ‹_›).resolve_left (Ne.symm hx)
      · rfl
  · exact .inr (.inr hresolve)

theorem accepts_of_front {p q : Path} (h : Accepts p) (hfront : q.text.toList <+: p.text.toList) :
    q.text = "" ∨ Accepts q := by
  by_cases hempty : q.text = ""
  · exact .inl hempty
  · obtain ⟨tail, htail⟩ := hfront
    have htext : p.text = q.text ++ String.ofList tail := by
      rw [← String.toList_inj, String.toList_append, String.toList_ofList, htail]
    obtain ⟨hnul, -, hlong⟩ := h
    rw [htext] at hnul hlong
    refine .inr ⟨?_, by simpa using hempty, ?_⟩
    · simp at hnul ⊢
      exact hnul.1
    · rw [String.utf8ByteSize_append] at hlong
      omega

theorem pieces_of_last {pieces : List (List Char)}
    (hdot : (pieces.filter (!·.isEmpty)).getLast? ≠ some ['.'])
    (hsteps : pieces.filterMap Path.laterComponent? ≠ []) :
    ∃ front piece slashes c, pieces = front ++ piece :: slashes ∧
      Path.laterComponent? piece = some c ∧ ∀ x ∈ slashes, x = [] := by
  induction pieces using List.reverseRecOn with
  | nil => cases hsteps rfl
  | append_singleton pieces last ih =>
    by_cases hlast : last = []
    · subst hlast
      rw [List.filter_append, List.filterMap_append] at *
      simp only [List.isEmpty_nil, Bool.not_true, List.filter_cons, List.filter_nil,
        Bool.false_eq_true, if_false, List.append_nil] at hdot
      obtain ⟨front, piece, slashes, c, rfl, hc, hslashes⟩ :=
        ih hdot (by simpa [Path.laterComponent?] using hsteps)
      refine ⟨front, piece, slashes ++ [[]], c, by simp, hc, ?_⟩
      exact List.forall_mem_append.mpr ⟨hslashes, by simp⟩
    · have hne : last ≠ ['.'] := by simpa [List.filter_append, hlast] using hdot
      cases hc : Path.laterComponent? last with
      | none => exact absurd (Path.laterComponent?_eq_none.mp hc) (by simp [hlast, hne])
      | some c => exact ⟨pieces, last, [], c, rfl, hc, by simp⟩

/-- A path can be resolved as soon as all but its last step lead through directories. -/
theorem resolve_of_parent {p q : Path} {c : Component} (hp : Accepts p) (h : t.Open p)
    (hsteps : p.steps = q.steps ++ [c]) (hstart : q.isAbsolute = p.isAbsolute)
    (hways : ∀ x ∈ q.way t.cwd, t.get? x = some .directory)
    (hdot : p.endsInDot = true → t.get? (p.placeFrom t.cwd) = some .directory) :
    t.resolve p ≠ .error .notFound := by
  have hqstart : q.start t.cwd = p.start t.cwd := by rw [Path.start, Path.start, hstart]
  have hplace : p.placeFrom t.cwd = c.step (q.placeFrom t.cwd) := by
    rw [Path.placeFrom_eq, Path.placeFrom_eq, hsteps, List.foldl_append, hqstart]
    rfl
  have hway : p.way t.cwd = q.way t.cwd ++ (c.named? (q.placeFrom t.cwd)).toList := by
    rw [Path.way, Path.way, hsteps, namedPlaces_append, Path.placeFrom_eq, hqstart]
    simp [namedPlaces]
  -- If the last place is a directory too, the whole way leads through directories.
  have hdirectory : (∀ x ∈ (c.named? (q.placeFrom t.cwd)).toList, t.get? x = some .directory) →
      t.resolve p ≠ .error .notFound := by
    intro hlast herror
    have hall : ∀ x ∈ p.way t.cwd, t.get? x = some .directory := by
      rw [hway, List.forall_mem_append]
      exact ⟨hways, hlast⟩
    rw [resolve_of_starts hp h.starts,
      (follow_present_iff _ _ _).mpr ⟨h.short, hall, rfl⟩] at herror
    cases herror
  cases c with
  | name text =>
    cases hentry : t.get? (p.placeFrom t.cwd) with
    | some entry =>
      apply hdirectory
      have hmem : p.placeFrom t.cwd ∈ p.way t.cwd := by
        rw [hway, hplace]
        simp [Component.named?, Component.step]
      have hfree := h.free (p.placeFrom t.cwd) hmem
      cases entry with
      | file content => exact absurd hentry (hfree content)
      | directory => simpa [Component.named?, hplace, Component.step] using hentry
    | none =>
      -- Nothing is there yet, so the path cannot end in a dot, and its last piece is the name.
      have hend : p.endsInDot = false := by
        by_contra hend
        rw [hdot (by simpa using hend)] at hentry
        cases hentry
      obtain ⟨front, piece, slashes, c, hpieces, hc, hslashes⟩ :=
        pieces_of_last (by simpa [Path.endsInDot] using hend) (by rw [← Path.steps, hsteps]; simp)
      have hsplit : q.steps ++ [.name text] = front.filterMap Path.laterComponent? ++ [c] := by
        rw [← hsteps, Path.steps, hpieces, List.filterMap_append, List.filterMap_cons_some hc,
          filterMap_slashes hslashes]
      obtain ⟨hfront, hname⟩ := List.append_inj' hsplit rfl
      cases hname
      have hshort : ∀ c ∈ q.steps ++ [.name text], c.Short := hsteps ▸ h.short
      obtain ⟨hshort, hname⟩ := List.forall_mem_append.mp hshort
      have hbefore := (follow_present_iff (t := t) (q.start t.cwd) (q.placeFrom t.cwd) front).mpr
        ⟨hfront ▸ hshort, hfront ▸ hways, by rw [Path.placeFrom_eq, hfront]⟩
      rw [hplace, Component.step] at hentry
      have htext : ¬ 255 < text.utf8ByteSize := Nat.not_lt.mpr (hname (.name text) (by simp))
      obtain ⟨slash, hlast⟩ : ∃ slash, t.follow (.vacant (q.placeFrom t.cwd ++ [text]) false)
          slashes = .ok (.vacant (q.placeFrom t.cwd ++ [text]) slash) := follow_slashes hslashes
      rw [resolve_of_starts hp h.starts, ← hqstart, hpieces, follow_append, hbefore]
      simp [Except.bind, follow, enter_of_name hc, htext, targetAt, hentry, hlast]
  | _ => exact hdirectory (by simp [Component.named?])

theorem Starts.of_isAbsolute {p q : Path} (h : t.Starts p) (heq : q.isAbsolute = p.isAbsolute) :
    t.Starts q := by
  rwa [Starts, heq]

theorem Starts.directory {p : Path} (h : t.Starts p) :
    t.get? (p.start t.cwd) = some .directory := by
  obtain ⟨entry, hentry, hdirectory⟩ := h
  unfold Path.start
  split
  · rfl
  · rw [hentry, hdirectory.resolve_left ‹_›]

theorem Open.of_madeWay {p : Path} (h : t.Open p) {way : List Place} {t' : FileTree}
    (hmade : MadeWay way t t') : t'.Open p := by
  obtain ⟨⟨entry, hentry, hdirectory⟩, hshort, hfree⟩ := h
  refine ⟨?_, hshort, ?_⟩
  · rw [Starts, hmade.cwd, hmade.entries]
    split
    · exact ⟨_, rfl, .inr rfl⟩
    · exact ⟨entry, hentry, hdirectory⟩
  · rw [hmade.cwd]
    intro x hx content
    rw [hmade.entries]
    split
    · simp
    · exact hfree x hx content

/-- What is made for an open way. Unless the path ends in a dot, its last directory may be
missing. -/
theorem makeDirectoriesUpTo_open {fuel : Nat} {p : Path} (hfuel : p.steps.length < fuel)
    (hp : p.text = "" ∨ Accepts p) (h : t.Open p)
    (hdot : p.endsInDot = true → t.get? (p.placeFrom t.cwd) = some .directory) :
    ∃ t', makeDirectoriesUpTo fuel t p = .ok t' ∧ MadeWay (p.way t.cwd) t t' := by
  induction fuel generalizing p with
  | zero => omega
  | succ fuel ih =>
    rw [makeDirectoriesUpTo]
    rcases hp with hempty | hp
    · obtain ⟨text⟩ := p
      cases hempty
      have hnil : (Path.mk "").steps = [] := by decide
      exact ⟨t, rfl, .of_directories (by simp [Path.way, hnil, namedPlaces])⟩
    rw [if_neg hp.2.1]
    rcases makeDirectory_open hp h with ⟨t', hmake, hway⟩ | ⟨hmake, hthere, hway⟩ | hmissing
    · exact ⟨t', by rw [hmake], hway⟩
    · exact ⟨t, by rw [hmake]; simp [unlessDirectory, hthere], hway⟩
    -- The directory above is missing. It is made first, by induction, and then this one can be.
    have hsteps : p.steps ≠ [] := by
      intro hnil
      rw [resolve_of_starts hp h.starts, (follow_present_iff _ _ p.pieces).mpr
        ⟨h.short, by rw [← Path.steps, hnil]; simp [namedPlaces], rfl⟩] at hmissing
      cases hmissing
    obtain ⟨q, c, hparent, hsplit, habs, hfront, hqdot⟩ := Path.parent?_of_steps hsteps
    have hstart : q.start t.cwd = p.start t.cwd := by rw [Path.start, Path.start, habs]
    have hsub : q.way t.cwd ⊆ p.way t.cwd := by
      rw [Path.way, Path.way, hsplit, namedPlaces_append, hstart]
      exact List.subset_append_left _ _
    have hopen : t.Open q := by
      refine ⟨h.starts.of_isAbsolute habs, ?_, fun x hx => h.free x (hsub hx)⟩
      intro d hd
      exact h.short d (hsplit ▸ List.mem_append_left _ hd)
    obtain ⟨mid, hmid, hmade⟩ := ih (by rw [hsplit] at hfuel; simp at hfuel; omega)
      (accepts_of_front hp hfront) hopen (fun hdotted => by
        rw [Path.placeFrom_eq, hqdot hdotted]
        exact hopen.starts.directory)
    have hmake : t.makeDirectory p = .error .notFound := by rw [makeDirectory, hmissing]
    have hlater := makeDirectory_open hp (h.of_madeWay hmade)
    rw [hmade.cwd] at hlater
    simp only [hmake, hparent, hmid]
    rcases hlater with ⟨t', hmake', hway⟩ | ⟨hmake', hthere, hway⟩ | hmissing'
    · exact ⟨t', by rw [hmake'], hmade.trans hway hsub⟩
    · exact ⟨mid, by rw [hmake']; simp [unlessDirectory, hthere], hmade.trans hway hsub⟩
    · exact absurd hmissing' (resolve_of_parent hp (h.of_madeWay hmade) hsplit habs
        (by rw [hmade.cwd]; intro x hx; rw [hmade.entries, if_pos hx])
        (by
          rw [hmade.cwd, hmade.entries]
          intro hdotted
          split
          · rfl
          · exact hdot hdotted))

theorem makeDirectories_open {p : Path} (hp : p.text = "" ∨ Accepts p) (h : t.Open p)
    (hdot : p.endsInDot = true → t.get? (p.placeFrom t.cwd) = some .directory) :
    ∃ t', t.makeDirectories p = .ok t' ∧ MadeWay (p.way t.cwd) t t' := by
  obtain ⟨front, hcomponents, -⟩ := p.components_eq
  apply makeDirectoriesUpTo_open _ hp h hdot
  rw [hcomponents, List.length_append]
  omega

end FileTree

end RpcStubs
