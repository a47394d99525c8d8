import RpcStubs.Proofs.Outcomes

/-!
# Contents of written files

A path leads to one place, whatever files there are. A write changes the file at its place, and
otherwise only makes directories that were missing.
-/

namespace RpcStubs

/-! ## Places of paths -/

def Component.step (place : Place) : Component → Place
  | root => []
  | current => place
  | parent => place.dropLast
  | name text => place ++ [text]

/-- Where a path leads, seen from a working directory. -/
def Path.placeFrom (cwd : Place) (p : Path) : Place := p.components.foldl Component.step cwd

namespace FileTree

def Target.place : Target → Place
  | present place _ => place
  | vacant place _ => place

/-- What is at a place. -/
def targetAt (t : FileTree) (place : Place) : Target :=
  match t.get? place with
  | some entry => .present place entry
  | none => .vacant place false

@[simp] theorem targetAt_place (t : FileTree) (place : Place) :
    (t.targetAt place).place = place := by
  unfold targetAt
  split <;> rfl

/-- A step that is possible leads to one place in all trees. It stays in a directory or goes up, or
else it looks at what is there. -/
theorem enter_cases {t : FileTree} {place : Place} {piece : List Char} {target : Target}
    (h : t.enter place piece = .ok target) :
    ∃ q, q = (Path.laterComponent? piece).toList.foldl Component.step place ∧
      ((∀ t' : FileTree, t'.enter place piece = .ok (.present q .directory)) ∨
        ∀ t' : FileTree, t'.enter place piece = .ok (t'.targetAt q)) := by
  unfold enter at h
  unfold Path.laterComponent?
  refine ⟨_, rfl, ?_⟩
  by_cases hcurrent : (piece.isEmpty || decide (piece = ['.'])) = true
  · left
    intro t'
    simp [enter, hcurrent]
  by_cases hparent : piece = ['.', '.']
  · left
    intro t'
    simp [enter, hparent, Component.step]
  · right
    intro t'
    rw [if_neg hcurrent, if_neg hparent] at h
    have hlong : ¬ 255 < (String.ofList piece).utf8ByteSize := by
      intro hlong
      rw [if_pos hlong] at h
      cases h
    rw [if_neg hcurrent, if_neg hparent, enter, if_neg hcurrent, if_neg hparent, if_neg hlong]
    simp only [Option.toList_some, List.foldl_cons, List.foldl_nil, Component.step, targetAt]
    cases t'.get? (place ++ [String.ofList piece]) <;> rfl

theorem enter_place {t : FileTree} {place : Place} {piece : List Char} {target : Target}
    (h : t.enter place piece = .ok target) :
    target.place = (Path.laterComponent? piece).toList.foldl Component.step place := by
  obtain ⟨q, rfl, hq | hq⟩ := enter_cases h
  · cases h.symm.trans (hq t)
    rfl
  · cases h.symm.trans (hq t)
    exact targetAt_place t _

theorem follow_place {t : FileTree} {target target' : Target} {pieces : List (List Char)}
    (h : t.follow target pieces = .ok target') :
    target'.place =
      (pieces.filterMap Path.laterComponent?).foldl Component.step target.place := by
  fun_induction follow t target pieces with
  | case1 target => cases h; rfl
  | case2 place piece pieces next hnext ih =>
    rw [ih h, enter_place hnext, List.filterMap_cons]
    cases Path.laterComponent? piece <;> rfl
  | case3 => cases h
  | case4 => cases h
  | case5 place slash piece pieces hpiece ih =>
    have hpiece : piece = [] := by simpa using hpiece
    rw [ih h, hpiece, List.filterMap_cons_none rfl]
    rfl
  | case6 => cases h

def startOf (t : FileTree) (p : Path) (entry : Entry) : Target :=
  if p.isAbsolute then .present [] .directory else .present t.cwd entry

/-- A text that an operating system takes for a path. -/
def Accepts (p : Path) : Prop :=
  ¬ p.text.toList.contains '\x00' = true ∧ ¬ p.text.isEmpty = true ∧
    ¬ 4096 ≤ p.text.utf8ByteSize

theorem resolve_eq_ok {t : FileTree} {p : Path} {target : Target} :
    t.resolve p = .ok target ↔ Accepts p ∧
      ∃ entry, t.get? t.cwd = some entry ∧ t.follow (t.startOf p entry) p.pieces = .ok target := by
  unfold resolve Accepts
  by_cases hnul : p.text.toList.contains '\x00' = true
  · rw [if_pos hnul]
    exact iff_of_false (by simp) (fun h => h.1.1 hnul)
  by_cases hempty : p.text.isEmpty = true
  · rw [if_neg hnul, if_pos hempty]
    exact iff_of_false (by simp) (fun h => h.1.2.1 hempty)
  by_cases hlong : 4096 ≤ p.text.utf8ByteSize
  · rw [if_neg hnul, if_neg hempty, if_pos hlong]
    exact iff_of_false (by simp) (fun h => h.1.2.2 hlong)
  rw [if_neg hnul, if_neg hempty, if_neg hlong]
  cases hcwd : t.get? t.cwd with
  | none => simp
  | some entry =>
    constructor
    · exact fun h => ⟨⟨hnul, hempty, hlong⟩, entry, rfl, h⟩
    · rintro ⟨-, entry', hentry, h⟩
      cases hentry
      exact h

theorem pieces_ne_nil (p : Path) : p.pieces ≠ [] := List.splitOn_ne_nil _ _

theorem pieces_of_isAbsolute {p : Path} (h : p.isAbsolute = true) :
    ∃ rest, p.pieces = [] :: rest := by
  cases htext : p.text.toList with
  | nil => simp [Path.isAbsolute, htext] at h
  | cons c cs =>
    have hc : c = '/' := by simpa [Path.isAbsolute, htext] using h
    have hsplit := List.splitOn_append_cons_self (a := '/') [] cs
    rw [List.nil_append, List.splitOn_nil, ← hc, ← htext] at hsplit
    exact ⟨cs.splitOn '/', by rw [Path.pieces, ← hc, hsplit]; rfl⟩

/-- The place of a path does not depend on the files. -/
theorem resolve_place {t : FileTree} {p : Path} {target : Target} (h : t.resolve p = .ok target) :
    target.place = p.placeFrom t.cwd := by
  obtain ⟨-, entry, -, h⟩ := resolve_eq_ok.mp h
  rw [follow_place h, Path.placeFrom, startOf]
  by_cases habs : p.isAbsolute = true
  · obtain ⟨rest, hrest⟩ := pieces_of_isAbsolute habs
    rw [hrest, Path.components_of_pieces p [] rest hrest]
    simp [habs, Path.laterComponent?, Target.place, Component.step]
  · obtain ⟨first, rest, hrest⟩ := List.exists_cons_of_ne_nil (pieces_ne_nil p)
    rw [hrest, Path.components_of_pieces p first rest hrest, List.foldl_append]
    simp only [habs, Bool.false_eq_true, if_false, Target.place]
    by_cases hcurrent : first = ['.']
    · simp [hcurrent, Path.firstComponent?, Path.laterComponent?, Component.step]
    · rw [List.filterMap_cons, Path.firstComponent?, if_neg hcurrent]
      cases Path.laterComponent? first <;> rfl

/-! ## Entries -/

instance : Std.LawfulEqCmp cmpPlace where
  compare_self {a} := by
    induction a with
    | nil => rfl
    | cons name names ih => simp [cmpPlace, ih]
  eq_of_compare {a b} h := by
    induction a generalizing b with
    | nil =>
      cases b with
      | nil => rfl
      | cons => cases h
    | cons name names ih =>
      cases b with
      | nil => cases h
      | cons name' names' =>
        rw [cmpPlace, Ordering.then_eq_eq] at h
        rw [Std.LawfulEqOrd.eq_of_compare h.1, ih h.2]

theorem find?_setEntry_self (place : Place) (e : Entry) (entries : List (Place × Entry)) :
    (setEntry place e entries).find? (·.1 == place) = some (place, e) := by
  induction entries with
  | nil => simp [setEntry]
  | cons first rest ih =>
    obtain ⟨other, old⟩ := first
    rw [setEntry]
    split
    · simp
    · simp
    · rename_i hgt
      have hne : other ≠ place := by
        rintro rfl
        have hself : cmpPlace other other = .eq := Std.ReflCmp.compare_self
        rw [hself] at hgt
        cases hgt
      rw [List.find?_cons_of_neg (by simpa using hne), ih]

theorem find?_setEntry_of_ne {place q : Place} (hne : place ≠ q) (e : Entry)
    (entries : List (Place × Entry)) :
    (setEntry place e entries).find? (·.1 == q) = entries.find? (·.1 == q) := by
  induction entries with
  | nil => simp [setEntry, hne]
  | cons first rest ih =>
    obtain ⟨other, old⟩ := first
    rw [setEntry]
    split
    · rw [List.find?_cons_of_neg (by simpa using hne)]
    · rename_i heq
      have hother : place = other := Std.LawfulEqCmp.eq_of_compare heq
      rw [List.find?_cons_of_neg (by simpa using hne),
        List.find?_cons_of_neg (by simpa [← hother] using hne)]
    · rw [List.find?_cons, List.find?_cons, ih]

theorem get?_root (t : FileTree) : t.get? [] = some .directory := rfl

theorem get?_set_self (t : FileTree) {place : Place} (hne : place ≠ []) (e : Entry) :
    (t.set place e).get? place = some e := by
  simp [get?, set, hne, find?_setEntry_self]

theorem get?_set_of_ne (t : FileTree) {place q : Place} (hne : place ≠ q) (e : Entry) :
    (t.set place e).get? q = t.get? q := by
  simp [get?, set, find?_setEntry_of_ne hne]

/-! ## Ways that stay open -/

/-- What is there stays there, and directories stay directories. -/
structure Grows (t t' : FileTree) : Prop where
  cwd : t'.cwd = t.cwd
  present : ∀ place, (t.get? place).isSome → (t'.get? place).isSome
  directory : ∀ place, t.get? place = some .directory → t'.get? place = some .directory

theorem Grows.refl (t : FileTree) : Grows t t := ⟨rfl, fun _ h => h, fun _ h => h⟩

theorem Grows.trans {t t' t'' : FileTree} (h : Grows t t') (h' : Grows t' t'') :
    Grows t t'' where
  cwd := h'.cwd.trans h.cwd
  present place hp := h'.present place (h.present place hp)
  directory place hd := h'.directory place (h.directory place hd)

/-- A file that can be written: it is there, or nothing is and no slash follows. -/
def Target.Writable : Target → Prop
  | present _ (.file _) => True
  | present _ .directory => False
  | vacant _ slash => slash = false

theorem follow_append (t : FileTree) (target : Target) (as bs : List (List Char)) :
    t.follow target (as ++ bs) = (t.follow target as).bind (fun mid => t.follow mid bs) := by
  fun_induction follow t target as with
  | case1 target => rfl
  | case2 place piece pieces next hnext ih => simp only [List.cons_append, follow, hnext, ih]
  | case3 place piece pieces e hnext => simp only [List.cons_append, follow, hnext]; rfl
  | case4 place content piece pieces => simp only [List.cons_append, follow]; rfl
  | case5 place slash piece pieces hpiece ih =>
    simp only [List.cons_append, follow, hpiece, ih]
    rfl
  | case6 place slash piece pieces hpiece => simp only [List.cons_append, follow, hpiece]; rfl

theorem follow_vacant {t : FileTree} {place : Place} {slash : Bool} {pieces : List (List Char)}
    {target : Target} (h : t.follow (.vacant place slash) pieces = .ok target) :
    ∃ slash', target = .vacant place slash' ∧ (slash' = false → slash = false ∧ pieces = []) := by
  induction pieces generalizing slash with
  | nil =>
    cases h
    exact ⟨slash, rfl, fun h => ⟨h, rfl⟩⟩
  | cons piece pieces ih =>
    rw [follow] at h
    split at h
    · obtain ⟨slash', htarget, hslash⟩ := ih h
      refine ⟨slash', htarget, fun hfalse => ?_⟩
      cases (hslash hfalse).1
    · cases h

theorem follow_writable {t : FileTree} {start target : Target} {pieces : List (List Char)}
    (h : t.follow start pieces = .ok target) (hw : target.Writable) (hne : pieces ≠ []) :
    ∃ before piece place, pieces = before ++ [piece] ∧
      t.follow start before = .ok (.present place .directory) ∧
      t.enter place piece = .ok target := by
  obtain ⟨before, piece, rfl⟩ := List.eq_nil_or_concat' pieces |>.resolve_left hne
  rw [follow_append] at h
  rcases hbefore : t.follow start before with e | mid
  · rw [hbefore] at h
    cases h
  · rw [hbefore] at h
    simp only [Except.bind] at h
    rcases mid with ⟨place, _ | content⟩ | ⟨place, slash⟩
    · refine ⟨before, piece, place, rfl, hbefore, ?_⟩
      rw [follow] at h
      rcases hlast : t.enter place piece with e | last
      · rw [hlast] at h
        cases h
      · rw [hlast] at h
        simpa [follow] using h
    · cases h
    · obtain ⟨slash', rfl, hslash⟩ := follow_vacant h
      cases (hslash hw).2

theorem enter_directory {t t' : FileTree} (hgrow : Grows t t') {place q : Place}
    {piece : List Char} (h : t.enter place piece = .ok (.present q .directory)) :
    t'.enter place piece = .ok (.present q .directory) := by
  obtain ⟨q', -, hq | hq⟩ := enter_cases h
  · rw [hq t', ← hq t, h]
  · have htarget : t.targetAt q' = .present q .directory := Except.ok.inj ((hq t).symm.trans h)
    unfold targetAt at htarget
    split at htarget
    · rename_i hentry
      cases htarget
      simp only [hq t', targetAt, hgrow.directory _ hentry]
    · cases htarget

theorem enter_file {t t' : FileTree} {place : Place} {piece : List Char} {target : Target}
    (h : t.enter place piece = .ok target) (hw : target.Writable) {content : ByteArray}
    (hfile : t'.get? target.place = some (.file content)) :
    t'.enter place piece = .ok (.present target.place (.file content)) := by
  obtain ⟨q, -, hq | hq⟩ := enter_cases h
  · cases h.symm.trans (hq t)
    cases hw
  · cases h.symm.trans (hq t)
    rw [targetAt_place] at hfile ⊢
    simp only [hq t', targetAt, hfile]

theorem enter_not_directory {t : FileTree} {place : Place} {piece : List Char} {target : Target}
    (h : t.enter place piece = .ok target) (hw : target.Writable) :
    t.get? target.place ≠ some .directory := by
  obtain ⟨q, -, hq | hq⟩ := enter_cases h
  · cases h.symm.trans (hq t)
    cases hw
  · cases h.symm.trans (hq t)
    intro hd
    rw [targetAt_place] at hd
    simp only [targetAt, hd] at hw
    cases hw

theorem follow_directory {t t' : FileTree} (hgrow : Grows t t') {start : Target} {q : Place}
    {pieces : List (List Char)} (h : t.follow start pieces = .ok (.present q .directory)) :
    t'.follow start pieces = .ok (.present q .directory) := by
  fun_induction follow t start pieces with
  | case1 target => exact h
  | case2 place piece pieces next hnext ih =>
    rcases next with ⟨mid, _ | content⟩ | ⟨mid, slash⟩
    · rw [follow, enter_directory hgrow hnext]
      exact ih h
    · cases pieces <;> cases h
    · obtain ⟨_, heq, -⟩ := follow_vacant h
      cases heq
  | case3 => cases h
  | case4 => cases h
  | case5 place slash piece pieces hpiece ih =>
    obtain ⟨_, heq, -⟩ := follow_vacant h
    cases heq
  | case6 => cases h

theorem startOf_directory {t t' : FileTree} (hgrow : Grows t t') {p : Path} {entry : Entry}
    (hcwd : t.get? t.cwd = some entry) {q : Place} {pieces : List (List Char)}
    (h : t.follow (t.startOf p entry) pieces = .ok (.present q .directory)) :
    ∃ entry', t'.get? t'.cwd = some entry' ∧ t'.startOf p entry' = t.startOf p entry := by
  unfold startOf at h ⊢
  by_cases habs : p.isAbsolute = true
  · have hpresent := hgrow.present _ (Option.isSome_iff_exists.mpr ⟨entry, hcwd⟩)
    obtain ⟨entry', hcwd'⟩ := Option.isSome_iff_exists.mp hpresent
    exact ⟨entry', by rw [hgrow.cwd, hcwd'], by rw [if_pos habs, if_pos habs]⟩
  · rw [if_neg habs] at h ⊢
    cases entry with
    | file content => cases pieces <;> cases h
    | directory => exact ⟨.directory, by rw [hgrow.cwd, hgrow.directory _ hcwd], by
        rw [if_neg habs, hgrow.cwd]⟩

theorem resolve_file {t t' : FileTree} (hgrow : Grows t t') {p : Path} {target : Target}
    (h : t.resolve p = .ok target) (hw : target.Writable) {content : ByteArray}
    (hfile : t'.get? target.place = some (.file content)) :
    t'.resolve p = .ok (.present target.place (.file content)) := by
  obtain ⟨hp, entry, hcwd, h⟩ := resolve_eq_ok.mp h
  obtain ⟨before, piece, place, hpieces, hbefore, hlast⟩ := follow_writable h hw (pieces_ne_nil p)
  obtain ⟨entry', hcwd', hstart⟩ := startOf_directory hgrow hcwd hbefore
  refine resolve_eq_ok.mpr ⟨hp, entry', hcwd', ?_⟩
  rw [hpieces, follow_append, hstart, follow_directory hgrow hbefore]
  simp only [Except.bind, follow, enter_file hlast hw hfile]

theorem resolve_not_directory {t : FileTree} {p : Path} {target : Target}
    (h : t.resolve p = .ok target) (hw : target.Writable) :
    t.get? target.place ≠ some .directory := by
  obtain ⟨-, entry, -, h⟩ := resolve_eq_ok.mp h
  obtain ⟨before, piece, place, -, -, hlast⟩ := follow_writable h hw (pieces_ne_nil p)
  exact enter_not_directory hlast hw

theorem follow_vacant_get? {t : FileTree} {start : Target} {pieces : List (List Char)}
    {place : Place} {slash : Bool} (h : t.follow start pieces = .ok (.vacant place slash))
    (hstart : ∀ q s, start = .vacant q s → t.get? q = none) : t.get? place = none := by
  fun_induction follow t start pieces with
  | case1 target => cases h; exact hstart _ _ rfl
  | case2 dir piece pieces next hnext ih =>
    apply ih h
    rintro q s rfl
    obtain ⟨q', -, hq | hq⟩ := enter_cases hnext
    · cases hnext.symm.trans (hq t)
    · have htarget := Except.ok.inj (hnext.symm.trans (hq t))
      unfold targetAt at htarget
      split at htarget
      · cases htarget
      · cases htarget
        assumption
  | case3 => cases h
  | case4 => cases h
  | case5 dir slash' piece pieces hpiece ih =>
    apply ih h
    intro q s heq
    cases heq
    exact hstart _ _ rfl
  | case6 => cases h

theorem resolve_vacant {t : FileTree} {p : Path} {place : Place} {slash : Bool}
    (h : t.resolve p = .ok (.vacant place slash)) : t.get? place = none := by
  obtain ⟨-, entry, -, h⟩ := resolve_eq_ok.mp h
  apply follow_vacant_get? h
  intro q s hstart
  unfold startOf at hstart
  split at hstart <;> cases hstart

/-! ## Making directories -/

/-- Directories were made where nothing was, and nothing else changed. -/
structure MadeDirectories (t t' : FileTree) : Prop where
  cwd : t'.cwd = t.cwd
  entries : ∀ place, t'.get? place = t.get? place ∨
    t.get? place = none ∧ t'.get? place = some .directory

theorem MadeDirectories.refl (t : FileTree) : MadeDirectories t t := ⟨rfl, fun _ => Or.inl rfl⟩

theorem MadeDirectories.trans {t t' t'' : FileTree} (h : MadeDirectories t t')
    (h' : MadeDirectories t' t'') : MadeDirectories t t'' := by
  refine ⟨h'.cwd.trans h.cwd, fun place => ?_⟩
  rcases h.entries place with he | ⟨hn, hd⟩
  · rw [← he]
    exact h'.entries place
  · rcases h'.entries place with he' | ⟨hn', -⟩
    · exact Or.inr ⟨hn, he'.trans hd⟩
    · rw [hd] at hn'
      cases hn'

theorem MadeDirectories.of_makeDirectory {t t' : FileTree} {p : Path}
    (h : t.makeDirectory p = .ok t') : MadeDirectories t t' := by
  unfold makeDirectory at h
  split at h
  · cases h
  · rename_i place slash hp
    cases h
    have hnone := resolve_vacant hp
    have hne : place ≠ [] := by
      rintro rfl
      cases hnone
    refine ⟨rfl, fun q => ?_⟩
    by_cases hq : place = q
    · exact Or.inr ⟨hq ▸ hnone, by rw [← hq, get?_set_self t hne]⟩
    · exact Or.inl (get?_set_of_ne t hq _)
  · cases h

theorem unlessDirectory_eq_ok {t t' : FileTree} {p : Path} {e : OsError}
    (h : t.unlessDirectory p e = .ok t') : t' = t := by
  unfold unlessDirectory at h
  split at h
  · cases h; rfl
  · cases h

theorem MadeDirectories.of_upTo {fuel : Nat} {t t' : FileTree} {p : Path}
    (h : makeDirectoriesUpTo fuel t p = .ok t') : MadeDirectories t t' := by
  fun_induction makeDirectoriesUpTo fuel t p generalizing t' with
  | case1 => cases h
  | case2 => cases h; exact .refl _
  | case3 fuel t p _ made hmade => cases h; exact .of_makeDirectory hmade
  | case4 => cases h
  | case5 => cases h
  | case6 fuel t p _ _ parent _ above habove made hmade ih =>
    cases h
    exact (ih habove).trans (.of_makeDirectory hmade)
  | case7 fuel t p _ _ parent _ above habove e _ ih =>
    rw [unlessDirectory_eq_ok h]
    exact ih habove
  | case8 =>
    rw [unlessDirectory_eq_ok h]
    exact .refl _

theorem MadeDirectories.grows {t t' : FileTree} (h : MadeDirectories t t') : Grows t t' where
  cwd := h.cwd
  present place hp := by
    rcases h.entries place with he | ⟨-, hd⟩
    · rwa [he]
    · simp [hd]
  directory place hd := by
    rcases h.entries place with he | ⟨-, hd'⟩
    · rw [he, hd]
    · exact hd'

/-! ## Writing files -/

theorem writeBytes_eq_ok {t t' : FileTree} {p : Path} {content : ByteArray}
    (h : t.writeBytes p content = .ok t') :
    ∃ target, t.resolve p = .ok target ∧ target.Writable ∧
      t' = t.set target.place (.file content) := by
  unfold writeBytes at h
  split at h
  · rename_i place old hp
    cases h
    exact ⟨_, hp, trivial, rfl⟩
  · cases h
  · rename_i place hp
    cases h
    exact ⟨_, hp, rfl, rfl⟩
  · cases h
  · cases h

/-- A file was written. Otherwise directories were made where nothing was. -/
structure Wrote (path : Path) (content : ByteArray) (t t' : FileTree) : Prop where
  cwd : t'.cwd = t.cwd
  written : t'.get? (path.placeFrom t.cwd) = some (.file content)
  no_directory : t.get? (path.placeFrom t.cwd) ≠ some .directory
  others : ∀ q, q ≠ path.placeFrom t.cwd → t'.get? q = t.get? q ∨
    t.get? q = none ∧ t'.get? q = some .directory
  /-- The path leads to its place as long as there is a file. -/
  readable : ∀ later : FileTree, Grows t' later → ∀ content' : ByteArray,
    later.get? (path.placeFrom t.cwd) = some (.file content') →
    later.readBytes path = .ok content'

theorem grows_set {t : FileTree} {place : Place} (h : t.get? place ≠ some .directory)
    (content : ByteArray) : Grows t (t.set place (.file content)) := by
  have hne : place ≠ [] := fun hroot => h (hroot ▸ get?_root t)
  refine ⟨rfl, fun q hq => ?_, fun q hq => ?_⟩
  · by_cases hplace : place = q
    · rw [← hplace, get?_set_self t hne]
      rfl
    · rwa [get?_set_of_ne t hplace]
  · have hplace : place ≠ q := fun heq => h (heq ▸ hq)
    rw [get?_set_of_ne t hplace, hq]

theorem Wrote.of_writeBytes {t made t' : FileTree} {p : Path} {content : ByteArray}
    (hmade : MadeDirectories t made) (h : made.writeBytes p content = .ok t') :
    Wrote p content t t' := by
  obtain ⟨target, hp, hw, rfl⟩ := writeBytes_eq_ok h
  have hplace : target.place = p.placeFrom t.cwd := by rw [resolve_place hp, hmade.cwd]
  have hnodir := resolve_not_directory hp hw
  have hne : target.place ≠ [] := fun hroot => hnodir (hroot ▸ get?_root made)
  constructor
  case cwd => exact hmade.cwd
  case written => rw [← hplace, get?_set_self made hne]
  case no_directory =>
    rw [← hplace]
    exact fun hd => hnodir (hmade.grows.directory _ hd)
  case others =>
    intro q hq
    rw [get?_set_of_ne made (fun heq => hq (heq.symm.trans hplace))]
    exact hmade.entries q
  case readable =>
    intro later hlater content' hfile
    rw [← hplace] at hfile
    have hgrow := (grows_set hnodir content).trans hlater
    rw [readBytes, find, resolve_file hgrow hp hw hfile]

theorem Wrote.grows {p : Path} {content : ByteArray} {t t' : FileTree}
    (h : Wrote p content t t') : Grows t t' := by
  refine ⟨h.cwd, fun q hq => ?_, fun q hq => ?_⟩
  · by_cases hplace : q = p.placeFrom t.cwd
    · simp [hplace, h.written]
    · rcases h.others q hplace with he | ⟨-, hd⟩
      · rwa [he]
      · simp [hd]
  · have hplace : q ≠ p.placeFrom t.cwd := fun heq => h.no_directory (heq ▸ hq)
    rcases h.others q hplace with he | ⟨-, hd⟩
    · rw [he, hq]
    · exact hd

theorem Wrote.keeps_file {p : Path} {content : ByteArray} {t t' : FileTree}
    (h : Wrote p content t t') {q : Place} (hq : q ≠ p.placeFrom t.cwd) {old : ByteArray}
    (hold : t.get? q = some (.file old)) : t'.get? q = some (.file old) := by
  rcases h.others q hq with he | ⟨hn, -⟩
  · rw [he, hold]
  · rw [hold] at hn
    cases hn

end FileTree

/-! ## Runs of writes -/

theorem Disk.after_change (f : FileTree → Except OsError FileTree) (t : FileTree) :
    (Disk.change f).after t =
      match f t with
      | .ok t' => (.ok (), t')
      | .error e => (.error (.io e.message), t) := by
  show Disk.after (match f t with
    | .ok t' => set t'
    | .error e => throw (.io e.message)) t = _
  cases f t <;> rfl

theorem Disk.change_eq_ok {f : FileTree → Except OsError FileTree} {t t' : FileTree} {u : Unit}
    (h : (Disk.change f).after t = (.ok u, t')) : f t = .ok t' := by
  rw [after_change] at h
  cases hf : f t with
  | ok next =>
    rw [hf] at h
    cases h
    rfl
  | error e =>
    rw [hf] at h
    cases h

def Write.Done (w : Write) (t t' : FileTree) : Prop :=
  FileTree.Wrote w.path w.content.toUTF8 t t'

theorem Write.done_perform {w : Write} {t t' : FileTree} {u : Unit}
    (h : w.perform.after t = (.ok u, t')) : w.Done t t' := by
  obtain ⟨_, made, hmade, h⟩ := Disk.after_bind_eq_ok h
  exact .of_writeBytes (.of_upTo (Disk.change_eq_ok hmade)) (Disk.change_eq_ok h)

theorem Write.done_performIndex {w : Write} {t t' : FileTree} {u : Unit}
    (h : w.performIndex.after t = (.ok u, t')) : w.Done t t' :=
  .of_writeBytes (.refl t) (Disk.change_eq_ok h)

/-- Writes were carried out one after another. -/
inductive AllDone : List Write → FileTree → FileTree → Prop
  | nil (t : FileTree) : AllDone [] t t
  | cons {w : Write} {ws : List Write} {t mid t' : FileTree} (first : w.Done t mid)
      (rest : AllDone ws mid t') : AllDone (w :: ws) t t'

namespace AllDone

theorem of_forM {act : Write → Disk Unit}
    (hact : ∀ (w : Write) (t t' : FileTree) (u : Unit), (act w).after t = (.ok u, t') → w.Done t t')
    {ws : List Write} {t t' : FileTree} {u : Unit} (h : (ws.forM act).after t = (.ok u, t')) :
    AllDone ws t t' := by
  induction ws generalizing t with
  | nil => cases h; exact .nil _
  | cons w ws ih =>
    obtain ⟨_, mid, hfirst, h⟩ := Disk.after_bind_eq_ok h
    exact .cons (hact w t mid _ hfirst) (ih h)

theorem append {ws vs : List Write} {t mid t' : FileTree} (h : AllDone ws t mid)
    (h' : AllDone vs mid t') : AllDone (ws ++ vs) t t' := by
  induction h with
  | nil => exact h'
  | cons first _ ih => exact .cons first (ih h')

theorem grows {ws : List Write} {t t' : FileTree} (h : AllDone ws t t') :
    FileTree.Grows t t' := by
  induction h with
  | nil t => exact .refl t
  | cons first _ ih => exact first.grows.trans ih

theorem keeps_file {ws : List Write} {t t' : FileTree} (h : AllDone ws t t') {q : Place}
    (hq : ∀ w ∈ ws, q ≠ w.path.placeFrom t.cwd) {content : ByteArray}
    (hold : t.get? q = some (.file content)) : t'.get? q = some (.file content) := by
  induction h with
  | nil => exact hold
  | cons first _ ih =>
    obtain ⟨hw, hws⟩ := List.forall_mem_cons.mp hq
    rw [← first.cwd] at hws
    exact ih hws (first.keeps_file hw hold)

theorem read {before after : List Write} {w : Write} {t t' : FileTree}
    (h : AllDone (before ++ w :: after) t t')
    (hlater : ∀ v ∈ after, w.path.placeFrom t.cwd ≠ v.path.placeFrom t.cwd) :
    t'.readBytes w.path = .ok w.content.toUTF8 := by
  induction before generalizing t with
  | nil =>
    cases h with
    | cons first rest =>
      apply first.readable _ rest.grows
      apply rest.keeps_file _ first.written
      rwa [first.cwd]
  | cons v before ih =>
    cases h with
    | cons first rest =>
      apply ih rest
      rwa [first.cwd]

end AllDone

theorem Plan.allDone {p : Plan} {t t' : FileTree} {report : Report}
    (h : p.perform.after t = (.ok report, t')) : AllDone (p.writes ++ p.indexWrites) t t' := by
  obtain ⟨_, mid, hfiles, h⟩ := Disk.after_bind_eq_ok h
  obtain ⟨_, last, hindexes, h⟩ := Disk.after_bind_eq_ok h
  cases h
  exact (AllDone.of_forM (fun _ _ _ _ => Write.done_perform) hfiles).append
    (.of_forM (fun _ _ _ _ => Write.done_performIndex) hindexes)

end RpcStubs
