import RpcStubs.Proofs.Ways

/-!
# Writes in any order

A write needs a way without files, and a place for its file that is no directory. Writes whose files
are not in the way of each other keep this for one another, so they can be carried out in every
order, with the same files in the end.
-/

namespace RpcStubs

/-! ## Joined names -/

namespace Path

/-- A joined name is the last piece. A slash at the end of the path before it counts for nothing. -/
theorem pieces_join (p : Path) {child : String} (h : '/' ∉ child.toList) :
    ∃ front, (p.join child).pieces = front ++ [child.toList] ∧
      (p.pieces = front ∨ p.pieces = front ++ [[]]) ∧
      (p.join child).isAbsolute = p.isAbsolute ∧
      p.text.toList <+: (p.join child).text.toList := by
  have hhead : child.toList.head? ≠ some '/' := fun hhead => h (List.mem_of_mem_head? hhead)
  have hpiece : child.toList.splitOn '/' = [child.toList] := List.splitOn_eq_singleton h
  unfold join
  rw [if_neg hhead]
  by_cases hempty : p.text.toList = []
  · have htext : p.text = "" := String.toList_eq_nil_iff.mp hempty
    refine ⟨[], ?_, .inr ?_, ?_, ?_⟩ <;> simp [htext, pieces, hpiece, isAbsolute, hhead]
  · have hne : p.text.isEmpty = false := by simpa using hempty
    by_cases hlast : p.text.toList.getLast? = some '/'
    · obtain ⟨before, hbefore⟩ := List.getLast?_eq_some_iff.mp hlast
      simp only [hne, hlast, decide_true, Bool.or_true, if_true]
      refine ⟨before.splitOn '/', ?_, .inr ?_, ?_, ?_⟩
      · simp [pieces, hbefore, List.splitOn_append_cons_self, hpiece]
      · rw [pieces, hbefore, List.splitOn_append_cons_self]
        rfl
      · simp [isAbsolute, List.head?_append_of_ne_nil _ hempty]
      · simp
    · simp only [hne, hlast, decide_false, Bool.or_self, Bool.false_eq_true, if_false]
      refine ⟨p.pieces, ?_, .inl rfl, ?_, ?_⟩
      · simp [pieces, List.splitOn_append_cons_self, hpiece]
      · simp [isAbsolute, List.head?_append_of_ne_nil _ hempty]
      · simp [List.append_assoc]

theorem steps_join (p : Path) {child : String} (h : '/' ∉ child.toList) :
    (p.join child).steps = p.steps ++ (laterComponent? child.toList).toList := by
  obtain ⟨front, hjoin, hp, -, -⟩ := p.pieces_join h
  have hfront : p.steps = front.filterMap laterComponent? := by
    rcases hp with hp | hp <;> simp [steps, hp, laterComponent?]
  rw [hfront, steps, hjoin, List.filterMap_append]
  cases hc : laterComponent? child.toList <;> simp [hc]

end Path

/-! ## Files in directories -/

/-- A write puts a file with a plain name into its directory. -/
def Write.Fits (w : Write) : Prop :=
  ∃ name : String, '/' ∉ name.toList ∧ Path.laterComponent? name.toList = some (.name name) ∧
    w.path = w.dir.join name

def Write.place (cwd : Place) (w : Write) : Place := w.path.placeFrom cwd

namespace Write.Fits

variable {w : Write}

theorem start (h : w.Fits) (cwd : Place) : w.path.start cwd = w.dir.start cwd := by
  obtain ⟨name, hslash, -, hpath⟩ := h
  obtain ⟨-, -, -, habs, -⟩ := w.dir.pieces_join hslash
  rw [Path.start, Path.start, hpath, habs]

theorem accepts_dir (h : w.Fits) (hp : FileTree.Accepts w.path) :
    w.dir.text = "" ∨ FileTree.Accepts w.dir := by
  obtain ⟨name, hslash, -, hpath⟩ := h
  obtain ⟨-, -, -, -, hfront⟩ := w.dir.pieces_join hslash
  exact FileTree.accepts_of_front hp (hpath ▸ hfront)

theorem starts_iff (h : w.Fits) {t : FileTree} : t.Starts w.path ↔ t.Starts w.dir := by
  obtain ⟨name, hslash, -, hpath⟩ := h
  obtain ⟨-, -, -, habs, -⟩ := w.dir.pieces_join hslash
  rw [FileTree.Starts, FileTree.Starts, hpath, habs]

theorem pieces (h : w.Fits) : ∃ (front : List (List Char)) (name : String),
    w.path.pieces = front ++ [name.toList] ∧
    Path.laterComponent? name.toList = some (.name name) ∧
    front.filterMap Path.laterComponent? = w.dir.steps ∧
    w.path.steps = w.dir.steps ++ [.name name] ∧
    ∀ cwd, w.place cwd = w.dir.placeFrom cwd ++ [name] := by
  have hstart := h.start
  obtain ⟨name, hslash, hname, hpath⟩ := h
  obtain ⟨front, hpieces, hdir, -, -⟩ := w.dir.pieces_join hslash
  have hsteps : w.path.steps = w.dir.steps ++ [.name name] := by
    rw [hpath, w.dir.steps_join hslash, hname]
    rfl
  refine ⟨front, name, hpath ▸ hpieces, hname, ?_, hsteps, ?_⟩
  · rcases hdir with hdir | hdir <;> simp [Path.steps, hdir, Path.laterComponent?]
  · intro cwd
    rw [Write.place, Path.placeFrom_eq, Path.placeFrom_eq, hsteps, List.foldl_append, hstart]
    rfl

end Write.Fits

namespace FileTree

variable {t : FileTree}

theorem Starts.of_startOf {p : Path} {entry : Entry} {q : Place} {pieces : List (List Char)}
    (hcwd : t.get? t.cwd = some entry)
    (h : t.follow (t.startOf p entry) pieces = .ok (.present q .directory)) :
    t.Starts p ∧ t.startOf p entry = .present (p.start t.cwd) .directory := by
  unfold startOf Path.start at *
  by_cases habs : p.isAbsolute = true
  · exact ⟨⟨entry, hcwd, .inl habs⟩, by rw [if_pos habs, if_pos habs]⟩
  · rw [if_neg habs] at h
    cases entry with
    | directory => exact ⟨⟨.directory, hcwd, .inr rfl⟩, by rw [if_neg habs, if_neg habs]⟩
    | file content => cases pieces <;> cases h

theorem way_of_writable {w : Write} (hw : w.Fits) {target : Target}
    (h : t.resolve w.path = .ok target) (htarget : target.Writable) :
    Accepts w.path ∧ t.Starts w.path ∧ (∀ c ∈ w.path.steps, c.Short) ∧
      ∀ x ∈ w.dir.way t.cwd, t.get? x = some .directory := by
  obtain ⟨front, name, hpieces, hname, hfront, hsteps, -⟩ := hw.pieces
  obtain ⟨hp, entry, hcwd, h⟩ := resolve_eq_ok.mp h
  obtain ⟨before, piece, place, hsplit, hbefore, hlast⟩ :=
    follow_writable h htarget (pieces_ne_nil _)
  obtain ⟨rfl, hpiece⟩ := List.append_inj' (hpieces.symm.trans hsplit) rfl
  cases hpiece
  obtain ⟨hstarts, hstart⟩ := Starts.of_startOf hcwd hbefore
  rw [hstart] at hbefore
  obtain ⟨hshort, hways, -⟩ := (follow_present_iff _ _ _).mp hbefore
  rw [hfront] at hshort hways
  rw [hw.start] at hways
  refine ⟨hp, hstarts, ?_, hways⟩
  rw [hsteps, List.forall_mem_append, List.forall_mem_singleton]
  refine ⟨hshort, ?_⟩
  by_contra hlong
  rw [enter_of_name hname, if_pos (Nat.not_le.mp hlong)] at hlast
  cases hlast

theorem resolve_file_of_way {w : Write} (hw : w.Fits) (hp : Accepts w.path)
    (hstarts : t.Starts w.path) (hshort : ∀ c ∈ w.path.steps, c.Short)
    (hways : ∀ x ∈ w.dir.way t.cwd, t.get? x = some .directory) :
    t.resolve w.path = .ok (t.targetAt (w.place t.cwd)) := by
  obtain ⟨front, name, hpieces, hname, hfront, hsteps, hplace⟩ := hw.pieces
  rw [hsteps, List.forall_mem_append, List.forall_mem_singleton] at hshort
  have hbefore : t.follow (.present (w.path.start t.cwd) .directory) front =
      .ok (.present (w.dir.placeFrom t.cwd) .directory) := by
    rw [follow_present_iff, hfront, hw.start, Path.placeFrom_eq]
    exact ⟨hshort.1, hways, rfl⟩
  rw [resolve_of_starts hp hstarts, hpieces, follow_append, hbefore, hplace]
  simp [Except.bind, follow, enter_of_name hname, Nat.not_lt.mpr hshort.2]

theorem eq_of_makeDirectoriesUpTo {fuel : Nat} {t' : FileTree} {p : Path}
    (hcwd : t.get? t.cwd = none) (h : makeDirectoriesUpTo fuel t p = .ok t') : t' = t := by
  -- Every look-up starts at the working directory, so none succeeds.
  have hresolve : ∀ (p : Path) (target : Target), t.resolve p ≠ .ok target := by
    intro p target hp
    obtain ⟨-, entry, hentry, -⟩ := resolve_eq_ok.mp hp
    rw [hcwd] at hentry
    cases hentry
  have hmake : ∀ (p : Path) (made : FileTree), t.makeDirectory p ≠ .ok made := by
    intro p made hmade
    unfold makeDirectory at hmade
    split at hmade
    · cases hmade
    · exact hresolve p _ ‹_›
    · cases hmade
  fun_induction makeDirectoriesUpTo fuel t p generalizing t' with
  | case1 => cases h
  | case2 => cases h; rfl
  | case3 fuel t p _ made hmade => exact absurd hmade (hmake p made)
  | case4 => cases h
  | case5 => cases h
  | case6 fuel t p _ _ parent _ above habove made hmade ih =>
    rw [ih hcwd habove hresolve hmake] at hmade
    exact absurd hmade (hmake p made)
  | case7 fuel t p _ _ parent _ above habove e _ ih =>
    rw [unlessDirectory_eq_ok h]
    exact ih hcwd habove hresolve hmake
  | case8 => exact unlessDirectory_eq_ok h

theorem Starts.of_makeDirectories {made : FileTree} {p q : Path}
    (hmake : t.makeDirectories p = .ok made) (h : made.Starts q) : t.Starts q := by
  have hmade : MadeDirectories t made := .of_upTo hmake
  cases hcwd : t.get? t.cwd with
  | none => rwa [eq_of_makeDirectoriesUpTo hcwd hmake] at h
  | some entry =>
    obtain ⟨entry', hentry', hdirectory⟩ := h
    rw [hmade.cwd] at hentry'
    rcases hmade.entries t.cwd with heq | ⟨hnone, -⟩
    · exact ⟨entry', by rw [← heq, hentry'], hdirectory⟩
    · rw [hcwd] at hnone
      cases hnone

theorem targetAt_writable {q : Place} (h : t.get? q ≠ some .directory) :
    (t.targetAt q).Writable := by
  unfold targetAt
  split
  · rename_i entry hentry
    cases entry with
    | file content => trivial
    | directory => exact absurd hentry h
  · rfl

theorem writeBytes_of_writable {p : Path} {target : Target} (h : t.resolve p = .ok target)
    (hw : target.Writable) (content : ByteArray) :
    t.writeBytes p content = .ok (t.set target.place (.file content)) := by
  rw [writeBytes, h]
  rcases target with ⟨place, _ | old⟩ | ⟨place, slash⟩
  · cases hw
  · rfl
  · cases hw
    rfl

end FileTree

/-! ## One write -/

namespace Write

/-- A write can be carried out: no file is in its way, and no directory at its place. -/
structure Clear (t : FileTree) (w : Write) : Prop where
  accepts : FileTree.Accepts w.path
  short : ∀ c ∈ w.path.steps, c.Short
  way : t.Open w.dir
  apart : w.place t.cwd ∉ w.dir.way t.cwd
  free : t.get? (w.place t.cwd) ≠ some .directory

/-- A file is written and there are directories on its way. Nothing else changes. -/
structure Performed (w : Write) (t t' : FileTree) : Prop where
  cwd : t'.cwd = t.cwd
  entries : ∀ q, t'.get? q = if q = w.place t.cwd then some (.file w.content.toUTF8)
    else if q ∈ w.dir.way t.cwd then some .directory else t.get? q

variable {w : Write} {t t' : FileTree}

theorem clear_of_perform (hw : w.Fits) {u : Unit} (h : w.perform.after t = (.ok u, t')) :
    w.Clear t := by
  obtain ⟨_, made, hmake, h⟩ := Disk.after_bind_eq_ok h
  have hmake := Disk.change_eq_ok hmake
  have hmade : FileTree.MadeDirectories t made := .of_upTo hmake
  obtain ⟨target, hresolve, hwritable, -⟩ := FileTree.writeBytes_eq_ok (Disk.change_eq_ok h)
  obtain ⟨hp, hstarts, hshort, hways⟩ := FileTree.way_of_writable hw hresolve hwritable
  have hnodir := FileTree.resolve_not_directory hresolve hwritable
  rw [FileTree.resolve_place hresolve] at hnodir
  rw [hmade.cwd] at hways hnodir
  constructor
  case accepts => exact hp
  case short => exact hshort
  case way =>
    refine ⟨.of_makeDirectories hmake (hw.starts_iff.mp hstarts), ?_, ?_⟩
    · obtain ⟨_, _, -, -, -, hsteps, -⟩ := hw.pieces
      exact fun c hc => hshort c (hsteps ▸ List.mem_append_left _ hc)
    · intro x hx content hfile
      rcases hmade.entries x with heq | ⟨hnone, -⟩
      · rw [hways x hx, hfile] at heq
        cases heq
      · rw [hfile] at hnone
        cases hnone
  case apart => exact fun hmem => hnodir (hways _ hmem)
  case free => exact fun hd => hnodir (hmade.grows.directory _ hd)

theorem perform_clear (hw : w.Fits) (h : w.Clear t)
    (hdot : w.dir.endsInDot = true → t.get? (w.dir.placeFrom t.cwd) = some .directory) :
    ∃ t', w.perform.after t = (.ok (), t') ∧ w.Performed t t' := by
  obtain ⟨made, hmake, hmade⟩ :=
    FileTree.makeDirectories_open (hw.accepts_dir h.accepts) h.way hdot
  have hplace : made.get? (w.place t.cwd) = t.get? (w.place t.cwd) := by
    rw [hmade.entries, if_neg h.apart]
  have hresolve : made.resolve w.path = .ok (made.targetAt (w.place t.cwd)) := by
    rw [← hmade.cwd]
    apply FileTree.resolve_file_of_way hw h.accepts _ h.short
    · rw [hmade.cwd]
      intro x hx
      rw [hmade.entries, if_pos hx]
    · exact hw.starts_iff.mpr (h.way.of_madeWay hmade).starts
  have hroot : w.place t.cwd ≠ [] := by
    intro hnil
    exact h.free (hnil ▸ FileTree.get?_root t)
  refine ⟨made.set (w.place t.cwd) (.file w.content.toUTF8), ?_, hmade.cwd, ?_⟩
  · rw [perform, Disk.after_bind, Disk.after_change, hmake]
    simp only [Disk.after_change, FileTree.write]
    rw [FileTree.writeBytes_of_writable hresolve
      (FileTree.targetAt_writable (hplace ▸ h.free)), FileTree.targetAt_place]
  · intro q
    by_cases hq : q = w.place t.cwd
    · rw [if_pos hq, hq, FileTree.get?_set_self made hroot]
    · rw [if_neg hq, FileTree.get?_set_of_ne made (Ne.symm hq), hmade.entries]

theorem Clear.of_done {v : Write} {mid : FileTree} (hstarts : t.Starts w.dir) (hv : v.Done t mid)
    (h : w.Clear mid) : w.Clear t := by
  obtain ⟨haccepts, hshort, ⟨-, hdirs, hway⟩, hapart, hfree⟩ := h
  rw [hv.cwd] at hway hapart hfree
  refine ⟨haccepts, hshort, ⟨hstarts, hdirs, ?_⟩, hapart, ?_⟩
  · intro x hx content hfile
    by_cases hplace : x = v.path.placeFrom t.cwd
    · exact hway x hx _ (hplace ▸ hv.written)
    · exact hway x hx content (hv.keeps_file hplace hfile)
  · exact fun hd => hfree (hv.grows.directory _ hd)

/-- A write leaves another one possible if neither file is in the way of the other. -/
theorem Clear.of_performed {v : Write} {mid : FileTree} (hv : v.Clear t)
    (hmid : v.Performed t mid) (h : w.Clear t) (hvw : v.place t.cwd ∉ w.dir.way t.cwd)
    (hwv : w.place t.cwd ∉ v.dir.way t.cwd) : w.Clear mid := by
  obtain ⟨haccepts, hshort, ⟨⟨entry, hentry, hdirectory⟩, hdirs, hway⟩, hapart, hfree⟩ := h
  refine ⟨haccepts, hshort, ⟨?_, hdirs, ?_⟩, hmid.cwd ▸ hapart, ?_⟩
  · rw [FileTree.Starts, hmid.cwd, hmid.entries]
    -- If the file is at the working directory, that was no directory, so the path is absolute.
    by_cases hplace : t.cwd = v.place t.cwd
    · rw [if_pos hplace]
      refine ⟨_, rfl, .inl (hdirectory.resolve_right ?_)⟩
      rintro rfl
      exact hv.free (hplace ▸ hentry)
    · rw [if_neg hplace]
      split
      · exact ⟨_, rfl, .inr rfl⟩
      · exact ⟨entry, hentry, hdirectory⟩
  · rw [hmid.cwd]
    intro x hx content
    have hplace : x ≠ v.place t.cwd := fun heq => hvw (heq ▸ hx)
    rw [hmid.entries, if_neg hplace]
    split
    · simp
    · exact hway x hx content
  · rw [hmid.cwd, hmid.entries, if_neg hwv]
    split
    · simp
    · exact hfree

end Write

/-! ## All writes -/

/-- Writes that can be carried out in a tree, none of them in the way of another. -/
structure Compatible (t : FileTree) (ws : List Write) : Prop where
  fits : ∀ w ∈ ws, w.Fits
  clear : ∀ w ∈ ws, w.Clear t
  apart : ∀ v ∈ ws, ∀ w ∈ ws, v.place t.cwd ∉ w.dir.way t.cwd
  places : ws.Pairwise (fun v w => v.place t.cwd ≠ w.place t.cwd)
  dots : ∀ w ∈ ws, w.dir.endsInDot = true → t.get? (w.dir.placeFrom t.cwd) = some .directory

/-- What is where after writes. It does not depend on their order. -/
structure Describes (ws : List Write) (t t' : FileTree) : Prop where
  cwd : t'.cwd = t.cwd
  written : ∀ w ∈ ws, t'.get? (w.place t.cwd) = some (.file w.content.toUTF8)
  made : ∀ w ∈ ws, ∀ q ∈ w.dir.way t.cwd, t'.get? q = some .directory
  kept : ∀ q, (∀ w ∈ ws, q ≠ w.place t.cwd ∧ q ∉ w.dir.way t.cwd) → t'.get? q = t.get? q

namespace Compatible

variable {t : FileTree} {ws : List Write}

theorem perm {vs : List Write} (h : Compatible t ws) (hperm : vs.Perm ws) : Compatible t vs where
  fits w hw := h.fits w (hperm.mem_iff.mp hw)
  clear w hw := h.clear w (hperm.mem_iff.mp hw)
  apart v hv w hw := h.apart v (hperm.mem_iff.mp hv) w (hperm.mem_iff.mp hw)
  places := (hperm.pairwise_iff (fun hne heq => hne heq.symm)).mpr h.places
  dots w hw := h.dots w (hperm.mem_iff.mp hw)

theorem tail {w : Write} {mid : FileTree} (h : Compatible t (w :: ws)) (hmid : w.Performed t mid) :
    Compatible mid ws := by
  have hclear := h.clear w (by simp)
  constructor
  case fits => exact fun v hv => h.fits v (List.mem_cons_of_mem _ hv)
  case clear =>
    intro v hv
    have hmem := List.mem_cons_of_mem w hv
    exact .of_performed hclear hmid (h.clear v hmem) (h.apart w (by simp) v hmem)
      (h.apart v hmem w (by simp))
  case apart =>
    rw [hmid.cwd]
    exact fun v hv u hu => h.apart v (List.mem_cons_of_mem _ hv) u (List.mem_cons_of_mem _ hu)
  case places =>
    rw [hmid.cwd]
    exact (List.pairwise_cons.mp h.places).2
  case dots =>
    intro v hv hdot
    have hdirectory := h.dots v (List.mem_cons_of_mem _ hv) hdot
    have hplace : v.dir.placeFrom t.cwd ≠ w.place t.cwd :=
      fun heq => hclear.free (heq ▸ hdirectory)
    rw [hmid.cwd, hmid.entries, if_neg hplace]
    split
    · rfl
    · exact hdirectory

theorem describes_cons {w : Write} {mid t' : FileTree} (h : Compatible t (w :: ws))
    (hmid : w.Performed t mid) (hrest : Describes ws mid t') : Describes (w :: ws) t t' := by
  obtain ⟨hcwd, hwritten, hmade, hkept⟩ := hrest
  rw [hmid.cwd] at hcwd hwritten hmade hkept
  have hplaces := (List.pairwise_cons.mp h.places).1
  constructor
  case cwd => exact hcwd
  case written =>
    refine List.forall_mem_cons.mpr ⟨?_, hwritten⟩
    rw [hkept, hmid.entries, if_pos rfl]
    exact fun v hv => ⟨hplaces v hv, h.apart w (by simp) v (List.mem_cons_of_mem _ hv)⟩
  case made =>
    refine List.forall_mem_cons.mpr ⟨?_, hmade⟩
    intro q hq
    -- A directory that a later write needs too is there because of that write.
    by_cases hlater : ∃ v ∈ ws, q ∈ v.dir.way t.cwd
    · obtain ⟨v, hv, hqv⟩ := hlater
      exact hmade v hv q hqv
    · have hne : ∀ v ∈ w :: ws, q ≠ v.place t.cwd := by
        rintro v hv rfl
        exact h.apart v hv w (by simp) hq
      rw [hkept, hmid.entries, if_neg (hne w (by simp)), if_pos hq]
      intro v hv
      exact ⟨hne v (List.mem_cons_of_mem _ hv), fun hqv => hlater ⟨v, hv, hqv⟩⟩
  case kept =>
    intro q hq
    obtain ⟨⟨hplace, hway⟩, hq⟩ := List.forall_mem_cons.mp hq
    rw [hkept q hq, hmid.entries, if_neg hplace, if_neg hway]

theorem forM_perform (h : Compatible t ws) :
    ∃ t', (ws.forM Write.perform).after t = (.ok (), t') ∧ Describes ws t t' := by
  induction ws generalizing t with
  | nil =>
    refine ⟨t, rfl, rfl, ?_, ?_, fun q _ => rfl⟩
    · simp
    · simp
  | cons w ws ih =>
    obtain ⟨mid, hfirst, hmid⟩ :=
      Write.perform_clear (h.fits w (by simp)) (h.clear w (by simp)) (h.dots w (by simp))
    obtain ⟨t', hrest, hdescribes⟩ := ih (h.tail hmid)
    refine ⟨t', ?_, h.describes_cons hmid hdescribes⟩
    show (w.perform >>= fun _ => ws.forM Write.perform).after t = _
    rw [Disk.after_bind, hfirst]
    exact hrest

end Compatible

theorem clear_of_forM {ws : List Write} {t t' : FileTree} {u : Unit}
    (hfits : ∀ w ∈ ws, w.Fits)
    (habs : ∀ v ∈ ws, ∀ w ∈ ws, v.dir.isAbsolute = w.dir.isAbsolute)
    (h : (ws.forM Write.perform).after t = (.ok u, t')) : ∀ w ∈ ws, w.Clear t := by
  induction ws generalizing t with
  | nil => simp
  | cons w ws ih =>
    obtain ⟨_, mid, hfirst, h⟩ := Disk.after_bind_eq_ok h
    have hclear := Write.clear_of_perform (hfits w (by simp)) hfirst
    refine List.forall_mem_cons.mpr ⟨hclear, ?_⟩
    intro v hv
    have hlater := ih (fun v hv => hfits v (List.mem_cons_of_mem _ hv))
      (fun v hv u hu => habs v (List.mem_cons_of_mem _ hv) u (List.mem_cons_of_mem _ hu)) h v hv
    refine .of_done ?_ (Write.done_perform hfirst) hlater
    exact hclear.way.starts.of_isAbsolute (habs v (List.mem_cons_of_mem _ hv) w (by simp))

/-! ## Trees with the same files -/

/-- The same files and directories, seen from the same place. -/
structure SameFiles (t t' : FileTree) : Prop where
  cwd : t'.cwd = t.cwd
  entries : ∀ q, t'.get? q = t.get? q

theorem Describes.sameFiles {ws vs : List Write} {t t₁ t₂ : FileTree} (h₁ : Describes ws t t₁)
    (h₂ : Describes vs t t₂) (hmem : ∀ w, w ∈ vs ↔ w ∈ ws) : SameFiles t₁ t₂ := by
  refine ⟨h₂.cwd.trans h₁.cwd.symm, fun q => ?_⟩
  by_cases hplace : ∃ w ∈ ws, q = w.place t.cwd
  · obtain ⟨w, hw, rfl⟩ := hplace
    rw [h₁.written w hw, h₂.written w ((hmem w).mpr hw)]
  by_cases hway : ∃ w ∈ ws, q ∈ w.dir.way t.cwd
  · obtain ⟨w, hw, hq⟩ := hway
    rw [h₁.made w hw q hq, h₂.made w ((hmem w).mpr hw) q hq]
  · have hq : ∀ w ∈ ws, q ≠ w.place t.cwd ∧ q ∉ w.dir.way t.cwd :=
      fun w hw => ⟨fun heq => hplace ⟨w, hw, heq⟩, fun hmem => hway ⟨w, hw, hmem⟩⟩
    rw [h₁.kept q hq, h₂.kept q (fun w hw => hq w ((hmem w).mp hw))]

namespace SameFiles

variable {t u : FileTree}

theorem follow (h : SameFiles t u) (target : FileTree.Target) (pieces : List (List Char)) :
    u.follow target pieces = t.follow target pieces := by
  have henter : ∀ place piece, u.enter place piece = t.enter place piece := by
    intro place piece
    simp only [FileTree.enter, h.entries]
  fun_induction FileTree.follow t target pieces with
  | case1 => rfl
  | case2 place piece pieces next hnext ih =>
    rw [FileTree.follow, henter, hnext]
    exact ih
  | case3 place piece pieces e hnext => rw [FileTree.follow, henter, hnext]
  | case4 => rfl
  | case5 place slash piece pieces hpiece ih => rw [FileTree.follow, if_pos hpiece, ih]
  | case6 place slash piece pieces hpiece => rw [FileTree.follow, if_neg hpiece]

theorem resolve (h : SameFiles t u) (p : Path) : u.resolve p = t.resolve p := by
  simp only [FileTree.resolve, h.cwd, h.entries, h.follow]

theorem writeBytes (h : SameFiles t u) {p : Path} {content : ByteArray} {t' : FileTree}
    (hwrite : t.writeBytes p content = .ok t') :
    ∃ u', u.writeBytes p content = .ok u' ∧ SameFiles t' u' := by
  obtain ⟨target, hresolve, hw, rfl⟩ := FileTree.writeBytes_eq_ok hwrite
  have hroot : target.place ≠ [] := by
    intro hnil
    exact FileTree.resolve_not_directory hresolve hw (hnil ▸ FileTree.get?_root t)
  refine ⟨_, FileTree.writeBytes_of_writable ((h.resolve p).trans hresolve) hw content, h.cwd, ?_⟩
  intro q
  by_cases hq : target.place = q
  · rw [← hq, FileTree.get?_set_self t hroot, FileTree.get?_set_self u hroot]
  · rw [FileTree.get?_set_of_ne t hq, FileTree.get?_set_of_ne u hq, h.entries]

theorem forM_performIndex (h : SameFiles t u) {ws : List Write} {t' : FileTree} {x : Unit}
    (hrun : (ws.forM Write.performIndex).after t = (.ok x, t')) :
    ∃ u', (ws.forM Write.performIndex).after u = (.ok (), u') ∧ SameFiles t' u' := by
  induction ws generalizing t u with
  | nil =>
    cases hrun
    exact ⟨u, rfl, h⟩
  | cons w ws ih =>
    obtain ⟨_, mid, hfirst, hrest⟩ := Disk.after_bind_eq_ok hrun
    obtain ⟨mid', hwrite, hmid⟩ := h.writeBytes (Disk.change_eq_ok hfirst)
    obtain ⟨u', hlater, hsame⟩ := ih hmid hrest
    refine ⟨u', ?_, hsame⟩
    show (w.performIndex >>= fun _ => ws.forM Write.performIndex).after u = _
    rw [Disk.after_bind, Write.performIndex, Disk.after_change, FileTree.write, hwrite]
    exact hlater

end SameFiles

end RpcStubs
