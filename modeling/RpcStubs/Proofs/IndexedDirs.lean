import RpcStubs.Proofs.Places

/-!
# Directories with an index

An index is kept for each directory on the way to a generated file. The directories are in
increasing order, and none is there twice.
-/

namespace RpcStubs

def packageDirs (output : Path) (package : String) : List Path :=
  ((Text.nameSegments package).map Text.snakeCase).scanl Path.join output

namespace ModuleIndex

def Sorted (index : ModuleIndex) : Prop :=
  index.dirs.Pairwise (fun a b => a.1.cmp b.1 = .lt)

def HasDir (index : ModuleIndex) (dir : Path) : Prop := ∃ e ∈ index.dirs, dir.SamePlace e.1

/-! ## One module -/

theorem mem_insertIn {dir : Path} {module : String} {dirs : List (Path × List String)}
    {e : Path × List String} (h : e ∈ insertIn dir module dirs) :
    e.1 = dir ∨ ∃ old ∈ dirs, e.1 = old.1 := by
  induction dirs with
  | nil =>
    left
    rw [List.mem_singleton.mp h]
  | cons first rest ih =>
    obtain ⟨other, modules⟩ := first
    rw [insertIn] at h
    split at h
    · rcases List.mem_cons.mp h with rfl | h
      · exact Or.inl rfl
      · exact Or.inr ⟨e, h, rfl⟩
    · rcases List.mem_cons.mp h with rfl | h
      · exact Or.inr ⟨(other, modules), by simp, rfl⟩
      · exact Or.inr ⟨e, List.mem_cons_of_mem _ h, rfl⟩
    · rcases List.mem_cons.mp h with rfl | h
      · exact Or.inr ⟨(other, modules), by simp, rfl⟩
      · rcases ih h with h | ⟨old, hold, h⟩
        · exact Or.inl h
        · exact Or.inr ⟨old, List.mem_cons_of_mem _ hold, h⟩

theorem sorted_insertIn (dir : Path) (module : String) (dirs : List (Path × List String))
    (h : dirs.Pairwise (fun a b => a.1.cmp b.1 = .lt)) :
    (insertIn dir module dirs).Pairwise (fun a b => a.1.cmp b.1 = .lt) := by
  induction dirs with
  | nil => exact List.pairwise_singleton _ _
  | cons first rest ih =>
    obtain ⟨other, modules⟩ := first
    obtain ⟨hfirst, hrest⟩ := List.pairwise_cons.mp h
    rw [insertIn]
    split
    · rename_i hlt
      refine List.pairwise_cons.mpr ⟨?_, h⟩
      intro e he
      rcases List.mem_cons.mp he with rfl | he
      · exact hlt
      · exact Std.TransCmp.lt_trans hlt (hfirst e he)
    · exact List.pairwise_cons.mpr ⟨hfirst, hrest⟩
    · rename_i hgt
      refine List.pairwise_cons.mpr ⟨?_, ih hrest⟩
      intro e he
      -- What is inserted further back has the path `dir` or one that was there.
      rcases mem_insertIn he with he | ⟨old, hold, he⟩
      · rw [he]
        exact Std.OrientedCmp.lt_of_gt hgt
      · rw [he]
        exact hfirst old hold

theorem Sorted.insert {index : ModuleIndex} (h : index.Sorted) (dir : Path) (module : String) :
    (index.insert dir module).Sorted :=
  sorted_insertIn dir module index.dirs h

theorem Sorted.apart {index : ModuleIndex} (h : index.Sorted) :
    index.dirs.Pairwise (fun e e' => ¬ e.1.SamePlace e'.1) := by
  apply h.imp
  intro e e' hlt hsame
  rw [(Path.cmp_eq_eq _ _).mpr hsame] at hlt
  cases hlt

theorem hasDir_insertIn (dir q : Path) (module : String) (dirs : List (Path × List String)) :
    (∃ e ∈ insertIn dir module dirs, q.SamePlace e.1) ↔
      q.SamePlace dir ∨ ∃ e ∈ dirs, q.SamePlace e.1 := by
  induction dirs with
  | nil => simp [insertIn]
  | cons first rest ih =>
    obtain ⟨other, modules⟩ := first
    rw [insertIn]
    split
    · simp
    · -- The directory is already there, under a path with the same components.
      rename_i heq
      have hdir : dir.SamePlace other := (Path.cmp_eq_eq dir other).mp heq
      have hsame : q.SamePlace dir ↔ q.SamePlace other :=
        ⟨fun h => h.trans hdir, fun h => h.trans hdir.symm⟩
      simp [hsame]
    · simp only [List.exists_mem_cons_iff, ih]
      exact or_left_comm

theorem hasDir_insert (index : ModuleIndex) (dir q : Path) (module : String) :
    (index.insert dir module).HasDir q ↔ q.SamePlace dir ∨ index.HasDir q :=
  hasDir_insertIn dir q module index.dirs

/-! ## One file -/

section Preserved

variable {P : ModuleIndex → Prop}
  (hinsert : ∀ (index : ModuleIndex) (dir : Path) (module : String), P index →
    P (index.insert dir module))

include hinsert

theorem preserved_addDirs {index : ModuleIndex} (h : P index) (dir : Path)
    (names : List String) : P (index.addDirs dir names).1 := by
  induction names generalizing index dir with
  | nil => exact h
  | cons name names ih => exact ih (hinsert index dir name h) (dir.join name)

theorem preserved_add {index : ModuleIndex} (h : P index) (output : Path) (file : FileId) :
    P (index.add output file).1 :=
  hinsert _ _ _ (preserved_addDirs hinsert h output _)

def addAll (output : Path) (index : ModuleIndex) (files : List FileId) : ModuleIndex :=
  files.foldl (fun index file => (index.add output file).1) index

theorem preserved_addAll {index : ModuleIndex} (h : P index) (output : Path)
    (files : List FileId) : P (index.addAll output files) := by
  unfold addAll
  induction files generalizing index with
  | nil => exact h
  | cons file files ih => exact ih (preserved_add hinsert h output file)

end Preserved

theorem addDirs_dir (index : ModuleIndex) (dir : Path) (names : List String) :
    (index.addDirs dir names).2 = names.foldl Path.join dir := by
  induction names generalizing index dir with
  | nil => rfl
  | cons name names ih => exact ih _ _

theorem add_dir (index : ModuleIndex) (output : Path) (file : FileId) :
    (index.add output file).2 = packageDir output file.package :=
  addDirs_dir index output _

theorem hasDir_addDirs (index : ModuleIndex) (dir q : Path) (names : List String)
    (module : String) :
    ((index.addDirs dir names).1.insert (index.addDirs dir names).2 module).HasDir q ↔
      index.HasDir q ∨ ∃ d ∈ names.scanl Path.join dir, q.SamePlace d := by
  induction names generalizing index dir with
  | nil =>
    rw [addDirs, hasDir_insert]
    simp [or_comm]
  | cons name names ih =>
    rw [addDirs, ih, hasDir_insert, List.scanl_cons]
    simp only [List.exists_mem_cons_iff]
    rw [or_assoc, or_left_comm]

theorem hasDir_add (index : ModuleIndex) (output q : Path) (file : FileId) :
    (index.add output file).1.HasDir q ↔
      index.HasDir q ∨ ∃ d ∈ packageDirs output file.package, q.SamePlace d :=
  hasDir_addDirs index output q _ file.module

end ModuleIndex

end RpcStubs
