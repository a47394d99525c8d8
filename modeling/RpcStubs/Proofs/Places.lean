import RpcStubs.Generator.Index
import RpcStubs.Proofs.Build
import RpcStubs.Proofs.SnakeCase

/-!
# Components and order of paths

A name that is joined to a path adds a component at its end. So two files of one directory are
at the same place only if their names are equal.
-/

namespace RpcStubs

/-! ## Order -/

instance : Std.LawfulEqCmp Component.cmp where
  compare_self {a} := by cases a <;> simp [Component.cmp]
  eq_of_compare {a b} h := by
    cases a <;> cases b <;> simp_all [Component.cmp]

theorem Component.cmp_swap (a b : Component) : a.cmp b = (b.cmp a).swap := by
  cases a <;> cases b <;> simp only [Component.cmp, Ordering.swap]
  exact Std.OrientedOrd.eq_swap

instance : Std.TransCmp Component.cmp where
  eq_swap := Component.cmp_swap _ _
  isLE_trans {a b c} hab hbc := by
    cases a <;> cases b <;> cases c <;> simp_all [Component.cmp]
    exact Std.TransOrd.isLE_trans hab hbc

namespace Path

theorem cmpComponents_eq (as bs : List Component) :
    cmpComponents as bs = List.compareLex Component.cmp as bs := by
  induction as generalizing bs with
  | nil => cases bs <;> rfl
  | cons a as ih =>
    cases bs with
    | nil => rfl
    | cons b bs => rw [cmpComponents, ih, List.compareLex_cons_cons]

theorem cmp_eq_compareLex (p q : Path) :
    p.cmp q = List.compareLex Component.cmp p.components q.components :=
  cmpComponents_eq _ _

instance : Std.TransCmp Path.cmp where
  eq_swap {p q} := by
    rw [cmp_eq_compareLex, cmp_eq_compareLex]
    exact Std.OrientedCmp.eq_swap
  isLE_trans {p q r} hpq hqr := by
    rw [cmp_eq_compareLex] at *
    exact Std.TransCmp.isLE_trans hpq hqr

theorem cmp_eq_eq (p q : Path) : p.cmp q = .eq ↔ p.SamePlace q := by
  rw [cmp_eq_compareLex, Std.LawfulEqCmp.compare_eq_iff_eq]
  rfl

/-! ## Joined names -/

theorem components_of_pieces (p : Path) (first : List Char) (rest : List (List Char))
    (h : p.pieces = first :: rest) :
    p.components = (if p.isAbsolute then [.root] else (firstComponent? first).toList) ++
      rest.filterMap laterComponent? := by
  simp only [components, h]

theorem components_snoc (p q : Path) (pieces slashes : List (List Char)) (piece : List Char)
    (hne : pieces ≠ []) (hp : p.pieces = pieces ++ slashes)
    (hslashes : slashes.filterMap laterComponent? = []) (hq : q.pieces = pieces ++ [piece])
    (ha : q.isAbsolute = p.isAbsolute) :
    q.components = p.components ++ (laterComponent? piece).toList := by
  obtain ⟨first, rest, rfl⟩ := List.exists_cons_of_ne_nil hne
  rw [components_of_pieces p first (rest ++ slashes) hp,
    components_of_pieces q first (rest ++ [piece]) hq, ha]
  cases hpiece : laterComponent? piece <;> simp [List.filterMap_append, hslashes, hpiece]

theorem components_join (p : Path) (child : String) (hslash : '/' ∉ child.toList)
    (hdot : child.toList ≠ ['.']) :
    (p.join child).components = p.components ++ (laterComponent? child.toList).toList := by
  have hhead : child.toList.head? ≠ some '/' := fun h => hslash (List.mem_of_mem_head? h)
  have hpiece : child.toList.splitOn '/' = [child.toList] := List.splitOn_eq_singleton hslash
  unfold join
  rw [if_neg hhead]
  by_cases hempty : p.text.toList = []
  · have htext : p.text = "" := String.toList_eq_nil_iff.mp hempty
    have habs : (child.toList.head? == some '/') = false := by simpa using hhead
    simp [htext, components, pieces, isAbsolute, hpiece, habs, hdot, firstComponent?,
      laterComponent?]
  · have hne : p.text.isEmpty = false := by simpa using hempty
    -- A slash is put in between unless one is there, which then is an empty piece.
    by_cases hlast : p.text.toList.getLast? = some '/'
    · obtain ⟨before, hbefore⟩ := List.getLast?_eq_some_iff.mp hlast
      simp only [hne, hlast, decide_true, Bool.or_true, if_true]
      apply components_snoc p _ (before.splitOn '/') [[]] child.toList (List.splitOn_ne_nil _ _)
      · rw [pieces, hbefore, List.splitOn_append_cons_self]; rfl
      · rfl
      · simp [pieces, hbefore, List.splitOn_append_cons_self, hpiece]
      · cases before <;> simp [isAbsolute, hbefore]
    · simp only [hne, hlast, decide_false, Bool.or_self, Bool.false_eq_true, if_false]
      apply components_snoc p _ p.pieces [] child.toList (List.splitOn_ne_nil _ _)
      · simp
      · rfl
      · simp [pieces, List.splitOn_append_cons_self, hpiece]
      · simp [isAbsolute, List.head?_append_of_ne_nil _ hempty]

theorem components_join_file (p : Path) (stem : String)
    (h : ∀ c ∈ stem.toList, Text.PathSafe c) :
    (p.join (stem ++ ".rs")).components = p.components ++ [.name (stem ++ ".rs")] := by
  have hlist : (stem ++ ".rs").toList = stem.toList ++ ['.', 'r', 's'] := by simp
  have hslash : '/' ∉ (stem ++ ".rs").toList := by
    rw [hlist, List.mem_append]
    rintro (hm | hm)
    · exact (h _ hm).1 rfl
    · simp at hm
  have hlen : 3 ≤ (stem ++ ".rs").toList.length := by rw [hlist]; simp
  have hne : ∀ l : List Char, l.length < 3 → (stem ++ ".rs").toList ≠ l := by
    intro l hl he
    rw [he] at hlen
    omega
  rw [components_join p _ hslash (hne _ (by simp))]
  have hempty : (stem ++ ".rs").toList.isEmpty = false := by simp [hlist]
  simp only [laterComponent?, hempty, hne ['.'] (by simp), hne ['.', '.'] (by simp), decide_false,
    Bool.or_self, Bool.false_eq_true, if_false, String.ofList_toList]
  rfl

end Path

/-! ## Files of a service -/

namespace Service

/-- The files of a service, in the order in which they are written. -/
def fileIds (s : Service) : List FileId :=
  [s.interfaceFile, s.descriptorFile, s.clientFile, s.providerFile]

def paths (output : Path) (s : Service) : List Path := s.fileIds.map (outputFile output)

theorem files_perm (s : Service) : (s.files.map (·.2)).Perm s.fileIds := by
  simp only [files, fileIds, List.map_cons, List.map_nil]
  generalize s.interfaceFile = i, s.clientFile = c, s.providerFile = p, s.descriptorFile = d
  exact (List.perm_append_comm : ([c, p] ++ [d]).Perm ([d] ++ [c, p])).cons i

end Service

theorem clientFile_package (s : Service) : s.clientFile.package = s.package := by
  unfold Service.clientFile
  simp only
  split <;> rfl

theorem pathSafe_clientFile (s : Service) :
    ∀ c ∈ s.clientFile.module.toList, Text.PathSafe c := by
  unfold Service.clientFile
  simp only
  split
  · intro c hc
    rw [String.toList_append, List.mem_append] at hc
    rcases hc with hc | hc
    · exact Text.pathSafe_snakeCase _ c hc
    · have hsafe : ∀ c ∈ ['_', 'c', 'l', 'i', 'e', 'n', 't'], Text.PathSafe c := by
        simp [Text.PathSafe]
      exact hsafe c (by simpa using hc)
  · exact Text.pathSafe_snakeCase _

theorem fileIds_safe (s : Service) (file : FileId) (h : file ∈ s.fileIds) :
    file.package = s.package ∧ ∀ c ∈ file.module.toList, Text.PathSafe c := by
  simp only [Service.fileIds, List.mem_cons, List.not_mem_nil, or_false] at h
  rcases h with h | h | h | h
  · rw [h]
    exact ⟨rfl, Text.pathSafe_snakeCase _⟩
  · rw [h]
    exact ⟨rfl, Text.pathSafe_snakeCase _⟩
  · rw [h]
    exact ⟨clientFile_package s, pathSafe_clientFile s⟩
  · rw [h]
    exact ⟨rfl, Text.pathSafe_snakeCase _⟩

theorem outputFile_samePlace (output : Path) (s : Service) (f g : FileId) (hf : f ∈ s.fileIds)
    (hg : g ∈ s.fileIds) (h : (outputFile output f).SamePlace (outputFile output g)) :
    f.module = g.module := by
  obtain ⟨hfp, hfm⟩ := fileIds_safe s f hf
  obtain ⟨hgp, hgm⟩ := fileIds_safe s g hg
  rw [Path.SamePlace, outputFile, outputFile, Path.components_join_file _ _ hfm,
    Path.components_join_file _ _ hgm, hfp, hgp] at h
  have hname := List.append_cancel_left h
  simp only [List.cons.injEq, Component.name.injEq, and_true] at hname
  exact String.append_left_inj _ |>.mp hname

theorem paths_pairwise {d : Declaration} {s : Service} (h : Built d s) (output : Path) :
    (s.paths output).Pairwise (fun p q => ¬ p.SamePlace q) := by
  have hmodules : s.fileIds.Pairwise (fun f g => f.module ≠ g.module) := by
    refine (s.files_perm.pairwise_iff (fun hne heq => hne heq.symm)).mp ?_
    rw [List.pairwise_map]
    exact List.pairwise_map.mp h.modules_nodup
  refine List.pairwise_map.mpr (hmodules.imp_of_mem ?_)
  intro f g hf hg hne hsame
  exact hne (outputFile_samePlace output s f g hf hg hsame)

end RpcStubs
