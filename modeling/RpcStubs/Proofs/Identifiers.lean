import Mathlib
import RpcStubs.Idl.File

/-!
# Identifiers in a file

Every identifier among the token trees of a file is a word: it is read as one identifier wherever it
stands, as long as no character follows that would go on with it.
-/

namespace RpcStubs.Idl

open Text (isIdentStart isIdentContinue)

/-! ## Words -/

/-- An identifier as it is written, with or without the mark of a raw one. -/
inductive IsWord : List Char → Prop
  | plain {c : Char} {cs : List Char} (hc : isIdentStart c = true)
      (hcs : ∀ d ∈ cs, isIdentContinue d = true) : IsWord (c :: cs)
  | raw {c : Char} {cs : List Char} (hc : isIdentStart c = true)
      (hcs : ∀ d ∈ cs, isIdentContinue d = true)
      (hname : String.ofList (c :: cs) ∉ ["_", "super", "self", "Self", "crate"]) :
      IsWord ('r' :: '#' :: c :: cs)

/-- No character here goes on with a word, makes it the mark of a raw one or the letter of a
literal. -/
def EndsWord (rest : List Char) : Prop :=
  ∀ c ∈ rest.head?, isIdentContinue c = false ∧ c ≠ '#' ∧ c ≠ '"' ∧ c ≠ '\''

theorem ne_of_isIdentStart {c d : Char} (hc : isIdentStart c = true)
    (hd : isIdentStart d = false) : c ≠ d := by
  rintro rfl
  simp [hd] at hc

theorem ne_of_isIdentContinue {c d : Char} (hc : isIdentContinue c = true)
    (hd : isIdentContinue d = false) : c ≠ d := by
  rintro rfl
  simp [hd] at hc

theorem readWord_eq_some {cs w rest : List Char} (h : readWord cs = some (w, rest)) :
    ∃ c tail, w = c :: tail ∧ isIdentStart c = true ∧
      (∀ d ∈ tail, isIdentContinue d = true) ∧ cs = w ++ rest := by
  unfold readWord at h
  split at h
  · cases h
  · rename_i c cs
    split at h
    · rename_i hc
      cases h
      refine ⟨c, _, rfl, hc, fun d hd => List.mem_takeWhile_imp hd, ?_⟩
      simp
    · cases h

theorem readIdent_eq_some {cs w rest : List Char} (h : readIdent cs = some (w, rest)) :
    IsWord w ∧ cs = w ++ rest := by
  unfold readIdent at h
  split at h
  · split at h
    · rename_i hword
      split at h
      · cases h
      · rename_i hname
        cases h
        obtain ⟨c, tail, rfl, hc, htail, rfl⟩ := readWord_eq_some hword
        exact ⟨.raw hc htail (by simpa using hname), rfl⟩
    · cases h
  · obtain ⟨c, tail, rfl, hc, htail, rfl⟩ := readWord_eq_some h
    exact ⟨.plain hc htail, rfl⟩

theorem takeWhile_word {cs rest : List Char} (hcs : ∀ d ∈ cs, isIdentContinue d = true)
    (hrest : EndsWord rest) :
    (cs ++ rest).takeWhile isIdentContinue = cs ∧
      (cs ++ rest).dropWhile isIdentContinue = rest := by
  rw [List.takeWhile_append_of_pos hcs, List.dropWhile_append_of_pos hcs]
  cases rest with
  | nil => simp
  | cons c rest =>
    have hc := (hrest c rfl).1
    simp [hc]

theorem readWord_append {c : Char} {cs rest : List Char} (hc : isIdentStart c = true)
    (hcs : ∀ d ∈ cs, isIdentContinue d = true) (hrest : EndsWord rest) :
    readWord (c :: cs ++ rest) = some (c :: cs, rest) := by
  obtain ⟨htake, hdrop⟩ := takeWhile_word hcs hrest
  unfold readWord
  simp only [List.cons_append, hc, if_true, htake, hdrop]

theorem head?_ne_pound {cs rest : List Char} (hcs : ∀ d ∈ cs, isIdentContinue d = true)
    (hrest : EndsWord rest) : (cs ++ rest).head? ≠ some '#' := by
  cases cs with
  | nil =>
    intro h
    exact (hrest '#' h).2.1 rfl
  | cons d cs =>
    have hd := ne_of_isIdentContinue (hcs d List.mem_cons_self) (d := '#') (by decide)
    simpa using hd

theorem readIdent_append {w rest : List Char} (hw : IsWord w) (hrest : EndsWord rest) :
    readIdent (w ++ rest) = some (w, rest) := by
  cases hw with
  | @plain c cs hc hcs =>
    have hread := readWord_append hc hcs hrest
    have hpound := head?_ne_pound hcs hrest
    unfold readIdent
    split
    · rename_i heq
      have htail : cs ++ rest = '#' :: _ := (List.cons.inj heq).2
      simp [htail, -List.head?_append] at hpound
    · exact hread
  | @raw c cs hc hcs hname =>
    have hread := readWord_append hc hcs hrest
    unfold readIdent
    simp only [List.cons_append] at hread ⊢
    simp only [hread]
    rw [if_neg]
    simpa using hname

theorem IsWord.ne_nil {w : List Char} (hw : IsWord w) : w ≠ [] := by
  cases hw <;> simp

theorem IsWord.colon_not_mem {w : List Char} (hw : IsWord w) : ':' ∉ w := by
  have hcolon : ∀ {c : Char} {cs : List Char}, isIdentStart c = true →
      (∀ d ∈ cs, isIdentContinue d = true) → ':' ∉ c :: cs := by
    intro c cs hc hcs hmem
    rcases List.mem_cons.mp hmem with rfl | hmem
    · exact absurd hc (by decide)
    · exact absurd (hcs _ hmem) (by decide)
  cases hw with
  | plain hc hcs => exact hcolon hc hcs
  | raw hc hcs =>
    intro hmem
    simp only [List.mem_cons, Char.reduceEq, false_or] at hmem
    exact hcolon hc hcs (List.mem_cons.mpr hmem)

/-! ## Token trees -/

mutual

def TokenTree.Lexical : TokenTree → Prop
  | .ident text => IsWord text.toList
  | .group _ trees => AllLexical trees
  | _ => True

def AllLexical : List TokenTree → Prop
  | [] => True
  | t :: ts => t.Lexical ∧ AllLexical ts

end

theorem allLexical_iff {ts : List TokenTree} : AllLexical ts ↔ ∀ t ∈ ts, t.Lexical := by
  induction ts with
  | nil => simp [AllLexical]
  | cons t ts ih => rw [AllLexical, ih, List.forall_mem_cons]

def Lexeme.Lexical : Lexeme → Prop
  | .tree t => t.Lexical
  | _ => True

theorem readLeaf_lexical {cs rest : List Char} {t : TokenTree}
    (h : readLeaf cs = some (t, rest)) : t.Lexical := by
  unfold readLeaf at h
  split at h
  · cases h
    trivial
  · split at h
    · rename_i hpunct
      cases h
      unfold readPunct at hpunct
      repeat' split at hpunct
      all_goals cases hpunct
      all_goals trivial
    · split at h
      · cases h
      · obtain ⟨⟨w, rest⟩, hread, heq⟩ := Option.map_eq_some_iff.mp h
        cases heq
        simpa [TokenTree.Lexical] using (readIdent_eq_some hread).1

theorem docTrees_lexical (inner : Bool) (text : List Char) :
    ∀ t ∈ docTrees inner text, t.Lexical := by
  have hdoc : IsWord ['d', 'o', 'c'] := by
    refine .plain (by decide) ?_
    intro d hd
    rcases List.mem_pair.mp hd with rfl | rfl <;> decide
  cases inner <;> simp [docTrees, TokenTree.Lexical, AllLexical, hdoc]

theorem readLexemes_lexical {cs rest : List Char} {found : List Lexeme}
    (h : readLexemes cs = some (found, rest)) : ∀ l ∈ found, l.Lexical := by
  unfold readLexemes at h
  split at h
  · cases h
    simp
  · split at h
    · rename_i inner text _ _
      split at h
      · cases h
        simpa [Lexeme.Lexical] using docTrees_lexical inner text
      · cases h
    · split at h
      · cases h
      · split at h
        · rename_i hdelim
          cases h
          unfold delimiterLexeme? at hdelim
          repeat' split at hdelim
          all_goals cases hdelim
          all_goals simp [Lexeme.Lexical]
        · obtain ⟨⟨t, rest⟩, hread, heq⟩ := Option.map_eq_some_iff.mp h
          cases heq
          simpa [Lexeme.Lexical] using readLeaf_lexical hread

theorem lexemes_lexical {fuel : Nat} {cs : List Char} {ls : List Lexeme}
    (h : lexemes fuel cs = some ls) : ∀ l ∈ ls, l.Lexical := by
  induction fuel generalizing cs ls with
  | zero =>
    cases cs with
    | nil =>
      cases h
      simp
    | cons c cs => cases h
  | succ fuel ih =>
    cases cs with
    | nil =>
      cases h
      simp
    | cons c cs =>
      unfold lexemes at h
      split at h
      · cases h
      · rename_i hread
        obtain ⟨later, hlater, rfl⟩ := Option.map_eq_some_iff.mp h
        intro l hl
        rcases List.mem_append.mp hl with hl | hl
        · exact readLexemes_lexical hread l hl
        · exact ih hlater l hl

theorem nest_lexical {ls : List Lexeme} {outer : List (Delimiter × List TokenTree)}
    {trees ts : List TokenTree} (hls : ∀ l ∈ ls, l.Lexical)
    (houter : ∀ o ∈ outer, ∀ t ∈ o.2, t.Lexical) (htrees : ∀ t ∈ trees, t.Lexical)
    (h : nest outer trees ls = some ts) : ∀ t ∈ ts, t.Lexical := by
  -- Kept for the trees of all groups that are still open.
  induction ls generalizing outer trees with
  | nil =>
    unfold nest at h
    split at h
    · cases h
      simpa using htrees
    · cases h
  | cons l ls ih =>
    obtain ⟨hl, hlater⟩ := List.forall_mem_cons.mp hls
    cases l with
    | tree t => exact ih hlater houter (List.forall_mem_cons.mpr ⟨hl, htrees⟩) h
    | opening d => exact ih hlater (List.forall_mem_cons.mpr ⟨htrees, houter⟩) (by simp) h
    | closing d =>
      cases outer with
      | nil => cases h
      | cons o outer =>
        obtain ⟨hbefore, houts⟩ := List.forall_mem_cons.mp houter
        simp only [nest] at h
        split at h
        · refine ih hlater houts (List.forall_mem_cons.mpr ⟨?_, hbefore⟩) h
          rw [TokenTree.Lexical, allLexical_iff]
          simpa using htrees
        · cases h

/-- The identifiers of a file are words. -/
theorem fileTrees_lexical {source : String} {file : List TokenTree}
    (h : fileTrees source = some file) : AllLexical file := by
  unfold fileTrees tokenTrees at h
  obtain ⟨ls, hls, hnest⟩ := Option.bind_eq_some_iff.mp h
  rw [allLexical_iff]
  exact nest_lexical (lexemes_lexical hls) (by simp) (by simp) hnest

/-! ## Places -/

/-- What follows a place in a file, up to the end of the file or of the group that the place is
in. -/
inductive Within (file : List TokenTree) : List TokenTree → Prop
  | all : Within file file
  | next {t : TokenTree} {ts : List TokenTree} : Within file (t :: ts) → Within file ts
  | inside {d : Delimiter} {us ts : List TokenTree} :
      Within file (.group d us :: ts) → Within file us

theorem Within.suffix {file ts us : List TokenTree} (h : Within file ts) (hus : us <:+ ts) :
    Within file us := by
  obtain ⟨front, rfl⟩ := hus
  induction front with
  | nil => exact h
  | cons t front ih => exact ih h.next

theorem Within.lexical {file ts : List TokenTree} (hfile : AllLexical file) (h : Within file ts) :
    AllLexical ts := by
  induction h with
  | all => exact hfile
  | next _ ih => exact ih.2
  | inside _ ih => exact ih.1

theorem Within.isWord {file ts : List TokenTree} {w : String} (hfile : AllLexical file)
    (h : Within file (.ident w :: ts)) : IsWord w.toList :=
  (h.lexical hfile).1

end RpcStubs.Idl
