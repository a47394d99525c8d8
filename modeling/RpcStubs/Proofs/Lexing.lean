import RpcStubs.Proofs.Identifiers

/-!
# Lexemes of a text

A text is cut into lexemes from left to right. Each lemma here is about what stands first in a text,
and leaves the rest open.
-/

namespace RpcStubs.Idl

open Text (isIdentStart isIdentContinue)

/-! ## Texts and their lexemes -/

/-- The text is cut into these lexemes, as long as the fuel lasts. -/
def Lexes (cs : List Char) (ls : List Lexeme) : Prop :=
  ∀ fuel, cs.length < fuel → lexemes fuel cs = some ls

theorem lexes_nil : Lexes [] [] := by
  intro fuel _
  cases fuel <;> rfl

theorem Lexes.step {cs rest : List Char} {found ls : List Lexeme}
    (hread : readLexemes cs = some (found, rest)) (hlen : rest.length < cs.length)
    (hrest : Lexes rest ls) : Lexes cs (found ++ ls) := by
  intro fuel hfuel
  cases cs with
  | nil => simp at hlen
  | cons c cs =>
    cases fuel with
    | zero => omega
    | succ fuel =>
      have hlater := hrest fuel (by omega)
      simp only [lexemes, hread, hlater, Option.map_some]

theorem tokenTrees_of_lexes {cs : List Char} {ls : List Lexeme} (h : Lexes cs ls) :
    tokenTrees cs = nest [] [] ls := by
  unfold tokenTrees
  rw [h (cs.length + 1) (by omega)]
  rfl

/-- The lexemes are those of a list of trees, wherever they stand. -/
def Nests (ls : List Lexeme) (ts : List TokenTree) : Prop :=
  ∀ outer trees later, nest outer trees (ls ++ later) = nest outer (ts.reverse ++ trees) later

theorem nests_nil : Nests [] [] := fun _ _ _ => rfl

theorem Nests.append {ls ms : List Lexeme} {ts us : List TokenTree} (hls : Nests ls ts)
    (hms : Nests ms us) : Nests (ls ++ ms) (ts ++ us) := by
  intro outer trees later
  rw [List.append_assoc, hls, hms]
  simp

theorem nests_tree (t : TokenTree) : Nests [.tree t] [t] := fun _ _ _ => rfl

theorem Nests.group {ls : List Lexeme} {ts : List TokenTree} (h : Nests ls ts) (d : Delimiter) :
    Nests (.opening d :: ls ++ [.closing d]) [.group d ts] := by
  intro outer trees later
  have hinside := h ((d, trees) :: outer) [] (.closing d :: later)
  simp only [List.cons_append, List.append_assoc, List.nil_append, nest] at hinside ⊢
  rw [hinside]
  simp

theorem Nests.tokenTrees {cs : List Char} {ls : List Lexeme} {ts : List TokenTree}
    (h : Nests ls ts) (hlex : Lexes cs ls) : tokenTrees cs = some ts := by
  have hnest := h [] [] []
  rw [tokenTrees_of_lexes hlex, ← List.append_nil ls, hnest]
  simp [nest]

/-- In front of `rest`, the text is cut into the lexemes of the trees. -/
def LexesAs (cs rest : List Char) (ts : List TokenTree) : Prop :=
  ∃ ls, Nests ls ts ∧ ∀ later, Lexes rest later → Lexes (cs ++ rest) (ls ++ later)

theorem lexesAs_nil (rest : List Char) : LexesAs [] rest [] := ⟨[], nests_nil, fun _ h => h⟩

theorem LexesAs.append {cs ds rest : List Char} {ts us : List TokenTree}
    (hcs : LexesAs cs (ds ++ rest) ts) (hds : LexesAs ds rest us) :
    LexesAs (cs ++ ds) rest (ts ++ us) := by
  obtain ⟨ls, hls, hcs⟩ := hcs
  obtain ⟨ms, hms, hds⟩ := hds
  refine ⟨ls ++ ms, hls.append hms, ?_⟩
  intro later hlater
  rw [List.append_assoc, List.append_assoc]
  exact hcs _ (hds later hlater)

theorem LexesAs.tokenTrees {cs : List Char} {ts : List TokenTree} (h : LexesAs cs [] ts) :
    tokenTrees cs = some ts := by
  obtain ⟨ls, hls, hcs⟩ := h
  have hlex := hcs [] lexes_nil
  rw [List.append_nil, List.append_nil] at hlex
  exact hls.tokenTrees hlex

/-! ## Blanks and delimiters -/

theorem dropBlank?_of_ne {c : Char} (hc : c ≠ '/') (cs : List Char) :
    dropBlank? (c :: cs) = if isSpace c then some cs else none := by
  unfold dropBlank?
  split <;> simp_all

theorem readDoc?_of_ne {c : Char} (hc : c ≠ '/') (cs : List Char) :
    readDoc? (c :: cs) = none := by
  unfold readDoc?
  split <;> simp_all

theorem Lexes.blank {c : Char} {cs : List Char} {ls : List Lexeme} (hc : isSpace c = true)
    (h : Lexes cs ls) : Lexes (c :: cs) ls := by
  have hne : c ≠ '/' := by
    rintro rfl
    exact absurd hc (by decide)
  have hread : readLexemes (c :: cs) = some ([], cs) := by
    simp [readLexemes, dropBlank?_of_ne hne, hc]
  exact Lexes.step hread (by simp) h

theorem readLexemes_of_ne {c : Char} (hc : c ≠ '/') (hspace : isSpace c = false)
    (cs : List Char) : readLexemes (c :: cs) =
      match delimiterLexeme? c with
      | some lexeme => some ([lexeme], cs)
      | none => (readLeaf (c :: cs)).map (fun found => ([.tree found.1], found.2)) := by
  simp only [readLexemes, dropBlank?_of_ne hc, hspace, readDoc?_of_ne hc]
  rfl

theorem Lexes.delimiter {c : Char} {lexeme : Lexeme} {cs : List Char} {ls : List Lexeme}
    (hc : delimiterLexeme? c = some lexeme) (h : Lexes cs ls) : Lexes (c :: cs) (lexeme :: ls) := by
  have hplain : c ≠ '/' ∧ isSpace c = false := by
    unfold delimiterLexeme? at hc
    split_ifs at hc <;> subst_vars <;> decide
  have hread : readLexemes (c :: cs) = some ([lexeme], cs) := by
    rw [readLexemes_of_ne hplain.1 hplain.2, hc]
  exact Lexes.step hread (by simp) h

theorem lexesAs_blank {c : Char} (hc : isSpace c = true) (rest : List Char) :
    LexesAs [c] rest [] :=
  ⟨[], nests_nil, fun _ h => h.blank hc⟩

theorem lexesAs_parens (rest : List Char) : LexesAs ['(', ')'] rest [.group .paren []] :=
  ⟨[.opening .paren, .closing .paren], nests_nil.group .paren, fun _ h =>
    (h.delimiter rfl).delimiter rfl⟩

/-! ## Punctuation -/

def typeMarks : List Char := ['<', '>', ',', ':']

theorem readLeaf_mark {c : Char} (hc : c ∈ typeMarks) (cs : List Char) :
    readLeaf (c :: cs) = some (.punct c (startsPunct cs), cs) := by
  have hliteral : readLiteral (c :: cs) = none := by
    simp only [typeMarks, List.mem_cons, List.not_mem_nil, or_false] at hc
    rcases hc with rfl | rfl | rfl | rfl <;> rfl
  have hpunct : readPunct (c :: cs) = some (.punct c (startsPunct cs), cs) := by
    simp only [typeMarks, List.mem_cons, List.not_mem_nil, or_false] at hc
    rcases hc with rfl | rfl | rfl | rfl <;> rfl
  simp [readLeaf, hliteral, hpunct]

theorem Lexes.punct {c : Char} {cs : List Char} {ls : List Lexeme} (hc : c ∈ typeMarks)
    (h : Lexes cs ls) : Lexes (c :: cs) (.tree (.punct c (startsPunct cs)) :: ls) := by
  have hplain : c ≠ '/' ∧ isSpace c = false ∧ delimiterLexeme? c = none := by
    simp only [typeMarks, List.mem_cons, List.not_mem_nil, or_false] at hc
    rcases hc with rfl | rfl | rfl | rfl <;> exact ⟨by decide, by decide, rfl⟩
  have hread : readLexemes (c :: cs) = some ([.tree (.punct c (startsPunct cs))], cs) := by
    obtain ⟨hslash, hspace, hdelim⟩ := hplain
    simp [readLexemes_of_ne hslash hspace, hdelim, readLeaf_mark hc]
  exact Lexes.step hread (by simp) h

theorem lexesAs_punct {c : Char} (hc : c ∈ typeMarks) (rest : List Char) :
    LexesAs [c] rest [.punct c (startsPunct rest)] :=
  ⟨[_], nests_tree _, fun _ h => h.punct hc⟩

theorem LexesAs.mark {c : Char} {cs rest : List Char} {ts : List TokenTree}
    (h : LexesAs cs rest ts) (hc : c ∈ typeMarks) :
    ∃ joint, LexesAs (c :: cs) rest (.punct c joint :: ts) :=
  ⟨_, (lexesAs_punct hc (cs ++ rest)).append h⟩

theorem endsWord_mark {c : Char} (hc : c ∈ typeMarks) (cs : List Char) : EndsWord (c :: cs) := by
  rintro _ ⟨⟩
  simp only [typeMarks, List.mem_cons, List.not_mem_nil, or_false] at hc
  rcases hc with rfl | rfl | rfl | rfl <;> decide

/-! ## Words -/

theorem exists_of_inRanges {ranges : List (Nat × Nat)} {n : Nat}
    (h : Text.inRanges ranges n = true) : ∃ r ∈ ranges, r.1 ≤ n ∧ n ≤ r.2 := by
  induction ranges with
  | nil => cases h
  | cons r ranges ih =>
    simp only [Text.inRanges] at h
    split at h
    · cases h
    · split at h
      · exact ⟨r, List.mem_cons_self, by omega, by omega⟩
      · obtain ⟨r', hr', hn⟩ := ih h
        exact ⟨r', List.mem_cons_of_mem _ hr', hn⟩

theorem identStart_blank : ∀ r ∈ Text.blankRanges, ∀ k < r.2 - r.1 + 1,
    Text.inRanges Text.identStartRanges (r.1 + k) = false := by decide +kernel

theorem isSpace_of_isIdentStart {c : Char} (hc : isIdentStart c = true) : isSpace c = false := by
  by_contra hspace
  simp only [isSpace, Bool.not_eq_false, Bool.or_eq_true, beq_iff_eq] at hspace
  have hunderscore : c ≠ '_' := by
    rintro rfl
    exact absurd hspace (by decide)
  have hrange : Text.inRanges Text.identStartRanges c.toNat = true := by
    simpa [isIdentStart, hunderscore] using hc
  rcases hspace with (hblank | hmark) | hmark
  · obtain ⟨r, hr, hlo, hhi⟩ := exists_of_inRanges hblank
    have hnot := identStart_blank r hr (c.toNat - r.1) (by omega)
    rw [Nat.add_sub_cancel' hlo, hrange] at hnot
    cases hnot
  · rw [hmark] at hrange
    exact absurd hrange (by decide +kernel)
  · rw [hmark] at hrange
    exact absurd hrange (by decide +kernel)

/-- What follows the first character of a word is no quote and no number sign. -/
def Unquoted (cs : List Char) : Prop := ∀ c ∈ cs.head?, c ≠ '#' ∧ c ≠ '"' ∧ c ≠ '\''

theorem unquoted_append {cs rest : List Char} (hcs : ∀ d ∈ cs, isIdentContinue d = true)
    (hrest : EndsWord rest) : Unquoted (cs ++ rest) := by
  cases cs with
  | nil => exact fun c hc => (hrest c hc).2
  | cons d cs =>
    rintro _ ⟨⟩
    have hd := hcs d List.mem_cons_self
    exact ⟨ne_of_isIdentContinue hd (by decide), ne_of_isIdentContinue hd (by decide),
      ne_of_isIdentContinue hd (by decide)⟩

theorem unquoted_of_append_eq_cons {cs rest tail : List Char} {d : Char}
    (hcs : ∀ d ∈ cs, isIdentContinue d = true) (hrest : EndsWord rest)
    (htail : cs ++ rest = d :: tail) (hd : isIdentContinue d = true) : Unquoted tail := by
  cases cs with
  | nil =>
    have hend := (hrest d (by rw [List.nil_append] at htail; rw [htail]; rfl)).1
    rw [hd] at hend
    cases hend
  | cons e cs =>
    obtain ⟨-, rfl⟩ := List.cons.inj htail
    exact unquoted_append (fun e he => hcs e (List.mem_cons_of_mem _ he)) hrest

theorem readRawString_of_unquoted {cs : List Char} (h : Unquoted cs) (r : StringRules) :
    readRawString r cs = none := by
  cases cs with
  | nil => rfl
  | cons c cs =>
    obtain ⟨hpound, hquote, -⟩ := h c rfl
    simp [readRawString, hpound, hquote]

theorem not_isDecimal_of_isIdentStart {c : Char} (hc : isIdentStart c = true) :
    isDecimal c = false := by
  by_contra hdecimal
  simp only [isDecimal, Bool.not_eq_false, Bool.and_eq_true, decide_eq_true_eq, Char.le_def,
    UInt32.le_iff_toNat_le] at hdecimal
  have hcode : c.toNat < 0x3a := Nat.lt_succ_of_le hdecimal.2
  have hunderscore : c ≠ '_' := by
    rintro rfl
    exact absurd hcode (by decide)
  have hrange : Text.inRanges Text.identStartRanges c.toNat = true := by
    simpa [isIdentStart, hunderscore] using hc
  obtain ⟨r, hr, hlo, -⟩ := exists_of_inRanges hrange
  have hleast : ∀ r ∈ Text.identStartRanges, 0x41 ≤ r.1 := by decide +kernel
  have := hleast r hr
  omega

theorem readFloat_of_isIdentStart {c : Char} (hc : isIdentStart c = true) (cs : List Char) :
    readFloat (c :: cs) = none := by
  simp [readFloat, readFloatDigits, not_isDecimal_of_isIdentStart hc]

theorem not_lt_of_hexValue? {c : Char} {d : Nat} (hc : isDecimal c = false)
    (h : hexValue? c = some d) : ¬ d < 10 := by
  have hdigit : ¬ ('0' ≤ c ∧ c ≤ '9') := by simpa [isDecimal] using hc
  unfold hexValue? at h
  rw [if_neg hdigit] at h
  split at h
  · rename_i hletter
    have hle : 'a'.toNat ≤ c.toNat := hletter.1
    cases h
    omega
  · split at h
    · rename_i hletter
      have hle : 'A'.toNat ≤ c.toNat := hletter.1
      cases h
      omega
    · cases h

theorem readInt_of_isIdentStart {c : Char} (hc : isIdentStart c = true) (cs : List Char) :
    readInt (c :: cs) = none := by
  have hdecimal := not_isDecimal_of_isIdentStart hc
  have hzero : c ≠ '0' := by
    rintro rfl
    exact absurd hdecimal (by decide)
  have hdigits : ∀ rest, readDigits 10 false (c :: cs) ≠ some (true, rest) := by
    intro rest h
    simp only [readDigits] at h
    split at h
    · simp at h
    · split at h
      · rename_i d hd
        simp [not_lt_of_hexValue? hdecimal hd, hdecimal] at h
      · simp at h
  unfold readInt
  split
  rename_i base digits heq
  have hplain : base = 10 ∧ digits = c :: cs := by
    split at heq <;> simp_all
  obtain ⟨rfl, rfl⟩ := hplain
  split
  · rename_i rest hread
    exact absurd hread (hdigits rest)
  · rfl

theorem readLiteral_word {w rest : List Char} (hw : IsWord w) (hrest : EndsWord rest) :
    readLiteral (w ++ rest) = none := by
  cases hw with
  | @plain c cs hc hcs =>
    have hnext := unquoted_append hcs hrest
    have hquote : c ≠ '"' := ne_of_isIdentStart hc (by decide)
    have hapostrophe : c ≠ '\'' := ne_of_isIdentStart hc (by decide)
    have hraw : ∀ tail r, cs ++ rest = 'r' :: tail → readRawString r tail = none := by
      intro tail r htail
      exact readRawString_of_unquoted (unquoted_of_append_eq_cons hcs hrest htail (by decide)) r
    -- A literal begins with a quote or a digit, or with letters before a quote or a number sign.
    unfold readLiteral
    simp only [List.cons_append]
    split
    · simp_all
    · rename_i heq
      obtain ⟨-, rfl⟩ := List.cons.inj heq
      simp [readRawString_of_unquoted hnext]
    · rename_i heq
      obtain ⟨-, htail⟩ := List.cons.inj heq
      simpa using (hnext '"' (by rw [htail]; rfl)).2.1
    · rename_i heq
      obtain ⟨-, htail⟩ := List.cons.inj heq
      simp [hraw _ _ htail]
    · rename_i heq
      obtain ⟨-, htail⟩ := List.cons.inj heq
      simpa using (hnext '"' (by rw [htail]; rfl)).2.1
    · rename_i heq
      obtain ⟨-, htail⟩ := List.cons.inj heq
      simp [hraw _ _ htail]
    · rename_i heq
      obtain ⟨-, htail⟩ := List.cons.inj heq
      simpa using (hnext '\'' (by rw [htail]; rfl)).2.2
    · simp_all
    · simp [readFloat_of_isIdentStart hc, readInt_of_isIdentStart hc]
  | @raw c cs hc hcs hname =>
    have hquote : c ≠ '"' := ne_of_isIdentStart hc (by decide)
    have hpound : c ≠ '#' := ne_of_isIdentStart hc (by decide)
    simp [readLiteral, readRawString, hquote, hpound]

theorem startsPunct_of_isIdentStart {c : Char} (hc : isIdentStart c = true) (cs : List Char) :
    startsPunct (c :: cs) = false := by
  have hslash : c ≠ '/' := ne_of_isIdentStart hc (by decide)
  have hmarks : "~!@#$%^&*-=+|;:,<.>/?'".toList.all (!isIdentStart ·) = true := by
    decide +kernel
  have hpunct : isPunctChar c = false := by
    by_contra h
    simp only [isPunctChar, Bool.not_eq_false, List.contains_iff_mem] at h
    simpa [hc] using List.all_eq_true.1 hmarks c h
  unfold startsPunct
  split <;> simp_all

theorem startsString_word {w rest : List Char} (hw : IsWord w) (hrest : EndsWord rest) :
    startsString (w ++ rest) = false := by
  cases hw with
  | @plain c cs hc hcs =>
    have hnext := unquoted_append hcs hrest
    have hsecond : ∀ d tail, cs ++ rest = d :: tail → isIdentContinue d = true →
        Unquoted tail := fun d tail => unquoted_of_append_eq_cons hcs hrest
    rw [List.cons_append]
    generalize cs ++ rest = next at hnext hsecond ⊢
    cases next with
    | nil => simp [startsString, List.isPrefixOf]
    | cons d tail =>
      obtain ⟨hpound, hquote, hapostrophe⟩ := hnext d rfl
      have hraw : d = 'r' → Unquoted tail := by
        rintro rfl
        exact hsecond 'r' tail rfl (by decide)
      cases tail with
      | nil =>
        simp [startsString, List.isPrefixOf, hquote.symm, hapostrophe.symm]
      | cons e tail =>
        -- With an `r` in the second place, a third character could still begin a string.
        by_cases hr : d = 'r'
        · obtain ⟨hpound', hquote', -⟩ := hraw hr e rfl
          simp [startsString, List.isPrefixOf, hpound.symm, hquote.symm, hapostrophe.symm,
            hpound'.symm, hquote'.symm]
        · simp [startsString, List.isPrefixOf, hpound.symm, hquote.symm, hapostrophe.symm,
            Ne.symm hr]
  | @raw c cs hc hcs hname =>
    have hquote : c ≠ '"' := ne_of_isIdentStart hc (by decide)
    have hpound : c ≠ '#' := ne_of_isIdentStart hc (by decide)
    simp [startsString, List.isPrefixOf, hquote.symm, hpound.symm]

theorem delimiterLexeme?_of_isIdentStart {c : Char} (hc : isIdentStart c = true) :
    delimiterLexeme? c = none := by
  unfold delimiterLexeme?
  repeat rw [if_neg (ne_of_isIdentStart hc (by decide))]

theorem IsWord.exists_cons {w : List Char} (hw : IsWord w) :
    ∃ c cs, w = c :: cs ∧ isIdentStart c = true := by
  cases hw with
  | plain hc hcs => exact ⟨_, _, rfl, hc⟩
  | raw hc hcs hname => exact ⟨_, _, rfl, by decide⟩

theorem Lexes.word {w rest : List Char} {ls : List Lexeme} (hw : IsWord w)
    (hrest : EndsWord rest) (h : Lexes rest ls) :
    Lexes (w ++ rest) (.tree (.ident (String.ofList w)) :: ls) := by
  obtain ⟨c, cs, hcons, hc⟩ := hw.exists_cons
  have hleaf : readLeaf (w ++ rest) = some (.ident (String.ofList w), rest) := by
    have hpunct : readPunct (w ++ rest) = none := by
      simp [hcons, readPunct, startsPunct_of_isIdentStart hc]
    simp [readLeaf, readLiteral_word hw hrest, hpunct, startsString_word hw hrest,
      readIdent_append hw hrest]
  have hread : readLexemes (w ++ rest) = some ([.tree (.ident (String.ofList w))], rest) := by
    have hslash : c ≠ '/' := ne_of_isIdentStart hc (by decide)
    rw [hcons, List.cons_append] at hleaf ⊢
    rw [readLexemes_of_ne hslash (isSpace_of_isIdentStart hc),
      delimiterLexeme?_of_isIdentStart hc, hleaf]
    rfl
  refine Lexes.step hread ?_ h
  rw [hcons]
  simp

theorem lexesAs_word {w : String} {rest : List Char} (hw : IsWord w.toList)
    (hrest : EndsWord rest) : LexesAs w.toList rest [.ident w] := by
  refine ⟨[.tree (.ident w)], nests_tree _, fun later h => ?_⟩
  have := h.word hw hrest
  rwa [String.ofList_toList] at this

theorem startsPunct_word {w : List Char} (hw : IsWord w) (rest : List Char) :
    startsPunct (w ++ rest) = false := by
  obtain ⟨c, cs, rfl, hc⟩ := hw.exists_cons
  exact startsPunct_of_isIdentStart hc _

end RpcStubs.Idl
