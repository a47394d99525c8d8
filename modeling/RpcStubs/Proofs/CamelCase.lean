import RpcStubs.Proofs.CaseTables
import RpcStubs.Service.Request

/-!
# Names that are capitalized already

Capitalized words are joined by nothing, so where they meet is found again by their case
alone. A name is left as it is exactly if every boundary of its words can be found so. Two
words of one letter each meet without one: `a_b` becomes `AB`, which becomes `Ab`.
-/

namespace RpcStubs.Text

/-! ## Camel case -/

def lastCase (cs : List Char) : CaseMode := cs.foldl CaseMode.next .boundary

/-- Does `c` begin a word, between what is `before` and what is `after` it? -/
def BeginsWord (before : List Char) (c : Char) (after : List Char) : Prop :=
  before = [] ∨ isUppercase c = true ∧ (lastCase before = .lower ∨
    lastCase before = .upper ∧ ∃ d rest, after = d :: rest ∧ isLowercase d = true)

/-- One piece, in upper case where a word begins and in lower case elsewhere. -/
structure CamelCase (cs : List Char) : Prop where
  alphanumeric : ∀ c ∈ cs, isAlphanumeric c = true
  upper : ∀ before c after, cs = before ++ c :: after → BeginsWord before c after →
    toUpper c = [c]
  lower : ∀ before c after, cs = before ++ c :: after → ¬ BeginsWord before c after →
    toLower c = [c]

def InCamelCase (before : List Char) (c : Char) (after : List Char) : Prop :=
  (BeginsWord before c after → toUpper c = [c]) ∧ (¬ BeginsWord before c after → toLower c = [c])

def CamelFrom (before : List Char) : List Char → Prop
  | [] => True
  | c :: rest => InCamelCase before c rest ∧ CamelFrom (before ++ [c]) rest

theorem camelFrom_iff (before cs : List Char) :
    CamelFrom before cs ↔
      ∀ front c after, cs = front ++ c :: after → InCamelCase (before ++ front) c after := by
  induction cs generalizing before with
  | nil => simp [CamelFrom]
  | cons c rest ih =>
    rw [CamelFrom, ih]
    constructor
    · rintro ⟨hc, hrest⟩ front d after h
      rcases List.cons_eq_append_iff.mp h with ⟨rfl, heq⟩ | ⟨front, rfl, heq⟩
      · cases heq
        rwa [List.append_nil]
      · simpa using hrest front d after heq
    · intro h
      refine ⟨by simpa using h [] c rest rfl, fun front d after hrest => ?_⟩
      simpa using h (c :: front) d after (by rw [hrest]; rfl)

theorem camelCase_iff (cs : List Char) :
    CamelCase cs ↔ (∀ c ∈ cs, isAlphanumeric c = true) ∧ CamelFrom [] cs := by
  rw [camelFrom_iff]
  constructor
  · intro h
    exact ⟨h.alphanumeric, fun before c after hcs => ⟨h.upper before c after hcs,
      h.lower before c after hcs⟩⟩
  · rintro ⟨halpha, hcamel⟩
    exact ⟨halpha, fun before c after hcs => (hcamel before c after hcs).1,
      fun before c after hcs => (hcamel before c after hcs).2⟩

theorem lastCase_snoc (before : List Char) (c : Char) :
    lastCase (before ++ [c]) = (lastCase before).next c := by
  simp [lastCase]

/-! ## Words that stay as they are -/

/-- A word that is capitalized already. -/
def Capitalized : List Char → Prop
  | [] => True
  | c :: rest => toUpper c = [c] ∧ ∀ d ∈ rest, toLower d = [d]

theorem capitalized_snoc (word : List Char) (c : Char) :
    Capitalized (word ++ [c]) ↔
      Capitalized word ∧ (word = [] → toUpper c = [c]) ∧ (word ≠ [] → toLower c = [c]) := by
  cases word with
  | nil => simp [Capitalized]
  | cons d word =>
    simp only [List.cons_append, Capitalized, List.mem_append, List.mem_singleton]
    grind

theorem append_eq_cons_iff {image rest rest' : List Char} {c : Char}
    (himage : image = [c] ∨ ∃ d tail, image = d :: tail ∧ d ≠ c) :
    image ++ rest = c :: rest' ↔ image = [c] ∧ rest = rest' := by
  rcases himage with rfl | ⟨d, tail, rfl, hd⟩
  · simp
  · simp [hd]

theorem toUpper_append_eq_iff {c : Char} {rest rest' : List Char} :
    toUpper c ++ rest = c :: rest' ↔ toUpper c = [c] ∧ rest = rest' := by
  apply append_eq_cons_iff
  rcases toUpper_cases c with h | ⟨d, tail, h, hd, -⟩
  · exact Or.inl h
  · exact Or.inr ⟨d, tail, h, hd⟩

theorem lowerWord_append_eq_iff (word rest rest' : List Char) :
    lowerWord word ++ rest = word ++ rest' ↔
      (∀ c ∈ word, toLower c = [c]) ∧ rest = rest' := by
  fun_induction lowerWord word with
  | case1 => simp
  | case2 =>
    have hsigma : toLower 'Σ' ≠ ['Σ'] := by decide +kernel
    simp [hsigma]
  | case3 c _ =>
    rw [List.singleton_append, append_eq_cons_iff (toLower_cases c)]
    simp
  | case4 c tail _ ih =>
    rw [List.append_assoc, List.cons_append, append_eq_cons_iff (toLower_cases c), ih]
    simp [and_assoc]

theorem capitalizeWord_append_eq_iff (word rest rest' : List Char) :
    capitalizeWord word ++ rest = word ++ rest' ↔ Capitalized word ∧ rest = rest' := by
  cases word with
  | nil => simp [capitalizeWord, Capitalized]
  | cons c tail =>
    rw [capitalizeWord, List.append_assoc, List.cons_append, toUpper_append_eq_iff,
      lowerWord_append_eq_iff, Capitalized, and_assoc]

theorem capitalizeWords_append_eq_iff (words : List (List Char)) (rest rest' : List Char) :
    words.flatMap capitalizeWord ++ rest = words.flatten ++ rest' ↔
      (∀ word ∈ words, Capitalized word) ∧ rest = rest' := by
  induction words with
  | nil => simp
  | cons word words ih =>
    rw [List.flatMap_cons, List.flatten_cons, List.append_assoc, List.append_assoc,
      capitalizeWord_append_eq_iff, ih, List.forall_mem_cons, and_assoc]

/-! ## Words of one piece -/

theorem flatten_pieceWords (mode : CaseMode) (word cs : List Char) (h : cs = [] → word = []) :
    (pieceWords mode word cs).flatten = word.reverse ++ cs := by
  fun_induction pieceWords mode word cs with
  | case1 => simp [h rfl]
  | case2 => simp
  | case3 mode word c d rest _ ih => simp [ih]
  | case4 mode word c d rest _ _ ih => simp [ih]
  | case5 mode word c d rest _ _ ih => simp [ih]

/-- Where the search for words stands in a piece, when `c` comes next. -/
structure Scanned (before : List Char) (mode : CaseMode) (word : List Char) (c : Char) : Prop where
  fresh : word = [] → mode = .boundary ∧
    (before = [] ∨ lastCase before = .lower ∧ isUppercase c = true)
  begun : word ≠ [] → before ≠ [] ∧ ¬ (lastCase before = .lower ∧ isUppercase c = true) ∧
    (mode = lastCase before ∨ isLowercase c = true)

theorem next_of_isLowercase {c : Char} (h : isLowercase c = true) (mode : CaseMode) :
    mode.next c = .lower := by
  simp [CaseMode.next, h]

namespace Scanned

variable {before word : List Char} {mode : CaseMode} {c : Char}

/-- Where the mode is not the case seen last, the next character decides both. -/
theorem next_eq (h : Scanned before mode word c) : mode.next c = lastCase (before ++ [c]) := by
  rw [lastCase_snoc]
  by_cases hword : word = []
  · obtain ⟨rfl, rfl | ⟨-, hc⟩⟩ := h.fresh hword
    · rfl
    · simp [CaseMode.next, hc]
  · obtain ⟨-, -, hmode | hc⟩ := h.begun hword
    · rw [hmode]
    · rw [next_of_isLowercase hc, next_of_isLowercase hc]

theorem beginsWord_iff (h : Scanned before mode word c) (after : List Char) :
    BeginsWord before c after ↔ word = [] ∨ mode = .upper ∧ isUppercase c = true ∧
      ∃ d rest, after = d :: rest ∧ isLowercase d = true := by
  by_cases hword : word = []
  · obtain ⟨-, hbefore⟩ := h.fresh hword
    simp only [hword, true_or, iff_true]
    rcases hbefore with hbefore | ⟨hlast, hc⟩
    · exact Or.inl hbefore
    · exact Or.inr ⟨hc, Or.inl hlast⟩
  · obtain ⟨hbefore, hlast, hmode⟩ := h.begun hword
    simp only [BeginsWord, hbefore, hword, false_or]
    rcases hmode with hmode | hc
    · rw [hmode]
      grind
    · simp [isUppercase_of_isLowercase hc]

end Scanned

/-- Where no word begins inside a run of capitals, the word goes on as camel case has it. -/
theorem capitalized_cons_iff {before : List Char} {mode : CaseMode} {word : List Char} {c : Char}
    (h : Scanned before mode word c) {after : List Char}
    (hrun : ¬ (mode = .upper ∧ isUppercase c = true ∧
      ∃ d rest, after = d :: rest ∧ isLowercase d = true)) :
    Capitalized (c :: word).reverse ↔
      Capitalized word.reverse ∧ InCamelCase before c after := by
  have hbegins : BeginsWord before c after ↔ word.reverse = [] := by
    rw [h.beginsWord_iff, or_iff_left hrun, List.reverse_eq_nil_iff]
  rw [List.reverse_cons, capitalized_snoc, InCamelCase, hbegins]

theorem pieceWords_capitalized_iff {before : List Char} {mode : CaseMode} {word : List Char}
    {c : Char} (rest : List Char) (h : Scanned before mode word c) :
    (∀ w ∈ pieceWords mode word (c :: rest), Capitalized w) ↔
      Capitalized word.reverse ∧ CamelFrom before (c :: rest) := by
  induction rest generalizing before mode word c with
  | nil =>
    have hrun : ¬ (mode = .upper ∧ isUppercase c = true ∧
        ∃ d rest, [] = d :: rest ∧ isLowercase d = true) := by simp
    rw [pieceWords, List.forall_mem_singleton, capitalized_cons_iff h hrun]
    simp [CamelFrom]
  | cons d rest ih =>
    rw [pieceWords, CamelFrom]
    split_ifs with hlower hupper
    · -- A small letter and then a capital: the word ends after `c`.
      obtain ⟨hnext, hd⟩ := hlower
      have hscan : Scanned (before ++ [c]) .boundary [] d :=
        ⟨fun _ => ⟨rfl, Or.inr ⟨h.next_eq ▸ hnext, hd⟩⟩, fun hne => absurd rfl hne⟩
      have hrun : ¬ (mode = .upper ∧ isUppercase c = true ∧
          ∃ d' rest', d :: rest = d' :: rest' ∧ isLowercase d' = true) := by
        rintro ⟨-, -, _, _, ⟨⟩, hsmall⟩
        rw [isUppercase_of_isLowercase hsmall] at hd
        cases hd
      rw [List.forall_mem_cons, capitalized_cons_iff h hrun, ih hscan]
      simp [Capitalized, and_assoc]
    · -- The last capital of a run: the word ends before `c`.
      obtain ⟨hmode, hc, hd⟩ := hupper
      have hbegins : BeginsWord before c (d :: rest) :=
        (h.beginsWord_iff _).mpr (Or.inr ⟨hmode, hc, d, rest, rfl, hd⟩)
      have hscan : Scanned (before ++ [c]) .boundary [c] d := by
        refine ⟨fun hnil => absurd hnil (by simp), fun _ => ⟨by simp, ?_, Or.inr hd⟩⟩
        rw [isUppercase_of_isLowercase hd]
        simp
      rw [List.forall_mem_cons, ih hscan]
      simp [InCamelCase, hbegins, Capitalized]
    · have hscan : Scanned (before ++ [c]) (mode.next c) (c :: word) d :=
        ⟨fun hnil => absurd hnil (by simp),
          fun _ => ⟨by simp, h.next_eq ▸ hlower, Or.inl h.next_eq⟩⟩
      have hrun : ¬ (mode = .upper ∧ isUppercase c = true ∧
          ∃ d' rest', d :: rest = d' :: rest' ∧ isLowercase d' = true) := by
        rintro ⟨hmode, hc, _, _, ⟨⟩, hd⟩
        exact hupper ⟨hmode, hc, hd⟩
      rw [ih hscan, capitalized_cons_iff h hrun, and_assoc]

/-! ## Texts that stay as they are -/

theorem pieces_of_alphanumeric {cs : List Char} (h : ∀ c ∈ cs, isAlphanumeric c = true) :
    pieces cs = [cs] := by
  induction cs with
  | nil => rfl
  | cons c rest ih =>
    obtain ⟨hc, hrest⟩ := List.forall_mem_cons.mp h
    rw [pieces, if_pos hc, ih hrest]

theorem pieces_append {cs rest : List Char} {d : Char} (h : ∀ c ∈ cs, isAlphanumeric c = true)
    (hd : isAlphanumeric d = false) : pieces (cs ++ d :: rest) = cs :: pieces rest := by
  induction cs with
  | nil =>
    rw [List.nil_append, pieces, if_neg (by simp [hd])]
  | cons c cs ih =>
    obtain ⟨hc, hrest⟩ := List.forall_mem_cons.mp h
    rw [List.cons_append, pieces, if_pos hc, ih hrest]

theorem isAlphanumeric_of_capitalizeWords {words : List (List Char)} {rest : List Char} {d : Char}
    (hwords : ∀ word ∈ words, ∀ c ∈ word, isAlphanumeric c = true)
    (h : words.flatMap capitalizeWord = d :: rest) : isAlphanumeric d = true := by
  induction words with
  | nil => cases h
  | cons word words ih =>
    obtain ⟨hword, htail⟩ := List.forall_mem_cons.mp hwords
    rw [List.flatMap_cons] at h
    cases word with
    | nil => exact ih htail h
    | cons c tail =>
      rw [capitalizeWord, List.append_assoc] at h
      rcases toUpper_cases c with hsame | ⟨d', tail', hother, -, hd'⟩
      · rw [hsame] at h
        rw [← (List.cons.inj h).1]
        exact hword c List.mem_cons_self
      · rw [hother] at h
        rwa [← (List.cons.inj h).1]

theorem pascalChars_of_alphanumeric {cs : List Char} (h : ∀ c ∈ cs, isAlphanumeric c = true) :
    pascalChars cs = cs ↔ CamelFrom [] cs := by
  cases cs with
  | nil => simp [pascalChars, words, pieces, pieceWords, CamelFrom]
  | cons c rest =>
    have hscan : Scanned [] .boundary [] c :=
      ⟨fun _ => ⟨rfl, Or.inl rfl⟩, fun hne => absurd rfl hne⟩
    have hflatten := flatten_pieceWords .boundary [] (c :: rest) (by simp)
    have hwords := capitalizeWords_append_eq_iff (pieceWords .boundary [] (c :: rest)) [] []
    rw [hflatten, pieceWords_capitalized_iff rest hscan] at hwords
    simpa [pascalChars, words, pieces_of_alphanumeric h, Capitalized] using hwords

theorem pascalChars_of_separator {cs rest : List Char} {d : Char}
    (h : ∀ c ∈ cs, isAlphanumeric c = true) (hd : isAlphanumeric d = false) :
    pascalChars (cs ++ d :: rest) ≠ cs ++ d :: rest := by
  intro heq
  have hflatten := flatten_pieceWords .boundary [] cs (fun _ => rfl)
  have hwords := capitalizeWords_append_eq_iff (pieceWords .boundary [] cs) (pascalChars rest)
    (d :: rest)
  rw [hflatten, List.reverse_nil, List.nil_append] at hwords
  have hrest : pascalChars rest = d :: rest := by
    refine (hwords.mp ?_).2
    rw [← heq]
    simp [pascalChars, words, pieces_append h hd]
  rw [isAlphanumeric_of_capitalizeWords (fun _ => isAlphanumeric_of_mem_words) hrest] at hd
  cases hd

theorem pascalChars_eq_self_iff (cs : List Char) : pascalChars cs = cs ↔ CamelCase cs := by
  rw [camelCase_iff]
  by_cases h : ∀ c ∈ cs, isAlphanumeric c = true
  · rw [pascalChars_of_alphanumeric h]
    exact (and_iff_right h).symm
  · obtain ⟨d, hfind⟩ : ∃ d, cs.find? (!isAlphanumeric ·) = some d := by
      rw [← Option.isSome_iff_exists, List.find?_isSome]
      simpa using h
    obtain ⟨hd, front, rest, rfl, hfront⟩ := List.find?_eq_some_iff_append.mp hfind
    have hne : pascalChars (front ++ d :: rest) ≠ front ++ d :: rest :=
      pascalChars_of_separator (by simpa using hfront) (by simpa using hd)
    exact iff_of_false hne fun hcamel => h hcamel.1

/-! ## Words of letters -/

/-- A letter in upper case that has a lower case. -/
@[mk_iff] structure IsCapital (c : Char) : Prop where
  upper : isUppercase c = true
  alphanumeric : isAlphanumeric c = true
  stays : toUpper c = [c]
  changes : toLower c ≠ [c]

@[mk_iff] structure IsSmall (c : Char) : Prop where
  lower : isLowercase c = true
  alphanumeric : isAlphanumeric c = true
  stays : toLower c = [c]

instance (c : Char) : Decidable (IsCapital c) := decidable_of_iff' _ (isCapital_iff c)

instance (c : Char) : Decidable (IsSmall c) := decidable_of_iff' _ (isSmall_iff c)

theorem IsCapital.not_lower {c : Char} (h : IsCapital c) : isLowercase c = false := by
  by_contra hlower
  rw [Bool.not_eq_false] at hlower
  have hupper := h.upper
  rw [isUppercase_of_isLowercase hlower] at hupper
  cases hupper

theorem letters_below : ∀ n < 128, (Char.ofNat n).isAlpha = true →
    (toUpper (Char.ofNat n) = [(Char.ofNat n).toUpper] ∧ IsCapital (Char.ofNat n).toUpper) ∧
      toLower (Char.ofNat n) = [(Char.ofNat n).toLower] ∧ IsSmall (Char.ofNat n).toLower := by
  decide +kernel

theorem letter_cases {c : Char} (h : c.isAlpha = true) :
    (∃ d, toUpper c = [d] ∧ IsCapital d) ∧ ∃ d, toLower c = [d] ∧ IsSmall d := by
  have hc : c.toNat < 128 := by
    simp only [Char.isAlpha, Char.isUpper, Char.isLower, Bool.or_eq_true, Bool.and_eq_true,
      decide_eq_true_eq, UInt32.le_iff_toNat_le] at h
    have hz : 'z'.val.toNat = 122 := rfl
    have hZ : 'Z'.val.toNat = 90 := rfl
    rw [Char.toNat]
    omega
  have hletter := letters_below c.toNat hc
  rw [Char.ofNat_toNat] at hletter
  obtain ⟨hupper, hlower⟩ := hletter h
  exact ⟨⟨_, hupper⟩, _, hlower⟩

def IsTitle (cs : List Char) : Prop :=
  ∃ c small, cs = c :: small ∧ IsCapital c ∧ ∀ d ∈ small, IsSmall d

theorem lowerWord_letters {word : List Char} (h : ∀ c ∈ word, c.isAlpha = true) :
    (lowerWord word).length = word.length ∧ ∀ d ∈ lowerWord word, IsSmall d := by
  fun_induction lowerWord word with
  | case1 => simp
  | case2 => exact absurd (h 'Σ' List.mem_cons_self) (by decide)
  | case3 c _ =>
    obtain ⟨d, hd, hsmall⟩ := (letter_cases (h c List.mem_cons_self)).2
    simp [hd, hsmall]
  | case4 c rest _ ih =>
    obtain ⟨hc, hrest⟩ := List.forall_mem_cons.mp h
    obtain ⟨d, hd, hsmall⟩ := (letter_cases hc).2
    obtain ⟨hlength, hsmalls⟩ := ih hrest
    rw [hd, List.singleton_append]
    exact ⟨by simp [hlength], List.forall_mem_cons.mpr ⟨hsmall, hsmalls⟩⟩

theorem capitalizeWord_letters {word : List Char} (hne : word ≠ [])
    (h : ∀ c ∈ word, c.isAlpha = true) :
    (capitalizeWord word).length = word.length ∧ IsTitle (capitalizeWord word) := by
  cases word with
  | nil => exact absurd rfl hne
  | cons c rest =>
    obtain ⟨hc, hrest⟩ := List.forall_mem_cons.mp h
    obtain ⟨d, hd, hcapital⟩ := (letter_cases hc).1
    obtain ⟨hlength, hsmall⟩ := lowerWord_letters hrest
    rw [capitalizeWord, hd, List.singleton_append]
    exact ⟨by simp [hlength], d, _, rfl, hcapital, hsmall⟩

/-! ## Titles that meet -/

theorem camelFrom_small {before small : List Char} (rest : List Char) (hbefore : before ≠ [])
    (hsmall : ∀ d ∈ small, IsSmall d) :
    CamelFrom before (small ++ rest) ↔ CamelFrom (before ++ small) rest := by
  induction small generalizing before with
  | nil => simp
  | cons d small ih =>
    obtain ⟨hd, hsmall⟩ := List.forall_mem_cons.mp hsmall
    have hbegins : ¬ BeginsWord before d (small ++ rest) := by
      simp [BeginsWord, hbefore, isUppercase_of_isLowercase hd.lower]
    rw [List.cons_append, CamelFrom, ih (by simp) hsmall]
    simp [InCamelCase, hbegins, hd.stays]

theorem camelFrom_capital {before after : List Char} {c : Char} (hc : IsCapital c) :
    CamelFrom before (c :: after) ↔
      BeginsWord before c after ∧ CamelFrom (before ++ [c]) after := by
  have hcamel : InCamelCase before c after ↔ BeginsWord before c after := by
    simp [InCamelCase, hc.stays, hc.changes]
  rw [CamelFrom, hcamel]

theorem lastCase_title {title : List Char} (before : List Char) (h : IsTitle title) :
    lastCase (before ++ title) = if title.length = 1 then .upper else .lower := by
  obtain ⟨c, small, rfl, hc, hsmall⟩ := h
  rcases List.eq_nil_or_concat small with rfl | ⟨small, d, rfl⟩
  · simp [lastCase_snoc, CaseMode.next, hc.upper, hc.not_lower]
  · have hd : IsSmall d := hsmall d (by simp)
    rw [List.concat_eq_append, ← List.cons_append, ← List.append_assoc, lastCase_snoc,
      next_of_isLowercase hd.lower]
    simp

theorem camelFrom_title {before title rest : List Char} {length : Nat} (hbefore : before ≠ [])
    (hlast : lastCase before = if length = 1 then .upper else .lower) (htitle : IsTitle title)
    (hrest : ∀ d tail, rest = d :: tail → isLowercase d = false) :
    CamelFrom before (title ++ rest) ↔
      (length ≠ 1 ∨ title.length ≠ 1) ∧ CamelFrom (before ++ title) rest := by
  obtain ⟨c, small, rfl, hc, hsmall⟩ := htitle
  have hbegins : BeginsWord before c (small ++ rest) ↔ length ≠ 1 ∨ (c :: small).length ≠ 1 := by
    simp only [BeginsWord, hbefore, hc.upper, hlast, false_or, true_and]
    cases small with
    | nil =>
      split_ifs with hlength
      · simpa [hlength] using hrest
      · simp [hlength]
    | cons d small =>
      have hd := (hsmall d List.mem_cons_self).lower
      split_ifs with hlength <;> simp [hd]
  rw [List.cons_append, camelFrom_capital hc, camelFrom_small rest (by simp) hsmall, hbegins,
    List.append_assoc, List.singleton_append]

theorem not_lower_of_titles {titles : List (List Char)} (h : ∀ title ∈ titles, IsTitle title) :
    ∀ d tail, titles.flatten = d :: tail → isLowercase d = false := by
  intro d tail heq
  cases titles with
  | nil => cases heq
  | cons title titles =>
    obtain ⟨c, small, rfl, hc, -⟩ := h title List.mem_cons_self
    rw [List.flatten_cons, List.cons_append] at heq
    rw [← (List.cons.inj heq).1]
    exact hc.not_lower

theorem camelFrom_titles {before : List Char} {length : Nat} {titles : List (List Char)}
    (hbefore : before ≠ []) (hlast : lastCase before = if length = 1 then .upper else .lower)
    (h : ∀ title ∈ titles, IsTitle title) :
    CamelFrom before titles.flatten ↔
      (length :: titles.map List.length).IsChain (fun m n => m ≠ 1 ∨ n ≠ 1) := by
  induction titles generalizing before length with
  | nil => simp [CamelFrom]
  | cons title titles ih =>
    obtain ⟨htitle, htitles⟩ := List.forall_mem_cons.mp h
    rw [List.flatten_cons, camelFrom_title hbefore hlast htitle (not_lower_of_titles htitles),
      ih (by simp [hbefore]) (lastCase_title before htitle) htitles, List.map_cons,
      List.isChain_cons_cons]

theorem IsTitle.alphanumeric {title : List Char} (h : IsTitle title) :
    ∀ c ∈ title, isAlphanumeric c = true := by
  obtain ⟨c, small, rfl, hc, hsmall⟩ := h
  exact List.forall_mem_cons.mpr ⟨hc.alphanumeric, fun d hd => (hsmall d hd).alphanumeric⟩

theorem camelCase_titles {titles : List (List Char)} (h : ∀ title ∈ titles, IsTitle title) :
    CamelCase titles.flatten ↔
      (titles.map List.length).IsChain (fun m n => m ≠ 1 ∨ n ≠ 1) := by
  have halpha : ∀ c ∈ titles.flatten, isAlphanumeric c = true := by
    intro c hc
    obtain ⟨title, htitle, hc⟩ := List.mem_flatten.mp hc
    exact (h title htitle).alphanumeric c hc
  rw [camelCase_iff, and_iff_right halpha]
  cases titles with
  | nil => simp [CamelFrom]
  | cons title titles =>
    obtain ⟨htitle, htitles⟩ := List.forall_mem_cons.mp h
    obtain ⟨c, small, rfl, hc, hsmall⟩ := id htitle
    have hfirst : BeginsWord [] c (small ++ titles.flatten) := Or.inl rfl
    rw [List.flatten_cons, List.cons_append, camelFrom_capital hc, and_iff_right hfirst,
      camelFrom_small _ (by simp) hsmall, List.map_cons]
    exact camelFrom_titles (by simp) (lastCase_title [] htitle) htitles

theorem ne_nil_of_mem_pieceWords {mode : CaseMode} {word cs w : List Char}
    (hword : mode = .upper → word ≠ []) (hw : w ∈ pieceWords mode word cs) : w ≠ [] := by
  fun_induction pieceWords mode word cs with
  | case1 => cases hw
  | case2 => simp_all
  | case3 mode word c d rest _ ih =>
    rcases List.mem_cons.mp hw with rfl | hw
    · simp
    · exact ih (by simp) hw
  | case4 mode word c d rest _ hupper ih =>
    rcases List.mem_cons.mp hw with rfl | hw
    · simpa using hword hupper.1
    · exact ih (by simp) hw
  | case5 mode word c d rest _ _ ih => exact ih (by simp) hw

theorem ne_nil_of_mem_words {cs w : List Char} (hw : w ∈ words cs) : w ≠ [] := by
  obtain ⟨p, -, hw⟩ := List.mem_flatMap.mp hw
  exact ne_nil_of_mem_pieceWords (by simp) hw

theorem camelCase_pascalChars_iff {cs : List Char}
    (h : ∀ word ∈ words cs, ∀ c ∈ word, c.isAlpha = true) :
    CamelCase (pascalChars cs) ↔
      (words cs).IsChain fun v w => v.length ≠ 1 ∨ w.length ≠ 1 := by
  have hword : ∀ word ∈ words cs, (capitalizeWord word).length = word.length ∧
      IsTitle (capitalizeWord word) := fun word hw =>
    capitalizeWord_letters (ne_nil_of_mem_words hw) (h word hw)
  have htitles : ∀ title ∈ (words cs).map capitalizeWord, IsTitle title := by
    intro title htitle
    obtain ⟨word, hw, rfl⟩ := List.mem_map.mp htitle
    exact (hword word hw).2
  have hlengths : ((words cs).map capitalizeWord).map List.length = (words cs).map List.length := by
    rw [List.map_map]
    exact List.map_congr_left fun word hw => (hword word hw).1
  rw [pascalChars, List.flatMap_def, camelCase_titles htitles, hlengths, List.isChain_map]

end RpcStubs.Text

namespace RpcStubs

open RequestShape

/-- Capitalizing again changes nothing exactly if every boundary is seen by case alone; for
words of letters, if no two words of one letter meet. -/
theorem capitalize_again_iff (x : String) :
    (capitalize (capitalize x) = capitalize x ↔ Text.CamelCase (capitalize x).toList) ∧
    ((∀ word ∈ Text.words x.toList, ∀ c ∈ word, c.isAlpha = true) →
      (capitalize (capitalize x) = capitalize x ↔
        (Text.words x.toList).IsChain fun v w => v.length ≠ 1 ∨ w.length ≠ 1)) ∧
    (wrapperName (capitalize x) = wrapperName x ↔ capitalize (capitalize x) = capitalize x) := by
  have hchars : (capitalize x).toList = Text.pascalChars x.toList := String.toList_ofList
  have hagain : capitalize (capitalize x) = capitalize x ↔
      Text.CamelCase (capitalize x).toList := by
    rw [← Text.pascalChars_eq_self_iff, ← String.toList_inj]
    exact Eq.congr_left String.toList_ofList
  refine ⟨hagain, fun hletters => ?_, ?_⟩
  · rw [hagain, hchars]
    exact Text.camelCase_pascalChars_iff hletters
  · rw [wrapperName, wrapperName, ← String.toList_inj, String.toList_append, String.toList_append,
      List.append_left_inj, String.toList_inj]

theorem capitalize_again_getUser :
    (∀ word ∈ Text.words "get_user".toList, ∀ c ∈ word, c.isAlpha = true) ∧
      capitalize (capitalize "get_user") = capitalize "get_user" := by
  have hwords : Text.words "get_user".toList = [['g', 'e', 't'], ['u', 's', 'e', 'r']] := by
    decide +kernel
  have hletters : ∀ word ∈ Text.words "get_user".toList, ∀ c ∈ word, c.isAlpha = true := by
    rw [hwords]
    simp
  refine ⟨hletters, ((capitalize_again_iff "get_user").2.1 hletters).mpr ?_⟩
  rw [hwords]
  decide

/-- Two words of one letter each are taken for one word. -/
theorem capitalize_initials : capitalize "a_b" = "AB" ∧ capitalize (capitalize "a_b") = "Ab" ∧
    wrapperName (capitalize "a_b") ≠ wrapperName "a_b" := by
  decide +kernel

end RpcStubs
