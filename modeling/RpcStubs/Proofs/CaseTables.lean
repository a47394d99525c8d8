import Mathlib
import RpcStubs.Proofs.SnakeCase

/-!
# What the tables of letter case agree on

No character is of both cases, and the upper case of a letter begins with a letter. These are
facts about tables of thousands of characters. A table is compared as a set of code points,
and a set of code points is kept as the bits of one number, so a comparison is one operation
on two numbers.
-/

namespace RpcStubs.Text

/-! ## Sets of code points -/

/-- The union of the sets `f a`, for every `a` of a list. -/
def unionBits {α : Type} (f : α → Nat) (as : List α) : Nat :=
  as.foldr (fun a bits => f a ||| bits) 0

theorem testBit_unionBits {α : Type} {f : α → Nat} {as : List α} {n : Nat} :
    (unionBits f as).testBit n = true ↔ ∃ a ∈ as, (f a).testBit n = true := by
  induction as with
  | nil => simp [unionBits]
  | cons a as ih =>
    rw [unionBits] at ih ⊢
    rw [List.foldr_cons, Nat.testBit_or, Bool.or_eq_true, ih]
    simp

def runBits (lo hi step : Nat) : Nat :=
  unionBits (fun k => 1 <<< (lo + k * step)) (List.range ((hi - lo) / step + 1))

theorem testBit_runBits {lo hi step n : Nat} (hlo : lo ≤ n) (hhi : n ≤ hi)
    (hstep : (n - lo) % step = 0) : (runBits lo hi step).testBit n = true := by
  refine testBit_unionBits.mpr ⟨(n - lo) / step, List.mem_range.mpr ?_, ?_⟩
  · exact Nat.lt_succ_of_le (Nat.div_le_div_right (by omega))
  · have hn : (n - lo) / step * step = n - lo := Nat.div_mul_cancel (Nat.dvd_of_mod_eq_zero hstep)
    rw [hn, Nat.one_shiftLeft, Nat.testBit_two_pow]
    simp only [decide_eq_true_eq]
    omega

def rangeBits (range : Nat × Nat) : Nat := 1 <<< (range.2 + 1) - 1 <<< range.1

theorem mem_of_testBit_rangeBits {range : Nat × Nat} {n : Nat}
    (h : (rangeBits range).testBit n = true) : range.1 ≤ n ∧ n ≤ range.2 := by
  rw [rangeBits, Nat.one_shiftLeft, Nat.one_shiftLeft] at h
  by_cases hlt : 2 ^ range.1 - 1 < 2 ^ (range.2 + 1)
  · have hpos : 2 ^ range.1 - 1 + 1 = 2 ^ range.1 := Nat.sub_add_cancel Nat.one_le_two_pow
    rw [← hpos, Nat.testBit_two_pow_sub_succ hlt, Nat.testBit_two_pow_sub_one] at h
    simp only [Bool.and_eq_true, decide_eq_true_eq, Bool.not_eq_true', decide_eq_false_iff_not]
      at h
    omega
  · have hle : 2 ^ (range.2 + 1) ≤ 2 ^ range.1 := by
      rw [Nat.not_lt] at hlt
      exact hlt.trans (Nat.sub_le _ _)
    rw [Nat.sub_eq_zero_of_le hle, Nat.zero_testBit] at h
    cases h

/-! ## No character is of both cases -/

def runsBits (runs : List (Nat × Nat × Nat)) : Nat :=
  unionBits (fun r => runBits r.1 r.2.1 r.2.2) runs

theorem testBit_of_inRuns {runs : List (Nat × Nat × Nat)} {n : Nat}
    (h : inRuns runs n = true) : (runsBits runs).testBit n = true := by
  rw [runsBits, testBit_unionBits]
  fun_induction inRuns runs n with
  | case1 => cases h
  | case2 => cases h
  | case3 lo hi step rest n hlo hhi =>
    exact ⟨_, List.mem_cons_self, testBit_runBits (by omega) hhi (by simpa using h)⟩
  | case4 lo hi step rest n hlo hhi ih =>
    obtain ⟨r, hr, hbit⟩ := ih h
    exact ⟨r, List.mem_cons_of_mem _ hr, hbit⟩

theorem lowercase_and_uppercase : runsBits lowercaseRuns &&& runsBits uppercaseRuns = 0 := by
  decide +kernel

theorem isUppercase_of_isLowercase {c : Char} (h : isLowercase c = true) :
    isUppercase c = false := by
  by_contra hu
  rw [Bool.not_eq_false] at hu
  have hboth : (runsBits lowercaseRuns &&& runsBits uppercaseRuns).testBit c.toNat = true := by
    rw [Nat.testBit_and, testBit_of_inRuns h, testBit_of_inRuns hu]
    rfl
  rw [lowercase_and_uppercase, Nat.zero_testBit] at hboth
  cases hboth

/-! ## The first character of an upper case -/

/-- What the upper case of another character can begin with. -/
def upperBits : Nat :=
  unionBits (fun r => runBits r.target (r.target + (r.hi - r.lo)) r.step) upperRuns |||
    unionBits (fun entry => 1 <<< entry.2.headD 0) upperSpecial

theorem upper_alphanumeric :
    upperBits ||| unionBits rangeBits alphanumericRanges =
      unionBits rangeBits alphanumericRanges := by
  decide +kernel

theorem alphanumericRanges_increasing :
    alphanumericRanges.IsChain (fun p q => p.1 ≤ p.2 ∧ p.2 < q.1) := by
  decide +kernel

theorem alphanumericRanges_valid :
    ∀ p ∈ alphanumericRanges, p.2 < 0xd800 ∨ 0xdfff < p.1 ∧ p.2 < 0x110000 := by
  decide +kernel

theorem inRanges_of_mem {ranges : List (Nat × Nat)} {p : Nat × Nat} {n : Nat}
    (hchain : ranges.IsChain (fun p q => p.1 ≤ p.2 ∧ p.2 < q.1)) (hp : p ∈ ranges)
    (hlo : p.1 ≤ n) (hhi : n ≤ p.2) : inRanges ranges n = true := by
  induction ranges with
  | nil => cases hp
  | cons range rest ih =>
    rcases List.mem_cons.mp hp with rfl | hp
    · rw [inRanges, if_neg (by omega), if_pos hhi]
    · have hrest : inRanges rest n = true := ih hchain.of_cons hp
      cases rest with
      | nil => cases hp
      | cons next rest =>
        have hnext : next.1 ≤ n := le_of_inRanges hrest
        have hrange := (List.isChain_cons_cons.mp hchain).1
        rw [inRanges, if_neg (by omega), if_neg (by omega), hrest]

theorem isAlphanumeric_of_upperBits {n : Nat} (h : upperBits.testBit n = true) :
    isAlphanumeric (Char.ofNat n) = true := by
  have hbit : (unionBits rangeBits alphanumericRanges).testBit n = true := by
    rw [← upper_alphanumeric, Nat.testBit_or, h]
    rfl
  obtain ⟨p, hp, hbit⟩ := testBit_unionBits.mp hbit
  obtain ⟨hlo, hhi⟩ := mem_of_testBit_rangeBits hbit
  have hvalid : n.isValidChar := by
    rcases alphanumericRanges_valid p hp with h | h
    · exact Or.inl (by omega)
    · exact Or.inr (by omega)
  rw [isAlphanumeric, Char.ofNat, dif_pos hvalid]
  exact inRanges_of_mem alphanumericRanges_increasing hp hlo hhi

theorem upperSpecial_head : ∀ entry ∈ upperSpecial,
    ∃ n rest, entry.2 = n :: rest ∧ (Char.ofNat n).toNat ≠ entry.1 := by
  have hcheck : ∀ entry ∈ upperSpecial, entry.2 ≠ [] ∧
      (Char.ofNat (entry.2.headD 0)).toNat ≠ entry.1 := by decide +kernel
  intro entry he
  obtain ⟨hne, hhead⟩ := hcheck entry he
  obtain ⟨n, rest, hcs⟩ := List.exists_cons_of_ne_nil hne
  exact ⟨n, rest, hcs, by rwa [hcs] at hhead⟩

theorem toUpper_cases (c : Char) :
    toUpper c = [c] ∨ ∃ d rest, toUpper c = d :: rest ∧ d ≠ c ∧ isAlphanumeric d = true := by
  unfold toUpper
  split
  · next k cs hfind =>
    have hmem := List.mem_of_find?_eq_some hfind
    have hk : k = c.toNat := by simpa using List.find?_some hfind
    obtain ⟨n, rest, hcs, hne⟩ := upperSpecial_head _ hmem
    have hcs : cs = n :: rest := hcs
    refine Or.inr ⟨Char.ofNat n, rest.map Char.ofNat, by rw [hcs]; rfl, ?_, ?_⟩
    · rintro rfl
      exact hne hk.symm
    · apply isAlphanumeric_of_upperBits
      rw [upperBits, Nat.testBit_or, Bool.or_eq_true]
      refine Or.inr (testBit_unionBits.mpr ⟨_, hmem, ?_⟩)
      simp [hcs, Nat.one_shiftLeft]
  · rcases mapRuns_cases upperRuns c.toNat with hsame | ⟨r, hr, k, hk, hstep, heq⟩
    · rw [hsame, Char.ofNat_toNat]
      exact Or.inl rfl
    · by_cases hc : Char.ofNat (mapRuns upperRuns c.toNat) = c
      · exact Or.inl (by rw [hc])
      · refine Or.inr ⟨_, [], rfl, hc, isAlphanumeric_of_upperBits ?_⟩
        rw [upperBits, Nat.testBit_or, Bool.or_eq_true, heq]
        refine Or.inl (testBit_unionBits.mpr ⟨r, hr, testBit_runBits ?_ ?_ ?_⟩)
        · exact Nat.le_add_right _ _
        · exact Nat.add_le_add_left hk _
        · rwa [Nat.add_sub_cancel_left]

theorem toLower_cases (c : Char) :
    toLower c = [c] ∨ ∃ d rest, toLower c = d :: rest ∧ d ≠ c := by
  unfold toLower
  split
  · next hc =>
    refine Or.inr ⟨'i', [Char.ofNat 0x307], rfl, ?_⟩
    rintro rfl
    cases hc
  · by_cases hc : Char.ofNat (mapRuns lowerRuns c.toNat) = c
    · exact Or.inl (by rw [hc])
    · exact Or.inr ⟨_, [], rfl, hc⟩

end RpcStubs.Text
