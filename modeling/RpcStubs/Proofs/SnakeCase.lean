import Mathlib
import RpcStubs.Text.Words

/-!
# Characters of a name in snake case

Such a name holds lower case letters, numbers and underscores. So it has no character that
means anything inside a path.
-/

namespace RpcStubs.Text

def PathSafe (c : Char) : Prop := c ≠ '/' ∧ c ≠ '.'

/-! ## Lower case -/

theorem le_of_inRanges {lo hi n : Nat} {rest : List (Nat × Nat)}
    (h : inRanges ((lo, hi) :: rest) n = true) : lo ≤ n := by
  rw [inRanges] at h
  split at h
  · cases h
  · omega

theorem code_of_isAlphanumeric {c : Char} (h : isAlphanumeric c = true) : 0x30 ≤ c.toNat :=
  @le_of_inRanges 0x30 0x39 _ alphanumericRanges.tail h

theorem mapRuns_cases (runs : List CaseRun) (n : Nat) :
    mapRuns runs n = n ∨
      ∃ r ∈ runs, ∃ k ≤ r.hi - r.lo, k % r.step = 0 ∧ mapRuns runs n = r.target + k := by
  induction runs with
  | nil => exact Or.inl rfl
  | cons r rest ih =>
    rw [mapRuns]
    split
    · exact Or.inl rfl
    · split
      · split
        · next hstep => exact Or.inr ⟨r, List.mem_cons_self, n - r.lo, by omega, hstep, rfl⟩
        · exact Or.inl rfl
      · rcases ih with h | ⟨s, hs, h⟩
        · exact Or.inl h
        · exact Or.inr ⟨s, List.mem_cons_of_mem _ hs, h⟩

theorem lowerRuns_target : ∀ r ∈ lowerRuns, 0x30 ≤ r.target := by decide +kernel

theorem toNat_ofNat (n : Nat) : (Char.ofNat n).toNat = n ∨ (Char.ofNat n).toNat = 0 := by
  unfold Char.ofNat
  split
  · exact Or.inl rfl
  · exact Or.inr rfl

theorem pathSafe_ofNat {n : Nat} (h : 0x30 ≤ n) : PathSafe (Char.ofNat n) := by
  have hn := toNat_ofNat n
  constructor
  · intro he
    rw [he, show '/'.toNat = 0x2f from rfl] at hn
    omega
  · intro he
    rw [he, show '.'.toNat = 0x2e from rfl] at hn
    omega

theorem pathSafe_toLower {c x : Char} (h : isAlphanumeric c = true) (hx : x ∈ toLower c) :
    PathSafe x := by
  unfold toLower at hx
  split at hx
  · rcases List.mem_pair.mp hx with rfl | rfl
    · exact ⟨by decide, by decide⟩
    · exact pathSafe_ofNat (by omega)
  · rw [List.mem_singleton.mp hx]
    apply pathSafe_ofNat
    rcases mapRuns_cases lowerRuns c.toNat with hr | ⟨r, hr, k, -, -, hk⟩
    · rw [hr]
      exact code_of_isAlphanumeric h
    · rw [hk]
      exact (lowerRuns_target r hr).trans (Nat.le_add_right _ _)

theorem pathSafe_lowerWord {w : List Char} (h : ∀ c ∈ w, isAlphanumeric c = true) :
    ∀ x ∈ lowerWord w, PathSafe x := by
  fun_induction lowerWord w with
  | case1 => simp
  | case2 => simp [PathSafe]
  | case3 c =>
    intro x hx
    exact pathSafe_toLower (h c (by simp)) hx
  | case4 c rest _ ih =>
    intro x hx
    rcases List.mem_append.mp hx with hx | hx
    · exact pathSafe_toLower (h c (by simp)) hx
    · exact ih (fun c hc => h c (List.mem_cons_of_mem _ hc)) x hx

/-! ## Words -/

theorem isAlphanumeric_of_mem_pieces {cs p : List Char} (hp : p ∈ pieces cs) :
    ∀ c ∈ p, isAlphanumeric c = true := by
  fun_induction pieces cs generalizing p with
  | case1 => simp_all
  | case2 c rest hc hnil _ => simp_all
  | case3 c rest hc q qs hq ih =>
    rcases List.mem_cons.mp hp with rfl | hp
    · intro x hx
      rcases List.mem_cons.mp hx with rfl | hx
      · exact hc
      · exact ih (by rw [hq]; simp) x hx
    · exact ih (by rw [hq]; exact List.mem_cons_of_mem _ hp)
  | case4 c rest hc ih =>
    rcases List.mem_cons.mp hp with rfl | hp
    · simp
    · exact ih hp

theorem mem_of_mem_pieceWords {mode : CaseMode} {word cs w : List Char}
    (hw : w ∈ pieceWords mode word cs) : ∀ c ∈ w, c ∈ word ∨ c ∈ cs := by
  fun_induction pieceWords mode word cs with
  | case1 => simp at hw
  | case2 mode word c =>
    intro x hx
    rw [List.mem_singleton.mp hw] at hx
    rcases List.mem_cons.mp (List.mem_reverse.mp hx) with rfl | hx
    · simp
    · exact Or.inl hx
  | case3 mode word c d rest _ ih =>
    intro x hx
    rcases List.mem_cons.mp hw with rfl | hw
    · rcases List.mem_cons.mp (List.mem_reverse.mp hx) with rfl | hx
      · simp
      · exact Or.inl hx
    · rcases ih hw x hx with h | h
      · cases h
      · exact Or.inr (List.mem_cons_of_mem _ h)
  | case4 mode word c d rest _ _ ih =>
    intro x hx
    rcases List.mem_cons.mp hw with rfl | hw
    · exact Or.inl (List.mem_reverse.mp hx)
    · rcases ih hw x hx with h | h
      · rw [List.mem_singleton.mp h]
        simp
      · exact Or.inr (List.mem_cons_of_mem _ h)
  | case5 mode word c d rest _ _ ih =>
    intro x hx
    rcases ih hw x hx with h | h
    · rcases List.mem_cons.mp h with rfl | h
      · simp
      · exact Or.inl h
    · exact Or.inr (List.mem_cons_of_mem _ h)

theorem isAlphanumeric_of_mem_words {cs w : List Char} (hw : w ∈ words cs) :
    ∀ c ∈ w, isAlphanumeric c = true := by
  obtain ⟨p, hp, hw⟩ := List.mem_flatMap.mp hw
  intro c hc
  rcases mem_of_mem_pieceWords hw c hc with h | h
  · cases h
  · exact isAlphanumeric_of_mem_pieces hp c h

/-! ## Joined words -/

theorem mem_intercalate {α : Type} {x : α} {sep : List α} {ls : List (List α)}
    (h : x ∈ sep.intercalate ls) : x ∈ sep ∨ ∃ l ∈ ls, x ∈ l := by
  induction ls with
  | nil => simp at h
  | cons l rest ih =>
    cases rest with
    | nil => exact Or.inr ⟨l, by simp, by simpa using h⟩
    | cons l' rest =>
      rw [List.intercalate_cons_cons] at h
      simp only [List.mem_append] at h
      rcases h with (h | h) | h
      · exact Or.inr ⟨l, by simp, h⟩
      · exact Or.inl h
      · rcases ih h with h | ⟨l'', hl, h⟩
        · exact Or.inl h
        · exact Or.inr ⟨l'', List.mem_cons_of_mem _ hl, h⟩

theorem pathSafe_snakeCase (s : String) : ∀ c ∈ (snakeCase s).toList, PathSafe c := by
  intro c hc
  rw [snakeCase, String.toList_ofList, snakeChars] at hc
  rcases mem_intercalate hc with h | ⟨l, hl, h⟩
  · rw [List.mem_singleton.mp h]
    exact ⟨by decide, by decide⟩
  · obtain ⟨w, hw, rfl⟩ := List.mem_map.mp hl
    exact pathSafe_lowerWord (isAlphanumeric_of_mem_words hw) c h

end RpcStubs.Text
