import RpcStubs.Idl.Lexer

/-!
# String literals and their values

A text that is written as a string literal is the value of that literal.
-/

namespace RpcStubs.Idl

open Text (escapeChar unicodeEscape hexDigits)

/-! ## Code points -/

theorem hexValue?_digitChar : ∀ d < 16, hexValue? (Nat.digitChar d) = some d := by decide

theorem hexDigits_eq (n : Nat) :
    hexDigits n = (if n < 16 then [] else hexDigits (n / 16)) ++ [(n % 16).digitChar] := by
  unfold hexDigits
  rw [Nat.toDigits_eq_if (by omega)]
  split
  · simp [Nat.mod_eq_of_lt (by omega : n < 16)]
  · rfl

theorem readString_hexDigits (r : StringRules) (n : Nat) (cs : List Char)
    (h : (hexDigits n).length ≤ 6) :
    readString r (.code 0 0) (hexDigits n ++ cs) =
      readString r (.code n (hexDigits n).length) cs := by
  induction n using Nat.strongRecOn generalizing cs with
  | ind n ih =>
    have hvalue := hexValue?_digitChar (n % 16) (Nat.mod_lt n (by decide))
    rw [hexDigits_eq] at h ⊢
    by_cases hsmall : n < 16
    · rw [Nat.mod_eq_of_lt hsmall] at hvalue ⊢
      simp [readString, StringState.step, StringState.codeStep, hvalue, hsmall]
    · simp only [hsmall, if_false, List.length_append, List.length_singleton] at h ⊢
      have hdigits : (hexDigits (n / 16)).length ≠ 6 := by omega
      rw [List.append_assoc, ih (n / 16) (by omega) _ (by omega), List.singleton_append]
      simp only [readString, StringState.step, StringState.codeStep, hvalue, hdigits, if_false]
      rw [Nat.div_add_mod]

theorem isScalar_toNat (c : Char) : isScalar c.toNat = true := by
  have hvalid : c.toNat < 0xd800 ∨ 0xdfff < c.toNat ∧ c.toNat < 0x110000 := c.valid
  simp only [isScalar, Bool.or_eq_true, decide_eq_true_eq, Bool.and_eq_true]
  omega

theorem length_hexDigits_toNat (c : Char) : (hexDigits c.toNat).length ≤ 6 := by
  have hvalid : c.toNat < 0xd800 ∨ 0xdfff < c.toNat ∧ c.toNat < 0x110000 := c.valid
  exact (Nat.length_toDigits_le_iff (by decide) (by decide)).mpr (by omega)

theorem readString_unicodeEscape (c : Char) (cs : List Char) :
    readString .text .plain (unicodeEscape c ++ cs) =
      (readString .text .plain cs).map (fun found => (c :: found.1, found.2)) := by
  have hscalar := isScalar_toNat c
  have hlength := length_hexDigits_toNat c
  have hpos : (hexDigits c.toNat).length ≠ 0 := Nat.pos_iff_ne_zero.mp Nat.length_toDigits_pos
  have hopen : readString .text .plain (unicodeEscape c ++ cs) =
      readString .text (.code 0 0) (hexDigits c.toNat ++ ('}' :: cs)) := by
    rw [unicodeEscape, List.append_assoc, List.append_assoc]
    rfl
  rw [hopen, readString_hexDigits .text c.toNat _ hlength]
  simp only [readString, StringState.step, StringState.codeStep]
  simp [hexValue?, hpos, StringRules.admitsCode, StringRules.text, hscalar]

/-! ## Characters -/

theorem readString_escapeChar (c : Char) (cs : List Char) :
    readString .text .plain (escapeChar c ++ cs) =
      (readString .text .plain cs).map (fun found => (c :: found.1, found.2)) := by
  unfold escapeChar
  split
  · subst_vars
    rfl
  split
  · subst_vars
    rfl
  split
  · subst_vars
    rfl
  split
  · subst_vars
    rfl
  split
  · subst_vars
    rfl
  split
  · subst_vars
    rfl
  split
  · simp_all [readString, StringState.step, StringState.plainStep, StringRules.admitsChar,
      StringRules.text]
  · exact readString_unicodeEscape c cs

theorem readString_nul (cs : List Char) :
    readString .text .plain ('\\' :: 'x' :: '0' :: '0' :: cs) =
      (readString .text .plain cs).map (fun found => ('\x00' :: found.1, found.2)) :=
  rfl

theorem readString_literalChars (text rest : List Char) :
    readString .text .plain (literalChars text ++ '"' :: rest) = some (text, rest) := by
  induction text with
  | nil => rfl
  | cons c text ih =>
    have hescaped : readString .text .plain (escapeChar c ++ (literalChars text ++ '"' :: rest)) =
        some (c :: text, rest) := by
      rw [readString_escapeChar, ih]
      rfl
    unfold literalChars
    split
    · rename_i heq
      cases heq
    · rename_i cs heq
      cases heq
      -- Only before an octal digit is the nul written in another way than any other character.
      have hlong : readString .text .plain
          (['\\', 'x', '0', '0'] ++ (literalChars text ++ '"' :: rest)) =
            some ('\x00' :: text, rest) := by
        rw [List.cons_append, List.cons_append, List.cons_append, List.cons_append,
          List.nil_append, readString_nul, ih]
        rfl
      rw [List.append_assoc]
      cases text with
      | nil => exact hescaped
      | cons d text =>
        simp only
        split
        · exact hlong
        · exact hescaped
    · rename_i heq
      cases heq
      rw [List.append_assoc]
      exact hescaped

theorem stringValue?_literalOf (text : List Char) :
    (literalOf text).stringValue? = some (String.ofList text) := by
  simp [Literal.stringValue?, literalOf, Literal.stringChars?, readString_literalChars]

end RpcStubs.Idl
