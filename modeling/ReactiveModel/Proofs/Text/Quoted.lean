import Mathlib.Algebra.Ring.Nat
import Mathlib.Data.List.Basic
import ReactiveModel.Text.Quoted

/-!
# Reading what was quoted

Every text is read back from its string literal (`quotedValue?_quoted`), whichever of its characters
are spelled by an escape.
-/

namespace ReactiveModel.Text

variable {rules : QuoteRules} {rest : List Char}

/-! ## Code points -/

theorem hexValue_hexDigit : ∀ d, d < 16 → hexValue (hexDigit d) = some d := by decide

theorem length_hexDigits_le (k n : Nat) : (hexDigits k n).length ≤ k := by
  induction k generalizing n with
  | zero => simp [hexDigits]
  | succ k ih =>
    rw [hexDigits]
    split_ifs
    · simp
    · simpa using ih (n / 16)

theorem readQuoted_cons {p q : Phase} {c : Char} {v : Option Char}
    (h : effect rules p c = .next q v) :
    readQuoted rules p (c :: rest) =
      (readQuoted rules q rest).map fun r => (v.toList ++ r.1, r.2) := by
  rw [readQuoted, h]

/-- A character that adds nothing to the value only changes the phase. -/
theorem readQuoted_cons_none {p q : Phase} {c : Char} (h : effect rules p c = .next q none) :
    readQuoted rules p (c :: rest) = readQuoted rules q rest := by
  rw [readQuoted_cons h]
  simp

theorem readQuoted_hexDigit {v n d : Nat} (hd : d < 16) (hcount : n < 6) :
    readQuoted rules (.codePointDigits v n) (hexDigit d :: rest) =
      readQuoted rules (.codePointDigits (v * 16 + d) (n + 1)) rest := by
  refine readQuoted_cons_none ?_
  simp only [effect, hexValue_hexDigit d hd, if_pos hcount]

/-- The digits of a number are read as the number. -/
theorem readQuoted_hexDigits {k n : Nat} (hk : k ≤ 6) (hn : n < 16 ^ k) :
    readQuoted rules (.codePointDigits 0 0) (hexDigits k n ++ rest) =
      readQuoted rules (.codePointDigits n (hexDigits k n).length) rest := by
  induction k generalizing n rest with
  | zero =>
    have h0 : n = 0 := by simpa using hn
    rw [h0]
    rfl
  | succ k ih =>
    rw [hexDigits]
    split_ifs with h
    · simpa using readQuoted_hexDigit (v := 0) (n := 0) h (by omega)
    · have hdiv : n / 16 < 16 ^ k := by
        rw [Nat.div_lt_iff_lt_mul (by decide), ← Nat.pow_succ]
        exact hn
      have hlen := length_hexDigits_le k (n / 16)
      rw [List.append_assoc, List.singleton_append, ih (by omega) hdiv,
        readQuoted_hexDigit (Nat.mod_lt _ (by decide)) (by omega), Nat.div_add_mod',
        List.length_append, List.length_singleton]

theorem toNat_lt_pow (c : Char) : c.toNat < 16 ^ 6 := by
  have h : c.val.toNat.isValidChar := c.valid
  rw [Nat.isValidChar] at h
  change c.val.toNat < 16 ^ 6
  omega

theorem readQuoted_codePointEscape {c : Char} (h : rules.codePoint c = true) :
    readQuoted rules .plain (codePointEscape c ++ rest) =
      (readQuoted rules .plain rest).map fun p => (c :: p.1, p.2) := by
  have hlen : (hexDigits 6 c.toNat).length ≠ 0 := by
    rw [hexDigits]
    split_ifs <;> simp
  have hclose : effect rules (.codePointDigits c.toNat (hexDigits 6 c.toNat).length) '\x7d' =
      .next .plain (some c) := by
    have hvalid : c.toNat.isValidChar := c.valid
    simp [effect, hexValue, hlen, hvalid, h]
  simp only [codePointEscape, List.cons_append, List.nil_append, List.append_assoc]
  rw [readQuoted_cons_none (q := .escape) rfl, readQuoted_cons_none (q := .codePoint) rfl,
    readQuoted_cons_none (q := .codePointDigits 0 0) rfl,
    readQuoted_hexDigits (Nat.le_refl 6) (toNat_lt_pow c), readQuoted_cons hclose]
  rfl

/-! ## Characters and texts -/

/-- An escape of one letter stands for its character. -/
theorem readQuoted_shortEscape {c letter : Char} (h : shortEscape rules letter = some c) :
    readQuoted rules .plain ('\\' :: letter :: rest) =
      (readQuoted rules .plain rest).map fun p => (c :: p.1, p.2) := by
  have hletter : effect rules .escape letter = .next .plain (some c) := by
    simp only [effect, h]
  rw [readQuoted_cons_none (q := .escape) rfl, readQuoted_cons hletter]
  rfl

/-- A character is read back from what is written for it, whatever follows. -/
theorem readQuoted_encodeChar (c : Char) (next : Option Char) :
    readQuoted textRules .plain (encodeChar c next ++ rest) =
      (readQuoted textRules .plain rest).map fun p => (c :: p.1, p.2) := by
  unfold encodeChar
  split_ifs with hzero hoctal htab hreturn hline hquote hslash hextends hprintable
  · subst hzero
    rw [List.cons_append, List.cons_append, List.cons_append, List.cons_append, List.nil_append,
      readQuoted_cons_none (q := .escape) rfl, readQuoted_cons_none (q := .hex) rfl,
      readQuoted_cons_none (q := .hexLow 0) rfl,
      readQuoted_cons (q := .plain) (v := some '\x00') rfl]
    rfl
  · subst hzero
    exact readQuoted_shortEscape rfl
  · subst htab
    exact readQuoted_shortEscape rfl
  · subst hreturn
    exact readQuoted_shortEscape rfl
  · subst hline
    exact readQuoted_shortEscape rfl
  · subst hquote
    exact readQuoted_shortEscape rfl
  · subst hslash
    exact readQuoted_shortEscape rfl
  · exact readQuoted_codePointEscape rfl
  · have hplain : effect textRules .plain c = .next .plain (some c) := by
      simp [effect, plainEffect, hquote, hslash, hreturn, textRules]
    rw [List.singleton_append, readQuoted_cons hplain]
    rfl
  · exact readQuoted_codePointEscape rfl

/-- A text is read back from between its quotes, together with what follows them. -/
theorem readQuoted_encode (text tail : List Char) :
    readQuoted textRules .plain (encode text ++ '"' :: tail) = some (text, tail) := by
  induction text with
  | nil => rfl
  | cons c text ih =>
    rw [encode, List.append_assoc, readQuoted_encodeChar, ih]
    rfl

/-- A text is the value of its string literal. -/
theorem quotedValue?_quoted (text : String) : quotedValue? (quoted text) = some text := by
  have h : readString ('"' :: encode text.toList ++ ['"']) = some (text.toList, []) :=
    readQuoted_encode text.toList []
  rw [quotedValue?, quoted, String.toList_ofList, h]
  simp

end ReactiveModel.Text
