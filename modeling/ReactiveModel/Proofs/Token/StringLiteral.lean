import ReactiveModel.Proofs.Text.Quoted
import ReactiveModel.Token.Lexer

/-!
# String literals as tokens

What is written for a text is read as a single token, alone or with anything behind it that cannot
be a suffix, and the value of the token is the text again (`isStringLiteral_quoted`). So different
texts are written differently.
-/

namespace ReactiveModel

namespace Lexer

open Text

/-- The text is one string literal with the value. Where other text follows at once, no word may
begin there, because it would be a suffix of the literal. -/
structure IsStringLiteral (text value : String) : Prop where
  alone : lex text = some [.literal text]
  ahead : ∀ rest : List Char, rest.head?.any isIdentifierStart = false →
    leaf (text.toList ++ rest) = some (.literal text, rest)
  value : quotedValue? text = some value

/-! ## What begins with a quote -/

theorem skip_quote (fuel : ℕ) (rest : List Char) : skip fuel ('"' :: rest) = '"' :: rest := by
  cases fuel <;> rfl

theorem skip_nil (fuel : ℕ) : skip fuel [] = [] := by
  cases fuel <;> rfl

/-- Text that begins with a quote and is a single leaf is a single token. -/
theorem lex_quote {rest : List Char} {t : Token} (h : leaf ('"' :: rest) = some (t, [])) :
    lex (String.ofList ('"' :: rest)) = some [t] := by
  have hend : tokens (rest.length + 1) [] [t] [] = some [t] := by
    rw [tokens, skip_nil]
    rfl
  have hmark : withoutByteOrderMark ('"' :: rest) = '"' :: rest := rfl
  have hdoc : docComment ('"' :: rest) = none := rfl
  have hreadable : after? unreadable ('"' :: rest) = none := rfl
  rw [lex, String.toList_ofList, hmark, List.length_cons, tokens, skip_quote]
  simp only [hdoc, hreadable, opened, closed, h]
  exact hend

/-! ## What is written for a text -/

theorem toList_quoted (text : String) : (quoted text).toList = '"' :: encode text.toList ++ ['"'] :=
  String.toList_ofList

theorem skipSuffix_eq_self {rest : List Char} (h : rest.head?.any isIdentifierStart = false) :
    skipSuffix rest = rest := by
  cases rest with
  | nil => rfl
  | cons c rest =>
    have hc : isIdentifierStart c = false := h
    simp [skipSuffix, bareWord, hc]

/-- The literal ends at its closing quote. -/
theorem literalEnd_quoted (text : String) {rest : List Char}
    (h : rest.head?.any isIdentifierStart = false) :
    literalEnd ((quoted text).toList ++ rest) = some rest := by
  have hread : readQuoted textRules .plain (encode text.toList ++ '"' :: rest) =
      some (text.toList, rest) := readQuoted_encode _ _
  rw [toList_quoted, List.append_assoc, List.singleton_append, List.cons_append]
  change (readQuoted textRules .plain _).map (fun r => skipSuffix r.2) = _
  rw [hread, Option.map_some, skipSuffix_eq_self h]

theorem leaf_quoted (text : String) {rest : List Char}
    (h : rest.head?.any isIdentifierStart = false) :
    leaf ((quoted text).toList ++ rest) = some (.literal (quoted text), rest) := by
  have hliteral : literal ((quoted text).toList ++ rest) = some (.literal (quoted text), rest) := by
    rw [literal, literalEnd_quoted text h, Option.map_some, List.length_append,
      Nat.add_sub_cancel, List.take_left, String.ofList_toList]
  rw [leaf, hliteral]
  rfl

/-- What is written for a text is one string literal with the text as its value. -/
theorem isStringLiteral_quoted (text : String) : IsStringLiteral (quoted text) text where
  alone := by
    have hleaf : leaf ((quoted text).toList ++ []) = some (.literal (quoted text), []) :=
      leaf_quoted text rfl
    rw [List.append_nil, toList_quoted] at hleaf
    exact lex_quote hleaf
  ahead := fun _ => leaf_quoted text
  value := quotedValue?_quoted text

/-- A literal has at most one value. -/
theorem IsStringLiteral.unique {text value value' : String} (h : IsStringLiteral text value)
    (h' : IsStringLiteral text value') : value = value' :=
  Option.some.inj (h.value.symm.trans h'.value)

/-- A digit behind a zero does not become part of its escape. -/
example : IsStringLiteral "\"\\x007\"" "\x007" := isStringLiteral_quoted "\x007"

end Lexer

namespace Text

/-- Different texts are written differently. -/
theorem quoted_inj {text text' : String} : quoted text = quoted text' ↔ text = text' := by
  refine ⟨fun h => ?_, congrArg quoted⟩
  have h' := Lexer.isStringLiteral_quoted text'
  rw [← h] at h'
  exact (Lexer.isStringLiteral_quoted text).unique h'

end Text

end ReactiveModel
