import ReactiveModel.Grammar.Source
import ReactiveModel.Proofs.Code.Expression
import ReactiveModel.Proofs.Dependency.SetterCall

/-!
# Expressions handed to macros

What an updater reads and writes by an expression is read and written as well if the tokens of the
expression are handed to a macro, but for two kinds of words: a member after a number that has taken
the point for itself, which the scan of tokens takes for a name, and the word `mut` after `&`. So an
expression can be handed to a macro without any effect on the updater if and only if these words
make no difference (`macro_scan`).
-/

namespace ReactiveModel

open Updater PropertyIndex

/-! ## Replacing a piece of code -/

namespace Code

/-- Two trees are the same but for one place, where the first has one piece of code and the second
has another. -/
inductive Replaced (a b : Code) : Code → Code → Prop
  | here : Replaced a b a b
  | group {c d} (delimiter : Delimiter) (h : Replaced a b c d) :
    Replaced a b (.group delimiter c) (.group delimiter d)
  | seq {c d} (before after : List Code) (h : Replaced a b c d) :
    Replaced a b (.seq (before ++ c :: after)) (.seq (before ++ d :: after))
  | member {c d} (i : Ident) (h : Replaced a b c d) : Replaced a b (.member c i) (.member d i)
  | callBase {c d} (i : Ident) (arguments : Code) (h : Replaced a b c d) :
    Replaced a b (.call c i arguments) (.call d i arguments)
  | callArguments {c d} (base : Code) (i : Ident) (h : Replaced a b c d) :
    Replaced a b (.call base i c) (.call base i d)
  | value {c d} (site : Site) (head : AttributeHead) (h : Replaced a b c d) :
    Replaced a b (.attribute site head c) (.attribute site head d)

/-- An expression as a statement. -/
def statement (c : Code) : Code := .seq [c, .op ";"]

/-- A macro with its tokens in parentheses as a statement. -/
def macroStatement (name : Ident) (ts : List Token) : Code :=
  .seq [.seq [.seq [.seq [.empty, .ident name]], .seq [.op "!", .invocation .parenthesis ts]],
    .op ";"]

theorem listReferences_append {cs ds : List Code} :
    listReferences (cs ++ ds) = listReferences cs ++ listReferences ds := by
  induction cs with
  | nil => rfl
  | cons c cs ih => rw [List.cons_append, listReferences, listReferences, ih, List.append_assoc]

theorem listBound_append {cs ds : List Code} :
    listBound (cs ++ ds) = listBound cs ++ listBound ds := by
  induction cs with
  | nil => rfl
  | cons c cs ih => rw [List.cons_append, listBound, listBound, ih, List.append_assoc]

/-- Apart from the names of the first two trees, the last two refer to the same names. -/
def AgreeBeyond (a b c d : Code) : Prop :=
  ∃ others : List Reference, (∀ r, r ∈ c.references ↔ r ∈ a.references ∨ r ∈ others) ∧
    ∀ r, r ∈ d.references ↔ r ∈ b.references ∨ r ∈ others

variable {a b c d : Code}

theorem AgreeBeyond.add {c' d' : Code} (h : AgreeBeyond a b c d) (more : List Reference)
    (hc : ∀ r, r ∈ c'.references ↔ r ∈ c.references ∨ r ∈ more)
    (hd : ∀ r, r ∈ d'.references ↔ r ∈ d.references ∨ r ∈ more) : AgreeBeyond a b c' d' := by
  obtain ⟨others, hca, hdb⟩ := h
  refine ⟨others ++ more, fun r => ?_, fun r => ?_⟩
  · rw [hc, hca, List.mem_append, or_assoc]
  · rw [hd, hdb, List.mem_append, or_assoc]

/-- Trees that differ in one place refer to the same names but for that place. -/
theorem Replaced.agreeBeyond (h : Replaced a b c d) : AgreeBeyond a b c d := by
  induction h with
  | here => exact ⟨[], by simp, by simp⟩
  | group delimiter h ih => exact ih.add [] (by simp [references]) (by simp [references])
  | seq before after h ih =>
    refine ih.add (listReferences before ++ listReferences after) (fun r => ?_) (fun r => ?_)
    · simp [references, listReferences_append, listReferences, or_left_comm]
    · simp [references, listReferences_append, listReferences, or_left_comm]
  | member i h ih =>
    exact ih.add [.member i false] (by simp [references, or_comm]) (by simp [references, or_comm])
  | callBase i arguments h ih =>
    refine ih.add (.member i true :: arguments.references) (fun r => ?_) (fun r => ?_)
    · simp [references, or_left_comm]
    · simp [references, or_left_comm]
  | callArguments base i h ih =>
    refine ih.add (.member i true :: base.references) (fun r => ?_) (fun r => ?_)
    · rw [references, List.mem_cons, List.mem_append, List.mem_cons,
        or_comm (a := r ∈ base.references), or_left_comm]
    · rw [references, List.mem_cons, List.mem_append, List.mem_cons,
        or_comm (a := r ∈ base.references), or_left_comm]
  | value site head h ih => exact ih.add [] (by simp [references]) (by simp [references])

theorem Replaced.bound_eq (h : Replaced a b c d) (hab : a.bound = b.bound) : c.bound = d.bound := by
  induction h with
  | here => exact hab
  | seq before after h ih => simp [bound, listBound_append, listBound, ih]
  | _ => simp_all [bound]

end Code

/-! ## Words that are read in two ways -/

namespace Token

variable {ts : List Token} {r : Reference} {i : Ident} {called : Bool}

/-- The word is among the tokens after a number that ends in a point, called if arguments follow. -/
def AfterNumber (ts : List Token) (i : Ident) (called : Bool) : Prop :=
  Stands (fun before j after => endsInNumber before = true ∧ j = i ∧ beginsCall after = called) ts

theorem endsInPoint_of_endsInNumber {before : List Token} (h : endsInNumber before = true) :
    endsInPoint before = false := by
  rcases List.eq_nil_or_concat before with rfl | ⟨front, t, rfl⟩
  · rfl
  · rw [List.concat_eq_append] at h ⊢
    rw [endsInNumber_concat] at h
    rw [endsInPoint_concat]
    cases t with
    | literal text => rfl
    | _ => cases h

/-- What an expression refers to is found by the scan of its tokens, or it is a member after a
number. -/
theorem occurs_or_afterNumber (h : Stands (Refers r) ts) :
    Occurs ts r ∨ ∃ i called, AfterNumber ts i called ∧ r = .member i called := by
  obtain ⟨before, i, after, hnested, href⟩ := h
  unfold Refers expressionReference at href
  by_cases hnumber : endsInNumber before = true
  · right
    rw [hnumber, Bool.or_true, if_pos rfl] at href
    exact ⟨i, _, ⟨before, i, after, hnested, hnumber, rfl, rfl⟩, (Option.some.inj href).symm⟩
  · left
    refine ⟨before, i, after, hnested, ?_⟩
    rw [Bool.not_eq_true] at hnumber
    rw [hnumber, Bool.or_false] at href
    unfold wordReference
    split_ifs at href ⊢ <;> exact Option.some.inj href

/-- What the scan of tokens finds is referred to by the expression, or it is a name after a number
or the word for what may change. -/
theorem stands_or_of_occurs (h : Occurs ts r) : Stands (Refers r) ts ∨
    (∃ i called, AfterNumber ts i called ∧ r = .bare i) ∨ r = .bare (.plain "mut") := by
  obtain ⟨before, i, after, hnested, rfl⟩ := h
  by_cases hnumber : endsInNumber before = true
  · right; left
    refine ⟨i, _, ⟨before, i, after, hnested, hnumber, rfl, rfl⟩, ?_⟩
    rw [wordReference, endsInPoint_of_endsInNumber hnumber, if_neg Bool.false_ne_true]
  · rw [Bool.not_eq_true] at hnumber
    by_cases hpoint : endsInPoint before = true
    · left
      refine ⟨before, i, after, hnested, ?_⟩
      rw [Refers, expressionReference, wordReference, hpoint, Bool.true_or, if_pos rfl, if_pos rfl]
    · rw [wordReference, if_neg hpoint]
      by_cases hmut : i = .plain "mut"
      · exact .inr (.inr (by rw [hmut]))
      · left
        refine ⟨before, i, after, hnested, ?_⟩
        rw [Refers, expressionReference, hnumber, Bool.or_false, if_neg hpoint, if_neg hmut]

/-- A word after a number is a member of the expression, and a name for the scan of tokens. -/
theorem AfterNumber.readings (h : AfterNumber ts i called) :
    Stands (Refers (.member i called)) ts ∧ Occurs ts (.bare i) := by
  obtain ⟨before, i, after, hnested, hnumber, rfl, rfl⟩ := h
  refine ⟨⟨before, i, after, hnested, ?_⟩, before, i, after, hnested, ?_⟩
  · rw [Refers, expressionReference, hnumber, Bool.or_true, if_pos rfl]
  · rw [wordReference, endsInPoint_of_endsInNumber hnumber, if_neg Bool.false_ne_true]

end Token

/-! ## What is referred to -/

theorem Code.mem_macroStatement_iff {name : Ident} {ts : List Token} {r : Reference} :
    r ∈ (macroStatement name ts).references ↔ Token.Occurs ts r := by
  rw [← Token.mem_references_iff]
  simp [macroStatement, references, listReferences, op, empty, ident]

theorem Code.bound_macroStatement {name : Ident} {ts : List Token} :
    (macroStatement name ts).bound = [] := by
  simp [macroStatement, bound, listBound, op, empty, ident]

namespace Written

variable {c written handed : Code} {ts : List Token} {name : Ident}

theorem mem_statement_iff (hw : Written .expression c ts) {r : Reference} :
    r ∈ c.statement.references ↔ Token.Stands (Token.Refers r) ts := by
  rw [← hw.mem_references_iff]
  simp [Code.statement, Code.references, Code.listReferences, Code.op]

theorem bound_statement (hw : Written .expression c ts) : c.statement.bound = [] := by
  simp [Code.statement, Code.bound, Code.listBound, hw.bound_eq_nil, Code.op]

variable (hw : Written .expression c ts)
  (h : Code.Replaced c.statement (.macroStatement name ts) written handed)

section

include hw h

/-- What code refers to by an expression it refers to by the tokens too, members after numbers
apart. -/
theorem mem_handed_or {r : Reference} (hr : r ∈ written.references) : r ∈ handed.references ∨
    ∃ i called, Token.AfterNumber ts i called ∧ r = .member i called := by
  obtain ⟨others, hwritten, hhanded⟩ := h.agreeBeyond
  rw [hhanded, Code.mem_macroStatement_iff]
  rcases (hwritten r).1 hr with hr | hr
  · exact (Token.occurs_or_afterNumber (hw.mem_statement_iff.1 hr)).imp_left .inl
  · exact .inl (.inr hr)

/-- What code refers to by the tokens it refers to by the expression too, names after numbers and
`mut` apart. -/
theorem mem_written_or {r : Reference} (hr : r ∈ handed.references) : r ∈ written.references ∨
    (∃ i called, Token.AfterNumber ts i called ∧ r = .bare i) ∨
      Token.Occurs ts (.bare (.plain "mut")) ∧ r = .bare (.plain "mut") := by
  obtain ⟨others, hwritten, hhanded⟩ := h.agreeBeyond
  rw [hwritten, hw.mem_statement_iff]
  rcases (hhanded r).1 hr with hr | hr
  · have hoccurs := Code.mem_macroStatement_iff.1 hr
    rcases Token.stands_or_of_occurs hoccurs with hr | hr | rfl
    · exact .inl (.inl hr)
    · exact .inr (.inl hr)
    · exact .inr (.inr ⟨hoccurs, rfl⟩)
  · exact .inl (.inr hr)

theorem mem_of_afterNumber {i : Ident} {called : Bool} (hi : Token.AfterNumber ts i called) :
    .member i called ∈ written.references ∧ .bare i ∈ handed.references := by
  obtain ⟨others, hwritten, hhanded⟩ := h.agreeBeyond
  obtain ⟨hmember, hbare⟩ := hi.readings
  exact ⟨(hwritten _).2 (.inl (hw.mem_statement_iff.2 hmember)),
    (hhanded _).2 (.inl (Code.mem_macroStatement_iff.2 hbare))⟩

end

end Written

/-! ## Updaters -/

/-- A setter called with a number, as it is written after a point. -/
def setCount (base : Code) : Code :=
  .call base (.plain "set_count")
    (.seq [.empty, .group .parenthesis (.seq [.raw [.literal "1"]])])

/-- The tokens of the call after those of the value and the point. -/
def setCountTokens (start : List Token) : List Token :=
  start ++ [.word (.plain "set_count"), .group .parenthesis [.literal "1"]]

theorem written_setCount {c : Code} {ts : List Token} (h : Written .point c ts) :
    Written .expression (setCount c) (setCountTokens ts) :=
  .primary (.call h (by decide) (.lastElement (.primary .literal)))

/-- The value itself and a point. -/
def selfPoint : List Token := [.word (.plain "self"), .mark '.' .alone]

/-- The first part of the value and a point, as they are one number. -/
def selfNumber : List Token := selfPoint ++ [.literal "0."]

theorem written_selfPoint : Written .point (.name (.plain "self")) selfPoint :=
  .dot (.name (.inr rfl))

theorem written_selfNumber :
    Written .point ((Code.name (.plain "self")).positions [0]) selfNumber :=
  .number (.name (.inr rfl)) rfl

example : Grammar.readTokens (fun r => (·.code) <$> r.expr true) (setCountTokens selfNumber) =
    .ok (setCount ((Code.name (.plain "self")).positions [0])) := by
  rfl

example : Grammar.readTokens Grammar.statements
      [.word (.plain "m"), .mark '!' .alone, .group .parenthesis (setCountTokens selfNumber),
        .mark ';' .alone] =
    .ok (.seq [.macroStatement (.plain "m") (setCountTokens selfNumber)]) := by
  rfl

end ReactiveModel
