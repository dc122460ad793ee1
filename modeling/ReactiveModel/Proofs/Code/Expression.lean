import Mathlib.Logic.Relation
import ReactiveModel.Grammar.Expression
import ReactiveModel.Proofs.Code.Occurrence

/-!
# Expressions and their tokens

How the code of an expression and its tokens belong together, for expressions made of names,
literals, members, calls, indices, brackets and operators. The names that such code refers to are
told from its tokens: a word after a point is a member, also if the point is the last of a number,
the word `mut` is no name, and every other word is a name by itself (`Written.mem_references_iff`).
-/

namespace ReactiveModel

/-! ## Words among tokens -/

namespace Token

variable {tells : List Token → Ident → List Token → Prop} {left right ts us : List Token}

/-- Somewhere in the stream is a word of which something is true in view of the tokens before and
after it. -/
def Stands (tells : List Token → Ident → List Token → Prop) (ts : List Token) : Prop :=
  ∃ before i after, Nested ts (before ++ .word i :: after) ∧ tells before i after

/-- The same of tokens that stand between others. -/
def StandsBetween (tells : List Token → Ident → List Token → Prop) (left right ts : List Token) :
    Prop :=
  (∃ before i after, ts = before ++ .word i :: after ∧ tells (left ++ before) i (after ++ right)) ∨
    ∃ delimiter body, .group delimiter body ∈ ts ∧ Stands tells body

theorem stands_iff : Stands tells ts ↔ StandsBetween tells [] [] ts := by
  unfold StandsBetween
  simp only [List.nil_append, List.append_nil]
  constructor
  · rintro ⟨before, i, after, h, htells⟩
    rcases h.cases_head with h | ⟨body, ⟨delimiter, hbody⟩, h⟩
    · exact .inl ⟨before, i, after, h, htells⟩
    · exact .inr ⟨delimiter, body, hbody, before, i, after, h, htells⟩
  · rintro (⟨before, i, after, rfl, htells⟩ | ⟨delimiter, body, hbody, before, i, after, h, htells⟩)
    · exact ⟨before, i, after, .refl, htells⟩
    · exact ⟨before, i, after, h.head ⟨delimiter, hbody⟩, htells⟩

@[simp]
theorem standsBetween_nil : ¬ StandsBetween tells left right [] := by
  rintro (⟨before, i, after, h, -⟩ | ⟨_, _, h, -⟩)
  · cases before <;> cases h
  · cases h

theorem standsBetween_cons {t : Token} : StandsBetween tells left right (t :: ts) ↔
    (∃ i, t = .word i ∧ tells left i (ts ++ right)) ∨
      (∃ delimiter body, t = .group delimiter body ∧ Stands tells body) ∨
        StandsBetween tells (left ++ [t]) right ts := by
  have hsplit := @exists_split_cons
    (fun before i after => tells (left ++ before) i (after ++ right)) t ts
  simp only [List.append_nil] at hsplit
  unfold StandsBetween
  rw [hsplit]
  simp only [List.mem_cons, List.append_assoc, List.cons_append, List.nil_append, or_and_right,
    exists_or, @eq_comm _ (group _ _)]
  rw [or_assoc, or_left_comm (a := ∃ _ _, _)]

theorem standsBetween_append : StandsBetween tells left right (ts ++ us) ↔
    StandsBetween tells left (us ++ right) ts ∨ StandsBetween tells (left ++ ts) right us := by
  induction ts generalizing left with
  | nil => simp
  | cons t ts ih =>
    rw [List.cons_append, standsBetween_cons, standsBetween_cons, ih]
    simp only [List.append_assoc, List.cons_append, List.nil_append, or_assoc]

@[simp]
theorem standsBetween_word {i : Ident} :
    StandsBetween tells left right [.word i] ↔ tells left i right := by
  simp [standsBetween_cons]

@[simp]
theorem standsBetween_literal {text : String} :
    ¬ StandsBetween tells left right [.literal text] := by
  simp [standsBetween_cons]

@[simp]
theorem standsBetween_mark {c : Char} {s : Spacing} :
    ¬ StandsBetween tells left right [.mark c s] := by
  simp [standsBetween_cons]

@[simp]
theorem standsBetween_group {delimiter : Delimiter} {body : List Token} :
    StandsBetween tells left right [.group delimiter body] ↔ Stands tells body := by
  rw [standsBetween_cons]
  constructor
  · rintro (⟨i, h, -⟩ | ⟨_, _, h, hbody⟩ | h)
    · cases h
    · cases h
      exact hbody
    · exact absurd h standsBetween_nil
  · exact fun h => .inr (.inl ⟨delimiter, body, rfl, h⟩)

/-- What a word among the tokens of an expression refers to. -/
def expressionReference (before : List Token) (i : Ident) (after : List Token) :
    Option Reference :=
  if endsInPoint before || endsInNumber before then some (.member i (beginsCall after))
  else if i = .plain "mut" then none
  else some (.bare i)

/-- A word among the tokens of an expression makes the reference. -/
def Refers (r : Reference) (before : List Token) (i : Ident) (after : List Token) : Prop :=
  expressionReference before i after = some r

/-! ## Operators -/

/-- The marks of an operator in a row of tokens; how the last one is spaced depends on what
follows. -/
def marks (last : Spacing) : List Char → List Token
  | [] => []
  | [c] => [.mark c last]
  | c :: rest => .mark c .joint :: marks last rest

theorem marks_concat {last : Spacing} {cs : List Char} {c : Char} :
    marks last (cs ++ [c]) = cs.map (.mark · .joint) ++ [.mark c last] := by
  induction cs with
  | nil => rfl
  | cons d cs ih =>
    have hne : cs ++ [c] ≠ [] := by simp
    obtain ⟨e, rest, hrest⟩ := List.exists_cons_of_ne_nil hne
    rw [List.cons_append, List.map_cons, List.cons_append, ← ih, hrest]
    rfl

@[simp]
theorem not_standsBetween_marks {last : Spacing} {cs : List Char} :
    ¬ StandsBetween tells left right (marks last cs) := by
  fun_induction marks last cs generalizing left with
  | case1 => simp
  | case2 c => simp
  | case3 c rest hrest ih => simp [standsBetween_cons, ih]

@[simp]
theorem beginsCall_marks_append {last : Spacing} {cs : List Char} (hcs : cs ≠ []) :
    beginsCall (marks last cs ++ us) = false := by
  fun_cases marks last cs with
  | case1 => contradiction
  | case2 c => rfl
  | case3 c rest hrest => rfl

/-! ## Where a name can begin -/

theorem endsInPoint_concat {before : List Token} {t : Token} : endsInPoint (before ++ [t]) =
    (t.pointSpacing.isSome && before.getLast?.bind pointSpacing != some .joint) := by
  rw [endsInPoint, List.reverse_append]
  simp

theorem endsInNumber_concat {before : List Token} {t : Token} : endsInNumber (before ++ [t]) =
    match t with
    | .literal text => text.toList.getLast? == some '.'
    | _ => false := by
  rw [endsInNumber, List.getLast?_concat]
  cases t <;> rfl

/-- Whether a name that begins after the tokens is no member. -/
def isOpen (before : List Token) : Bool := !endsInPoint before && !endsInNumber before

theorem isOpen_concat_mark {before : List Token} {c : Char} {s : Spacing} (hc : c ≠ '.') :
    isOpen (before ++ [.mark c s]) = true := by
  simp [isOpen, endsInPoint_concat, endsInNumber_concat, pointSpacing, hc]

theorem isOpen_concat_word {before : List Token} {i : Ident} :
    isOpen (before ++ [.word i]) = true := by
  simp [isOpen, endsInPoint_concat, endsInNumber_concat, pointSpacing]

theorem isOpen_append_marks {before : List Token} {last : Spacing} {cs : List Char}
    (h : cs.getLast?.any (· ≠ '.') = true) : isOpen (before ++ marks last cs) = true := by
  rcases List.eq_nil_or_concat cs with rfl | ⟨front, c, rfl⟩
  · cases h
  · have hc : c ≠ '.' := by simpa using h
    rw [List.concat_eq_append, marks_concat, ← List.append_assoc]
    exact isOpen_concat_mark hc

/-- A name may begin after the two points of a range. -/
theorem isOpen_append_points {before : List Token} {last : Spacing} :
    isOpen (before ++ marks last ['.', '.']) = true := by
  have h : before ++ marks last ['.', '.'] =
      (before ++ [.mark '.' .joint]) ++ [.mark '.' last] := by
    simp [marks]
  rw [h, isOpen, endsInPoint_concat, endsInNumber_concat]
  simp [pointSpacing]

end Token

/-! ## How expressions are written -/

/-- The code of a value with accesses by position after it. -/
def Code.positions (base : Code) (ns : List Nat) : Code :=
  ns.foldl (fun code n => .seq [code, .op ".", Grammar.positionCode n]) base

/-- What the parts of an expression are. -/
inductive ExpressionPart where
  /-- An operand without signs before it. -/
  | primary
  /-- An operand with the point of an access after it. -/
  | point
  | expression
  /-- What a range begins with, which may be nothing. -/
  | start
  /-- What stands between brackets. -/
  | inside
  deriving DecidableEq

/-- The texts of binary operators. -/
def binarySigns : List String := "=" :: Grammar.operators.map (·.1)

/-- The code of a part of an expression is written by the tokens. -/
inductive Written : ExpressionPart → Code → List Token → Prop
  | name {i} (hi : i.isName = true ∨ i = .plain "self") : Written .primary (.name i) [.word i]
  | literal {text} : Written .primary (.raw [.literal text]) [.literal text]
  | member {c ts i} (h : Written .point c ts) (hi : i.isName = true) :
    Written .primary (.member c i) (ts ++ [.word i])
  | position {c ts text n} (h : Written .point c ts) (hn : Grammar.position? text = some n) :
    Written .primary (.seq [c, .op ".", Grammar.positionCode n]) (ts ++ [.literal text])
  | positions {c ts s text ns} (h : Written .primary c ts)
      (hns : Grammar.positions? text = some (ns, false)) :
    Written .primary (c.positions ns) (ts ++ [.mark '.' s, .literal text])
  | call {c ts i d us} (h : Written .point c ts) (hi : i.isName = true)
      (hd : Written .inside d us) :
    Written .primary (.call c i (.seq [.empty, .group .parenthesis d]))
      (ts ++ [.word i, .group .parenthesis us])
  | apply {c ts d us} (h : Written .primary c ts) (hc : ∀ b i, c ≠ .member b i)
      (hd : Written .inside d us) :
    Written .primary (.seq [c, .group .parenthesis d]) (ts ++ [.group .parenthesis us])
  | index {c ts d us} (h : Written .primary c ts) (hd : Written .inside d us) :
    Written .primary (.seq [c, .group .bracket d]) (ts ++ [.group .bracket us])
  | group {delimiter d us} (hdelimiter : delimiter ≠ .brace) (hd : Written .inside d us) :
    Written .primary (.group delimiter d) [.group delimiter us]
  /-- A point after a value. -/
  | dot {c ts s} (h : Written .primary c ts) : Written .point c (ts ++ [.mark '.' s])
  /-- A number after the point that has taken the next point for itself. -/
  | number {c ts s text ns} (h : Written .primary c ts)
      (hns : Grammar.positions? text = some (ns, true)) :
    Written .point (c.positions ns) (ts ++ [.mark '.' s, .literal text])
  | primary {c ts} (h : Written .primary c ts) : Written .expression c ts
  | reference {c ts s} (h : Written .expression c ts) :
    Written .expression (.seq [.op "&", .empty, .empty, .empty, c]) (.mark '&' s :: ts)
  | mutable {c ts s} (h : Written .expression c ts) :
    Written .expression (.seq [.op "&", .empty, .keyword "mut", .empty, c])
      (.mark '&' s :: .word (.plain "mut") :: ts)
  | unary {sign c ts s} (hsign : sign ∈ ["*", "!", "-"]) (h : Written .expression c ts) :
    Written .expression (.seq [.op sign, c]) (Token.marks s sign.toList ++ ts)
  | binary {sign c d ts us s} (hsign : sign ∈ binarySigns) (hc : Written .expression c ts)
      (hd : Written .expression d us) :
    Written .expression (.seq [c, .op sign, d]) (ts ++ (Token.marks s sign.toList ++ us))
  | rangeFrom {c ts s} (h : Written .start c ts) :
    Written .expression (.seq [c, .op ".."]) (ts ++ Token.marks s ['.', '.'])
  | range {c d ts us s} (hc : Written .start c ts) (hd : Written .expression d us) :
    Written .expression (.seq [c, .op "..", d]) (ts ++ (Token.marks s ['.', '.'] ++ us))
  | closedRange {c d ts us s} (hc : Written .start c ts) (hd : Written .expression d us) :
    Written .expression (.seq [c, .op "..=", d]) (ts ++ (Token.marks s ['.', '.', '='] ++ us))
  | noStart : Written .start .empty []
  | start {c ts} (h : Written .expression c ts) : Written .start c ts
  | nothing : Written .inside .empty []
  | noElements : Written .inside (.seq []) []
  | one {c ts} (h : Written .expression c ts) : Written .inside c ts
  | lastElement {c ts} (h : Written .expression c ts) : Written .inside (.seq [c]) ts
  | element {c cs ts us s} (h : Written .expression c ts) (hcs : Written .inside (.seq cs) us) :
    Written .inside (.seq (c :: .op "," :: cs)) (ts ++ (Token.marks s [','] ++ us))
  /-- The first element of an array stands apart from the others. -/
  | firstElement {c cs ts us s} (h : Written .expression c ts)
      (hcs : Written .inside (.seq cs) us) :
    Written .inside (.seq [c, .op ",", .seq cs]) (ts ++ (Token.marks s [','] ++ us))
  /-- An element and how often an array has it. -/
  | repeated {c d ts us s} (hc : Written .expression c ts) (hd : Written .expression d us) :
    Written .inside (.seq [c, .op ";", d]) (ts ++ (Token.marks s [';'] ++ us))

theorem getLast?_intercalate {parts : List (List Char)} {c : Char} (h : parts ≠ []) :
    (List.intercalate [c] (parts ++ [[]])).getLast? = some c := by
  induction parts with
  | nil => contradiction
  | cons part parts ih =>
    rw [List.cons_append, List.intercalate_cons_of_ne_nil (by simp)]
    cases parts with
    | nil => simp
    | cons next parts =>
      rw [List.getLast?_append, ih (List.cons_ne_nil _ _)]
      rfl

/-- A number that stands for an access still to come ends in a point. -/
theorem getLast?_of_positions? {text : String} {ns : List Nat}
    (h : Grammar.positions? text = some (ns, true)) : text.toList.getLast? = some '.' := by
  unfold Grammar.positions? at h
  obtain ⟨positions, -, h⟩ := Option.bind_eq_some_iff.1 h
  have hopen := congrArg Prod.snd (Option.some.inj h)
  simp only [Bool.and_eq_true, decide_eq_true_eq] at hopen
  obtain ⟨hlength, hlast⟩ := hopen
  have htext : List.intercalate ['.'] (text.toList.splitOn '.') = text.toList :=
    List.intercalate_splitOn '.'
  rcases List.eq_nil_or_concat (text.toList.splitOn '.') with hnil | ⟨parts, last, hparts⟩
  · rw [hnil] at hlength
    cases hlength
  · rw [List.concat_eq_append] at hparts
    rw [hparts] at hlength hlast htext
    obtain rfl : last = [] := by simpa using hlast
    have hne : parts ≠ [] := by
      rintro rfl
      simp at hlength
    rw [← htext, getLast?_intercalate hne]

namespace Written

variable {p : ExpressionPart} {c : Code} {ts left right : List Token} {r : Reference}

theorem references_positions {ns : List Nat} : (c.positions ns).references = c.references := by
  induction ns generalizing c with
  | nil => rfl
  | cons n ns ih =>
    rw [Code.positions, List.foldl_cons]
    show (Code.positions _ ns).references = _
    rw [ih]
    simp [Code.references, Code.listReferences, Code.op, Grammar.positionCode]

theorem bound_positions {ns : List Nat} : (c.positions ns).bound = c.bound := by
  induction ns generalizing c with
  | nil => rfl
  | cons n ns ih =>
    rw [Code.positions, List.foldl_cons]
    show (Code.positions _ ns).bound = _
    rw [ih]
    simp [Code.bound, Code.listBound, Code.op, Grammar.positionCode]

/-- An operand does not end in a point. -/
theorem exists_concat (h : Written .primary c ts) :
    ∃ front t, ts = front ++ [t] ∧ t.pointSpacing = none := by
  cases h with
  | name hi => exact ⟨[], _, rfl, rfl⟩
  | literal => exact ⟨[], _, rfl, rfl⟩
  | member h hi => exact ⟨_, _, rfl, rfl⟩
  | position h hn => exact ⟨_, _, rfl, rfl⟩
  | @positions c ts s text ns h hns => exact ⟨ts ++ [.mark '.' s], .literal text, by simp, rfl⟩
  | @call c ts i d us h hi hd =>
    exact ⟨ts ++ [.word i], .group .parenthesis us, by simp, rfl⟩
  | apply h hc hd => exact ⟨_, _, rfl, rfl⟩
  | index h hd => exact ⟨_, _, rfl, rfl⟩
  | group hdelimiter hd => exact ⟨[], _, rfl, rfl⟩

/-- A name after a point is a member, whether the point is a mark or the last of a number. -/
theorem isOpen_eq_false_of_point (h : Written .point c ts) : Token.isOpen (left ++ ts) = false := by
  cases h with
  | @dot c ts s h =>
    -- a value does not end in a point, so the point is not the second one of a range
    obtain ⟨front, t, rfl, ht⟩ := h.exists_concat
    have hpoint : Token.endsInPoint (left ++ (front ++ [t] ++ [.mark '.' s])) = true := by
      rw [← List.append_assoc, Token.endsInPoint_concat, ← List.append_assoc, List.getLast?_concat,
        Option.bind_some, ht]
      rfl
    rw [Token.isOpen, hpoint]
    rfl
  | @number c ts s text ns h hns =>
    have hnumber : Token.endsInNumber (left ++ (ts ++ [.mark '.' s, .literal text])) = true := by
      rw [show left ++ (ts ++ [.mark '.' s, .literal text]) =
        (left ++ ts ++ [.mark '.' s]) ++ [.literal text] by simp, Token.endsInNumber_concat]
      simp [getLast?_of_positions? hns]
    rw [Token.isOpen, hnumber, Bool.not_true, Bool.and_false]

end Written

namespace Token

variable {left right : List Token} {i : Ident} {r : Reference}

theorem refers_iff_of_isOpen (h : isOpen left = true) (hi : i ≠ .plain "mut") :
    Refers r left i right ↔ r = .bare i := by
  unfold isOpen at h
  simp only [Bool.and_eq_true, Bool.not_eq_true'] at h
  unfold Refers expressionReference
  simp [h.1, h.2, hi, eq_comm]

theorem not_refers_mut (h : isOpen left = true) : ¬ Refers r left (.plain "mut") right := by
  unfold isOpen at h
  simp only [Bool.and_eq_true, Bool.not_eq_true'] at h
  unfold Refers expressionReference
  simp [h.1, h.2]

theorem refers_iff_of_not_isOpen (h : isOpen left = false) :
    Refers r left i right ↔ r = .member i (beginsCall right) := by
  unfold Refers expressionReference
  have hor : (endsInPoint left || endsInNumber left) = true := by
    unfold isOpen at h
    cases hpoint : endsInPoint left <;> simp_all
  simp [hor, eq_comm]

end Token

theorem Ident.ne_mut {i : Ident} (h : i.isName = true ∨ i = .plain "self") : i ≠ .plain "mut" := by
  rintro rfl
  revert h
  decide

namespace Written

variable {p : ExpressionPart} {c : Code} {ts left right : List Token} {r : Reference}

open Token

/-- What follows a part of an expression is not taken for the arguments of its last member. -/
def Ends (p : ExpressionPart) (c : Code) (right : List Token) : Prop :=
  beginsCall right = false ∨ p = .point ∨ p = .primary ∧ ∀ b i, c ≠ .member b i

theorem Ends.beginsCall_eq_false (h : Ends p c right) (hpoint : p ≠ .point)
    (hprimary : p ≠ .primary) : beginsCall right = false := by
  rcases h with h | h | ⟨h, -⟩
  · exact h
  · contradiction
  · contradiction

/-- Two parts of an expression with an operator between them. -/
theorem standsBetween_operator {d : Code} {us : List Token} {cs : List Char} {s : Spacing}
    (hc : ∀ {right}, Ends p c right → (StandsBetween (Refers r) left right ts ↔ r ∈ c.references))
    (hd : ∀ {left}, isOpen left = true →
      (StandsBetween (Refers r) left right us ↔ r ∈ d.references))
    (hcs : cs ≠ []) (hopen : ∀ {before}, isOpen (before ++ marks s cs) = true) :
    StandsBetween (Refers r) left right (ts ++ (marks s cs ++ us)) ↔
      r ∈ c.references ∨ r ∈ d.references := by
  have hends : Ends p c (marks s cs ++ us ++ right) := by
    left
    rw [List.append_assoc]
    exact beginsCall_marks_append hcs
  rw [standsBetween_append, standsBetween_append, hc hends, hd hopen]
  simp

/-- Between tokens where a name may begin and tokens that are not the arguments of a last member,
the code of a part of an expression refers to what its words refer to. -/
theorem standsBetween_iff (h : Written p c ts) : ∀ {left right}, isOpen left = true →
    Ends p c right → (StandsBetween (Refers r) left right ts ↔ r ∈ c.references) := by
  -- the tokens on both sides stay free in the induction, for a part stands between others
  induction h with
  | name hi =>
    intro left right hleft _
    rw [standsBetween_word, refers_iff_of_isOpen hleft (Ident.ne_mut hi)]
    simp [Code.references]
  | literal =>
    intro left right _ _
    simp [Code.references]
  | @member c ts i h hi ih =>
    intro left right hleft hright
    have hcall : beginsCall right = false := by
      rcases hright with hcall | hp | ⟨-, hc⟩
      · exact hcall
      · cases hp
      · exact absurd rfl (hc c i)
    rw [standsBetween_append, standsBetween_word, ih hleft (.inr (.inl rfl)),
      refers_iff_of_not_isOpen h.isOpen_eq_false_of_point, hcall]
    simp [Code.references, or_comm]
  | @position c ts text n h hn ih =>
    intro left right hleft _
    rw [standsBetween_append, ih hleft (.inr (.inl rfl))]
    simp [Code.references, Code.listReferences, Code.op, Grammar.positionCode]
  | @positions c ts s text ns h hns ih =>
    intro left right hleft _
    rw [standsBetween_append, ih hleft (.inl rfl), references_positions]
    simp [standsBetween_cons]
  | @call c ts i d us h hi hd ih ihd =>
    intro left right hleft _
    have hcall : Refers r (left ++ ts) i (.group .parenthesis us :: right) ↔
        r = .member i true :=
      refers_iff_of_not_isOpen h.isOpen_eq_false_of_point
    rw [standsBetween_append, ih hleft (.inr (.inl rfl)), standsBetween_cons, standsBetween_group,
      stands_iff, ihd rfl (.inl rfl)]
    simp [hcall, Code.references, Code.listReferences, Code.empty, or_left_comm]
  | @apply c ts d us h hc hd ih ihd =>
    intro left right hleft _
    rw [standsBetween_append, ih hleft (.inr (.inr ⟨rfl, hc⟩)), standsBetween_group, stands_iff,
      ihd rfl (.inl rfl)]
    simp [Code.references, Code.listReferences]
  | @index c ts d us h hd ih ihd =>
    intro left right hleft _
    rw [standsBetween_append, ih hleft (.inl rfl), standsBetween_group, stands_iff,
      ihd rfl (.inl rfl)]
    simp [Code.references, Code.listReferences]
  | @group delimiter d us hdelimiter hd ihd =>
    intro left right _ _
    rw [standsBetween_group, stands_iff, ihd rfl (.inl rfl), Code.references]
  | @dot c ts s h ih =>
    intro left right hleft _
    rw [standsBetween_append, ih hleft (.inl rfl)]
    simp
  | @number c ts s text ns h hns ih =>
    intro left right hleft _
    rw [standsBetween_append, ih hleft (.inl rfl), references_positions]
    simp [standsBetween_cons]
  | primary h ih =>
    intro left right hleft hright
    exact ih hleft (.inl (hright.beginsCall_eq_false (by decide) (by decide)))
  | @reference c ts s h ih =>
    intro left right hleft hright
    have hcall := hright.beginsCall_eq_false (by decide) (by decide)
    rw [standsBetween_cons, ih (isOpen_concat_mark (by decide)) (.inl hcall)]
    simp [Code.references, Code.listReferences, Code.op, Code.empty]
  | @mutable c ts s h ih =>
    intro left right hleft hright
    have hcall := hright.beginsCall_eq_false (by decide) (by decide)
    rw [standsBetween_cons, standsBetween_cons, ih isOpen_concat_word (.inl hcall)]
    simp [Code.references, Code.listReferences, Code.op, Code.empty, Code.keyword,
      not_refers_mut (isOpen_concat_mark _)]
  | @unary sign c ts s hsign h ih =>
    intro left right hleft hright
    have hcall := hright.beginsCall_eq_false (by decide) (by decide)
    have hlast : ∀ sign ∈ ["*", "!", "-"], sign.toList.getLast?.any (· ≠ '.') = true := by decide
    rw [standsBetween_append, ih (isOpen_append_marks (hlast sign hsign)) (.inl hcall)]
    simp [Code.references, Code.listReferences, Code.op]
  | @binary sign c d ts us s hsign hc hd ihc ihd =>
    intro left right hleft hright
    have hcall := hright.beginsCall_eq_false (by decide) (by decide)
    have hne : ∀ sign ∈ binarySigns, sign.toList ≠ [] := by decide
    have hlast : ∀ sign ∈ binarySigns, sign.toList.getLast?.any (· ≠ '.') = true := by decide
    rw [standsBetween_operator (ihc hleft) (fun hleft => ihd hleft (.inl hcall)) (hne sign hsign)
      (isOpen_append_marks (hlast sign hsign))]
    simp [Code.references, Code.listReferences, Code.op]
  | @rangeFrom c ts s h ih =>
    intro left right hleft _
    rw [standsBetween_append, ih hleft (.inl rfl)]
    simp [Code.references, Code.listReferences, Code.op]
  | @range c d ts us s hc hd ihc ihd =>
    intro left right hleft hright
    have hcall := hright.beginsCall_eq_false (by decide) (by decide)
    rw [standsBetween_operator (ihc hleft) (fun hleft => ihd hleft (.inl hcall)) (by decide)
      isOpen_append_points]
    simp [Code.references, Code.listReferences, Code.op]
  | @closedRange c d ts us s hc hd ihc ihd =>
    intro left right hleft hright
    have hcall := hright.beginsCall_eq_false (by decide) (by decide)
    rw [standsBetween_operator (ihc hleft) (fun hleft => ihd hleft (.inl hcall)) (by decide)
      (isOpen_append_marks (by decide))]
    simp [Code.references, Code.listReferences, Code.op]
  | noStart =>
    intro left right _ _
    simp [Code.references, Code.empty]
  | start h ih =>
    intro left right hleft hright
    exact ih hleft (.inl (hright.beginsCall_eq_false (by decide) (by decide)))
  | nothing =>
    intro left right _ _
    simp [Code.references, Code.empty]
  | noElements =>
    intro left right _ _
    simp [Code.references, Code.listReferences]
  | one h ih =>
    intro left right hleft hright
    exact ih hleft (.inl (hright.beginsCall_eq_false (by decide) (by decide)))
  | lastElement h ih =>
    intro left right hleft hright
    rw [ih hleft (.inl (hright.beginsCall_eq_false (by decide) (by decide)))]
    simp [Code.references, Code.listReferences]
  | @element c cs ts us s h hcs ih ihcs =>
    intro left right hleft hright
    have hcall := hright.beginsCall_eq_false (by decide) (by decide)
    rw [standsBetween_operator (ih hleft) (fun hleft => ihcs hleft (.inl hcall)) (by decide)
      (isOpen_append_marks (by decide))]
    simp [Code.references, Code.listReferences, Code.op]
  | @firstElement c cs ts us s h hcs ih ihcs =>
    intro left right hleft hright
    have hcall := hright.beginsCall_eq_false (by decide) (by decide)
    rw [standsBetween_operator (ih hleft) (fun hleft => ihcs hleft (.inl hcall)) (by decide)
      (isOpen_append_marks (by decide))]
    simp [Code.references, Code.listReferences, Code.op]
  | @repeated c d ts us s hc hd ihc ihd =>
    intro left right hleft hright
    have hcall := hright.beginsCall_eq_false (by decide) (by decide)
    rw [standsBetween_operator (ihc hleft) (fun hleft => ihd hleft (.inl hcall)) (by decide)
      (isOpen_append_marks (by decide))]
    simp [Code.references, Code.listReferences, Code.op]

/-- The code of an expression refers to what the words among its tokens refer to. -/
theorem mem_references_iff (h : Written .expression c ts) :
    r ∈ c.references ↔ Stands (Refers r) ts := by
  rw [stands_iff, h.standsBetween_iff rfl (.inl rfl)]

theorem bound_eq_nil (h : Written p c ts) : c.bound = [] := by
  induction h with
  | positions _ _ ih => rw [bound_positions, ih]
  | number _ _ ih => rw [bound_positions, ih]
  | _ =>
    simp_all [Code.bound, Code.listBound, Code.op, Code.empty, Code.keyword, Grammar.positionCode]

end Written

end ReactiveModel
