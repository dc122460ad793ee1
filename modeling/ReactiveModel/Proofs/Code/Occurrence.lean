import Mathlib.Logic.Relation
import ReactiveModel.Code.References

/-!
# Where names stand in code

The references and the bound identifiers of a tree are collected by two recursions over it. Here
they are told by the places where they stand: a pattern binds an identifier if the tree contains a
binding of it (`Code.mem_bound_iff`), and code refers to a name if one of its parts does, or a word
among the tokens handed to a macro in it (`Code.mem_references_iff`). Whether such a word is a
member is told by the tokens just before it.
-/

namespace ReactiveModel

namespace Token

variable {ts : List Token} {r : Reference}

/-- Whether the next token follows a single point: one that is not the second of two joint ones. -/
def endsInPoint (before : List Token) : Bool :=
  match before.reverse with
  | [] => false
  | last :: earlier =>
    last.pointSpacing.isSome && earlier.head?.bind pointSpacing != some .joint

/-- Whether the next token follows a number with a point at its end, as in `x.0. y`. -/
def endsInNumber (before : List Token) : Bool :=
  match before.getLast? with
  | some (.literal text) => text.toList.getLast? == some '.'
  | _ => false

/-- What a word between other tokens refers to. -/
def wordReference (before : List Token) (i : Ident) (after : List Token) : Reference :=
  if endsInPoint before then .member i (beginsCall after) else .bare i

/-- A word is a member if it stands after a single point. -/
theorem wordReference_eq_member_iff {before after : List Token} {i j : Ident} {called : Bool} :
    wordReference before i after = .member j called ↔
      endsInPoint before = true ∧ beginsCall after = called ∧ i = j := by
  unfold wordReference
  cases endsInPoint before with
  | true => simp [and_comm]
  | false => simp

theorem wordReference_eq_bare_iff {before after : List Token} {i j : Ident} :
    wordReference before i after = .bare j ↔ endsInPoint before = false ∧ i = j := by
  unfold wordReference
  cases endsInPoint before with
  | true => simp
  | false => simp

/-- The stream is the other one, or stands in groups of it. -/
def Nested : List Token → List Token → Prop :=
  Relation.ReflTransGen fun outer inner => ∃ delimiter, .group delimiter inner ∈ outer

/-- Somewhere in the stream is a word that makes the reference. -/
def Occurs (ts : List Token) (r : Reference) : Prop :=
  ∃ before i after, Nested ts (before ++ .word i :: after) ∧ wordReference before i after = r

/-- A word stands in the stream itself or in a group of it. -/
theorem occurs_iff : Occurs ts r ↔
    (∃ before i after, ts = before ++ .word i :: after ∧ wordReference before i after = r) ∨
      ∃ delimiter body, .group delimiter body ∈ ts ∧ Occurs body r := by
  constructor
  · rintro ⟨before, i, after, h, hr⟩
    rcases h.cases_head with h | ⟨body, ⟨delimiter, hbody⟩, h⟩
    · exact .inl ⟨before, i, after, h, hr⟩
    · exact .inr ⟨delimiter, body, hbody, before, i, after, h, hr⟩
  · rintro (⟨before, i, after, rfl, hr⟩ | ⟨delimiter, body, hbody, before, i, after, h, hr⟩)
    · exact ⟨before, i, after, .refl, hr⟩
    · exact ⟨before, i, after, h.head ⟨delimiter, hbody⟩, hr⟩

/-- The first token of a stream stands before the others. -/
theorem exists_split_cons {p : List Token → Ident → List Token → Prop} {t : Token}
    {rest : List Token} :
    (∃ before i after, t :: rest = before ++ .word i :: after ∧ p before i after) ↔
      (∃ i, t = .word i ∧ p [] i rest) ∨
        ∃ before i after, rest = before ++ .word i :: after ∧ p (t :: before) i after := by
  constructor
  · rintro ⟨_ | ⟨first, before⟩, i, after, h, hp⟩
    · cases h
      exact .inl ⟨i, rfl, hp⟩
    · cases h
      exact .inr ⟨before, i, after, rfl, hp⟩
  · rintro (⟨i, rfl, hp⟩ | ⟨before, i, after, rfl, hp⟩)
    · exact ⟨[], i, rest, rfl, hp⟩
    · exact ⟨t :: before, i, after, rfl, hp⟩

/-- A scan reads a word by the points before it, and a group from its own beginning. -/
theorem mem_references_cons {passed rest : List Token} {t : Token} :
    r ∈ references (passed.tail.head?.bind pointSpacing) (passed.head?.bind pointSpacing)
        (t :: rest) ↔
      (∃ i, t = .word i ∧ wordReference passed.reverse i rest = r) ∨ r ∈ t.innerReferences ∨
        r ∈ references (passed.head?.bind pointSpacing) t.pointSpacing rest := by
  cases t with
  | word i =>
    have h : wordReference passed.reverse i rest =
        if (passed.head?.bind pointSpacing).isSome &&
            passed.tail.head?.bind pointSpacing != some .joint
        then .member i (beginsCall rest) else .bare i := by
      rw [wordReference, endsInPoint, List.reverse_reverse]
      cases passed <;> rfl
    simp only [references, innerReferences, List.mem_append, word.injEq, exists_eq_left', h,
      List.not_mem_nil, false_or]
    split <;> simp [eq_comm]
  | mark c spacing => simp [references, innerReferences]
  | literal text => simp [references, innerReferences]
  | group delimiter body => simp [references, innerReferences]

mutual

theorem mem_innerReferences : ∀ t : Token,
    r ∈ t.innerReferences ↔ ∃ delimiter body, t = .group delimiter body ∧ Occurs body r
  | .word _ => by simp [innerReferences]
  | .mark _ _ => by simp [innerReferences]
  | .literal _ => by simp [innerReferences]
  | .group delimiter body => by
    have h : r ∈ references none none body ↔ Occurs body r :=
      (mem_references_after [] body).trans occurs_iff.symm
    rw [innerReferences, h]
    exact ⟨fun hr => ⟨delimiter, body, rfl, hr⟩, fun ⟨_, _, rfl, hr⟩ => hr⟩

/-- A scan that has passed some tokens, given backwards, makes the references of the words that
follow. -/
theorem mem_references_after (passed : List Token) : ∀ ts : List Token,
    r ∈ references (passed.tail.head?.bind pointSpacing) (passed.head?.bind pointSpacing) ts ↔
      (∃ before i after, ts = before ++ .word i :: after ∧
        wordReference (passed.reverse ++ before) i after = r) ∨
      ∃ delimiter body, .group delimiter body ∈ ts ∧ Occurs body r
  | [] => by simp [references]
  | t :: rest => by
    have hrest : r ∈ references (passed.head?.bind pointSpacing) t.pointSpacing rest ↔ _ :=
      mem_references_after (t :: passed) rest
    have hsplit := @exists_split_cons
      (fun before i after => wordReference (passed.reverse ++ before) i after = r) t rest
    simp only [List.append_nil] at hsplit
    rw [mem_references_cons, hsplit, mem_innerReferences t, hrest]
    simp only [List.mem_cons, List.reverse_cons, List.append_assoc, List.cons_append,
      List.nil_append, or_and_right, exists_or, @eq_comm _ (group _ _)]
    -- The same four cases on both sides: a word or a group, at the head of the stream or after it.
    rw [or_assoc, or_left_comm (a := ∃ _ _, _)]

end

/-- A scan of a stream makes the references that occur in it. -/
theorem mem_references_iff : r ∈ references none none ts ↔ Occurs ts r :=
  (mem_references_after [] ts).trans occurs_iff.symm

end Token

namespace Code

variable {c d : Code} {i : Ident} {r : Reference}

/-- The pieces that a piece of code is made of. -/
def parts : Code → List Code
  | .raw _ => []
  | .group _ body => [body]
  | .seq parts => parts
  | .arranged _ parts => parts
  | .name _ => []
  | .member base _ => [base]
  | .call base _ arguments => [base, arguments]
  | .binding _ => []
  | .invocation _ _ => []
  | .attribute _ _ value => [value]

/-- The code is the other piece or has it somewhere inside. -/
def Contains : Code → Code → Prop := Relation.ReflTransGen fun whole part => part ∈ whole.parts

theorem contains_iff : c.Contains d ↔ c = d ∨ ∃ part ∈ c.parts, part.Contains d :=
  Relation.ReflTransGen.cases_head_iff

/-- What is somewhere inside is the code itself or somewhere inside of a part. -/
theorem exists_contains_iff {p : Code → Prop} :
    (∃ d, c.Contains d ∧ p d) ↔ p c ∨ ∃ part ∈ c.parts, ∃ d, part.Contains d ∧ p d := by
  constructor
  · rintro ⟨d, h, hd⟩
    rcases contains_iff.1 h with rfl | ⟨part, hpart, h⟩
    · exact .inl hd
    · exact .inr ⟨part, hpart, d, h, hd⟩
  · rintro (hc | ⟨part, hpart, d, h, hd⟩)
    · exact ⟨c, .refl, hc⟩
    · exact ⟨d, contains_iff.2 (.inr ⟨part, hpart, h⟩), hd⟩

mutual

/-- The patterns in a tree bind an identifier if the tree has a binding of it inside. -/
theorem mem_bound_iff : ∀ c : Code, i ∈ c.bound ↔ c.Contains (.binding i)
  | .raw _ => by rw [contains_iff]; simp [bound, parts]
  | .group _ body => by rw [contains_iff]; simp [bound, parts, mem_bound_iff body]
  | .seq cs => by rw [contains_iff]; simp [bound, parts, mem_listBound_iff cs]
  | .arranged _ cs => by rw [contains_iff]; simp [bound, parts, mem_listBound_iff cs]
  | .name _ => by rw [contains_iff]; simp [bound, parts]
  | .member base _ => by rw [contains_iff]; simp [bound, parts, mem_bound_iff base]
  | .call base _ arguments => by
    rw [contains_iff]; simp [bound, parts, mem_bound_iff base, mem_bound_iff arguments]
  | .binding _ => by rw [contains_iff]; simp [bound, parts, eq_comm]
  | .invocation _ _ => by rw [contains_iff]; simp [bound, parts]
  | .attribute _ _ value => by rw [contains_iff]; simp [bound, parts, mem_bound_iff value]

theorem mem_listBound_iff : ∀ cs : List Code,
    i ∈ listBound cs ↔ ∃ c ∈ cs, c.Contains (.binding i)
  | [] => by simp [listBound]
  | c :: cs => by simp [listBound, mem_bound_iff c, mem_listBound_iff cs]

end

/-- Whether a piece of code makes the reference, its parts apart. -/
def Refers (r : Reference) : Code → Prop
  | .name i => r = .bare i
  | .member _ i => r = .member i false
  | .call _ i _ => r = .member i true
  | .invocation _ tokens => Token.Occurs tokens r
  | _ => False

/-- Somewhere in the code is a piece that makes the reference. -/
def Occurs (c : Code) (r : Reference) : Prop := ∃ piece, c.Contains piece ∧ piece.Refers r

theorem occurs_iff : c.Occurs r ↔ c.Refers r ∨ ∃ part ∈ c.parts, part.Occurs r :=
  exists_contains_iff

mutual

/-- Code refers to what is referred to somewhere inside. -/
theorem mem_references_iff : ∀ c : Code, r ∈ c.references ↔ c.Occurs r
  | .raw _ => by rw [occurs_iff]; simp [references, parts, Refers]
  | .group _ body => by rw [occurs_iff]; simp [references, parts, Refers, mem_references_iff body]
  | .seq cs => by rw [occurs_iff]; simp [references, parts, Refers, mem_listReferences_iff cs]
  | .arranged _ cs => by
    rw [occurs_iff]; simp [references, parts, Refers, mem_listReferences_iff cs]
  | .name _ => by rw [occurs_iff]; simp [references, parts, Refers]
  | .member base _ => by
    rw [occurs_iff]; simp [references, parts, Refers, mem_references_iff base]
  | .call base _ arguments => by
    rw [occurs_iff]
    simp [references, parts, Refers, mem_references_iff base, mem_references_iff arguments]
  | .binding _ => by rw [occurs_iff]; simp [references, parts, Refers]
  | .invocation _ _ => by
    rw [occurs_iff]; simp [references, parts, Refers, Token.mem_references_iff]
  | .attribute _ _ value => by
    rw [occurs_iff]; simp [references, parts, Refers, mem_references_iff value]

theorem mem_listReferences_iff : ∀ cs : List Code,
    r ∈ listReferences cs ↔ ∃ c ∈ cs, c.Occurs r
  | [] => by simp [listReferences]
  | c :: cs => by simp [listReferences, mem_references_iff c, mem_listReferences_iff cs]

end

end Code

end ReactiveModel
