import Mathlib.Data.List.Forall2
import ReactiveModel.Proofs.Code.Occurrence

/-!
# References in source order

The references of a tree are collected in the order in which they are passed, so a member comes
before what it is taken from, although its name stands after it, and a where clause before the
parameters. Here they are in the order of the source: the same references (`perm_inOrder`), whose
names follow one another as in the tokens of a tree that is written as it stands in the source
(`follow_inOrder`). Among the tokens handed to a macro both orders are the same.
-/

namespace ReactiveModel

/-- The identifier that makes the reference. -/
def Reference.ident : Reference → Ident
  | .member i _ => i
  | .bare i => i

namespace Token

mutual

/-- The words in a token. -/
def innerWords : Token → List Ident
  | .word i => [i]
  | .group _ body => words body
  | _ => []

/-- The words in a stream of tokens, at every depth. -/
def words : List Token → List Ident
  | [] => []
  | t :: rest => t.innerWords ++ words rest

end

theorem words_append : ∀ ts us : List Token, words (ts ++ us) = words ts ++ words us
  | [], _ => rfl
  | t :: ts, us => by
    rw [List.cons_append, words, words, words_append ts us, List.append_assoc]

/-- A scan makes a reference of every word, in the order of the tokens. -/
theorem map_ident_references (before last : Option Spacing) : ∀ ts : List Token,
    (references before last ts).map Reference.ident = words ts
  | [] => by rw [references, words, List.map_nil]
  | .word i :: rest => by
    have h := map_ident_references last none rest
    simp only [references, words, innerWords, pointSpacing, List.map_append, h]
    split <;> rfl
  | .mark c spacing :: rest => by
    have h := map_ident_references last (Token.mark c spacing).pointSpacing rest
    simp only [references, innerReferences, words, innerWords, List.map_append, h]
    rfl
  | .literal text :: rest => by
    have h := map_ident_references last none rest
    simp only [references, innerReferences, words, innerWords, pointSpacing, List.map_append, h]
    rfl
  | .group delimiter body :: rest => by
    have h := map_ident_references last none rest
    have hbody := map_ident_references none none body
    simp only [references, innerReferences, words, innerWords, pointSpacing, List.map_append, h,
      hbody]

theorem words_opMarks : ∀ cs : List Char, words (opMarks cs) = []
  | [] => rfl
  | [_] => rfl
  | _ :: c :: cs => words_opMarks (c :: cs)

@[simp] theorem words_op (text : String) : words (op text) = [] := words_opMarks _

end Token

/-! ## Parts in source order -/

namespace Arrangement

/-- What belongs to the parts, in the order of the source and not in that in which they are
passed. -/
def inSource {α : Type} : Arrangement → List α → List α
  | .secondFirst _, first :: second :: rest => second :: first :: rest
  | _, parts => parts

theorem perm_inSource {α : Type} (arrangement : Arrangement) (parts : List α) :
    (arrangement.inSource parts).Perm parts := by
  unfold inSource
  split
  · exact .swap _ _ _
  · exact .refl _

/-- Whether parts are written in the order of the source: lifetimes come first there already. -/
def WritesSource : Arrangement → Prop
  | .secondFirst _ => True
  | .lifetimesFirst isLifetime =>
    isLifetime.Pairwise fun earlier later : Bool => later = true → earlier = true

theorem words_enclose (brackets : Option Delimiter) (ts : List Token) :
    Token.words (enclose brackets ts) = Token.words ts := by
  cases brackets with
  | none => rfl
  | some delimiter => simp [enclose, Token.words, Token.innerWords]

theorem pick_nil_left (parts : List (List Token)) :
    pick true [] parts = [] ∧ pick false [] parts = parts.flatten := by
  induction parts with
  | nil => exact ⟨rfl, rfl⟩
  | cons part parts ih => simp [pick, ih]

theorem pick_of_forall_eq_false {marks : List Bool} (h : ∀ m ∈ marks, m = false)
    (parts : List (List Token)) :
    pick true marks parts = [] ∧ pick false marks parts = parts.flatten := by
  induction parts generalizing marks with
  | nil => cases marks <;> exact ⟨rfl, rfl⟩
  | cons part parts ih =>
    cases marks with
    | nil => exact pick_nil_left _
    | cons m marks =>
      obtain ⟨rfl, hmarks⟩ := List.forall_mem_cons.1 h
      simp [pick, ih hmarks]

/-- Lifetimes that come first already are written where they stand. -/
theorem pick_append_pick {marks : List Bool}
    (h : marks.Pairwise fun earlier later : Bool => later = true → earlier = true)
    (parts : List (List Token)) :
    pick true marks parts ++ pick false marks parts = parts.flatten := by
  induction parts generalizing marks with
  | nil => cases marks <;> rfl
  | cons part parts ih =>
    cases marks with
    | nil => simp [pick_nil_left]
    | cons m marks =>
      obtain ⟨hm, hmarks⟩ := List.pairwise_cons.1 h
      cases m with
      | true => simp [pick, ih hmarks]
      | false =>
        obtain ⟨htrue, hfalse⟩ :=
          pick_of_forall_eq_false (fun m hmem => by simpa using hm m hmem) parts
        simp [pick, htrue, hfalse]

/-- The words of parts that are written as they stand in the source. -/
theorem words_write {arrangement : Arrangement} (h : arrangement.WritesSource)
    (parts : List (List Token)) :
    Token.words (arrangement.write parts) = Token.words (arrangement.inSource parts).flatten := by
  cases arrangement with
  | secondFirst brackets =>
    match parts with
    | [] => rfl
    | [_] => rfl
    | first :: second :: rest =>
      simp only [write, inSource, List.flatten_cons, Token.words_append, words_enclose]
  | lifetimesFirst marks => exact congrArg Token.words (pick_append_pick h parts)

/-- What holds of parts one by one holds of them in the order of the source. -/
theorem forall₂_inSource {α β : Type} {holds : α → β → Prop} (arrangement : Arrangement)
    {as : List α} {bs : List β} (h : List.Forall₂ holds as bs) :
    List.Forall₂ holds (arrangement.inSource as) (arrangement.inSource bs) := by
  cases arrangement with
  | lifetimesFirst _ => exact h
  | secondFirst _ =>
    cases h with
    | nil => exact .nil
    | cons hfirst h =>
      cases h with
      | nil => exact .cons hfirst .nil
      | cons hsecond h => exact .cons hsecond (.cons hfirst h)

end Arrangement

namespace Code

/-! ## The order of the source -/

mutual

/-- The references in a tree, in the order of the source. -/
def inOrder : Code → List Reference
  | .raw _ => []
  | .group _ body => body.inOrder
  | .seq parts => (inOrderOfEach parts).flatten
  | .arranged arrangement parts => (arrangement.inSource (inOrderOfEach parts)).flatten
  | .name i => [.bare i]
  | .member base i => base.inOrder ++ [.member i false]
  | .call base i arguments => base.inOrder ++ .member i true :: arguments.inOrder
  | .binding _ => []
  | .invocation _ tokens => Token.references none none tokens
  | .attribute _ _ value => value.inOrder

/-- The references in each of several trees, in the order of the source. -/
def inOrderOfEach : List Code → List (List Reference)
  | [] => []
  | c :: rest => c.inOrder :: inOrderOfEach rest

end

mutual

/-- In both orders the references are the same. -/
theorem perm_inOrder : ∀ c : Code, c.references.Perm c.inOrder
  | .raw _ => .nil
  | .group _ body => perm_inOrder body
  | .seq parts => perm_inOrderOfEach parts
  | .arranged arrangement parts =>
    (perm_inOrderOfEach parts).trans (arrangement.perm_inSource _).symm.flatten
  | .name _ => .refl _
  | .member base i => by
    rw [references, inOrder]
    exact ((perm_inOrder base).cons _).trans (List.perm_append_singleton _ _).symm
  | .call base i arguments => by
    rw [references, inOrder]
    exact (((perm_inOrder base).append (perm_inOrder arguments)).cons _).trans
      List.perm_middle.symm
  | .binding _ => .nil
  | .invocation _ _ => .refl _
  | .attribute _ _ value => perm_inOrder value

theorem perm_inOrderOfEach : ∀ cs : List Code,
    (listReferences cs).Perm (inOrderOfEach cs).flatten
  | [] => .nil
  | c :: cs => (perm_inOrder c).append (perm_inOrderOfEach cs)

end

/-- Whether a piece of code is written as it stands in the source, its parts apart. An attribute has
no names in a value that it does not assign. -/
def WritesSource : Code → Prop
  | .arranged arrangement _ => arrangement.WritesSource
  | .attribute _ head value => head.arguments = .value ∨ value.inOrder = []
  | _ => True

/-- All of the code is written as it stands in the source. -/
def IsAsInSource (c : Code) : Prop := ∀ d, c.Contains d → d.WritesSource

theorem isAsInSource_iff {c : Code} :
    c.IsAsInSource ↔ c.WritesSource ∧ ∀ part ∈ c.parts, part.IsAsInSource := by
  constructor
  · exact fun h => ⟨h c .refl, fun part hpart d hd => h d (hd.head hpart)⟩
  · rintro ⟨hc, hparts⟩ d hd
    obtain rfl | ⟨part, hpart, hd⟩ := contains_iff.1 hd
    · exact hc
    · exact hparts part hpart d hd

theorem IsAsInSource.part {c part : Code} (h : c.IsAsInSource) (hpart : part ∈ c.parts) :
    part.IsAsInSource := (isAsInSource_iff.1 h).2 part hpart

theorem listTokens_eq_flatten (cs : List Code) : listTokens cs = (tokensOfEach cs).flatten := by
  induction cs with
  | nil => rfl
  | cons c cs ih => rw [listTokens, ih, tokensOfEach, List.flatten_cons]

/-- References whose names follow one another as in the tokens. -/
def Follow (references : List Reference) (tokens : List Token) : Prop :=
  (references.map Reference.ident).Sublist (Token.words tokens)

theorem follow_flatten {references : List (List Reference)} {tokens : List (List Token)}
    (h : List.Forall₂ Follow references tokens) : Follow references.flatten tokens.flatten := by
  induction h with
  | nil => exact List.nil_sublist _
  | cons hfirst _ ih =>
    rw [Follow, List.flatten_cons, List.flatten_cons, List.map_append, Token.words_append]
    exact hfirst.append ih

mutual

/-- The names of the references follow one another as in the tokens of the tree. -/
theorem follow_inOrder : ∀ c : Code, c.IsAsInSource → Follow c.inOrder c.toTokens
  | .raw _, _ => List.nil_sublist _
  | .group _ body, h => by
    have hbody := follow_inOrder body (h.part (List.mem_singleton_self _))
    simpa only [Follow, inOrder, toTokens, Token.words, Token.innerWords, List.append_nil] using
      hbody
  | .seq parts, h => by
    rw [inOrder, toTokens, listTokens_eq_flatten]
    exact follow_flatten (forall₂_follow_inOrder parts fun _ hpart => h.part hpart)
  | .arranged arrangement parts, h => by
    have hparts := forall₂_follow_inOrder parts fun _ hpart => h.part hpart
    rw [Follow, inOrder, toTokens, Arrangement.words_write (h _ .refl)]
    exact follow_flatten (arrangement.forall₂_inSource hparts)
  | .name _, _ => .refl _
  | .member base i, h => by
    have hbase := follow_inOrder base (h.part (List.mem_singleton_self _))
    simp only [Follow, inOrder, toTokens, Token.words_append, List.map_append]
    exact hbase.append (.refl _)
  | .call base i arguments, h => by
    have hbase := follow_inOrder base (h.part List.mem_cons_self)
    have harguments := follow_inOrder arguments
      (h.part (List.mem_cons_of_mem _ (List.mem_singleton_self _)))
    simp only [Follow, inOrder, toTokens, Token.words_append, List.map_append, List.map_cons]
    exact hbase.append (harguments.cons_cons i)
  | .binding _, _ => List.nil_sublist _
  | .invocation _ tokens, _ => by
    simp only [Follow, inOrder, toTokens, Token.map_ident_references, Token.words,
      Token.innerWords, List.append_nil]
    exact .refl _
  | .attribute site head value, h => by
    have hvalue := follow_inOrder value (h.part (List.mem_singleton_self _))
    rcases h _ .refl with hassigns | hnone
    · simp only [Follow, inOrder, toTokens, AttributeHead.toTokens, hassigns, Token.words_append]
      refine List.sublist_append_of_sublist_right ?_
      simpa [Token.words, Token.innerWords, Token.words_append] using
        List.sublist_append_of_sublist_right hvalue
    · rw [inOrder, hnone]
      exact List.nil_sublist _

theorem forall₂_follow_inOrder : ∀ cs : List Code, (∀ c ∈ cs, c.IsAsInSource) →
    List.Forall₂ Follow (inOrderOfEach cs) (tokensOfEach cs)
  | [], _ => .nil
  | c :: cs, h => by
    obtain ⟨hc, hcs⟩ := List.forall_mem_cons.1 h
    exact .cons (follow_inOrder c hc) (forall₂_follow_inOrder cs hcs)

end

end Code

end ReactiveModel
