import ReactiveModel.Proofs.Dependency.MacroScan
import ReactiveModel.Proofs.Dependency.Shadowing

/-!
# Words in macros that are no identifiers

Among the tokens handed to a macro, keywords and the names in lifetimes and labels are words like
any other, and the scan of the tokens takes them for names; code that is read as syntax refers to
nothing by them. Such a word never writes a property. It reads one if it is spelled like a reader of
it, unless it stands by itself and is spelled like a local variable (`macro_word`).
-/

namespace ReactiveModel

open Updater PropertyIndex

/-! ## Words that are no identifiers -/

namespace Token

variable {before after : List Token} {i : Ident}

/-- Whether the next token is the name in a lifetime or a label. -/
def endsInQuote (before : List Token) : Bool :=
  match before.getLast? with
  | some (.mark c .joint) => c == '\''
  | _ => false

/-- Whether a word after other tokens is an identifier: no keyword, and not the name in a lifetime
or a label. -/
def isIdentifierAfter (before : List Token) (i : Ident) : Bool :=
  i.isName && !endsInQuote before

/-- The name in a lifetime is no member. -/
theorem endsInQuote_of_endsInPoint (h : endsInPoint before = true) :
    endsInQuote before = false := by
  unfold endsInPoint at h
  unfold endsInQuote
  rw [List.getLast?_eq_head?_reverse]
  cases hreverse : before.reverse with
  | nil => rfl
  | cons last earlier =>
    rw [hreverse] at h
    rw [List.head?_cons]
    split
    · next c hlast =>
      cases hlast
      by_contra hquote
      have hc : c = '\'' := by simpa using hquote
      subst hc
      cases h
    · rfl

end Token

/-- The name of a setter is no keyword. -/
theorem Naming.isName_of_setter {property : String} {i : Ident} (h : i.name = setter property) :
    i.isName = true := by
  have hkeywords : ∀ word ∈ Ident.keywords, "set_".toList.isPrefixOf word.toList = false := by
    decide
  have hprefix : "set_".toList.isPrefixOf i.name.toList = true := by
    rw [h, setter, String.toList_append, List.isPrefixOf_iff_prefix]
    exact List.prefix_append _ _
  have hkeyword : i.name ∉ Ident.keywords := fun hmem => by
    rw [hkeywords i.name hmem] at hprefix
    cases hprefix
  simp [Ident.isName, hkeyword]

namespace Method

variable {m : Method} {before after : List Token} {i : Ident} {r : Reference}

/-- The word is among the tokens that are handed to a macro somewhere in the body. -/
def HandsOver (m : Method) (before : List Token) (i : Ident) (after : List Token) : Prop :=
  ∃ delimiter tokens, m.body.Contains (.invocation delimiter tokens) ∧
    Token.Nested tokens (before ++ .word i :: after)

/-- The word is handed to a macro and is no identifier. -/
def HandsOverOther (m : Method) (before : List Token) (i : Ident) (after : List Token) : Prop :=
  m.HandsOver before i after ∧ Token.isIdentifierAfter before i = false

/-- The body makes the reference by an identifier: in code that is read as syntax, or by a word
among the tokens of a macro. -/
def Identifies (m : Method) (r : Reference) : Prop :=
  (∃ piece, m.body.Contains piece ∧ (∀ delimiter tokens, piece ≠ .invocation delimiter tokens) ∧
    piece.Refers r) ∨
  ∃ before i after, m.HandsOver before i after ∧ Token.isIdentifierAfter before i = true ∧
    Token.wordReference before i after = r

/-- Some word in a macro that is no identifier is spelled like a reader of the property and taken
for it. -/
def ReadsByOther (m : Method) (index : PropertyIndex) (p : String) : Prop :=
  ∃ before i after, m.HandsOverOther before i after ∧ index.read? i.name = some p ∧
    (Token.endsInPoint before = true ∨ (Locals.ofMethod m).contains i.name = false)

theorem HandsOver.occurs (h : m.HandsOver before i after) :
    m.body.Occurs (Token.wordReference before i after) := by
  obtain ⟨delimiter, tokens, hpart, hnested⟩ := h
  exact ⟨_, hpart, before, i, after, hnested, rfl⟩

/-- Every reference is made by an identifier or by another word in a macro. -/
theorem occurs_iff_identifies : m.body.Occurs r ↔
    m.Identifies r ∨
      ∃ before i after, m.HandsOverOther before i after ∧
        Token.wordReference before i after = r := by
  constructor
  · rintro ⟨piece, hpart, href⟩
    by_cases hmacro : ∃ delimiter tokens, piece = .invocation delimiter tokens
    · obtain ⟨delimiter, tokens, rfl⟩ := hmacro
      obtain ⟨before, i, after, hnested, hword⟩ := href
      have hhands : m.HandsOver before i after := ⟨delimiter, tokens, hpart, hnested⟩
      cases hi : Token.isIdentifierAfter before i with
      | true => exact .inl (.inr ⟨before, i, after, hhands, hi, hword⟩)
      | false => exact .inr ⟨before, i, after, ⟨hhands, hi⟩, hword⟩
    · push Not at hmacro
      exact .inl (.inl ⟨piece, hpart, hmacro, href⟩)
  · rintro ((⟨piece, hpart, -, href⟩ | ⟨before, i, after, h, -, rfl⟩) |
      ⟨before, i, after, ⟨h, -⟩, rfl⟩)
    · exact ⟨piece, hpart, href⟩
    · exact h.occurs
    · exact h.occurs

end Method

/-! ## What such words add -/

theorem PropertyIndex.read?_eq_none_iff {fs : List ObservableField} {name : String} :
    (ofFields fs).read? name = none ↔ ∀ f ∈ fs, name ∉ readers f := by
  induction fs with
  | nil => simp [read?, ofFields]
  | cons f fs ih =>
    rw [read?_cons, List.forall_mem_cons, ← ih]
    by_cases h : name ∈ readers f <;> simp [h]

section Words

variable {config : Config} {className : String} {decls : List FieldDecl}
  {fs : List ObservableField} {ds : List Diagnostic} {index : PropertyIndex} {locals : Locals}
  {before after : List Token} {i : Ident} {p : String}

/-- A word that is no identifier writes nothing: it is no name of a setter, or stands by itself. -/
theorem written?_wordReference (h : Resolution.fields config className decls = .ok (fs, ds))
    (hi : Token.isIdentifierAfter before i = false) :
    written? (ofFields fs) (Token.wordReference before i after) = none := by
  unfold Token.wordReference
  cases hpoint : Token.endsInPoint before with
  | false => rfl
  | true =>
    have hname : i.isName = false := by
      simpa [Token.isIdentifierAfter, Token.endsInQuote_of_endsInPoint hpoint] using hi
    rw [if_pos rfl]
    cases Token.beginsCall after with
    | false => rfl
    | true =>
      show (ofFields fs).write? i.name = none
      by_contra hwrite
      obtain ⟨p, hp⟩ := Option.ne_none_iff_exists'.1 hwrite
      obtain ⟨f, hf, hsetter, -⟩ := exists_of_write?_eq_some hp
      rw [((Resolution.fields_resolved h).derived f hf).setter] at hsetter
      rw [Naming.isName_of_setter hsetter.symm] at hname
      cases hname

/-- A word that writes nothing reads what its name reads, as a member or if it is no local name. -/
theorem read?_wordReference (h : written? index (Token.wordReference before i after) = none) :
    read? index locals (Token.wordReference before i after) = some p ↔
      index.read? i.name = some p ∧
        (Token.endsInPoint before = true ∨ locals.contains i.name = false) := by
  unfold Updater.read?
  rw [h]
  unfold Token.wordReference
  cases Token.endsInPoint before with
  | true => simp
  | false =>
    cases hlocal : locals.contains i.name with
    | true => simp [hlocal]
    | false => simp [hlocal]

variable {m : Method}

theorem mem_writes_iff_identifies (h : Resolution.fields config className decls = .ok (fs, ds)) :
    p ∈ (ofMethod (ofFields fs) m).writes ↔
      ∃ r, m.Identifies r ∧ written? (ofFields fs) r = some p := by
  simp only [ofMethod, List.mem_eraseDups, List.mem_filterMap, Code.mem_references_iff,
    Method.occurs_iff_identifies]
  constructor
  · rintro ⟨r, hr | ⟨before, i, after, ⟨-, hi⟩, rfl⟩, hp⟩
    · exact ⟨r, hr, hp⟩
    · rw [written?_wordReference h hi] at hp
      cases hp
  · rintro ⟨r, hr, hp⟩
    exact ⟨r, .inl hr, hp⟩

theorem mem_reads_iff_identifies (h : Resolution.fields config className decls = .ok (fs, ds)) :
    p ∈ (ofMethod (ofFields fs) m).reads ↔
      (∃ r, m.Identifies r ∧ read? (ofFields fs) (Locals.ofMethod m) r = some p) ∨
        m.ReadsByOther (ofFields fs) p := by
  simp only [ofMethod, List.mem_eraseDups, List.mem_filterMap, Code.mem_references_iff,
    Method.occurs_iff_identifies]
  constructor
  · rintro ⟨r, hr | ⟨before, i, after, hword, rfl⟩, hp⟩
    · exact .inl ⟨r, hr, hp⟩
    · exact .inr ⟨before, i, after, hword,
        (read?_wordReference (written?_wordReference h hword.2)).1 hp⟩
  · rintro (⟨r, hr, hp⟩ | ⟨before, i, after, hword, hp⟩)
    · exact ⟨r, .inl hr, hp⟩
    · exact ⟨_, .inr ⟨before, i, after, hword, rfl⟩,
        (read?_wordReference (written?_wordReference h hword.2)).2 hp⟩

/-- No word that is no identifier reads a property just if all that are spelled like readers are
hidden. -/
theorem forall_not_readsByOther_iff :
    (∀ p, ¬ m.ReadsByOther (ofFields fs) p) ↔
      ∀ before i after, m.HandsOverOther before i after → (∃ f ∈ fs, i.name ∈ readers f) →
        Token.endsInPoint before = false ∧ (Locals.ofMethod m).contains i.name = true := by
  constructor
  · rintro hnone before i after hword ⟨f, hf, hname⟩
    have hread : (ofFields fs).read? i.name ≠ none := fun hread =>
      PropertyIndex.read?_eq_none_iff.1 hread f hf hname
    obtain ⟨p, hp⟩ := Option.ne_none_iff_exists'.1 hread
    have hhidden := hnone p
    constructor
    · by_contra hpoint
      exact hhidden ⟨before, i, after, hword, hp, .inl (Bool.not_eq_false _ ▸ hpoint)⟩
    · by_contra hlocal
      exact hhidden ⟨before, i, after, hword, hp, .inr (Bool.not_eq_true _ ▸ hlocal)⟩
  · rintro hhidden p ⟨before, i, after, hword, hp, hshown⟩
    obtain ⟨f, hf, hname, -⟩ := exists_of_read?_eq_some hp
    obtain ⟨hpoint, hlocal⟩ := hhidden before i after hword ⟨f, hf, hname⟩
    rw [hpoint, hlocal] at hshown
    simp at hshown

end Words

/-- A property is written by identifiers only. It is read by identifiers, and by words in macros
that are none: keywords and the names in lifetimes and labels, if they are spelled like a reader of
the property and are not hidden by a local name. So no such word adds a property if and only if each
one that is spelled like a reader stands by itself and is spelled like a local name. -/
theorem macro_word {config : Config} {className : String} {decls : List FieldDecl}
    {fs : List ObservableField} {ds : List Diagnostic}
    (h : Resolution.fields config className decls = .ok (fs, ds)) (m : Method) :
    let index := ofFields fs
    let locals := Locals.ofMethod m
    (∀ p, p ∈ (ofMethod index m).writes ↔ ∃ r, m.Identifies r ∧ written? index r = some p) ∧
    (∀ p, p ∈ (ofMethod index m).reads ↔
      (∃ r, m.Identifies r ∧ read? index locals r = some p) ∨ m.ReadsByOther index p) ∧
    ((∀ p, ¬ m.ReadsByOther index p) ↔
      ∀ before i after, m.HandsOverOther before i after → (∃ f ∈ fs, i.name ∈ readers f) →
        Token.endsInPoint before = false ∧ locals.contains i.name = true) := by
  exact ⟨fun p => mem_writes_iff_identifies h, fun p => mem_reads_iff_identifies h,
    forall_not_readsByOther_iff⟩

/-! ## A closure in a macro -/

/-- A closure that takes over what it captures, as it is written. -/
def moveClosure (body : List Token) : List Token :=
  [.word (.plain "move"), .mark '|' .joint, .mark '|' .alone] ++ body

/-- A method of nothing but a macro with the closure. -/
def closureMethod (body : List Token) : Method :=
  .sample (.seq [.macroStatement (.plain "m") (moveClosure body)])

/-- The keyword reads nothing, and the getter after it reads its property. -/
theorem macro_word_count :
    let fs : List ObservableField :=
      [.sample "_count" "Count" "count", .sample "m_label" "Label" "label"]
    let m := closureMethod
      [.word (.plain "self"), .mark '.' .alone, .word (.plain "count"), .group .parenthesis []]
    "Count" ∈ (ofMethod (.ofFields fs) m).reads ∧ (∀ p, ¬ m.ReadsByOther (.ofFields fs) p) ∧
      ∃ r, m.Identifies r ∧ read? (.ofFields fs) (Locals.ofMethod m) r = some "Count" := by
  intro fs m
  have hmem : "Count" ∈ (ofMethod (.ofFields fs) m).reads := by decide
  obtain ⟨-, hreads, hnone⟩ := macro_word fields_count_label m
  have hother : ∀ p, ¬ m.ReadsByOther (.ofFields fs) p := by
    refine hnone.2 fun before i after ⟨hhands, hi⟩ hreader => ?_
    have hword : Token.wordReference before i after ∈
        [.bare (.plain "move"), .bare (.plain "self"), .member (.plain "count") true] :=
      (Code.mem_references_iff _).2 hhands.occurs
    simp only [List.mem_cons, List.not_mem_nil, or_false, Token.wordReference_eq_bare_iff,
      Token.wordReference_eq_member_iff] at hword
    rcases hword with ⟨-, rfl⟩ | ⟨-, rfl⟩ | ⟨hpoint, -, rfl⟩
    · exact absurd hreader (by decide)
    · exact absurd hreader (by decide)
    · rw [Token.isIdentifierAfter, Token.endsInQuote_of_endsInPoint hpoint] at hi
      exact absurd hi (by decide)
  refine ⟨hmem, hother, ?_⟩
  exact ((hreads "Count").1 hmem).resolve_right (hother "Count")

/-- A field whose property has a keyword for its getter. -/
def moveField : ObservableField :=
  ⟨.plain "_move", .empty, .inherited, "Move", ⟨true, "move"⟩, .plain "set_move"⟩

theorem fields_move :
    Resolution.fields {} "Model" [.sample "_move"] = .ok ([moveField], []) := by
  rw [Resolution.fields, prefixesLongestFirst_default]
  rfl

/-- Not every word in a macro that reads or writes a property is an identifier. -/
theorem not_forall_isIdentifierAfter :
    ¬ ∀ (config : Config) (className : String) (decls : List FieldDecl)
      (fs : List ObservableField) (ds : List Diagnostic),
      Resolution.fields config className decls = .ok (fs, ds) →
      ∀ (m : Method) (before : List Token) (i : Ident) (after : List Token) (p : String),
        m.HandsOver before i after →
        read? (.ofFields fs) (Locals.ofMethod m) (Token.wordReference before i after) = some p ∨
          written? (.ofFields fs) (Token.wordReference before i after) = some p →
        Token.isIdentifierAfter before i = true := by
  intro h
  have hhands : (closureMethod [.literal "1"]).HandsOver [] (.plain "move")
      [.mark '|' .joint, .mark '|' .alone, .literal "1"] :=
    ⟨.parenthesis, _, .head List.mem_cons_self <| .head List.mem_cons_self <|
      .head (List.mem_cons_of_mem _ List.mem_cons_self) <|
        .single (List.mem_cons_of_mem _ List.mem_cons_self), .refl⟩
  have hidentifier := h {} "Model" _ _ _ fields_move (closureMethod [.literal "1"]) []
    (.plain "move") _ "Move" hhands (.inl (by decide))
  exact absurd hidentifier (by decide)

end ReactiveModel
