import ReactiveModel.Dependency.Updater
import ReactiveModel.Proofs.Code.Occurrence
import ReactiveModel.Proofs.Property.Resolution

/-!
# Local names

A name that a pattern of a method binds hides the property that the same name reads, except as a
member. But local names are kept as they are spelled, and looked up as they are called, so a raw
identifier in a pattern hides nothing. What an updater reads is told from the places where names
stand in its code (`shadowing`).
-/

namespace ReactiveModel

open Updater

/-- The pattern of a parameter is part of the head of the function. -/
theorem Signature.contains_of_param {s : Signature} {attributes : List Attribute}
    {pattern type : Code} {more : Bool}
    (h : (Param.typed attributes pattern type, more) ∈ s.params) : s.toCode.Contains pattern := by
  have hpattern : pattern ∈ (Param.toCode (.typed attributes pattern type)).parts := by
    simp [Param.toCode, Code.parts]
  have hparam : Param.toCode (.typed attributes pattern type) ∈
      (Separated.toCode "," Param.toCode s.params).parts :=
    List.mem_flatMap.2 ⟨_, h, List.mem_cons_self⟩
  have hlist : ∀ dots, Separated.toCode "," Param.toCode s.params ∈
      (Code.seq [Separated.toCode "," Param.toCode s.params, dots]).parts := fun _ =>
    List.mem_cons_self
  have hgroup : ∀ c output, c ∈ (Code.seq [c, output]).parts := fun _ _ => List.mem_cons_self
  have hhead : ∀ c : Code, c ∈ (c.before s.generics.whereClause).parts := fun c => by
    simp [Code.before, Code.parts]
  obtain ⟨dots, output, hclause⟩ : ∃ dots output,
      Code.before (.seq [.group .parenthesis
        (.seq [Separated.toCode "," Param.toCode s.params, dots]), output])
        s.generics.whereClause ∈ s.toCode.parts :=
    ⟨_, _, List.mem_of_getElem? (i := 7) rfl⟩
  exact .head hclause <| .head (hhead _) <| .head (hgroup _ _) <|
    .head (List.mem_singleton_self _) <| .head (hlist dots) <| .head hparam <| .single hpattern

namespace Method

variable {m : Method} {b : Ident} {name : String}

/-- A pattern in the body of the method, or that of a parameter, binds the identifier. -/
def BindsLocal (m : Method) (b : Ident) : Prop :=
  (∃ attributes pattern type more,
    (.typed attributes pattern type, more) ∈ m.signature.params ∧ pattern.Contains (.binding b)) ∨
  m.body.Contains (.binding b)

/-- A pattern anywhere in the method binds the name, raw or not. -/
def Binds (m : Method) (name : String) : Prop :=
  ∃ b : Ident, m.toCode.Contains (.binding b) ∧ b.name = name

/-- The name is spelled like a local variable. -/
def Hides (m : Method) (name : String) : Prop := ∃ b, m.BindsLocal b ∧ b.text = name

/-- A member in the body reads the property; the call of a setter does not. -/
def ReadsMember (m : Method) (index : PropertyIndex) (p : String) : Prop :=
  ∃ i called, m.body.Occurs (.member i called) ∧ written? index (.member i called) = none ∧
    index.read? i.name = some p

/-- The name stands by itself in the body, and it is one that reads the property. -/
def ReadsName (m : Method) (index : PropertyIndex) (i : Ident) (p : String) : Prop :=
  m.body.Occurs (.bare i) ∧ index.read? i.name = some p

/-! ## Names that are bound -/

theorem contains_ofMethod : (Locals.ofMethod m).contains name = true ↔ m.Hides name := by
  rw [Locals.contains, List.contains_iff_mem, Locals.ofMethod, List.mem_map]
  refine exists_congr fun b => and_congr_left fun _ => ?_
  rw [List.mem_append, Code.mem_bound_iff, List.mem_flatMap]
  refine or_congr_left ⟨?_, ?_⟩
  · rintro ⟨⟨_ | ⟨attributes, pattern, type⟩, more⟩, hparam, hb⟩
    · cases hb
    · exact ⟨attributes, pattern, type, more, hparam, (Code.mem_bound_iff _).1 hb⟩
  · rintro ⟨attributes, pattern, type, more, hparam, hb⟩
    exact ⟨_, hparam, (Code.mem_bound_iff _).2 hb⟩

/-- The patterns of parameters and of the body are part of the method. -/
theorem BindsLocal.contains (h : m.BindsLocal b) : m.toCode.Contains (.binding b) := by
  have hmethod : Code.bodied (.seq [m.visibility.toCode,
      if m.isDefault then .keyword "default" else .empty, m.signature.toCode])
      (Attribute.inner .method m.attributes) m.body ∈ m.toCode.parts := by
    simp [toCode, Code.parts]
  rcases h with ⟨attributes, pattern, type, more, hparam, h⟩ | h
  · have hsignature : ∀ visible isDefault,
        m.signature.toCode ∈ (Code.seq [visible, isDefault, m.signature.toCode]).parts := by
      simp [Code.parts]
    have hhead : ∀ head, head ∈
        (Code.bodied head (Attribute.inner .method m.attributes) m.body).parts := by
      simp [Code.bodied, Code.parts]
    exact .head hmethod <| .head (hhead _) <| .head (hsignature _ _) <|
      (Signature.contains_of_param hparam).trans h
  · have hbody : ∀ head, m.body ∈
        (Code.bodied head (Attribute.inner .method m.attributes) m.body).parts := by
      simp [Code.bodied, Code.parts]
    exact .head hmethod <| h.head (hbody _)

end Method

/-! ## What is read -/

section Reads

variable {index : PropertyIndex} {m : Method} {i : Ident} {p : String}

theorem read?_member {called : Bool} {locals : Locals} :
    read? index locals (.member i called) = some p ↔
      written? index (.member i called) = none ∧ index.read? i.name = some p := by
  rw [read?]
  cases written? index (.member i called) <;> simp

theorem read?_bare :
    read? index (Locals.ofMethod m) (.bare i) = some p ↔
      ¬ m.Hides i.name ∧ index.read? i.name = some p := by
  rw [read?, ← Method.contains_ofMethod]
  simp [written?]

/-- An updater reads what its members read and what names read that are not hidden. -/
theorem mem_reads_iff : p ∈ (ofMethod index m).reads ↔
    m.ReadsMember index p ∨ ∃ i, m.ReadsName index i p ∧ ¬ m.Hides i.name := by
  rw [ofMethod, List.mem_eraseDups, List.mem_filterMap]
  constructor
  · rintro ⟨r, hr, hp⟩
    rw [Code.mem_references_iff] at hr
    cases r with
    | member i called => exact .inl ⟨i, called, hr, read?_member.1 hp⟩
    | bare i =>
      obtain ⟨hhidden, hread⟩ := read?_bare.1 hp
      exact .inr ⟨i, ⟨hr, hread⟩, hhidden⟩
  · rintro (⟨i, called, hr, hp⟩ | ⟨i, ⟨hr, hread⟩, hhidden⟩)
    · exact ⟨_, (Code.mem_references_iff _).2 hr, read?_member.2 hp⟩
    · exact ⟨_, (Code.mem_references_iff _).2 hr, read?_bare.2 ⟨hhidden, hread⟩⟩

end Reads

/-- An updater reads the properties that it refers to by a member or by a name that is not spelled
like a local variable. So a name that some pattern binds adds no property if and only if each one
that reads a property is spelled like a local variable; where all patterns bind plain identifiers
as local variables, the names that add properties are those that no pattern binds. -/
theorem shadowing (fs : List ObservableField) (m : Method) :
    let index := PropertyIndex.ofFields fs
    (∀ p, p ∈ (ofMethod index m).reads ↔
      m.ReadsMember index p ∨ ∃ i, m.ReadsName index i p ∧ ¬ m.Hides i.name) ∧
    ((∀ i, m.body.Occurs (.bare i) → m.Binds i.name →
        read? index (Locals.ofMethod m) (.bare i) = none) ↔
      ∀ i p, m.ReadsName index i p → m.Binds i.name → m.Hides i.name) ∧
    ((∀ b, m.toCode.Contains (.binding b) → b.raw = false ∧ m.BindsLocal b) →
      ∀ p, p ∈ (ofMethod index m).reads ↔
        m.ReadsMember index p ∨ ∃ i, m.ReadsName index i p ∧ ¬ m.Binds i.name) := by
  intro index
  refine ⟨fun p => mem_reads_iff, ⟨?_, ?_⟩, ?_⟩
  · intro h i p hi hbinds
    by_contra hhides
    have hread := read?_bare.2 ⟨hhides, hi.2⟩
    rw [h i hi.1 hbinds] at hread
    cases hread
  · intro h i hi hbinds
    by_contra hread
    obtain ⟨p, hp⟩ := Option.ne_none_iff_exists'.1 hread
    obtain ⟨hhides, hread⟩ := read?_bare.1 hp
    exact hhides (h i p ⟨hi, hread⟩ hbinds)
  · intro hplain p
    have hspelled : ∀ name, m.Hides name ↔ m.Binds name := by
      intro name
      constructor
      · rintro ⟨b, hb, rfl⟩
        obtain ⟨hraw, -⟩ := hplain b hb.contains
        exact ⟨b, hb.contains, by simp [Ident.text, hraw]⟩
      · rintro ⟨b, hb, rfl⟩
        obtain ⟨hraw, hlocal⟩ := hplain b hb
        exact ⟨b, hlocal, by simp [Ident.text, hraw]⟩
    simp only [mem_reads_iff, hspelled]

/-! ## A raw identifier -/

/-- A field whose property has a keyword for its getter. -/
def typeField : ObservableField :=
  ⟨.plain "_type", .empty, .inherited, "Type", ⟨true, "type"⟩, .plain "set_type"⟩

theorem fields_type :
    Resolution.fields {} "Model" [.sample "_type"] = .ok ([typeField], []) := by
  rw [Resolution.fields, prefixesLongestFirst_default]
  rfl

/-- A method that uses nothing but a local variable with a raw identifier. -/
def rawLocal : Method where
  attributes := []
  visibility := .inherited
  isDefault := false
  signature := ⟨false, false, false, none, .plain "update", .empty,
    [(.receiver [] (some none) true none, false)], none, none⟩
  body := .seq
    [.keyword "let", .binding ⟨true, "type"⟩, .op "=", .raw [.literal "1"], .op ";",
      .keyword "let", .keyword "_", .op "=", .name ⟨true, "type"⟩, .op ";"]

/-- A local variable does not always hide the property that its name reads. -/
theorem not_forall_shadowed :
    ¬ ∀ (config : Config) (className : String) (decls : List FieldDecl)
      (fs : List ObservableField) (ds : List Diagnostic),
      Resolution.fields config className decls = .ok (fs, ds) → ∀ (m : Method) (p : String),
        p ∈ (ofMethod (.ofFields fs) m).reads →
          m.ReadsMember (.ofFields fs) p ∨
            ∃ i, m.ReadsName (.ofFields fs) i p ∧ ¬ m.Binds i.name := by
  intro h
  have hreferences : ∀ r, rawLocal.body.Occurs r ↔ r = .bare ⟨true, "type"⟩ := fun r =>
    (Code.mem_references_iff _).symm.trans List.mem_singleton
  have hbinds : rawLocal.Binds "type" :=
    ⟨⟨true, "type"⟩, (Code.mem_bound_iff _).1 (by decide), rfl⟩
  rcases h {} "Model" _ _ _ fields_type rawLocal "Type" (by decide) with
    ⟨i, called, hmember, -⟩ | ⟨i, ⟨hname, -⟩, hfree⟩
  · exact absurd ((hreferences _).1 hmember) (by simp)
  · obtain rfl : i = ⟨true, "type"⟩ := by simpa using (hreferences _).1 hname
    exact hfree hbinds

end ReactiveModel
