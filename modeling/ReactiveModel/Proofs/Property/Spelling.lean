import ReactiveModel.Proofs.Class.Violation
import ReactiveModel.Proofs.Generation.Unit
import ReactiveModel.Proofs.Text.IdentifierCase

/-!
# Names that can be spelled

The names of accessors are made of characters of identifiers, since the name of the field is one.
What is asked of a usable name is less than that it can be spelled: it must begin with a letter or
with a mark that counts as one, and some marks begin no identifier. The resolution of fields spells
all names or refuses them for it if and only if no usable name begins with such a mark
(`fields_spelled_iff`).
-/

namespace ReactiveModel

/-- An identifier, raw or not, has the name. -/
def Ident.Spells (name : String) : Prop := ∃ i, Ident.spelling name = .ok i

/-- The name of the property that a field gives. -/
def FieldDecl.property (prefixes : List String) (d : FieldDecl) : String :=
  Naming.property prefixes d.name.name

/-- Whether the reader of a property begins as an identifier does. -/
def Naming.beginsIdentifier (property : String) : Bool :=
  (Naming.accessor property).toList.head?.any Text.isIdentifierStart

/-! ## Characters of names -/

namespace Text

theorem isIdentifierContinue_of_isIdentifierStart {c : Char} (h : isIdentifierStart c = true) :
    isIdentifierContinue c = true := by
  unfold isIdentifierStart at h
  unfold isIdentifierContinue
  split_ifs at h ⊢
  · simp only [Bool.or_eq_true] at h ⊢
    exact h.imp_left fun h => by simp [Char.isAlphanum, h]
  · simp [h]

theorem isIdentifier_iff {cs : List Char} : isIdentifier cs = true ↔
    cs.head?.any isIdentifierStart = true ∧ ∀ c ∈ cs, isIdentifierContinue c = true := by
  cases cs with
  | nil => simp [isIdentifier]
  | cons c cs =>
    simp only [isIdentifier, Bool.and_eq_true, List.all_eq_true, List.head?_cons, Option.any_some,
      List.forall_mem_cons]
    constructor
    · rintro ⟨hc, hcs⟩
      exact ⟨hc, isIdentifierContinue_of_isIdentifierStart hc, hcs⟩
    · rintro ⟨hc, -, hcs⟩
      exact ⟨hc, hcs⟩

end Text

/-- A name is spelled by an identifier if it has the form of one and is not reserved. -/
theorem Ident.spells_iff {name : String} :
    Spells name ↔ Text.isIdentifier name.toList = true ∧ name ∉ reserved := by
  have hkeyword : name ∈ reserved → name ∈ keywords := by
    have h : ∀ word ∈ reserved, word ∈ keywords := by decide
    exact h name
  unfold Spells spelling
  split_ifs with hform hplain hreserved
  · simp_all
  · simp_all [pure, Except.pure]
  · simp_all
  · simp_all [pure, Except.pure]

namespace Naming

variable {prefixes : List String} {name property : String} {c : Char}

theorem mem_of_mem_withoutRawMark {text : List Char} (h : c ∈ withoutRawMark text) : c ∈ text := by
  unfold withoutRawMark at h
  split at h
  · exact List.mem_cons_of_mem _ (List.mem_cons_of_mem _ h)
  · exact h

theorem mem_of_mem_afterPrefix? {start text rest : List Char}
    (h : afterPrefix? start text = some rest) (hc : c ∈ rest) : c ∈ text := by
  unfold afterPrefix? at h
  split_ifs at h
  rw [← Option.some.inj h] at hc
  exact List.mem_of_mem_drop hc

/-- The name of a property is made of characters of identifiers. -/
theorem isIdentifierContinue_of_mem_property (hname : Text.isIdentifier name.toList = true)
    (hc : c ∈ (Naming.property prefixes name).toList) : Text.isIdentifierContinue c = true := by
  have hcontinue := (Text.isIdentifier_iff.1 hname).2
  have hstem : ∀ c ∈ (prefixes.findSome? fun start =>
      afterPrefix? start.toList (withoutRawMark name.toList)).getD (withoutRawMark name.toList),
      Text.isIdentifierContinue c = true := by
    intro c hc
    apply hcontinue
    apply mem_of_mem_withoutRawMark
    cases hstem : prefixes.findSome? fun start =>
        afterPrefix? start.toList (withoutRawMark name.toList) with
    | none =>
      rw [hstem] at hc
      exact hc
    | some stem =>
      rw [hstem] at hc
      obtain ⟨start, -, hstart⟩ := List.exists_of_findSome?_eq_some hstem
      exact mem_of_mem_afterPrefix? hstart hc
  rw [Naming.property, String.toList_ofList] at hc
  generalize (List.findSome? _ _).getD _ = stem at hc hstem
  cases stem with
  | nil => cases hc
  | cons first rest =>
    rcases List.mem_append.1 hc with hc | hc
    · exact Text.isIdentifierContinue_of_mem_toUpper (hstem first List.mem_cons_self) hc
    · exact hstem c (List.mem_cons_of_mem _ hc)

theorem isIdentifierContinue_of_mem_accessor
    (hproperty : ∀ c ∈ property.toList, Text.isIdentifierContinue c = true)
    (hc : c ∈ (accessor property).toList) : Text.isIdentifierContinue c = true :=
  Text.isIdentifierContinue_of_mem_snakeCase hproperty hc

theorem accessor_not_mem_reserved (h : isUsable property = true) :
    accessor property ∉ Ident.reserved := by
  unfold isUsable at h
  simp only [Bool.and_eq_true, Bool.not_eq_true'] at h
  obtain ⟨hhead, hwords⟩ := h
  intro hreserved
  -- an underscore is no letter, `Self` is not in snake case, and the others are refused by name
  simp only [Ident.reserved, List.mem_cons, List.not_mem_nil, or_false] at hreserved
  rcases hreserved with e | e | e | e | e
  · rw [e] at hhead
    exact absurd hhead (by decide)
  · simp [e] at hwords
  · simp [e] at hwords
  · have hmem : 'S' ∈ (Text.snakeCase property).toList := by
      rw [← accessor, e]
      decide
    cases Text.isUpper_of_mem_snakeCase hmem
  · simp [e] at hwords

/-- The reader of a usable property is spelled if and only if it begins as identifiers do. -/
theorem spells_accessor_iff
    (hproperty : ∀ c ∈ property.toList, Text.isIdentifierContinue c = true)
    (h : isUsable property = true) :
    Ident.Spells (accessor property) ↔ beginsIdentifier property = true := by
  rw [Ident.spells_iff, Text.isIdentifier_iff, and_iff_left (accessor_not_mem_reserved h),
    and_iff_left fun c hc => isIdentifierContinue_of_mem_accessor hproperty hc]
  rfl

theorem spells_setter (hproperty : ∀ c ∈ property.toList, Text.isIdentifierContinue c = true) :
    Ident.Spells (setter property) := by
  have htext : (setter property).toList = ['s', 'e', 't', '_'] ++ (accessor property).toList := by
    rw [setter, String.toList_append]
    rfl
  refine Ident.spells_iff.2 ⟨?_, ?_⟩
  · rw [Text.isIdentifier_iff, htext]
    refine ⟨rfl, fun c hc => ?_⟩
    rcases List.mem_append.1 hc with hc | hc
    · have hall : ['s', 'e', 't', '_'].all Text.isIdentifierContinue = true := by decide
      exact List.all_eq_true.1 hall c hc
    · exact isIdentifierContinue_of_mem_accessor hproperty hc
  · have hreserved : ∀ word ∈ Ident.reserved,
        ['s', 'e', 't', '_'].isPrefixOf word.toList = false := by
      decide
    intro h
    have hprefix := hreserved _ h
    rw [htext] at hprefix
    cases hprefix

end Naming

/-! ## Fields that are resolved -/

/-- Accepted fields have accessors with the names that follow from their properties. Each field with
a usable name is accepted or collides with an accepted one, and each field whose reader no
identifier spells is refused for it. -/
structure Resolution.Spelled (prefixes : List String) (className : String) (decls : List FieldDecl)
    (fs : List ObservableField) (ds : List Diagnostic) : Prop where
  derived : ∀ f ∈ fs, f.IsDerived prefixes
  accepted : ∀ d ∈ decls, isPublic d = false → Naming.isUsable (d.property prefixes) = true →
    (∃ f ∈ fs, f.decl = d) ∨
      ∃ x ∈ ds, x.kind = .duplicatePropertyName ∧ x.className = className ∧ x.member = d.name.name
  refused : ∀ d ∈ decls, isPublic d = false →
    ¬ Ident.Spells (Naming.accessor (d.property prefixes)) →
      ∃ x ∈ ds, x.kind = .invalidPropertyName ∧ x.className = className ∧ x.member = d.name.name

section Fields

open Resolution

variable {prefixes : List String} {className : String} {decls : List FieldDecl} {d : FieldDecl}

theorem Resolution.exists_field (accepted : List ObservableField)
    (h : isPublic d = false → Naming.isUsable (d.property prefixes) = true →
      Ident.Spells (Naming.accessor (d.property prefixes)) ∧
        Ident.Spells (Naming.setter (d.property prefixes))) :
    ∃ o, field prefixes className accepted d = .ok o := by
  unfold field
  dsimp only
  split_ifs with hpublic husable htaken
  · exact ⟨_, rfl⟩
  · exact ⟨_, rfl⟩
  · exact ⟨_, rfl⟩
  · obtain ⟨⟨getter, hgetter⟩, setter, hsetter⟩ :=
      h (by simpa using hpublic) (by simpa [FieldDecl.property] using husable)
    exact ⟨_, bind_eq_ok_iff.2 ⟨getter, hgetter, bind_eq_ok_iff.2 ⟨setter, hsetter, rfl⟩⟩⟩

theorem Resolution.exists_fieldsFrom
    (h : ∀ d ∈ decls, isPublic d = false → Naming.isUsable (d.property prefixes) = true →
      Ident.Spells (Naming.accessor (d.property prefixes)) ∧
        Ident.Spells (Naming.setter (d.property prefixes))) :
    ∀ accepted, ∃ r, fieldsFrom prefixes className accepted decls = .ok r := by
  induction decls with
  | nil => exact fun accepted => ⟨(accepted, []), rfl⟩
  | cons d decls ih =>
    intro accepted
    obtain ⟨hd, hdecls⟩ := List.forall_mem_cons.1 h
    obtain ⟨o, ho⟩ : ∃ o, field prefixes className accepted d = .ok o := exists_field accepted hd
    cases o with
    | inl f =>
      obtain ⟨r, hr⟩ := ih hdecls (accepted ++ [f])
      exact ⟨r, by rw [fieldsFrom]; exact bind_eq_ok_iff.2 ⟨_, ho, hr⟩⟩
    | inr x =>
      obtain ⟨r, hr⟩ := ih hdecls accepted
      refine ⟨(r.1, x :: r.2), ?_⟩
      rw [fieldsFrom]
      exact bind_eq_ok_iff.2 ⟨_, ho, bind_eq_ok_iff.2 ⟨_, hr, rfl⟩⟩

theorem Resolution.Course.accepted_or_duplicate {accepted : List ObservableField}
    {outcomes : List (ObservableField ⊕ Diagnostic)}
    (h : Course prefixes className accepted decls outcomes) (hd : d ∈ decls)
    (hprivate : isPublic d = false) (husable : Naming.isUsable (d.property prefixes) = true) :
    (∃ f ∈ acceptedIn outcomes, f.decl = d) ∨
      ∃ x ∈ refusedIn outcomes,
        x.kind = .duplicatePropertyName ∧ x.className = className ∧ x.member = d.name.name := by
  obtain ⟨k, hk⟩ := List.getElem?_of_mem hd
  obtain ⟨o, ho, hv⟩ := h.verdict_at hk
  unfold FieldDecl.property at husable
  cases hv with
  | visible _ hpublic => rw [hprivate] at hpublic; cases hpublic
  | unusable _ _ hunusable => rw [husable] at hunusable; cases hunusable
  | blocked =>
    exact .inr ⟨_, List.mem_filterMap.2 ⟨_, List.mem_of_getElem? ho, rfl⟩, rfl, rfl, rfl⟩
  | accepted f hdecl =>
    exact .inl ⟨f, List.mem_filterMap.2 ⟨_, List.mem_of_getElem? ho, rfl⟩, hdecl⟩

/-- A field is refused for its name if and only if it could be accepted but for an unusable one. -/
theorem Resolution.Course.exists_invalid_iff {accepted : List ObservableField}
    {outcomes : List (ObservableField ⊕ Diagnostic)}
    (h : Course prefixes className accepted decls outcomes) {name : String} :
    (∃ x ∈ refusedIn outcomes, x.kind = .invalidPropertyName ∧ x.className = className ∧
        x.member = name) ↔
      ∃ d ∈ decls, d.name.name = name ∧ isPublic d = false ∧
        Naming.isUsable (d.property prefixes) = false := by
  constructor
  · rintro ⟨x, hx, hkind, -, rfl⟩
    obtain ⟨o, ho, hright⟩ := List.mem_filterMap.1 hx
    obtain rfl : o = .inr x := by
      cases o <;> cases hright
      rfl
    obtain ⟨earlier, d, hd, hv⟩ := h.exists_verdict ho
    cases hv with
    | visible => cases hkind
    | unusable _ hprivate hunusable => exact ⟨d, hd, rfl, hprivate, hunusable⟩
    | blocked => cases hkind
  · rintro ⟨d, hd, rfl, hprivate, hunusable⟩
    obtain ⟨k, hk⟩ := List.getElem?_of_mem hd
    obtain ⟨o, ho, hv⟩ := h.verdict_at hk
    unfold FieldDecl.property at hunusable
    cases hv with
    | visible _ hpublic => rw [hprivate] at hpublic; cases hpublic
    | unusable message =>
      exact ⟨_, List.mem_filterMap.2 ⟨_, List.mem_of_getElem? ho, rfl⟩, rfl, rfl, rfl⟩
    | blocked _ _ husable => rw [hunusable] at husable; cases husable
    | accepted _ _ _ _ husable => rw [hunusable] at husable; cases husable

end Fields

/-! ## The fields of a class -/

/-- The accessors of a usable property are spelled if and only if the reader begins as identifiers
do. So the fields of a class, declared by identifiers, are all accepted with accessors of the names
that follow from theirs or refused if no identifier spells the reader, if and only if the reader of
each usable property begins so; and code is generated from a file if and only if the fields of all
its classes are resolved. -/
theorem fields_spelled_iff (config : Config) (className : String) {decls : List FieldDecl}
    (hnames : ∀ d ∈ decls, Text.isIdentifier d.name.name.toList = true) :
    let prefixes := config.prefixesLongestFirst
    (∀ d ∈ decls, Naming.isUsable (d.property prefixes) = true →
      (Ident.Spells (Naming.accessor (d.property prefixes)) ∧
          Ident.Spells (Naming.setter (d.property prefixes)) ↔
        Naming.beginsIdentifier (d.property prefixes) = true)) ∧
    ((∃ fs ds, Resolution.fields config className decls = .ok (fs, ds) ∧
        Resolution.Spelled prefixes className decls fs ds) ↔
      ∀ d ∈ decls, Resolution.isPublic d = false →
        Naming.isUsable (d.property prefixes) = true →
          Naming.beginsIdentifier (d.property prefixes) = true) ∧
    (∀ text items, Grammar.readUnit text = .ok items →
      ((∃ u, generate config text = .ok u) ↔
        ∀ c ∈ Candidate.among (Candidate.find items),
          ∃ r, Resolution.fields config c.qualifiedName c.members.1.fields = .ok r)) := by
  intro prefixes
  have hcontinue : ∀ d ∈ decls, ∀ c ∈ (d.property prefixes).toList,
      Text.isIdentifierContinue c = true :=
    fun d hd _ hc => Naming.isIdentifierContinue_of_mem_property (hnames d hd) hc
  have hspells : ∀ d ∈ decls, Naming.isUsable (d.property prefixes) = true →
      (Ident.Spells (Naming.accessor (d.property prefixes)) ∧
          Ident.Spells (Naming.setter (d.property prefixes)) ↔
        Naming.beginsIdentifier (d.property prefixes) = true) := by
    intro d hd husable
    have hproperty := hcontinue d hd
    rw [and_iff_left (Naming.spells_setter hproperty)]
    exact Naming.spells_accessor_iff hproperty husable
  refine ⟨hspells, ⟨?_, ?_⟩, fun text items => exists_generate_iff⟩
  · -- a reader that is not spelled has to be refused, but only unusable names are
    rintro ⟨fs, ds, hfields, hspelled⟩ d hd hprivate husable
    by_contra hbegins
    have hproperty := hcontinue d hd
    obtain ⟨outcomes, hc, -, rfl⟩ := Resolution.exists_course hfields
    have hrefused := hspelled.refused d hd hprivate
      ((Naming.spells_accessor_iff hproperty husable).not.2 hbegins)
    obtain ⟨d', -, hname, -, hunusable⟩ := hc.exists_invalid_iff.1 hrefused
    rw [FieldDecl.property, hname] at hunusable
    rw [FieldDecl.property, hunusable] at husable
    cases husable
  · intro hbegins
    have h : ∀ d ∈ decls, Resolution.isPublic d = false →
        Naming.isUsable (d.property prefixes) = true →
          Ident.Spells (Naming.accessor (d.property prefixes)) ∧
            Ident.Spells (Naming.setter (d.property prefixes)) :=
      fun d hd hprivate husable => (hspells d hd husable).2 (hbegins d hd hprivate husable)
    obtain ⟨⟨fs, ds⟩, hfields⟩ : ∃ r, Resolution.fields config className decls = .ok r :=
      Resolution.exists_fieldsFrom h []
    have hresolved := Resolution.fields_resolved hfields
    obtain ⟨outcomes, hc, rfl, rfl⟩ := Resolution.exists_course hfields
    refine ⟨_, _, hfields, hresolved.derived, fun d hd => hc.accepted_or_duplicate hd,
      fun d hd hprivate hspelled => ?_⟩
    refine hc.exists_invalid_iff.2 ⟨d, hd, rfl, hprivate, ?_⟩
    by_contra husable
    exact hspelled (h d hd hprivate (by simpa using husable)).1

/-! ## A mark that begins no identifier -/

theorem fields_spelled_count_label :
    ∃ fs ds, Resolution.fields {} "Model" [.sample "_count", .sample "m_label"] = .ok (fs, ds) ∧
      Resolution.Spelled (Config.prefixesLongestFirst {}) "Model"
        [.sample "_count", .sample "m_label"] fs ds := by
  refine (fields_spelled_iff {} "Model" (by decide)).2.1.2 ?_
  rw [prefixesLongestFirst_default]
  decide

set_option maxRecDepth 8000 in
/-- The name of the field is an identifier that ends in a mark which counts as a letter. -/
theorem fields_visarga :
    Resolution.fields {} "Model" [.sample "_ः"] = .error ⟨"ः"⟩ := by
  rw [Resolution.fields, prefixesLongestFirst_default]
  rfl

/-- Not all fields that are declared by identifiers are accepted or refused. -/
theorem not_forall_fields_spelled :
    ¬ ∀ (config : Config) (className : String) (decls : List FieldDecl),
      (∀ d ∈ decls, Text.isIdentifier d.name.name.toList = true) →
        ∃ fs ds, Resolution.fields config className decls = .ok (fs, ds) ∧
          Resolution.Spelled config.prefixesLongestFirst className decls fs ds := by
  intro h
  obtain ⟨fs, ds, hfields, -⟩ := h {} "Model" [.sample "_ः"] (by decide +kernel)
  rw [fields_visarga] at hfields
  cases hfields

end ReactiveModel
