import ReactiveModel.Dependency.Updater
import ReactiveModel.Proofs.Code.Occurrence
import ReactiveModel.Proofs.Property.Attribution

/-!
# Which calls of setters are writes

An updater writes a property if and only if its code calls the setter in one of two ways: as a
method of a value, however deep in the code, or among the tokens of a macro after a point of its
own. Other calls are not seen: of the function named by its path, after a number in a macro that has
taken the point for itself, and in code that is kept as it is written. A method with such a call
writes the property if and only if it has one that is seen as well (`setter_call`).
-/

namespace ReactiveModel

open Updater PropertyIndex

/-! ## Spellings of a call -/

namespace Token

/-- Tokens that end in the type itself, or a type of the name, and `::`. -/
def EndsInPath (owner : String) (before : List Token) : Prop :=
  ∃ earlier q, before = earlier ++ .word q :: Token.op "::" ∧
    (q = .plain "Self" ∨ q.name = owner)

/-- Somewhere in the stream is a word of the name with arguments in parentheses after it, and before
it tokens as they are asked for. -/
def Calls (ts : List Token) (callee : List Token → Prop) (name : String) : Prop :=
  ∃ before i arguments after,
    Nested ts (before ++ .word i :: .group .parenthesis arguments :: after) ∧
      callee before ∧ i.name = name

end Token

/-- Whether a piece of code calls a method of the name, its parts apart. -/
def Code.CallsMember (name : String) : Code → Prop
  | .call _ i _ => i.name = name
  | .invocation _ tokens => Token.Calls tokens (Token.endsInPoint · = true) name
  | _ => False

namespace Method

/-- The body calls a method of the name, in a spelling that is seen. -/
def CallsMember (m : Method) (name : String) : Prop :=
  ∃ piece, m.body.Contains piece ∧ piece.CallsMember name

/-- The body calls a function of the name in a spelling that is not seen: after a number or a path,
or in code that is kept as it is written. -/
def CallsUnseen (m : Method) (owner name : String) : Prop :=
  Token.Calls m.body.toTokens
      (fun before => Token.endsInNumber before = true ∨ Token.EndsInPath owner before) name ∨
    ∃ tokens, m.body.Contains (.raw tokens) ∧ Token.Calls tokens (Token.endsInPoint · = true) name

/-- The body calls a method of the name, or the function that it is by its path. -/
def Calls (m : Method) (owner name : String) : Prop :=
  m.CallsMember name ∨ m.CallsUnseen owner name

end Method

/-! ## What is seen -/

theorem Token.beginsCall_iff {ts : List Token} :
    beginsCall ts = true ↔ ∃ arguments rest, ts = .group .parenthesis arguments :: rest := by
  constructor
  · intro h
    unfold beginsCall at h
    split at h
    · exact ⟨_, _, rfl⟩
    · cases h
  · rintro ⟨arguments, rest, rfl⟩
    rfl

/-- The calls among tokens that a scan takes for calls of members. -/
theorem Token.exists_occurs_call_iff {ts : List Token} {name : String} :
    (∃ i, Occurs ts (.member i true) ∧ i.name = name) ↔ Calls ts (endsInPoint · = true) name := by
  constructor
  · rintro ⟨i, ⟨before, j, after, hnested, href⟩, hname⟩
    obtain ⟨hpoint, hcall, rfl⟩ := wordReference_eq_member_iff.1 href
    obtain ⟨arguments, rest, rfl⟩ := beginsCall_iff.1 hcall
    exact ⟨before, j, arguments, rest, hnested, hpoint, hname⟩
  · rintro ⟨before, i, arguments, after, hnested, hpoint, hname⟩
    exact ⟨i, ⟨before, i, _, hnested, wordReference_eq_member_iff.2 ⟨hpoint, rfl, rfl⟩⟩, hname⟩

/-- A method refers to a called member of the name if and only if it calls one. -/
theorem Method.callsMember_iff {m : Method} {name : String} :
    m.CallsMember name ↔ ∃ i, m.body.Occurs (.member i true) ∧ i.name = name := by
  have hpiece : ∀ piece : Code,
      piece.CallsMember name ↔ ∃ i, piece.Refers (.member i true) ∧ i.name = name := by
    intro piece
    cases piece with
    | invocation _ tokens => exact Token.exists_occurs_call_iff.symm
    | _ => simp [Code.CallsMember, Code.Refers]
  unfold CallsMember Code.Occurs
  constructor
  · rintro ⟨piece, hpart, h⟩
    obtain ⟨i, href, hname⟩ := (hpiece piece).1 h
    exact ⟨i, ⟨piece, hpart, href⟩, hname⟩
  · rintro ⟨i, ⟨piece, hpart, href⟩, hname⟩
    exact ⟨piece, hpart, (hpiece piece).2 ⟨i, href, hname⟩⟩

/-! ## What is written -/

/-- An updater writes what the members that it calls write. -/
theorem mem_writes_iff {index : PropertyIndex} {m : Method} {p : String} :
    p ∈ (ofMethod index m).writes ↔ ∃ name, m.CallsMember name ∧ index.write? name = some p := by
  rw [ofMethod, List.mem_eraseDups, List.mem_filterMap]
  constructor
  · rintro ⟨r, hr, hp⟩
    unfold written? at hp
    split at hp
    · exact ⟨_, Method.callsMember_iff.2 ⟨_, (Code.mem_references_iff _).1 hr, rfl⟩, hp⟩
    · cases hp
  · rintro ⟨name, hcall, hp⟩
    obtain ⟨i, hoccurs, rfl⟩ := Method.callsMember_iff.1 hcall
    exact ⟨_, (Code.mem_references_iff _).2 hoccurs, hp⟩

/-- A name that writes a property is that of its setter. -/
theorem PropertyIndex.exists_of_write?_eq_some {fs : List ObservableField} {name p : String}
    (h : (ofFields fs).write? name = some p) :
    ∃ f ∈ fs, f.setter.name = name ∧ f.property = p := by
  induction fs with
  | nil => cases h
  | cons g fs ih =>
    rw [write?_cons] at h
    split_ifs at h with hg
    · exact ⟨g, List.mem_cons_self, hg.symm, Option.some.inj h⟩
    · obtain ⟨f, hf, hname, hp⟩ := ih h
      exact ⟨f, List.mem_cons_of_mem _ hf, hname, hp⟩

/-- A name writes the property of a field if and only if it is that of the setter. -/
theorem Resolution.Resolved.write?_eq_property_iff {prefixes : List String}
    {fs : List ObservableField} (h : Resolved prefixes fs) {f : ObservableField} (hf : f ∈ fs)
    {name : String} :
    (ofFields fs).write? name = some f.property ↔ name = f.setter.name := by
  constructor
  · intro hwrite
    obtain ⟨g, hg, rfl, hp⟩ := exists_of_write?_eq_some hwrite
    rw [(h.derived g hg).setter, (h.derived f hf).setter, hp]
  · rintro rfl
    exact h.write?_setter hf

/-- Among the fields that a class accepts, an updater writes the property of a field if and only if
it calls a method with the name of the setter in a spelling that is seen. So a method that calls the
setter in any spelling writes the property if and only if it does not rely on one that is not
seen. -/
theorem setter_call {config : Config} {className : String} {decls : List FieldDecl}
    {fs : List ObservableField} {ds : List Diagnostic}
    (h : Resolution.fields config className decls = .ok (fs, ds)) (m : Method) :
    ∀ f ∈ fs,
      (f.property ∈ (ofMethod (.ofFields fs) m).writes ↔ m.CallsMember f.setter.name) ∧
      ∀ owner,
        (m.Calls owner f.setter.name → f.property ∈ (ofMethod (.ofFields fs) m).writes) ↔
          (m.CallsUnseen owner f.setter.name → m.CallsMember f.setter.name) := by
  intro f hf
  have hwrites : f.property ∈ (ofMethod (.ofFields fs) m).writes ↔
      m.CallsMember f.setter.name := by
    rw [mem_writes_iff]
    simp only [(Resolution.fields_resolved h).write?_eq_property_iff hf, exists_eq_right]
  refine ⟨hwrites, fun owner => ?_⟩
  rw [hwrites]
  constructor
  · intro hcalls hunseen
    exact hcalls (.inr hunseen)
  · rintro hunseen (hseen | hcall)
    · exact hseen
    · exact hunseen hcall

/-! ## A setter called by its path -/

/-- A method of nothing but `self` with the given body. -/
def Method.sample (body : Code) : Method where
  attributes := []
  visibility := .inherited
  isDefault := false
  signature := ⟨false, false, false, none, .plain "update", .empty,
    [(.receiver [] (some none) true none, false)], none, none⟩
  body := body

/-- The setter is called as a method. -/
theorem setter_call_count :
    let fs : List ObservableField :=
      [.sample "_count" "Count" "count", .sample "m_label" "Label" "label"]
    "Count" ∈ (ofMethod (.ofFields fs) <| .sample <|
      .seq [.call (.name (.plain "self")) (.plain "set_count") (.group .parenthesis .empty),
        .op ";"]).writes := by
  intro fs
  refine (setter_call fields_count_label _ (.sample "_count" "Count" "count") (by simp)).1.2 ?_
  exact ⟨_, .single List.mem_cons_self, rfl⟩

/-- A body that is nothing but a call of the setter by its path. -/
def pathCall : Code :=
  .seq [.seq [.seq [.keyword "Self", .op "::", .ident (.plain "set_count")],
    .group .parenthesis (.seq [.name (.plain "self"), .op ",", .raw [.literal "1"]])], .op ";"]

/-- Not every call of a setter is a write. -/
theorem not_forall_setter_call :
    ¬ ∀ (config : Config) (className : String) (decls : List FieldDecl)
      (fs : List ObservableField) (ds : List Diagnostic),
      Resolution.fields config className decls = .ok (fs, ds) → ∀ (m : Method), ∀ f ∈ fs,
        m.Calls className f.setter.name → f.property ∈ (ofMethod (.ofFields fs) m).writes := by
  intro h
  have hcalls : (Method.sample pathCall).Calls "Model" "set_count" := by
    exact .inr (.inl ⟨.word (.plain "Self") :: Token.op "::", .plain "set_count", _, _, .refl,
      .inr ⟨[], .plain "Self", rfl, .inl rfl⟩, rfl⟩)
  have hwrites := h {} "Model" _ _ _ fields_count_label (.sample pathCall)
    (.sample "_count" "Count" "count") (by simp) hcalls
  exact absurd hwrites (by decide)

end ReactiveModel
