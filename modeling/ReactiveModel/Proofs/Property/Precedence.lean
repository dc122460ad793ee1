import Mathlib.Data.List.Nodup
import ReactiveModel.Proofs.Property.Index
import ReactiveModel.Proofs.Property.Resolution

/-!
# Which fields are accepted

The resolution of fields gives a verdict on each field in turn, in view of the fields accepted
before it: the field is accepted, or it is refused with one violation that names it. A refused field
takes no name, so what blocks a field is an accepted one (`first_field_wins`).
-/

namespace ReactiveModel

/-- The declaration that an accepted field comes from. -/
def ObservableField.decl (f : ObservableField) : FieldDecl := ⟨f.name, f.type, f.visibility⟩

/-- The names of the accessors of a field. -/
def ObservableField.methods (f : ObservableField) : List String := [f.getter.name, f.setter.name]

/-- A field has taken a name that a property needs: its own, or that of one of its accessors. -/
def ObservableField.Blocks (f : ObservableField) (property : String) : Prop :=
  f.property = property ∨ Naming.accessor property ∈ f.methods ∨ Naming.setter property ∈ f.methods

namespace Resolution

variable {prefixes : List String} {className : String} {accepted fs : List ObservableField}
  {d : FieldDecl} {decls : List FieldDecl} {f : ObservableField} {x : Diagnostic}
  {o : ObservableField ⊕ Diagnostic} {ds : List Diagnostic}

/-! ## The verdict on one field -/

theorem isTaken_iff {property : String} :
    isTaken accepted property = true ↔ ∃ f ∈ accepted, f.Blocks property := by
  unfold isTaken ObservableField.Blocks ObservableField.methods
  simp only [List.any_eq_true, List.any_cons, List.any_nil, Bool.or_false, Bool.or_eq_true,
    beq_iff_eq, List.mem_cons, List.not_mem_nil, or_false]
  refine exists_congr fun f => and_congr_right fun _ => ?_
  grind

/-- What becomes of a field after the given fields have been accepted. -/
inductive Verdict (prefixes : List String) (className : String) (earlier : List ObservableField)
    (d : FieldDecl) : ObservableField ⊕ Diagnostic → Prop
  | visible (message : String) (hpublic : isPublic d = true) :
    Verdict prefixes className earlier d
      (.inr ⟨.observableFieldMustNotBePublic, className, d.name.name, message⟩)
  | unusable (message : String) (hprivate : isPublic d = false)
      (hunusable : Naming.isUsable (Naming.property prefixes d.name.name) = false) :
    Verdict prefixes className earlier d
      (.inr ⟨.invalidPropertyName, className, d.name.name, message⟩)
  | blocked (message : String) (hprivate : isPublic d = false)
      (husable : Naming.isUsable (Naming.property prefixes d.name.name) = true)
      (hblocked : ∃ f ∈ earlier, f.Blocks (Naming.property prefixes d.name.name)) :
    Verdict prefixes className earlier d
      (.inr ⟨.duplicatePropertyName, className, d.name.name, message⟩)
  | accepted (f : ObservableField) (hdecl : f.decl = d) (hderived : f.IsDerived prefixes)
      (hprivate : isPublic d = false)
      (husable : Naming.isUsable (Naming.property prefixes d.name.name) = true)
      (hfree : ¬ ∃ f ∈ earlier, f.Blocks (Naming.property prefixes d.name.name)) :
    Verdict prefixes className earlier d (.inl f)

theorem verdict_of_field (h : field prefixes className accepted d = .ok o) :
    Verdict prefixes className accepted d o := by
  have hf : ∀ f, o = .inl f → f.IsDerived prefixes := by
    rintro f rfl
    exact (field_eq_ok_inl h).1
  unfold field at h
  dsimp only at h
  split_ifs at h with hpublic husable htaken
  · cases h
    exact .visible _ hpublic
  · cases h
    exact .unusable _ (by simpa using hpublic) (by simpa using husable)
  · cases h
    exact .blocked _ (by simpa using hpublic) (by simpa using husable) (isTaken_iff.1 htaken)
  · obtain ⟨getter, -, h⟩ := bind_eq_ok_iff.1 h
    obtain ⟨setter, -, h⟩ := bind_eq_ok_iff.1 h
    cases h
    exact .accepted _ rfl (hf _ rfl) (by simpa using hpublic) (by simpa using husable)
      (isTaken_iff.not.1 htaken)

namespace Verdict

/-- A field is accepted as it is declared, with the names that follow from its own. -/
theorem derived (h : Verdict prefixes className accepted d (.inl f)) :
    f.decl = d ∧ f.IsDerived prefixes := by
  cases h with
  | accepted _ hdecl hderived => exact ⟨hdecl, hderived⟩

/-- The violation of a refused field names the class and the field. -/
theorem names (h : Verdict prefixes className accepted d (.inr x)) :
    x.className = className ∧ x.member = d.name.name := by
  cases h <;> exact ⟨rfl, rfl⟩

/-- A field is refused as a duplicate if and only if nothing else is wrong with it and a field
accepted before it has taken one of its names. -/
theorem isDuplicate_iff (h : Verdict prefixes className accepted d o) :
    (∃ x, o = .inr x ∧ x.kind = .duplicatePropertyName) ↔
      isPublic d = false ∧ Naming.isUsable (Naming.property prefixes d.name.name) = true ∧
        ∃ f ∈ accepted, f.Blocks (Naming.property prefixes d.name.name) := by
  cases h with
  | visible _ hpublic => simp [hpublic]
  | unusable _ _ hunusable => simp [hunusable]
  | blocked _ hprivate husable hblocked => simp [hprivate, husable, hblocked]
  | accepted _ _ _ _ _ hfree => simp [hfree]

end Verdict

/-! ## The verdicts on all fields -/

/-- The accepted fields among verdicts. -/
def acceptedIn (outcomes : List (ObservableField ⊕ Diagnostic)) : List ObservableField :=
  outcomes.filterMap Sum.getLeft?

/-- The violations among verdicts. -/
def refusedIn (outcomes : List (ObservableField ⊕ Diagnostic)) : List Diagnostic :=
  outcomes.filterMap Sum.getRight?

/-- A verdict on each field in turn, after those that are accepted already and those that are
accepted on the way. -/
inductive Course (prefixes : List String) (className : String) :
    List ObservableField → List FieldDecl → List (ObservableField ⊕ Diagnostic) → Prop
  | nil (earlier : List ObservableField) : Course prefixes className earlier [] []
  | cons {earlier : List ObservableField} {d : FieldDecl} {decls : List FieldDecl}
      {o : ObservableField ⊕ Diagnostic} {outcomes : List (ObservableField ⊕ Diagnostic)}
      (verdict : Verdict prefixes className earlier d o)
      (rest : Course prefixes className (earlier ++ acceptedIn [o]) decls outcomes) :
    Course prefixes className earlier (d :: decls) (o :: outcomes)

theorem exists_course : ∀ {accepted fs : List ObservableField} {ds : List Diagnostic},
    fieldsFrom prefixes className accepted decls = .ok (fs, ds) →
      ∃ outcomes, Course prefixes className accepted decls outcomes ∧
        fs = accepted ++ acceptedIn outcomes ∧ ds = refusedIn outcomes := by
  induction decls with
  | nil =>
    intro accepted fs ds h
    cases h
    exact ⟨[], .nil _, by simp [acceptedIn], rfl⟩
  | cons d decls ih =>
    intro accepted fs ds h
    rw [fieldsFrom] at h
    obtain ⟨o, ho, h⟩ := bind_eq_ok_iff.1 h
    have hv := verdict_of_field ho
    cases o with
    | inl f =>
      obtain ⟨outcomes, hc, rfl, rfl⟩ := ih h
      exact ⟨.inl f :: outcomes, .cons hv hc, by simp [acceptedIn], rfl⟩
    | inr x =>
      obtain ⟨⟨fs', ds'⟩, hrest, h⟩ := bind_eq_ok_iff.1 h
      cases h
      obtain ⟨outcomes, hc, rfl, rfl⟩ := ih hrest
      refine ⟨.inr x :: outcomes, .cons hv ?_, rfl, rfl⟩
      rwa [show acceptedIn [.inr x] = [] from rfl, List.append_nil]

namespace Course

variable {outcomes : List (ObservableField ⊕ Diagnostic)}

theorem length_eq (h : Course prefixes className accepted decls outcomes) :
    outcomes.length = decls.length := by
  induction h with
  | nil => rfl
  | cons _ _ ih => simp [ih]

/-- The verdict on the field at a position is in view of the fields accepted before it. -/
theorem verdict_at (h : Course prefixes className accepted decls outcomes) :
    ∀ {k d}, decls[k]? = some d → ∃ o, outcomes[k]? = some o ∧
      Verdict prefixes className (accepted ++ acceptedIn (outcomes.take k)) d o := by
  induction h with
  | nil =>
    intro k d hk
    simp at hk
  | @cons earlier d decls o outcomes hv _ ih =>
    intro k d' hk
    cases k with
    | zero =>
      cases hk
      exact ⟨o, rfl, by simpa [acceptedIn] using hv⟩
    | succ k =>
      obtain ⟨o', ho', hv'⟩ := ih hk
      refine ⟨o', ho', ?_⟩
      rw [List.append_assoc] at hv'
      simpa [acceptedIn, ← List.filterMap_append] using hv'

/-- The accepted fields are some of the declared ones in their order. -/
theorem sublist (h : Course prefixes className accepted decls outcomes) :
    ((acceptedIn outcomes).map ObservableField.decl).Sublist decls := by
  induction h with
  | nil => exact .slnil
  | @cons earlier d decls o outcomes hv _ ih =>
    cases o with
    | inl f =>
      rw [← hv.derived.1]
      exact ih.cons_cons _
    | inr x => exact ih.cons d

end Course

/-! ## The names that are taken -/

/-- A field is not read and written by the same method. -/
theorem nodup_methods (h : f.IsDerived prefixes) : f.methods.Nodup := by
  have hne : f.getter.name ≠ f.setter.name := by
    rw [h.setter, h.getter, Naming.setter]
    intro e
    have hlen := congrArg String.length e
    rw [String.length_append] at hlen
    have : "set_".length = 4 := rfl
    omega
  simpa [ObservableField.methods] using hne

theorem Resolved.nodup_properties (h : Resolved prefixes fs) : (fs.map (·.property)).Nodup :=
  List.pairwise_map.2 (h.distinct.imp fun hfg => hfg.property)

/-- All accessors have different names. -/
theorem Resolved.nodup_methods (h : Resolved prefixes fs) :
    (fs.flatMap ObservableField.methods).Nodup := by
  refine List.nodup_flatMap.2 ⟨fun f hf => Resolution.nodup_methods (h.derived f hf),
    h.distinct.imp fun {f g} hfg => ?_⟩
  simp only [Function.onFun, ObservableField.methods, List.disjoint_cons_left, List.mem_cons,
    List.not_mem_nil, or_false, not_or, List.disjoint_nil_left, and_true]
  exact ⟨⟨hfg.getter, hfg.getter_setter⟩, hfg.setter_getter, hfg.setter⟩

end Resolution

open Resolution

/-- Where fields are resolved, the accepted ones are some of the declared ones in their order, and
no two of their properties and no two of their accessors have one name. There is one outcome for
each declared field: it is accepted, or refused with one violation that names it; the violations
come in the order of the fields. A field is refused as a duplicate if and only if it is not public,
its property has a usable name, and a field accepted before it has taken the name of its property
or of one of its accessors. -/
theorem first_field_wins {config : Config} {className : String} {decls : List FieldDecl}
    {fs : List ObservableField} {ds : List Diagnostic}
    (h : Resolution.fields config className decls = .ok (fs, ds)) :
    (fs.map ObservableField.decl).Sublist decls ∧ (fs.map (·.property)).Nodup ∧
    (fs.flatMap ObservableField.methods).Nodup ∧
    ∃ outcomes : List (ObservableField ⊕ Diagnostic),
      outcomes.length = decls.length ∧ fs = acceptedIn outcomes ∧ ds = refusedIn outcomes ∧
      ∀ k d, decls[k]? = some d → ∃ o, outcomes[k]? = some o ∧
        (∀ f, o = .inl f → f.decl = d ∧ f.IsDerived config.prefixesLongestFirst) ∧
        (∀ x, o = .inr x → x.className = className ∧ x.member = d.name.name) ∧
        ((∃ x, o = .inr x ∧ x.kind = .duplicatePropertyName) ↔
          isPublic d = false ∧
          Naming.isUsable (Naming.property config.prefixesLongestFirst d.name.name) = true ∧
          ∃ f ∈ acceptedIn (outcomes.take k),
            f.Blocks (Naming.property config.prefixesLongestFirst d.name.name)) := by
  have hr := fields_resolved h
  obtain ⟨outcomes, hc, rfl, rfl⟩ := exists_course h
  refine ⟨hc.sublist, hr.nodup_properties, hr.nodup_methods,
    outcomes, hc.length_eq, rfl, rfl, fun k d hk => ?_⟩
  obtain ⟨o, ho, hv⟩ := hc.verdict_at hk
  refine ⟨o, ho, ?_, ?_, hv.isDuplicate_iff⟩
  · rintro f rfl
    exact hv.derived
  · rintro x rfl
    exact hv.names

set_option maxRecDepth 2000 in
/-- The setter of the first field is the getter of the second, which is refused; the third needs a
name that only the refused field would have taken. -/
theorem fields_set_x :
    Resolution.fields {} "Model" [.sample "_x", .sample "_set_x", .sample "_set_set_x"] =
      .ok ([.sample "_x" "X" "x", .sample "_set_set_x" "Set_set_x" "set_set_x"],
        [⟨.duplicatePropertyName, "Model", "_set_x", "field '_set_x' derives property 'Set_x', " ++
          "whose name or accessors are already generated for an earlier field"⟩]) := by
  rw [Resolution.fields, prefixesLongestFirst_default]
  rfl

theorem first_field_wins_set_x :
    let decls : List FieldDecl := [.sample "_x", .sample "_set_x", .sample "_set_set_x"]
    let fs : List ObservableField :=
      [.sample "_x" "X" "x", .sample "_set_set_x" "Set_set_x" "set_set_x"]
    (fs.map ObservableField.decl).Sublist decls ∧ (fs.flatMap ObservableField.methods).Nodup := by
  intro decls fs
  obtain ⟨hsublist, -, hmethods, -⟩ := first_field_wins fields_set_x
  exact ⟨hsublist, hmethods⟩

end ReactiveModel
