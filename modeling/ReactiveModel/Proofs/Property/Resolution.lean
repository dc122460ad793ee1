import Mathlib.Data.List.Basic
import ReactiveModel.Property.Resolution

/-!
# What the resolution of fields keeps apart

An accepted field has the property that its name gives and accessors named by the property, and no
two accepted fields share a property or an accessor (`Resolution.fields_resolved`).
-/

namespace ReactiveModel

theorem bind_eq_ok_iff {ε α β : Type} {x : Except ε α} {f : α → Except ε β} {b : β} :
    x >>= f = .ok b ↔ ∃ a, x = .ok a ∧ f a = .ok b := by
  cases x with
  | error e => simp [bind, Except.bind]
  | ok a => simp [bind, Except.bind]

/-- A name is spelled by an identifier of that name. -/
theorem Ident.name_of_spelling {name : String} {i : Ident} (h : spelling name = .ok i) :
    i.name = name := by
  unfold spelling at h
  split_ifs at h
  · cases h
    rfl
  · cases h
    rfl

/-- The property and the accessors of a field follow from its name. -/
structure ObservableField.IsDerived (prefixes : List String) (f : ObservableField) : Prop where
  property : f.property = Naming.property prefixes f.name.name
  getter : f.getter.name = Naming.accessor f.property
  setter : f.setter.name = Naming.setter f.property

/-- Two fields share neither the property nor an accessor. -/
structure ObservableField.Distinct (f g : ObservableField) : Prop where
  property : f.property ≠ g.property
  getter : f.getter.name ≠ g.getter.name
  setter : f.setter.name ≠ g.setter.name
  getter_setter : f.getter.name ≠ g.setter.name
  setter_getter : f.setter.name ≠ g.getter.name

/-- Accepted fields follow from their names, and are distinct. -/
structure Resolution.Resolved (prefixes : List String) (fs : List ObservableField) : Prop where
  derived : ∀ f ∈ fs, f.IsDerived prefixes
  distinct : fs.Pairwise ObservableField.Distinct

namespace ObservableField

variable {prefixes : List String} {f g : ObservableField}

/-- Fields that are distinct are declared by different names. -/
theorem Distinct.name (h : f.Distinct g) (hf : f.IsDerived prefixes) (hg : g.IsDerived prefixes) :
    f.name.name ≠ g.name.name :=
  fun e => h.property (by rw [hf.property, hg.property, e])

end ObservableField

namespace Resolution

variable {prefixes : List String} {className : String} {accepted fs : List ObservableField}
  {d : FieldDecl} {f : ObservableField}

theorem distinct_of_not_isTaken (hf : f.IsDerived prefixes)
    (h : isTaken accepted f.property = false) : ∀ g ∈ accepted, g.Distinct f := by
  intro g hg
  unfold isTaken at h
  have hgf := List.any_eq_false.1 h g hg
  simp only [List.any_cons, List.any_nil, Bool.or_false, Bool.or_eq_true, beq_iff_eq, not_or,
    ← hf.getter, ← hf.setter] at hgf
  obtain ⟨hp, ⟨hgg, hgs⟩, hsg, hss⟩ := hgf
  exact ⟨hp, hgg, hss, hgs, hsg⟩

/-- A field that is accepted follows from its name, and is distinct from those before it. -/
theorem field_eq_ok_inl (h : field prefixes className accepted d = .ok (.inl f)) :
    f.IsDerived prefixes ∧ ∀ g ∈ accepted, g.Distinct f := by
  unfold field at h
  dsimp only at h
  split_ifs at h with hpublic husable htaken
  · cases h
  · cases h
  · cases h
  · obtain ⟨getter, hgetter, h⟩ := bind_eq_ok_iff.1 h
    obtain ⟨setter, hsetter, h⟩ := bind_eq_ok_iff.1 h
    cases h
    have hf : ObservableField.IsDerived prefixes ⟨d.name, d.type, d.visibility,
        Naming.property prefixes d.name.name, getter, setter⟩ :=
      ⟨rfl, Ident.name_of_spelling hgetter, Ident.name_of_spelling hsetter⟩
    exact ⟨hf, distinct_of_not_isTaken hf (by simpa using htaken)⟩

theorem Resolved.concat (h : Resolved prefixes accepted) (hf : f.IsDerived prefixes)
    (hd : ∀ g ∈ accepted, g.Distinct f) : Resolved prefixes (accepted ++ [f]) := by
  refine ⟨fun g hg => ?_, List.pairwise_append.2 ⟨h.distinct, List.pairwise_singleton _ _, ?_⟩⟩
  · rcases List.mem_append.1 hg with hg | hg
    · exact h.derived g hg
    · rw [List.mem_singleton.1 hg]
      exact hf
  · intro g hg f' hf'
    rw [List.mem_singleton.1 hf']
    exact hd g hg

theorem fieldsFrom_resolved {decls : List FieldDecl} :
    ∀ {accepted fs : List ObservableField} {ds : List Diagnostic}, Resolved prefixes accepted →
      fieldsFrom prefixes className accepted decls = .ok (fs, ds) → Resolved prefixes fs := by
  induction decls with
  | nil =>
    intro accepted fs ds h e
    cases e
    exact h
  | cons d decls ih =>
    intro accepted fs ds h e
    rw [fieldsFrom] at e
    obtain ⟨r, hr, e⟩ := bind_eq_ok_iff.1 e
    cases r with
    | inl f =>
      obtain ⟨hf, hd⟩ := field_eq_ok_inl hr
      exact ih (h.concat hf hd) e
    | inr diagnostic =>
      obtain ⟨⟨fs', ds'⟩, hrest, e⟩ := bind_eq_ok_iff.1 e
      cases e
      exact ih h hrest

/-- The fields that a class accepts follow from their names, and are distinct. -/
theorem fields_resolved {config : Config} {decls : List FieldDecl} {ds : List Diagnostic}
    (h : fields config className decls = .ok (fs, ds)) :
    Resolved config.prefixesLongestFirst fs :=
  fieldsFrom_resolved ⟨by simp, .nil⟩ h

end Resolution

/-! ## Fields with the default prefixes -/

/-- A private field as it is declared. -/
def FieldDecl.sample (name : String) : FieldDecl := ⟨.plain name, .empty, .inherited⟩

/-- The default prefixes, the longer one first. -/
theorem prefixesLongestFirst_default : Config.prefixesLongestFirst {} = ["m_", "_"] := by
  have h : Config.triedBefore "_" "m_" = false := by decide
  simp [Config.prefixesLongestFirst, List.mergeSort, h]

end ReactiveModel
