import Mathlib.Data.List.Induction
import ReactiveModel.Proofs.Property.Index
import ReactiveModel.Proofs.Property.Resolution

/-!
# To which property a name is attributed

The resolution of fields keeps names of one kind apart: declared names, properties, methods. It does
not compare names of different kinds, so a declared name can be the reader of another field, and
then only the first of the two properties is found by it. Names are attributed to the properties
that they are names of if and only if no such names meet (`attribution`).
-/

namespace ReactiveModel

open PropertyIndex

variable {fs before after : List ObservableField} {f g : ObservableField} {prefixes : List String}

/-- What holds of each element and all before it holds of each pair. -/
theorem pairwise_iff_forall_append {α : Type} {r : α → α → Prop} {l : List α} :
    l.Pairwise r ↔ ∀ before a after, l = before ++ a :: after → ∀ b ∈ before, r b a := by
  constructor
  · rintro h before a after rfl b hb
    exact (List.pairwise_append.1 h).2.2 b hb a List.mem_cons_self
  · intro h
    induction l using List.reverseRecOn with
    | nil => exact .nil
    | append_singleton l a ih =>
      refine List.pairwise_append.2 ⟨ih fun before b after e => ?_,
        List.pairwise_singleton _ _, fun b hb a' ha' => ?_⟩
      · exact h before b (after ++ [a]) (by rw [e, List.append_assoc, List.cons_append])
      · rw [List.mem_singleton.1 ha']
        exact h l a [] rfl b hb

/-- No name of one of the fields is a name of another kind of the other field. -/
structure ObservableField.Apart (f g : ObservableField) : Prop where
  property_name : f.property ≠ g.name.name
  property_getter : f.property ≠ g.getter.name
  name_property : f.name.name ≠ g.property
  name_getter : f.name.name ≠ g.getter.name
  getter_property : f.getter.name ≠ g.property
  getter_name : f.getter.name ≠ g.name.name

instance : DecidableRel ObservableField.Apart := fun f g =>
  decidable_of_iff (f.property ≠ g.name.name ∧ f.property ≠ g.getter.name ∧
      f.name.name ≠ g.property ∧ f.name.name ≠ g.getter.name ∧
      f.getter.name ≠ g.property ∧ f.getter.name ≠ g.name.name)
    ⟨fun ⟨pn, pg, np, ng, gp, gn⟩ => ⟨pn, pg, np, ng, gp, gn⟩,
      fun ⟨pn, pg, np, ng, gp, gn⟩ => ⟨pn, pg, np, ng, gp, gn⟩⟩

/-- Fields that are resolved share no reader if and only if they are apart. -/
theorem apart_iff_disjoint (hf : f.IsDerived prefixes) (hg : g.IsDerived prefixes)
    (hfg : f.Distinct g) : f.Apart g ↔ ∀ name ∈ readers g, name ∉ readers f := by
  have hname := hfg.name hf hg
  simp only [readers, List.mem_cons, List.not_mem_nil, or_false, not_or, forall_eq_or_imp,
    forall_eq]
  constructor
  · rintro ⟨pn, pg, np, ng, gp, gn⟩
    exact ⟨⟨hfg.property.symm, np.symm, gp.symm⟩, ⟨pn.symm, hname.symm, gn.symm⟩,
      pg.symm, ng.symm, hfg.getter.symm⟩
  · rintro ⟨⟨-, np, gp⟩, ⟨pn, -, gn⟩, pg, ng, -⟩
    exact ⟨Ne.symm pn, Ne.symm pg, Ne.symm np, Ne.symm ng, Ne.symm gp, Ne.symm gn⟩

namespace Resolution.Resolved

variable (h : Resolved prefixes fs)

include h in
theorem distinct_of_append (e : fs = before ++ f :: after) : ∀ g ∈ before, g.Distinct f :=
  pairwise_iff_forall_append.1 h.distinct before f after e

include h in
/-- Every setter writes its property. -/
theorem write?_setter (hf : f ∈ fs) : (ofFields fs).write? f.setter.name = some f.property := by
  obtain ⟨before, after, rfl⟩ := List.append_of_mem hf
  exact PropertyIndex.write?_setter fun g hg => (h.distinct_of_append rfl g hg).setter

include h in
/-- A reader of a property reads it if and only if no field before has such a reader. -/
theorem read?_eq_property_iff (e : fs = before ++ f :: after) {name : String}
    (hname : name ∈ readers f) :
    (ofFields fs).read? name = some f.property ↔ ∀ g ∈ before, name ∉ readers g := by
  subst e
  exact PropertyIndex.read?_eq_property_iff
    (fun g hg => (h.distinct_of_append rfl g hg).property) hname

include h in
/-- All readers read their properties if and only if the fields are apart. -/
theorem forall_read?_iff :
    (∀ f ∈ fs, ∀ name ∈ readers f, (ofFields fs).read? name = some f.property) ↔
      fs.Pairwise ObservableField.Apart := by
  rw [pairwise_iff_forall_append]
  constructor
  · intro hread before f after e g hg
    have hf : f ∈ fs := by simp [e]
    have hgfs : g ∈ fs := by simp [e, hg]
    rw [apart_iff_disjoint (h.derived g hgfs) (h.derived f hf) (h.distinct_of_append e g hg)]
    exact fun name hname => (h.read?_eq_property_iff e hname).1 (hread f hf name hname) g hg
  · intro hapart f hf name hname
    obtain ⟨before, after, e⟩ := List.append_of_mem hf
    refine (h.read?_eq_property_iff e hname).2 fun g hg => ?_
    have hgfs : g ∈ fs := by simp [e, hg]
    have hgf := hapart before f after e g hg
    rw [apart_iff_disjoint (h.derived g hgfs) (h.derived f hf) (h.distinct_of_append e g hg)] at hgf
    exact hgf name hname

end Resolution.Resolved

/-- Among the fields that a class accepts, setters write the properties that they are setters of. A
property name, declared name or getter reads its property if and only if no field before has it as
one of these names; all of them do if and only if no two fields share a name of different kinds. -/
theorem attribution {config : Config} {className : String} {decls : List FieldDecl}
    {ds : List Diagnostic} (h : Resolution.fields config className decls = .ok (fs, ds)) :
    (∀ f ∈ fs, (ofFields fs).write? f.setter.name = some f.property) ∧
    (∀ before f after, fs = before ++ f :: after → ∀ name ∈ readers f,
      ((ofFields fs).read? name = some f.property ↔ ∀ g ∈ before, name ∉ readers g)) ∧
    ((∀ f ∈ fs, ∀ name ∈ readers f, (ofFields fs).read? name = some f.property) ↔
      fs.Pairwise ObservableField.Apart) := by
  have hr := Resolution.fields_resolved h
  exact ⟨fun _ hf => hr.write?_setter hf, fun _ _ _ e _ hname => hr.read?_eq_property_iff e hname,
    hr.forall_read?_iff⟩

/-! ## Two prefixes -/

theorem fields_count_label :
    Resolution.fields {} "Model" [.sample "_count", .sample "m_label"] =
      .ok ([.sample "_count" "Count" "count", .sample "m_label" "Label" "label"], []) := by
  rw [Resolution.fields, prefixesLongestFirst_default]
  rfl

theorem attribution_count_label :
    let fs : List ObservableField :=
      [.sample "_count" "Count" "count", .sample "m_label" "Label" "label"]
    ∀ f ∈ fs, (∀ name ∈ readers f, (ofFields fs).read? name = some f.property) ∧
      (ofFields fs).write? f.setter.name = some f.property := by
  intro fs f hf
  obtain ⟨hwrite, -, hread⟩ := attribution fields_count_label
  exact ⟨hread.2 (by decide) f hf, hwrite f hf⟩

/-- The getter of the first field is the declared name of the second. -/
theorem fields_m_x :
    Resolution.fields {} "Model" [.sample "_m_x", .sample "m_x"] =
      .ok ([.sample "_m_x" "M_x" "m_x", .sample "m_x" "X" "x"], []) := by
  rw [Resolution.fields, prefixesLongestFirst_default]
  rfl

/-- Not every declared name reads the property of its field. -/
theorem not_forall_attributed :
    ¬ ∀ (config : Config) (className : String) (decls : List FieldDecl)
      (fs : List ObservableField) (ds : List Diagnostic),
      Resolution.fields config className decls = .ok (fs, ds) →
        ∀ f ∈ fs, (∀ name ∈ readers f, (ofFields fs).read? name = some f.property) ∧
          (ofFields fs).write? f.setter.name = some f.property := by
  intro h
  obtain ⟨hread, -⟩ := h {} "Model" _ _ _ fields_m_x (.sample "m_x" "X" "x") (by simp)
  have hx := hread "m_x" (by decide)
  exact absurd hx (by decide)

end ReactiveModel
