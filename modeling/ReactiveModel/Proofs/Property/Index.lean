import Mathlib.Data.List.Basic
import ReactiveModel.Property.Index

/-!
# Names in the index of properties

A name reads the first property that has it among its readers (`read?_eq_property_iff`), and a
setter writes the first property whose setter has its name.
-/

namespace ReactiveModel

/-- A private field that is a property, with its accessors. -/
def ObservableField.sample (name property accessor : String) : ObservableField :=
  ⟨.plain name, .empty, .inherited, property, .plain accessor, .plain ("set_" ++ accessor)⟩

namespace PropertyIndex

variable {fs before after : List ObservableField} {f : ObservableField} {name p : String}

/-- Names that all stand for one value. -/
theorem lookup_map_const (names : List String) (value : String) :
    (names.map fun n => (n, value)).lookup name = if name ∈ names then some value else none := by
  induction names with
  | nil => rfl
  | cons n names ih =>
    rw [List.map_cons, List.lookup_cons, ih]
    by_cases h : name = n
    · simp [h]
    · simp [h, beq_false_of_ne h]

theorem read?_cons : (ofFields (f :: fs)).read? name =
    if name ∈ readers f then some f.property else (ofFields fs).read? name := by
  have h : (ofFields (f :: fs)).read? name =
      (((readers f).map fun n => (n, f.property)) ++ (ofFields fs).reads).lookup name := rfl
  rw [h, List.lookup_append, lookup_map_const]
  split_ifs <;> rfl

/-- A name that reads a property is a reader of it. -/
theorem exists_of_read?_eq_some (h : (ofFields fs).read? name = some p) :
    ∃ f ∈ fs, name ∈ readers f ∧ f.property = p := by
  induction fs with
  | nil => cases h
  | cons g fs ih =>
    rw [read?_cons] at h
    split_ifs at h with hg
    · exact ⟨g, List.mem_cons_self, hg, Option.some.inj h⟩
    · obtain ⟨f, hf, hname, hp⟩ := ih h
      exact ⟨f, List.mem_cons_of_mem _ hf, hname, hp⟩

/-- A reader of a property reads it if and only if it is no reader of a property before it. -/
theorem read?_eq_property_iff (hne : ∀ g ∈ before, g.property ≠ f.property)
    (hname : name ∈ readers f) :
    (ofFields (before ++ f :: after)).read? name = some f.property ↔
      ∀ g ∈ before, name ∉ readers g := by
  induction before with
  | nil => simp [read?_cons, hname]
  | cons g before ih =>
    have hg : g.property ≠ f.property := hne g List.mem_cons_self
    rw [List.forall_mem_cons, ← ih fun g' hg' => hne g' (List.mem_cons_of_mem _ hg'),
      List.cons_append, read?_cons]
    by_cases h : name ∈ readers g <;> simp [h, hg]

theorem write?_cons : (ofFields (f :: fs)).write? name =
    if name = f.setter.name then some f.property else (ofFields fs).write? name := by
  have h : (ofFields (f :: fs)).write? name =
      ((f.setter.name, f.property) :: (ofFields fs).writes).lookup name := rfl
  rw [h, List.lookup_cons]
  by_cases hname : name = f.setter.name
  · simp [hname]
  · simp [hname, beq_false_of_ne hname, write?]

/-- The setter of a property writes it if no property before it has a setter of that name. -/
theorem write?_setter (hne : ∀ g ∈ before, g.setter.name ≠ f.setter.name) :
    (ofFields (before ++ f :: after)).write? f.setter.name = some f.property := by
  induction before with
  | nil => rw [List.nil_append, write?_cons, if_pos rfl]
  | cons g before ih =>
    rw [List.cons_append, write?_cons, if_neg (Ne.symm (hne g List.mem_cons_self))]
    exact ih fun g' hg' => hne g' (List.mem_cons_of_mem _ hg')

end PropertyIndex

end ReactiveModel
