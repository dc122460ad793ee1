import ReactiveModel.Proofs.Property.Prefix
import ReactiveModel.Proofs.Property.Spelling
import ReactiveModel.Proofs.Text.SnakeCase

/-!
# Names in snake case and back

With the default prefixes a name in snake case gives the same property with a prefix and without
one, and the accessors of the property spell the name again. So two fields of such names collide
just where one of the names is the other, or the setter of the other (`snake_names_round_trip`).
-/

namespace ReactiveModel

open Naming Text

variable {w w' field : String} {config : Config}

/-- The names of fields that are built from a name: with one of the default prefixes, or without one
if the name does not begin with it anyway. -/
inductive Naming.BuiltFrom (w : String) : String → Prop
  | underscore : BuiltFrom w ("_" ++ w)
  | member : BuiltFrom w ("m_" ++ w)
  | bare (h : ¬ ['m', '_'] <+: w.toList) : BuiltFrom w w

namespace Text.IsSnakeName

theorem exists_cons (h : IsSnakeName w) :
    ∃ first rest, first.isLower = true ∧ w.toList = first :: rest := by
  obtain ⟨first, rest, groups, hfirst, -, -, hname⟩ := h
  exact ⟨first, _, hfirst, hname⟩

theorem ne_empty (h : IsSnakeName w) : w ≠ "" := by
  obtain ⟨first, rest, -, hname⟩ := h.exists_cons
  rintro rfl
  cases hname

/-- A name in snake case is made of lower-case letters, digits and underscores. -/
theorem isSnakeChar_or_eq (h : IsSnakeName w) {c : Char} (hc : c ∈ w.toList) :
    isSnakeChar c = true ∨ c = '_' := by
  obtain ⟨first, rest, groups, hfirst, hrest, hgroups, hname⟩ := h
  rw [hname, List.mem_append, List.mem_cons, List.mem_flatMap] at hc
  rcases hc with (rfl | hc) | ⟨group, hgroup, hc⟩
  · exact .inl (isSnakeChar_of_isLower hfirst)
  · exact .inl (hrest c hc)
  · exact (List.mem_cons.1 hc).symm.imp_left ((hgroups group hgroup).2 c)

theorem isIdentifier (h : IsSnakeName w) : Text.isIdentifier w.toList = true := by
  obtain ⟨first, rest, hfirst, hname⟩ := h.exists_cons
  refine isIdentifier_iff.2 ⟨?_, fun c hc => ?_⟩
  · rw [hname]
    exact of_isSnakeChar (p := fun c => c.isLower = true → isIdentifierStart c = true) (by decide)
      (isSnakeChar_of_isLower hfirst) hfirst
  · rcases h.isSnakeChar_or_eq hc with hc | rfl
    · exact of_isSnakeChar (p := fun c => isIdentifierContinue c = true) (by decide) hc
    · decide

end Text.IsSnakeName

/-! ## Names of fields -/

namespace Naming

theorem capitalized_eq_modifyHead (h : IsSnakeName w) :
    capitalized w.toList = w.toList.modifyHead Char.toUpper := by
  obtain ⟨first, rest, hfirst, hname⟩ := h.exists_cons
  rw [hname, capitalized, (toUpper_of_isLower hfirst).1]
  rfl

/-- A prefix that does not begin with the name's first letter leaves nothing of the name. -/
theorem not_leaves_of_head {start name rest : String} {c d : Char} {more more' : List Char}
    (hstart : start.toList = c :: more) (hname : name.toList = d :: more') (hne : c ≠ d) :
    ¬ Leaves start name rest := by
  rintro ⟨h, -⟩
  have h := congrArg String.toList h
  rw [String.toList_append, hstart, hname] at h
  exact hne (List.cons.inj h).1

/-- What remains of a field's name is the name that it is built from. -/
theorem BuiltFrom.isStem (h : BuiltFrom w field) (hw : IsSnakeName w) :
    IsStem ["_", "m_"] field w := by
  obtain ⟨first, rest, hfirst, hname⟩ := hw.exists_cons
  cases h with
  | underscore =>
    have hleaves : Leaves "_" ("_" ++ w) w := ⟨rfl, hw.ne_empty⟩
    refine .stripped (by decide) hleaves fun other hother left hleft => ?_
    rcases List.mem_pair.1 hother with rfl | rfl
    · exact Nat.le_refl _
    · exact absurd hleft (not_leaves_of_head rfl (by rw [String.toList_append]; rfl) (by decide))
  | member =>
    have hleaves : Leaves "m_" ("m_" ++ w) w := ⟨rfl, hw.ne_empty⟩
    refine .stripped (by decide) hleaves fun other hother left _ => ?_
    rcases List.mem_pair.1 hother with rfl | rfl
    · decide
    · exact Nat.le_refl _
  | bare hbare =>
    refine .whole fun start hstart left hleft => ?_
    rcases List.mem_pair.1 hstart with rfl | rfl
    · have hne : '_' ≠ first := by
        rintro rfl
        cases hfirst
      exact not_leaves_of_head rfl hname hne hleft
    · refine hbare ⟨left.toList, ?_⟩
      rw [← hleft.1, String.toList_append]
      rfl

/-- The names of fields are identifiers without a raw mark. -/
theorem BuiltFrom.isIdentifier (h : BuiltFrom w field) (hw : IsSnakeName w) :
    Text.isIdentifier field.toList = true := by
  have hall := (isIdentifier_iff.1 hw.isIdentifier).2
  cases h with
  | underscore =>
    rw [String.toList_append, isIdentifier_iff]
    exact ⟨rfl, List.forall_mem_cons.2 ⟨rfl, hall⟩⟩
  | member =>
    rw [String.toList_append, isIdentifier_iff]
    exact ⟨rfl, List.forall_mem_cons.2 ⟨rfl, List.forall_mem_cons.2 ⟨rfl, hall⟩⟩⟩
  | bare => exact hw.isIdentifier

theorem not_raw_of_isIdentifier {text : List Char} (h : Text.isIdentifier text = true) :
    ¬ ['r', '#'] <+: text := by
  intro hraw
  have hmark := (isIdentifier_iff.1 h).2 '#' (hraw.subset (by decide))
  cases hmark

/-- The property of a field that is built from a name, and the accessors of the property. -/
theorem BuiltFrom.names (hprefixes : config.fieldPrefixes = ["_", "m_"]) (hw : IsSnakeName w)
    (h : BuiltFrom w field) :
    property config.prefixesLongestFirst field =
        String.ofList (w.toList.modifyHead Char.toUpper) ∧
      accessor (property config.prefixesLongestFirst field) = w ∧
      setter (property config.prefixesLongestFirst field) = "set_" ++ w := by
  have hstem : IsStem config.fieldPrefixes field w := hprefixes ▸ h.isStem hw
  have hproperty := property_of_isStem (not_raw_of_isIdentifier (h.isIdentifier hw)) hstem
  rw [capitalized_eq_modifyHead hw] at hproperty
  have haccessor : accessor (property config.prefixesLongestFirst field) = w := by
    rw [hproperty]
    exact snakeCase_modifyHead hw
  exact ⟨hproperty, haccessor, congrArg ("set_" ++ ·) haccessor⟩

end Naming

/-! ## Two fields -/

/-- The names are the same, or one of them is the setter of the other. -/
def Naming.Collide (w w' : String) : Prop := w = w' ∨ w = "set_" ++ w' ∨ w' = "set_" ++ w

/-- The field is built from a name in snake case that an identifier spells. -/
structure FieldDecl.IsBuiltFrom (w : String) (d : FieldDecl) : Prop where
  snake : IsSnakeName w
  spelled : w ∉ ["self", "super", "crate"]
  built : BuiltFrom w d.name.name

variable {className : String} {earlier : List ObservableField} {d d' : FieldDecl}
  {f : ObservableField} {o : ObservableField ⊕ Diagnostic}

namespace FieldDecl.IsBuiltFrom

theorem isUsable (hprefixes : config.fieldPrefixes = ["_", "m_"]) (h : d.IsBuiltFrom w) :
    Naming.isUsable (d.property config.prefixesLongestFirst) = true := by
  obtain ⟨-, haccessor, -⟩ := h.built.names hprefixes h.snake
  obtain ⟨first, rest, hfirst, hname⟩ := h.snake.exists_cons
  have hletter : isAlphabetic first = true :=
    of_isSnakeChar (p := fun c => c.isLower = true → isAlphabetic c = true) (by decide)
      (isSnakeChar_of_isLower hfirst) hfirst
  have hspelled := h.spelled
  rw [Naming.isUsable, FieldDecl.property, haccessor, hname]
  simpa [hletter] using hspelled

/-- The accessors of a field that is built from a name are spelled by identifiers. -/
theorem spells (hprefixes : config.fieldPrefixes = ["_", "m_"]) (h : d.IsBuiltFrom w) :
    Ident.Spells (accessor (d.property config.prefixesLongestFirst)) ∧
      Ident.Spells (setter (d.property config.prefixesLongestFirst)) := by
  obtain ⟨-, haccessor, -⟩ := h.built.names hprefixes h.snake
  have hproperty : ∀ c ∈ (d.property config.prefixesLongestFirst).toList,
      isIdentifierContinue c = true := fun c hc =>
    isIdentifierContinue_of_mem_property (h.built.isIdentifier h.snake) hc
  refine ⟨(spells_accessor_iff hproperty (h.isUsable hprefixes)).2 ?_, spells_setter hproperty⟩
  rw [beginsIdentifier, FieldDecl.property, haccessor]
  exact (isIdentifier_iff.1 h.snake.isIdentifier).1

/-- An accepted field blocks the names that collide with its own. -/
theorem blocks_iff (hprefixes : config.fieldPrefixes = ["_", "m_"]) (h : d.IsBuiltFrom w)
    (h' : d'.IsBuiltFrom w') (hdecl : f.decl = d)
    (hderived : f.IsDerived config.prefixesLongestFirst) :
    f.Blocks (d'.property config.prefixesLongestFirst) ↔ Collide w w' := by
  obtain ⟨-, haccessor, hsetter⟩ := h.built.names hprefixes h.snake
  obtain ⟨-, haccessor', hsetter'⟩ := h'.built.names hprefixes h'.snake
  have hname : f.name.name = d.name.name := by rw [← hdecl, ObservableField.decl]
  have hmethods : f.methods = [w, "set_" ++ w] := by
    rw [ObservableField.methods, hderived.getter, hderived.setter, hderived.property, hname,
      haccessor, hsetter]
  rw [ObservableField.Blocks, hmethods, FieldDecl.property, haccessor', hsetter', List.mem_pair,
    List.mem_pair, Collide]
  constructor
  · rintro (hproperty | (hsame | hset) | hset | hsame)
    · refine .inl ?_
      rw [← haccessor, ← haccessor', ← hname, ← hderived.property, hproperty]
    · exact .inl hsame.symm
    · exact .inr (.inr hset)
    · exact .inr (.inl hset.symm)
    · exact .inl ((String.append_right_inj _).1 hsame).symm
  · rintro (hsame | hset | hset)
    · exact .inr (.inl (.inl hsame.symm))
    · exact .inr (.inr (.inl hset.symm))
    · exact .inr (.inl (.inr hset))

/-- The first of two fields is accepted unless it is public, and then blocks names that collide. -/
theorem exists_blocks_iff (hprefixes : config.fieldPrefixes = ["_", "m_"]) (h : d.IsBuiltFrom w)
    (h' : d'.IsBuiltFrom w')
    (hverdict : Resolution.Verdict config.prefixesLongestFirst className [] d o) :
    (∃ f ∈ Resolution.acceptedIn [o], f.Blocks (d'.property config.prefixesLongestFirst)) ↔
      Resolution.isPublic d = false ∧ Collide w w' := by
  cases hverdict with
  | visible _ hpublic => simp [Resolution.acceptedIn, hpublic]
  | unusable _ _ hunusable =>
    have husable := h.isUsable hprefixes
    rw [FieldDecl.property, hunusable] at husable
    cases husable
  | blocked _ _ _ hblocked =>
    obtain ⟨f, hf, -⟩ := hblocked
    cases hf
  | accepted f hdecl hderived hprivate =>
    have hblocks := h.blocks_iff hprefixes h' hdecl hderived
    simp [Resolution.acceptedIn, hprivate, hblocks]

end FieldDecl.IsBuiltFrom

open Resolution

/-- With the default prefixes, all fields built from a name in snake case have the property that is
the name with a capital, and the accessors of the property are the name and its setter. Of two such
fields the second is refused as a duplicate if and only if neither is public and their names are the
same, or one is the setter of the other. -/
theorem snake_names_round_trip (hprefixes : config.fieldPrefixes = ["_", "m_"]) :
    (∀ w field, IsSnakeName w → BuiltFrom w field →
      let property := Naming.property config.prefixesLongestFirst field
      property = String.ofList (w.toList.modifyHead Char.toUpper) ∧
        accessor property = w ∧ setter property = "set_" ++ w) ∧
    ∀ (className w w' : String) (d d' : FieldDecl), d.IsBuiltFrom w → d'.IsBuiltFrom w' →
      ∃ o o', Resolution.fields config className [d, d'] =
          .ok (acceptedIn [o, o'], refusedIn [o, o']) ∧
        (∀ f, o = .inl f → f.decl = d) ∧ (∀ f, o' = .inl f → f.decl = d') ∧
        (∀ x, o' = .inr x → x.className = className ∧ x.member = d'.name.name) ∧
        ((∃ x, o' = .inr x ∧ x.kind = .duplicatePropertyName) ↔
          isPublic d = false ∧ isPublic d' = false ∧ Collide w w') := by
  refine ⟨fun w field hw h => h.names hprefixes hw, fun className w w' d d' h h' => ?_⟩
  have hspells : ∀ e ∈ [d, d'], isPublic e = false →
      Naming.isUsable (e.property config.prefixesLongestFirst) = true →
        Ident.Spells (accessor (e.property config.prefixesLongestFirst)) ∧
          Ident.Spells (setter (e.property config.prefixesLongestFirst)) := by
    intro e he _ _
    rcases List.mem_pair.1 he with rfl | rfl
    · exact h.spells hprefixes
    · exact h'.spells hprefixes
  obtain ⟨⟨fs, ds⟩, hfields⟩ :
      ∃ r, fieldsFrom config.prefixesLongestFirst className [] [d, d'] = .ok r :=
    exists_fieldsFrom hspells []
  obtain ⟨outcomes, hcourse, rfl, rfl⟩ := exists_course hfields
  obtain _ | ⟨hverdict, _ | ⟨hverdict', _ | _⟩⟩ := hcourse
  refine ⟨_, _, hfields, ?_, ?_, ?_, ?_⟩
  · rintro f rfl
    exact hverdict.derived.1
  · rintro f rfl
    exact hverdict'.derived.1
  · rintro x rfl
    exact hverdict'.names
  · have husable := h'.isUsable hprefixes
    have hblocks := h.exists_blocks_iff hprefixes h' hverdict
    rw [FieldDecl.property] at husable hblocks
    rw [hverdict'.isDuplicate_iff, List.nil_append, and_iff_right husable, hblocks]
    exact and_left_comm

/-- The field `_set_x` takes the name of the setter that the field `m_x` needs. -/
theorem snake_names_round_trip_set_x :
    ∃ o o', Resolution.fields {} "Model" [.sample "_set_x", .sample "m_x"] =
        .ok (acceptedIn [o, o'], refusedIn [o, o']) ∧
      ∃ x, o' = .inr x ∧ x.kind = .duplicatePropertyName := by
  have hx : IsSnakeName "x" := ⟨'x', [], [], rfl, List.forall_mem_nil _, List.forall_mem_nil _, rfl⟩
  have hset : IsSnakeName "set_x" := by
    refine ⟨'s', ['e', 't'], [['x']], rfl, ?_, ?_, rfl⟩
    · exact List.forall_mem_cons.2 ⟨rfl, List.forall_mem_singleton.2 rfl⟩
    · exact List.forall_mem_singleton.2 ⟨List.cons_ne_nil _ _, List.forall_mem_singleton.2 rfl⟩
  have hprefixes : Config.fieldPrefixes {} = ["_", "m_"] := rfl
  obtain ⟨o, o', hfields, -, -, -, hduplicate⟩ :=
    (snake_names_round_trip hprefixes).2 "Model" "set_x" "x" (.sample "_set_x") (.sample "m_x")
      ⟨hset, by decide, .underscore⟩ ⟨hx, by decide, .member⟩
  exact ⟨o, o', hfields, hduplicate.2 ⟨rfl, rfl, .inr (.inl rfl)⟩⟩

end ReactiveModel
