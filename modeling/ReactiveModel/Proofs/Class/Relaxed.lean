import Mathlib.Data.List.Forall2
import ReactiveModel.Expansion
import ReactiveModel.Proofs.Class.Scope
import ReactiveModel.Proofs.Marker.Spelling

/-!
# Models that are marked anew

A file may be changed so that some of its models allow cycles: in place of `#[reactive_model]` they
are marked by `#[reactive_model(allow_cycles)]`. The same is found in the changed file as before,
but that the candidates whose marker is replaced allow cycles now (`relaxed_find`).
-/

namespace ReactiveModel

open Candidate

/-! ## Markers -/

/-- The marker of a model that says nothing about cycles. -/
def plainMarker : Attribute := Expansion.modelMarker []

/-- The marker of a model that allows cycles. -/
def allowingMarker : Attribute := Expansion.modelMarker [.word (.plain "allow_cycles")]

/-- Whether an attribute is the marker of a model, well-formed or not. -/
def Attribute.isModelMarker (a : Attribute) : Bool :=
  MarkerKind.of? a.head = some .reactiveModel

/-- The marker of a model that counts: the first one. -/
def Struct.modelMarker? (s : Struct) : Option Attribute :=
  s.attributes.find? Attribute.isModelMarker

/-- The attribute is the same, or a marker that says nothing about cycles is replaced by one that
allows them. -/
def Attribute.Relaxed (a a' : Attribute) : Prop :=
  a' = a ∨ a = plainMarker ∧ a' = allowingMarker

namespace Attribute.Relaxed

variable {a a' : Attribute} {as as' : List Attribute}

theorem isModelMarker_eq (h : a.Relaxed a') : a'.isModelMarker = a.isModelMarker := by
  rcases h with rfl | ⟨rfl, rfl⟩
  · rfl
  · decide

/-- Of markers that are replaced, only the first one counts. -/
theorem find?_isModelMarker (h : List.Forall₂ Attribute.Relaxed as as') :
    as'.find? isModelMarker = as.find? isModelMarker ∨
      as.find? isModelMarker = some plainMarker ∧
        as'.find? isModelMarker = some allowingMarker := by
  induction h with
  | nil => exact .inl rfl
  | @cons a a' as as' ha _ ih =>
    rw [List.find?_cons, List.find?_cons, ha.isModelMarker_eq]
    cases hmarker : a.isModelMarker with
    | false => exact ih
    | true =>
      rcases ha with rfl | ⟨rfl, rfl⟩
      · exact .inl rfl
      · exact .inr ⟨rfl, rfl⟩

end Attribute.Relaxed

/-! ## Candidates -/

/-- The candidate with other attributes and another word on cycles. -/
def Candidate.remarked (as : List Attribute) (allowed : Bool) (c : Candidate) : Candidate :=
  { c with item := { c.item with attributes := as }, allowCycles := allowed }

/-- The candidate is the same but for its attributes: it has the same marker, or in place of a
marker that says nothing about cycles it has one that allows them. -/
structure Candidate.Relaxed (c c' : Candidate) : Prop where
  eq_remarked : c' = c.remarked c'.item.attributes c'.allowCycles
  marker : c'.item.modelMarker? = c.item.modelMarker? ∧ c'.allowCycles = c.allowCycles ∨
    c.item.modelMarker? = some plainMarker ∧ c'.item.modelMarker? = some allowingMarker ∧
      c'.allowCycles = true

/-- What is found is the same, but that a candidate may be marked anew. -/
inductive Candidate.Finding.Relaxed : Finding → Finding → Prop
  | candidate {c c' : Candidate} (h : c.Relaxed c') : Relaxed (.candidate c) (.candidate c')
  | violation (d : Diagnostic) : Relaxed (.violation d) (.violation d)

/-! ## Items -/

/-- The item is the same, but that some structs in it are marked anew. -/
inductive Item.Relaxed : Item → Item → Prop
  | same (item : Item) : Item.Relaxed item item
  | struct {s : Struct} {as : List Attribute}
    (h : List.Forall₂ Attribute.Relaxed s.attributes as) :
    Item.Relaxed (.struct s) (.struct { s with attributes := as })
  | module {items items' : List Item} (head : ModuleHead)
    (h : List.Forall₂ Item.Relaxed items items') :
    Item.Relaxed (.module head items) (.module head items')

namespace Candidate

theorem Relaxed.refl (c : Candidate) : c.Relaxed c := ⟨rfl, .inl ⟨rfl, rfl⟩⟩

theorem Finding.Relaxed.refl (f : Finding) : f.Relaxed f := by
  cases f with
  | candidate c => exact .candidate (.refl c)
  | violation d => exact .violation d

variable {modules : List String} {items items' : List Item} {s : Struct} {as : List Attribute}

/-- What is found at a struct whose marker is read as it is given. -/
def ofMarker (modules : List String) (items : List Item) (s : Struct) :
    Option (Except MarkerError Marker) → List Finding
  | some (.ok (.reactiveModel allowed)) =>
    match s.fields with
    | .named fields => [.candidate ⟨modules, s, fields.map (·.1), implsOf s.name items, allowed⟩]
    | _ => [.violation ⟨.unsupportedDeclaration, qualify modules s.name, s.name.text,
        "reactive_model only supports structs with named fields"⟩]
  | some (.error e) =>
    [.violation ⟨.malformedMarker, qualify modules s.name, s.name.text, e.message⟩]
  | _ => []

theorem ofStruct_eq_ofMarker (modules : List String) (items : List Item) (s : Struct) :
    ofStruct modules items s = ofMarker modules items s
      (s.modelMarker?.map fun a => Marker.ofKind .reactiveModel a.head) := by
  have hmarker : (Marker.find? .reactiveModel s.attributes).map (·.2) =
      s.modelMarker?.map fun a => Marker.ofKind .reactiveModel a.head :=
    Marker.map_snd_find? .reactiveModel s.attributes
  rw [← hmarker]
  unfold ofStruct
  cases Marker.find? .reactiveModel s.attributes with
  | none => rfl
  | some found =>
    obtain ⟨position, _ | m⟩ := found
    · rfl
    · cases m <;> rfl

/-- A candidate allows cycles as its marker says. -/
def Marked (c : Candidate) : Prop :=
  c.item.modelMarker?.map (fun a => Marker.ofKind .reactiveModel a.head) =
    some (.ok (.reactiveModel c.allowCycles))

theorem marked_of_mem_ofStruct {c : Candidate} (h : c ∈ among (ofStruct modules items s)) :
    c.Marked := by
  rw [ofStruct_eq_ofMarker] at h
  generalize hmarker : s.modelMarker?.map (fun a => Marker.ofKind .reactiveModel a.head) = marker
    at h
  unfold ofMarker at h
  split at h
  · split at h
    · rw [List.mem_singleton.1 h]
      exact hmarker
    · cases h
  · cases h
  · cases h

mutual

theorem marked_of_mem_ofItem (modules : List String) (items : List Item) : ∀ item : Item,
    ∀ c ∈ among (ofItem modules items item), c.Marked
  | .struct _, _, h => marked_of_mem_ofStruct h
  | .module _ inner, c, h => marked_of_mem_ofItems _ inner inner c h
  | .enum _, c, h => by rw [ofItem, among_ofOther] at h; cases h
  | .union _, c, h => by rw [ofItem, among_ofOther] at h; cases h

theorem marked_of_mem_ofItems (modules : List String) (items : List Item) : ∀ rest : List Item,
    ∀ c ∈ among (ofItems modules items rest), c.Marked
  | item :: rest, c, h => by
    rw [ofItems, among_append] at h
    rcases List.mem_append.1 h with h | h
    · exact marked_of_mem_ofItem modules items item c h
    · exact marked_of_mem_ofItems modules items rest c h

end

/-- Two structs that differ in their markers give the same, but that the second may allow cycles
where the first does not. -/
theorem relaxed_ofMarker {allowed allowed' : Bool}
    (himpls : implsOf s.name items' = implsOf s.name items)
    (hmarker : ∀ fields impls, Candidate.Relaxed ⟨modules, s, fields, impls, allowed⟩
      ⟨modules, { s with attributes := as }, fields, impls, allowed'⟩) :
    List.Forall₂ Finding.Relaxed (ofMarker modules items s (some (.ok (.reactiveModel allowed))))
      (ofMarker modules items' { s with attributes := as }
        (some (.ok (.reactiveModel allowed')))) := by
  unfold ofMarker
  dsimp only
  rw [himpls]
  split
  · exact .cons (.candidate (hmarker _ _)) .nil
  · exact .cons (.violation _) .nil

theorem relaxed_ofStruct (h : List.Forall₂ Attribute.Relaxed s.attributes as)
    (himpls : implsOf s.name items' = implsOf s.name items) :
    List.Forall₂ Finding.Relaxed (ofStruct modules items s)
      (ofStruct modules items' { s with attributes := as }) := by
  rw [ofStruct_eq_ofMarker, ofStruct_eq_ofMarker]
  rcases Attribute.Relaxed.find?_isModelMarker h with hsame | ⟨hplain, hallowing⟩
  · -- the marker that counts is read alike, also where it is malformed or absent
    have hmarker : Struct.modelMarker? { s with attributes := as } = s.modelMarker? := hsame
    rw [hmarker]
    cases s.modelMarker?.map fun a => Marker.ofKind .reactiveModel a.head with
    | none => exact .nil
    | some read =>
      rcases read with e | ⟨allowed⟩ | _ | _ | _
      · exact .cons (.violation _) .nil
      · exact relaxed_ofMarker himpls fun fields impls => ⟨rfl, .inl ⟨hmarker, rfl⟩⟩
      all_goals exact .nil
  · have hmarker : s.modelMarker? = some plainMarker := hplain
    have hmarker' : Struct.modelMarker? { s with attributes := as } = some allowingMarker :=
      hallowing
    have hread : Marker.ofKind .reactiveModel plainMarker.head = .ok (.reactiveModel false) := rfl
    have hread' : Marker.ofKind .reactiveModel allowingMarker.head = .ok (.reactiveModel true) :=
      rfl
    rw [hmarker, hmarker', Option.map_some, Option.map_some, hread, hread']
    exact relaxed_ofMarker himpls fun fields impls => ⟨rfl, .inr ⟨hmarker, hmarker', rfl⟩⟩

/-- Impl blocks stay as they are. -/
theorem implsOf_relaxed (h : List.Forall₂ Item.Relaxed items items') (name : Ident) :
    implsOf name items' = implsOf name items := by
  induction h with
  | nil => rfl
  | @cons item item' items items' hitem _ ih =>
    unfold implsOf at ih ⊢
    rw [List.filterMap_cons, List.filterMap_cons, ih]
    cases hitem with
    | same => rfl
    | struct => rfl
    | module => rfl

theorem relaxed_refl (fs : List Finding) : List.Forall₂ Finding.Relaxed fs fs :=
  List.forall₂_same.2 fun f _ => .refl f

mutual

theorem relaxed_ofItem (modules : List String) (items items' : List Item)
    (himpls : ∀ name, implsOf name items' = implsOf name items) : ∀ item item' : Item,
      item.Relaxed item' →
        List.Forall₂ Finding.Relaxed (ofItem modules items item) (ofItem modules items' item')
  | .struct s, _, .same _ =>
    relaxed_ofStruct (List.forall₂_same.2 fun _ _ => .inl rfl) (himpls s.name)
  | .struct s, _, .struct h => relaxed_ofStruct h (himpls s.name)
  | .module head inner, .module _ inner', .module _ h =>
    relaxed_ofItems _ inner inner' (implsOf_relaxed h) inner inner' h
  -- apart from structs, an item gives the same whatever stands around it
  | .module _ _, _, .same _ => relaxed_refl _
  | .enum _, _, .same _ => relaxed_refl _
  | .union _, _, .same _ => relaxed_refl _
  | .impl _, _, .same _ => .nil
  | .other _, _, .same _ => .nil

theorem relaxed_ofItems (modules : List String) (items items' : List Item)
    (himpls : ∀ name, implsOf name items' = implsOf name items) : ∀ rest rest' : List Item,
      List.Forall₂ Item.Relaxed rest rest' →
        List.Forall₂ Finding.Relaxed (ofItems modules items rest) (ofItems modules items' rest')
  | [], _, .nil => .nil
  | item :: rest, item' :: rest', .cons hitem hrest =>
    List.rel_append (relaxed_ofItem modules items items' himpls item item' hitem)
      (relaxed_ofItems modules items items' himpls rest rest' hrest)

end

theorem relaxed_find (h : List.Forall₂ Item.Relaxed items items') :
    List.Forall₂ Finding.Relaxed (find items) (find items') :=
  relaxed_ofItems [] items items' (implsOf_relaxed h) items items' h

variable {fs gs : List Finding}

theorem violations_relaxed (h : List.Forall₂ Finding.Relaxed fs gs) :
    violations gs = violations fs := by
  unfold violations
  induction h with
  | nil => rfl
  | @cons f g fs gs hf _ ih =>
    rw [List.filterMap_cons, List.filterMap_cons, ih]
    cases hf with
    | candidate => rfl
    | violation => rfl

theorem relaxed_among (h : List.Forall₂ Finding.Relaxed fs gs) :
    List.Forall₂ Candidate.Relaxed (among fs) (among gs) := by
  unfold among
  induction h with
  | nil => exact .nil
  | @cons f g fs gs hf _ ih =>
    rw [List.filterMap_cons, List.filterMap_cons]
    cases hf with
    | candidate hc => exact .cons hc ih
    | violation => exact ih

end Candidate

end ReactiveModel
