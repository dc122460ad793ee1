import Mathlib.Data.List.Forall2
import Mathlib.Logic.Basic
import ReactiveModel.Proofs.Class.Location
import ReactiveModel.Proofs.Class.Relaxed

/-!
# What is found in a file

Each type that is marked as a model is found just once, wherever it stands: a struct with named
fields whose first marker is well-formed as a class, all others as violations, both in the order of
the source and with the names of the modules around them (`Candidate.search_complete`).
-/

namespace ReactiveModel

/-! ## Marked types -/

/-- The first marker that says that the struct is a model reads so. -/
def Struct.MarkerReads (s : Struct) (r : Except MarkerError Marker) : Prop :=
  ∃ a, Marker.first? .reactiveModel s.attributes = some a ∧ Marker.of? a.head = some r

namespace Item

/-- The name and the attributes of a type. -/
def type? : Item → Option (Ident × List Attribute)
  | .struct s => some (s.name, s.attributes)
  | .enum t => some (t.name, t.attributes)
  | .union t => some (t.name, t.attributes)
  | _ => none

/-- A type that is marked as a model, whatever its markers say. -/
def IsMarked (item : Item) : Prop :=
  ∃ name as, item.type? = some (name, as) ∧
    ∃ a ∈ as, MarkerKind.of? a.head = some .reactiveModel

/-- A struct with named fields whose first marker is well-formed. -/
def IsModel (item : Item) : Prop :=
  ∃ s fields allowCycles, item = .struct s ∧ s.fields = .named fields ∧
    s.MarkerReads (.ok (.reactiveModel allowCycles))

/-- Why a marked type is not a class: the kind and the wording of the violation. -/
inductive Fault : Item → DiagnosticKind → String → Prop
  | malformed {s : Struct} {e : MarkerError} (h : s.MarkerReads (.error e)) :
    Fault (.struct s) .malformedMarker e.message
  | unnamed {s : Struct} {allowCycles : Bool}
    (h : s.MarkerReads (.ok (.reactiveModel allowCycles)))
    (hfields : ∀ fields, s.fields ≠ .named fields) :
    Fault (.struct s) .unsupportedDeclaration
      "reactive_model only supports structs with named fields"
  | enum {t : OtherType} (h : IsMarked (.enum t)) :
    Fault (.enum t) .unsupportedDeclaration "reactive_model cannot be applied to an enum"
  | union {t : OtherType} (h : IsMarked (.union t)) :
    Fault (.union t) .unsupportedDeclaration "reactive_model cannot be applied to a union"

/-- A marked type that is not a class. -/
def IsFaulty (item : Item) : Prop := ∃ kind message, Fault item kind message

end Item

namespace Location

/-- The candidate is the struct at the place, with the impl blocks of its name beside it. -/
structure IsFoundAs (l : Location) (c : Candidate) : Prop where
  item : l.item = .struct c.item
  fields : ∃ fields, c.item.fields = .named fields ∧ c.fields = fields.map (·.1)
  marker : c.item.MarkerReads (.ok (.reactiveModel c.allowCycles))
  impls : c.impls = Candidate.implsOf c.item.name l.siblings
  modules : c.modules = l.modules
  qualifiedName : c.qualifiedName = "::".intercalate (l.modules ++ [c.item.name.text])

/-- The violation says why the type at the place is not a class. -/
def IsReportedAs (l : Location) (d : Diagnostic) : Prop :=
  Item.Fault l.item d.kind d.message ∧ ∃ name as, l.item.type? = some (name, as) ∧
    d.member = name.text ∧ d.className = "::".intercalate (l.modules ++ [name.text])

/-- What the search may find at a place. -/
inductive Yields (l : Location) : List Candidate.Finding → Prop
  | nothing (h : ¬ l.item.IsMarked) : Yields l []
  | candidate {c : Candidate} (h : l.IsFoundAs c) : Yields l [.candidate c]
  | violation {d : Diagnostic} (h : l.IsReportedAs d) : Yields l [.violation d]

end Location

/-! ## Markers of structs -/

namespace Struct

variable {s : Struct} {r r' : Except MarkerError Marker}

theorem markerReads_iff : s.MarkerReads r ↔
    s.modelMarker?.map (fun a => Marker.ofKind .reactiveModel a.head) = some r := by
  change _ ↔ (Marker.first? .reactiveModel s.attributes).map _ = _
  rw [Option.map_eq_some_iff]
  refine exists_congr fun a => and_congr_right fun h => ?_
  rw [Marker.of?_of_first? h, Option.some_inj]

theorem MarkerReads.unique (h : s.MarkerReads r) (h' : s.MarkerReads r') : r = r' :=
  Option.some_inj.1 ((markerReads_iff.1 h).symm.trans (markerReads_iff.1 h'))

theorem MarkerReads.isMarked (h : s.MarkerReads r) : (Item.struct s).IsMarked := by
  obtain ⟨a, ha, -⟩ := h
  exact ⟨_, _, rfl, a, List.mem_of_find?_eq_some ha,
    of_decide_eq_true (List.find?_eq_some_iff_append.1 ha).1⟩

theorem MarkerReads.exists_eq {m : Marker} (h : s.MarkerReads (.ok m)) :
    ∃ allowCycles, m = .reactiveModel allowCycles := by
  obtain ⟨a, ha, hm⟩ := h
  rw [Marker.of?_of_first? ha] at hm
  exact Marker.exists_of_ofKind_reactiveModel (Option.some_inj.1 hm)

theorem not_isMarked_of_modelMarker? (h : s.modelMarker? = none) :
    ¬ (Item.struct s).IsMarked := by
  rintro ⟨name, as, htype, a, ha, hkind⟩
  cases htype
  exact Marker.first?_eq_none_iff.1 h a ha hkind

end Struct

/-! ## One place -/

namespace Item

variable {item : Item} {kind : DiagnosticKind} {message : String}

theorem IsModel.isMarked (h : item.IsModel) : item.IsMarked := by
  obtain ⟨s, fields, allowCycles, rfl, -, hreads⟩ := h
  exact hreads.isMarked

theorem Fault.isMarked (h : Fault item kind message) : item.IsMarked := by
  cases h with
  | malformed h => exact h.isMarked
  | unnamed h => exact h.isMarked
  | enum h => exact h
  | union h => exact h

theorem Fault.not_isModel (h : Fault item kind message) : ¬ item.IsModel := by
  rintro ⟨s, fields, allowCycles, rfl, hfields, hreads⟩
  cases h with
  | malformed h => cases h.unique hreads
  | unnamed h hunnamed => exact hunnamed fields hfields

end Item

namespace Location

variable {l : Location} {c : Candidate} {d : Diagnostic}

theorem IsFoundAs.isModel (h : l.IsFoundAs c) : l.item.IsModel := by
  obtain ⟨fields, hfields, -⟩ := h.fields
  exact ⟨c.item, fields, c.allowCycles, h.item, hfields, h.marker⟩

theorem IsReportedAs.isFaulty (h : l.IsReportedAs d) : l.item.IsFaulty := ⟨_, _, h.1⟩

end Location

namespace Candidate

open Location

theorem yields_ofOther {l : Location} {t : OtherType} {what : String}
    (htype : l.item.type? = some (t.name, t.attributes))
    (hfault : l.item.IsMarked →
      Item.Fault l.item .unsupportedDeclaration ("reactive_model cannot be applied to " ++ what)) :
    l.Yields (ofOther l.modules t what) := by
  have hmarked : l.item.IsMarked ↔
      (Marker.find? .reactiveModel t.attributes).isSome = true := by
    simp [Item.IsMarked, htype, Marker.isSome_find?_iff]
  unfold ofOther
  split
  · next hnone => exact .nothing fun h => by simpa [hnone] using hmarked.1 h
  · next hsome =>
    have h : l.item.IsMarked := hmarked.2 (by simp [hsome])
    exact .violation ⟨hfault h, t.name, t.attributes, htype, rfl, rfl⟩

/-- What is found at a place is what may be found there. -/
theorem yields_findingsAt (l : Location) : l.Yields (findingsAt [] l) := by
  obtain ⟨position, modules, siblings, item⟩ := l
  cases item with
  | struct s =>
    change Yields _ (ofStruct modules siblings s)
    rw [ofStruct_eq_ofMarker]
    cases hmarker : s.modelMarker?.map fun a => Marker.ofKind .reactiveModel a.head with
    | none =>
      exact .nothing (Struct.not_isMarked_of_modelMarker? (Option.map_eq_none_iff.1 hmarker))
    | some r =>
      have hreads := Struct.markerReads_iff.2 hmarker
      cases r with
      | error e => exact .violation ⟨.malformed hreads, s.name, s.attributes, rfl, rfl, rfl⟩
      | ok m =>
        obtain ⟨allowCycles, rfl⟩ := hreads.exists_eq
        unfold ofMarker
        cases hfields : s.fields with
        | named fields => exact .candidate ⟨rfl, ⟨fields, hfields, rfl⟩, hreads, rfl, rfl, rfl⟩
        | _ =>
          exact .violation
            ⟨.unnamed hreads (by simp [hfields]), s.name, s.attributes, rfl, rfl, rfl⟩
  | enum t => exact yields_ofOther rfl .enum
  | union t => exact yields_ofOther rfl .union
  | module head inner => exact .nothing (by simp [Item.IsMarked, Item.type?])
  | impl i => exact .nothing (by simp [Item.IsMarked, Item.type?])
  | other code => exact .nothing (by simp [Item.IsMarked, Item.type?])

end Candidate

namespace Location.Yields

open Candidate

variable {l : Location} {found : List Finding}

theorem isMarked_iff (h : l.Yields found) :
    l.item.IsMarked ↔ Xor l.item.IsModel l.item.IsFaulty := by
  constructor
  · intro hmarked
    cases h with
    | nothing hnone => exact absurd hmarked hnone
    | candidate hc => exact .inl ⟨hc.isModel, fun ⟨_, _, hfault⟩ => hfault.not_isModel hc.isModel⟩
    | violation hd => exact .inr ⟨hd.isFaulty, hd.1.not_isModel⟩
  · rintro (⟨hmodel, -⟩ | ⟨⟨_, _, hfault⟩, -⟩)
    · exact hmodel.isMarked
    · exact hfault.isMarked

theorem among (h : l.Yields found) :
    (l.item.IsModel → ∃ c, among found = [c] ∧ l.IsFoundAs c) ∧
      (¬ l.item.IsModel → among found = []) := by
  cases h with
  | nothing hnone => exact ⟨fun hmodel => absurd hmodel.isMarked hnone, fun _ => rfl⟩
  | candidate hc => exact ⟨fun _ => ⟨_, rfl, hc⟩, fun hmodel => absurd hc.isModel hmodel⟩
  | violation hd => exact ⟨fun hmodel => absurd hmodel hd.1.not_isModel, fun _ => rfl⟩

theorem violations (h : l.Yields found) :
    (l.item.IsFaulty → ∃ d, violations found = [d] ∧ l.IsReportedAs d) ∧
      (¬ l.item.IsFaulty → violations found = []) := by
  cases h with
  | nothing hnone => exact ⟨fun ⟨_, _, hfault⟩ => absurd hfault.isMarked hnone, fun _ => rfl⟩
  | candidate hc =>
    exact ⟨fun ⟨_, _, hfault⟩ => absurd hc.isModel hfault.not_isModel, fun _ => rfl⟩
  | violation hd => exact ⟨fun _ => ⟨_, rfl, hd⟩, fun hfault => absurd hd.isFaulty hfault⟩

end Location.Yields

/-! ## All places -/

namespace Candidate

open Location

/-- Elements that give just one result each where a property holds, and none elsewhere. -/
theorem forall₂_filter_flatMap {α β : Type} {P : α → Prop} [DecidablePred P] {f : α → List β}
    {R : α → β → Prop} (h : ∀ a, (P a → ∃ b, f a = [b] ∧ R a b) ∧ (¬ P a → f a = []))
    (as : List α) : List.Forall₂ R (as.filter P) (as.flatMap f) := by
  induction as with
  | nil => exact .nil
  | cons a as ih =>
    rw [List.flatMap_cons]
    by_cases hP : P a
    · obtain ⟨b, hb, hR⟩ := (h a).1 hP
      rw [List.filter_cons, if_pos (decide_eq_true hP), hb]
      exact .cons hR ih
    · rw [List.filter_cons, if_neg (by simpa using hP), (h a).2 hP]
      exact ih

/-- A candidate of a file is the struct at some place. -/
theorem exists_location {items : List Item} {c : Candidate} (h : c ∈ found items) :
    ∃ l : Location, l.StandsIn items ∧ l.IsFoundAs c := by
  rw [found, find_eq_flatMap, among, List.filterMap_flatMap] at h
  obtain ⟨l, hl, hc⟩ := List.mem_flatMap.1 h
  refine ⟨l, Item.mem_locations_iff.1 hl, ?_⟩
  have hyields := yields_findingsAt l
  generalize findingsAt [] l = there at hyields hc
  cases hyields with
  | nothing => cases hc
  | candidate hfound => rwa [List.mem_singleton.1 hc]
  | violation => cases hc

/-- The types of a file that are marked as models are its classes and its faulty types, each of
them in the order of the source. The candidates that are found are the classes one by one, and
the violations are the faulty types one by one. -/
theorem search_complete (items : List Item) : ∃ classes faults : List Location,
    classes.Pairwise Precedes ∧ faults.Pairwise Precedes ∧
      (∀ l, l ∈ classes ↔ l.StandsIn items ∧ l.item.IsModel) ∧
      (∀ l, l ∈ faults ↔ l.StandsIn items ∧ l.item.IsFaulty) ∧
      (∀ l, l.StandsIn items → (l.item.IsMarked ↔ Xor (l ∈ classes) (l ∈ faults))) ∧
      List.Forall₂ IsFoundAs classes (among (find items)) ∧
      List.Forall₂ IsReportedAs faults (violations (find items)) := by
  classical
  have hclasses : ∀ l, l ∈ (Item.locations items).filter (·.item.IsModel) ↔
      l.StandsIn items ∧ l.item.IsModel := fun l => by
    rw [List.mem_filter, Item.mem_locations_iff, decide_eq_true_eq]
  have hfaults : ∀ l, l ∈ (Item.locations items).filter (·.item.IsFaulty) ↔
      l.StandsIn items ∧ l.item.IsFaulty := fun l => by
    rw [List.mem_filter, Item.mem_locations_iff, decide_eq_true_eq]
  refine ⟨_, _, (Item.pairwise_locations items).filter _, (Item.pairwise_locations items).filter _,
    hclasses, hfaults, ?_, ?_, ?_⟩
  · intro l hl
    rw [hclasses, hfaults, (yields_findingsAt l).isMarked_iff]
    simp only [hl, true_and]
  · rw [find_eq_flatMap, among, List.filterMap_flatMap]
    exact forall₂_filter_flatMap (fun l => (yields_findingsAt l).among) _
  · rw [find_eq_flatMap, violations, List.filterMap_flatMap]
    exact forall₂_filter_flatMap (fun l => (yields_findingsAt l).violations) _

end Candidate

end ReactiveModel
