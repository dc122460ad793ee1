import Mathlib.Data.List.Basic
import Mathlib.Tactic.ByContra
import ReactiveModel.Emission.Source
import ReactiveModel.Proofs.Code.Erasure

/-!
# Markers in generated code

Generated code repeats the types of properties and the generic parameters of a class as they are
written, markers included. It is the code of the class without markers if these have none, and is
longer otherwise (`Emission.trimmed_source`).
-/

namespace ReactiveModel

/-! ## Tokens with some taken out -/

namespace Token

/-- The first stream is the second one as it is if `kept` holds, and is shorter otherwise. -/
structure Trimmed (us ts : List Token) (kept : Prop) : Prop where
  eq : kept → us = ts
  lt : ¬ kept → sizeAll us < sizeAll ts

namespace Trimmed

variable {us ts vs ws : List Token} {p q : Prop}

theorem le (h : Trimmed us ts p) : sizeAll us ≤ sizeAll ts := by
  by_cases hp : p
  · exact Nat.le_of_eq (congrArg sizeAll (h.eq hp))
  · exact Nat.le_of_lt (h.lt hp)

theorem eq_iff (h : Trimmed us ts p) : us = ts ↔ p := by
  constructor
  · intro e
    by_contra hp
    have hlt := h.lt hp
    rw [e] at hlt
    exact Nat.lt_irrefl _ hlt
  · exact h.eq

theorem refl (ts : List Token) : Trimmed ts ts True := ⟨fun _ => rfl, fun h => absurd trivial h⟩

theorem congr (h : Trimmed us ts p) (hpq : p ↔ q) : Trimmed us ts q :=
  ⟨fun hq => h.eq (hpq.2 hq), fun hq => h.lt fun hp => hq (hpq.1 hp)⟩

theorem append (h : Trimmed us ts p) (h' : Trimmed vs ws q) :
    Trimmed (us ++ vs) (ts ++ ws) (p ∧ q) := by
  constructor
  · rintro ⟨hp, hq⟩
    rw [h.eq hp, h'.eq hq]
  · intro hnot
    have hle := h.le
    have hle' := h'.le
    rw [sizeAll_append, sizeAll_append]
    by_cases hp : p
    · have hlt := h'.lt fun hq => hnot ⟨hp, hq⟩
      omega
    · have hlt := h.lt hp
      omega

theorem append_left (ts : List Token) (h : Trimmed us vs p) : Trimmed (ts ++ us) (ts ++ vs) p :=
  ((refl ts).append h).congr (by rw [true_and])

theorem append_right (h : Trimmed us vs p) (ts : List Token) : Trimmed (us ++ ts) (vs ++ ts) p :=
  (h.append (refl ts)).congr (by rw [and_true])

theorem group (delimiter : Delimiter) (h : Trimmed us ts p) :
    Trimmed [.group delimiter us] [.group delimiter ts] p := by
  constructor
  · intro hp
    rw [h.eq hp]
  · intro hp
    have hlt := h.lt hp
    simp only [sizeAll, size]
    omega

theorem flatMap {α : Type} {l : List α} {f g : α → List Token} {p : α → Prop}
    (h : ∀ a ∈ l, Trimmed (f a) (g a) (p a)) :
    Trimmed (l.flatMap f) (l.flatMap g) (∀ a ∈ l, p a) := by
  induction l with
  | nil => exact (refl []).congr (by simp)
  | cons a l ih =>
    rw [List.forall_mem_cons] at h
    rw [List.flatMap_cons, List.flatMap_cons]
    exact (h.1.append (ih h.2)).congr List.forall_mem_cons.symm

end Trimmed

end Token

open Token

namespace Code

theorem trimmed (c : Code) : Trimmed c.withoutMarkers.toTokens c.toTokens c.Unmarked :=
  ⟨id, fun h => (unmarked_or_sizeAll_lt c).resolve_left h⟩

theorem listTokens_eq_flatMap (cs : List Code) : listTokens cs = cs.flatMap toTokens := by
  induction cs with
  | nil => rfl
  | cons c cs ih => rw [listTokens, ih, List.flatMap_cons]

theorem unmarked_seq_iff {cs : List Code} : (seq cs).Unmarked ↔ ∀ c ∈ cs, c.Unmarked := by
  have h : Trimmed (cs.flatMap fun c => c.withoutMarkers.toTokens) (cs.flatMap toTokens)
      (∀ c ∈ cs, c.Unmarked) := .flatMap fun c _ => c.trimmed
  rw [← h.eq_iff, Unmarked, withoutMarkers, toTokens, toTokens, listTokens_eq_flatMap,
    listTokens_eq_flatMap, listWithoutMarkers_eq_map, List.flatMap_map]

end Code

/-! ## Classes without markers -/

/-- The parameter without the markers in it. -/
def GenericParam.withoutMarkers : GenericParam → GenericParam
  | .lifetime attributes name bounds =>
    .lifetime attributes.withoutMarkers name bounds.withoutMarkers
  | .type attributes name bounds default =>
    .type attributes.withoutMarkers name bounds.withoutMarkers default.withoutMarkers
  | .const attributes name valueType default =>
    .const attributes.withoutMarkers name valueType.withoutMarkers default.withoutMarkers

/-- The parameters and the where clause without the markers in them. -/
def Generics.withoutMarkers (g : Generics) : Generics where
  params := g.params.map fun (p, more) => (p.withoutMarkers, more)
  predicates := g.predicates.map fun (c, more) => (c.withoutMarkers, more)

/-- The class without the markers in the types of its fields and in its parameters. -/
def ReactiveClass.withoutMarkers (c : ReactiveClass) : ReactiveClass :=
  { c with
    generics := c.generics.withoutMarkers
    fields := c.fields.map fun f => { f with type := f.type.withoutMarkers } }

/-- Whether no marker is written in the parameters and the where clause that an impl block
repeats. -/
def Generics.Unmarked (g : Generics) : Prop :=
  g.repeated.Unmarked ∧ ∀ p ∈ g.predicates, p.1.Unmarked

/-- Whether no marker is written in the types and parameters that generated code repeats. -/
def ReactiveClass.Unmarked (c : ReactiveClass) : Prop :=
  (∀ f ∈ c.fields, f.type.Unmarked) ∧ c.generics.Unmarked

/-! ## Generic parameters -/

variable {α : Type} (write : α → Code) (strip : α → α) (items : Separated α)

namespace Separated

theorem withoutMarkers_toCode (separator : String) :
    (toCode separator write items).withoutMarkers =
      toCode separator (fun a => (write a).withoutMarkers) items := by
  rw [toCode, toCode, Code.withoutMarkers, Code.listWithoutMarkers_eq_map, List.map_flatMap]
  congr 2
  funext (a, more)
  cases more <;> rfl

theorem toCode_map (separator : String) :
    toCode separator write (items.map fun (a, more) => (strip a, more)) =
      toCode separator (fun a => write (strip a)) items := by
  rw [toCode, toCode, List.flatMap_map]

theorem unmarked_toCode_iff (separator : String) :
    (toCode separator write items).Unmarked ↔ ∀ p ∈ items, (write p.1).Unmarked := by
  rw [toCode, Code.unmarked_seq_iff, List.forall_mem_flatMap]
  refine forall₂_congr fun (a, more) _ => ?_
  cases more with
  | true => simp [show (Code.op separator).Unmarked from rfl]
  | false => simp

theorem forall_mem_push {p : α → Prop} (a : α) :
    (∀ q ∈ push items a, p q.1) ↔ (∀ q ∈ items, p q.1) ∧ p a := by
  unfold push
  split
  · next h =>
    rw [List.reverse_eq_nil_iff.1 h]
    simp
  · next last more before h =>
    rw [List.reverse_eq_cons_iff.1 h]
    simp only [List.forall_mem_append, List.forall_mem_cons, List.not_mem_nil, IsEmpty.forall_iff,
      implies_true, and_true, and_assoc]

theorem push_map (a : α) : push (items.map fun (a, more) => (strip a, more)) (strip a) =
    (push items a).map fun (a, more) => (strip a, more) := by
  unfold push
  rw [← List.map_reverse]
  cases items.reverse with
  | nil => rfl
  | cons p before => simp

theorem isOpen_map : isOpen (items.map fun (a, more) => (strip a, more)) = isOpen items := by
  rw [isOpen, isOpen, List.getLast?_map, Option.map_map]
  rfl

end Separated

namespace Generics

theorem withoutMarkers_lifetimesFirst (isLifetime : α → Bool) :
    (lifetimesFirst isLifetime write items).withoutMarkers =
      lifetimesFirst isLifetime (fun a => (write a).withoutMarkers) items := by
  have hcomma : ∀ c : Bool, (if c then [] else [Code.op ","]).map Code.withoutMarkers =
      if c then [] else [Code.op ","] := by
    rintro (_ | _) <;> rfl
  simp only [lifetimesFirst, Code.withoutMarkers, Code.listWithoutMarkers_eq_map, List.map_append,
    List.map_map, Function.comp_def, Separated.withoutMarkers_toCode, hcomma]

theorem lifetimesFirst_map {isLifetime : α → Bool}
    (h : ∀ a, isLifetime (strip a) = isLifetime a) :
    lifetimesFirst isLifetime write (items.map fun (a, more) => (strip a, more)) =
      lifetimesFirst isLifetime (fun a => write (strip a)) items := by
  have hone : ∀ item : α × Bool, Separated.toCode "," write [(strip item.1, item.2)] =
      Separated.toCode "," (fun a => write (strip a)) [item] := fun item =>
    Separated.toCode_map write strip [item] ","
  simp only [lifetimesFirst, List.filter_map, List.map_map, Function.comp_def, h, hone,
    Separated.isOpen_map, List.isEmpty_map]

variable (g : Generics) (write : GenericParam → Code)

theorem withoutMarkers_angled :
    (g.angled write).withoutMarkers = g.angled fun p => (write p).withoutMarkers := by
  unfold angled
  split
  · rfl
  · simp only [Code.withoutMarkers, Code.listWithoutMarkers, Code.op,
      withoutMarkers_lifetimesFirst]

theorem angled_withoutMarkers :
    g.withoutMarkers.angled write = g.angled fun p => write p.withoutMarkers := by
  unfold angled withoutMarkers
  rw [List.isEmpty_map, lifetimesFirst_map]
  intro p
  cases p <;> rfl

theorem repeated_withoutMarkers : g.withoutMarkers.repeated = g.repeated.withoutMarkers := by
  rw [repeated, repeated, angled_withoutMarkers, withoutMarkers_angled]
  congr 1
  funext p
  cases p <;> rfl

theorem arguments_withoutMarkers : g.withoutMarkers.arguments = g.arguments := by
  rw [arguments, angled_withoutMarkers]
  congr 1
  funext p
  cases p <;> rfl

theorem whereClause_withoutMarkers :
    g.withoutMarkers.whereClause = g.whereClause.withoutMarkers := by
  unfold whereClause withoutMarkers
  rw [List.isEmpty_map]
  split
  · rfl
  · simp only [Code.withoutMarkers, Code.listWithoutMarkers, Code.keyword,
      Separated.withoutMarkers_toCode, Separated.toCode_map, id]

end Generics

theorem Generics.unmarked_whereClause_iff (g : Generics) :
    g.whereClause.Unmarked ↔ ∀ p ∈ g.predicates, p.1.Unmarked := by
  unfold whereClause
  split
  · next h =>
    rw [List.isEmpty_iff.1 h]
    exact ⟨fun _ => by simp, fun _ => rfl⟩
  · rw [Code.unmarked_seq_iff]
    simp [show (Code.keyword "where").Unmarked from rfl, Separated.unmarked_toCode_iff]

/-! ## Code of classes -/

namespace Emission

theorem trimmed_implHead (name : Ident) (g : Generics) (implemented : List Token) :
    Trimmed (implHead name g.withoutMarkers implemented) (implHead name g implemented)
      g.Unmarked := by
  unfold implHead Generics.Unmarked
  rw [g.arguments_withoutMarkers, g.repeated_withoutMarkers, g.whereClause_withoutMarkers,
    ← g.unmarked_whereClause_iff]
  refine .append (.append_right (.append_right (.append_right (.append_left _ ?_) _) _) _) ?_
  · exact g.repeated.trimmed
  · exact g.whereClause.trimmed

/-- The bound on a generic class has no markers. -/
theorem unmarked_unbounded_iff (g : Generics) : (unbounded g).Unmarked ↔ g.Unmarked := by
  unfold unbounded
  split
  · rfl
  · have hown : (Code.raw (phrase "Self : 'static")).Unmarked := rfl
    unfold Generics.Unmarked
    rw [Separated.forall_mem_push, and_iff_left hown]
    rfl

theorem unbounded_withoutMarkers (g : Generics) :
    unbounded g.withoutMarkers = (unbounded g).withoutMarkers := by
  unfold unbounded Generics.withoutMarkers
  rw [List.isEmpty_map]
  split
  · rfl
  · rw [← Separated.push_map]
    rfl

variable (runtime : List Token) (c : ReactiveClass)

theorem trimmed_pair (p : AccessorPair) :
    Trimmed (AccessorPair.toTokens runtime { p with type := p.type.withoutMarkers })
      (p.toTokens runtime) p.type.Unmarked := by
  have hgetter : Trimmed (AccessorPair.getterTokens { p with type := p.type.withoutMarkers })
      p.getterTokens p.type.Unmarked := .append_right (.append_left _ p.type.trimmed) _
  have hsetter : Trimmed
      (AccessorPair.setterTokens runtime { p with type := p.type.withoutMarkers })
      (p.setterTokens runtime) p.type.Unmarked :=
    .append_right (.append_left _ (.group _ (.append_left _ p.type.trimmed))) _
  exact (hgetter.append hsetter).congr (and_self_iff)

theorem trimmed_accessors : Trimmed (accessors runtime c.withoutMarkers) (accessors runtime c)
    (c.fields ≠ [] → c.Unmarked) := by
  have hpairs : Trimmed ((accessorPairs c.withoutMarkers).flatMap (AccessorPair.toTokens runtime))
      ((accessorPairs c).flatMap (AccessorPair.toTokens runtime))
      (∀ f ∈ c.fields, f.type.Unmarked) := by
    unfold accessorPairs ReactiveClass.withoutMarkers
    rw [List.flatMap_map, List.flatMap_map, List.flatMap_map]
    exact .flatMap fun f _ => trimmed_pair runtime (AccessorPair.ofField c.graph f)
  have hempty : (accessorPairs c.withoutMarkers).isEmpty = (accessorPairs c).isEmpty := by
    unfold accessorPairs ReactiveClass.withoutMarkers
    rw [List.isEmpty_map, List.isEmpty_map, List.isEmpty_map]
  simp only [accessors, hempty]
  by_cases h : (accessorPairs c).isEmpty
  · have hfields : c.fields = [] := List.map_eq_nil_iff.1 (List.isEmpty_iff.1 h)
    simp only [h, if_true, hfields, ne_eq, not_true_eq_false, false_implies]
    exact .refl []
  · have hfields : c.fields ≠ [] := fun e => h (by rw [accessorPairs, e]; rfl)
    simp only [h, if_false, Bool.false_eq_true]
    refine ((trimmed_implHead c.name c.generics []).append (.group .brace hpairs)).congr ?_
    rw [forall_prop_of_true hfields, ReactiveClass.Unmarked, and_comm]

theorem trimmed_binding : Trimmed (binding runtime c.withoutMarkers) (binding runtime c)
    c.generics.Unmarked := by
  have h := trimmed_implHead c.name (unbounded c.generics) (runtime ++ phrase ":: Bindable for")
  rw [← unbounded_withoutMarkers] at h
  exact (h.append_right _).congr (unmarked_unbounded_iff c.generics)

theorem trimmed_metadata : Trimmed (metadata runtime c.withoutMarkers) (metadata runtime c)
    c.generics.Unmarked := by
  have h : Metadata.ofClass c.withoutMarkers = Metadata.ofClass c := by
    simp only [Metadata.ofClass, ReactiveClass.withoutMarkers, List.map_map]
    rfl
  unfold metadata
  rw [h]
  exact .append_right (trimmed_implHead c.name c.generics _) _

/-- The code of a class is that of the class without markers if and only if no marker is written in
what it repeats, and is longer otherwise. -/
theorem trimmed_source (config : Config) :
    Trimmed (source config c.withoutMarkers) (source config c) c.Unmarked := by
  simp only [source, parts, List.flatten_cons, List.flatten_nil, List.append_nil]
  refine ((trimmed_accessors _ c).append ((trimmed_binding _ c).append
    (trimmed_metadata _ c))).congr ?_
  rw [and_self_iff]
  constructor
  · rintro ⟨haccessors, hgenerics⟩
    refine ⟨fun f hf => (haccessors ?_).1 f hf, hgenerics⟩
    exact List.ne_nil_of_mem hf
  · intro h
    exact ⟨fun _ => h, h.2⟩

end Emission

end ReactiveModel
