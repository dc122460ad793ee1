import ReactiveModel.Proofs.Class.Handler
import ReactiveModel.Proofs.Class.Search

/-!
# The impl blocks of a class

A class has the inherent impl blocks beside it whose path ends in its name, as it is written. So it
has the blocks of its own type, and no others, if and only if no path ends in the name of the class
without meaning it, as `other::Game` does, and none means it in another spelling, as `r#Game` does
(`Candidate.impls_paired_iff`).
-/

namespace ReactiveModel

/-! ## Blocks -/

/-- Whether a path is the bare name, raw or not, perhaps after `self`. -/
def TypePath.denotes (name : Ident) (p : TypePath) : Bool :=
  !p.global && match p.segments with
    | [i] => i.name == name.name
    | [first, i] => first == .plain "self" && i.name == name.name
    | _ => false

theorem TypePath.exists_last_of_denotes {name : Ident} {p : TypePath}
    (h : p.denotes name = true) :
    ∃ last, p.segments.getLast? = some last ∧ last.name = name.name := by
  obtain ⟨-, h⟩ := Bool.and_eq_true_iff.1 h
  split at h
  · next i hsegments => exact ⟨i, by rw [hsegments]; rfl, by simpa using h⟩
  · next first i hsegments =>
    obtain ⟨-, hname⟩ := Bool.and_eq_true_iff.1 h
    exact ⟨i, by rw [hsegments]; rfl, by simpa using hname⟩
  · cases h

/-- The text of an identifier tells whether it is raw. -/
theorem Ident.text_eq_text_iff {i j : Ident} (h : i.name = j.name) : i.text = j.text ↔ i = j := by
  obtain ⟨raw, name⟩ := i
  obtain ⟨raw', name'⟩ := j
  cases h
  have hne : "r#" ++ name ≠ name := fun h => by simpa using congrArg String.length h
  cases raw <;> cases raw' <;> simp [text, hne, hne.symm]

namespace Impl

/-- Whether the block is one of the type of the name. -/
def isFor (name : Ident) (i : Impl) : Bool := i.self.any (·.denotes name)

/-- Whether the path of the block ends in the text of the name. -/
def endsIn (name : Ident) (i : Impl) : Bool := i.self.any (Candidate.named name)

/-- Whether the path of the block ends in the name in the same spelling, raw or not. -/
def repeats (name : Ident) (i : Impl) : Bool := i.self.any (·.segments.getLast? == some name)

/-- The methods of a block that are updaters. -/
def updaters (className : String) (i : Impl) : List Method :=
  i.methods.filter fun m => (Members.ofMethod className m).updater

/-- The handlers that a block gives. -/
def handlers (className : String) (i : Impl) : List ClickHandler :=
  i.methods.filterMap fun m => (Members.ofMethod className m).handler

/-- The violations of the methods of a block. -/
def violations (className : String) (i : Impl) : List Diagnostic :=
  i.methods.flatMap fun m => (Members.ofMethod className m).violations

/-- A block of the type of a name ends in its text if and only if it spells it in the same way. -/
theorem endsIn_iff_repeats {name : Ident} {i : Impl} (h : i.isFor name = true) :
    i.endsIn name = true ↔ i.repeats name = true := by
  obtain ⟨p, hp, hdenotes⟩ := (Option.any_eq_true _ _).1 h
  obtain ⟨last, hlast, hname⟩ := TypePath.exists_last_of_denotes hdenotes
  rw [endsIn, repeats, hp]
  simp [Candidate.named, hlast, Ident.text_eq_text_iff hname]

theorem gives_nothing_iff (className : String) {i : Impl} :
    (i.updaters className = [] ∧ i.handlers className = [] ∧ i.violations className = []) ↔
      ∀ m ∈ i.methods, ¬ m.IsMarked := by
  rw [updaters, handlers, violations, List.filter_eq_nil_iff, List.filterMap_eq_nil_iff,
    List.flatMap_eq_nil_iff]
  constructor
  · rintro ⟨hupdaters, hhandlers, hviolations⟩ m hm hmarked
    rcases Members.gives_of_isMarked hmarked with h | h | h
    · exact hupdaters m hm h
    · rw [hhandlers m hm] at h
      cases h
    · exact h (hviolations m hm)
  · intro h
    have hgives (m : Method) (hm : m ∈ i.methods) : Members.ofMethod className m = {} :=
      Members.ofMethod_of_unmarked (h m hm)
    exact ⟨fun m hm => by simp [hgives m hm], fun m hm => by rw [hgives m hm],
      fun m hm => by rw [hgives m hm]⟩

end Impl

/-- The inherent impl blocks among items. -/
def Item.inherentImpls (items : List Item) : List Impl :=
  items.filterMap fun
    | .impl i => if i.implemented.isNone then some i else none
    | _ => none

namespace Candidate

variable {c : Candidate} {items : List Item} {name : Ident}

theorem implsOf_eq : implsOf name items = (Item.inherentImpls items).filter (·.endsIn name) := by
  rw [implsOf, Item.inherentImpls, List.filter_filterMap]
  refine List.filterMap_congr fun item _ => ?_
  cases item with
  | impl i =>
    cases h : i.implemented.isNone with
    | true =>
      simp only [h, Bool.true_and, if_true]
      rfl
    | false => simp [h, Option.filter]
  | _ => rfl

/-- The class without the blocks of other types. -/
def restricted (c : Candidate) : Candidate :=
  { c with impls := c.impls.filter (·.isFor c.item.name) }

@[simp] theorem restricted_fields : c.restricted.fields = c.fields := rfl

@[simp] theorem restricted_impls :
    c.restricted.impls = c.impls.filter (·.isFor c.item.name) := rfl

@[simp] theorem restricted_qualifiedName : c.restricted.qualifiedName = c.qualifiedName := rfl

/-- The marked members of a class come block by block. -/
theorem members_eq (c : Candidate) : c.members =
    let fields := c.fields.filterMap (Members.ofField c.qualifiedName)
    (⟨fields.filterMap (·.getLeft?), c.impls.flatMap (Impl.updaters c.qualifiedName),
      c.impls.flatMap (Impl.handlers c.qualifiedName)⟩,
    fields.filterMap (·.getRight?) ++ c.impls.flatMap (Impl.violations c.qualifiedName)) := by
  have hupdaters : ((c.methods.map fun m => (m, Members.ofMethod c.qualifiedName m)).filter
      (·.2.updater)).map (·.1) = c.impls.flatMap (Impl.updaters c.qualifiedName) := by
    rw [List.filter_map, List.map_map, methods, List.filter_flatMap, List.map_flatMap]
    exact congrFun (congrArg _ (funext fun i => List.map_id _)) _
  have hhandlers : (c.methods.map fun m => (m, Members.ofMethod c.qualifiedName m)).filterMap
      (·.2.handler) = c.impls.flatMap (Impl.handlers c.qualifiedName) := by
    rw [List.filterMap_map, methods, List.filterMap_flatMap]
    rfl
  have hviolations : (c.methods.map fun m => (m, Members.ofMethod c.qualifiedName m)).flatMap
      (·.2.violations) = c.impls.flatMap (Impl.violations c.qualifiedName) := by
    rw [List.flatMap_map, methods, List.flatMap_assoc]
    rfl
  rw [members, hupdaters, hhandlers, hviolations]

theorem filter_flatMap_eq_iff {α β : Type} {p : α → Bool} {f : α → List β} {as : List α} :
    (as.filter p).flatMap f = as.flatMap f ↔ ∀ a ∈ as, p a = false → f a = [] := by
  induction as with
  | nil => simp
  | cons a as ih =>
    rw [List.forall_mem_cons, ← ih, List.filter_cons]
    cases hp : p a with
    | true => simp
    | false =>
      have hle : ((as.filter p).flatMap f).length ≤ (as.flatMap f).length :=
        (List.filter_sublist.flatMap f).length_le
      simp only [Bool.false_eq_true, if_false, List.flatMap_cons, forall_const]
      constructor
      · intro h
        have hlength := congrArg List.length h
        rw [List.length_append] at hlength
        have hnil : f a = [] := List.length_eq_zero_iff.1 (by omega)
        exact ⟨hnil, by rwa [hnil] at h⟩
      · rintro ⟨hnil, h⟩
        rwa [hnil]

/-- A class loses no marked members with the blocks of other types if and only if these have no
marked methods. -/
theorem members_restricted_iff : c.restricted.members = c.members ↔
    ∀ i ∈ c.impls, i.isFor c.item.name = false → ∀ m ∈ i.methods, ¬ m.IsMarked := by
  rw [members_eq, members_eq c]
  simp only [Prod.mk.injEq, Members.mk.injEq, restricted_fields, restricted_impls,
    restricted_qualifiedName, true_and, List.append_cancel_left_eq, filter_flatMap_eq_iff,
    ← Impl.gives_nothing_iff c.qualifiedName]
  constructor
  · rintro ⟨⟨hupdaters, hhandlers⟩, hviolations⟩ i hi hother
    exact ⟨hupdaters i hi hother, hhandlers i hi hother, hviolations i hi hother⟩
  · intro h
    exact ⟨⟨fun i hi hother => (h i hi hother).1, fun i hi hother => (h i hi hother).2.1⟩,
      fun i hi hother => (h i hi hother).2.2⟩

/-- A class has the inherent blocks beside it whose path ends in its name, in their order. These are
the blocks of its own type if and only if each block that ends in its name is one, and each one
spells the name as the class does. The other blocks give the class nothing if and only if they have
no marked methods. -/
theorem impls_paired_iff (h : c ∈ found items) : ∃ l : Location, l.StandsIn items ∧
    l.IsFoundAs c ∧
    c.impls = (Item.inherentImpls l.siblings).filter (·.endsIn c.item.name) ∧
    ((∀ i ∈ Item.inherentImpls l.siblings, i ∈ c.impls ↔ i.isFor c.item.name = true) ↔
      ∀ i ∈ Item.inherentImpls l.siblings,
        (i.endsIn c.item.name = true → i.isFor c.item.name = true) ∧
        (i.isFor c.item.name = true → i.repeats c.item.name = true)) ∧
    (c.restricted.members = c.members ↔
      ∀ i ∈ c.impls, i.isFor c.item.name = false → ∀ m ∈ i.methods, ¬ m.IsMarked) := by
  obtain ⟨l, hl, hfound⟩ := exists_location h
  have himpls := hfound.impls.trans implsOf_eq
  refine ⟨l, hl, hfound, himpls, ?_, members_restricted_iff⟩
  refine forall₂_congr fun i hi => ?_
  rw [himpls, List.mem_filter]
  simp only [hi, true_and]
  constructor
  · intro hpaired
    exact ⟨hpaired.1, fun hfor => (Impl.endsIn_iff_repeats hfor).1 (hpaired.2 hfor)⟩
  · rintro ⟨hown, hspelled⟩
    exact ⟨hown, fun hfor => (Impl.endsIn_iff_repeats hfor).2 (hspelled hfor)⟩

/-- The only block of a game is its own. -/
theorem impls_paired_iff_game : game false ∈ found [.struct gameStruct, .impl (gameImpl false)] ∧
    ∃ l : Location, l.IsFoundAs (game false) ∧
      (game false).impls = (Item.inherentImpls l.siblings).filter (·.endsIn (.plain "Game")) ∧
      (game false).restricted.members = (game false).members := by
  have h : game false ∈ found [.struct gameStruct, .impl (gameImpl false)] :=
    List.mem_singleton_self _
  obtain ⟨l, -, hfound, himpls, -, hmembers⟩ := impls_paired_iff h
  refine ⟨h, l, hfound, himpls, hmembers.2 fun i hi hother => ?_⟩
  rw [List.mem_singleton.1 hi] at hother
  cases hother

/-! ## A block of another type -/

/-- The impl block of a type of the same name in another module. -/
def foreignImpl : Impl :=
  { gameImpl false with
    self := some ⟨false, [.plain "other", .plain "Game"]⟩
    type := .seq [.ident (.plain "other"), .op "::", .ident (.plain "Game")] }

/-- The items of a game, a module with a type of the same name, and the block of this type. -/
def foreignItems : List Item :=
  [.struct gameStruct,
    .module ⟨[], .empty, .plain "other"⟩ [.struct ⟨[], .everyone, .plain "Game", .empty, .unit⟩],
    .impl foreignImpl]

/-- The class of the game. -/
def foreignGame : Candidate := { game false with impls := [foreignImpl] }

/-- The block of another type is a block of the class. -/
theorem not_forall_impls_paired :
    ¬ ∀ (items : List Item), ∀ c ∈ found items, ∃ l : Location, l.StandsIn items ∧ l.IsFoundAs c ∧
      (∀ i ∈ Item.inherentImpls l.siblings, i ∈ c.impls ↔ i.isFor c.item.name = true) ∧
      c.restricted.members = c.members := by
  intro hall
  have hgame : foreignGame ∈ found foreignItems := List.mem_singleton_self _
  obtain ⟨l, -, hfound, hpaired, -⟩ := hall _ _ hgame
  have himpl : foreignImpl ∈ foreignGame.impls := List.mem_singleton_self _
  have hbeside : foreignImpl ∈ Item.inherentImpls l.siblings := by
    rw [hfound.impls, implsOf_eq] at himpl
    exact (List.mem_filter.1 himpl).1
  have hfor := (hpaired foreignImpl hbeside).1 himpl
  cases hfor

end Candidate

end ReactiveModel
