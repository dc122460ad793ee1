import Mathlib.Data.List.DropRight
import ReactiveModel.Proofs.Class.Member
import ReactiveModel.Proofs.Emission.Unmarked
import ReactiveModel.Proofs.Expansion.Placement
import ReactiveModel.Proofs.Generation.Unit

/-!
# What expansion leaves of a module

An expanded module is the module without its markers, with the code of classes at the ends of the
modules in it and the violations after it: with these taken out again nothing else has changed. The
code of classes is not searched for markers. It has those that are written in the types and the
parameters it repeats, so it is what it should be if and only if there are none (`frame`).
-/

namespace ReactiveModel

/-! ## Items without markers -/

/-- The head of a module without the markers in it. -/
def ModuleHead.withoutMarkers (h : ModuleHead) : ModuleHead where
  attributes := h.attributes.map fun a => ⟨a.head, a.value.withoutMarkers⟩
  qualifiers := h.qualifiers.withoutMarkers
  name := h.name

namespace Item

mutual

/-- An item without markers: modules with their items, all else as code. -/
def withoutMarkers : Item → Item
  | .module head items => .module head.withoutMarkers (listWithoutMarkers items)
  | item => .other item.toCode.withoutMarkers

/-- Items in a row without markers. -/
def listWithoutMarkers : List Item → List Item
  | [] => []
  | item :: rest => item.withoutMarkers :: listWithoutMarkers rest

end

end Item

theorem Attribute.withoutMarkers_elsewhere (as : List Attribute) :
    Code.listWithoutMarkers (as.map (toCode .elsewhere)) =
      (as.map fun a => ⟨a.head, a.value.withoutMarkers⟩).map (toCode .elsewhere) := by
  rw [Code.listWithoutMarkers_eq_map, List.map_map, List.map_map]
  rfl

theorem ModuleHead.toCode_withoutMarkers (h : ModuleHead) (items : Code) :
    h.withoutMarkers.toCode items.withoutMarkers = (h.toCode items).withoutMarkers := by
  simp only [toCode, withoutMarkers, Attribute.outer, Attribute.inner, Code.withoutMarkers,
    Code.listWithoutMarkers, Attribute.withoutMarkers_elsewhere, List.filter_map]
  rfl

namespace Item

mutual

theorem toCode_withoutMarkers : ∀ item : Item,
    item.withoutMarkers.toCode = item.toCode.withoutMarkers
  | .module head items => by
    rw [withoutMarkers, toCode, toCode, ← head.toCode_withoutMarkers, Code.withoutMarkers,
      listCode_withoutMarkers items]
  | .struct _ => rfl
  | .enum _ => rfl
  | .union _ => rfl
  | .impl _ => rfl
  | .other _ => rfl

theorem listCode_withoutMarkers : ∀ items : List Item,
    listCode (listWithoutMarkers items) = Code.listWithoutMarkers (listCode items)
  | [] => rfl
  | item :: rest => by
    rw [listWithoutMarkers, listCode, listCode, Code.listWithoutMarkers,
      toCode_withoutMarkers item, listCode_withoutMarkers rest]

end

theorem listWithoutMarkers_append (items more : List Item) :
    listWithoutMarkers (items ++ more) = listWithoutMarkers items ++ listWithoutMarkers more := by
  induction items with
  | nil => rfl
  | cons item items ih => rw [List.cons_append, listWithoutMarkers, listWithoutMarkers, ih]; rfl

end Item

namespace Expansion

open Candidate Item

/-! ## Added code -/

section Placed

variable (placed : Placed)

/-- Code that is added is no piece of code that markers are taken off. -/
theorem listWithoutMarkers_additions (modules : List String) :
    listWithoutMarkers (additions placed modules) = additions placed modules := by
  unfold additions
  induction placed.filter (·.1 == modules) with
  | nil => rfl
  | cons p ps ih => rw [List.map_cons, listWithoutMarkers, ih]; rfl

mutual

theorem withoutMarkers_extendItem (modules : List String) : ∀ item : Item,
    (extendItem placed modules item).withoutMarkers =
      extendItem placed modules item.withoutMarkers
  | .module head items => by
    simp only [extendItem, Item.withoutMarkers, listWithoutMarkers_append,
      listWithoutMarkers_additions, listWithoutMarkers_extendEach _ items]
    rfl
  | .struct _ => rfl
  | .enum _ => rfl
  | .union _ => rfl
  | .impl _ => rfl
  | .other _ => rfl

theorem listWithoutMarkers_extendEach (modules : List String) : ∀ items : List Item,
    listWithoutMarkers (extendEach placed modules items) =
      extendEach placed modules (listWithoutMarkers items)
  | [] => rfl
  | item :: rest => by
    rw [extendEach, listWithoutMarkers, listWithoutMarkers, extendEach,
      withoutMarkers_extendItem modules item, listWithoutMarkers_extendEach modules rest]

end

/-- Markers may be taken off before code is added. -/
theorem listWithoutMarkers_extend (items : List Item) :
    listWithoutMarkers (extend placed items) = extend placed (listWithoutMarkers items) := by
  rw [extend, extend, listWithoutMarkers_append, listWithoutMarkers_additions,
    listWithoutMarkers_extendEach]

mutual

/-- An item without what is at the end of the modules in it. -/
def retractItem (modules : List String) : Item → Item
  | .module head items =>
    let inner := modules ++ [head.name.text]
    .module head ((retractEach inner items).rdrop (additions placed inner).length)
  | item => item

/-- Items without what is at the end of the modules in them. -/
def retractEach (modules : List String) : List Item → List Item
  | [] => []
  | item :: rest => retractItem modules item :: retractEach modules rest

end

/-- The items of a module without as many items at the ends of all modules as have been added. -/
def retract (items : List Item) : List Item :=
  (retractEach placed [] items).rdrop (additions placed []).length

theorem retractEach_append (modules : List String) (items more : List Item) :
    retractEach placed modules (items ++ more) =
      retractEach placed modules items ++ retractEach placed modules more := by
  induction items with
  | nil => rfl
  | cons item items ih => rw [List.cons_append, retractEach, retractEach, ih]; rfl

theorem retractEach_additions (modules : List String) :
    retractEach placed modules (additions placed modules) = additions placed modules := by
  unfold additions
  induction placed.filter (·.1 == modules) with
  | nil => rfl
  | cons p ps ih => rw [List.map_cons, retractEach, ih]; rfl

theorem rdrop_append_additions (modules : List String) (items : List Item) :
    (items ++ additions placed modules).rdrop (additions placed modules).length = items := by
  rw [List.rdrop, List.length_append, Nat.add_sub_cancel, List.take_left]

mutual

theorem retractItem_extendItem (modules : List String) : ∀ item : Item,
    retractItem placed modules (extendItem placed modules item) = item
  | .module head items => by
    rw [extendItem, retractItem, retractEach_append, retractEach_extendEach _ items,
      retractEach_additions, rdrop_append_additions]
  | .struct _ => rfl
  | .enum _ => rfl
  | .union _ => rfl
  | .impl _ => rfl
  | .other _ => rfl

theorem retractEach_extendEach (modules : List String) : ∀ items : List Item,
    retractEach placed modules (extendEach placed modules items) = items
  | [] => rfl
  | item :: rest => by
    rw [extendEach, retractEach, retractItem_extendItem modules item,
      retractEach_extendEach modules rest]

end

/-- What is added can be taken out again. -/
theorem retract_extend (items : List Item) : retract placed (extend placed items) = items := by
  rw [retract, extend, retractEach_append, retractEach_extendEach, retractEach_additions,
    rdrop_append_additions]

/-! ## Expanded modules -/

/-- The tokens of a module with code added to it, and of the violations after it. -/
def assembled (head : ModuleHead) (items : List Item) (ds : List Diagnostic) : List Token :=
  (Item.toCode (.module head (extend placed items))).toTokens ++ compileErrors ds

theorem assembled_withoutMarkers (head : ModuleHead) (items : List Item) (ds : List Diagnostic) :
    assembled placed head.withoutMarkers (listWithoutMarkers items) ds =
      (Item.toCode (.module head (withCode (codeAt placed) items))).withoutMarkers.toTokens ++
        compileErrors ds := by
  rw [assembled, ← extend_eq, ← toCode_withoutMarkers, Item.withoutMarkers,
    listWithoutMarkers_extend]

end Placed

/-- The code that would be generated for the classes without markers, with their places. -/
def placedWithoutMarkers (config : Config) (o : UnitOutput) : Placed :=
  o.classes.map fun c =>
    (c.candidate.modules, Emission.source config c.analysis.reactiveClass.withoutMarkers)

variable {config : Config} {head : ModuleHead} {items : List Item} {o : UnitOutput}

theorem exists_scope (h : UnitOutput.ofItems config items = .ok o) {c : ClassOutput}
    (hc : c ∈ o.classes) : ∃ s ∈ scopes items, c.candidate.modules = s.modules := by
  have hfound := (perm_scopes items).mem_iff.1 (candidate_mem_found h hc)
  obtain ⟨s, hs, hcandidate⟩ := List.mem_flatMap.1 hfound
  exact ⟨s, hs, modules_of_mem_scopes hs hcandidate⟩

theorem codeAt_map {f : ClassOutput → List Token} (cs : List ClassOutput) (s : Scope) :
    (codeAt (cs.map fun c => (c.candidate.modules, f c)) s).flatten =
      (cs.filter (·.candidate.modules == s.modules)).flatMap f := by
  rw [codeAt, List.filter_map, List.map_map, List.flatMap_def]
  rfl

/-- The code of a class is without markers if and only if no marker is written in what it
repeats. -/
theorem assembled_eq_iff (h : UnitOutput.ofItems config items = .ok o) (ds : List Diagnostic) :
    assembled (placed o) head.withoutMarkers (listWithoutMarkers items) ds =
        assembled (placedWithoutMarkers config o) head.withoutMarkers (listWithoutMarkers items)
          ds ↔
      ∀ c ∈ o.classes, c.analysis.reactiveClass.Unmarked := by
  have hcode : ∀ s, (codeAt (placedWithoutMarkers config o) s).flatten =
      (codeAt (placed o) s).flatten ↔ ∀ c ∈ o.classes.filter (·.candidate.modules == s.modules),
        c.analysis.reactiveClass.Unmarked := by
    intro s
    rw [placedWithoutMarkers, placed, codeAt_map, codeAt_map]
    refine (Token.Trimmed.flatMap fun c hc => ?_).eq_iff
    rw [UnitOutput.tokens_of_mem_classes h (List.mem_of_mem_filter hc)]
    exact Emission.trimmed_source c.analysis.reactiveClass config
  rw [assembled_withoutMarkers, assembled_withoutMarkers, List.append_left_inj,
    tokens_withCode_iff]
  constructor
  · intro hsame c hc
    obtain ⟨s, hs, hmodules⟩ := exists_scope h hc
    exact (hcode s).1 (hsame s hs).symm c (List.mem_filter.2 ⟨hc, beq_iff_eq.2 hmodules⟩)
  · intro hunmarked s _
    exact ((hcode s).2 fun c hc => hunmarked c (List.mem_of_mem_filter hc)).symm

/-- An expanded module is the module without its markers, with the code of its classes at the ends
of the modules in it and the violations after it. Markers are taken off one by one until none is
left, and nothing else changes. The code of the classes is that of the classes without markers if
and only if no marker is written in the types and parameters it repeats. -/
theorem frame {out : List Token} (h : ofModule config ⟨head, some items⟩ = .ok out) :
    ∃ o, UnitOutput.ofItems config items = .ok o ∧
      Relation.ReflTransGen Code.Sheds (Item.toCode (.module head items))
        (Item.toCode (.module head.withoutMarkers (listWithoutMarkers items))) ∧
      (∀ c a, (Item.toCode (.module head.withoutMarkers (listWithoutMarkers items))).Contains c →
        ¬ c.IsMarker a) ∧
      out = assembled (placed o) head.withoutMarkers (listWithoutMarkers items) (diagnostics o) ∧
      retract (placed o) (extend (placed o) (listWithoutMarkers items)) =
        listWithoutMarkers items ∧
      (out = assembled (placedWithoutMarkers config o) head.withoutMarkers
          (listWithoutMarkers items) (diagnostics o) ↔
        ∀ c ∈ o.classes, c.analysis.reactiveClass.Unmarked) := by
  obtain ⟨o, ho, hout⟩ := bind_eq_ok_iff.1 h
  have hassembled : out =
      assembled (placed o) head.withoutMarkers (listWithoutMarkers items) (diagnostics o) := by
    rw [assembled_withoutMarkers, ← extend_eq]
    exact (Except.ok.inj hout).symm
  have hcode : Item.toCode (.module head.withoutMarkers (listWithoutMarkers items)) =
      (Item.toCode (.module head items)).withoutMarkers :=
    toCode_withoutMarkers (.module head items)
  obtain ⟨hsheds, hmarkers⟩ := Code.eq_withoutMarkers_iff.1 hcode
  refine ⟨o, ho, hsheds, Code.markers_eq_nil_iff.1 hmarkers, hassembled, retract_extend _ _, ?_⟩
  rw [hassembled]
  exact assembled_eq_iff ho _

/-- A type that is nothing but a name. -/
def plainType (name : String) : Code := .seq [.seq [.empty, .ident (.plain name)]]

/-- An observable field. -/
def observableField (name : String) (type : Code) : Field :=
  ⟨[⟨⟨false, ⟨false, [.plain MarkerKind.observable.name]⟩, .none⟩, .empty⟩], .inherited,
    .plain name, type⟩

/-- The items of a game with an observable field and a click handler. -/
def scoredItems : List Item :=
  [.struct { bareModel "Game" with
      fields := .named [(observableField "_score" (plainType "u8"), false)] },
    .impl { gameImpl false with
      qualifiers := .seq [.empty, .empty]
      type := plainType "Game"
      items := [.method { Method.serve false with body := .seq [] }] }]

theorem ofItems_scored : ∃ o, UnitOutput.ofItems {} scoredItems = .ok o ∧
    ∀ c ∈ o.classes, c.analysis.reactiveClass.Unmarked := by
  unfold UnitOutput.ofItems ClassOutput.ofCandidate Candidate.analyse Resolution.fields
  simp only [prefixesLongestFirst_default]
  refine ⟨_, rfl, fun c hc => ?_⟩
  rw [List.mem_singleton.1 hc]
  exact ⟨List.forall_mem_singleton.2 rfl, rfl, List.forall_mem_nil _⟩

theorem exists_ofModule_scored :
    ∃ out, ofModule {} ⟨plainModule "m", some scoredItems⟩ = .ok out := by
  obtain ⟨o, ho, -⟩ := ofItems_scored
  exact ⟨_, bind_eq_ok_iff.2 ⟨o, ho, rfl⟩⟩

theorem frame_scored :
    let head := plainModule "m"
    let stripped : Item := .module head.withoutMarkers (listWithoutMarkers scoredItems)
    ∃ out o, ofModule {} ⟨head, some scoredItems⟩ = .ok out ∧
      UnitOutput.ofItems {} scoredItems = .ok o ∧
      (Item.toCode (.module head scoredItems)).markers.length = 3 ∧
      Relation.ReflTransGen Code.Sheds (Item.toCode (.module head scoredItems)) stripped.toCode ∧
      (∀ c a, stripped.toCode.Contains c → ¬ c.IsMarker a) ∧
      out = assembled (placedWithoutMarkers {} o) head.withoutMarkers
        (listWithoutMarkers scoredItems) (diagnostics o) := by
  intro head stripped
  obtain ⟨out, hout⟩ := exists_ofModule_scored
  obtain ⟨o, ho, hsheds, hnone, -, -, hiff⟩ := frame hout
  obtain ⟨o', ho', hunmarked⟩ := ofItems_scored
  cases ho.symm.trans ho'
  exact ⟨out, o, hout, ho, rfl, hsheds, hnone, hiff.2 hunmarked⟩

/-! ## A marker in the type of a field -/

/-- The items that an expanded module is read as, if it can be read again. -/
def reread? (config : Config) (m : Module) : Option (List Item) :=
  (ofModule config m).toOption.bind fun out => (Grammar.readTokens Grammar.fileItems out).toOption

/-- An array of bytes; the block that gives its length declares a struct. -/
def arrayType : Code :=
  let length : Struct :=
    ⟨[], .inherited, .plain "B", .empty, .named [(observableField "y" (plainType "u8"), false)]⟩
  .group .bracket (.seq [plainType "u8", .op ";", .seq [.empty,
    .group .brace (.seq [.seq [], .seq [length.toCode, .raw [.literal "1"]]])]])

/-- A model with an array. -/
def arrayModel : Module :=
  let model : Struct :=
    { bareModel "A" with fields := .named [(observableField "_x" arrayType, false)] }
  ⟨plainModule "m", some [.struct model]⟩

set_option maxRecDepth 20000 in
theorem readModule_array : Grammar.readModule
    "mod m { #[reactive_model] struct A {
      #[observable] _x: [u8; { struct B { #[observable] y: u8 } 1 }] } }" = .ok arrayModel :=
  Grammar.readModule_eq_ok arrayModel.toItem.toCode.toTokens rfl rfl

theorem reread_array :
    ((reread? {} arrayModel).any fun items => !(Code.listMarkers (Item.listCode items)).isEmpty) =
      true := by
  unfold reread? ofModule UnitOutput.ofItems ClassOutput.ofCandidate Candidate.analyse
    Resolution.fields
  simp only [prefixesLongestFirst_default]
  decide +kernel

/-- A module that has been expanded may still have markers. -/
theorem not_forall_unmarked :
    ¬ ∀ (config : Config) (text : String) (m : Module) (items : List Item),
      Grammar.readModule text = .ok m → reread? config m = some items →
        Code.listMarkers (Item.listCode items) = [] := by
  intro h
  obtain ⟨items, hitems, hmarked⟩ := (Option.any_eq_true ..).1 reread_array
  rw [h {} _ arrayModel items readModule_array hitems] at hmarked
  cases hmarked

end Expansion

end ReactiveModel
