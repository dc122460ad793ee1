import ReactiveModel.Proofs.Expansion.Frame
import ReactiveModel.Proofs.Grammar.Item
import ReactiveModel.Proofs.Marker.Spelling

/-!
# Models that lose their marker

An expanded module has no marked models left. Those that stand among its items and the items of the
modules in it are answered by code or by a violation; markers are taken off in all code, but
functions, impl blocks and the inside of other items are not searched for models. So each model is
answered if and only if no such place has one (`models_answered_iff`).
-/

namespace ReactiveModel

/-! ## Marked types in code -/

namespace Code

/-- The type that an attribute marks as a model. -/
def markedName? : Code → Option Ident
  | .attribute (.type i) head _ =>
    if MarkerKind.of? head = some .reactiveModel then some i else none
  | _ => none

mutual

/-- The types in a tree that are marked as models. A type has its attributes in a row, and counts
once. -/
def models : Code → List Ident
  | .raw _ => []
  | .group _ body => body.models
  | .seq parts => (parts.findSome? markedName?).toList ++ listModels parts
  | .arranged _ parts => listModels parts
  | .name _ => []
  | .member base _ => base.models
  | .call base _ arguments => base.models ++ arguments.models
  | .binding _ => []
  | .invocation _ _ => []
  | .attribute _ _ value => value.models

/-- The types in trees in a row that are marked as models. -/
def listModels : List Code → List Ident
  | [] => []
  | c :: rest => c.models ++ listModels rest

end

variable {c : Code} {cs : List Code}

theorem markedName?_eq_none (h : c.isAttribute = false) : c.markedName? = none := by
  unfold markedName?
  split
  · cases h
  · rfl

theorem findSome?_eq_none (h : ∀ c ∈ cs, c.isAttribute = false) :
    cs.findSome? markedName? = none :=
  List.findSome?_eq_none_iff.2 fun c hc => markedName?_eq_none (h c hc)

theorem markedName?_eq_none_of_markers (h : c.markers = []) : c.markedName? = none := by
  unfold markedName?
  split
  · next i head value =>
    by_contra hmarked
    have hkind : MarkerKind.of? head = some .reactiveModel := by
      by_contra hother
      exact hmarked (if_neg hother)
    have hremoved : isRemoved (.type i) head := by simp [isRemoved, hkind]
    rw [markers, if_pos hremoved] at h
    cases h
  · rfl

theorem listMarkers_eq_flatMap (cs : List Code) : listMarkers cs = cs.flatMap markers := by
  induction cs with
  | nil => rfl
  | cons c cs ih => rw [listMarkers, ih, List.flatMap_cons]

mutual

/-- Code without markers has no models. -/
theorem models_eq_nil : ∀ c : Code, c.markers = [] → c.models = []
  | .raw _, _ => rfl
  | .group _ body, h => models_eq_nil body h
  | .seq cs, h => by
    have hcs := List.flatMap_eq_nil_iff.1 ((listMarkers_eq_flatMap cs).symm.trans h)
    rw [models, listModels_eq_nil cs h,
      List.findSome?_eq_none_iff.2 fun c hc => markedName?_eq_none_of_markers (hcs c hc)]
    rfl
  | .arranged _ cs, h => listModels_eq_nil cs h
  | .name _, _ => rfl
  | .member base _, h => models_eq_nil base h
  | .call base _ arguments, h => by
    obtain ⟨hbase, harguments⟩ := List.append_eq_nil_iff.1 h
    rw [models, models_eq_nil base hbase, models_eq_nil arguments harguments]
    rfl
  | .binding _, _ => rfl
  | .invocation _ _, _ => rfl
  | .attribute _ _ value, h => models_eq_nil value (List.append_eq_nil_iff.1 h).2

theorem listModels_eq_nil : ∀ cs : List Code, listMarkers cs = [] → listModels cs = []
  | [], _ => rfl
  | c :: cs, h => by
    obtain ⟨hc, hcs⟩ := List.append_eq_nil_iff.1 h
    rw [listModels, models_eq_nil c hc, listModels_eq_nil cs hcs]
    rfl

end

end Code

/-! ## Marked types among items -/

namespace Attribute

/-- Whether one of the attributes is the marker of a model. -/
def marksModel (as : List Attribute) : Bool :=
  as.any fun a => MarkerKind.of? a.head = some .reactiveModel

variable {as : List Attribute} {name : Ident}

theorem findSome?_map : (as.map (toCode (.type name))).findSome? Code.markedName? =
    if marksModel as then some name else none := by
  induction as with
  | nil => rfl
  | cons a as ih =>
    rw [List.map_cons, List.findSome?_cons, ih, toCode, Code.markedName?]
    by_cases h : MarkerKind.of? a.head = some .reactiveModel
    · simp [marksModel, h]
    · simp [marksModel, h]

theorem listModels_map (site : Site) :
    Code.listModels (as.map (toCode site)) = as.flatMap (·.value.models) := by
  induction as with
  | nil => rfl
  | cons a as ih => rw [List.map_cons, Code.listModels, ih, List.flatMap_cons]; rfl

theorem find?_eq_none_iff : Marker.find? .reactiveModel as = none ↔ marksModel as = false := by
  have h := @Marker.isSome_find?_iff .reactiveModel as
  rw [← Option.not_isSome_iff_eq_none, h]
  simp [marksModel]

end Attribute

namespace Item

mutual

/-- The code of an item in which no model is looked for: all but the attributes of a type, without
the values they assign, and the items of a module. -/
def unsearched : Item → List Code
  | .struct s => { s with attributes := [] }.toCode :: s.attributes.map (·.value)
  | .enum t => { t with attributes := [] }.toCode :: t.attributes.map (·.value)
  | .union t => { t with attributes := [] }.toCode :: t.attributes.map (·.value)
  | .impl i => [i.toCode]
  | .module head items => head.toCode .empty :: listUnsearched items
  | .other code => [code]

/-- The code of items in a row in which no model is looked for. -/
def listUnsearched : List Item → List Code
  | [] => []
  | item :: rest => item.unsearched ++ listUnsearched rest

end

variable {item : Item} {items : List Item}

theorem isAttribute_toCode (h : item.Proper) : item.toCode.isAttribute = false := by
  cases item with
  | other code => exact h
  | _ => rfl

end Item

namespace Candidate

/-- The name of the type that something is found at. -/
def Finding.subject : Finding → String
  | .candidate c => c.item.name.text
  | .violation d => d.member

theorem exists_of_find? {as : List Attribute} {position : Nat} {r : Except MarkerError Marker}
    (h : Marker.find? .reactiveModel as = some (position, r)) :
    ∃ a, r = Marker.ofKind .reactiveModel a := by
  obtain ⟨i, -, h⟩ := Option.bind_eq_some_iff.1 h
  obtain ⟨a, -, h⟩ := Option.map_eq_some_iff.1 h
  cases h
  exact ⟨_, rfl⟩

theorem marksModel_of_find? {as : List Attribute} {found : Nat × Except MarkerError Marker}
    (h : Marker.find? .reactiveModel as = some found) : Attribute.marksModel as = true := by
  by_contra hnone
  rw [Attribute.find?_eq_none_iff.2 (Bool.not_eq_true _ ▸ hnone)] at h
  cases h

theorem subjects_ofStruct (modules : List String) (items : List Item) (s : Struct) :
    (ofStruct modules items s).map Finding.subject =
      if Attribute.marksModel s.attributes then [s.name.text] else [] := by
  unfold ofStruct
  cases h : Marker.find? .reactiveModel s.attributes with
  | none =>
    rw [Attribute.find?_eq_none_iff.1 h]
    rfl
  | some found =>
    obtain ⟨position, r⟩ := found
    rw [marksModel_of_find? h, if_pos rfl]
    cases r with
    | error e => rfl
    | ok m =>
      obtain ⟨a, ha⟩ := exists_of_find? h
      obtain ⟨allowCycles, rfl⟩ := Marker.exists_of_ofKind_reactiveModel ha.symm
      cases s.fields <;> rfl

theorem subjects_ofOther (modules : List String) (t : OtherType) (what : String) :
    (ofOther modules t what).map Finding.subject =
      if Attribute.marksModel t.attributes then [t.name.text] else [] := by
  unfold ofOther
  split
  · next h =>
    rw [Attribute.find?_eq_none_iff.1 h]
    rfl
  · next h =>
    rw [marksModel_of_find? h]
    rfl

end Candidate

/-! ## Models of items -/

namespace Item

open Candidate

/-- A type is written as its attributes with the rest after them. -/
theorem perm_declaration {name : Ident} {as : List Attribute} (rest : List Code)
    (h : ∀ a ∈ as, a.head.inner = false) :
    ((Code.seq (Attribute.outer (.type name) as :: rest)).models.map Ident.text).Perm
      ((if Attribute.marksModel as then [name.text] else []) ++
        (((Code.seq (Attribute.outer (.type name) [] :: rest)) :: as.map (·.value)).flatMap
          Code.models).map Ident.text) := by
  have houter : as.filter (!·.head.inner) = as :=
    List.filter_eq_self.2 fun a ha => by rw [h a ha]; rfl
  have hfirst : ∀ cs, (Code.seq cs :: rest).findSome? Code.markedName? =
      rest.findSome? Code.markedName? := fun cs => rfl
  have hname : ((if Attribute.marksModel as then some name else none).toList.map Ident.text) =
      if Attribute.marksModel as then [name.text] else [] := by
    split <;> rfl
  simp only [Attribute.outer, Code.models, Code.listModels, houter, Attribute.findSome?_map,
    Attribute.listModels_map, hfirst, List.flatMap_cons, List.flatMap_map, List.map_append, hname,
    List.filter_nil, List.map_nil, List.findSome?_nil, Option.toList_none, List.nil_append]
  refine List.perm_iff_count.2 fun i => ?_
  simp only [List.count_append]
  omega

theorem isAttribute_of_mem_listCode {c : Code} (h : ListProper items) (hc : c ∈ listCode items) :
    c.isAttribute = false := by
  induction items with
  | nil => cases hc
  | cons item items ih =>
    rcases List.mem_cons.1 hc with rfl | hc
    · exact isAttribute_toCode h.1
    · exact ih h.2 hc

/-- The models in a module are those in its head and those in its items. -/
theorem models_module (head : ModuleHead) (h : ListProper items) :
    (toCode (.module head items)).models =
      (head.toCode .empty).models ++ Code.listModels (listCode items) := by
  have hitems : (listCode items).findSome? Code.markedName? = none :=
    Code.findSome?_eq_none fun c hc => isAttribute_of_mem_listCode h hc
  simp [toCode, ModuleHead.toCode, Code.models, Code.listModels, hitems, Code.empty,
    Attribute.inner]
  rfl

theorem perm_module (head : ModuleHead) {subjects : List String} (h : ListProper items)
    (hitems : ((Code.listModels (listCode items)).map Ident.text).Perm
      (subjects ++ ((listUnsearched items).flatMap Code.models).map Ident.text)) :
    ((toCode (.module head items)).models.map Ident.text).Perm
      (subjects ++ ((unsearched (.module head items)).flatMap Code.models).map Ident.text) := by
  rw [models_module head h, unsearched, List.flatMap_cons, List.map_append, List.map_append]
  exact (hitems.append_left _).trans (List.perm_append_comm_assoc ..)

mutual

/-- The models in the code of an item are those that something is found at, and those that stand
where none is looked for. -/
theorem perm_models (modules : List String) (items : List Item) : ∀ item : Item, item.Proper →
    (item.toCode.models.map Ident.text).Perm
      ((ofItem modules items item).map Finding.subject ++
        (item.unsearched.flatMap Code.models).map Ident.text)
  | .struct s, h => by
    rw [ofItem, subjects_ofStruct, unsearched]
    exact perm_declaration _ h
  | .enum t, h => by
    rw [ofItem, subjects_ofOther, unsearched]
    exact perm_declaration _ h
  | .union t, h => by
    rw [ofItem, subjects_ofOther, unsearched]
    exact perm_declaration _ h
  | .impl i, _ => by simp [ofItem, unsearched, toCode]
  | .module head inner, h => perm_module head h (perm_listModels _ inner inner h)
  | .other code, _ => by simp [ofItem, unsearched, toCode]

theorem perm_listModels (modules : List String) (items : List Item) : ∀ rest : List Item,
    ListProper rest → ((Code.listModels (listCode rest)).map Ident.text).Perm
      ((ofItems modules items rest).map Finding.subject ++
        ((listUnsearched rest).flatMap Code.models).map Ident.text)
  | [], _ => .refl _
  | item :: rest, h => by
    have hitem := perm_models modules items item h.1
    have hrest := perm_listModels modules items rest h.2
    rw [listCode, Code.listModels, ofItems, listUnsearched, List.flatMap_append, List.map_append,
      List.map_append, List.map_append]
    refine (hitem.append hrest).trans ?_
    rw [List.append_assoc, List.append_assoc]
    exact (List.perm_append_comm_assoc ..).append_left _

end

end Item

namespace Expansion

open Candidate Token

variable {config : Config} {head : ModuleHead} {items : List Item} {out : List Token}

/-! ## Answers -/

/-- Whether what is found is answered in an expanded module: a class by its code, which is not
empty, and a violation by code that the compiler refuses with it. -/
def Answered (config : Config) (out : List Token) : Finding → Prop
  | .candidate c => codeOf config c ≠ [] ∧ ∃ stream, Nested out stream ∧ codeOf config c <:+: stream
  | .violation d => compileError d.summary <:+: out

section Placed

variable (code : Scope → List (List Token))

mutual

theorem exists_group_of_mem_scopesOfItem (modules : List String) : ∀ item : Item,
    ∀ s ∈ scopesOfItem modules item, ∃ delimiter body stream,
      .group delimiter body ∈ (withCodeItem code modules item).toCode.withoutMarkers.toTokens ∧
        Nested body stream ∧ (code s).flatten <:+ stream
  | .module head inner, s, hs => by
    obtain ⟨before, opening, htokens⟩ := exists_tokens_module head
    rw [withCodeItem, htokens, tokensOf_append, tokensOf_written]
    rcases List.mem_cons.1 hs with rfl | hs
    · exact ⟨.brace, _, _, List.mem_append_right _ List.mem_cons_self, .refl,
        (List.suffix_append _ _).trans (List.suffix_append _ _)⟩
    · obtain ⟨delimiter, body, stream, hbody, hstream, hcode⟩ :=
        exists_group_of_mem_scopesWithin _ inner s hs
      exact ⟨.brace, _, stream, List.mem_append_right _ List.mem_cons_self,
        hstream.head ⟨delimiter, List.mem_append_right _ (List.mem_append_left _ hbody)⟩, hcode⟩

theorem exists_group_of_mem_scopesWithin (modules : List String) : ∀ items : List Item,
    ∀ s ∈ scopesWithin modules items, ∃ delimiter body stream,
      .group delimiter body ∈ tokensOf (withCodeEach code modules items) ∧
        Nested body stream ∧ (code s).flatten <:+ stream
  | item :: rest, s, hs => by
    rw [withCodeEach, tokensOf_cons]
    rcases List.mem_append.1 hs with hs | hs
    · obtain ⟨delimiter, body, stream, hbody, h⟩ :=
        exists_group_of_mem_scopesOfItem modules item s hs
      exact ⟨delimiter, body, stream, List.mem_append_left _ hbody, h⟩
    · obtain ⟨delimiter, body, stream, hbody, h⟩ :=
        exists_group_of_mem_scopesWithin modules rest s hs
      exact ⟨delimiter, body, stream, List.mem_append_right _ hbody, h⟩

end

/-- The code of each scope stands at the end of a group in the module. -/
theorem exists_group_of_mem_scopes (head : ModuleHead) {s : Scope} (hs : s ∈ scopes items) :
    ∃ delimiter body stream, .group delimiter body ∈
        (Item.toCode (.module head (withCode code items))).withoutMarkers.toTokens ∧
      Nested body stream ∧ (code s).flatten <:+ stream := by
  obtain ⟨before, opening, htokens⟩ := exists_tokens_module head
  rw [withCode, htokens, tokensOf_append, tokensOf_written]
  rcases List.mem_cons.1 hs with rfl | hs
  · exact ⟨.brace, _, _, List.mem_append_right _ List.mem_cons_self, .refl,
      (List.suffix_append _ _).trans (List.suffix_append _ _)⟩
  · obtain ⟨delimiter, body, stream, hbody, hstream, hcode⟩ :=
      exists_group_of_mem_scopesWithin code [] items s hs
    exact ⟨.brace, _, stream, List.mem_append_right _ List.mem_cons_self,
      hstream.head ⟨delimiter, List.mem_append_right _ (List.mem_append_left _ hbody)⟩, hcode⟩

end Placed

theorem infix_flatten_of_mem {α : Type} {l : List α} {ls : List (List α)} (h : l ∈ ls) :
    l <:+: ls.flatten := by
  obtain ⟨before, after, rfl⟩ := List.append_of_mem h
  exact ⟨before.flatten, after.flatten, by simp⟩

/-- All that is found in a module is answered in the expanded module. -/
theorem answered (h : ofModule config ⟨head, some items⟩ = .ok out) :
    ∀ f ∈ find items, Answered config out f := by
  obtain ⟨o, ho, rfl⟩ := eq_expanded h
  intro f hf
  cases f with
  | candidate c =>
    have hc : c ∈ found items := List.mem_filterMap.2 ⟨_, hf, rfl⟩
    obtain ⟨s, hs, hcs⟩ := List.mem_flatMap.1 ((perm_scopes items).mem_iff.1 hc)
    obtain ⟨delimiter, body, stream, hbody, hstream, hsuffix⟩ :=
      exists_group_of_mem_scopes (namesakeCode config items) head hs
    have hcode : codeOf config c ∈ namesakeCode config items s :=
      List.mem_map_of_mem ((sublist_namesakes hs).subset hcs)
    exact ⟨(classes_of_ofItems ho).2 c hc, stream,
      hstream.head ⟨delimiter, List.mem_append_left _ hbody⟩,
      (infix_flatten_of_mem hcode).trans hsuffix.isInfix⟩
  | violation d =>
    have hfindings : o.findings = find items := by
      obtain ⟨os, -, ho⟩ := bind_eq_ok_iff.1 ho
      cases ho
      rfl
    have hd : d ∈ diagnostics o :=
      List.mem_append_left _ (List.mem_filterMap.2 ⟨_, hfindings ▸ hf, rfl⟩)
    have hshown : compileError d.summary <:+: compileErrors (diagnostics o) := by
      rw [compileErrors, List.flatMap_def]
      exact infix_flatten_of_mem (List.mem_map_of_mem hd)
    exact hshown.trans (List.suffix_append _ _).isInfix

/-! ## Models that are lost -/

/-- The models of a module that stand where none is looked for. -/
def lost (head : ModuleHead) (items : List Item) : List Ident :=
  (Item.unsearched (.module head items)).flatMap Code.models

/-- An expanded module has no models left. All that is found is answered, and the models of the
module are those that something is found at and those that stand where none is looked for. So each
model has an answer of its own if and only if there are none of the latter. -/
theorem models_answered_iff {text : String}
    (hread : Grammar.readModule text = .ok ⟨head, some items⟩)
    (h : ofModule config ⟨head, some items⟩ = .ok out) :
    let code := Item.toCode (.module head items)
    code.withoutMarkers.models = [] ∧
      (∀ f ∈ find items, Answered config out f) ∧
      (code.models.map Ident.text).Perm
        ((find items).map Finding.subject ++ (lost head items).map Ident.text) ∧
      ((code.models.map Ident.text).Subperm ((find items).map Finding.subject) ↔
        lost head items = []) := by
  intro code
  have hproper := Grammar.proper_of_readModule hread
  have hperm : (code.models.map Ident.text).Perm
      ((find items).map Finding.subject ++ (lost head items).map Ident.text) :=
    Item.perm_module head hproper (Item.perm_listModels [] items items hproper)
  refine ⟨Code.models_eq_nil _ (Code.markers_withoutMarkers code), answered h, hperm, ?_⟩
  constructor
  · intro hsub
    have hlength := hsub.length_le
    rw [hperm.length_eq, List.length_append, List.length_map (f := Ident.text)] at hlength
    exact List.length_eq_zero_iff.1 (by omega)
  · intro hlost
    rw [hlost, List.map_nil, List.append_nil] at hperm
    exact hperm.subperm

set_option maxRecDepth 20000 in
/-- The game as it is written. -/
theorem readModule_scored : Grammar.readModule
    "mod m \x7b #[reactive_model] struct Game \x7b #[observable] _score: u8 \x7d
      impl Game \x7b #[click_handler(\"Serve\")] fn on_serve(&mut self) \x7b \x7d \x7d \x7d" =
    .ok ⟨plainModule "m", some scoredItems⟩ :=
  Grammar.readModule_eq_ok (Item.toCode (.module (plainModule "m") scoredItems)).toTokens rfl rfl

theorem models_answered_scored :
    let code := Item.toCode (.module (plainModule "m") scoredItems)
    ∃ out, ofModule {} ⟨plainModule "m", some scoredItems⟩ = .ok out ∧
      code.models = [.plain "Game"] ∧ code.withoutMarkers.models = [] ∧
      (∀ f ∈ find scoredItems, Answered {} out f) ∧
      (code.models.map Ident.text).Subperm ((find scoredItems).map Finding.subject) := by
  intro code
  obtain ⟨out, hout⟩ := exists_ofModule_scored
  obtain ⟨hnone, hanswered, -, hiff⟩ := models_answered_iff readModule_scored hout
  exact ⟨out, hout, rfl, hnone, hanswered, hiff.2 rfl⟩

/-! ## A model in a function -/

/-- A function with a model in its body. -/
def modelInFunction : Item :=
  let field : Field := ⟨[], .inherited, .plain "x", plainType "i32"⟩
  let model : Struct := { bareModel "A" with fields := .named [(field, false)] }
  let signature : Signature :=
    ⟨false, false, false, none, .plain "f", .empty, [], none, none⟩
  .other (.seq [.seq [.seq [], .empty],
    .bodied signature.toCode (Attribute.inner .elsewhere []) (.seq [model.toCode])])

set_option maxRecDepth 10000 in
theorem readModule_function :
    Grammar.readModule "mod m { fn f() { #[reactive_model] struct A { x: i32 } } }" =
      .ok ⟨plainModule "m", some [modelInFunction]⟩ :=
  Grammar.readModule_eq_ok
    (Item.toCode (.module (plainModule "m") [modelInFunction])).toTokens rfl rfl

/-- Not all models in a module are classes with code or reported. -/
theorem not_forall_models_answered :
    ¬ ∀ (config : Config) (text : String) (head : ModuleHead) (items : List Item)
      (out : List Token), Grammar.readModule text = .ok ⟨head, some items⟩ →
        ofModule config ⟨head, some items⟩ = .ok out →
          ∃ o, UnitOutput.ofItems config items = .ok o ∧
            ∀ i ∈ (Item.toCode (.module head items)).models,
              (∃ c ∈ o.classes, c.candidate.item.name = i) ∨
                ∃ d ∈ diagnostics o, d.member = i.text := by
  intro h
  obtain ⟨o, ho, hanswered⟩ := h {} _ _ _ _ readModule_function rfl
  cases ho
  have hmodel : Ident.plain "A" ∈
      (Item.toCode (.module (plainModule "m") [modelInFunction])).models :=
    List.mem_singleton_self _
  rcases hanswered _ hmodel with ⟨c, hc, -⟩ | ⟨d, hd, -⟩
  · cases hc
  · cases hd

end Expansion

end ReactiveModel
