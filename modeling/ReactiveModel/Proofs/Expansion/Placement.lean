import ReactiveModel.Expansion
import ReactiveModel.Proofs.Generation.Unit

/-!
# Where generated code is placed

The code of a class belongs to the end of the scope that declares the class. It is placed by the
names of the modules around the class, and so reaches all scopes of these names. Both are written
down as code at the ends of scopes; the expansion of a module is what it should be if and only if
scopes with classes have names of their own (`placement`).
-/

namespace ReactiveModel.Expansion

open Candidate

/-! ## Code at the ends of scopes -/

/-- The code of a class, none if its processing breaks off. -/
def codeOf (config : Config) (c : Candidate) : List Token :=
  match ClassOutput.ofCandidate config c with
  | .ok o => o.tokens
  | .error _ => []

/-- Pieces of code as items. -/
def written (pieces : List (List Token)) : List Item :=
  pieces.map fun tokens => .other (.raw tokens)

mutual

/-- An item with code at the ends of the scopes in it. -/
def withCodeItem (code : Scope → List (List Token)) (modules : List String) : Item → Item
  | .module head items =>
    let inner := modules ++ [head.name.text]
    .module head (withCodeEach code inner items ++ written (code (.ofItems inner items)))
  | item => item

/-- Items with code at the ends of the scopes in them. -/
def withCodeEach (code : Scope → List (List Token)) (modules : List String) :
    List Item → List Item
  | [] => []
  | item :: rest => withCodeItem code modules item :: withCodeEach code modules rest

end

/-- Items with code at their end and at the ends of the scopes in them. -/
def withCode (code : Scope → List (List Token)) (items : List Item) : List Item :=
  withCodeEach code [] items ++ written (code (.ofItems [] items))

/-- The code that is placed at the names of modules that a scope has. -/
def codeAt (placed : Placed) (s : Scope) : List (List Token) :=
  (placed.filter (·.1 == s.modules)).map (·.2)

section Extend

variable (placed : Placed)

theorem additions_eq (modules : List String) (items : List Item) :
    additions placed modules = written (codeAt placed (.ofItems modules items)) := by
  rw [additions, written, codeAt, List.map_map]
  rfl

mutual

theorem extendItem_eq (modules : List String) : ∀ item : Item,
    extendItem placed modules item = withCodeItem (codeAt placed) modules item
  | .module head items => by
    rw [extendItem, withCodeItem, extendEach_eq, additions_eq placed _ items]
  | .struct _ => rfl
  | .enum _ => rfl
  | .union _ => rfl
  | .impl _ => rfl
  | .other _ => rfl

theorem extendEach_eq (modules : List String) : ∀ items : List Item,
    extendEach placed modules items = withCodeEach (codeAt placed) modules items
  | [] => rfl
  | item :: rest => by
    rw [extendEach, withCodeEach, extendItem_eq, extendEach_eq]

end

/-- What is appended by names of modules is code at the ends of scopes. -/
theorem extend_eq (items : List Item) : extend placed items = withCode (codeAt placed) items := by
  rw [extend, withCode, extendEach_eq, additions_eq placed _ items]

end Extend

/-! ## Tokens -/

/-- The tokens of items without markers. -/
def tokensOf (items : List Item) : List Token :=
  Code.listTokens (Code.listWithoutMarkers (Item.listCode items))

theorem tokensOf_cons (item : Item) (items : List Item) :
    tokensOf (item :: items) = item.toCode.withoutMarkers.toTokens ++ tokensOf items := rfl

theorem tokensOf_append (items more : List Item) :
    tokensOf (items ++ more) = tokensOf items ++ tokensOf more := by
  induction items with
  | nil => rfl
  | cons item items ih => rw [List.cons_append, tokensOf_cons, tokensOf_cons, ih, List.append_assoc]

theorem tokensOf_written (pieces : List (List Token)) :
    tokensOf (written pieces) = pieces.flatten := by
  induction pieces with
  | nil => rfl
  | cons tokens pieces ih =>
    rw [List.flatten_cons, ← ih]
    rfl

/-- A module is written as one group of its items, with the same tokens around them. -/
theorem exists_tokens_module (head : ModuleHead) : ∃ before opening : List Token,
    ∀ items, (Item.toCode (.module head items)).withoutMarkers.toTokens =
      before ++ [.group .brace (opening ++ tokensOf items)] := by
  refine ⟨Code.listTokens (Code.listWithoutMarkers [Attribute.outer .elsewhere head.attributes,
    head.qualifiers, .keyword "mod", .ident head.name]),
    (Attribute.inner .elsewhere head.attributes).withoutMarkers.toTokens, fun items => ?_⟩
  simp [Item.toCode, ModuleHead.toCode, Code.withoutMarkers, Code.listWithoutMarkers,
    Code.toTokens, Code.listTokens, tokensOf]

section Compare

variable (f g : Scope → List (List Token))

/-- Items with code at their end are alike if they are alike before the code and the code is. -/
theorem tokensOf_append_written_iff {items items' : List Item} {pieces pieces' : List (List Token)}
    (h : (tokensOf items).length = (tokensOf items').length) :
    tokensOf (items ++ written pieces) = tokensOf (items' ++ written pieces') ↔
      tokensOf items = tokensOf items' ∧ pieces.flatten = pieces'.flatten := by
  rw [tokensOf_append, tokensOf_append, tokensOf_written, tokensOf_written]
  exact ⟨fun e => List.append_inj e h, fun ⟨e, e'⟩ => by rw [e, e']⟩

mutual

/-- However much code is added, an item has the same number of tokens, since a group is one. -/
theorem tokens_withCodeItem (modules : List String) : ∀ item : Item,
    (withCodeItem f modules item).toCode.withoutMarkers.toTokens.length =
        (withCodeItem g modules item).toCode.withoutMarkers.toTokens.length ∧
      ((withCodeItem f modules item).toCode.withoutMarkers.toTokens =
          (withCodeItem g modules item).toCode.withoutMarkers.toTokens ↔
        ∀ s ∈ scopesOfItem modules item, (f s).flatten = (g s).flatten)
  | .module head items => by
    obtain ⟨before, opening, h⟩ := exists_tokens_module head
    obtain ⟨hlength, heach⟩ := tokens_withCodeEach (modules ++ [head.name.text]) items
    rw [withCodeItem, withCodeItem, h, h]
    refine ⟨by simp, ?_⟩
    rw [scopesOfItem, List.forall_mem_cons, ← heach, and_comm,
      ← tokensOf_append_written_iff hlength]
    simp
  | .struct _ => ⟨rfl, by simp [withCodeItem, scopesOfItem]⟩
  | .enum _ => ⟨rfl, by simp [withCodeItem, scopesOfItem]⟩
  | .union _ => ⟨rfl, by simp [withCodeItem, scopesOfItem]⟩
  | .impl _ => ⟨rfl, by simp [withCodeItem, scopesOfItem]⟩
  | .other _ => ⟨rfl, by simp [withCodeItem, scopesOfItem]⟩

theorem tokens_withCodeEach (modules : List String) : ∀ items : List Item,
    (tokensOf (withCodeEach f modules items)).length =
        (tokensOf (withCodeEach g modules items)).length ∧
      (tokensOf (withCodeEach f modules items) = tokensOf (withCodeEach g modules items) ↔
        ∀ s ∈ scopesWithin modules items, (f s).flatten = (g s).flatten)
  | [] => ⟨rfl, by simp [withCodeEach, scopesWithin]⟩
  | item :: rest => by
    obtain ⟨hlength, hitem⟩ := tokens_withCodeItem modules item
    obtain ⟨hlengths, hrest⟩ := tokens_withCodeEach modules rest
    rw [withCodeEach, withCodeEach, tokensOf_cons, tokensOf_cons, scopesWithin,
      List.forall_mem_append, ← hitem, ← hrest]
    refine ⟨by simp only [List.length_append, hlength, hlengths], fun e => ?_, fun ⟨e, e'⟩ => ?_⟩
    · exact List.append_inj e hlength
    · rw [e, e']

end

/-- Modules with code at the ends of scopes are alike if and only if each scope has the same. -/
theorem tokens_withCode_iff (head : ModuleHead) (items : List Item) :
    (Item.toCode (.module head (withCode f items))).withoutMarkers.toTokens =
        (Item.toCode (.module head (withCode g items))).withoutMarkers.toTokens ↔
      ∀ s ∈ scopes items, (f s).flatten = (g s).flatten := by
  obtain ⟨before, opening, h⟩ := exists_tokens_module head
  obtain ⟨hlength, heach⟩ := tokens_withCodeEach f g [] items
  rw [h, h, scopes, List.forall_mem_cons, ← heach, and_comm, ← tokensOf_append_written_iff hlength,
    withCode, withCode]
  simp

end Compare

/-! ## The code of classes -/

/-- The code of a class always has the block with its metadata. -/
theorem source_ne_nil (config : Config) (c : ReactiveClass) : Emission.source config c ≠ [] := by
  simp [Emission.source, Emission.parts, Emission.metadata, Token.braced]

variable {config : Config} {items : List Item}

theorem codeOf_of_eq_ok {c : Candidate} {o : ClassOutput}
    (h : ClassOutput.ofCandidate config c = .ok o) :
    o.candidate = c ∧ o.tokens = codeOf config c ∧ codeOf config c ≠ [] := by
  have hcode : codeOf config c = o.tokens := by rw [codeOf, h]
  refine ⟨ClassOutput.candidate_of_ofCandidate h, hcode.symm, ?_⟩
  rw [hcode, ClassOutput.tokens_of_ofCandidate h]
  exact source_ne_nil _ _

/-- All candidates are processed, in order, and the code of each is kept. -/
theorem outputs_eq {cs : List Candidate} {os : List ClassOutput}
    (h : cs.mapM (ClassOutput.ofCandidate config) = .ok os) :
    os.map (fun o => (o.candidate, o.tokens)) = cs.map (fun c => (c, codeOf config c)) ∧
      ∀ c ∈ cs, codeOf config c ≠ [] := by
  induction mapM_eq_ok_iff.1 h with
  | nil => exact ⟨rfl, by simp⟩
  | cons ho hos ih =>
    obtain ⟨hcandidate, htokens, hne⟩ := codeOf_of_eq_ok ho
    obtain ⟨hmap, hforall⟩ := ih (mapM_eq_ok_iff.2 hos)
    exact ⟨by rw [List.map_cons, List.map_cons, hmap, hcandidate, htokens],
      List.forall_mem_cons.2 ⟨hne, hforall⟩⟩

/-- The candidates of a unit are processed, in order. -/
theorem classes_of_ofItems {o : UnitOutput} (h : UnitOutput.ofItems config items = .ok o) :
    o.classes.map (fun o => (o.candidate, o.tokens)) =
        (found items).map (fun c => (c, codeOf config c)) ∧
      ∀ c ∈ found items, codeOf config c ≠ [] := by
  obtain ⟨os, hos, h⟩ := bind_eq_ok_iff.1 h
  cases h
  exact outputs_eq hos

theorem candidate_mem_found {o : UnitOutput} (h : UnitOutput.ofItems config items = .ok o)
    {c : ClassOutput} (hc : c ∈ o.classes) : c.candidate ∈ found items := by
  have hmem : (c.candidate, c.tokens) ∈ (found items).map fun c => (c, codeOf config c) :=
    (classes_of_ofItems h).1 ▸ List.mem_map_of_mem hc
  obtain ⟨candidate, hfound, e⟩ := List.mem_map.1 hmem
  have hcandidates : candidate = c.candidate := congrArg Prod.fst e
  rwa [hcandidates] at hfound

/-- The code of the classes that a scope declares. -/
def ownCode (config : Config) (s : Scope) : List (List Token) := s.classes.map (codeOf config)

/-- The code of all classes with the names of modules around them that a scope has. -/
def namesakeCode (config : Config) (items : List Item) (s : Scope) : List (List Token) :=
  (s.namesakes items).map (codeOf config)

/-- The code of classes is found by the names of modules. -/
theorem placed_eq {o : UnitOutput} (h : o.classes.map (fun o => (o.candidate, o.tokens)) =
    (found items).map fun c => (c, codeOf config c)) :
    codeAt (placed o) = namesakeCode config items := by
  have hplaced : placed o = (found items).map fun c => (c.modules, codeOf config c) := by
    have := congrArg (List.map fun p : Candidate × List Token => (p.1.modules, p.2)) h
    rw [List.map_map, List.map_map] at this
    exact this
  funext s
  rw [codeAt, hplaced, List.filter_map, List.map_map, namesakeCode, Scope.namesakes]
  congr 1
  exact List.filter_congr fun c _ => beq_eq_decide c.modules s.modules

/-- A module with code at the ends of its scopes and without markers, and the violations in it. -/
def expanded (head : ModuleHead) (items : List Item) (code : Scope → List (List Token))
    (ds : List Diagnostic) : List Token :=
  (Item.toCode (.module head (withCode code items))).withoutMarkers.toTokens ++ compileErrors ds

theorem expanded_eq_iff (hcode : ∀ c ∈ found items, codeOf config c ≠ []) (head : ModuleHead)
    (ds : List Diagnostic) :
    expanded head items (namesakeCode config items) ds =
        expanded head items (ownCode config) ds ↔ Separate (scopes items) := by
  rw [expanded, expanded, List.append_left_inj, tokens_withCode_iff]
  constructor
  · exact separate_of_code hcode
  · intro h s hs
    rw [namesakeCode, ownCode, namesakes_of_separate h hs]

/-- Code is placed by the names of modules. -/
theorem eq_expanded {head : ModuleHead} {out : List Token}
    (h : ofModule config ⟨head, some items⟩ = .ok out) :
    ∃ o, UnitOutput.ofItems config items = .ok o ∧
      out = expanded head items (namesakeCode config items) (diagnostics o) := by
  obtain ⟨o, ho, hout⟩ := bind_eq_ok_iff.1 h
  obtain ⟨hmap, -⟩ := classes_of_ofItems ho
  refine ⟨o, ho, ?_⟩
  rw [expanded, ← placed_eq hmap, ← extend_eq]
  exact (Except.ok.inj hout).symm

/-- The classes that are found in a module are those that its scopes declare, in the same order, and
the code of each is appended to all scopes that have the names of modules that the class has. This
is done to the scope of the class alone if and only if scopes of the same names declare nothing. -/
theorem placement {head : ModuleHead} {out : List Token}
    (h : ofModule config ⟨head, some items⟩ = .ok out) :
    ∃ o, UnitOutput.ofItems config items = .ok o ∧
      o.classes.map (fun o => (o.candidate, o.tokens)) =
        (found items).map (fun c => (c, codeOf config c)) ∧
      (found items).Perm ((scopes items).flatMap (·.classes)) ∧
      (∀ s ∈ scopes items, s.classes.Sublist (found items)) ∧
      out = expanded head items (namesakeCode config items) (diagnostics o) ∧
      (out = expanded head items (ownCode config) (diagnostics o) ↔ Separate (scopes items)) := by
  obtain ⟨o, ho, hout⟩ := eq_expanded h
  obtain ⟨hmap, hcode⟩ := classes_of_ofItems ho
  refine ⟨o, ho, hmap, perm_scopes items, fun s hs => sublist_found hs, hout, ?_⟩
  rw [hout]
  exact expanded_eq_iff hcode head _

/-! ## Two modules in a module -/

/-- An attribute that makes the code under it depend on a condition. -/
def conditional (condition : List Token) : Attribute :=
  ⟨⟨false, ⟨false, [.plain "cfg"]⟩, .list .parenthesis condition⟩, .empty⟩

/-- A class without properties. -/
def bareClass (name : String) : Item :=
  .struct ⟨[modelMarker []], .inherited, .plain name, .empty, .named []⟩

/-- A module for one platform, and one for all others. -/
def platformModules (unix others : String) (items items' : List Item) : List Item :=
  [.module ⟨[conditional [.word (.plain "unix")]], .empty, .plain unix⟩ items,
    .module ⟨[conditional [.word (.plain "not"), .group .parenthesis [.word (.plain "unix")]]],
      .empty, .plain others⟩ items']

/-- Two modules with classes of their own in a module. -/
theorem ofModule_unix_others :
    ∃ out, ofModule {} ⟨⟨[], .empty, .plain "models"⟩,
      some (platformModules "unix" "others" [bareClass "A"] [bareClass "A"])⟩ = .ok out :=
  ⟨_, rfl⟩

theorem placement_unix_others :
    let head : ModuleHead := ⟨[], .empty, .plain "models"⟩
    let items := platformModules "unix" "others" [bareClass "A"] [bareClass "A"]
    ∃ out o, ofModule {} ⟨head, some items⟩ = .ok out ∧ UnitOutput.ofItems {} items = .ok o ∧
      out = expanded head items (ownCode {}) (diagnostics o) := by
  intro head items
  obtain ⟨out, hout⟩ := ofModule_unix_others
  obtain ⟨o, ho, -, -, -, -, hown⟩ := placement hout
  exact ⟨out, o, hout, ho, hown.2 (by decide)⟩

/-- Two modules of the same name, one without classes, in a module. -/
theorem ofModule_twins :
    ∃ out, ofModule {} ⟨⟨[], .empty, .plain "models"⟩,
      some (platformModules "a" "a" [bareClass "A"] [])⟩ = .ok out :=
  ⟨_, rfl⟩

/-- Code is not always appended to the scope of its class alone. -/
theorem not_forall_placed :
    ¬ ∀ (config : Config) (head : ModuleHead) (items : List Item) (out : List Token),
      ofModule config ⟨head, some items⟩ = .ok out →
        ∃ o, UnitOutput.ofItems config items = .ok o ∧
          out = expanded head items (ownCode config) (diagnostics o) := by
  intro h
  obtain ⟨out, hout⟩ := ofModule_twins
  obtain ⟨o, ho, hown⟩ := h {} _ _ out hout
  obtain ⟨o', ho', hnamesakes⟩ := eq_expanded hout
  obtain rfl : o = o' := Except.ok.inj (ho.symm.trans ho')
  obtain ⟨-, hcode⟩ := classes_of_ofItems ho
  have hseparate := (expanded_eq_iff hcode _ _).1 (hnamesakes.symm.trans hown)
  exact absurd hseparate (by decide)

end ReactiveModel.Expansion
