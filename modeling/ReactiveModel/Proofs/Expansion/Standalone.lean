import ReactiveModel.Proofs.Expansion.Placement
import ReactiveModel.Proofs.Generation.Unit

/-!
# A struct by itself and in a module

A struct that is expanded by itself is marked first, as it would be in a module that holds nothing
else. Either way the struct is left without its markers, the code of its class follows it, and the
violations are shown after all else (`standalone_agrees`). Only a name that no identifier spells
keeps both from being expanded.
-/

namespace ReactiveModel.Expansion

open Candidate

/-! ## The marker in front -/

/-- A struct with the marker of a model in front of its attributes. -/
def marked (arguments : List Token) (s : Struct) : Struct :=
  { s with attributes := modelMarker arguments :: s.attributes }

/-- The marker of a model as it is written: without parentheses if there are no arguments. -/
def markerTokens (arguments : List Token) : List Token :=
  [.mark '#' .alone, .group .bracket (.word (.plain "reactive_model") ::
    if arguments.isEmpty then [] else [.group .parenthesis arguments])]

section Marker

variable (arguments : List Token) (s : Struct)

theorem outer_marked (site : Site) :
    Attribute.outer site (marked arguments s).attributes =
      .seq ((modelMarker arguments).toCode site ::
        (s.attributes.filter (!·.head.inner)).map (Attribute.toCode site)) := rfl

theorem toTokens_modelMarker (site : Site) :
    ((modelMarker arguments).toCode site).toTokens = markerTokens arguments := by
  unfold modelMarker markerTokens
  cases arguments with
  | nil => rfl
  | cons t ts => rfl

theorem toTokens_marked :
    (marked arguments s).toCode.toTokens = markerTokens arguments ++ s.toCode.toTokens := by
  have hmarker := toTokens_modelMarker arguments (.type s.name)
  unfold Struct.toCode
  rw [outer_marked, Code.toTokens, Code.listTokens, Code.toTokens, Code.listTokens]
  show (((modelMarker arguments).toCode (.type s.name)).toTokens ++ _) ++ _ = _
  rw [hmarker, List.append_assoc]
  rfl

/-- The marker is taken off again, whatever its arguments are. -/
theorem withoutMarkers_modelMarker (name : Ident) :
    ((modelMarker arguments).toCode (.type name)).withoutMarkers = .empty := by
  have hremoved : Code.isRemoved (.type name) (modelMarker arguments).head = true := by
    unfold Code.isRemoved modelMarker
    rw [decide_eq_true (by simp), Bool.true_and]
    rfl
  rw [Attribute.toCode, Code.withoutMarkers, hremoved, if_pos rfl]

theorem toTokens_marked_withoutMarkers :
    (marked arguments s).toCode.withoutMarkers.toTokens = s.toCode.withoutMarkers.toTokens := by
  have hmarker := withoutMarkers_modelMarker arguments s.name
  unfold Struct.toCode
  rw [outer_marked, Code.withoutMarkers, Code.listWithoutMarkers, Code.withoutMarkers,
    Code.listWithoutMarkers]
  show Code.toTokens (.seq (.seq (Code.withoutMarkers
    ((modelMarker arguments).toCode (.type s.name)) :: _) :: _)) = _
  rw [hmarker]
  rfl

end Marker

/-! ## The module around the struct -/

theorem toTokens_plainModule (name : String) (items : List Item) :
    (Item.toCode (.module (plainModule name) items)).toTokens =
      plainModuleTokens name (Code.listTokens (Item.listCode items)) := by
  simp [Item.toCode, ModuleHead.toCode, plainModule, plainModuleTokens, Code.toTokens,
    Code.listTokens, Attribute.outer, Attribute.inner, Code.keyword, Code.ident, Code.empty]

theorem toTokens_plainModule_withoutMarkers (name : String) (items : List Item) :
    (Item.toCode (.module (plainModule name) items)).withoutMarkers.toTokens =
      plainModuleTokens name (tokensOf items) := by
  simp [Item.toCode, ModuleHead.toCode, plainModule, plainModuleTokens, tokensOf, Code.toTokens,
    Code.listTokens, Code.withoutMarkers, Code.listWithoutMarkers, Attribute.outer,
    Attribute.inner, Code.keyword, Code.ident, Code.empty]

/-- The module is written with the marker and its arguments before the struct. -/
theorem toTokens_module_marked (name : String) (arguments : List Token) (s : Struct) :
    (Item.toCode (.module (plainModule name) [.struct (marked arguments s)])).toTokens =
      plainModuleTokens name (markerTokens arguments ++ s.toCode.toTokens) := by
  rw [← toTokens_marked, toTokens_plainModule, Item.listCode, Item.listCode, Code.listTokens,
    Code.listTokens, List.append_nil, Item.toCode]

variable {config : Config} {s : Struct} {o : UnitOutput}

theorem modules_of_mem_classes (h : UnitOutput.ofItems config [.struct s] = .ok o) {c : ClassOutput}
    (hc : c ∈ o.classes) : c.candidate.modules = [] := by
  have hfound := candidate_mem_found h hc
  rw [found, find, ofItems, ofItems, List.append_nil] at hfound
  have hdeclared : c.candidate ∈ declaredBy [] [.struct s] (.struct s) := hfound
  exact modules_of_mem_declaredBy hdeclared

/-- The code of a struct outside of modules is appended to the items that it stands among. -/
theorem extend_struct (h : UnitOutput.ofItems config [.struct s] = .ok o) :
    extend (placed o) [.struct s] = .struct s :: written (o.classes.map (·.tokens)) := by
  have hplaced : (placed o).filter (·.1 == []) = placed o := by
    refine List.filter_eq_self.2 fun p hp => ?_
    obtain ⟨c, hc, rfl⟩ := List.mem_map.1 hp
    rw [modules_of_mem_classes h hc]
    rfl
  rw [extend, additions, hplaced, placed, List.map_map, written, List.map_map]
  rfl

/-! ## Both expansions -/

/-- What is left of a struct without markers, and the code of its class after it. -/
def body (s : Struct) (o : UnitOutput) : List Token :=
  s.toCode.withoutMarkers.toTokens ++ o.classes.flatMap (·.tokens)

theorem ofStruct_eq (config : Config) (arguments : List Token) (s : Struct) :
    ofStruct config arguments s =
      (UnitOutput.ofItems config [.struct (marked arguments s)]).map fun o =>
        body s o ++ compileErrors (diagnostics o) := by
  have hstruct : (marked arguments s).toCode.withoutMarkers.toTokens =
      s.toCode.withoutMarkers.toTokens := toTokens_marked_withoutMarkers arguments s
  unfold ofStruct body
  rw [← hstruct]
  cases h : UnitOutput.ofItems config [.struct (marked arguments s)] with
  | error e => exact congrArg (· >>= _) h
  | ok o => exact congrArg (· >>= _) h

theorem ofModule_eq (config : Config) (name : String) (arguments : List Token) (s : Struct) :
    ofModule config ⟨plainModule name, some [.struct (marked arguments s)]⟩ =
      (UnitOutput.ofItems config [.struct (marked arguments s)]).map fun o =>
        plainModuleTokens name (body s o) ++ compileErrors (diagnostics o) := by
  unfold ofModule
  dsimp only
  cases h : UnitOutput.ofItems config [.struct (marked arguments s)] with
  | error e => rfl
  | ok o =>
    have hmodule : (Item.toCode (.module (plainModule name)
        (extend (placed o) [.struct (marked arguments s)]))).withoutMarkers.toTokens =
          plainModuleTokens name (body s o) := by
      rw [toTokens_plainModule_withoutMarkers, extend_struct h, tokensOf_cons, tokensOf_written,
        Item.toCode, toTokens_marked_withoutMarkers, ← List.flatMap_def]
      rfl
    exact congrArg (fun tokens => Except.ok (tokens ++ compileErrors (diagnostics o))) hmodule

/-- A struct by itself is expanded to just what a module that holds it alone, under the marker with
the same arguments, has in it when it is expanded: the struct without its markers, and the code of
its class if there is one. The same violations are shown after both. They are expanded if the names
of all fields that are marked can be spelled. -/
theorem standalone_agrees (config : Config) (name : String) (arguments : List Token)
    (s : Struct) :
    let items : List Item := [.struct (marked arguments s)]
    let unit := UnitOutput.ofItems config items
    ofStruct config arguments s =
        unit.map (fun o => body s o ++ compileErrors (diagnostics o)) ∧
      ofModule config ⟨plainModule name, some items⟩ =
        unit.map (fun o => plainModuleTokens name (body s o) ++ compileErrors (diagnostics o)) ∧
      (Item.toCode (.module (plainModule name) items)).toTokens =
        plainModuleTokens name (markerTokens arguments ++ s.toCode.toTokens) ∧
      ((∃ o, unit = .ok o) ↔ ∀ c ∈ found items,
        ∃ r, Resolution.fields config c.qualifiedName c.members.1.fields = .ok r) :=
  ⟨ofStruct_eq config arguments s, ofModule_eq config name arguments s,
    toTokens_module_marked name arguments s, UnitOutput.exists_ofItems_iff⟩

end ReactiveModel.Expansion
