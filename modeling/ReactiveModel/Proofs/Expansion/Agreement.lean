import ReactiveModel.Proofs.Class.Violation
import ReactiveModel.Proofs.Expansion.Placement
import ReactiveModel.Proofs.Generation.Unit

/-!
# Files and modules with the same items

A file and a module with the same items are processed alike. What is generated from the file and
what the module is expanded to have the same code for each class and the same violations, except
that code is checked in a file only: where it cannot be read again it is left out, and reported
(`generate_agrees`).
-/

namespace ReactiveModel

open Candidate

variable {config : Config} {text : String} {items : List Item}

/-! ## Kinds of violations -/

namespace Candidate

variable {d : Diagnostic}

theorem kind_mem_of_mem_ofOther {modules : List String} {t : OtherType} {what : String}
    (h : d ∈ violations (ofOther modules t what)) :
    d.kind ∈ [DiagnosticKind.unsupportedDeclaration, .malformedMarker] := by
  unfold ofOther at h
  split at h
  · cases h
  · rw [List.mem_singleton.1 h]
    simp

theorem kind_mem_of_mem_ofStruct {modules : List String} {items : List Item} {s : Struct}
    (h : d ∈ violations (ofStruct modules items s)) :
    d.kind ∈ [DiagnosticKind.unsupportedDeclaration, .malformedMarker] := by
  unfold ofStruct at h
  split at h
  · split at h
    · cases h
    · rw [List.mem_singleton.1 h]
      simp
  · rw [List.mem_singleton.1 h]
    simp
  · cases h

theorem violations_append (fs gs : List Finding) :
    violations (fs ++ gs) = violations fs ++ violations gs := List.filterMap_append

mutual

theorem kind_mem_of_mem_ofItem (modules : List String) (items : List Item) : ∀ item : Item,
    ∀ d ∈ violations (ofItem modules items item),
      d.kind ∈ [DiagnosticKind.unsupportedDeclaration, .malformedMarker]
  | .struct _, _, h => kind_mem_of_mem_ofStruct h
  | .enum _, _, h => kind_mem_of_mem_ofOther h
  | .union _, _, h => kind_mem_of_mem_ofOther h
  | .module _ inner, d, h => kind_mem_of_mem_ofItems _ inner inner d h

theorem kind_mem_of_mem_ofItems (modules : List String) (items : List Item) :
    ∀ rest : List Item, ∀ d ∈ violations (ofItems modules items rest),
      d.kind ∈ [DiagnosticKind.unsupportedDeclaration, .malformedMarker]
  | item :: rest, d, h => by
    rw [ofItems, violations_append] at h
    rcases List.mem_append.1 h with h | h
    · exact kind_mem_of_mem_ofItem modules items item d h
    · exact kind_mem_of_mem_ofItems modules items rest d h

end

end Candidate

/-! ## The violations of a file -/

namespace ClassOutput

/-- A class is left out of a file only with a violation of a kind that no stage before has. -/
theorem filter_diagnostics {c : ClassOutput} (h : c.candidate.analyse config = .ok c.analysis) :
    c.diagnostics.filter (·.kind ≠ .emissionFailed) = c.analysis.diagnostics := by
  have hbefore : c.analysis.diagnostics.filter (·.kind ≠ .emissionFailed) =
      c.analysis.diagnostics :=
    List.filter_eq_self.2 fun d hd => decide_eq_true (Analysis.kind_ne_emissionFailed h hd)
  have hafter :
      (c.failure?.map c.emissionFailed).toList.filter (·.kind ≠ .emissionFailed) = [] := by
    cases c.failure? with
    | none => rfl
    | some e => rfl
  rw [diagnostics, List.filter_append, hbefore, hafter, List.append_nil]

end ClassOutput

namespace Expansion

/-- The violations that are shown for a module are those of the file without those of code. -/
theorem filter_diagnostics {o : UnitOutput} (h : UnitOutput.ofItems config items = .ok o) :
    o.result.diagnostics.filter (·.kind ≠ .emissionFailed) = diagnostics o := by
  have hfindings : o.findings = find items := by
    obtain ⟨os, -, h⟩ := bind_eq_ok_iff.1 h
    cases h
    rfl
  have hscanned : o.scanned.filter (·.kind ≠ .emissionFailed) = o.scanned := by
    refine List.filter_eq_self.2 fun d hd => decide_eq_true fun e => ?_
    rw [UnitOutput.scanned, hfindings] at hd
    have hkind := kind_mem_of_mem_ofItems [] items items d hd
    rw [e] at hkind
    exact absurd hkind (by decide)
  have hraised : o.raised.filter (·.kind ≠ .emissionFailed) =
      o.classes.flatMap (·.analysis.diagnostics) := by
    rw [UnitOutput.raised, List.filter_flatMap]
    exact List.flatMap_congr fun c hc =>
      ClassOutput.filter_diagnostics (UnitOutput.analyse_of_mem_classes h hc)
  rw [UnitOutput.result_diagnostics, List.filter_append, hscanned, hraised, diagnostics,
    UnitOutput.scanned]

/-! ## The classes of a file -/

/-- Whether tokens can be read again as items. -/
def isReadable (tokens : List Token) : Bool :=
  (Grammar.readTokens Grammar.fileItems tokens).isOk

theorem isNone_failure? (o : ClassOutput) : o.failure?.isNone = isReadable o.tokens := by
  unfold ClassOutput.failure? isReadable
  cases Grammar.readTokens Grammar.fileItems o.tokens with
  | ok items => rfl
  | error e => rfl

/-- The class of a file with the text of its code. -/
def generated (config : Config) (c : Candidate) : GeneratedClass :=
  ⟨c.qualifiedName, Token.render (codeOf config c)⟩

/-- The classes of a file are those that are found in it whose code can be read again. -/
theorem result_classes {o : UnitOutput} (h : UnitOutput.ofItems config items = .ok o) :
    o.result.classes =
      ((found items).filter fun c => isReadable (codeOf config c)).map (generated config) := by
  obtain ⟨hmap, -⟩ := classes_of_ofItems h
  let kept (ps : List (Candidate × List Token)) : List GeneratedClass :=
    (ps.filter fun p => isReadable p.2).map fun p => ⟨p.1.qualifiedName, Token.render p.2⟩
  calc o.result.classes = kept (o.classes.map fun o => (o.candidate, o.tokens)) := by
        simp only [kept, UnitOutput.result, List.filter_map, List.map_map, isNone_failure?]
        rfl
    _ = kept ((found items).map fun c => (c, codeOf config c)) := by rw [hmap]
    _ = _ := by
        simp only [kept, List.filter_map, List.map_map]
        rfl

theorem separate_of_nodup {scopes : List Scope} (h : (scopes.map (·.modules)).Nodup) :
    Separate scopes :=
  (List.pairwise_map.1 h).imp fun hne e => absurd e hne

/-- If all names of members can be spelled and no two modules have the same names around them, code
is generated from a file, and a module with the same items is expanded. The violations that are
shown after the module are those of the file, except for those of code that cannot be read again;
and the code of each class, at the end of the scope that declares the class, has the text that the
class has in the file, if it is kept there. Both have the classes in the same order. -/
theorem generate_agrees (config : Config) (head : ModuleHead)
    (hread : Grammar.readUnit text = .ok items)
    (hnames : ∀ c ∈ found items,
      ∃ r, Resolution.fields config c.qualifiedName c.members.1.fields = .ok r)
    (hpaths : ((scopes items).map (·.modules)).Nodup) :
    ∃ unit, generate config text = .ok unit ∧
      ofModule config ⟨head, some items⟩ = .ok (expanded head items (ownCode config)
        (unit.diagnostics.filter (·.kind ≠ .emissionFailed))) ∧
      unit.classes =
        ((found items).filter fun c => isReadable (codeOf config c)).map (generated config) ∧
      (found items).Perm ((scopes items).flatMap (·.classes)) ∧
      ∀ s ∈ scopes items, s.classes.Sublist (found items) := by
  obtain ⟨o, ho⟩ := UnitOutput.exists_ofItems_iff.2 hnames
  obtain ⟨out, hout⟩ : ∃ out, ofModule config ⟨head, some items⟩ = .ok out :=
    ⟨_, bind_eq_ok_iff.2 ⟨o, ho, rfl⟩⟩
  obtain ⟨o', ho', hplaced⟩ := eq_expanded hout
  obtain rfl : o = o' := Except.ok.inj (ho.symm.trans ho')
  have hown : out = expanded head items (ownCode config) (diagnostics o) :=
    hplaced.trans ((expanded_eq_iff (classes_of_ofItems ho).2 head _).2 (separate_of_nodup hpaths))
  refine ⟨o.result, (generate_eq_ok_iff hread).2 ⟨o, ho, rfl⟩, ?_, result_classes ho,
    perm_scopes items, fun s hs => sublist_found hs⟩
  rw [filter_diagnostics ho, hout, hown]

/-- A model, an enum that is marked as one, and a model in a module. -/
def mixedText : String :=
  "#[reactive_model] struct A { } #[reactive_model] enum E { } mod b { #[reactive_model] struct B { } }"

/-- The items of the file. -/
def mixedItems : List Item :=
  [.struct (bareModel "A"),
    .enum ⟨(bareModel "E").attributes, .plain "E",
      .seq [.empty, .keyword "enum", .ident (.plain "E"), .empty, .empty,
        .group .brace (.seq [])]⟩,
    .module (plainModule "b") [.struct (bareModel "B")]]

set_option maxRecDepth 10000 in
theorem readUnit_mixed : Grammar.readUnit mixedText = .ok mixedItems :=
  Grammar.readUnit_eq_ok (bareModelTokens "struct" "A" ++ bareModelTokens "enum" "E" ++
    plainModuleTokens "b" (bareModelTokens "struct" "B")) rfl rfl

theorem generate_agrees_mixed :
    ∃ unit, generate {} mixedText = .ok unit ∧
      ofModule {} ⟨plainModule "m", some mixedItems⟩ =
        .ok (expanded (plainModule "m") mixedItems (ownCode {})
          (unit.diagnostics.filter (·.kind ≠ .emissionFailed))) := by
  have hnames : ∀ c ∈ found mixedItems,
      ∃ r, Resolution.fields {} c.qualifiedName c.members.1.fields = .ok r := by
    intro c hc
    change c ∈ [_, _] at hc
    rcases List.mem_pair.1 hc with rfl | rfl
    · exact ⟨_, rfl⟩
    · exact ⟨_, rfl⟩
  obtain ⟨unit, hunit, hout, -⟩ :=
    generate_agrees {} (plainModule "m") readUnit_mixed hnames (by decide)
  exact ⟨unit, hunit, hout⟩

end Expansion

end ReactiveModel
