import Mathlib.Data.List.Forall2
import ReactiveModel.Generation
import ReactiveModel.Proofs.Class.Scope
import ReactiveModel.Proofs.Property.Resolution

/-!
# What a file yields

A file yields what is found in it, in order: its violations, and the output of each class. So it is
made of what the pieces of the file yield (`UnitOutput.ofFindings_append_eq_ok_iff`). Only a name
that no identifier spells keeps a file that can be read from yielding anything
(`exists_generate_iff`).
-/

namespace ReactiveModel

variable {config : Config} {text : String} {items : List Item}

/-! ## Reading -/

/-- A text is read in two steps, by its tokens. -/
theorem Grammar.readUnit_eq_ok (ts : List Token)
    (hlex : Lexer.lex (String.ofList (afterShebang (Lexer.withoutByteOrderMark text.toList))) =
      some ts)
    (hread : readTokens fileItems ts = .ok items) : readUnit text = .ok items := by
  rw [readUnit, read, hlex]
  exact hread

theorem Grammar.readModule_eq_ok (ts : List Token) {m : Module} (hlex : Lexer.lex text = some ts)
    (hread : readTokens (fun r => do module r (← outerAttributes r) (← visibility)) ts = .ok m) :
    readModule text = .ok m := by
  rw [readModule, read, hlex]
  exact hread

theorem generate_of_readUnit (h : Grammar.readUnit text = .ok items) :
    generate config text = ((UnitOutput.ofItems config items).mapError
      GenerationError.unspellable).map UnitOutput.result := by
  unfold generate UnitOutput.ofSource
  simp only [h]

theorem generate_eq_ok_iff (h : Grammar.readUnit text = .ok items) {u : GeneratedUnit} :
    generate config text = .ok u ↔ ∃ o, UnitOutput.ofItems config items = .ok o ∧ o.result = u := by
  rw [generate_of_readUnit h]
  cases UnitOutput.ofItems config items with
  | error e => simp [Except.mapError, Except.map]
  | ok o => simp [Except.mapError, Except.map]

/-! ## Units that are generated -/

section Pointwise

variable {ε α β : Type} {f : α → Except ε β} {l l' : List α} {bs : List β}

/-- A list is processed by processing each element of it. -/
theorem mapM_eq_ok_iff : l.mapM f = .ok bs ↔ List.Forall₂ (fun a b => f a = .ok b) l bs := by
  induction l generalizing bs with
  | nil =>
    rw [List.mapM_nil, List.forall₂_nil_left_iff]
    exact ⟨fun h => (Except.ok.inj h).symm, fun h => congrArg Except.ok h.symm⟩
  | cons a l ih =>
    rw [List.mapM_cons, List.forall₂_cons_left_iff]
    constructor
    · intro h
      obtain ⟨b, hb, h⟩ := bind_eq_ok_iff.1 h
      obtain ⟨bs', hbs, h⟩ := bind_eq_ok_iff.1 h
      exact ⟨b, bs', hb, ih.1 hbs, (Except.ok.inj h).symm⟩
    · rintro ⟨b, bs', hb, hbs, rfl⟩
      exact bind_eq_ok_iff.2 ⟨b, hb, bind_eq_ok_iff.2 ⟨bs', ih.2 hbs, rfl⟩⟩

theorem exists_mapM_eq_ok_iff : (∃ bs, l.mapM f = .ok bs) ↔ ∀ a ∈ l, ∃ b, f a = .ok b := by
  simp only [mapM_eq_ok_iff]
  induction l with
  | nil => simp
  | cons a l ih =>
    rw [List.forall_mem_cons, ← ih]
    constructor
    · rintro ⟨_, h⟩
      cases h with
      | cons hb hbs => exact ⟨⟨_, hb⟩, _, hbs⟩
    · rintro ⟨⟨b, hb⟩, bs, hbs⟩
      exact ⟨b :: bs, .cons hb hbs⟩

theorem exists_of_mem_mapM_eq_ok (h : l.mapM f = .ok bs) {b : β} (hb : b ∈ bs) :
    ∃ a ∈ l, f a = .ok b := by
  rw [mapM_eq_ok_iff] at h
  induction h with
  | nil => cases hb
  | @cons a b' l bs hhead _ ih =>
    rcases List.mem_cons.1 hb with rfl | hb
    · exact ⟨a, List.mem_cons_self, hhead⟩
    · obtain ⟨a', ha', hf⟩ := ih hb
      exact ⟨a', List.mem_cons_of_mem _ ha', hf⟩

theorem mapM_append_eq_ok_iff : (l ++ l').mapM f = .ok bs ↔
    ∃ xs ys, l.mapM f = .ok xs ∧ l'.mapM f = .ok ys ∧ bs = xs ++ ys := by
  rw [List.mapM_append, bind_eq_ok_iff]
  refine exists_congr fun xs => ?_
  rw [bind_eq_ok_iff]
  constructor
  · rintro ⟨hxs, ys, hys, h⟩
    cases h
    exact ⟨ys, hxs, hys, rfl⟩
  · rintro ⟨ys, hxs, hys, rfl⟩
    exact ⟨hxs, ys, hys, rfl⟩

end Pointwise

namespace ClassOutput

variable {c : Candidate} {o : ClassOutput}

/-- Only the resolution of its fields keeps a class from being processed. -/
theorem exists_ofCandidate_iff : (∃ o, ofCandidate config c = .ok o) ↔
    ∃ r, Resolution.fields config c.qualifiedName c.members.1.fields = .ok r := by
  unfold ofCandidate Candidate.analyse
  constructor
  · rintro ⟨o, h⟩
    obtain ⟨a, h, -⟩ := bind_eq_ok_iff.1 h
    obtain ⟨r, hr, -⟩ := bind_eq_ok_iff.1 h
    exact ⟨r, hr⟩
  · rintro ⟨r, hr⟩
    exact ⟨_, bind_eq_ok_iff.2 ⟨_, bind_eq_ok_iff.2 ⟨r, hr, rfl⟩, rfl⟩⟩

theorem candidate_of_ofCandidate (h : ofCandidate config c = .ok o) : o.candidate = c := by
  obtain ⟨a, -, e⟩ := bind_eq_ok_iff.1 h
  cases e
  rfl

theorem analyse_of_ofCandidate (h : ofCandidate config c = .ok o) :
    c.analyse config = .ok o.analysis := by
  obtain ⟨a, ha, e⟩ := bind_eq_ok_iff.1 h
  cases e
  exact ha

theorem tokens_of_ofCandidate (h : ofCandidate config c = .ok o) :
    o.tokens = Emission.source config o.analysis.reactiveClass := by
  obtain ⟨a, -, e⟩ := bind_eq_ok_iff.1 h
  cases e
  rfl

end ClassOutput

theorem UnitOutput.exists_ofItems_iff :
    (∃ o, UnitOutput.ofItems config items = .ok o) ↔
      ∀ c ∈ Candidate.found items,
        ∃ r, Resolution.fields config c.qualifiedName c.members.1.fields = .ok r := by
  simp only [← ClassOutput.exists_ofCandidate_iff, ← exists_mapM_eq_ok_iff]
  constructor
  · rintro ⟨o, h⟩
    obtain ⟨os, hos, -⟩ := bind_eq_ok_iff.1 h
    exact ⟨os, hos⟩
  · rintro ⟨os, hos⟩
    exact ⟨_, bind_eq_ok_iff.2 ⟨os, hos, rfl⟩⟩

/-- Code is generated from a file that can be read if and only if the fields of each class in it
are resolved. -/
theorem exists_generate_iff (h : Grammar.readUnit text = .ok items) :
    (∃ u, generate config text = .ok u) ↔
      ∀ c ∈ Candidate.among (Candidate.find items),
        ∃ r, Resolution.fields config c.qualifiedName c.members.1.fields = .ok r := by
  simp only [generate_eq_ok_iff h]
  constructor
  · rintro ⟨-, o, ho, -⟩
    exact UnitOutput.exists_ofItems_iff.1 ⟨o, ho⟩
  · intro hfields
    obtain ⟨o, ho⟩ := UnitOutput.exists_ofItems_iff.2 hfields
    exact ⟨_, o, ho, rfl⟩

/-! ## Findings one after the other -/

namespace UnitOutput

variable {o : UnitOutput} {c : ClassOutput}

theorem ofCandidate_of_mem_classes (h : ofItems config items = .ok o) (hc : c ∈ o.classes) :
    ClassOutput.ofCandidate config c.candidate = .ok c := by
  obtain ⟨os, hos, h⟩ := bind_eq_ok_iff.1 h
  cases h
  obtain ⟨candidate, -, hcandidate⟩ := exists_of_mem_mapM_eq_ok hos hc
  rwa [ClassOutput.candidate_of_ofCandidate hcandidate]

theorem analyse_of_mem_classes (h : ofItems config items = .ok o) (hc : c ∈ o.classes) :
    c.candidate.analyse config = .ok c.analysis :=
  ClassOutput.analyse_of_ofCandidate (ofCandidate_of_mem_classes h hc)

theorem tokens_of_mem_classes (h : ofItems config items = .ok o) (hc : c ∈ o.classes) :
    c.tokens = Emission.source config c.analysis.reactiveClass :=
  ClassOutput.tokens_of_ofCandidate (ofCandidate_of_mem_classes h hc)

/-- Processes what has been found in a file or in a piece of one. -/
def ofFindings (config : Config) (fs : List Candidate.Finding) : Except Unspellable UnitOutput := do
  return ⟨fs, ← (Candidate.among fs).mapM (ClassOutput.ofCandidate config)⟩

instance : Append UnitOutput := ⟨fun o o' => ⟨o.findings ++ o'.findings, o.classes ++ o'.classes⟩⟩

theorem ofFindings_append_eq_ok_iff {fs gs : List Candidate.Finding} {o : UnitOutput} :
    ofFindings config (fs ++ gs) = .ok o ↔
      ∃ a b, ofFindings config fs = .ok a ∧ ofFindings config gs = .ok b ∧ o = a ++ b := by
  unfold ofFindings
  rw [Candidate.among_append]
  constructor
  · intro h
    obtain ⟨os, hos, h⟩ := bind_eq_ok_iff.1 h
    obtain ⟨xs, ys, hxs, hys, rfl⟩ := mapM_append_eq_ok_iff.1 hos
    cases h
    exact ⟨⟨fs, xs⟩, ⟨gs, ys⟩, bind_eq_ok_iff.2 ⟨xs, hxs, rfl⟩,
      bind_eq_ok_iff.2 ⟨ys, hys, rfl⟩, rfl⟩
  · rintro ⟨a, b, ha, hb, rfl⟩
    obtain ⟨xs, hxs, ha⟩ := bind_eq_ok_iff.1 ha
    obtain ⟨ys, hys, hb⟩ := bind_eq_ok_iff.1 hb
    cases ha
    cases hb
    exact bind_eq_ok_iff.2 ⟨xs ++ ys, mapM_append_eq_ok_iff.2 ⟨xs, ys, hxs, hys, rfl⟩, rfl⟩

/-- The violations that are found before any class is processed. -/
def scanned (o : UnitOutput) : List Diagnostic := Candidate.violations o.findings

/-- The violations that are raised while the classes are processed. -/
def raised (o : UnitOutput) : List Diagnostic := o.classes.flatMap ClassOutput.diagnostics

variable (o o' : UnitOutput)

theorem result_diagnostics : o.result.diagnostics = o.scanned ++ o.raised := rfl

theorem result_classes_append :
    (o ++ o').result.classes = o.result.classes ++ o'.result.classes := by
  change ((o.classes ++ o'.classes).filter _).map _ = (o.classes.filter _).map _ ++ _
  rw [List.filter_append, List.map_append]
  rfl

theorem scanned_append : (o ++ o').scanned = o.scanned ++ o'.scanned := List.filterMap_append

theorem raised_append : (o ++ o').raised = o.raised ++ o'.raised := List.flatMap_append

end UnitOutput

/-! ## A model as it is written -/

/-- A model without fields. -/
def bareModel (name : String) : Struct :=
  ⟨[⟨⟨false, ⟨false, [.plain "reactive_model"]⟩, .none⟩, .empty⟩], .inherited, .plain name,
    .empty, .named []⟩

/-- The tokens of a model without fields, or of an enum in its place. -/
def bareModelTokens (keyword name : String) : List Token :=
  [.mark '#' .alone, .group .bracket [.word (.plain "reactive_model")],
    .word (.plain keyword), .word (.plain name), .group .brace []]

/-- A module without attributes and visibility. -/
def plainModule (name : String) : ModuleHead := ⟨[], .seq [.empty, .empty], .plain name⟩

/-- The tokens of a module around others. -/
def plainModuleTokens (name : String) (items : List Token) : List Token :=
  [.word (.plain "mod"), .word (.plain name), .group .brace items]

end ReactiveModel
