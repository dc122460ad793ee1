import Mathlib.Data.List.Forall2
import ReactiveModel.Proofs.Class.Relaxed
import ReactiveModel.Proofs.Expansion.Agreement

/-!
# Cycles and the code of classes

Whether cycles are allowed is asked last of all, when a class is analysed already. So the policy of
the configuration and the marker of a class decide which violations about cycles are reported, and
nothing else: two runs over the same file with different policies, and two runs over files that
differ in markers alone, give the same code and the same other violations
(`cycles_change_no_code`).
-/

namespace ReactiveModel

open Candidate

/-! ## Two runs over one class -/

namespace ClassOutput

/-- What a class is processed to, as far as violations about cycles are up to another candidate. -/
def judged (config : Config) (c : Candidate) (o : ClassOutput) : ClassOutput where
  candidate := c
  analysis := { o.analysis with
    cycles := (if c.allowCycles || config.cyclePolicy = .allow then []
      else findCycles o.analysis.reactiveClass.updaters).map (Analysis.ofCycle c.qualifiedName) }
  tokens := o.tokens

/-- A class is processed alike under all policies and markers, the violations about its cycles
apart. -/
theorem ofCandidate_remarked (config : Config) (policy : CyclePolicy) (c : Candidate)
    (as : List Attribute) (allowed : Bool) :
    ofCandidate { config with cyclePolicy := policy } (c.remarked as allowed) =
      (ofCandidate config c).map
        (judged { config with cyclePolicy := policy } (c.remarked as allowed)) := by
  unfold ofCandidate Candidate.analyse
  -- neither the members nor the resolution of fields depend on what differs
  change (Resolution.fields config c.qualifiedName c.members.1.fields >>= _) >>= _ =
    Except.map _ ((Resolution.fields config c.qualifiedName c.members.1.fields >>= _) >>= _)
  cases Resolution.fields config c.qualifiedName c.members.1.fields with
  | error e => rfl
  | ok r => rfl

variable {config : Config} {c c' : Candidate} {o : ClassOutput}

theorem ofCandidate_withPolicy (config : Config) (policy : CyclePolicy) (c : Candidate) :
    ofCandidate { config with cyclePolicy := policy } c =
      (ofCandidate config c).map fun o =>
        o.judged { config with cyclePolicy := policy } o.candidate := by
  refine (ofCandidate_remarked config policy c c.item.attributes c.allowCycles).trans ?_
  cases h : ofCandidate config c with
  | error e => rfl
  | ok o =>
    rw [← candidate_of_ofCandidate h]
    rfl

/-! ## The violations of one class -/

/-- The violations of a class that are not about cycles. -/
def otherDiagnostics (o : ClassOutput) : List Diagnostic :=
  o.analysis.violations ++ (o.failure?.map o.emissionFailed).toList

theorem kind_ne_of_mem_otherDiagnostics (h : o.candidate.analyse config = .ok o.analysis)
    {d : Diagnostic} (hd : d ∈ o.otherDiagnostics) : d.kind ≠ .dependencyCycle := by
  rcases List.mem_append.1 hd with hd | hd
  · intro e
    have hkind := Analysis.kind_mem_of_mem_violations h hd
    rw [e] at hkind
    exact absurd hkind (by decide)
  · obtain ⟨e, -, rfl⟩ := Option.map_eq_some_iff.1 (Option.mem_toList.1 hd)
    simp [emissionFailed]

theorem filter_ne_dependencyCycle (h : o.candidate.analyse config = .ok o.analysis) :
    o.diagnostics.filter (·.kind ≠ .dependencyCycle) = o.otherDiagnostics := by
  have hcycles : o.analysis.cycles.filter (·.kind ≠ .dependencyCycle) = [] :=
    List.filter_eq_nil_iff.2 fun d hd => by simp [Analysis.kind_eq_of_mem_cycles h hd]
  have hothers : o.otherDiagnostics.filter (·.kind ≠ .dependencyCycle) = o.otherDiagnostics :=
    List.filter_eq_self.2 fun d hd => decide_eq_true (kind_ne_of_mem_otherDiagnostics h hd)
  rw [otherDiagnostics, List.filter_append] at hothers
  rw [diagnostics, Analysis.diagnostics, List.filter_append, List.filter_append, hcycles,
    List.append_nil, hothers, otherDiagnostics]

theorem filter_dependencyCycle (h : o.candidate.analyse config = .ok o.analysis) :
    o.diagnostics.filter (·.kind = .dependencyCycle) =
      (if o.candidate.allowCycles || config.cyclePolicy = .allow then []
        else findCycles o.analysis.reactiveClass.updaters).map
          (Analysis.ofCycle o.candidate.qualifiedName) := by
  have hfailure :
      (o.failure?.map o.emissionFailed).toList.filter (·.kind = .dependencyCycle) = [] :=
    List.filter_eq_nil_iff.2 fun d hd =>
      by simp [kind_ne_of_mem_otherDiagnostics h (List.mem_append_right _ hd)]
  rw [diagnostics, List.filter_append, hfailure, List.append_nil,
    Analysis.filter_dependencyCycle h]

variable {as : List Attribute} {allowed : Bool}

/-- Where cycles are allowed, the violations about them are left out. -/
theorem diagnostics_judged_of_allowed (h : o.candidate.analyse config = .ok o.analysis)
    {config' : Config} (hallowed : (allowed || config'.cyclePolicy = .allow) = true) :
    (o.judged config' (o.candidate.remarked as allowed)).diagnostics =
      o.diagnostics.filter (·.kind ≠ .dependencyCycle) := by
  have hcycles : (o.judged config' (o.candidate.remarked as allowed)).analysis.cycles = [] := by
    show List.map _ (if (allowed || config'.cyclePolicy = .allow) = true then [] else _) = []
    rw [if_pos hallowed, List.map_nil]
  rw [filter_ne_dependencyCycle h, diagnostics, Analysis.diagnostics, hcycles, List.append_nil]
  rfl

theorem diagnostics_judged_self (h : o.candidate.analyse config = .ok o.analysis) :
    (o.judged config (o.candidate.remarked as o.candidate.allowCycles)).diagnostics =
      o.diagnostics := by
  have hcycles :
      (o.judged config (o.candidate.remarked as o.candidate.allowCycles)).analysis.cycles =
        o.analysis.cycles := (Candidate.violations_of_analyse h).2.symm
  rw [diagnostics, Analysis.diagnostics, hcycles]
  rfl

/-- A class is processed to the same code and the same violations, but that the violations about
cycles are left out where the marker is replaced by one that allows them. -/
structure Relaxed (o o' : ClassOutput) : Prop where
  qualifiedName : o'.candidate.qualifiedName = o.candidate.qualifiedName
  tokens : o'.tokens = o.tokens
  diagnostics :
    o'.candidate.item.modelMarker? = o.candidate.item.modelMarker? ∧
        o'.diagnostics = o.diagnostics ∨
      o.candidate.item.modelMarker? = some plainMarker ∧
        o'.candidate.item.modelMarker? = some allowingMarker ∧
        o'.diagnostics = o.diagnostics.filter (·.kind ≠ .dependencyCycle)

theorem exists_relaxed (hc : c.Relaxed c') (h : ofCandidate config c = .ok o) :
    ∃ o', ofCandidate config c' = .ok o' ∧ o.Relaxed o' := by
  obtain ⟨as, allowed, rfl⟩ : ∃ as allowed, c' = c.remarked as allowed :=
    ⟨_, _, hc.eq_remarked⟩
  have hrun := ofCandidate_remarked config config.cyclePolicy c as allowed
  rw [h] at hrun
  obtain rfl := candidate_of_ofCandidate h
  have hanalyse : o.candidate.analyse config = .ok o.analysis := analyse_of_ofCandidate h
  refine ⟨_, hrun, rfl, rfl, ?_⟩
  rcases hc.marker with ⟨hmarker, hallowed⟩ | ⟨hplain, hallowing, hallowed⟩
  · cases hallowed
    exact .inl ⟨hmarker, diagnostics_judged_self hanalyse⟩
  · cases hallowed
    exact .inr ⟨hplain, hallowing, diagnostics_judged_of_allowed hanalyse rfl⟩

end ClassOutput

/-! ## Two runs over one file -/

theorem mapM_map_eq {ε α β : Type} (f : α → Except ε β) (g : β → β) (l : List α) :
    (l.mapM fun a => (f a).map g) = (l.mapM f).map (List.map g) := by
  induction l with
  | nil => rfl
  | cons a l ih =>
    rw [List.mapM_cons, List.mapM_cons, ih]
    cases f a with
    | error e => rfl
    | ok b =>
      cases l.mapM f with
      | error e => rfl
      | ok bs => rfl

/-- Lists whose elements are related are processed to lists whose elements are. -/
theorem exists_mapM_forall₂ {ε α β : Type} {f : α → Except ε β} {R : α → α → Prop}
    {S : β → β → Prop} (hstep : ∀ a a' b, R a a' → f a = .ok b → ∃ b', f a' = .ok b' ∧ S b b')
    {l l' : List α} (h : List.Forall₂ R l l') {bs : List β} (hbs : l.mapM f = .ok bs) :
    ∃ bs', l'.mapM f = .ok bs' ∧ List.Forall₂ S bs bs' := by
  simp only [mapM_eq_ok_iff] at hbs ⊢
  induction h generalizing bs with
  | nil =>
    cases hbs
    exact ⟨[], .nil, .nil⟩
  | @cons a a' l l' ha _ ih =>
    cases hbs with
    | cons hb hrest =>
      obtain ⟨b', hb', hS⟩ := hstep a a' _ ha hb
      obtain ⟨bs', hbs', hall⟩ := ih hrest
      exact ⟨b' :: bs', .cons hb' hbs', .cons hS hall⟩

namespace UnitOutput

variable {config : Config} {items items' : List Item} {o o' : UnitOutput}

/-- What a file is processed to, as far as violations about cycles are up to another
configuration. -/
def judged (config : Config) (o : UnitOutput) : UnitOutput :=
  ⟨o.findings, o.classes.map fun c => c.judged config c.candidate⟩

theorem ofItems_withPolicy (config : Config) (policy : CyclePolicy) (items : List Item) :
    ofItems { config with cyclePolicy := policy } items =
      (ofItems config items).map (judged { config with cyclePolicy := policy }) := by
  unfold ofItems
  dsimp only
  rw [funext (ClassOutput.ofCandidate_withPolicy config policy), mapM_map_eq]
  cases (among (find items)).mapM (ClassOutput.ofCandidate config) with
  | error e => rfl
  | ok os => rfl

theorem findings_of_ofItems (h : ofItems config items = .ok o) : o.findings = find items := by
  obtain ⟨os, -, e⟩ := bind_eq_ok_iff.1 h
  cases e
  rfl

/-- No violation is about cycles before a class is processed. -/
theorem kind_ne_of_mem_scanned (h : ofItems config items = .ok o) {d : Diagnostic}
    (hd : d ∈ o.scanned) : d.kind ≠ .dependencyCycle := by
  intro e
  rw [scanned, findings_of_ofItems h] at hd
  have hkind := kind_mem_of_mem_ofItems [] items items d hd
  rw [e] at hkind
  exact absurd hkind (by decide)

end UnitOutput

/-- What is generated, without the violations about cycles. -/
def GeneratedUnit.withoutCycles (u : GeneratedUnit) : GeneratedUnit :=
  { u with diagnostics := u.diagnostics.filter (·.kind ≠ .dependencyCycle) }

namespace UnitOutput

variable {config : Config} {items items' : List Item} {o o' : UnitOutput}

/-- Where the policy allows cycles, the violations about them are left out. -/
theorem result_judged_of_allow (h : ofItems config items = .ok o) {config' : Config}
    (hpolicy : config'.cyclePolicy = .allow) :
    (o.judged config').result = o.result.withoutCycles := by
  have hscanned : o.scanned.filter (·.kind ≠ .dependencyCycle) = o.scanned :=
    List.filter_eq_self.2 fun d hd => decide_eq_true (kind_ne_of_mem_scanned h hd)
  have hraised : (o.judged config').raised = o.raised.filter (·.kind ≠ .dependencyCycle) := by
    rw [raised, judged, List.flatMap_map, raised, List.filter_flatMap]
    refine List.flatMap_congr fun c hc => ?_
    have hallowed : (c.candidate.allowCycles || config'.cyclePolicy = .allow) = true := by
      rw [hpolicy, decide_eq_true rfl, Bool.or_true]
    show (c.judged config' (c.candidate.remarked c.candidate.item.attributes
      c.candidate.allowCycles)).diagnostics = _
    exact ClassOutput.diagnostics_judged_of_allowed (analyse_of_mem_classes h hc) hallowed
  have hclasses : (o.judged config').result.classes = o.result.classes := by
    rw [result, judged, List.filter_map, List.map_map]
    rfl
  have hdiagnostics : (o.judged config').result.diagnostics =
      o.result.diagnostics.filter (·.kind ≠ .dependencyCycle) := by
    rw [result_diagnostics, result_diagnostics, List.filter_append, hscanned, hraised]
    rfl
  exact congrArg₂ GeneratedUnit.mk hclasses hdiagnostics

/-- Where the policy rejects cycles, each class that does not allow them has those that are
found. -/
theorem filter_dependencyCycle (h : ofItems config items = .ok o)
    (hpolicy : config.cyclePolicy = .reject) :
    o.result.diagnostics.filter (·.kind = .dependencyCycle) = o.classes.flatMap fun c =>
      (if c.candidate.allowCycles then [] else findCycles c.analysis.reactiveClass.updaters).map
        (Analysis.ofCycle c.candidate.qualifiedName) := by
  have hscanned : o.scanned.filter (·.kind = .dependencyCycle) = [] :=
    List.filter_eq_nil_iff.2 fun d hd => by simp [kind_ne_of_mem_scanned h hd]
  rw [result_diagnostics, List.filter_append, hscanned, List.nil_append, raised,
    List.filter_flatMap]
  refine List.flatMap_congr fun c hc => ?_
  rw [ClassOutput.filter_dependencyCycle (analyse_of_mem_classes h hc), hpolicy]
  simp

theorem marked_of_mem_classes (h : ofItems config items = .ok o) {c : ClassOutput}
    (hc : c ∈ o.classes) : c.candidate.Marked :=
  marked_of_mem_ofItems [] items items c.candidate (Expansion.candidate_mem_found h hc)

/-- A file with classes marked anew is processed to the same code and the same violations, but for
the violations about cycles of these classes. -/
theorem exists_relaxed (h : ofItems config items = .ok o)
    (hitems : List.Forall₂ Item.Relaxed items items') :
    ∃ o', ofItems config items' = .ok o' ∧ o'.scanned = o.scanned ∧
      List.Forall₂ ClassOutput.Relaxed o.classes o'.classes := by
  obtain ⟨os, hos, e⟩ := bind_eq_ok_iff.1 h
  cases e
  have hfind := relaxed_find hitems
  obtain ⟨os', hos', hclasses⟩ := exists_mapM_forall₂
    (fun _ _ _ hc ho => ClassOutput.exists_relaxed hc ho) (relaxed_among hfind) hos
  exact ⟨_, bind_eq_ok_iff.2 ⟨os', hos', rfl⟩, violations_relaxed hfind, hclasses⟩

theorem result_classes_relaxed (h : List.Forall₂ ClassOutput.Relaxed o.classes o'.classes) :
    o'.result.classes = o.result.classes := by
  unfold result
  dsimp only
  generalize o.classes = cs, o'.classes = cs' at h
  induction h with
  | nil => rfl
  | @cons c c' cs cs' hc _ ih =>
    have hfailure : c'.failure? = c.failure? := by
      unfold ClassOutput.failure?
      rw [hc.tokens]
    rw [List.filter_cons, List.filter_cons, hfailure]
    split
    · rw [List.map_cons, List.map_cons, ih, hc.qualifiedName, hc.tokens]
    · exact ih

end UnitOutput

variable {config : Config} {text : String} {items : List Item} {o : UnitOutput}

theorem UnitOutput.ofSource_of_readUnit (h : Grammar.readUnit text = .ok items) :
    ofSource config text = (ofItems config items).mapError .unspellable := by
  unfold ofSource
  rw [h]

theorem UnitOutput.exists_items (h : ofSource config text = .ok o) :
    ∃ items, Grammar.readUnit text = .ok items ∧ ofItems config items = .ok o := by
  cases hread : Grammar.readUnit text with
  | error e =>
    unfold ofSource at h
    rw [hread] at h
    cases h
  | ok items =>
    rw [ofSource_of_readUnit hread] at h
    cases hitems : ofItems config items with
    | error e =>
      rw [hitems] at h
      cases h
    | ok o' =>
      rw [hitems] at h
      cases h
      exact ⟨items, rfl, hitems⟩

theorem generate_withPolicy (config : Config) (text : String) :
    generate { config with cyclePolicy := .allow } text =
      (generate { config with cyclePolicy := .reject } text).map GeneratedUnit.withoutCycles := by
  unfold generate UnitOutput.ofSource
  cases Grammar.readUnit text with
  | error e => rfl
  | ok items =>
    have hrun := UnitOutput.ofItems_withPolicy { config with cyclePolicy := .reject } .allow items
    dsimp only at hrun ⊢
    rw [hrun]
    cases h : UnitOutput.ofItems { config with cyclePolicy := .reject } items with
    | error e => rfl
    | ok o => exact congrArg Except.ok (UnitOutput.result_judged_of_allow h rfl)

/-- The policy on cycles and the markers of classes change no code. With cycles allowed, the same
is generated from a file as with cycles rejected, but for the violations about cycles. With cycles
rejected, there is one for each cycle that is found in a class, unless the class is marked to allow
cycles, and its member is the updater that the cycle begins with. In a file that differs in that
some classes are marked to allow cycles, just the violations about cycles in these classes are left
out. -/
theorem cycles_change_no_code (config : Config) (text : String) :
    generate { config with cyclePolicy := .allow } text =
        (generate { config with cyclePolicy := .reject } text).map GeneratedUnit.withoutCycles ∧
    (∀ o, UnitOutput.ofSource { config with cyclePolicy := .reject } text = .ok o →
      let cycles (c : ClassOutput) :=
        if c.candidate.allowCycles then [] else findCycles c.analysis.reactiveClass.updaters
      let reported := o.result.diagnostics.filter (·.kind = .dependencyCycle)
      reported = o.classes.flatMap (fun c =>
          (cycles c).map (Analysis.ofCycle c.candidate.qualifiedName)) ∧
        reported.map (·.member) = o.classes.flatMap (fun c => (cycles c).map Cycle.entry) ∧
        ∀ c ∈ o.classes, c.candidate.Marked) ∧
    ∀ o, UnitOutput.ofSource config text = .ok o → ∀ (text' : String) (items items' : List Item),
      Grammar.readUnit text = .ok items → Grammar.readUnit text' = .ok items' →
      List.Forall₂ Item.Relaxed items items' →
        ∃ o', UnitOutput.ofSource config text' = .ok o' ∧
          o'.result.classes = o.result.classes ∧
          o.result.diagnostics = o.scanned ++ o.classes.flatMap ClassOutput.diagnostics ∧
          o'.result.diagnostics = o.scanned ++ o'.classes.flatMap ClassOutput.diagnostics ∧
          List.Forall₂ ClassOutput.Relaxed o.classes o'.classes := by
  refine ⟨generate_withPolicy config text, fun o ho => ?_,
    fun o ho text' items items' hread hread' hitems => ?_⟩
  · obtain ⟨items, -, ho⟩ := UnitOutput.exists_items ho
    have hreported := UnitOutput.filter_dependencyCycle ho rfl
    refine ⟨hreported, ?_, fun c hc => UnitOutput.marked_of_mem_classes ho hc⟩
    dsimp only
    rw [hreported, List.map_flatMap]
    refine List.flatMap_congr fun c _ => ?_
    rw [List.map_map]
    rfl
  · obtain ⟨_, hsame, ho⟩ := UnitOutput.exists_items ho
    obtain rfl := Except.ok.inj (hread.symm.trans hsame)
    obtain ⟨o', ho', hscanned, hclasses⟩ := UnitOutput.exists_relaxed ho hitems
    refine ⟨o', ?_, UnitOutput.result_classes_relaxed hclasses, rfl, ?_, hclasses⟩
    · rw [UnitOutput.ofSource_of_readUnit hread', ho']
      rfl
    · rw [UnitOutput.result_diagnostics, hscanned]
      rfl

/-! ## A class with a cycle -/

/-- A class with an updater that writes what it reads, under the given marker. -/
def loopText (marker : String) : String := marker ++
  "struct A{#[observable]_a:u8}impl A{#[dependent_updater]fn f(&mut self){self.set_a(self.a())}}"

/-- The struct of the class. -/
def loopStruct : Struct :=
  ⟨[plainMarker], .inherited, .plain "A", .empty, .named
    [(⟨[⟨⟨false, ⟨false, [.plain "observable"]⟩, .none⟩, .empty⟩], .inherited, .plain "_a",
      .seq [.seq [.empty, .ident (.plain "u8")]]⟩, false)]⟩

/-- Its updater. -/
def loopUpdater : Method where
  attributes := [⟨⟨false, ⟨false, [.plain "dependent_updater"]⟩, .none⟩, .empty⟩]
  visibility := .inherited
  isDefault := false
  signature := ⟨false, false, false, none, .plain "f", .empty,
    [(.receiver [] (some none) true none, false)], none, none⟩
  body := .seq [.call (.name (.plain "self")) (.plain "set_a") (.seq [.empty,
    .group .parenthesis (.seq [.call (.name (.plain "self")) (.plain "a")
      (.seq [.empty, .group .parenthesis (.seq [])])])])]

/-- The items of the file. -/
def loopItems (marker : Attribute) : List Item :=
  [.struct { loopStruct with attributes := [marker] },
    .impl ⟨[], .seq [.empty, .empty], .empty, none, some ⟨false, [.plain "A"]⟩,
      .seq [.seq [.empty, .ident (.plain "A")]], [.method loopUpdater]⟩]

/-- The tokens of the file. -/
def loopTokens (marker : Attribute) : List Token :=
  (Item.listCode (loopItems marker)).flatMap Code.toTokens

set_option maxRecDepth 10000 in
theorem readUnit_plainLoop :
    Grammar.readUnit (loopText "#[reactive_model]") = .ok (loopItems plainMarker) :=
  Grammar.readUnit_eq_ok (loopTokens plainMarker) rfl rfl

set_option maxRecDepth 10000 in
theorem readUnit_allowingLoop :
    Grammar.readUnit (loopText "#[reactive_model(allow_cycles)]") =
      .ok (loopItems allowingMarker) :=
  Grammar.readUnit_eq_ok (loopTokens allowingMarker) rfl rfl

/-- The members that violations are reported at, if the file can be processed. -/
def reportedMembers (text : String) : Option (List String) :=
  (UnitOutput.ofSource {} text).toOption.map fun o => o.result.diagnostics.map (·.member)

theorem reportedMembers_plainLoop :
    reportedMembers (loopText "#[reactive_model]") = some ["f"] := by
  rw [reportedMembers, UnitOutput.ofSource_of_readUnit readUnit_plainLoop]
  unfold UnitOutput.ofItems ClassOutput.ofCandidate Candidate.analyse Resolution.fields
  simp only [prefixesLongestFirst_default]
  decide +kernel

theorem reportedMembers_allowingLoop :
    reportedMembers (loopText "#[reactive_model(allow_cycles)]") = some [] := by
  rw [reportedMembers, UnitOutput.ofSource_of_readUnit readUnit_allowingLoop]
  unfold UnitOutput.ofItems ClassOutput.ofCandidate Candidate.analyse Resolution.fields
  simp only [prefixesLongestFirst_default]
  decide +kernel

/-- The cycle is reported, and is not where the class is marked to allow it. -/
theorem cycles_change_no_code_loop :
    ∃ o o', UnitOutput.ofSource {} (loopText "#[reactive_model]") = .ok o ∧
      UnitOutput.ofSource {} (loopText "#[reactive_model(allow_cycles)]") = .ok o' ∧
      o.result.diagnostics.map (·.member) = ["f"] ∧ o'.result.diagnostics.map (·.member) = [] ∧
      (∀ c ∈ o.classes, c.candidate.Marked) ∧
      List.Forall₂ ClassOutput.Relaxed o.classes o'.classes ∧
      o'.result.classes = o.result.classes := by
  have hreported := reportedMembers_plainLoop
  have hreported' := reportedMembers_allowingLoop
  unfold reportedMembers at hreported hreported'
  obtain ⟨-, hrejected, hremarked⟩ := cycles_change_no_code {} (loopText "#[reactive_model]")
  cases ho : UnitOutput.ofSource {} (loopText "#[reactive_model]") with
  | error e =>
    rw [ho] at hreported
    cases hreported
  | ok o =>
    rw [ho] at hreported
    obtain ⟨o', ho', hclasses, -, -, hrelaxed⟩ :=
      hremarked o ho _ _ _ readUnit_plainLoop readUnit_allowingLoop
        (.cons (.struct (.cons (.inr ⟨rfl, rfl⟩) .nil)) (.cons (.same _) .nil))
    rw [ho'] at hreported'
    exact ⟨o, o', rfl, ho', Option.some.inj hreported, Option.some.inj hreported',
      (hrejected o ho).2.2, hrelaxed, hclasses⟩

end ReactiveModel
