import ReactiveModel.Class.Analysis
import ReactiveModel.Proofs.Property.Precedence

/-!
# The violations of a class

Each stage has violations of kinds of its own (`Analysis.kind_mem_of_mem_violations`,
`Analysis.kind_eq_of_mem_cycles`). So the violations of an analysed class that are about cycles are
those of the search, one for each cycle that it finds, or none where cycles are allowed
(`Analysis.filter_dependencyCycle`).
-/

namespace ReactiveModel

variable {config : Config} {className : String}

/-- If the signature of a method is accepted, only its markers can be at fault. -/
theorem Members.kind_eq_of_mem_ofMethod {m : Method} {d : Diagnostic}
    (hs : signatureError? m.signature = none) (h : d ∈ (ofMethod className m).violations) :
    d.kind = .malformedMarker := by
  unfold ofMethod at h
  dsimp only at h
  split_ifs at h with hunmarked
  · cases h
  rw [hs] at h
  -- both markers of a method are reported in the same way
  rcases List.mem_append.1 h with h | h
  all_goals
    split at h
    · rw [List.mem_singleton.1 h]
    · cases h

theorem Members.kind_mem_of_mem_ofMethod {m : Method} {d : Diagnostic}
    (h : d ∈ (ofMethod className m).violations) :
    d.kind ∈ [DiagnosticKind.invalidMemberSignature, .malformedMarker] := by
  cases hs : signatureError? m.signature with
  | none => simp [kind_eq_of_mem_ofMethod hs h]
  | some e =>
    unfold ofMethod at h
    dsimp only at h
    split_ifs at h with hunmarked
    · cases h
    rw [hs] at h
    rw [List.mem_singleton.1 h]
    simp

theorem Candidate.kind_mem_of_mem_members {c : Candidate} {d : Diagnostic}
    (h : d ∈ c.members.2) :
    d.kind ∈ [DiagnosticKind.invalidMemberSignature, .malformedMarker] := by
  unfold members at h
  rcases List.mem_append.1 h with h | h
  · obtain ⟨x, hx, hd⟩ := List.mem_filterMap.1 h
    obtain ⟨f, -, hf⟩ := List.mem_filterMap.1 hx
    unfold Members.ofField at hf
    obtain ⟨⟨_, _ | _⟩, -, rfl⟩ := Option.map_eq_some_iff.1 hf <;> cases hd
    simp
  · obtain ⟨x, hx, hd⟩ := List.mem_flatMap.1 h
    obtain ⟨m, -, rfl⟩ := List.mem_map.1 hx
    exact Members.kind_mem_of_mem_ofMethod hd

namespace Resolution

variable {prefixes : List String} {accepted fs : List ObservableField} {decls : List FieldDecl}

/-- Each refusal is the verdict on some field. -/
theorem Course.exists_verdict {outcomes : List (ObservableField ⊕ Diagnostic)}
    (h : Course prefixes className accepted decls outcomes) {x : Diagnostic}
    (hx : .inr x ∈ outcomes) :
    ∃ earlier, ∃ d ∈ decls, Verdict prefixes className earlier d (.inr x) := by
  induction h with
  | nil => cases hx
  | @cons earlier d decls o outcomes hv _ ih =>
    rcases List.mem_cons.1 hx with rfl | hx
    · exact ⟨earlier, d, List.mem_cons_self, hv⟩
    · obtain ⟨earlier', d', hd', hv'⟩ := ih hx
      exact ⟨earlier', d', List.mem_cons_of_mem _ hd', hv'⟩

theorem kind_mem_of_mem_fields {ds : List Diagnostic} {d : Diagnostic}
    (h : fields config className decls = .ok (fs, ds)) (hd : d ∈ ds) :
    d.kind ∈ [DiagnosticKind.observableFieldMustNotBePublic, .invalidPropertyName,
      .duplicatePropertyName] := by
  obtain ⟨outcomes, hc, -, rfl⟩ := exists_course h
  obtain ⟨o, ho, hd⟩ := List.mem_filterMap.1 hd
  cases o with
  | inl f => cases hd
  | inr x =>
    cases hd
    obtain ⟨earlier, decl, -, hv⟩ := hc.exists_verdict ho
    cases hv <;> simp

theorem kind_eq_of_mem_handlersFrom {d : Diagnostic} : ∀ {taken : List String}
    {hs : List ClickHandler}, d ∈ (handlersFrom className taken hs).2 →
      d.kind = .duplicateElementName
  | _, [], h => by cases h
  | taken, x :: hs, h => by
    unfold handlersFrom at h
    split_ifs at h with htaken
    · rcases List.mem_cons.1 h with rfl | h
      · rfl
      · exact kind_eq_of_mem_handlersFrom h
    · exact kind_eq_of_mem_handlersFrom h

end Resolution

/-- The stages that the violations of a class come from. -/
theorem Candidate.violations_of_analyse {c : Candidate} {a : Analysis}
    (h : c.analyse config = .ok a) :
    (∃ fs refused, Resolution.fields config c.qualifiedName c.members.1.fields = .ok (fs, refused) ∧
      a.violations = c.members.2 ++ refused ++
        (Resolution.handlers c.qualifiedName c.members.1.handlers).2) ∧
    a.cycles = (if c.allowCycles || config.cyclePolicy = .allow then []
      else findCycles a.reactiveClass.updaters).map (Analysis.ofCycle c.qualifiedName) := by
  unfold analyse at h
  obtain ⟨⟨fs, refused⟩, hfields, h⟩ := bind_eq_ok_iff.1 h
  cases h
  exact ⟨⟨fs, refused, hfields, rfl⟩, rfl⟩

/-- The kinds of violations that members of a class are at fault for. -/
def DiagnosticKind.ofMembers : List DiagnosticKind :=
  [invalidMemberSignature, malformedMarker, observableFieldMustNotBePublic, invalidPropertyName,
    duplicatePropertyName, duplicateElementName]

namespace Analysis

variable {c : Candidate} {a : Analysis} {d : Diagnostic}

theorem kind_mem_of_mem_violations (h : c.analyse config = .ok a) (hd : d ∈ a.violations) :
    d.kind ∈ DiagnosticKind.ofMembers := by
  obtain ⟨⟨fs, refused, hfields, hviolations⟩, -⟩ := Candidate.violations_of_analyse h
  rw [hviolations] at hd
  have hkinds : d.kind ∈ [DiagnosticKind.invalidMemberSignature, .malformedMarker] ∨
      d.kind ∈ [DiagnosticKind.observableFieldMustNotBePublic, .invalidPropertyName,
        .duplicatePropertyName] ∨ d.kind = .duplicateElementName := by
    rcases List.mem_append.1 hd with hd | hd
    · rcases List.mem_append.1 hd with hd | hd
      · exact .inl (Candidate.kind_mem_of_mem_members hd)
      · exact .inr (.inl (Resolution.kind_mem_of_mem_fields hfields hd))
    · exact .inr (.inr (Resolution.kind_eq_of_mem_handlersFrom hd))
  simp only [DiagnosticKind.ofMembers, List.mem_cons, List.not_mem_nil, or_false] at hkinds ⊢
  tauto

theorem kind_eq_of_mem_cycles (h : c.analyse config = .ok a) (hd : d ∈ a.cycles) :
    d.kind = .dependencyCycle := by
  rw [(Candidate.violations_of_analyse h).2] at hd
  obtain ⟨cycle, -, rfl⟩ := List.mem_map.1 hd
  rfl

/-- The cycles among the violations of a class are those that are found, unless they are
allowed. -/
theorem filter_dependencyCycle (h : c.analyse config = .ok a) :
    a.diagnostics.filter (·.kind = .dependencyCycle) =
      (if c.allowCycles || config.cyclePolicy = .allow then []
        else findCycles a.reactiveClass.updaters).map (Analysis.ofCycle c.qualifiedName) := by
  have hbefore : a.violations.filter (·.kind = .dependencyCycle) = [] := by
    refine List.filter_eq_nil_iff.2 fun d hd => ?_
    have hkind := kind_mem_of_mem_violations h hd
    rw [decide_eq_true_eq]
    intro e
    rw [e] at hkind
    exact absurd hkind (by decide)
  have hafter : a.cycles.filter (·.kind = .dependencyCycle) = a.cycles :=
    List.filter_eq_self.2 fun d hd => decide_eq_true (kind_eq_of_mem_cycles h hd)
  rw [diagnostics, List.filter_append, hbefore, hafter, List.nil_append,
    (Candidate.violations_of_analyse h).2]

/-- No violation of an analysed class is about code that cannot be read again. -/
theorem kind_ne_emissionFailed (h : c.analyse config = .ok a) (hd : d ∈ a.diagnostics) :
    d.kind ≠ .emissionFailed := by
  intro e
  rcases List.mem_append.1 hd with hd | hd
  · have hkind := kind_mem_of_mem_violations h hd
    rw [e] at hkind
    exact absurd hkind (by decide)
  · have hkind := kind_eq_of_mem_cycles h hd
    rw [e] at hkind
    cases hkind

end Analysis

end ReactiveModel
