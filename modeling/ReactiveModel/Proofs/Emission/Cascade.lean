import Mathlib.Data.List.Induction
import ReactiveModel.Emission.Source
import ReactiveModel.Proofs.Dependency.Order
import ReactiveModel.Proofs.Property.Precedence
import ReactiveModel.Proofs.Text.Quoted

/-!
# The updaters in generated code

The updaters that depend on a property are written twice: as calls at the end of its setter, and as
texts in an arm of the metadata. Both are read back from the generated tokens, and agree with the
graph of updaters and with each other (`emission_agrees`).
-/

namespace ReactiveModel.Emission

open Token

/-! ## Reading generated code -/

/-- What a method or a `match` has in its braces. -/
def braces (tokens : List Token) : List Token :=
  match tokens.getLast? with
  | some (.group .brace body) => body
  | _ => []

/-- The methods of `self` that statements end by calling without arguments. The statements are given
backwards, and so are the methods. -/
def lastCalls : List Token → List Ident
  | .mark ';' _ :: .group .parenthesis [] :: .word u :: .mark '.' _ :: .word self :: before =>
    if self = .plain "self" then u :: lastCalls before else []
  | _ => []

/-- The methods of `self` that statements end by calling without arguments, in order. -/
def finalCalls (statements : List Token) : List Ident := (lastCalls statements.reverse).reverse

/-- The values of the string literals among tokens. -/
def literals (tokens : List Token) : List String :=
  tokens.filterMap fun
    | .literal text => Text.quotedValue? text
    | _ => none

/-- The arms of a `match` that give slices of texts, each with the text that it is for. -/
def readArms : List Token → List (String × List String)
  | .literal text :: .mark '=' _ :: .mark '>' _ :: .mark '&' _ :: .group .bracket values ::
      .mark ',' _ :: rest =>
    ((Text.quotedValue? text).map fun key => (key, literals values)).toList ++ readArms rest
  | _ => []

/-- The updaters that a setter calls. -/
def AccessorPair.calls (runtime : List Token) (p : AccessorPair) : List Ident :=
  finalCalls (braces (p.setterTokens runtime))

/-- The arms of the function that gives the dependents of a property. -/
def Metadata.writtenArms (runtime : List Token) (m : Metadata) : List (String × List String) :=
  readArms (braces (braces (m.toTokens runtime)))

theorem braces_append (tokens body : List Token) : braces (tokens ++ braced body) = body := by
  simp [braces, braced]

/-! ## Setters -/

theorem lastCalls_cascadeCall (u : Ident) (before : List Token) :
    lastCalls ((AccessorPair.cascadeCall u).reverse ++ before) = u :: lastCalls before := rfl

/-- Calls that are written after other statements are read back after theirs. -/
theorem finalCalls_append (statements : List Token) (us : List Ident) :
    finalCalls (statements ++ us.flatMap AccessorPair.cascadeCall) =
      finalCalls statements ++ us := by
  induction us using List.reverseRecOn with
  | nil => simp
  | append_singleton us u ih =>
    have hsplit : statements ++ (us ++ [u]).flatMap AccessorPair.cascadeCall =
        (statements ++ us.flatMap AccessorPair.cascadeCall) ++ AccessorPair.cascadeCall u := by
      simp
    rw [hsplit, finalCalls, List.reverse_append, lastCalls_cascadeCall, List.reverse_cons,
      ← finalCalls, ih, List.append_assoc]

/-- A call with arguments is none of those that are read. -/
theorem finalCalls_notification (statements : List Token) (argument : Token)
    (more : List Token) :
    finalCalls (statements ++ parenthesized (argument :: more) ++ op ";") = [] := by
  have h : (statements ++ parenthesized (argument :: more) ++ op ";").reverse =
      .mark ';' .alone :: .group .parenthesis (argument :: more) :: statements.reverse := by
    simp [parenthesized, op, opMarks]
  rw [finalCalls, h]
  rfl

namespace AccessorPair

variable (runtime : List Token) (p : AccessorPair)

/-- The same accessors where no updater depends on the property. -/
def alone : AccessorPair := { p with cascade := [] }

/-- All that the updaters of a cascade add to a setter are their calls at its end. -/
theorem braces_setterTokens :
    braces (p.setterTokens runtime) =
      braces (p.alone.setterTokens runtime) ++ p.cascade.flatMap cascadeCall := by
  rw [setterTokens, setterTokens, braces_append, braces_append]
  simp only [alone, List.flatMap_nil, List.append_nil]
  rfl

theorem calls_alone : p.alone.calls runtime = [] := by
  rw [calls, setterTokens, braces_append]
  simp only [alone, List.flatMap_nil, List.append_nil]
  exact finalCalls_notification _ _ _

/-- A setter calls the updaters of its cascade. -/
theorem calls_eq : p.calls runtime = p.cascade := by
  rw [calls, braces_setterTokens, finalCalls_append, ← calls, calls_alone, List.nil_append]

end AccessorPair

/-! ## Metadata -/

theorem literals_commaSeparated (values : List String) :
    literals (commaSeparated (values.map fun value => [.string value])) = values := by
  have hone : ∀ value rest, literals (Token.string value :: rest) = value :: literals rest := by
    intro value rest
    simp [literals, Token.string, Text.quotedValue?_quoted]
  induction values with
  | nil => rfl
  | cons value values ih =>
    cases values with
    | nil => exact hone value []
    | cons next values =>
      have hcons :
          commaSeparated ((value :: next :: values).map fun value => [Token.string value]) =
            .string value :: .mark ',' .alone ::
              commaSeparated ((next :: values).map fun value => [Token.string value]) := rfl
      rw [hcons, hone]
      exact congrArg _ ih

theorem readArms_armTokens (arm : String × List String) (rest : List Token) :
    readArms (Metadata.armTokens arm ++ rest) = arm :: readArms rest := by
  have h : Metadata.armTokens arm ++ rest =
      .literal (Text.quoted arm.1) :: .mark '=' .joint :: .mark '>' .alone :: .mark '&' .alone ::
        .group .bracket (commaSeparated (arm.2.map fun value => [.string value])) ::
          .mark ',' .alone :: rest := rfl
  rw [h, readArms, Text.quotedValue?_quoted, literals_commaSeparated]
  rfl

/-- The arms are read back as they are. -/
theorem Metadata.writtenArms_eq (runtime : List Token) (m : Metadata) :
    m.writtenArms runtime = m.arms := by
  have h : ∀ arms : List (String × List String), readArms (arms.flatMap armTokens ++
      (phrase "_ =>" ++ slice [] ++ op ",")) = arms := by
    intro arms
    induction arms with
    | nil => rfl
    | cons arm arms ih =>
      rw [List.flatMap_cons, List.append_assoc, readArms_armTokens, ih]
  rw [writtenArms, toTokens, braces_append, braces_append, List.append_assoc, List.append_assoc]
  have := h m.arms
  rw [List.append_assoc] at this
  exact this

/-- The properties with arms are some of the properties of the class, in their order. -/
theorem arms_sublist (c : ReactiveClass) :
    ((Metadata.ofClass c).arms.map Prod.fst).Sublist (c.fields.map (·.property)) := by
  have h : ((Metadata.ofClass c).arms.map Prod.fst).Sublist ((c.fields.map fun f =>
      (f.property, (c.graph.dependents f.property).map Ident.text)).map Prod.fst) :=
    List.filter_sublist.map Prod.fst
  rwa [List.map_map] at h

/-- Keys whose values are empty are not missed if what is not found counts as empty. -/
theorem lookup_filter_getD (value : String → List String) (p : String) :
    ∀ keys : List String,
      (((keys.map fun q => (q, value q)).filter (!·.2.isEmpty)).lookup p).getD [] =
        if p ∈ keys then value p else []
  | [] => rfl
  | q :: keys => by
    have ih := lookup_filter_getD value p keys
    rw [List.map_cons, List.filter_cons]
    by_cases h : p = q
    · subst h
      by_cases he : value p = []
      · simp [he, ih]
      · simp [he]
    · by_cases he : value q = []
      · simp [he, ih, h]
      · simp [he, ih, h, List.lookup_cons, beq_false_of_ne h]

/-- A property without an arm has no dependents. -/
theorem dependents_ofClass {c : ReactiveClass} {p : String}
    (hp : p ∈ c.fields.map (·.property)) :
    (Metadata.ofClass c).dependents p = (c.graph.dependents p).map Ident.text := by
  have h := lookup_filter_getD (fun q => (c.graph.dependents q).map Ident.text) p
    (c.fields.map (·.property))
  rw [if_pos hp, List.map_map] at h
  exact h

/-! ## A class -/

/-- Where a class is analysed, its fields are resolved and its graph is that of its updaters. -/
theorem analyse_eq_ok {config : Config} {c : Candidate} {a : Analysis}
    (h : c.analyse config = .ok a) :
    (∃ decls ds, Resolution.fields config c.qualifiedName decls =
        .ok (a.reactiveClass.fields, ds)) ∧
      a.reactiveClass.graph =
        .ofUpdaters (a.reactiveClass.fields.map (·.property)) a.reactiveClass.updaters := by
  unfold Candidate.analyse at h
  obtain ⟨⟨fs, ds⟩, hfields, h⟩ := bind_eq_ok_iff.1 h
  cases h
  exact ⟨⟨_, ds, hfields⟩, rfl⟩

/-- In the code of a class, each setter ends by calling the updaters that depend on its property in
the graph, and is otherwise what it would be without them; the metadata gives their names. They are
the updaters that read the property, in the order of their declaration, each name once. Only
properties of the class have arms, each at most one. There are as many calls as edges. -/
theorem emission_agrees {config : Config} {c : Candidate} {a : Analysis}
    (h : c.analyse config = .ok a) :
    let r := a.reactiveClass
    let pair := AccessorPair.ofField r.graph
    let calls := fun f => (pair f).calls config.runtime
    let arms := (Metadata.ofClass r).writtenArms config.runtime
    (∀ f ∈ r.fields,
      braces ((pair f).setterTokens config.runtime) =
        braces ((pair f).alone.setterTokens config.runtime) ++
          (calls f).flatMap AccessorPair.cascadeCall ∧
      calls f = r.graph.dependents f.property ∧
      (arms.lookup f.property).getD [] = (r.graph.dependents f.property).map Ident.text ∧
      r.graph.dependents f.property =
        ((r.updaters.filter (·.reads.contains f.property)).map (·.name)).eraseDups) ∧
    (∀ arm ∈ arms, arm.1 ∈ r.fields.map (·.property)) ∧ (arms.map Prod.fst).Nodup ∧
    (r.fields.map fun f => (calls f).length).sum = r.graph.edgeCount := by
  intro r pair calls arms
  obtain ⟨⟨decls, ds, hfields⟩, hgraph⟩ := analyse_eq_ok h
  have hnodup := (Resolution.fields_resolved hfields).nodup_properties
  have hcalls : ∀ f, calls f = r.graph.dependents f.property := fun f =>
    AccessorPair.calls_eq _ _
  have harms : arms = (Metadata.ofClass r).arms := Metadata.writtenArms_eq _ _
  refine ⟨fun f hf => ⟨?_, hcalls f, ?_, ?_⟩, fun arm harm => ?_, ?_, ?_⟩
  · rw [hcalls f]
    exact AccessorPair.braces_setterTokens _ _
  · rw [harms]
    exact dependents_ofClass (List.mem_map_of_mem hf)
  · rw [show r.graph = _ from hgraph]
    exact DependencyGraph.dependents_ofUpdaters hnodup (List.mem_map_of_mem hf)
  · rw [harms] at harm
    exact (arms_sublist r).subset (List.mem_map_of_mem harm)
  · rw [harms]
    exact hnodup.sublist (arms_sublist r)
  · simp only [hcalls]
    rw [show r.graph = _ from hgraph, ← DependencyGraph.sum_length_dependents hnodup, List.map_map]
    rfl

/-! ## A class with a derived property -/

/-- A struct with two observable fields and a method that derives one from the other. -/
def doubling : Candidate :=
  let marker (kind : MarkerKind) : Attribute :=
    ⟨⟨false, ⟨false, [.plain kind.name]⟩, .none⟩, .empty⟩
  let field (name : String) : Field := ⟨[marker .observable], .inherited, .plain name, .empty⟩
  let update : Method :=
    { attributes := [marker .dependentUpdater]
      visibility := .inherited
      isDefault := false
      signature := ⟨false, false, false, none, .plain "update", .empty,
        [(.receiver [] (some none) true none, false)], none, none⟩
      body := .call (.name (.plain "self")) (.plain "set_double")
        (.call (.name (.plain "self")) (.plain "count") .empty) }
  { modules := []
    item := ⟨[marker .reactiveModel], .inherited, .plain "Model", .empty, .named []⟩
    fields := [field "_count", field "_double"]
    impls := [⟨[], .empty, .empty, none, none, .empty, [.method update]⟩]
    allowCycles := false }

theorem fields_doubling :
    Resolution.fields {} "Model" [.sample "_count", .sample "_double"] =
      .ok ([.sample "_count" "Count" "count", .sample "_double" "Double" "double"], []) := by
  rw [Resolution.fields, prefixesLongestFirst_default]
  rfl

theorem analyse_doubling :
    ∃ a, doubling.analyse {} = .ok a ∧
      .sample "_count" "Count" "count" ∈ a.reactiveClass.fields ∧
      a.reactiveClass.graph.dependents "Count" = [.plain "update"] := by
  have h : Resolution.fields {} doubling.qualifiedName doubling.members.1.fields = _ :=
    fields_doubling
  unfold Candidate.analyse
  dsimp only
  rw [h]
  exact ⟨_, rfl, .head _, by decide⟩

/-- Setting the count runs the updater, and the metadata says so. -/
theorem emission_agrees_doubling :
    ∃ a, doubling.analyse {} = .ok a ∧
      let r := a.reactiveClass
      let calls := fun f => (AccessorPair.ofField r.graph f).calls ({} : Config).runtime
      let arms := (Metadata.ofClass r).writtenArms ({} : Config).runtime
      calls (.sample "_count" "Count" "count") = [.plain "update"] ∧
        (arms.lookup "Count").getD [] = ["update"] ∧ (arms.map Prod.fst).Nodup ∧
        (r.fields.map fun f => (calls f).length).sum = r.graph.edgeCount := by
  obtain ⟨a, h, hmem, hupdate⟩ := analyse_doubling
  obtain ⟨hfields, -, hnodup, hsum⟩ := emission_agrees h
  obtain ⟨-, hcalls, harm, -⟩ := hfields _ hmem
  exact ⟨a, h, hcalls.trans hupdate, harm.trans (congrArg (List.map Ident.text) hupdate), hnodup,
    hsum⟩

end ReactiveModel.Emission
