import ReactiveModel.Proofs.Class.Member
import ReactiveModel.Proofs.Emission.Cascade
import ReactiveModel.Proofs.Generation.Unit

/-!
# Calls in generated code

The code of a class calls updaters in its setters and handlers on clicks. Both are read back from
the generated tokens (`calls_eq`), and come from marked methods whose signatures pass the check; the
other marked methods are refused. So all calls can be made if and only if the check overlooks
nothing (`calls_legal_iff`).
-/

namespace ReactiveModel

namespace Emission

open Token

/-! ## Reading generated code -/

/-- What the groups of a delimiter among tokens have in them. -/
def groups (delimiter : Delimiter) (tokens : List Token) : List (List Token) :=
  tokens.filterMap fun
    | .group d body => if d = delimiter then some body else none
    | _ => none

/-- The method of the model that an arm of a `match` calls without arguments. -/
def readCall : List Token → Option Ident
  | .mark '=' _ :: .mark '>' _ :: .word model :: .mark '.' _ :: .word method ::
      .group .parenthesis [] :: _ => if model = .plain "model" then some method else none
  | _ :: rest => readCall rest
  | [] => none

/-- The method that a click calls: the closure is the last argument of the last call but one where a
button is found, and calls the method in the first arm of its `match`. -/
def Subscription.call (runtime : List Token) (s : Subscription) : Option Ident :=
  let found := (groups .brace (braces (s.toTokens runtime))).headD []
  let arguments := ((groups .parenthesis found).reverse[1]?).getD []
  let closure := ((groups .parenthesis arguments).getLast?).getD []
  readCall (((groups .brace (braces closure)).getLast?).getD [])

theorem groups_append (delimiter : Delimiter) (tokens tokens' : List Token) :
    groups delimiter (tokens ++ tokens') = groups delimiter tokens ++ groups delimiter tokens' :=
  List.filterMap_append

/-- A subscription tells whether the button is found. -/
theorem Subscription.groups_braces_toTokens (runtime : List Token) (s : Subscription) :
    groups .brace (braces (s.toTokens runtime)) =
      [s.whenFound runtime, s.whenMissing runtime] := by
  rw [toTokens, braces_append]
  rfl

theorem Subscription.call_eq (runtime : List Token) (s : Subscription) :
    s.call runtime = some s.handler := by
  let arguments := phrase "& * button , :: std :: boxed :: Box :: new" ++
    parenthesized (phrase "move ||" ++ braced (s.activation runtime))
  have harguments : groups .parenthesis (s.whenFound runtime) =
      groups .parenthesis (phrase "let model = :: std :: rc :: Rc :: downgrade" ++
        parenthesized (phrase "this") ++ op ";" ++ runtime) ++
      [arguments, [.string s.element] ++ op "," ++ [.string s.handler.text]] := by
    simp only [whenFound, groups_append, List.append_assoc]
    rfl
  have hclosure : groups .parenthesis arguments =
      [phrase "move ||" ++ braced (s.activation runtime)] := rfl
  obtain ⟨arms, harms, hcall⟩ : ∃ arms,
      groups .brace (s.activation runtime) = [phrase "return ;", arms] ∧
      readCall arms = some s.handler := ⟨_, rfl, rfl⟩
  simp [call, groups_braces_toTokens, harguments, hclosure, harms, hcall, braces_append]

/-- The methods that the code of a class calls, in setters and on clicks. -/
def calls (runtime : List Token) (c : ReactiveClass) : List Ident :=
  (accessorPairs c).flatMap (AccessorPair.calls runtime) ++
    (subscriptions c).filterMap (Subscription.call runtime)

/-- Setters call the updaters that depend on their properties, and clicks call the handlers. -/
theorem calls_eq (runtime : List Token) (c : ReactiveClass) :
    calls runtime c =
      c.fields.flatMap (fun f => c.graph.dependents f.property) ++ c.handlers.map (·.name) := by
  have hsetters : ∀ f, (AccessorPair.ofField c.graph f).calls runtime =
      c.graph.dependents f.property := fun f => AccessorPair.calls_eq _ _
  simp [calls, accessorPairs, subscriptions, List.flatMap_map, hsetters,
    Subscription.call_eq, Function.comp_def]

/-- What is called is an updater or a handler of the class. -/
theorem mem_of_mem_calls {config : Config} {c : Candidate} {a : Analysis} {runtime : List Token}
    {i : Ident} (h : c.analyse config = .ok a) (hi : i ∈ calls runtime a.reactiveClass) :
    i ∈ a.reactiveClass.updaters.map (·.name) ∨ i ∈ a.reactiveClass.handlers.map (·.name) := by
  rw [calls_eq, List.mem_append] at hi
  refine hi.imp_left fun hi => ?_
  obtain ⟨f, hf, hi⟩ := List.mem_flatMap.1 hi
  obtain ⟨⟨decls, ds, hfields⟩, hgraph⟩ := analyse_eq_ok h
  have hnodup := (Resolution.fields_resolved hfields).nodup_properties
  rw [hgraph, DependencyGraph.dependents_ofUpdaters hnodup (List.mem_map_of_mem hf),
    List.mem_eraseDups] at hi
  exact (List.filter_sublist.map _).subset hi

end Emission

/-! ## Legal calls -/

namespace ClassOutput

variable {config : Config} {items : List Item} {o : UnitOutput} {c : ClassOutput}

/-- The methods that the code of the class calls. -/
def calls (config : Config) (c : ClassOutput) : List Ident :=
  Emission.calls config.runtime c.analysis.reactiveClass

/-- All that a method gives is a violation of its signature, which names it. -/
def Refuses (c : ClassOutput) (m : Method) : Prop :=
  ∃ d ∈ c.diagnostics, d.kind = .invalidMemberSignature ∧
    d.className = c.candidate.qualifiedName ∧ d.member = m.name.text ∧
    Members.ofMethod c.candidate.qualifiedName m = { violations := [d] }

/-- The code of the class calls only methods that can be called, and the other marked methods are
refused. -/
structure CallsLegally (config : Config) (c : ClassOutput) : Prop where
  callable : ∀ i ∈ c.calls config, ∃ m ∈ c.candidate.methods,
    m.name = i ∧ m.IsMarked ∧ m.signature.IsCallable
  refused : ∀ m ∈ c.candidate.methods, m.IsMarked → ¬ m.signature.IsCallable → c.Refuses m

theorem refuses_of_analyse (h : c.candidate.analyse config = .ok c.analysis) {m : Method}
    (hm : m ∈ c.candidate.methods) (hmarked : m.IsMarked) (hs : ¬ m.signature.IsAccepted) :
    c.Refuses m := by
  rw [← Members.signatureError?_eq_none_iff] at hs
  obtain ⟨e, he⟩ := Option.ne_none_iff_exists'.1 hs
  have hgives : Members.ofMethod c.candidate.qualifiedName m = _ :=
    Members.ofMethod_of_refused hmarked he
  refine ⟨_, List.mem_append_left _ ?_, rfl, rfl, rfl, hgives⟩
  refine Candidate.violations_ofMethod_subset h hm ?_
  rw [hgives]
  exact List.mem_singleton_self _

theorem not_refuses_of_isAccepted {m : Method} (hs : m.signature.IsAccepted) : ¬ c.Refuses m := by
  rintro ⟨d, -, hkind, -, -, hgives⟩
  have hd : d ∈ (Members.ofMethod c.candidate.qualifiedName m).violations := by
    rw [hgives]
    exact List.mem_singleton_self d
  have hmarker := Members.kind_eq_of_mem_ofMethod (Members.signatureError?_eq_none_iff.2 hs) hd
  rw [hkind] at hmarker
  cases hmarker

/-- Whatever the code of a class calls is declared by a marked method that passes the check, and
every marked method that does not pass it is refused. All calls are legal, and all other marked
methods refused, if and only if the check lets no marked method pass that is `unsafe`, takes any
number of arguments or borrows its receiver for a named lifetime. -/
theorem calls_legal_iff (h : UnitOutput.ofItems config items = .ok o) (hc : c ∈ o.classes) :
    (∀ i ∈ c.calls config, ∃ m ∈ c.candidate.methods,
      m.name = i ∧ m.IsMarked ∧ m.signature.IsAccepted) ∧
    (∀ m ∈ c.candidate.methods, m.IsMarked → ¬ m.signature.IsAccepted → c.Refuses m) ∧
    (c.CallsLegally config ↔ ∀ m ∈ c.candidate.methods, m.IsMarked → m.signature.IsAccepted →
      ¬ m.signature.IsOverlooked) := by
  have ha := UnitOutput.analyse_of_mem_classes h hc
  have haccepted : ∀ i ∈ c.calls config, ∃ m ∈ c.candidate.methods,
      m.name = i ∧ m.IsMarked ∧ m.signature.IsAccepted := fun i hi =>
    Candidate.exists_method_of_analyse ha (Emission.mem_of_mem_calls ha hi)
  refine ⟨haccepted, fun m hm hmarked hs => refuses_of_analyse ha hm hmarked hs, ?_⟩
  constructor
  · intro hlegal m hm hmarked hs hoverlooked
    have hcallable : ¬ m.signature.IsCallable := fun hcallable =>
      (Signature.isCallable_iff.1 hcallable).2 hoverlooked
    exact not_refuses_of_isAccepted hs (hlegal.refused m hm hmarked hcallable)
  · intro hnone
    refine ⟨fun i hi => ?_, fun m hm hmarked hcallable => ?_⟩
    · obtain ⟨m, hm, hname, hmarked, hs⟩ := haccepted i hi
      exact ⟨m, hm, hname, hmarked, Signature.isCallable_iff.2 ⟨hs, hnone m hm hmarked hs⟩⟩
    · refine refuses_of_analyse ha hm hmarked fun hs => hcallable ?_
      exact Signature.isCallable_iff.2 ⟨hs, hnone m hm hmarked hs⟩

theorem ofItems_game (isUnsafe : Bool) :
    ∃ o, UnitOutput.ofItems {} [.struct gameStruct, .impl (gameImpl isUnsafe)] = .ok o ∧
      ∃ c ∈ o.classes, c.candidate.methods = [.serve isUnsafe] ∧
        c.calls {} = [.plain "on_serve"] := by
  cases isUnsafe <;> exact ⟨_, rfl, _, List.mem_singleton_self _, rfl,
    (Emission.calls_eq _ _).trans (by decide +kernel)⟩

/-- A click handler that is safe is called, and all is legal. -/
theorem calls_legal_iff_game :
    ∃ o, UnitOutput.ofItems {} [.struct gameStruct, .impl (gameImpl false)] = .ok o ∧
      ∃ c ∈ o.classes, c.calls {} = [.plain "on_serve"] ∧ c.CallsLegally {} := by
  obtain ⟨o, h, c, hc, hmethods, hcalls⟩ := ofItems_game false
  refine ⟨o, h, c, hc, hcalls, (calls_legal_iff h hc).2.2.2 fun m hm _ _ => ?_⟩
  rw [hmethods, List.mem_singleton] at hm
  simp [hm, Method.serve, Signature.IsOverlooked, Param.hasLifetime]

/-- A click handler that is `unsafe` is called all the same. -/
theorem not_forall_calls_legal :
    ¬ ∀ (config : Config) (items : List Item) (o : UnitOutput),
      UnitOutput.ofItems config items = .ok o → ∀ c ∈ o.classes, c.CallsLegally config := by
  intro hall
  obtain ⟨o, h, c, hc, hmethods, hcalls⟩ := ofItems_game true
  have hserve : .plain "on_serve" ∈ c.calls {} := by
    rw [hcalls]
    exact List.mem_singleton_self _
  obtain ⟨m, hm, -, -, hcallable⟩ := (hall _ _ o h c hc).callable _ hserve
  rw [hmethods, List.mem_singleton] at hm
  have hsafe := hcallable.isUnsafe
  simp [hm, Method.serve] at hsafe

end ClassOutput

end ReactiveModel
