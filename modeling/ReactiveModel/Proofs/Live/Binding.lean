import ReactiveModel.Emission.Source
import ReactiveModel.Proofs.Class.Member
import ReactiveModel.Proofs.Live.Lifetime

/-!
# What binding adds up to

The handlers of an analysed class have distinct elements, so each of them is looked for once in a
bind, and the report splits them in two (`Reported`). A handler goes to the first button of its
element, so after a number of binds this button has the handler as often and no other button has
anything (`HasBound`), and a click on it calls the method as often (`binding_adds_up`).
-/

namespace ReactiveModel

namespace Live

variable {V : Type}

/-! ## The models of a class -/

namespace LiveClass

/-- The live class of an analysed class, by what its properties begin with and what its methods
do. -/
def ofClass (r : ReactiveClass) (initial : ObservableField → V) (behavior : Ident → Behavior V) :
    LiveClass V where
  name := r.qualifiedName
  slots := r.fields.map fun f => ⟨f.getter.name, f.property, initial f⟩
  updaters := r.updaters.map fun u => (u, behavior u.name)
  handlers := r.handlers.map fun h => (h, behavior h.name)

/-- The class looks for the elements that the metadata gives, with their handlers, as the generated
routine does. -/
theorem bindings_ofClass (r : ReactiveClass) (initial : ObservableField → V)
    (behavior : Ident → Behavior V) :
    let bindings := (ofClass r initial behavior).bindings.map fun b => (b.element, b.handler)
    bindings = (Emission.Metadata.ofClass r).bindings ∧
      bindings = (Emission.subscriptions r).map fun x => (x.element, x.handler.text) := by
  simp [bindings, ofClass, Emission.Metadata.ofClass, Emission.subscriptions, binding,
    Function.comp_def]

/-- Calls a method a number of times. -/
def callTimes [BEq V] (c : LiveClass V) (fuel : Nat) (behavior : Behavior V) :
    Nat → State V → Option (Outcome V)
  | 0, s => some { state := s }
  | k + 1, s => do
    let o ← c.call fuel behavior s
    o.next (callTimes c fuel behavior k)

end LiveClass

namespace Session

open LiveClass (binding ofClass)

variable {s t : Session V} {handler : ClickHandler × Behavior V}
  {handlers : List (ClickHandler × Behavior V)} {buttons : List (Button V)}

/-! ## Buttons -/

/-- A handler goes to the first button of its element. -/
theorem getElem?_subscribe (i : Nat) :
    (subscribe handler buttons)[i]? = buttons[i]?.map fun b =>
      if b.name ∉ (names buttons).take i ∧ b.name = handler.1.element then
        { b with handlers := b.handlers ++ [handler] }
      else b := by
  induction buttons generalizing i with
  | nil => rfl
  | cons first rest ih =>
    rw [subscribe]
    cases i with
    | zero => split_ifs with h <;> simp [h]
    | succ i =>
      have htake : (names (first :: rest)).take (i + 1) = first.name :: (names rest).take i := rfl
      rw [htake]
      split_ifs with h
      · -- the button is found, so a later one of the same name is not the first
        have hlater : ∀ b : Button V,
            ¬ (b.name ∉ first.name :: (names rest).take i ∧ b.name = handler.1.element) :=
          fun b hb => hb.1 (List.mem_cons.2 (.inl (hb.2.trans h.symm)))
        simp only [hlater, if_false, Option.map_id']
        rfl
      · have hlater : ∀ b : Button V,
            (b.name ∉ first.name :: (names rest).take i ∧ b.name = handler.1.element) ↔
              b.name ∉ (names rest).take i ∧ b.name = handler.1.element := by
          intro b
          rw [List.mem_cons, not_or, and_assoc]
          exact and_iff_right_of_imp fun hb heq => h (heq ▸ hb.2)
        simp only [hlater, List.getElem?_cons_succ]
        exact ih i

/-- Each handler goes to the first button of its element. -/
theorem getElem?_subscribeAll (i : Nat) :
    (subscribeAll handlers buttons)[i]? = buttons[i]?.map fun b =>
      { b with handlers := b.handlers ++ if b.name ∈ (names buttons).take i then [] else
        handlers.filter (·.1.element = b.name) } := by
  induction handlers generalizing buttons with
  | nil => simp [subscribeAll]
  | cons handler rest ih =>
    change (subscribeAll rest (subscribe handler buttons))[i]? = _
    rw [ih, getElem?_subscribe, names_subscribe, Option.map_map]
    congr 1
    funext b
    by_cases hfirst : b.name ∈ (names buttons).take i
    · simp [hfirst]
    · by_cases hname : b.name = handler.1.element
      · simp [hfirst, ← hname]
      · simp [hfirst, hname, Ne.symm hname]

/-- A button at a place among others after a number of binds: the first of its name has the handlers
of that name as often, another one has none. -/
def boundButton (c : LiveClass V) (buttons : List String) (k i : Nat) (name : String) :
    Button V where
  name := name
  handlers := if name ∈ buttons.take i then [] else
    (List.replicate k (c.handlers.filter (·.1.element = name))).flatten

/-- The buttons of the root are as a number of binds leaves them. -/
def HasBound (c : LiveClass V) (buttons : List String) (k : Nat) (s : Session V) : Prop :=
  ∀ i, s.buttons[i]? = buttons[i]?.map (boundButton c buttons k i)

theorem HasBound.names {c : LiveClass V} {buttons : List String} {k : Nat}
    (h : HasBound c buttons k s) : names s.buttons = buttons := by
  refine List.ext_getElem? fun i => ?_
  rw [Session.names, List.getElem?_map, h i, Option.map_map]
  exact Option.map_id'

theorem hasBound_start (c : LiveClass V) (buttons : List String) :
    HasBound c buttons 0 (start c buttons) := by
  intro i
  rw [start, List.getElem?_map]
  congr 1
  funext name
  simp [boundButton]

/-- The handler of an element is the only one of it. -/
theorem filter_element_eq {c : LiveClass V} (hc : (c.handlers.map (·.1.element)).Nodup)
    (hh : handler ∈ c.handlers) :
    c.handlers.filter (·.1.element = handler.1.element) = [handler] := by
  obtain ⟨before, after, heq⟩ := List.append_of_mem hh
  rw [heq, List.map_append, List.map_cons, List.nodup_middle, List.nodup_cons, ← List.map_append]
    at hc
  have hother : ∀ other ∈ before ++ after, ¬ decide (other.1.element = handler.1.element) = true :=
    fun other hmem hsame => hc.1 (List.mem_map.2 ⟨other, hmem, of_decide_eq_true hsame⟩)
  rw [List.forall_mem_append] at hother
  rw [heq, List.filter_append, List.filter_cons_of_pos (by simp),
    List.filter_eq_nil_iff.2 hother.1, List.filter_eq_nil_iff.2 hother.2]
  rfl

/-- The first button of an element has its handler once for each bind. -/
theorem handlers_boundButton {c : LiveClass V} {names : List String} {i : Nat} (k : Nat)
    (hc : (c.handlers.map (·.1.element)).Nodup) (hh : handler ∈ c.handlers)
    (hfirst : handler.1.element ∉ names.take i) :
    (boundButton c names k i handler.1.element).handlers = List.replicate k handler := by
  rw [boundButton, if_neg hfirst, filter_element_eq hc hh, List.flatten_replicate_singleton]

/-- Any other button has no handlers. -/
theorem handlers_boundButton_of_free {c : LiveClass V} {names : List String} {i : Nat} (k : Nat)
    {name : String}
    (hfree : ∀ handler ∈ c.handlers, handler.1.element = name → name ∈ names.take i) :
    (boundButton c names k i name).handlers = [] := by
  rw [boundButton]
  split_ifs with hfirst
  · rfl
  · have hnone : c.handlers.filter (·.1.element = name) = [] :=
      List.filter_eq_nil_iff.2 fun handler hh hname =>
        hfirst (hfree handler hh (of_decide_eq_true hname))
    simp [hnone]

theorem HasBound.bind {buttons : List String} {k : Nat} (h : HasBound s.model buttons k s) :
    HasBound s.model buttons (k + 1) s.bind.1.session := by
  intro i
  rw [(binds_bind s).buttons]
  change (subscribeAll s.model.handlers s.buttons)[i]? = _
  rw [getElem?_subscribeAll, h.names, h i, Option.map_map]
  congr 1
  funext name
  by_cases hfirst : name ∈ buttons.take i
  · simp [boundButton, hfirst]
  · simp [boundButton, hfirst, List.replicate_succ']

/-! ## Reports -/

/-- What a bind looks for, reports and logs among named buttons. -/
structure Reported (c : LiveClass V) (buttons : List String) (r : Reaction V)
    (report : BindReport) : Prop where
  isSource : r.session.isSource = true
  lookups : r.lookups = c.bindings.map (·.element)
  model : report.model = c.name
  subscribed : report.subscribed = c.bindings.filter (·.element ∈ buttons)
  missing : report.missing = c.bindings.filter (·.element ∉ buttons)
  warnings : r.warnings = report.missing.map (missingButton c)

theorem reported_bind {buttons : List String} (hb : names s.buttons = buttons) :
    Reported s.model buttons { s.bind.1 with report := some s.bind.2 } s.bind.2 := by
  have h := binds_bind s
  have hfound : ∀ b : ClickBinding,
      ({ session := s.install } : Reaction V).session.hasButton b.element =
        decide (b.element ∈ buttons) := by
    intro b
    rw [Bool.eq_iff_iff, decide_eq_true_iff, ← hb]
    exact hasButton_iff
  have hmodel : s.install.model = s.model := rfl
  have hmissing : s.bind.2.missing = s.model.bindings.filter (·.element ∉ buttons) := by
    rw [h.missing]
    simp [hfound, LiveClass.bindings]
  refine ⟨h.isSource, h.lookups, h.name, ?_, hmissing, ?_⟩
  · rw [h.subscribed]
    simp [hfound, LiveClass.bindings]
  · refine h.warnings.trans ?_
    rw [hmissing]
    simp [hfound, hmodel, LiveClass.bindings]

/-- The error of a report lists what is missing. -/
theorem result_eq (report : BindReport) :
    report.result = if report.missing = [] then .ok report
      else .error ⟨report.model, report.missing.map (·.element)⟩ := by
  unfold BindReport.result BindReport.isComplete
  simp only [List.isEmpty_iff]
  rfl

/-! ## Runs -/

section Runs

variable [BEq V] {depth : Nat} {act : Step V} {acts : List (Step V)} {r : Reaction V}
  {reactions : List (Reaction V)} {c : LiveClass V} {buttons : List String}

/-- How many binds are reported. -/
def reports (reactions : List (Reaction V)) : Nat := reactions.countP (·.report.isSome)

/-- Whether a step is a bind. -/
def Step.isBind : Step V → Bool
  | .bind => true
  | _ => false

/-- A bind of a model that is alive is reported, and nothing else is. -/
theorem report_of_step (h : s.step depth act = some r) (hb : names s.buttons = buttons) :
    r.report.isSome = (act.isBind && s.isAlive) ∧
      ∀ report, r.report = some report → Reported s.model buttons r report := by
  obtain ⟨rfl, hl, rfl⟩ | ⟨rfl, rfl⟩ | ⟨rfl, rfl⟩ | ⟨hdead, -, -, -, hnone⟩ := step_eq_some h
  · refine ⟨by simp [Step.isBind, hl], fun report hreport => ?_⟩
    cases hreport
    exact reported_bind hb
  · exact ⟨rfl, nofun⟩
  · exact ⟨rfl, nofun⟩
  · refine ⟨?_, by simp [hnone]⟩
    cases act <;> simp_all [Step.isBind]

theorem hasBound_of_step {k : Nat} (h : HasBound s.model buttons k s)
    (hr : s.step depth act = some r) :
    HasBound s.model buttons (k + reports [r]) r.session := by
  obtain ⟨rfl, hl, rfl⟩ | ⟨rfl, rfl⟩ | ⟨rfl, rfl⟩ | ⟨-, -, -, ⟨state, hs⟩, hnone⟩ :=
    step_eq_some hr
  · exact h.bind
  · intro i
    rw [buttons_dropOwner]
    exact h i
  · intro i
    rw [buttons_clearSource]
    exact h i
  · intro i
    rw [hs, reports, List.countP_singleton, hnone]
    exact h i

/-- What a run has reported, and what it has left at the buttons. -/
structure Traced (c : LiveClass V) (buttons : List String) (reactions : List (Reaction V))
    (s : Session V) : Prop where
  model : s.model = c
  hasBound : HasBound c buttons (reports reactions) s
  reported : ∀ r ∈ reactions, ∀ report, r.report = some report → Reported c buttons r report

theorem traced_of_run (h : (start c buttons).run depth acts = some (reactions, s)) :
    Traced c buttons reactions s := by
  refine run_induction (motive := fun _ reactions s => Traced c buttons reactions s)
    ⟨rfl, hasBound_start c buttons, nofun⟩ ?_ h
  rintro acts reactions t act r - hr ⟨rfl, hbound, hreported⟩
  refine ⟨model_of_step hr, ?_, ?_⟩
  · rw [reports, List.countP_append]
    exact hasBound_of_step hbound hr
  · intro r' hr' report hreport
    rcases List.mem_append.1 hr' with hr' | hr'
    · exact hreported r' hr' report hreport
    · cases List.mem_singleton.1 hr'
      exact (report_of_step hr hbound.names).2 report hreport

/-- As long as the owner has the model, each bind is reported. -/
theorem reports_of_run (h : (start c buttons).run depth acts = some (reactions, s))
    (howner : .dropOwner ∉ acts) : reports reactions = acts.countP Step.isBind := by
  refine run_induction (motive := fun acts reactions _ => .dropOwner ∉ acts →
    reports reactions = acts.countP Step.isBind) (fun _ => rfl) ?_ h howner
  intro acts reactions t act r hrun hr ih howner
  rw [List.mem_append, not_or] at howner
  have hreport := (report_of_step hr rfl).1
  rw [isAlive_of_owner hrun howner.1, Bool.and_true] at hreport
  rw [reports, List.countP_append, ← reports, ih howner.1, List.countP_append,
    List.countP_singleton, List.countP_singleton, hreport]

/-! ## Clicks -/

omit [BEq V] in
/-- The first button of a name has the handlers of that name. -/
theorem handlersOf_of_hasBound {k : Nat} (h : HasBound c buttons k s) {name : String}
    (hname : name ∈ buttons) :
    s.handlersOf name = (List.replicate k (c.handlers.filter (·.1.element = name))).flatten := by
  rw [← h.names, Session.names, List.mem_map] at hname
  obtain ⟨b, hb, hbname⟩ := hname
  obtain ⟨first, hfirst⟩ : ∃ first, s.buttons.find? (·.name == name) = some first :=
    Option.isSome_iff_exists.1 (List.find?_isSome.2 ⟨b, hb, beq_iff_eq.2 hbname⟩)
  obtain ⟨hfound, before, after, heq, hbefore⟩ := List.find?_eq_some_iff_append.1 hfirst
  have hplace : s.buttons[before.length]? = some first := by simp [heq]
  rw [h before.length] at hplace
  obtain ⟨n, -, rfl⟩ := Option.map_eq_some_iff.1 hplace
  obtain rfl : n = name := beq_iff_eq.1 hfound
  have htake : buttons.take before.length = Session.names before := by
    rw [← h.names, heq]
    simp [Session.names]
  have hnot : n ∉ buttons.take before.length := by
    rw [htake, Session.names, List.mem_map]
    rintro ⟨b', hb', hb'name⟩
    have hne := hbefore b' hb'
    simp [hb'name] at hne
  rw [handlersOf, hfirst]
  simp [boundButton, hnot]

/-- A handler that a button has a number of times is called as often. -/
theorem foldlM_activate_replicate {k : Nat} (h : r.session.isAlive = true) :
    (List.replicate k handler).foldlM (activate depth false) r =
      (r.session.model.callTimes depth handler.2 k r.session.state).map fun o =>
        { r with
          session := { r.session with state := o.state }
          events := r.events ++ o.events } := by
  induction k generalizing r with
  | zero => simp [LiveClass.callTimes]
  | succ k ih =>
    rw [List.replicate_succ, List.foldlM_cons, activate_of_free h, LiveClass.callTimes]
    cases hcall : r.session.model.call depth handler.2 r.session.state with
    | none => rfl
    | some o =>
      have hrest := ih (r := { r with
        session := { r.session with state := o.state }, events := r.events ++ o.events }) h
      refine hrest.trans ?_
      change _ = Option.map _ (LiveClass.Outcome.next o _)
      rw [LiveClass.Outcome.next, Option.map_map]
      congr 1
      funext o'
      simp

theorem clickWithin_of_replicate {k : Nat} {name : String} (h : s.isAlive = true)
    (hs : s.handlersOf name = List.replicate k handler) :
    s.clickWithin depth name false =
      (s.model.callTimes depth handler.2 k s.state).map fun o =>
        { session := { s with state := o.state }, events := o.events } := by
  rw [clickWithin, hs]
  exact foldlM_activate_replicate h

/-- The handlers of an analysed class have distinct elements, and any run of a model of the class
beside any buttons looks for them in each bind, once each and in order, makes the model the data
source, and reports and warns of what is missing; the report is an error if and only if something
is. After a number of binds the first button of a bound element has its handler as often, and no
other button has a handler; a click on it while the model is alive and not borrowed calls the method
as often. -/
theorem binding_adds_up {config : Config} {candidate : Candidate} {a : Analysis}
    (ha : candidate.analyse config = .ok a) {initial : ObservableField → V}
    {behavior : Ident → Behavior V}
    (h : (start (ofClass a.reactiveClass initial behavior) buttons).run depth acts =
      some (reactions, s)) :
    let c := ofClass a.reactiveClass initial behavior
    let k := reports reactions
    let elements := c.bindings.map fun b => (b.element, b.handler)
    elements = (Emission.Metadata.ofClass a.reactiveClass).bindings ∧
    elements = (Emission.subscriptions a.reactiveClass).map (fun x => (x.element, x.handler.text)) ∧
    (c.bindings.map (·.element)).Nodup ∧
    (.dropOwner ∉ acts → k = acts.countP Step.isBind) ∧
    (∀ r ∈ reactions, ∀ report, r.report = some report →
      Reported c buttons r report ∧
      report.result = if report.missing = [] then .ok report
        else .error ⟨c.name, report.missing.map (·.element)⟩) ∧
    (s.isAlive = true → ∃ r report, s.step depth .bind = some r ∧ r.report = some report) ∧
    names s.buttons = buttons ∧
    (∀ i b, s.buttons[i]? = some b →
      (∀ handler ∈ c.handlers, handler.1.element = b.name → b.name ∉ buttons.take i →
        b.handlers = List.replicate k handler) ∧
      ((∀ handler ∈ c.handlers, handler.1.element = b.name → b.name ∈ buttons.take i) →
        b.handlers = [])) ∧
    ∀ handler ∈ c.handlers, handler.1.element ∈ buttons → s.isAlive = true →
      s.step depth (.click handler.1.element) =
        (c.callTimes depth handler.2 k s.state).map fun o =>
          { session := { s with state := o.state }, events := o.events } := by
  intro c k elements
  obtain ⟨hmodel, hbound, hreported⟩ := traced_of_run h
  have hnodup : (c.handlers.map (·.1.element)).Nodup := by
    have := Candidate.nodup_elements_of_analyse ha
    simpa [c, ofClass, Function.comp_def] using this
  have helements : c.bindings.map (·.element) = c.handlers.map (·.1.element) := by
    simp [LiveClass.bindings, binding, Function.comp_def]
  obtain ⟨hmetadata, hroutine⟩ := LiveClass.bindings_ofClass a.reactiveClass initial behavior
  refine ⟨hmetadata, hroutine, helements ▸ hnodup, reports_of_run h, fun r hr report hreport => ?_,
    fun hl => ⟨_, _, if_pos hl, rfl⟩, hbound.names, fun i b hb => ?_, fun handler hh hname hl => ?_⟩
  · have hrep := hreported r hr report hreport
    exact ⟨hrep, hrep.model ▸ result_eq report⟩
  · rw [hbound i] at hb
    obtain ⟨name, -, rfl⟩ := Option.map_eq_some_iff.1 hb
    refine ⟨?_, handlers_boundButton_of_free k⟩
    rintro handler hh rfl hfirst
    exact handlers_boundButton k hnodup hh hfirst
  · have hhandlers : s.handlersOf handler.1.element = List.replicate k handler := by
      rw [handlersOf_of_hasBound hbound hname, filter_element_eq hnodup hh,
        List.flatten_replicate_singleton]
    have hc : s.model = c := hmodel
    rw [← hc]
    exact clickWithin_of_replicate hl hhandlers

end Runs

/-- Beside two buttons of one name, two binds give the first of them two handlers, and a click calls
the method twice. -/
theorem binding_adds_up_game :
    ∃ a, (Candidate.game false).analyse {} = .ok a ∧
      let served : Ident → Behavior Unit := fun _ _ => [.note "served"]
      ∃ reactions s, (start (ofClass a.reactiveClass (fun _ => ()) served) ["Serve", "Serve"]).run 1
          [.bind, .bind] = some (reactions, s) ∧
        s.step 1 (.click "Serve") =
          some { session := s, events := [.noted "served", .noted "served"] } := by
  obtain ⟨a, ha, hhandlers⟩ := Candidate.analyse_game false
  refine ⟨a, ha, ?_⟩
  intro served
  let c := ofClass a.reactiveClass (fun _ => ()) served
  have hc : c.handlers = [(⟨.plain "on_serve", "Serve"⟩, served (.plain "on_serve"))] := by
    simp [c, ofClass, hhandlers]
  have hfirst : (start c ["Serve", "Serve"]).run 1 [.bind] = some (_, _) := rfl
  obtain ⟨-, -, -, -, -, hagain, -⟩ := binding_adds_up ha hfirst
  obtain ⟨r, report, hr, -⟩ := hagain (isAlive_of_owner hfirst (by simp))
  have h := run_concat.2 ⟨_, _, r, hfirst, hr, rfl, rfl⟩
  obtain ⟨-, -, -, hcount, -, -, -, -, hclick⟩ := binding_adds_up ha h
  have hmem : (⟨.plain "on_serve", "Serve"⟩, served (.plain "on_serve")) ∈ c.handlers :=
    hc ▸ List.mem_singleton_self _
  have htwice := hclick _ hmem (by simp) (isAlive_of_owner h (by simp))
  rw [hcount (by simp)] at htwice
  exact ⟨_, _, h, htwice⟩

end Session
end Live
end ReactiveModel
