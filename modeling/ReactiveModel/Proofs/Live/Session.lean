import Mathlib.Algebra.BigOperators.Group.List.Basic
import Mathlib.Algebra.Ring.Nat
import Mathlib.Data.List.Induction
import ReactiveModel.Live.Session

/-!
# Steps of a session

What each step does, told once (`step_eq_some`): binding subscribes the handlers of the model to the
buttons that it finds (`Binds`), writes and clicks change the state alone, and the rest is about
handles. A run is a sequence of steps, so what each step keeps is kept by a run (`run_induction`).
-/

namespace ReactiveModel.Live

variable {V : Type}

namespace Handles

theorem upgrade?_of_isAlive {h : Handles} (hl : h.isAlive = true) : h.upgrade? = some h.clone :=
  if_pos hl

theorem upgrade?_of_not_isAlive {h : Handles} (hl : h.isAlive = false) : h.upgrade? = none :=
  if_neg (by simp [hl])

end Handles

namespace Session

open LiveClass (binding)

variable {s t : Session V} {handler : ClickHandler × Behavior V}
  {handlers handlers' : List (ClickHandler × Behavior V)} {buttons : List (Button V)}

/-! ## Buttons -/

/-- The names of buttons. -/
def names (buttons : List (Button V)) : List String := buttons.map (·.name)

/-- How many subscriptions the buttons have. -/
def subscriptions (buttons : List (Button V)) : Nat := (buttons.map (·.handlers.length)).sum

theorem hasButton_iff {name : String} : s.hasButton name = true ↔ name ∈ names s.buttons := by
  rw [hasButton, List.any_eq_true, names, List.mem_map]
  simp only [beq_iff_eq]

theorem hasButton_congr (h : names s.buttons = names t.buttons) : s.hasButton = t.hasButton := by
  funext name
  rw [Bool.eq_iff_iff, hasButton_iff, hasButton_iff, h]

theorem names_subscribe : names (subscribe handler buttons) = names buttons := by
  induction buttons with
  | nil => rfl
  | cons b rest ih =>
    rw [subscribe]
    split
    · rfl
    · exact congrArg (b.name :: ·) ih

theorem subscribe_of_notMem (h : handler.1.element ∉ names buttons) :
    subscribe handler buttons = buttons := by
  induction buttons with
  | nil => rfl
  | cons b rest ih =>
    obtain ⟨hb, hrest⟩ := not_or.1 (mt List.mem_cons.2 h)
    rw [subscribe, if_neg (Ne.symm hb), ih hrest]

theorem subscriptions_subscribe (h : handler.1.element ∈ names buttons) :
    subscriptions (subscribe handler buttons) = subscriptions buttons + 1 := by
  induction buttons with
  | nil => cases h
  | cons b rest ih =>
    rw [subscribe]
    by_cases hb : b.name = handler.1.element
    · rw [if_pos hb]
      simp only [subscriptions, List.map_cons, List.sum_cons, List.length_append,
        List.length_singleton]
      omega
    · have hrest := ih ((List.mem_cons.1 h).resolve_left (Ne.symm hb))
      rw [if_neg hb]
      simp only [subscriptions, List.map_cons, List.sum_cons] at hrest ⊢
      omega

/-- The buttons with handlers subscribed to them, one after the other. -/
def subscribeAll (handlers : List (ClickHandler × Behavior V)) (buttons : List (Button V)) :
    List (Button V) := handlers.foldl (fun buttons handler => subscribe handler buttons) buttons

theorem subscribeAll_append :
    subscribeAll (handlers ++ handlers') buttons =
      subscribeAll handlers' (subscribeAll handlers buttons) :=
  List.foldl_append

theorem names_subscribeAll : names (subscribeAll handlers buttons) = names buttons := by
  induction handlers generalizing buttons with
  | nil => rfl
  | cons handler rest ih => exact ih.trans names_subscribe

/-! ## Binding -/

/-- What binding handlers does: each of them is looked for, in order, and is subscribed and reported
as such if there is a button for it; otherwise it is reported as missing, with a warning. -/
structure Binds (handlers : List (ClickHandler × Behavior V)) (before after : Reaction V)
    (report report' : BindReport) : Prop where
  model : after.session.model = before.session.model
  state : after.session.state = before.session.state
  isOwned : after.session.isOwned = before.session.isOwned
  isSource : after.session.isSource = before.session.isSource
  buttons : after.session.buttons = subscribeAll handlers before.session.buttons
  strong : after.session.handles.strong = before.session.handles.strong
  weak : after.session.handles.weak + subscriptions before.session.buttons =
    before.session.handles.weak + subscriptions after.session.buttons
  lookups : after.lookups = before.lookups ++ (handlers.map binding).map (·.element)
  warnings : after.warnings = before.warnings ++
    ((handlers.map binding).filter (!before.session.hasButton ·.element)).map
      (missingButton before.session.model)
  events : after.events = before.events
  name : report'.model = report.model
  subscribed : report'.subscribed = report.subscribed ++
    (handlers.map binding).filter (before.session.hasButton ·.element)
  missing : report'.missing = report.missing ++
    (handlers.map binding).filter (!before.session.hasButton ·.element)

namespace Binds

variable {r r₁ r₂ : Reaction V} {report report₁ report₂ : BindReport}

theorem hasButton (h : Binds handlers r r₁ report report₁) :
    r₁.session.hasButton = r.session.hasButton :=
  hasButton_congr (by rw [h.buttons, names_subscribeAll])

theorem refl (r : Reaction V) (report : BindReport) : Binds [] r r report report := by
  constructor <;> simp [subscribeAll]

theorem append (h : Binds handlers r r₁ report report₁)
    (h' : Binds handlers' r₁ r₂ report₁ report₂) :
    Binds (handlers ++ handlers') r r₂ report report₂ where
  model := h'.model.trans h.model
  state := h'.state.trans h.state
  isOwned := h'.isOwned.trans h.isOwned
  isSource := h'.isSource.trans h.isSource
  buttons := by rw [h'.buttons, h.buttons, subscribeAll_append]
  strong := h'.strong.trans h.strong
  weak := by
    have := h.weak
    have := h'.weak
    omega
  lookups := by simp [h'.lookups, h.lookups]
  warnings := by simp [h'.warnings, h.warnings, h.hasButton, h.model]
  events := h'.events.trans h.events
  name := h'.name.trans h.name
  subscribed := by simp [h'.subscribed, h.subscribed, h.hasButton]
  missing := by simp [h'.missing, h.missing, h.hasButton]

end Binds

theorem bindHandler_of_hasButton {r : Reaction V}
    (h : r.session.hasButton handler.1.element = true) (report : BindReport) :
    bindHandler (r, report) handler =
      ({ r with
          session := r.session.withSubscription handler
          lookups := r.lookups ++ [handler.1.element] },
        report.recordSubscribed (binding handler)) := if_pos h

theorem bindHandler_of_not_hasButton {r : Reaction V}
    (h : ¬ r.session.hasButton handler.1.element = true) (report : BindReport) :
    bindHandler (r, report) handler =
      ({ r with
          lookups := r.lookups ++ [handler.1.element]
          warnings := r.warnings ++ [missingButton r.session.model (binding handler)] },
        report.recordMissing (binding handler)) := if_neg h

theorem binds_bindHandler (r : Reaction V) (report : BindReport)
    (handler : ClickHandler × Behavior V) :
    Binds [handler] r (bindHandler (r, report) handler).1 report
      (bindHandler (r, report) handler).2 := by
  by_cases h : r.session.hasButton handler.1.element = true
  · have hcount := subscriptions_subscribe (hasButton_iff.1 h)
    rw [bindHandler_of_hasButton h]
    constructor
    case weak =>
      change r.session.handles.weak + 1 + _ = r.session.handles.weak + subscriptions (subscribe _ _)
      rw [hcount]
      omega
    all_goals
      simp [withSubscription, Handles.downgrade, subscribeAll, BindReport.recordSubscribed, h,
        binding]
  · have hsame := subscribe_of_notMem (mt hasButton_iff.2 h)
    rw [bindHandler_of_not_hasButton h]
    constructor
    all_goals simp [subscribeAll, BindReport.recordMissing, hsame, h, binding]

theorem binds_foldl (r : Reaction V) (report : BindReport)
    (handlers : List (ClickHandler × Behavior V)) :
    Binds handlers r (handlers.foldl bindHandler (r, report)).1 report
      (handlers.foldl bindHandler (r, report)).2 := by
  induction handlers generalizing r report with
  | nil => exact .refl r report
  | cons handler rest ih => exact (binds_bindHandler r report handler).append (ih _ _)

theorem binds_bind (s : Session V) :
    Binds s.model.handlers { session := s.install } s.bind.1 { model := s.model.name } s.bind.2 :=
  binds_foldl _ _ _

/-! ## Clicks -/

section Clicks

variable [BEq V] {depth : Nat} {isBorrowed : Bool} {r r' : Reaction V}

theorem activate_of_dead (h : r.session.isAlive = false) :
    activate depth isBorrowed r handler = some r := by
  rw [activate, Handles.upgrade?_of_not_isAlive h]

theorem activate_of_borrowed (h : r.session.isAlive = true) :
    activate depth true r handler =
      some { r with warnings := r.warnings ++ [borrowedModel r.session.model handler.1] } := by
  rw [activate, Handles.upgrade?_of_isAlive h]
  rfl

theorem activate_of_free (h : r.session.isAlive = true) :
    activate depth false r handler =
      (r.session.model.call depth handler.2 r.session.state).map fun o =>
        { r with
          session := { r.session with state := o.state }
          events := r.events ++ o.events } := by
  rw [activate, Handles.upgrade?_of_isAlive h]
  rfl

/-- A handler changes at most the state of the model. -/
theorem session_of_activate (h : activate depth isBorrowed r handler = some r') :
    (∃ state, r'.session = { r.session with state := state }) ∧ r'.report = r.report := by
  cases hl : r.session.isAlive with
  | false =>
    rw [activate_of_dead hl] at h
    cases h
    exact ⟨⟨r.session.state, rfl⟩, rfl⟩
  | true =>
    cases isBorrowed with
    | true =>
      rw [activate_of_borrowed hl] at h
      cases h
      exact ⟨⟨r.session.state, rfl⟩, rfl⟩
    | false =>
      rw [activate_of_free hl] at h
      obtain ⟨o, -, rfl⟩ := Option.map_eq_some_iff.1 h
      exact ⟨⟨o.state, rfl⟩, rfl⟩

theorem session_of_foldlM_activate
    (h : handlers.foldlM (activate depth isBorrowed) r = some r') :
    (∃ state, r'.session = { r.session with state := state }) ∧ r'.report = r.report := by
  induction handlers generalizing r with
  | nil =>
    cases h
    exact ⟨⟨_, rfl⟩, rfl⟩
  | cons handler rest ih =>
    rw [List.foldlM_cons] at h
    obtain ⟨r₁, h₁, h⟩ := Option.bind_eq_some_iff.1 h
    obtain ⟨⟨state₁, hs₁⟩, hr₁⟩ := session_of_activate h₁
    obtain ⟨⟨state, hs⟩, hr⟩ := ih h
    exact ⟨⟨state, by rw [hs, hs₁]⟩, hr.trans hr₁⟩

theorem session_of_clickWithin {name : String}
    (h : s.clickWithin depth name isBorrowed = some r) :
    (∃ state, r.session = { s with state := state }) ∧ r.report = none :=
  session_of_foldlM_activate h

theorem session_of_setWithin {accessor : String} {value : V}
    (h : s.setWithin depth accessor value = some r) :
    (∃ state, r.session = { s with state := state }) ∧ r.report = none := by
  unfold setWithin at h
  split at h
  · split_ifs at h
    · obtain ⟨o, -, rfl⟩ := Option.map_eq_some_iff.1 h
      exact ⟨⟨o.state, rfl⟩, rfl⟩
    · cases h
      exact ⟨⟨s.state, rfl⟩, rfl⟩
  · cases h
    exact ⟨⟨s.state, rfl⟩, rfl⟩

/-! ## Steps -/

/-- What a step can do: bind a model that is alive, let go of a handle, or change the state at
most. -/
theorem step_eq_some {step : Step V} (h : s.step depth step = some r) :
    (step = .bind ∧ s.isAlive = true ∧ r = { s.bind.1 with report := some s.bind.2 }) ∨
    (step = .dropOwner ∧ r = { session := s.dropOwner }) ∨
    (step = .clearSource ∧ r = { session := s.clearSource }) ∨
    ((step = .bind → s.isAlive = false) ∧ step ≠ .dropOwner ∧ step ≠ .clearSource ∧
      (∃ state, r.session = { s with state := state }) ∧ r.report = none) := by
  cases step with
  | bind =>
    rw [step] at h
    split_ifs at h with hl
    · cases h
      exact .inl ⟨rfl, hl, rfl⟩
    · cases h
      exact .inr (.inr (.inr ⟨fun _ => Bool.eq_false_iff.2 hl, by simp, by simp,
        ⟨s.state, rfl⟩, rfl⟩))
  | dropOwner =>
    cases h
    exact .inr (.inl ⟨rfl, rfl⟩)
  | clearSource =>
    cases h
    exact .inr (.inr (.inl ⟨rfl, rfl⟩))
  | set accessor value =>
    obtain ⟨hs, hr⟩ := session_of_setWithin h
    exact .inr (.inr (.inr ⟨by simp, by simp, by simp, hs, hr⟩))
  | click name =>
    obtain ⟨hs, hr⟩ := session_of_clickWithin h
    exact .inr (.inr (.inr ⟨by simp, by simp, by simp, hs, hr⟩))
  | clickBorrowed name =>
    obtain ⟨hs, hr⟩ := session_of_clickWithin h
    exact .inr (.inr (.inr ⟨by simp, by simp, by simp, hs, hr⟩))

theorem run_concat {steps : List (Step V)} {step : Step V} {reactions : List (Reaction V)} :
    s.run depth (steps ++ [step]) = some (reactions, t) ↔
      ∃ earlier s₁ r, s.run depth steps = some (earlier, s₁) ∧ s₁.step depth step = some r ∧
        earlier ++ [r] = reactions ∧ r.session = t := by
  rw [run, List.foldlM_append, ← run]
  constructor
  · intro h
    obtain ⟨⟨earlier, s₁⟩, hrun, h⟩ := Option.bind_eq_some_iff.1 h
    obtain ⟨_, hstep, h⟩ := Option.bind_eq_some_iff.1 h
    obtain ⟨r, hr, rfl⟩ := Option.map_eq_some_iff.1 hstep
    cases h
    exact ⟨earlier, s₁, r, hrun, hr, rfl, rfl⟩
  · rintro ⟨earlier, s₁, r, hrun, hr, rfl, rfl⟩
    have hstep : advance depth (earlier, s₁) step = some (earlier ++ [r], r.session) :=
      Option.map_eq_some_iff.2 ⟨r, hr, rfl⟩
    exact Option.bind_eq_some_iff.2 ⟨_, hrun, Option.bind_eq_some_iff.2 ⟨_, hstep, rfl⟩⟩

/-- What holds at first and is kept by each step that follows a run holds after any run. -/
theorem run_induction {motive : List (Step V) → List (Reaction V) → Session V → Prop}
    (first : motive [] [] s)
    (next : ∀ {steps reactions t step r}, s.run depth steps = some (reactions, t) →
      t.step depth step = some r → motive steps reactions t →
      motive (steps ++ [step]) (reactions ++ [r]) r.session)
    {steps : List (Step V)} {reactions : List (Reaction V)}
    (h : s.run depth steps = some (reactions, t)) : motive steps reactions t := by
  induction steps using List.reverseRecOn generalizing reactions t with
  | nil =>
    cases h
    exact first
  | append_singleton steps step ih =>
    obtain ⟨earlier, s₁, r, hrun, hr, rfl, rfl⟩ := run_concat.1 h
    exact next hrun hr (ih hrun)

end Clicks

end Session

end ReactiveModel.Live
