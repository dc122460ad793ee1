import ReactiveModel.Live.PingPong
import ReactiveModel.Proofs.Live.Session

/-!
# How long a model lives

At any time there are as many strong handles of a model as the owner and the root have, and as many
weak ones as there are subscriptions (`Balanced`). So the model is alive as long as the owner or the
root has it, which the steps of a run tell (`isOwned_iff`, `isSource_iff`), and clicks that come at
a bad time leave everything as it is (`alive_while_held`).
-/

namespace ReactiveModel.Live.Session

variable {V : Type} {s t : Session V}

/-! ## Handles -/

@[simp] theorem isOwned_dropOwner : s.dropOwner.isOwned = false := by
  rw [dropOwner]
  split_ifs with h
  · rfl
  · exact Bool.eq_false_iff.2 h

@[simp] theorem isSource_clearSource : s.clearSource.isSource = false := by
  rw [clearSource]
  split_ifs with h
  · rfl
  · exact Bool.eq_false_iff.2 h

@[simp] theorem isSource_dropOwner : s.dropOwner.isSource = s.isSource := by
  rw [dropOwner]
  split_ifs <;> rfl

@[simp] theorem isOwned_clearSource : s.clearSource.isOwned = s.isOwned := by
  rw [clearSource]
  split_ifs <;> rfl

@[simp] theorem model_dropOwner : s.dropOwner.model = s.model := by
  rw [dropOwner]
  split_ifs <;> rfl

@[simp] theorem model_clearSource : s.clearSource.model = s.model := by
  rw [clearSource]
  split_ifs <;> rfl

@[simp] theorem buttons_dropOwner : s.dropOwner.buttons = s.buttons := by
  rw [dropOwner]
  split_ifs <;> rfl

@[simp] theorem buttons_clearSource : s.clearSource.buttons = s.buttons := by
  rw [clearSource]
  split_ifs <;> rfl

/-- The handles of the model are those of its owner, of the root and of the subscriptions. -/
structure Balanced (s : Session V) : Prop where
  strong : s.handles.strong = s.isOwned.toNat + s.isSource.toNat
  weak : s.handles.weak = subscriptions s.buttons

namespace Balanced

theorem start (c : LiveClass V) (buttons : List String) : (start c buttons).Balanced where
  strong := rfl
  weak := by simp [Session.start, subscriptions, Function.comp_def]

theorem isAlive_iff (h : s.Balanced) :
    s.isAlive = true ↔ s.isOwned = true ∨ s.isSource = true := by
  rw [isAlive, Handles.isAlive, decide_eq_true_iff, h.strong]
  cases s.isOwned <;> cases s.isSource <;> decide

/-- A model that is installed again replaces itself, and the handle it had is let go. -/
theorem install (h : s.Balanced) : s.install.Balanced := by
  obtain ⟨hstrong, hweak⟩ := h
  rw [Session.install]
  cases hs : s.isSource with
  | false => exact ⟨by simp [Handles.clone, hs, hstrong], hweak⟩
  | true => exact ⟨by simp [Handles.clone, Handles.release, hs, hstrong], hweak⟩

theorem bind (h : s.Balanced) : s.bind.1.session.Balanced := by
  have hb := binds_bind s
  have hi := h.install
  constructor
  · rw [hb.strong, hb.isOwned, hb.isSource, hi.strong]
  · have hweak : _ + subscriptions s.install.buttons = s.install.handles.weak + _ := hb.weak
    rw [hi.weak] at hweak
    omega

theorem dropOwner (h : s.Balanced) : s.dropOwner.Balanced := by
  obtain ⟨hstrong, hweak⟩ := h
  rw [Session.dropOwner]
  split_ifs with ho
  · exact ⟨by simp [Handles.release, hstrong, ho], hweak⟩
  · exact ⟨hstrong, hweak⟩

theorem clearSource (h : s.Balanced) : s.clearSource.Balanced := by
  obtain ⟨hstrong, hweak⟩ := h
  rw [Session.clearSource]
  split_ifs with hs
  · exact ⟨by simp [Handles.release, hstrong, hs], hweak⟩
  · exact ⟨hstrong, hweak⟩

end Balanced

/-! ## What a step changes -/

section Steps

variable [BEq V] {depth : Nat} {act : Step V} {acts : List (Step V)} {r : Reaction V}
  {reactions : List (Reaction V)}

theorem balanced_of_step (h : s.Balanced) (hr : s.step depth act = some r) :
    r.session.Balanced := by
  obtain ⟨-, -, rfl⟩ | ⟨-, rfl⟩ | ⟨-, rfl⟩ | ⟨-, -, -, ⟨state, hs⟩, -⟩ := step_eq_some hr
  · exact h.bind
  · exact h.dropOwner
  · exact h.clearSource
  · rw [hs]
    exact ⟨h.strong, h.weak⟩

theorem model_of_step (h : s.step depth act = some r) : r.session.model = s.model := by
  obtain ⟨-, -, rfl⟩ | ⟨-, rfl⟩ | ⟨-, rfl⟩ | ⟨-, -, -, ⟨state, hs⟩, -⟩ := step_eq_some h
  · exact (binds_bind s).model
  · exact model_dropOwner
  · exact model_clearSource
  · rw [hs]

/-- Only the owner gives its handle away. -/
theorem isOwned_of_step (h : s.step depth act = some r) :
    r.session.isOwned = true ↔ s.isOwned = true ∧ act ≠ .dropOwner := by
  obtain ⟨rfl, -, rfl⟩ | ⟨rfl, rfl⟩ | ⟨rfl, rfl⟩ | ⟨-, hd, -, ⟨state, hs⟩, -⟩ := step_eq_some h
  · have hb : s.bind.1.session.isOwned = s.isOwned := (binds_bind s).isOwned
    simp [hb]
  · simp
  · simp
  · simp [hs, hd]

/-- The root gets a handle when a model that is alive is bound, and keeps it until it lets go. -/
theorem isSource_of_step (h : s.step depth act = some r) :
    r.session.isSource = true ↔
      (act = .bind ∧ s.isAlive = true) ∨ (s.isSource = true ∧ act ≠ .clearSource) := by
  obtain ⟨rfl, hl, rfl⟩ | ⟨rfl, rfl⟩ | ⟨rfl, rfl⟩ | ⟨hb, -, hc, ⟨state, hs⟩, -⟩ := step_eq_some h
  · have hb : s.bind.1.session.isSource = true := (binds_bind s).isSource
    simp [hb, hl]
  · simp
  · simp
  · have hdead : ¬ (act = .bind ∧ s.isAlive = true) := fun ⟨h, hl⟩ => by simp [hb h] at hl
    simp [hs, hc, hdead]

/-! ## What a run changes -/

theorem balanced_of_run (h : s.Balanced) (ht : s.run depth acts = some (reactions, t)) :
    t.Balanced :=
  run_induction (motive := fun _ _ t => t.Balanced) h (fun _ hr ht => balanced_of_step ht hr) ht

theorem model_of_run (h : s.run depth acts = some (reactions, t)) : t.model = s.model :=
  run_induction (motive := fun _ _ t => t.model = s.model) rfl
    (fun _ hr ht => (model_of_step hr).trans ht) h

theorem isOwned_iff (h : s.run depth acts = some (reactions, t)) :
    t.isOwned = true ↔ s.isOwned = true ∧ .dropOwner ∉ acts := by
  refine run_induction
    (motive := fun acts _ t => t.isOwned = true ↔ s.isOwned = true ∧ .dropOwner ∉ acts)
    (by simp) (fun _ hr ih => ?_) h
  rw [isOwned_of_step hr, ih, List.mem_append, List.mem_singleton, not_or, and_assoc, ne_comm]

/-- A model that is new at first is alive as long as its owner has it. -/
theorem isAlive_of_owner {c : LiveClass V} {buttons : List String}
    (h : (start c buttons).run depth acts = some (reactions, t)) (howner : .dropOwner ∉ acts) :
    t.isAlive = true :=
  (balanced_of_run (.start c buttons) h).isAlive_iff.2 (.inl ((isOwned_iff h).2 ⟨rfl, howner⟩))

/-- Steps among which the model was bound while it was alive, without a clear since. -/
def BoundSince (depth : Nat) (s : Session V) (acts : List (Step V)) : Prop :=
  ∃ before after reactions t, acts = before ++ .bind :: after ∧ .clearSource ∉ after ∧
    s.run depth before = some (reactions, t) ∧ t.isAlive = true

theorem boundSince_concat (h : s.run depth acts = some (reactions, t)) :
    BoundSince depth s (acts ++ [act]) ↔
      (act = .bind ∧ t.isAlive = true) ∨ (BoundSince depth s acts ∧ act ≠ .clearSource) := by
  constructor
  · rintro ⟨before, after, past, u, heq, hclear, hrun, hl⟩
    rcases List.eq_nil_or_concat after with rfl | ⟨after, last, rfl⟩
    · obtain ⟨rfl, hact⟩ := List.append_inj' heq rfl
      rw [h] at hrun
      cases hrun
      exact .inl ⟨List.singleton_inj.1 hact, hl⟩
    · rw [List.concat_eq_append, ← List.cons_append, ← List.append_assoc] at heq
      obtain ⟨rfl, hact⟩ := List.append_inj' heq rfl
      cases hact
      rw [List.concat_eq_append, List.mem_append, List.mem_singleton, not_or] at hclear
      exact .inr ⟨⟨before, after, past, u, rfl, hclear.1, hrun, hl⟩, Ne.symm hclear.2⟩
  · rintro (⟨rfl, hl⟩ | ⟨⟨before, after, past, u, rfl, hclear, hrun, hl⟩, hne⟩)
    · exact ⟨acts, [], reactions, t, rfl, List.not_mem_nil, h, hl⟩
    · refine ⟨before, after ++ [act], past, u, by simp, ?_, hrun, hl⟩
      rw [List.mem_append, List.mem_singleton, not_or]
      exact ⟨hclear, Ne.symm hne⟩

theorem isSource_iff (hs : s.isSource = false) (h : s.run depth acts = some (reactions, t)) :
    t.isSource = true ↔ BoundSince depth s acts := by
  refine run_induction (motive := fun acts _ t => t.isSource = true ↔ BoundSince depth s acts)
    (by simp [hs, BoundSince]) (fun hrun hr ih => ?_) h
  rw [isSource_of_step hr, boundSince_concat hrun, ih]

/-! ## Clicks at a bad time -/

theorem clickWithin_of_dead {name : String} {isBorrowed : Bool} (h : s.isAlive = false) :
    s.clickWithin depth name isBorrowed = some { session := s } := by
  rw [clickWithin]
  induction s.handlersOf name with
  | nil => rfl
  | cons handler rest ih =>
    rw [List.foldlM_cons, activate_of_dead h]
    exact ih

theorem foldlM_activate_of_borrowed {handlers : List (ClickHandler × Behavior V)}
    (h : r.session.isAlive = true) :
    handlers.foldlM (activate depth true) r =
      some { r with warnings := r.warnings ++
        handlers.map fun handler => borrowedModel r.session.model handler.1 } := by
  induction handlers generalizing r with
  | nil => simp
  | cons handler rest ih =>
    have hrest := ih (r := { r with
      warnings := r.warnings ++ [borrowedModel r.session.model handler.1] }) h
    rw [List.foldlM_cons, activate_of_borrowed h]
    exact hrest.trans (by simp)

theorem clickWithin_of_borrowed {name : String} (h : s.isAlive = true) :
    s.clickWithin depth name true =
      some { session := s, warnings := (s.handlersOf name).map (borrowedModel s.model ·.1) } :=
  foldlM_activate_of_borrowed h

/-- After any run the model is alive if and only if the owner has not dropped it or the root has it
from a bind, with no clear since; the subscriptions count as weak handles only. A click while it is
borrowed leaves the session as it is and warns once for each handler of the button, a click after
its death leaves it as it is without a word, and a click at any time changes at most the state. -/
theorem alive_while_held {c : LiveClass V} {buttons : List String}
    (h : (start c buttons).run depth acts = some (reactions, s)) :
    (s.isAlive = true ↔
      .dropOwner ∉ acts ∨ BoundSince depth (start c buttons) acts) ∧
    s.handles.weak = subscriptions s.buttons ∧
    (∀ name, s.isAlive = true → s.step depth (.clickBorrowed name) =
      some { session := s, warnings := (s.handlersOf name).map (borrowedModel c ·.1) }) ∧
    (∀ name isBorrowed, s.isAlive = false →
      s.clickWithin depth name isBorrowed = some { session := s }) ∧
    ∀ name isBorrowed r, s.clickWithin depth name isBorrowed = some r →
      ∃ state, r.session = { s with state := state } := by
  have hb : s.Balanced := balanced_of_run (.start c buttons) h
  refine ⟨?_, hb.weak, fun name hl => ?_, fun name isBorrowed hl => clickWithin_of_dead hl,
    fun name isBorrowed r hr => (session_of_clickWithin hr).1⟩
  · rw [hb.isAlive_iff, isOwned_iff h, isSource_iff rfl h]
    simp [start]
  · have hmodel : s.model = c := model_of_run h
    rw [← hmodel]
    exact clickWithin_of_borrowed hl

end Steps

/-- A game that is bound twice outlives its owner, and a click while it is borrowed warns twice. -/
theorem alive_while_held_game :
    ∃ reactions s, (start PingPong.model ["Serve"]).run 1 [.bind, .bind, .dropOwner] =
        some (reactions, s) ∧ s.isAlive = true ∧
      s.step 1 (.clickBorrowed "Serve") =
        some { session := s, warnings := List.replicate 2 (borrowedModel PingPong.model
          ⟨.plain "on_serve", "Serve"⟩) } := by
  obtain ⟨⟨reactions, s⟩, h⟩ : ∃ p,
      (start PingPong.model ["Serve"]).run 1 [.bind, .bind, .dropOwner] = some p :=
    Option.isSome_iff_exists.1 rfl
  obtain ⟨⟨earlier, t⟩, ht⟩ : ∃ p, (start PingPong.model ["Serve"]).run 1 [.bind] = some p :=
    Option.isSome_iff_exists.1 rfl
  have hbound : t.isAlive = true := isAlive_of_owner ht (by simp)
  have hhandlers : (s.handlersOf "Serve").map (·.1) =
      List.replicate 2 ⟨.plain "on_serve", "Serve"⟩ := by
    have hrun : ((start PingPong.model ["Serve"]).run 1 [.bind, .bind, .dropOwner]).map
        (fun p => (p.2.handlersOf "Serve").map (·.1)) =
          some (List.replicate 2 ⟨.plain "on_serve", "Serve"⟩) := by decide +kernel
    rw [h] at hrun
    exact Option.some_inj.1 hrun
  obtain ⟨halive, -, hborrowed, -⟩ := alive_while_held h
  have hl := halive.2 (.inr ⟨[.bind], [.dropOwner], _, _, rfl, by simp, ht, hbound⟩)
  refine ⟨reactions, s, h, hl, (hborrowed "Serve" hl).trans ?_⟩
  rw [← List.map_replicate, ← hhandlers, List.map_map]
  rfl

end ReactiveModel.Live.Session
