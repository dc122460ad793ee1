import Mathlib.Data.Nat.Notation
import ReactiveModel.Live.Model

/-!
# Cascades

A write runs the updaters that depend on the property one after another, and what an updater does is
a list of actions. Actions that assign once do what the assignment does, and fuel matters only where
it runs out (`assign_mono`).
-/

namespace ReactiveModel.Live

variable {V : Type}

/-- The property and the value of an assignment. -/
def Action.assignment? : Action V → Option (String × V)
  | .note _ => none
  | .assign property value => some (property, value)

namespace LiveClass

/-! ## Running actions and updaters -/

theorem Outcome.next_eq_some_iff {o o' : Outcome V} {work : State V → Option (Outcome V)} :
    o.next work = some o' ↔
      ∃ after, work o.state = some after ∧ ⟨after.state, o.events ++ after.events⟩ = o' := by
  rw [Outcome.next, Option.map_eq_some_iff]

section Steps

variable {c : LiveClass V} {f g : String → V → State V → Option (Outcome V)}
  {actions : List (Action V)} {names : List Ident} {s : State V} {o : Outcome V}

theorem performWith_note {text : String} (h : performWith f actions s = some o) :
    performWith f (.note text :: actions) s = some ⟨o.state, .noted text :: o.events⟩ := by
  rw [performWith]
  exact Outcome.next_eq_some_iff.2 ⟨o, h, rfl⟩

theorem performWith_assign_eq_some_iff {p : String} {v : V} :
    performWith f (.assign p v :: actions) s = some o ↔
      ∃ o₁, f p v s = some o₁ ∧ o₁.next (performWith f actions) = some o := by
  rw [performWith]
  exact Option.bind_eq_some_iff

theorem runWith_cons_eq_some_iff {name : Ident} :
    runWith c f (name :: names) s = some o ↔
      ∃ o₁, performWith f (c.behavior name s) s = some o₁ ∧
        o₁.next (runWith c f names) = some o := by
  rw [runWith]
  exact Option.bind_eq_some_iff

/-- Actions that assign nothing leave the state as it is. -/
theorem performWith_of_no_assignment (h : actions.filterMap Action.assignment? = []) :
    ∃ o, performWith f actions s = some o ∧ o.state = s := by
  induction actions with
  | nil => exact ⟨⟨s, []⟩, rfl, rfl⟩
  | cons action actions ih =>
    cases action with
    | note text =>
      obtain ⟨o, ho, hs⟩ := ih h
      exact ⟨_, performWith_note ho, hs⟩
    | assign p v => cases h

/-- Actions with one assignment do what it does. -/
theorem performWith_of_assignment {p : String} {v : V}
    (h : actions.filterMap Action.assignment? = [(p, v)]) (ho : f p v s = some o) :
    ∃ o', performWith f actions s = some o' ∧ o'.state = o.state := by
  induction actions with
  | nil => cases h
  | cons action actions ih =>
    cases action with
    | note text =>
      obtain ⟨o', ho', hs⟩ := ih h
      exact ⟨_, performWith_note ho', hs⟩
    | assign q w =>
      obtain ⟨e, hrest⟩ := List.cons.inj (h : (q, w) :: _ = _)
      cases e
      obtain ⟨o', ho', hs⟩ := performWith_of_no_assignment (f := f) (s := o.state) hrest
      exact ⟨_, performWith_assign_eq_some_iff.2
        ⟨o, ho, Outcome.next_eq_some_iff.2 ⟨o', ho', rfl⟩⟩, hs⟩

end Steps

/-! ## More fuel -/

section Fuel

variable {c : LiveClass V} {f g : String → V → State V → Option (Outcome V)}

theorem performWith_mono (hfg : ∀ p v s o, f p v s = some o → g p v s = some o) :
    ∀ {actions : List (Action V)} {s : State V} {o : Outcome V},
      performWith f actions s = some o → performWith g actions s = some o
  | [], _, _, h => h
  | .note text :: actions, s, o, h => by
    rw [performWith] at h ⊢
    obtain ⟨after, hafter, e⟩ := Outcome.next_eq_some_iff.1 h
    exact Outcome.next_eq_some_iff.2 ⟨after, performWith_mono hfg hafter, e⟩
  | .assign p v :: actions, s, o, h => by
    obtain ⟨o₁, h₁, h⟩ := performWith_assign_eq_some_iff.1 h
    obtain ⟨after, hafter, e⟩ := Outcome.next_eq_some_iff.1 h
    exact performWith_assign_eq_some_iff.2 ⟨o₁, hfg _ _ _ _ h₁,
      Outcome.next_eq_some_iff.2 ⟨after, performWith_mono hfg hafter, e⟩⟩

theorem runWith_mono (hfg : ∀ p v s o, f p v s = some o → g p v s = some o) :
    ∀ {names : List Ident} {s : State V} {o : Outcome V},
      runWith c f names s = some o → runWith c g names s = some o
  | [], _, _, h => h
  | name :: names, s, o, h => by
    obtain ⟨o₁, h₁, h⟩ := runWith_cons_eq_some_iff.1 h
    obtain ⟨after, hafter, e⟩ := Outcome.next_eq_some_iff.1 h
    exact runWith_cons_eq_some_iff.2 ⟨o₁, performWith_mono hfg h₁,
      Outcome.next_eq_some_iff.2 ⟨after, runWith_mono hfg hafter, e⟩⟩

variable [BEq V]

theorem assign_of_holds {n : ℕ} {p : String} {v : V} {s : State V} (h : s.holds p v = true) :
    c.assign (n + 1) p v s = some { state := s } := by
  rw [assign, if_pos h]

theorem assign_of_not_holds {n : ℕ} {p : String} {v : V} {s : State V}
    (h : ¬ s.holds p v = true) :
    c.assign (n + 1) p v s = Outcome.next ⟨s.store p v, [.notified p]⟩
      (runWith c (c.assign n) (c.graph.dependents p)) := by
  rw [assign, if_neg h]

theorem assign_succ : ∀ {n : ℕ} {p : String} {v : V} {s : State V} {o : Outcome V},
    c.assign n p v s = some o → c.assign (n + 1) p v s = some o
  | 0, _, _, _, _, h => by cases h
  | n + 1, p, v, s, o, h => by
    by_cases hs : s.holds p v = true
    · rw [assign_of_holds hs] at h ⊢
      exact h
    · rw [assign_of_not_holds hs] at h ⊢
      obtain ⟨after, hafter, e⟩ := Outcome.next_eq_some_iff.1 h
      exact Outcome.next_eq_some_iff.2
        ⟨after, runWith_mono (fun _ _ _ _ => assign_succ) hafter, e⟩

/-- A write that comes to an end does the same with more fuel. -/
theorem assign_mono {n m : ℕ} (hnm : n ≤ m) {p : String} {v : V} {s : State V} {o : Outcome V}
    (h : c.assign n p v s = some o) : c.assign m p v s = some o := by
  induction hnm with
  | refl => exact h
  | step _ ih => exact assign_succ ih

end Fuel

end LiveClass

end ReactiveModel.Live
