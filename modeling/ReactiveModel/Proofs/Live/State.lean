import Mathlib
import ReactiveModel.Live.Model

/-!
# States of a model at work

Storing a value changes that property alone. What a property has after a write is a matter of the
test that setters make: the value written, or one that the test takes for it (`Alike`). For a test
that tells all values apart this is equality (`alike_iff_eq`); for floats the two zeros are alike,
and one that is no number is alike to itself only.
-/

namespace ReactiveModel.Live

variable {V : Type}

namespace State

variable {s : State V} {p q : String} {v : V}

@[simp] theorem keys_store : (s.store p v).map Prod.fst = s.map Prod.fst := by
  rw [store, List.map_map]
  refine List.map_congr_left fun e _ => ?_
  by_cases h : e.1 = p <;> simp [h]

theorem get_cons (q : String) (v : V) (s : State V) :
    get ((q, v) :: s) p = if p = q then some v else s.get p := by
  rw [get, List.lookup_cons]
  by_cases h : p = q
  · simp [h]
  · simp [h, beq_false_of_ne h, get]

theorem get_store_self (hp : p ∈ s.map Prod.fst) : (s.store p v).get p = some v := by
  induction s with
  | nil => simp at hp
  | cons e s ih =>
    obtain ⟨q, w⟩ := e
    change get ((if q = p then (q, v) else (q, w)) :: store s p v) p = some v
    by_cases h : q = p
    · rw [if_pos h, get_cons, if_pos h.symm]
    · rw [if_neg h, get_cons, if_neg (Ne.symm h)]
      exact ih ((List.mem_cons.1 hp).resolve_left (Ne.symm h))

theorem get_store_of_ne (h : q ≠ p) : (s.store p v).get q = s.get q := by
  induction s with
  | nil => rfl
  | cons e s ih =>
    obtain ⟨r, w⟩ := e
    change get ((if r = p then (r, v) else (r, w)) :: store s p v) q = get ((r, w) :: s) q
    by_cases hr : r = p
    · rw [if_pos hr, get_cons, get_cons, if_neg (hr ▸ h), if_neg (hr ▸ h), ih]
    · rw [if_neg hr, get_cons, get_cons, ih]

end State

/-! ## Values that the test of setters does not tell apart -/

/-- The same value, or two that the test of equality takes for the same. -/
def Alike [BEq V] (x y : Option V) : Prop :=
  x = y ∨ ∃ a b, x = some a ∧ y = some b ∧ (a == b) = true

namespace Alike

variable [BEq V] {x y z : Option V}

theorem refl (x : Option V) : Alike x x := .inl rfl

theorem of_holds {s : State V} {p : String} {v : V} (h : s.holds p v) :
    Alike (s.get p) (some v) := by
  obtain ⟨w, hw, hwv⟩ := (Option.any_eq_true _ _).1 h
  exact .inr ⟨w, v, hw, rfl, hwv⟩

theorem symm [PartialEquivBEq V] (h : Alike x y) : Alike y x := by
  rcases h with rfl | ⟨a, b, rfl, rfl, h⟩
  · exact refl x
  · exact .inr ⟨b, a, rfl, rfl, PartialEquivBEq.symm h⟩

theorem trans [PartialEquivBEq V] (h : Alike x y) (h' : Alike y z) : Alike x z := by
  rcases h with rfl | ⟨a, b, rfl, rfl, h⟩
  · exact h'
  rcases h' with rfl | ⟨b', c, e, rfl, h'⟩
  · exact .inr ⟨a, b, rfl, rfl, h⟩
  · cases e
    exact .inr ⟨a, c, rfl, rfl, PartialEquivBEq.trans h h'⟩

end Alike

theorem alike_iff_eq [BEq V] [LawfulBEq V] {x y : Option V} : Alike x y ↔ x = y := by
  refine ⟨?_, .inl⟩
  rintro (h | ⟨a, b, rfl, rfl, h⟩)
  · exact h
  · rw [eq_of_beq h]

/-! ## The values of models -/

theorem Value.same_symm : ∀ {a b : Value}, a.same b = true → b.same a = true
  | .int _, .int _, h => PartialEquivBEq.symm (α := Int32) h
  | .text _, .text _, h => PartialEquivBEq.symm (α := String) h
  | .float _, .float _, h => PartialEquivBEq.symm (α := Float) h
  | .truth _, .truth _, h => PartialEquivBEq.symm (α := Bool) h

theorem Value.same_trans : ∀ {a b c : Value}, a.same b = true → b.same c = true → a.same c = true
  | .int _, .int _, .int _, h, h' => PartialEquivBEq.trans (α := Int32) h h'
  | .text _, .text _, .text _, h, h' => PartialEquivBEq.trans (α := String) h h'
  | .float _, .float _, .float _, h, h' => PartialEquivBEq.trans (α := Float) h h'
  | .truth _, .truth _, .truth _, h, h' => PartialEquivBEq.trans (α := Bool) h h'

instance partialEquivBEq_value : PartialEquivBEq Value := ⟨Value.same_symm, Value.same_trans⟩

end ReactiveModel.Live
