import Mathlib.Data.Finset.Card
import Mathlib.Data.List.Chain
import Mathlib.Logic.Relation

/-!
# Acyclic relations

A relation is acyclic if none of its paths comes back to where it began. `Settled` lists show that
a relation is acyclic: each element leads to later elements only. Conversely, an acyclic relation
on the elements of a list has a rank below the length of the list (`Acyclic.exists_rank`), none of
its paths meets anything twice (`Acyclic.nodup_of_isChain`), and a relation that is not acyclic can
be followed forever (`exists_walk_of_not_acyclic`).
-/

namespace ReactiveModel

open Relation

variable {α : Type*} {r r' : α → α → Prop}

/-- No path of at least one step leads back to where it began. -/
def Acyclic (r : α → α → Prop) : Prop := ∀ a, ¬ TransGen r a a

namespace Acyclic

theorem mono (h : Acyclic r) (hr : ∀ a b, r' a b → r a b) : Acyclic r' :=
  fun a ha => h a (TransGen.mono hr _ _ ha)

theorem swap (h : Acyclic r) : Acyclic (Function.swap r) := fun a ha => h a (transGen_swap.1 ha)

/-- Nothing is met twice on the way along an acyclic relation. -/
theorem nodup_of_isChain (h : Acyclic r) {l : List α} (hl : l.IsChain r) : l.Nodup := by
  have hp : l.Pairwise (TransGen r) := (hl.imp fun _ _ => TransGen.single).pairwise
  refine hp.imp ?_
  rintro a b hab rfl
  exact h a hab

/-- An acyclic relation on the elements of a list leads from higher to lower ranks. -/
theorem exists_rank (h : Acyclic r) {l : List α} (hl : ∀ a b, r a b → b ∈ l) :
    ∃ rank : α → ℕ, (∀ a ∈ l, rank a < l.length) ∧ ∀ a b, r a b → rank b < rank a := by
  classical
  -- the rank counts what can be reached
  let reach (a : α) : Finset α := l.toFinset.filter (TransGen r a)
  have hself (a : α) : a ∉ reach a := fun ha => h a (Finset.mem_filter.1 ha).2
  refine ⟨fun a => (reach a).card, fun a ha => ?_, fun a b hab => ?_⟩
  · have hlt : reach a ⊂ l.toFinset :=
      Finset.ssubset_iff_subset_ne.2 ⟨Finset.filter_subset _ _, fun e =>
        hself a (e ▸ List.mem_toFinset.2 ha)⟩
    exact (Finset.card_lt_card hlt).trans_le (List.toFinset_card_le l)
  · have hb : b ∈ reach a :=
      Finset.mem_filter.2 ⟨List.mem_toFinset.2 (hl a b hab), TransGen.single hab⟩
    have hsub : reach b ⊆ reach a := fun c hc =>
      Finset.mem_filter.2 ⟨(Finset.mem_filter.1 hc).1, (Finset.mem_filter.1 hc).2.head hab⟩
    exact Finset.card_lt_card (Finset.ssubset_iff_subset_ne.2 ⟨hsub, fun e => hself b (e ▸ hb)⟩)

end Acyclic

/-- A relation that is not acyclic can be followed forever. -/
theorem exists_walk_of_not_acyclic (h : ¬ Acyclic r) :
    ∃ walk : ℕ → α, ∀ n, r (walk n) (walk (n + 1)) := by
  simp only [Acyclic, not_forall, not_not] at h
  obtain ⟨a, ha⟩ := h
  have hnext (x : {x // TransGen r x x}) : ∃ y : {x // TransGen r x x}, r x y := by
    obtain ⟨b, hxb, hbx⟩ := TransGen.head'_iff.1 x.2
    exact ⟨⟨b, TransGen.tail' hbx hxb⟩, hxb⟩
  choose next hr using hnext
  refine ⟨fun n => (next^[n] ⟨a, ha⟩).1, fun n => ?_⟩
  simp only [Function.iterate_succ_apply']
  exact hr _

/-! ## Settled lists -/

/-- Each element of the list leads to elements after it only. -/
def Settled (r : α → α → Prop) : List α → Prop
  | [] => True
  | a :: l => (∀ b, r a b → b ∈ l) ∧ a ∉ l ∧ Settled r l

namespace Settled

theorem mono (hr : ∀ a b, r' a b → r a b) : ∀ {l : List α}, Settled r l → Settled r' l
  | [], _ => trivial
  | _ :: _, ⟨hb, ha, hl⟩ => ⟨fun b hab => hb b (hr _ b hab), ha, mono hr hl⟩

theorem mem_of_rel {a b : α} (hab : r a b) : ∀ {l : List α}, Settled r l → a ∈ l → b ∈ l
  | c :: l, ⟨hb, _, hl⟩, ha => by
    rcases List.mem_cons.1 ha with rfl | ha
    · exact List.mem_cons_of_mem _ (hb b hab)
    · exact List.mem_cons_of_mem _ (mem_of_rel hab hl ha)

theorem mem_of_reflTransGen {l : List α} (hl : Settled r l) {a b : α} (hab : ReflTransGen r a b)
    (ha : a ∈ l) : b ∈ l := by
  induction hab with
  | refl => exact ha
  | tail _ hbc ih => exact hl.mem_of_rel hbc ih

/-- Nothing in a settled list leads back to itself. -/
theorem not_transGen_self : ∀ {l : List α}, Settled r l → ∀ a ∈ l, ¬ TransGen r a a
  | c :: l, ⟨hb, hc, hl⟩, a, ha, haa => by
    rcases List.mem_cons.1 ha with rfl | ha
    · obtain ⟨b, hab, hba⟩ := TransGen.head'_iff.1 haa
      exact hc (hl.mem_of_reflTransGen hba (hb b hab))
    · exact not_transGen_self hl a ha haa

end Settled

end ReactiveModel
