import ReactiveModel.Proofs.Dependency.CycleSearch
import ReactiveModel.Proofs.Dependency.Graph

/-!
# Chains of updaters

The setter of a property runs the updaters that depend on it, and an updater runs the setters of the
properties that it writes. The chains of updaters that arise are the paths of the graph that is
searched for cycles: without a cycle no chain meets an updater twice, and with one there are chains
without end.
-/

namespace ReactiveModel

open Relation

variable {us : List Updater} {g : DependencyGraph}

/-- A property with an updater of the class that its setter runs. -/
def IsLink (us : List Updater) (g : DependencyGraph) (x : String × Updater) : Prop :=
  x.2 ∈ us ∧ x.2.name ∈ g.dependents x.1

/-- The updater of one link writes the property of the next. -/
def Continues (x y : String × Updater) : Prop := y.1 ∈ x.2.writes

/-- A chain of setters and updaters, each of them run by the one before it. -/
structure IsTriggerChain (us : List Updater) (g : DependencyGraph)
    (chain : List (String × Updater)) : Prop where
  links : ∀ x ∈ chain, IsLink us g x
  continues : chain.IsChain Continues

/-- A chain that never ends. -/
structure IsEndlessChain (us : List Updater) (g : DependencyGraph)
    (chain : ℕ → String × Updater) : Prop where
  links : ∀ n, IsLink us g (chain n)
  continues : ∀ n, Continues (chain n) (chain (n + 1))

section Dependencies

variable {fs : List ObservableField} {methods : List Method}

/-- One link continues another only along an edge of the graph of updaters. -/
theorem feedsAmong_of_continues (hn : (methods.map Method.name).Nodup) {x y : String × Updater}
    (hx : IsLink (dependencies fs methods).1 (dependencies fs methods).2 x)
    (hy : IsLink (dependencies fs methods).1 (dependencies fs methods).2 y)
    (h : Continues x y) : FeedsAmong (dependencies fs methods).1 x.2 y.2 :=
  ⟨hx.1, hy.1, y.1, h, (name_mem_dependents_iff hn hy.1).1 hy.2⟩

/-- The updaters along a chain are a path in the graph of updaters. -/
theorem isChain_feedsAmong (hn : (methods.map Method.name).Nodup)
    {chain : List (String × Updater)}
    (h : IsTriggerChain (dependencies fs methods).1 (dependencies fs methods).2 chain) :
    (chain.map Prod.snd).IsChain (FeedsAmong (dependencies fs methods).1) := by
  rw [List.isChain_map]
  exact h.continues.imp_of_mem_imp fun x y hx hy hxy =>
    feedsAmong_of_continues hn (h.links x hx) (h.links y hy) hxy

/-- Without a cycle no chain meets an updater twice, so none is longer than the class has updaters;
with a cycle some chain never ends. -/
theorem triggerChains_bounded_iff (hn : (methods.map Method.name).Nodup) :
    (findCycles (dependencies fs methods).1 = [] →
      ∀ chain, IsTriggerChain (dependencies fs methods).1 (dependencies fs methods).2 chain →
        (chain.map Prod.snd).Nodup ∧ chain.length ≤ (dependencies fs methods).1.length) ∧
    (findCycles (dependencies fs methods).1 ≠ [] →
      ∃ chain, IsEndlessChain (dependencies fs methods).1 (dependencies fs methods).2 chain) := by
  rw [Ne, findCycles_eq_nil_iff, acyclic_triggers_iff]
  constructor
  · intro hac chain hchain
    have hnd := hac.nodup_of_isChain (isChain_feedsAmong hn hchain)
    have hsub : chain.map Prod.snd ⊆ (dependencies fs methods).1 := by
      intro u hu
      obtain ⟨x, hx, rfl⟩ := List.mem_map.1 hu
      exact (hchain.links x hx).1
    exact ⟨hnd, by simpa using (hnd.subperm hsub).length_le⟩
  · intro hac
    obtain ⟨walk, hwalk⟩ := exists_walk_of_not_acyclic hac
    choose p hp using fun n => (hwalk n).2.2
    -- each link pairs the updater with the property by which the one before it triggers it
    refine ⟨fun n => (p n, walk (n + 1)), fun n => ⟨(hwalk n).2.1, ?_⟩, fun n => (hp (n + 1)).1⟩
    exact (name_mem_dependents_iff hn (hwalk n).2.1).2 (hp n).2

end Dependencies

/-! ## A class that feeds back -/

/-- A method that assigns one property the value of another. -/
def Method.copying (name source target : String) : Method where
  attributes := []
  visibility := .inherited
  isDefault := false
  signature := ⟨false, false, false, none, .plain name, .empty, [], none, none⟩
  body := .call (.name (.plain "self")) (.plain target)
    (.call (.name (.plain "self")) (.plain source) .empty)

theorem endless_chain_of_feedback :
    let fs : List ObservableField :=
      [.sample "_celsius" "Celsius" "celsius", .sample "_kelvin" "Kelvin" "kelvin"]
    let methods : List Method :=
      [.copying "to_kelvin" "celsius" "set_kelvin", .copying "to_celsius" "kelvin" "set_celsius"]
    (methods.map Method.name).Nodup ∧ findCycles (dependencies fs methods).1 ≠ [] ∧
      ∃ chain, IsEndlessChain (dependencies fs methods).1 (dependencies fs methods).2 chain := by
  have hn : ([Method.copying "to_kelvin" "celsius" "set_kelvin",
      .copying "to_celsius" "kelvin" "set_celsius"].map Method.name).Nodup := by decide
  have hc : findCycles (dependencies
      [.sample "_celsius" "Celsius" "celsius", .sample "_kelvin" "Kelvin" "kelvin"]
      [.copying "to_kelvin" "celsius" "set_kelvin",
        .copying "to_celsius" "kelvin" "set_celsius"]).1 ≠ [] := by decide
  exact ⟨hn, hc, (triggerChains_bounded_iff hn).2 hc⟩

end ReactiveModel
