import Mathlib.Data.Finset.Card
import ReactiveModel.Proofs.Dependency.Order

/-!
# The graph as an ordered relation

A graph that is built up edge by edge depends on the additions only through what is added for each
property: the updaters of a property are those added for it, each where it is added first, and the
graph has nothing else in it. So graphs are equal if and only if they agree on these updaters
for every property, whatever the order in which the properties take turns (`graph_of_additions`).
-/

namespace ReactiveModel

namespace DependencyGraph

variable {es es' : List (String × Ident)} {p : String}

/-- The updaters that are added for a property, in the order of the additions. -/
def addedFor (es : List (String × Ident)) (p : String) : List Ident :=
  (es.filter (·.1 == p)).map (·.2)

theorem addedFor_eq_nil (h : ∀ e ∈ es, e.1 ≠ p) : addedFor es p = [] := by
  have hfilter : es.filter (·.1 == p) = [] := by
    rw [List.filter_eq_nil_iff]
    intro e he
    simpa using h e he
  rw [addedFor, hfilter, List.map_nil]

/-- Graphs are equal if and only if the same updaters are added first for each property, in the same
order. -/
theorem addEdges_eq_iff : addEdges ∅ es = addEdges ∅ es' ↔
    ∀ p, (addedFor es p).eraseDups = (addedFor es' p).eraseDups := by
  constructor
  · intro h p
    calc (addedFor es p).eraseDups
      _ = (addEdges ∅ es).dependents p := (dependents_addEdges es p).symm
      _ = (addEdges ∅ es').dependents p := by rw [h]
      _ = (addedFor es' p).eraseDups := dependents_addEdges es' p
  · intro h
    apply eq_of_dependents_eq
    intro p
    rw [dependents_addEdges, dependents_addEdges]
    exact h p

theorem length_eraseDups_eq_card {α : Type} [BEq α] [LawfulBEq α] [DecidableEq α] (l : List α) :
    l.eraseDups.length = l.toFinset.card := by
  have hset : l.eraseDups.toFinset = l.toFinset := by
    ext a
    rw [List.mem_toFinset, List.mem_toFinset, List.mem_eraseDups]
  rw [← hset, List.toFinset_card_of_nodup (nodup_eraseDups l)]

/-- What is in a graph after any additions. The updaters that depend on a property are those that
are added for it, each of them at its first addition only; there are none if none are added. There
are as many edges as different ones are added. Two rows of additions give the same graph if and only
if they agree on these updaters for every property; so the graph does not depend on how
additions for different properties alternate. -/
theorem graph_of_additions (es : List (String × Ident)) :
    let g := addEdges ∅ es
    (∀ p, g.dependents p = (addedFor es p).eraseDups) ∧
    (∀ p, (∀ e ∈ es, e.1 ≠ p) → g.dependents p = []) ∧
    g.edgeCount = es.toFinset.card ∧
    (∀ es', g = addEdges ∅ es' ↔
      ∀ p, (addedFor es p).eraseDups = (addedFor es' p).eraseDups) ∧
    ∀ es', (∀ p, addedFor es p = addedFor es' p) → g = addEdges ∅ es' := by
  intro g
  refine ⟨dependents_addEdges es, fun p h => ?_, ?_, fun es' => addEdges_eq_iff, fun es' h => ?_⟩
  · have hdependents : g.dependents p = (addedFor es p).eraseDups := dependents_addEdges es p
    rw [hdependents, addedFor_eq_nil h]
    rfl
  · rw [← length_eraseDups_eq_card]
    exact edgeCount_addEdges es
  · rw [addEdges_eq_iff]
    intro p
    rw [h p]

/-- Two rows of additions in which the properties alternate differently. -/
theorem graph_of_additions_alternating :
    let es : List (String × Ident) :=
      [("P", .plain "a"), ("Q", .plain "b"), ("P", .plain "b"), ("P", .plain "a")]
    let es' : List (String × Ident) :=
      [("Q", .plain "b"), ("P", .plain "a"), ("P", .plain "b"), ("P", .plain "a")]
    addEdges ∅ es = addEdges ∅ es' ∧ (addEdges ∅ es).dependents "P" = [.plain "a", .plain "b"] ∧
      (addEdges ∅ es).dependents "R" = [] ∧ (addEdges ∅ es).edgeCount = 3 := by
  intro es es'
  obtain ⟨hdependents, hnone, hcount, -, halternate⟩ := graph_of_additions es
  have hadded : ∀ p, addedFor es p = addedFor es' p := by
    intro p
    unfold addedFor
    by_cases hp : "P" = p
    · subst hp
      rfl
    · simp [es, es', List.filter_cons, hp]
  exact ⟨halternate es' hadded, hdependents "P", hnone "R" (by decide), hcount⟩

end DependencyGraph

end ReactiveModel
