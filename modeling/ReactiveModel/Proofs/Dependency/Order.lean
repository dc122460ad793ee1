import Mathlib.Algebra.BigOperators.Group.List.Basic
import Mathlib.Algebra.Ring.Nat
import Mathlib.Data.List.Induction
import ReactiveModel.Proofs.Dependency.Graph

/-!
# The order of edges

The updaters that depend on a property are those that are added for it, each where it is added first
(`dependents_addEdges`), and edges for other properties play no part. In the graph of updaters they
are the updaters that read the property, in the order of their declaration
(`dependents_ofUpdaters`). The graph has as many edges as different ones are added
(`edgeCount_addEdges`).
-/

namespace ReactiveModel

/-! ## First occurrences -/

section EraseDups

variable {α β : Type} [BEq α] [LawfulBEq α] [BEq β] [LawfulBEq β] {l : List α} {a : α}

theorem eraseDups_concat_of_mem (h : a ∈ l) : (l ++ [a]).eraseDups = l.eraseDups := by
  rw [List.eraseDups_append]
  simp [List.removeAll, h]

theorem eraseDups_concat_of_notMem (h : a ∉ l) : (l ++ [a]).eraseDups = l.eraseDups ++ [a] := by
  rw [List.eraseDups_append]
  simp [List.removeAll, h, List.eraseDups_cons]

theorem nodup_eraseDups (l : List α) : l.eraseDups.Nodup := by
  induction l using List.reverseRecOn with
  | nil => exact .nil
  | append_singleton l a ih =>
    by_cases h : a ∈ l
    · rwa [eraseDups_concat_of_mem h]
    · rw [eraseDups_concat_of_notMem h, ← List.concat_eq_append]
      exact ih.concat fun ha => h (List.mem_eraseDups.1 ha)

theorem filter_eraseDups (p : α → Bool) (l : List α) :
    l.eraseDups.filter p = (l.filter p).eraseDups := by
  induction l using List.reverseRecOn with
  | nil => rfl
  | append_singleton l a ih =>
    rw [List.filter_append]
    by_cases hp : p a = true
    · rw [List.filter_cons_of_pos hp, List.filter_nil]
      by_cases h : a ∈ l
      · rw [eraseDups_concat_of_mem h, eraseDups_concat_of_mem (List.mem_filter.2 ⟨h, hp⟩), ih]
      · have h' : a ∉ l.filter p := fun h' => h (List.mem_filter.1 h').1
        rw [eraseDups_concat_of_notMem h, eraseDups_concat_of_notMem h', List.filter_append, ih,
          List.filter_cons_of_pos hp, List.filter_nil]
    · rw [List.filter_cons_of_neg hp, List.filter_nil, List.append_nil, ← ih]
      by_cases h : a ∈ l
      · rw [eraseDups_concat_of_mem h]
      · rw [eraseDups_concat_of_notMem h, List.filter_append, List.filter_cons_of_neg hp,
          List.filter_nil, List.append_nil]

/-- Elements are not taken for one another by a function that keeps them apart. -/
theorem map_eraseDups {f : α → β} (hf : ∀ a ∈ l, ∀ b ∈ l, f a = f b → a = b) :
    l.eraseDups.map f = (l.map f).eraseDups := by
  induction l using List.reverseRecOn with
  | nil => rfl
  | append_singleton l a ih =>
    have hl := ih fun b hb c hc => hf b (by simp [hb]) c (by simp [hc])
    rw [List.map_append, List.map_singleton]
    by_cases h : a ∈ l
    · rw [eraseDups_concat_of_mem h, eraseDups_concat_of_mem (List.mem_map_of_mem h), hl]
    · have h' : f a ∉ l.map f := by
        intro h'
        obtain ⟨b, hb, e⟩ := List.mem_map.1 h'
        exact h (hf b (by simp [hb]) a (by simp) e ▸ hb)
      rw [eraseDups_concat_of_notMem h, eraseDups_concat_of_notMem h', List.map_append, hl,
        List.map_singleton]

end EraseDups

namespace DependencyGraph

variable {g : DependencyGraph} {es : List (String × Ident)} {p : String}

/-! ## Edges as they are added -/

theorem addEdges_concat {e : String × Ident} :
    g.addEdges (es ++ [e]) = (g.addEdges es).addEdge e.1 e.2 := by
  simp [addEdges]

theorem withUpdater_eraseDups (updaters : List Ident) (u : Ident) :
    withUpdater updaters.eraseDups u = (updaters ++ [u]).eraseDups := by
  unfold withUpdater
  by_cases h : u ∈ updaters
  · rw [eraseDups_concat_of_mem h, if_pos (by simpa using h)]
  · rw [eraseDups_concat_of_notMem h, if_neg (by simpa using h)]

/-- The updaters that depend on a property are those that are added for it, each where it is added
first. -/
theorem dependents_addEdges (es : List (String × Ident)) (p : String) :
    (addEdges ∅ es).dependents p = ((es.filter (·.1 == p)).map (·.2)).eraseDups := by
  induction es using List.reverseRecOn with
  | nil => rfl
  | append_singleton es e ih =>
    rw [addEdges_concat, dependents_addEdge, List.filter_append]
    by_cases h : p = e.1
    · subst h
      rw [if_pos rfl, ih, withUpdater_eraseDups, List.filter_cons_of_pos (by simp), List.map_append]
      rfl
    · rw [if_neg h, ih, List.filter_cons_of_neg (by simpa using Ne.symm h), List.filter_nil,
        List.append_nil]

/-- An edge of the graph is one that is added. -/
theorem mem_dependents_addEdges_empty {e : String × Ident} :
    e.2 ∈ (addEdges ∅ es).dependents e.1 ↔ e ∈ es := by
  have hnone : ¬ e.2 ∈ dependents ∅ e.1 := List.not_mem_nil
  rw [mem_dependents_addEdges, or_iff_right hnone]

/-- Each of the added edges is counted once. -/
theorem edgeCount_addEdges (es : List (String × Ident)) :
    (addEdges ∅ es).edgeCount = es.eraseDups.length := by
  induction es using List.reverseRecOn with
  | nil => rfl
  | append_singleton es e ih =>
    rw [addEdges_concat, edgeCount_addEdge, ih]
    by_cases h : e ∈ es
    · rw [if_pos (mem_dependents_addEdges_empty.2 h), eraseDups_concat_of_mem h, Nat.add_zero]
    · rw [if_neg (mt mem_dependents_addEdges_empty.1 h), eraseDups_concat_of_notMem h,
        List.length_append, List.length_singleton]

/-- The edges of a property among those that are added, each of them once. -/
theorem length_dependents_addEdges (es : List (String × Ident)) (p : String) :
    ((addEdges ∅ es).dependents p).length = (es.eraseDups.filter (·.1 == p)).length := by
  have hfst : ∀ e ∈ es.filter (·.1 == p), e.1 = p := by
    intro e he
    simpa using (List.mem_filter.1 he).2
  rw [dependents_addEdges, filter_eraseDups, ← map_eraseDups, List.length_map]
  intro a ha b hb heq
  exact Prod.ext ((hfst a ha).trans (hfst b hb).symm) heq

/-! ## The graph of updaters -/

variable {properties : List String} {us : List Updater}

/-- The updaters that read a property. -/
def readersAmong (us : List Updater) (p : String) : List Updater :=
  us.filter (·.reads.contains p)

/-- Of edges that are grouped by their properties, those of one property are its group. -/
theorem filter_edges_of_mem (hn : properties.Nodup) (hp : p ∈ properties) :
    (properties.flatMap fun q => (readersAmong us q).map fun u => (q, u.name)).filter (·.1 == p) =
      (readersAmong us p).map fun u => (p, u.name) := by
  induction properties with
  | nil => cases hp
  | cons q properties ih =>
    obtain ⟨hq, hn⟩ := List.nodup_cons.1 hn
    rw [List.flatMap_cons, List.filter_append]
    by_cases h : q = p
    · subst h
      have hrest : (properties.flatMap fun q' =>
          (readersAmong us q').map fun u => (q', u.name)).filter (·.1 == q) = [] := by
        rw [List.filter_eq_nil_iff]
        simp only [List.mem_flatMap, List.mem_map]
        rintro _ ⟨q', hq', u, -, rfl⟩
        simpa using fun e : q' = q => hq (e ▸ hq')
      rw [hrest, List.append_nil, List.filter_eq_self]
      simp
    · have hgroup : ((readersAmong us q).map fun u => (q, u.name)).filter (·.1 == p) = [] := by
        rw [List.filter_eq_nil_iff]
        simp [h]
      rw [hgroup, List.nil_append, ih hn ((List.mem_cons.1 hp).resolve_left (Ne.symm h))]

/-- The updaters that depend on a property are those that read it, in the order of their
declaration. -/
theorem dependents_ofUpdaters (hn : properties.Nodup) (hp : p ∈ properties) :
    (ofUpdaters properties us).dependents p =
      ((us.filter (·.reads.contains p)).map (·.name)).eraseDups := by
  have h := dependents_addEdges
    (properties.flatMap fun q => (readersAmong us q).map fun u => (q, u.name)) p
  rw [filter_edges_of_mem hn hp, List.map_map] at h
  exact h

/-! ## The number of edges -/

theorem sum_map_beq (keys : List String) (k : String) :
    (keys.map fun k' => if k == k' then 1 else 0).sum = keys.count k := by
  induction keys with
  | nil => rfl
  | cons k' keys ih =>
    rw [List.map_cons, List.sum_cons, ih, List.count_cons, Nat.add_comm, BEq.comm]

/-- Elements are counted by their keys. -/
theorem sum_length_filter_eq_length {β : Type} {keys : List String} (hn : keys.Nodup) :
    ∀ {l : List (String × β)}, (∀ e ∈ l, e.1 ∈ keys) →
      (keys.map fun k => (l.filter (·.1 == k)).length).sum = l.length
  | [], _ => by simp
  | e :: l, h => by
    have ih := sum_length_filter_eq_length hn fun e' he' => h e' (List.mem_cons_of_mem _ he')
    have hone : (keys.map fun k => if e.1 == k then 1 else 0).sum = 1 := by
      rw [sum_map_beq, List.count_eq_one_of_mem hn (h e List.mem_cons_self)]
    have hcons : ∀ k, ((e :: l).filter (·.1 == k)).length =
        (if e.1 == k then 1 else 0) + (l.filter (·.1 == k)).length := by
      intro k
      by_cases hk : e.1 == k <;> simp [hk, Nat.add_comm]
    simp only [hcons]
    rw [List.sum_map_add, hone, ih, List.length_cons, Nat.add_comm]

/-- Each edge is counted among the dependents of its property. -/
theorem sum_length_dependents (hn : properties.Nodup) :
    (properties.map fun p => ((ofUpdaters properties us).dependents p).length).sum =
      (ofUpdaters properties us).edgeCount := by
  have hkeys : ∀ e ∈ (properties.flatMap fun q =>
      (us.filter (·.reads.contains q)).map fun u => (q, u.name)).eraseDups, e.1 ∈ properties := by
    intro e he
    obtain ⟨q, hq, hmem⟩ := List.mem_flatMap.1 (List.mem_eraseDups.1 he)
    obtain ⟨u, -, rfl⟩ := List.mem_map.1 hmem
    exact hq
  simp only [ofUpdaters, length_dependents_addEdges, edgeCount_addEdges]
  exact sum_length_filter_eq_length hn hkeys

end DependencyGraph

end ReactiveModel
