import Mathlib.Data.List.Nodup
import ReactiveModel.Dependency.Updater
import ReactiveModel.Proofs.Property.Index

/-!
# Edges of the dependency graph

A new edge changes what depends on its property, and nothing else (`dependents_addEdge`); a graph
has nothing in it but what depends on each property (`eq_of_dependents_eq`). The graph of updaters
has an edge from each property to the updaters that read it, and an updater that a class analyses
reads properties of the class only. So the updaters that depend on a property are, by name, those
that read it (`name_mem_dependents_iff`).
-/

namespace ReactiveModel

namespace DependencyGraph

/-! ## Tables -/

section Table

variable {entries : List (String × List Ident)} {updaters : List Ident} {p q : String} {u v : Ident}

theorem mem_withUpdater : v ∈ withUpdater updaters u ↔ v ∈ updaters ∨ v = u := by
  unfold withUpdater
  split
  · next h => exact ⟨.inl, fun hv => hv.elim id fun e => by simpa [e] using h⟩
  · simp

theorem length_withUpdater :
    (withUpdater updaters u).length = updaters.length + if u ∈ updaters then 0 else 1 := by
  unfold withUpdater
  by_cases h : u ∈ updaters
  · simp [h]
  · simp [h]

theorem lookup_cons_ite :
    List.lookup q ((p, updaters) :: entries) =
      if q = p then some updaters else entries.lookup q := by
  rw [List.lookup_cons]
  split_ifs with h
  · rw [h, beq_self_eq_true]
  · rw [beq_false_of_ne h]

/-- A property before the first one of a table has no entry. -/
theorem lookup_eq_none_of_lt {e : String × List Ident}
    (h : (e :: entries).Pairwise fun a b => a.1 < b.1) (hp : p < e.1) :
    (e :: entries).lookup p = none := by
  have hlt : ∀ a ∈ e :: entries, p < a.1 := by
    refine List.forall_mem_cons.2 ⟨hp, fun a ha => ?_⟩
    exact String.lt_trans hp ((List.pairwise_cons.1 h).1 a ha)
  rw [List.lookup_eq_none_iff]
  intro a ha
  have hne : p ≠ a.1 := by
    intro heq
    exact String.lt_irrefl _ (heq ▸ hlt a ha)
  simpa using hne

/-- The table with one more edge has another entry for its property, and for no other. -/
theorem lookup_withEdge (h : entries.Pairwise fun a b => a.1 < b.1) :
    (withEdge p u entries).lookup q =
      if q = p then some (withUpdater ((entries.lookup p).getD []) u) else entries.lookup q := by
  induction entries with
  | nil => simp [withEdge, withUpdater, lookup_cons_ite]
  | cons e rest ih =>
    obtain ⟨r, updaters⟩ := e
    obtain ⟨-, hrest⟩ := List.pairwise_cons.1 h
    unfold withEdge
    split
    · next hlt =>
      have hpr : p ≠ r := by
        rintro rfl
        exact String.lt_irrefl _ hlt
      rw [lookup_cons_ite, lookup_cons_ite, lookup_cons_ite, if_neg hpr, ih hrest]
      by_cases hqr : q = r
      · rw [if_pos hqr, if_pos hqr, if_neg (hqr ▸ hpr.symm)]
      · rw [if_neg hqr, if_neg hqr]
    · next hle =>
      split
      · next hrp =>
        subst hrp
        rw [lookup_cons_ite, lookup_cons_ite, lookup_cons_ite, if_pos rfl, Option.getD_some]
        by_cases hqr : q = r
        · rw [if_pos hqr, if_pos hqr]
        · rw [if_neg hqr, if_neg hqr, if_neg hqr]
      · next hrp =>
        have hlt : p < r := Std.lt_of_le_of_ne (String.not_lt.1 hle) (Ne.symm hrp)
        rw [lookup_eq_none_of_lt h hlt, lookup_cons_ite]
        rfl

/-- A new edge is counted once. -/
theorem length_flatMap_withEdge (h : entries.Pairwise fun a b => a.1 < b.1) :
    ((withEdge p u entries).flatMap (·.2)).length =
      (entries.flatMap (·.2)).length + if u ∈ (entries.lookup p).getD [] then 0 else 1 := by
  induction entries with
  | nil => simp [withEdge]
  | cons e rest ih =>
    obtain ⟨r, updaters⟩ := e
    obtain ⟨-, hrest⟩ := List.pairwise_cons.1 h
    unfold withEdge
    split
    · next hlt =>
      have hpr : p ≠ r := by
        rintro rfl
        exact String.lt_irrefl _ hlt
      rw [List.flatMap_cons, List.length_append, ih hrest, lookup_cons_ite, if_neg hpr,
        List.flatMap_cons, List.length_append, Nat.add_assoc]
    · next hle =>
      split
      · next hrp =>
        subst hrp
        simp only [List.flatMap_cons, List.length_append, length_withUpdater, lookup_cons_ite,
          if_pos, Option.getD_some]
        omega
      · next hrp =>
        have hlt : p < r := Std.lt_of_le_of_ne (String.not_lt.1 hle) (Ne.symm hrp)
        simp [lookup_eq_none_of_lt h hlt, Nat.add_comm]

/-- Looking up a property finds its entry, as no other entry has it. -/
theorem mem_iff_lookup_eq_some (h : entries.Pairwise fun a b => a.1 < b.1) :
    (p, updaters) ∈ entries ↔ entries.lookup p = some updaters := by
  induction entries with
  | nil => simp
  | cons e rest ih =>
    obtain ⟨r, others⟩ := e
    obtain ⟨hfirst, hrest⟩ := List.pairwise_cons.1 h
    by_cases hpr : p = r
    · subst hpr
      have hnot : (p, updaters) ∉ rest := fun hmem => String.lt_irrefl p (hfirst _ hmem)
      rw [lookup_cons_ite, if_pos rfl, List.mem_cons, or_iff_left hnot]
      simp [eq_comm]
    · rw [lookup_cons_ite, if_neg hpr, List.mem_cons, ← ih hrest]
      simp [hpr]

end Table

variable {g g' : DependencyGraph} {p q : String} {u v : Ident}

/-! ## Single edges -/

theorem dependents_addEdge : (g.addEdge p u).dependents q =
    if q = p then withUpdater (g.dependents p) u else g.dependents q := by
  unfold dependents addEdge
  rw [lookup_withEdge g.ascending]
  split <;> rfl

theorem edgeCount_addEdge :
    (g.addEdge p u).edgeCount = g.edgeCount + if u ∈ g.dependents p then 0 else 1 :=
  length_flatMap_withEdge g.ascending

theorem mem_dependents_addEdge :
    v ∈ (g.addEdge p u).dependents q ↔ v ∈ g.dependents q ∨ (q, v) = (p, u) := by
  rw [dependents_addEdge, Prod.mk.injEq]
  split
  · next h => simp [mem_withUpdater, h]
  · next h => simp [h]

theorem mem_dependents_addEdges :
    ∀ {g : DependencyGraph} {es : List (String × Ident)},
      v ∈ (g.addEdges es).dependents q ↔ v ∈ g.dependents q ∨ (q, v) ∈ es
  | g, [] => by simp [addEdges]
  | g, (p, u) :: es => by
    have ih := @mem_dependents_addEdges (g.addEdge p u) es
    rw [mem_dependents_addEdge] at ih
    rw [List.mem_cons, ← or_assoc, ← ih]
    rfl

/-! ## Equality -/

/-- The entries of a graph are the properties with updaters that depend on them. -/
theorem mem_entries_iff {e : String × List Ident} :
    e ∈ g.entries ↔ e.2 ≠ [] ∧ g.dependents e.1 = e.2 := by
  have hlookup : e ∈ g.entries ↔ g.entries.lookup e.1 = some e.2 :=
    mem_iff_lookup_eq_some g.ascending
  unfold dependents
  constructor
  · intro he
    exact ⟨g.inhabited e he, by rw [hlookup.1 he, Option.getD_some]⟩
  · rintro ⟨hne, hdependents⟩
    cases hfound : g.entries.lookup e.1 with
    | none =>
      rw [hfound] at hdependents
      exact absurd hdependents.symm hne
    | some updaters =>
      rw [hfound] at hdependents
      exact hlookup.2 (hfound.trans (congrArg some hdependents))

/-- Graphs in which the same updaters depend on each property are equal: both have the same entries,
and both in ascending order. -/
theorem eq_of_dependents_eq (h : ∀ p, g.dependents p = g'.dependents p) : g = g' := by
  have hnodup : ∀ g : DependencyGraph, g.entries.Nodup := fun g =>
    g.ascending.imp fun {a b} (hab : a.1 < b.1) (heq : a = b) => String.lt_irrefl _ (heq ▸ hab)
  have hperm : g.entries.Perm g'.entries := by
    refine (List.perm_ext_iff_of_nodup (hnodup g) (hnodup g')).2 fun e => ?_
    rw [mem_entries_iff, mem_entries_iff, h e.1]
  have hentries : g.entries = g'.entries := by
    refine hperm.eq_of_pairwise (fun a b _ _ hab hba => ?_) g.ascending g'.ascending
    exact absurd hba (String.lt_asymm hab)
  cases g
  cases g'
  cases hentries
  rfl

/-! ## The graph of updaters -/

/-- An edge leads from each of the properties to the updaters that read it. -/
theorem mem_dependents_ofUpdaters_iff {properties : List String} {us : List Updater} :
    u ∈ (ofUpdaters properties us).dependents p ↔
      p ∈ properties ∧ ∃ v ∈ us, p ∈ v.reads ∧ v.name = u := by
  have hnone : ¬ u ∈ dependents ∅ p := List.not_mem_nil
  rw [ofUpdaters, mem_dependents_addEdges]
  simp only [hnone, false_or, List.mem_flatMap, List.mem_map, List.mem_filter,
    List.contains_eq_mem, decide_eq_true_eq, Prod.mk.injEq]
  constructor
  · rintro ⟨q, hq, v, ⟨hv, hr⟩, rfl, rfl⟩
    exact ⟨hq, v, hv, hr, rfl⟩
  · rintro ⟨hp, v, hv, hr, rfl⟩
    exact ⟨p, hp, v, ⟨hv, hr⟩, rfl, rfl⟩

end DependencyGraph

/-! ## Analysed updaters -/

theorem Updater.read?_le {index : PropertyIndex} {locals : Locals} {r : Reference} {p : String}
    (h : read? index locals r = some p) : ∃ name, index.read? name = some p := by
  unfold read? at h
  split_ifs at h
  split at h
  · exact ⟨_, h⟩
  · split_ifs at h
    exact ⟨_, h⟩

/-- Analysed updaters read properties of the class only. -/
theorem Updater.mem_of_mem_reads {fs : List ObservableField} {m : Method} {p : String}
    (h : p ∈ (ofMethod (.ofFields fs) m).reads) : p ∈ fs.map (·.property) := by
  obtain ⟨r, -, hr⟩ := List.mem_filterMap.1 (List.mem_eraseDups.1 h)
  obtain ⟨name, hname⟩ := read?_le hr
  obtain ⟨f, hf, -, hp⟩ := PropertyIndex.exists_of_read?_eq_some hname
  exact List.mem_map.2 ⟨f, hf, hp⟩

section Dependencies

variable {fs : List ObservableField} {methods : List Method} {u : Updater} {p : String}

theorem mem_properties_of_mem_reads (hu : u ∈ (dependencies fs methods).1) (hp : p ∈ u.reads) :
    p ∈ fs.map (·.property) := by
  obtain ⟨m, -, rfl⟩ := List.mem_map.1 hu
  exact Updater.mem_of_mem_reads hp

/-- The updaters that depend on a property are those that read it. -/
theorem name_mem_dependents_iff (hn : (methods.map Method.name).Nodup)
    (hu : u ∈ (dependencies fs methods).1) :
    u.name ∈ (dependencies fs methods).2.dependents p ↔ p ∈ u.reads := by
  have hnames : ((dependencies fs methods).1.map (·.name)).Nodup := by
    rw [dependencies, List.map_map]
    exact hn
  rw [dependencies, DependencyGraph.mem_dependents_ofUpdaters_iff]
  constructor
  · rintro ⟨-, v, hv, hp, hvu⟩
    rwa [← List.inj_on_of_nodup_map hnames hv hu hvu]
  · exact fun hp => ⟨mem_properties_of_mem_reads hu hp, u, hu, hp, rfl⟩

end Dependencies

end ReactiveModel
