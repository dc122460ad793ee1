import ReactiveModel.Token.Basic

/-!
# The dependency graph

An edge leads from a property to an updater that must run when the property changes. The graph is a
table of the properties that have edges, in ascending order, each with its updaters in the order in
which they were added, each of them once. So two graphs are equal if and only if they lead from the
same properties to the same updaters in the same order.
-/

namespace ReactiveModel

/-- The edges from properties to updaters. -/
structure DependencyGraph where
  /-- The properties with the updaters that must run when they change. -/
  entries : List (String × List Ident)
  ascending : entries.Pairwise fun a b => a.1 < b.1
  /-- No property is kept without an updater. -/
  inhabited : ∀ e ∈ entries, e.2 ≠ []
  nodup : ∀ e ∈ entries, e.2.Nodup

namespace DependencyGraph

/-- The graph without edges. -/
def empty : DependencyGraph where
  entries := []
  ascending := .nil
  inhabited := List.forall_mem_nil _
  nodup := List.forall_mem_nil _

instance : EmptyCollection DependencyGraph := ⟨empty⟩

/-- Updaters with one more at their end, unless it is among them. -/
def withUpdater (updaters : List Ident) (updater : Ident) : List Ident :=
  if updaters.contains updater then updaters else updaters ++ [updater]

/-- A table with one more edge. -/
def withEdge (property : String) (updater : Ident) :
    List (String × List Ident) → List (String × List Ident)
  | [] => [(property, [updater])]
  | (p, updaters) :: rest =>
    if p < property then (p, updaters) :: withEdge property updater rest
    else if p = property then (p, withUpdater updaters updater) :: rest
    else (property, [updater]) :: (p, updaters) :: rest

section Table

variable {property : String} {updater : Ident} {updaters : List Ident}

theorem withUpdater_ne_nil (h : updaters ≠ []) : withUpdater updaters updater ≠ [] := by
  unfold withUpdater
  split
  · exact h
  · simp

theorem nodup_withUpdater (h : updaters.Nodup) : (withUpdater updaters updater).Nodup := by
  unfold withUpdater
  split
  · exact h
  · next hnew =>
    refine List.nodup_append.2 ⟨h, by simp, fun a ha b hb => ?_⟩
    rw [List.mem_singleton.1 hb]
    rintro rfl
    exact hnew (by simpa using ha)

/-- A table with one more edge has the properties that it had and that of the edge. -/
theorem fst_of_mem_withEdge {entries : List (String × List Ident)} {e : String × List Ident}
    (he : e ∈ withEdge property updater entries) :
    e.1 = property ∨ ∃ a ∈ entries, a.1 = e.1 := by
  induction entries with
  | nil => exact .inl (by rw [List.mem_singleton.1 he])
  | cons entry rest ih =>
    obtain ⟨p, updaters⟩ := entry
    unfold withEdge at he
    split at he
    · rcases List.mem_cons.1 he with rfl | he
      · exact .inr ⟨_, List.mem_cons_self, rfl⟩
      · exact (ih he).imp_right fun ⟨a, ha, h⟩ => ⟨a, List.mem_cons_of_mem _ ha, h⟩
    · split at he
      · rcases List.mem_cons.1 he with rfl | he
        · exact .inr ⟨_, List.mem_cons_self, rfl⟩
        · exact .inr ⟨e, List.mem_cons_of_mem _ he, rfl⟩
      · rcases List.mem_cons.1 he with rfl | he
        · exact .inl rfl
        · exact .inr ⟨e, he, rfl⟩

theorem ascending_withEdge {entries : List (String × List Ident)}
    (h : entries.Pairwise fun a b => a.1 < b.1) :
    (withEdge property updater entries).Pairwise fun a b => a.1 < b.1 := by
  induction entries with
  | nil => exact List.pairwise_singleton _ _
  | cons entry rest ih =>
    obtain ⟨p, updaters⟩ := entry
    obtain ⟨hfirst, hrest⟩ := List.pairwise_cons.1 h
    unfold withEdge
    split
    · next hlt =>
      refine List.pairwise_cons.2 ⟨fun e he => ?_, ih hrest⟩
      rcases fst_of_mem_withEdge he with he | ⟨a, ha, he⟩
      · rwa [he]
      · rw [← he]
        exact hfirst a ha
    · next hle =>
      split
      · exact List.pairwise_cons.2 ⟨hfirst, hrest⟩
      · next hne =>
        have hlt : property < p := Std.lt_of_le_of_ne (String.not_lt.1 hle) (Ne.symm hne)
        refine List.pairwise_cons.2 ⟨fun e he => ?_, h⟩
        rcases List.mem_cons.1 he with rfl | he
        · exact hlt
        · exact String.lt_trans hlt (hfirst e he)

/-- What holds of updaters with another one among them holds throughout a table with one more
edge. -/
theorem forall_mem_withEdge (holds : List Ident → Prop) (hone : holds [updater])
    (hmore : ∀ updaters, holds updaters → holds (withUpdater updaters updater))
    {entries : List (String × List Ident)} (h : ∀ e ∈ entries, holds e.2) :
    ∀ e ∈ withEdge property updater entries, holds e.2 := by
  induction entries with
  | nil =>
    intro e he
    rw [List.mem_singleton.1 he]
    exact hone
  | cons entry rest ih =>
    obtain ⟨p, updaters⟩ := entry
    obtain ⟨hfirst, hrest⟩ := List.forall_mem_cons.1 h
    unfold withEdge
    split
    · exact List.forall_mem_cons.2 ⟨hfirst, ih hrest⟩
    · split
      · exact List.forall_mem_cons.2 ⟨hmore _ hfirst, hrest⟩
      · exact List.forall_mem_cons.2 ⟨hone, h⟩

end Table

/-- The graph with one more edge, unless it has the edge. -/
def addEdge (g : DependencyGraph) (property : String) (updater : Ident) : DependencyGraph where
  entries := withEdge property updater g.entries
  ascending := ascending_withEdge g.ascending
  inhabited := forall_mem_withEdge (· ≠ []) (by simp) (fun _ => withUpdater_ne_nil) g.inhabited
  nodup := forall_mem_withEdge List.Nodup (by simp) (fun _ => nodup_withUpdater) g.nodup

/-- The graph with the edges of a list. -/
def addEdges (g : DependencyGraph) (edges : List (String × Ident)) : DependencyGraph :=
  edges.foldl (fun g edge => g.addEdge edge.1 edge.2) g

/-- The updaters that must run when a property changes. -/
def dependents (g : DependencyGraph) (property : String) : List Ident :=
  (g.entries.lookup property).getD []

/-- The number of edges. -/
def edgeCount (g : DependencyGraph) : Nat := (g.entries.flatMap (·.2)).length

end DependencyGraph

end ReactiveModel
