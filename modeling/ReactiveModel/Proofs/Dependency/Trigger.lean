import ReactiveModel.Dependency.Cycle
import ReactiveModel.Proofs.Dependency.Acyclic

/-!
# The graph of updaters

An updater triggers another if it writes a property that the other reads. The relation is stated on
positions (`Triggers`), as the search for cycles sees it, and on the updaters themselves
(`FeedsAmong`), where the order of declaration plays no part; both are acyclic at the same time.
Then no property drives itself either (`acyclic_drives`).
-/

namespace ReactiveModel

open Relation

/-- One updater writes a property that another reads. -/
def Updater.Feeds (writer reader : Updater) : Prop := ∃ p ∈ writer.writes, p ∈ reader.reads

/-- The updater at one position triggers the one at another. -/
def Triggers (us : List Updater) (i j : ℕ) : Prop :=
  ∃ writer reader, us[i]? = some writer ∧ us[j]? = some reader ∧ writer.Feeds reader

/-- One updater of a list triggers another. -/
def FeedsAmong (us : List Updater) (writer reader : Updater) : Prop :=
  writer ∈ us ∧ reader ∈ us ∧ writer.Feeds reader

variable {us : List Updater} {i j : ℕ}

theorem Triggers.lt_left (h : Triggers us i j) : i < us.length := by
  obtain ⟨_, _, hi, _⟩ := h
  exact (List.getElem?_eq_some_iff.1 hi).1

theorem Triggers.lt_right (h : Triggers us i j) : j < us.length := by
  obtain ⟨_, _, _, hj, _⟩ := h
  exact (List.getElem?_eq_some_iff.1 hj).1

/-! ## Positions and updaters -/

instance : Inhabited Updater := ⟨⟨default, [], []⟩⟩

theorem Triggers.feedsAmong (h : Triggers us i j) :
    FeedsAmong us (us[i]?.getD default) (us[j]?.getD default) := by
  obtain ⟨writer, reader, hi, hj, hf⟩ := h
  rw [hi, hj]
  exact ⟨List.mem_of_getElem? hi, List.mem_of_getElem? hj, hf⟩

theorem FeedsAmong.triggers {writer reader : Updater} (h : FeedsAmong us writer reader) :
    Triggers us (us.idxOf writer) (us.idxOf reader) := by
  obtain ⟨hw, hr, hf⟩ := h
  exact ⟨writer, reader, List.getElem?_idxOf hw, List.getElem?_idxOf hr, hf⟩

/-- A list of updaters has a cycle of positions if and only if it has one of updaters. -/
theorem acyclic_triggers_iff : Acyclic (Triggers us) ↔ Acyclic (FeedsAmong us) :=
  ⟨fun h _ hu => h _ (TransGen.lift us.idxOf (fun _ _ => FeedsAmong.triggers) _ _ hu),
    fun h _ hi =>
      h _ (TransGen.lift (fun i => us[i]?.getD default) (fun _ _ => Triggers.feedsAmong) _ _ hi)⟩

/-- The order of the updaters makes no cycle. -/
theorem acyclic_feedsAmong_of_perm {us' : List Updater} (hp : us'.Perm us)
    (h : Acyclic (FeedsAmong us)) : Acyclic (FeedsAmong us') :=
  h.mono fun _ _ ⟨hw, hr, hf⟩ => ⟨hp.mem_iff.1 hw, hp.mem_iff.1 hr, hf⟩

/-! ## Properties -/

/-- Some updater reads one property and writes the other. -/
def Drives (us : List Updater) (p q : String) : Prop := ∃ u ∈ us, p ∈ u.reads ∧ q ∈ u.writes

/-- Where one property drives another in some steps, updaters feed one another on the way. -/
theorem exists_feedsAmong_of_drives {p q : String} (h : TransGen (Drives us) p q) :
    ∃ first ∈ us, ∃ last ∈ us, p ∈ first.reads ∧ q ∈ last.writes ∧
      ReflTransGen (FeedsAmong us) first last := by
  induction h with
  | single h =>
    obtain ⟨u, hu, hp, hq⟩ := h
    exact ⟨u, hu, u, hu, hp, hq, .refl⟩
  | tail _ h ih =>
    obtain ⟨first, hfirst, last, hlast, hp, hw, hpath⟩ := ih
    obtain ⟨u, hu, hr, hq⟩ := h
    exact ⟨first, hfirst, u, hu, hp, hq, hpath.tail ⟨hlast, hu, _, hw, hr⟩⟩

theorem acyclic_drives (h : Acyclic (FeedsAmong us)) : Acyclic (Drives us) := by
  intro p hp
  obtain ⟨first, hfirst, last, hlast, hr, hw, hpath⟩ := exists_feedsAmong_of_drives hp
  exact h last (TransGen.head' ⟨hlast, hfirst, p, hw, hr⟩ hpath)

/-! ## Successors -/

namespace CycleSearch

theorem trigger?_eq_some_iff {writer reader : Updater} {p : String} :
    trigger? writer reader = some p ↔ writer.writes.find? (· ∈ reader.reads) = some p := by
  unfold trigger?
  rw [show reader.reads.contains = fun p => decide (p ∈ reader.reads) from
    funext fun _ => List.elem_eq_mem _ _]

theorem exists_trigger?_iff {writer reader : Updater} :
    (∃ p, trigger? writer reader = some p) ↔ writer.Feeds reader := by
  rw [← Option.isSome_iff_exists, trigger?, List.find?_isSome]
  simp [Updater.Feeds]

/-- A step along an edge: the updater at one position triggers the one at another through the
property, the first one that it writes and the other reads. -/
def Edge (us : List Updater) (i : ℕ) (p : String) (j : ℕ) : Prop :=
  ∃ writer reader, us[i]? = some writer ∧ us[j]? = some reader ∧ trigger? writer reader = some p

theorem Edge.triggers {p : String} (h : Edge us i p j) : Triggers us i j := by
  obtain ⟨writer, reader, hi, hj, hp⟩ := h
  exact ⟨writer, reader, hi, hj, exists_trigger?_iff.1 ⟨p, hp⟩⟩

theorem exists_edge_iff : (∃ p, Edge us i p j) ↔ Triggers us i j := by
  refine ⟨fun ⟨p, h⟩ => h.triggers, ?_⟩
  rintro ⟨writer, reader, hi, hj, hf⟩
  obtain ⟨p, hp⟩ := exists_trigger?_iff.2 hf
  exact ⟨p, writer, reader, hi, hj, hp⟩

theorem mem_successors {p : String} : (j, p) ∈ successors us i ↔ Edge us i p j := by
  unfold successors Edge
  cases hi : us[i]? with
  | none => simp
  | some writer => simp [List.mem_zipIdx_iff_getElem?, Option.map_eq_some_iff]

/-- An updater comes up once among the successors of another. -/
theorem nodup_successors : ((successors us i).map Prod.fst).Nodup := by
  unfold successors
  cases us[i]? with
  | none => exact List.nodup_nil
  | some writer =>
    have hpos : us.zipIdx.Pairwise fun a b => a.2 ≠ b.2 := by
      rw [← List.pairwise_map (f := Prod.snd), List.zipIdx_map_snd]
      exact List.nodup_range'
    rw [List.Nodup, List.pairwise_map, List.pairwise_filterMap]
    refine hpos.imp fun hab x hx y hy => ?_
    obtain ⟨p, -, rfl⟩ := Option.map_eq_some_iff.1 hx
    obtain ⟨q, -, rfl⟩ := Option.map_eq_some_iff.1 hy
    exact hab

end CycleSearch

end ReactiveModel
