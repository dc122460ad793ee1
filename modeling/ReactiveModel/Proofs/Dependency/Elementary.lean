import ReactiveModel.Proofs.Class.Violation
import ReactiveModel.Proofs.Dependency.CycleSearch

/-!
# Which cycles are found

A cycle of the graph is a loop along its edges, and it is the same cycle wherever it begins. The
search finds no cycle twice, and each cycle of the graph goes along an edge that closes one of those
that are found. But only one cycle is found for such an edge, so all cycles are found exactly when
none of these edges lies on a second one (`every_cycle_found_iff`), which is not always so
(`not_forall_cycle_found`).
-/

namespace ReactiveModel

variable {us : List Updater} {loops : List Loop} {l l' : Loop} {c : Cycle}

/-! ## Loops that begin elsewhere -/

namespace Loop

/-- The loop goes along edges of the graph. -/
def IsCycle (us : List Updater) (l : Loop) : Prop := ∀ e ∈ l.edges, Triggers us e.1 e.2

/-- The loops go through the same positions in the same order, but may begin at different ones. -/
def Same (l l' : Loop) : Prop := l.positions ~r l'.positions

theorem Same.edges (h : l.Same l') : l.edges ~r l'.edges := by
  obtain ⟨n, hn⟩ := h
  refine ⟨n, ?_⟩
  unfold Loop.edges
  rw [← hn, List.zip, List.zipWith_rotate_distrib _ _ _ _ (List.length_rotate ..).symm,
    List.rotate_rotate, List.rotate_rotate, Nat.add_comm]

theorem closing_mem_edges (l : Loop) : l.closing ∈ l.edges := by
  unfold edges closing
  have h := CycleSearch.zip_tail_concat l.positions.dropLast (l.positions.getLast l.nonempty)
    (l.positions.head l.nonempty)
  rw [List.dropLast_append_getLast l.nonempty] at h
  rw [rotate_one_eq l.nonempty, h]
  exact List.mem_append_right _ (List.mem_singleton_self _)

theorem Spells.isCycle (h : l.Spells us c) : l.IsCycle us := triggers_of_along h

/-- Each position of a loop is the start of an edge. -/
theorem exists_edge_of_mem {i : ℕ} (hi : i ∈ l.positions) : ∃ j, (i, j) ∈ l.edges := by
  obtain ⟨k, hk, rfl⟩ := List.getElem_of_mem hi
  have hk' : k < (l.positions.rotate 1).length := by rwa [List.length_rotate]
  refine ⟨(l.positions.rotate 1)[k], ?_⟩
  rw [← List.getElem_zip (h := by simpa using hk)]
  exact List.getElem_mem _

/-- A cycle names the updaters that its loop goes through. -/
theorem Spells.exists_step (h : l.Spells us c) {i : ℕ} (hi : i ∈ l.positions) :
    ∃ step ∈ c.steps, ∃ u, us[i]? = some u ∧ step.updater = u.name.text := by
  obtain ⟨j, hj⟩ := exists_edge_of_mem hi
  obtain ⟨k, hk, hkj⟩ := List.getElem_of_mem hj
  have hstep : k < c.steps.length := by rwa [List.Forall₂.length_eq h]
  have halong := List.Forall₂.get h hstep hk
  obtain ⟨u, -, hu, -, hname, -⟩ := halong
  refine ⟨_, List.get_mem _ _, u, ?_, hname⟩
  rwa [List.get_eq_getElem, hkj] at hu

end Loop

/-! ## Cycles and the edges that close them -/

/-- Each cycle goes along the edge that closes one of the loops, if the graph is acyclic without
these edges. -/
theorem Loop.IsCycle.exists_closing_mem
    (hac : Acyclic fun i j => Triggers us i j ∧ (i, j) ∉ loops.map Loop.closing)
    (h : l.IsCycle us) : ∃ l' ∈ loops, l'.closing ∈ l.edges := by
  by_contra hnone
  -- otherwise the cycle is one of the acyclic graph without these edges
  have hkept : ∀ e ∈ l.edges, Triggers us e.1 e.2 ∧ (e.1, e.2) ∉ loops.map Loop.closing := by
    intro e he
    refine ⟨h e he, fun hmem => hnone ?_⟩
    obtain ⟨l', hl', hclosing⟩ := List.mem_map.1 hmem
    exact ⟨l', hl', hclosing ▸ he⟩
  obtain ⟨positions, hne, hnd⟩ := l
  cases positions with
  | nil => exact absurd rfl hne
  | cons i rest =>
    rw [Loop.edges, rotate_one_eq hne] at hkept
    exact hac i (transGen_of_zip hkept)

theorem exists_spelled {cs : List Cycle} (h : List.Forall₂ (Loop.Spells us) loops cs)
    (hl : l ∈ loops) : ∃ c ∈ cs, l.Spells us c := by
  induction h with
  | nil => cases hl
  | @cons l' c loops cs hspell _ ih =>
    rcases List.mem_cons.1 hl with rfl | hl
    · exact ⟨c, List.mem_cons_self, hspell⟩
    · obtain ⟨c', hc', hspell'⟩ := ih hl
      exact ⟨c', List.mem_cons_of_mem _ hc', hspell'⟩

/-- Loops that are closed by different edges, none of which another loop goes along, are different
cycles. -/
theorem pairwise_not_same (hnd : (loops.map Loop.closing).Nodup)
    (hapart : ∀ l ∈ loops, ∀ e ∈ l.edges, e ∈ loops.map Loop.closing → e = l.closing) :
    loops.Pairwise fun l l' => ¬ l.Same l' := by
  refine (List.pairwise_map.1 hnd).imp_of_mem ?_
  intro l l' hl hl' hne hsame
  have hmem : l'.closing ∈ l.edges := hsame.edges.mem_iff.2 l'.closing_mem_edges
  exact hne (hapart l hl _ hmem (List.mem_map_of_mem hl')).symm

/-- All cycles are found if and only if none but the loop itself goes along the edge that closes
it. -/
theorem forall_exists_same_iff (hnd : (loops.map Loop.closing).Nodup)
    (hac : Acyclic fun i j => Triggers us i j ∧ (i, j) ∉ loops.map Loop.closing)
    (hapart : ∀ l ∈ loops, ∀ e ∈ l.edges, e ∈ loops.map Loop.closing → e = l.closing) :
    (∀ l : Loop, l.IsCycle us → ∃ l' ∈ loops, l'.Same l) ↔
      ∀ l ∈ loops, ∀ l' : Loop, l'.IsCycle us → l.closing ∈ l'.edges → l.Same l' := by
  constructor
  · intro h l hl l' hcycle hmem
    obtain ⟨found, hfound, hsame⟩ := h l' hcycle
    have hclosing : l.closing = found.closing :=
      hapart found hfound _ (hsame.edges.mem_iff.2 hmem) (List.mem_map_of_mem hl)
    have heq : l = found := List.inj_on_of_nodup_map hnd hl hfound hclosing
    rwa [heq]
  · intro h l hcycle
    obtain ⟨l', hl', hmem⟩ := hcycle.exists_closing_mem hac
    exact ⟨l', hl', h l' hl' l hcycle hmem⟩

/-- The search finds cycles of the graph, none of them twice, and each cycle of the graph goes along
an edge that closes one of those found. All cycles are found if and only if no other cycle goes
along such an edge; then each updater on a cycle is named by one that is found. Where cycles are not
allowed, the violations of a class that are about cycles are those found, each once. -/
theorem every_cycle_found_iff (us : List Updater) :
    ∃ loops : List Loop, List.Forall₂ (Loop.Spells us) loops (findCycles us) ∧
      (∀ l ∈ loops, l.IsCycle us) ∧ loops.Pairwise (fun l l' => ¬ l.Same l') ∧
      (∀ l : Loop, l.IsCycle us → ∃ l' ∈ loops, l'.closing ∈ l.edges) ∧
      ((∀ l : Loop, l.IsCycle us → ∃ l' ∈ loops, l'.Same l) ↔
        ∀ l ∈ loops, ∀ l' : Loop, l'.IsCycle us → l.closing ∈ l'.edges → l.Same l') ∧
      ((∀ l : Loop, l.IsCycle us → ∃ l' ∈ loops, l'.Same l) →
        ∀ l : Loop, l.IsCycle us → ∀ i ∈ l.positions, ∃ c ∈ findCycles us, ∃ step ∈ c.steps,
          ∃ u, us[i]? = some u ∧ step.updater = u.name.text) ∧
      ∀ (config : Config) (candidate : Candidate) (a : Analysis),
        candidate.analyse config = .ok a → a.reactiveClass.updaters = us →
        candidate.allowCycles = false → config.cyclePolicy ≠ .allow →
          a.diagnostics.filter (·.kind = .dependencyCycle) =
            (findCycles us).map (Analysis.ofCycle candidate.qualifiedName) := by
  obtain ⟨loops, hspell, hnd, hac, hapart⟩ := CycleSearch.exists_loops_apart us
  refine ⟨loops, hspell, fun l hl => ?_, pairwise_not_same hnd hapart,
    fun l h => h.exists_closing_mem hac, forall_exists_same_iff hnd hac hapart, ?_, ?_⟩
  · obtain ⟨c, -, hc⟩ := exists_spelled hspell hl
    exact hc.isCycle
  · intro h l hcycle i hi
    obtain ⟨l', hl', hsame⟩ := h l hcycle
    obtain ⟨c, hc, hspells⟩ := exists_spelled hspell hl'
    exact ⟨c, hc, hspells.exists_step (hsame.mem_iff.2 hi)⟩
  · rintro config candidate a ha rfl hclass hpolicy
    rw [Analysis.filter_dependencyCycle ha]
    simp [hclass, hpolicy]

/-! ## Two cycles through one edge -/

/-- The first updater triggers the second and the third, and either of them triggers the last one,
which triggers the first. -/
def twoWays : List Updater :=
  [⟨.plain "a", ["A"], ["Q"]⟩, ⟨.plain "b", ["Q"], ["D"]⟩, ⟨.plain "c", ["Q"], ["D"]⟩,
    ⟨.plain "d", ["D"], ["A"]⟩]

theorem isCycle_twoWays {positions : List ℕ} {hne : positions ≠ []} {hnd : positions.Nodup}
    (h : ∀ e ∈ positions.zip (positions.rotate 1),
      e.2 ∈ (CycleSearch.successors twoWays e.1).map Prod.fst) :
    Loop.IsCycle twoWays ⟨positions, hne, hnd⟩ := by
  intro e he
  obtain ⟨⟨j, p⟩, hmem, hj⟩ := List.mem_map.1 (h e he)
  rw [← hj]
  exact (CycleSearch.mem_successors.1 hmem).triggers

/-- The cycle that takes the second way is not found. -/
theorem not_forall_cycle_found :
    ¬ ∀ us : List Updater, ∃ loops : List Loop,
      List.Forall₂ (Loop.Spells us) loops (findCycles us) ∧
        ∀ l : Loop, l.IsCycle us → ∃ l' ∈ loops, l'.Same l := by
  intro h
  obtain ⟨loops, hspell, hfound⟩ := h twoWays
  have hlength : loops.length = 1 := hspell.length_eq.trans (by decide)
  obtain ⟨found, rfl⟩ := List.length_eq_one_iff.1 hlength
  have hone : ∀ l : Loop, l.IsCycle twoWays → found.Same l := by
    intro l hl
    obtain ⟨l', hl', hsame⟩ := hfound l hl
    rwa [List.mem_singleton.1 hl'] at hsame
  have hfirst : found.Same ⟨[0, 1, 3], by decide, by decide⟩ :=
    hone _ (isCycle_twoWays (by decide))
  have hsecond : found.Same ⟨[0, 2, 3], by decide, by decide⟩ :=
    hone _ (isCycle_twoWays (by decide))
  have hmem : 1 ∈ [0, 2, 3] := hsecond.mem_iff.1 (hfirst.mem_iff.2 (by decide))
  exact absurd hmem (by decide)

end ReactiveModel
