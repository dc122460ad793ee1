import Mathlib.Data.List.Forall2
import Mathlib.Data.List.Rotate
import ReactiveModel.Proofs.Dependency.Trigger

/-!
# Cycles by positions

Updaters may share a name, so what a cycle goes through is a list of positions. A `Loop` is such a
list without repetitions, and a cycle spells the loop if each of its steps names the updater at a
position and the first property by which that updater triggers the one at the next position. The
way that the search has taken spells a loop whenever it comes back (`closed_spec`).
-/

namespace ReactiveModel

open Relation

/-- The positions that a cycle goes through, each of them once. -/
structure Loop where
  positions : List ℕ
  nonempty : positions ≠ []
  nodup : positions.Nodup

/-- A step of a cycle along an edge: the updater at the start of the edge writes the property, its
first one that the updater at the end reads. -/
def CycleStep.Along (us : List Updater) (step : CycleStep) (edge : ℕ × ℕ) : Prop :=
  ∃ writer reader, us[edge.1]? = some writer ∧ us[edge.2]? = some reader ∧
    step.updater = writer.name.text ∧
    writer.writes.find? (· ∈ reader.reads) = some step.property

namespace Loop

/-- The edges of a loop; the last one leads back to the first position. -/
def edges (l : Loop) : List (ℕ × ℕ) := l.positions.zip (l.positions.rotate 1)

/-- The edge from the last position back to the first. -/
def closing (l : Loop) : ℕ × ℕ := (l.positions.getLast l.nonempty, l.positions.head l.nonempty)

/-- The steps of the cycle go along the edges of the loop. -/
def Spells (us : List Updater) (l : Loop) (c : Cycle) : Prop :=
  List.Forall₂ (CycleStep.Along us) c.steps l.edges

end Loop

variable {us : List Updater}

/-! ## Loops are cycles of the graph -/

theorem CycleStep.Along.triggers {step : CycleStep} {edge : ℕ × ℕ} (h : step.Along us edge) :
    Triggers us edge.1 edge.2 := by
  obtain ⟨writer, reader, hi, hj, -, hp⟩ := h
  exact ⟨writer, reader, hi, hj,
    step.property, List.mem_of_find?_eq_some hp, by simpa using List.find?_some hp⟩

/-- Edges in a row make a path. -/
theorem transGen_of_zip {r : ℕ → ℕ → Prop} :
    ∀ {i j : ℕ} {l : List ℕ}, (∀ e ∈ (i :: l).zip (l ++ [j]), r e.1 e.2) → TransGen r i j
  | i, j, [], h => .single (h (i, j) (by simp))
  | i, j, k :: l, h =>
    .head (h (i, k) (by simp)) (transGen_of_zip fun e he => h e (List.mem_cons_of_mem _ he))

theorem triggers_of_along {steps : List CycleStep} {edges : List (ℕ × ℕ)}
    (h : List.Forall₂ (CycleStep.Along us) steps edges) : ∀ e ∈ edges, Triggers us e.1 e.2 := by
  induction h with
  | nil => simp
  | cons hs _ ih => exact List.forall_mem_cons.2 ⟨hs.triggers, ih⟩

theorem rotate_one_eq {l : List ℕ} (hne : l ≠ []) : l.rotate 1 = l.tail ++ [l.head hne] := by
  cases l with
  | nil => exact absurd rfl hne
  | cons i rest => rw [List.rotate_cons_succ, List.rotate_zero]; rfl

/-- An edge along a list leads from one element to the next, or from the last one on. -/
theorem eq_or_infix_of_mem_zip : ∀ {l : List ℕ} (hne : l ≠ []) {j : ℕ} {e : ℕ × ℕ},
    e ∈ l.zip (l.tail ++ [j]) → e = (l.getLast hne, j) ∨ [e.1, e.2] <:+: l
  | [], hne, _, _, _ => absurd rfl hne
  | [i], _, j, e, he => by
    left
    simpa using he
  | i :: k :: l, _, j, e, he => by
    rw [List.tail_cons, List.cons_append, List.zip_cons_cons, List.mem_cons] at he
    rcases he with rfl | he
    · exact .inr (List.prefix_append [i, k] l).isInfix
    · rw [List.getLast_cons (List.cons_ne_nil k l)]
      exact (eq_or_infix_of_mem_zip (List.cons_ne_nil k l) he).imp_right List.infix_cons

/-- An edge of a loop closes it or leads from one position to the next. -/
theorem Loop.eq_closing_or_infix {l : Loop} {e : ℕ × ℕ} (he : e ∈ l.edges) :
    e = l.closing ∨ [e.1, e.2] <:+: l.positions := by
  rw [edges, rotate_one_eq l.nonempty] at he
  exact eq_or_infix_of_mem_zip l.nonempty he

/-- The graph has a cycle wherever a loop is spelled. -/
theorem Loop.Spells.not_acyclic {l : Loop} {c : Cycle} (h : l.Spells us c) :
    ¬ Acyclic (Triggers us) := by
  have hedge := triggers_of_along h
  obtain ⟨positions, hne, hnd⟩ := l
  cases positions with
  | nil => exact absurd rfl hne
  | cons i rest =>
    rw [Loop.edges, rotate_one_eq hne] at hedge
    exact fun hac => hac i (transGen_of_zip hedge)

namespace CycleSearch

/-! ## The way of the search -/

/-- Each step of the way triggers the next one, and the last step triggers the given updater. -/
def LeadsTo (us : List Updater) : Way → ℕ → Prop
  | [], _ => True
  | (i, p) :: way, j => Edge us i p j ∧ LeadsTo us way i

theorem LeadsTo.of_append :
    ∀ {way older : Way} {j : ℕ}, LeadsTo us (way ++ older) j → LeadsTo us way j
  | [], _, _, _ => trivial
  | (_, _) :: _, _, _, ⟨he, h⟩ => ⟨he, h.of_append⟩

/-- The step of a cycle that a step of the way becomes. -/
def stepAt (us : List Updater) (x : ℕ × String) : CycleStep :=
  ⟨(us[x.1]?.map (·.name.text)).getD "", x.2⟩

theorem Edge.along {i j : ℕ} {p : String} (h : Edge us i p j) :
    (stepAt us (i, p)).Along us (i, j) := by
  obtain ⟨writer, reader, hi, hj, hp⟩ := h
  refine ⟨writer, reader, hi, hj, ?_, trigger?_eq_some_iff.1 hp⟩
  simp [stepAt, hi]

/-- One more position at the end of a list adds one more edge at its end. -/
theorem zip_tail_concat (l : List ℕ) (i j : ℕ) :
    (l ++ [i]).zip ((l ++ [i]).tail ++ [j]) = l.zip (l.tail ++ [i]) ++ [(i, j)] := by
  cases l with
  | nil => rfl
  | cons a l =>
    rw [List.cons_append, List.tail_cons, List.tail_cons, ← List.cons_append,
      List.zip_append (by simp)]
    rfl

/-- The steps of a way in order go along the edges between its positions, the last one to the
updater that the way leads to. -/
theorem LeadsTo.along : ∀ {way : Way} {j : ℕ}, LeadsTo us way j →
    List.Forall₂ (CycleStep.Along us) (way.reverse.map (stepAt us))
      ((way.map Prod.fst).reverse.zip ((way.map Prod.fst).reverse.tail ++ [j]))
  | [], _, _ => .nil
  | (i, p) :: way, j, ⟨he, h⟩ => by
    rw [List.map_cons, List.reverse_cons, List.reverse_cons, List.map_append, zip_tail_concat]
    exact List.rel_append h.along (.cons he.along .nil)

/-- What comes before an updater on the way is what the search takes off the way. -/
theorem exists_eq_takeWhile_append {entry : ℕ} : ∀ {way : Way}, entry ∈ way.map Prod.fst →
    ∃ p older, way = way.takeWhile (·.1 ≠ entry) ++ (entry, p) :: older
  | (i, p) :: way, hmem => by
    by_cases hi : i = entry
    · exact ⟨p, way, by simp [hi]⟩
    · have hway : entry ∈ way.map Prod.fst := by simpa [Ne.symm hi] using hmem
      obtain ⟨q, older, e⟩ := exists_eq_takeWhile_append hway
      refine ⟨q, older, ?_⟩
      rw [List.takeWhile_cons_of_pos (by simpa using hi), List.cons_append, ← e]

/-- Coming back to an updater on the way spells a loop, which the edge just taken closes. The loop
goes through the last updaters on the way. -/
theorem closed_spec {way : Way} {entry i : ℕ} {p : String}
    (hlead : LeadsTo us ((i, p) :: way) entry) (hnd : (((i, p) :: way).map Prod.fst).Nodup)
    (hmem : entry ∈ ((i, p) :: way).map Prod.fst) :
    ∃ (l : Loop) (c : Cycle), closed us ((i, p) :: way) entry = some c ∧ l.Spells us c ∧
      l.closing = (i, entry) ∧ l.positions.reverse <+: ((i, p) :: way).map Prod.fst := by
  obtain ⟨q, older, e⟩ := exists_eq_takeWhile_append hmem
  set before := ((i, p) :: way).takeWhile (·.1 ≠ entry) with hbefore
  -- the part of the way that the loop takes, the last step first
  set part := before ++ [(entry, q)] with hpart
  have hway : (i, p) :: way = part ++ older := by rw [hpart, List.append_assoc]; exact e
  have hne : part.map Prod.fst ≠ [] := by simp [hpart]
  have hclosed : closed us ((i, p) :: way) entry = some ⟨part.reverse.map (stepAt us)⟩ := by
    have hdrop : ((i, p) :: way).drop before.length = (entry, q) :: older := by
      rw [e, List.drop_left']
      rfl
    simp only [closed, ← hbefore, hdrop]
    rw [hpart, List.reverse_append]
    rfl
  have hhead : (part.map Prod.fst).head hne = i := by
    have h := congrArg (fun l => (l.map Prod.fst).head?) hway
    rw [List.map_append, List.head?_append_of_ne_nil _ hne, List.head?_eq_some_head hne] at h
    exact (Option.some.inj h).symm
  have hlast : (part.map Prod.fst).getLast hne = entry := by simp [hpart]
  refine ⟨⟨(part.map Prod.fst).reverse, by simpa using hne, ?_⟩, _, hclosed, ?_, ?_, ?_⟩
  · rw [hway, List.map_append] at hnd
    exact List.nodup_reverse.2 hnd.of_append_left
  · have halong := (hway ▸ hlead).of_append.along
    rw [Loop.Spells, Loop.edges, rotate_one_eq (by simpa using hne), List.head_reverse, hlast]
    exact halong
  · simp only [Loop.closing, List.getLast_reverse, List.head_reverse, hhead, hlast]
  · rw [List.reverse_reverse, hway]
    exact (List.prefix_append part older).map Prod.fst

end CycleSearch

end ReactiveModel
