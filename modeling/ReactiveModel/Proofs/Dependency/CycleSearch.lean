import ReactiveModel.Proofs.Dependency.Loop

/-!
# The search for cycles

A state of the search is accounted for (`Accounts`) by the way to the updater being visited, the
updaters that are done and the loops that the cycles found so far spell: what is open is on the
way, and a done updater triggers only updaters that were done before it, closing edges of loops
apart. Visiting an updater keeps the account (`visitsWith_all`), so after the search the closing
edges are all that keeps the done updaters from being a settled list.
-/

namespace ReactiveModel

namespace CycleSearch

variable {us : List Updater}

/-! ## Marks -/

namespace State

theorem mark_eq_done_of_le {s : State} {i : ℕ} (h : s.marks.length ≤ i) : s.mark i = .done := by
  simp [mark, List.getElem?_eq_none h]

theorem lt_of_mark_ne_done {s : State} {i : ℕ} (h : s.mark i ≠ .done) : i < s.marks.length :=
  Nat.lt_of_not_le fun hle => h (mark_eq_done_of_le hle)

theorem mark_setMark_self {s : State} {i : ℕ} {m : Mark} (h : i < s.marks.length) :
    (s.setMark i m).mark i = m := by
  simp [mark, setMark, h]

theorem mark_setMark_ne {s : State} {i j : ℕ} {m : Mark} (h : j ≠ i) :
    (s.setMark i m).mark j = s.mark j := by
  simp [mark, setMark, List.getElem?_set_ne h.symm]

@[simp] theorem length_marks_setMark {s : State} {i : ℕ} {m : Mark} :
    (s.setMark i m).marks.length = s.marks.length := by
  simp [setMark]

end State

/-! ## Accounts -/

/-- The updaters that are done, the last one first, and the loops that have been closed. -/
structure Account where
  done : List ℕ
  loops : List Loop

namespace Account

/-- The closing edges of the loops. -/
def closings (a : Account) : List (ℕ × ℕ) := a.loops.map Loop.closing

/-- An edge that closes no loop. -/
def Kept (us : List Updater) (a : Account) (i j : ℕ) : Prop :=
  Triggers us i j ∧ (i, j) ∉ a.closings

end Account

/-- A state of the search inside of the updaters at the positions of `path`. -/
structure Accounts (us : List Updater) (path : List ℕ) (s : State) (a : Account) : Prop where
  length : s.marks.length = us.length
  nodup_path : path.Nodup
  open_iff : ∀ i, s.mark i = .open ↔ i ∈ path
  done_iff : ∀ i < us.length, (s.mark i = .done ↔ i ∈ a.done)
  found : List.Forall₂ (Loop.Spells us) a.loops s.found
  nodup_closings : a.closings.Nodup
  visited : ∀ e ∈ a.closings, s.mark e.1 ≠ .unvisited
  settled : Settled (a.Kept us) a.done
  /-- An edge that closes no loop leads to what is done, or one step on along the way. -/
  inner : ∀ l ∈ a.loops, ∀ e ∈ l.edges,
    e = l.closing ∨ s.mark e.2 = .done ∨ [e.2, e.1] <:+: path
  /-- An edge that closes a loop leads back along the way. -/
  back : ∀ e ∈ a.closings, ∀ above below, path = above ++ e.1 :: below → e.2 ∈ e.1 :: below
  /-- No loop goes along the edge that closes another one. -/
  apart : ∀ l ∈ a.loops, ∀ e ∈ l.edges, e ∈ a.closings → e = l.closing

/-- A later account: what was done stays done, and the loops that are new close with edges of the
given kind. -/
structure Account.Grows (kind : ℕ × ℕ → Prop) (a a' : Account) : Prop where
  done : a.done ⊆ a'.done
  closings : ∃ new, a'.closings = a.closings ++ new ∧ ∀ e ∈ new, kind e

namespace Account.Grows

variable {kind kind' : ℕ × ℕ → Prop} {a a' a'' : Account}

theorem refl : a.Grows kind a := ⟨fun _ h => h, [], by simp, by simp⟩

theorem mono (h : a.Grows kind a') (hk : ∀ e, kind e → kind' e) : a.Grows kind' a' := by
  obtain ⟨new, e, hn⟩ := h.closings
  exact ⟨h.done, new, e, fun x hx => hk x (hn x hx)⟩

theorem trans (h : a.Grows kind a') (h' : a'.Grows kind a'') : a.Grows kind a'' := by
  obtain ⟨new, e, hn⟩ := h.closings
  obtain ⟨new', e', hn'⟩ := h'.closings
  refine ⟨fun i hi => h'.done (h.done hi), new ++ new', by rw [e', e, List.append_assoc], ?_⟩
  exact fun x hx => (List.mem_append.1 hx).elim (hn x) (hn' x)

theorem mem_closings (h : a.Grows kind a') {e : ℕ × ℕ} (he : e ∈ a.closings) :
    e ∈ a'.closings := by
  obtain ⟨new, e', -⟩ := h.closings
  exact e' ▸ List.mem_append_left _ he

theorem mem_or_kind (h : a.Grows kind a') {e : ℕ × ℕ} (he : e ∈ a'.closings) :
    e ∈ a.closings ∨ kind e := by
  obtain ⟨new, e', hn⟩ := h.closings
  rw [e'] at he
  exact (List.mem_append.1 he).imp_right (hn e)

end Account.Grows

namespace Accounts

variable {path : List ℕ} {s s' : State} {a a' : Account} {i j : ℕ}

theorem lt_of_mem_path (h : Accounts us path s a) (hi : i ∈ path) : i < us.length := by
  rw [← h.length]
  exact State.lt_of_mark_ne_done (by rw [(h.open_iff i).2 hi]; simp)

theorem lt_of_unvisited (h : Accounts us path s a) (hi : s.mark i = .unvisited) :
    i < us.length := by
  rw [← h.length]
  exact State.lt_of_mark_ne_done (by simp [hi])

/-- There are no more updaters on the way than there are updaters. -/
theorem length_path_le (h : Accounts us path s a) : path.length ≤ us.length := by
  have hsub : path ⊆ List.range us.length := fun i hi => List.mem_range.2 (h.lt_of_mem_path hi)
  simpa using (h.nodup_path.subperm hsub).length_le

/-- What is unvisited later was unvisited before. -/
theorem unvisited_of_grows (h : Accounts us path s a) (h' : Accounts us path s' a')
    (hd : a.done ⊆ a'.done) (hi : s'.mark i = .unvisited) : s.mark i = .unvisited := by
  have hlt := h'.lt_of_unvisited hi
  cases hm : s.mark i with
  | unvisited => rfl
  | «open» =>
    have := (h'.open_iff i).2 ((h.open_iff i).1 hm)
    simp [hi] at this
  | done =>
    have := (h'.done_iff i hlt).2 (hd ((h.done_iff i hlt).1 hm))
    simp [hi] at this

/-! ## One step of the search -/

/-- An updater is entered. -/
theorem enter (h : Accounts us path s a) (hi : s.mark i = .unvisited) :
    Accounts us (i :: path) (s.setMark i .open) a := by
  have hlt : i < s.marks.length := h.length ▸ h.lt_of_unvisited hi
  have hpath : i ∉ path := fun hp => by simpa [hi] using (h.open_iff i).2 hp
  have hdone : i ∉ a.done := fun hd => by
    simpa [hi] using (h.done_iff i (h.length ▸ hlt)).2 hd
  refine ⟨by simp [h.length], List.nodup_cons.2 ⟨hpath, h.nodup_path⟩, fun j => ?_, fun j hj => ?_,
    h.found, h.nodup_closings, fun e he => ?_, h.settled, fun l hl e he => ?_,
    fun e he above below hp => ?_, h.apart⟩
  · by_cases hji : j = i
    · simp [hji, State.mark_setMark_self hlt]
    · simp [hji, State.mark_setMark_ne hji, h.open_iff]
  · by_cases hji : j = i
    · simp [hji, State.mark_setMark_self hlt, hdone]
    · rw [State.mark_setMark_ne hji, h.done_iff j hj]
  · by_cases hei : e.1 = i
    · simp [hei, State.mark_setMark_self hlt]
    · rw [State.mark_setMark_ne hei]
      exact h.visited e he
  · refine (h.inner l hl e he).imp_right (Or.imp (fun hm => ?_) List.infix_cons)
    have hei : e.2 ≠ i := fun hei => by simp [← hei, hm] at hi
    rwa [State.mark_setMark_ne hei]
  · cases above with
    | nil =>
      -- nothing leads out of the new updater yet
      have hei : i = e.1 := (List.cons.inj hp).1
      exact absurd (hei ▸ hi) (h.visited e he)
    | cons _ above => exact h.back e he above below (List.cons.inj hp).2

/-- An updater is left once all that it triggers is done or closes a loop. -/
theorem leave (h : Accounts us (i :: path) s a)
    (hi : ∀ j, Triggers us i j → (i, j) ∈ a.closings ∨ j ∈ a.done) :
    Accounts us path (s.setMark i .done) ⟨i :: a.done, a.loops⟩ := by
  have hlt : i < s.marks.length := h.length ▸ h.lt_of_mem_path (List.mem_cons_self ..)
  obtain ⟨hpath, hnd⟩ := List.nodup_cons.1 h.nodup_path
  have hopen : s.mark i = .open := (h.open_iff i).2 (List.mem_cons_self ..)
  have hdone : i ∉ a.done := fun hd => by
    simpa [hopen] using (h.done_iff i (h.length ▸ hlt)).2 hd
  refine ⟨by simp [h.length], hnd, fun j => ?_, fun j hj => ?_, h.found, h.nodup_closings,
    fun e he => ?_, ⟨fun j hj => (hi j hj.1).resolve_left hj.2, hdone, h.settled⟩,
    fun l hl e he => ?_, fun e he above below hp => ?_, h.apart⟩
  · by_cases hji : j = i
    · simp [hji, State.mark_setMark_self hlt, hpath]
    · simp [State.mark_setMark_ne hji, h.open_iff, hji]
  · by_cases hji : j = i
    · simp [hji, State.mark_setMark_self hlt]
    · simp [State.mark_setMark_ne hji, h.done_iff j hj, hji]
  · by_cases hei : e.1 = i
    · simp [hei, State.mark_setMark_self hlt]
    · rw [State.mark_setMark_ne hei]
      exact h.visited e he
  · by_cases hei : e.2 = i
    · exact .inr (.inl (by rw [hei, State.mark_setMark_self hlt]))
    · refine (h.inner l hl e he).imp_right (Or.imp (fun hm => ?_) fun hp => ?_)
      · rwa [State.mark_setMark_ne hei]
      · exact (List.infix_cons_iff.1 hp).resolve_left fun hp => hei (List.cons_prefix_cons.1 hp).1
  · exact h.back e he (i :: above) below (by rw [hp, List.cons_append])

/-- The search comes back to an updater on the way, by an edge that has not been taken. -/
theorem close {way : Way} {p : String} (h : Accounts us (i :: way.map Prod.fst) s a)
    (hlead : LeadsTo us way i) (he : Edge us i p j) (hj : s.mark j = .open)
    (hnew : (i, j) ∉ a.closings) :
    ∃ l : Loop, l.closing = (i, j) ∧ Accounts us (i :: way.map Prod.fst)
      { s with found := s.found ++ (closed us ((i, p) :: way) j).toList }
      ⟨a.done, a.loops ++ [l]⟩ := by
  have hi : s.mark i = .open := (h.open_iff i).2 (List.mem_cons_self ..)
  have hback : LeadsTo us ((i, p) :: way) j := ⟨he, hlead⟩
  obtain ⟨l, c, hc, hl, hlc, hway⟩ := closed_spec hback h.nodup_path ((h.open_iff j).1 hj)
  have hclosings : (⟨a.done, a.loops ++ [l]⟩ : Account).closings = a.closings ++ [(i, j)] := by
    simp [Account.closings, hlc]
  have hinner : ∀ e ∈ l.edges, e = l.closing ∨ [e.2, e.1] <:+: i :: way.map Prod.fst := by
    intro e he
    refine (Loop.eq_closing_or_infix he).imp_right fun hp => ?_
    have hreverse : [e.2, e.1] <:+: l.positions.reverse := List.reverse_infix.2 hp
    exact hreverse.trans hway.isInfix
  refine ⟨l, hlc, h.length, h.nodup_path, h.open_iff, h.done_iff, ?_, ?_, ?_, ?_, ?_, ?_, ?_⟩
  · rw [hc]
    exact List.rel_append h.found (.cons hl .nil)
  · rw [hclosings, ← List.concat_eq_append]
    exact h.nodup_closings.concat hnew
  · rw [hclosings]
    intro e he
    rcases List.mem_append.1 he with he | he
    · exact h.visited e he
    · rw [List.mem_singleton.1 he]
      show s.mark i ≠ .unvisited
      simp [hi]
  · refine h.settled.mono fun x y hxy => ⟨hxy.1, fun hm => hxy.2 ?_⟩
    rw [hclosings]
    exact List.mem_append_left _ hm
  · intro l' hl' e he
    rcases List.mem_append.1 hl' with hl' | hl'
    · exact h.inner l' hl' e he
    · rw [List.mem_singleton.1 hl'] at he ⊢
      exact (hinner e he).imp_right .inr
  · rw [hclosings]
    intro e he above below hp
    rcases List.mem_append.1 he with he | he
    · exact h.back e he above below hp
    · rw [List.mem_singleton.1 he] at hp ⊢
      cases above with
      | nil =>
        have hmem : j ∈ i :: way.map Prod.fst := (h.open_iff j).1 hj
        rwa [hp] at hmem
      | cons _ above =>
        have hmem : i ∈ way.map Prod.fst := (List.cons.inj hp).2 ▸ by simp
        exact absurd hmem (List.nodup_cons.1 h.nodup_path).1
  · rw [hclosings]
    intro l' hl' e he hec
    rcases List.mem_append.1 hl' with hl' | hl' <;> rcases List.mem_append.1 hec with hec | hec
    · exact h.apart l' hl' e he hec
    · -- what an inner edge of an earlier loop leads to from here is done
      rw [List.mem_singleton.1 hec] at he ⊢
      rcases h.inner l' hl' _ he with hc | hd | hp
      · exact hc
      · simp [hj] at hd
      · refine absurd ?_ (List.nodup_cons.1 h.nodup_path).1
        rcases List.infix_cons_iff.1 hp with hp | hp
        · exact (List.cons_prefix_cons.1 hp).2.subset (by simp)
        · exact hp.subset (by simp)
    · -- an inner edge of the new loop leads on along the way, not back
      rw [List.mem_singleton.1 hl'] at he ⊢
      refine (hinner e he).resolve_right ?_
      rintro ⟨above, below, hp⟩
      have hback := h.back e hec (above ++ [e.2]) below (by simp [← hp])
      have hnd := h.nodup_path
      rw [← hp, List.append_assoc] at hnd
      exact (List.nodup_cons.1 (List.nodup_append.1 hnd).2.1).1 hback
    · rw [List.mem_singleton.1 hl', List.mem_singleton.1 hec, hlc]

end Accounts

/-! ## Visits -/

/-- Takes one edge out of the updater that is being visited. -/
def follow (us : List Updater) (fuel : ℕ) (way : Way) (node : ℕ) (s : State) (x : ℕ × String) :
    State :=
  match s.mark x.1 with
  | .unvisited => visit us fuel ((node, x.2) :: way) x.1 s
  | .open => { s with found := s.found ++ (closed us ((node, x.2) :: way) x.1).toList }
  | .done => s

theorem visit_succ (fuel : ℕ) (way : Way) (node : ℕ) (s : State) :
    visit us (fuel + 1) way node s =
      ((successors us node).foldl (follow us fuel way node) (s.setMark node .open)).setMark node
        .done := rfl

/-- Visiting an updater, with fuel for all that are not on the way, gets it done and closes loops
by edges out of unvisited updaters only. -/
def VisitsWith (us : List Updater) (fuel : ℕ) : Prop :=
  ∀ (way : Way) {node : ℕ} {s : State} {a : Account}, LeadsTo us way node →
    Accounts us (way.map Prod.fst) s a → s.mark node = .unvisited →
    us.length ≤ fuel + way.length →
    ∃ a', Accounts us (way.map Prod.fst) (visit us fuel way node s) a' ∧
      a.Grows (fun e => s.mark e.1 = .unvisited) a' ∧ node ∈ a'.done

section Follow

variable {fuel node : ℕ} {way : Way} (hv : VisitsWith us fuel) (hlead : LeadsTo us way node)
  (hfuel : us.length ≤ fuel + 1 + way.length)

include hv hlead hfuel

/-- An edge that has been taken closes a loop or leads to an updater that is done. -/
theorem follow_spec {s : State} {a : Account} {x : ℕ × String}
    (h : Accounts us (node :: way.map Prod.fst) s a) (he : Edge us node x.2 x.1)
    (hnew : (node, x.1) ∉ a.closings) :
    ∃ a', Accounts us (node :: way.map Prod.fst) (follow us fuel way node s x) a' ∧
      a.Grows (fun e => s.mark e.1 = .unvisited ∨ e = (node, x.1)) a' ∧
      ((node, x.1) ∈ a'.closings ∨ x.1 ∈ a'.done) := by
  unfold follow
  cases hm : s.mark x.1 with
  | unvisited =>
    obtain ⟨a', h', hg, hd⟩ := hv ((node, x.2) :: way) ⟨he, hlead⟩ h hm
      (by rw [List.length_cons]; omega)
    exact ⟨a', h', hg.mono fun _ => .inl, .inr hd⟩
  | «open» =>
    obtain ⟨l, hl, h'⟩ := h.close hlead he hm hnew
    have hc : (⟨a.done, a.loops ++ [l]⟩ : Account).closings = a.closings ++ [(node, x.1)] := by
      simp [Account.closings, hl]
    exact ⟨_, h', ⟨fun _ hi => hi, [(node, x.1)], hc, by simp⟩, .inl (by simp [hc])⟩
  | done => exact ⟨a, h, .refl, .inr ((h.done_iff x.1 he.triggers.lt_right).1 hm)⟩

/-- After all edges have been taken, each of them closes a loop or leads to what is done. -/
theorem foldl_follow_spec : ∀ {todo : List (ℕ × String)} {s : State} {a : Account},
    Accounts us (node :: way.map Prod.fst) s a → (∀ x ∈ todo, Edge us node x.2 x.1) →
    (todo.map Prod.fst).Nodup → (∀ x ∈ todo, (node, x.1) ∉ a.closings) →
    ∃ a', Accounts us (node :: way.map Prod.fst) (todo.foldl (follow us fuel way node) s) a' ∧
      a.Grows (fun e => s.mark e.1 = .unvisited ∨ e.1 = node) a' ∧
      ∀ x ∈ todo, (node, x.1) ∈ a'.closings ∨ x.1 ∈ a'.done
  | [], _, a, h, _, _, _ => ⟨a, h, .refl, by simp⟩
  | x :: todo, s, a, h, he, hnd, hnew => by
    obtain ⟨hx, hnd⟩ := List.nodup_cons.1 hnd
    obtain ⟨he₁, he⟩ := List.forall_mem_cons.1 he
    obtain ⟨hnew₁, hnew⟩ := List.forall_mem_cons.1 hnew
    obtain ⟨a₁, h₁, hg₁, hd₁⟩ := follow_spec hv hlead hfuel h he₁ hnew₁
    have hopen : s.mark node = .open := (h.open_iff node).2 (List.mem_cons_self ..)
    -- the edges that are left have not been taken by closing another loop either
    have hnew' : ∀ y ∈ todo, (node, y.1) ∉ a₁.closings := by
      intro y hy hc
      rcases hg₁.mem_or_kind hc with hc | hc | hc
      · exact hnew y hy hc
      · simp [hopen] at hc
      · exact hx (List.mem_map.2 ⟨y, hy, (Prod.mk.inj hc).2⟩)
    obtain ⟨a₂, h₂, hg₂, hd₂⟩ := foldl_follow_spec h₁ he hnd hnew'
    have hg₂' : a₁.Grows (fun e => s.mark e.1 = .unvisited ∨ e.1 = node) a₂ :=
      hg₂.mono fun e => Or.imp_left (h.unvisited_of_grows h₁ hg₁.done)
    have hg₁' : a.Grows (fun e => s.mark e.1 = .unvisited ∨ e.1 = node) a₁ :=
      hg₁.mono fun e => Or.imp_right (congrArg Prod.fst)
    exact ⟨a₂, h₂, hg₁'.trans hg₂', List.forall_mem_cons.2
      ⟨hd₁.imp hg₂.mem_closings fun hd => hg₂.done hd, hd₂⟩⟩

end Follow

theorem visitsWith_all : ∀ fuel, VisitsWith us fuel
  | 0, way, node, s, a, _, h, hn, hfuel => by
    -- the way would have to go through all updaters and the new one
    have hle := (h.enter hn).length_path_le
    simp only [List.length_cons, List.length_map] at hle
    omega
  | fuel + 1, way, node, s, a, hlead, h, hn, hfuel => by
    have hin := h.enter hn
    have hclosings : ∀ x ∈ successors us node, (node, x.1) ∉ a.closings :=
      fun x _ hc => h.visited _ hc hn
    obtain ⟨a₁, h₁, hg, hd⟩ := foldl_follow_spec (visitsWith_all fuel) hlead hfuel hin
      (fun x hx => mem_successors.1 hx) nodup_successors hclosings
    have hout : ∀ j, Triggers us node j → (node, j) ∈ a₁.closings ∨ j ∈ a₁.done := by
      intro j hj
      obtain ⟨p, hp⟩ := exists_edge_iff.2 hj
      exact hd (j, p) (mem_successors.2 hp)
    rw [visit_succ]
    refine ⟨_, h₁.leave hout, ⟨?_, ?_⟩, List.mem_cons_self ..⟩
    · exact fun i hi => List.mem_cons_of_mem _ (hg.done hi)
    · obtain ⟨new, e, hnew⟩ := hg.closings
      refine ⟨new, e, fun x hx => ?_⟩
      by_cases hxn : x.1 = node
      · rw [hxn]
        exact hn
      · rw [← State.mark_setMark_ne hxn]
        exact (hnew x hx).resolve_right hxn

/-! ## The whole search -/

theorem start_spec {s : State} {a : Account} {i : ℕ} (h : Accounts us [] s a)
    (hi : i < us.length) :
    ∃ a', Accounts us [] (start us s i) a' ∧ a.done ⊆ a'.done ∧ i ∈ a'.done := by
  unfold start
  cases hm : s.mark i with
  | unvisited =>
    obtain ⟨a', h', hg, hd⟩ :=
      visitsWith_all us.length [] trivial h hm (Nat.le_add_right _ _)
    exact ⟨a', h', hg.done, hd⟩
  | «open» => exact absurd ((h.open_iff i).1 hm) List.not_mem_nil
  | done => exact ⟨a, h, fun _ hj => hj, (h.done_iff i hi).1 hm⟩

theorem foldl_start_spec : ∀ {nodes : List ℕ} {s : State} {a : Account}, Accounts us [] s a →
    (∀ i ∈ nodes, i < us.length) →
    ∃ a', Accounts us [] (nodes.foldl (start us) s) a' ∧ a.done ⊆ a'.done ∧
      ∀ i ∈ nodes, i ∈ a'.done
  | [], _, a, h, _ => ⟨a, h, fun _ hj => hj, by simp⟩
  | i :: nodes, _, _, h, hlt => by
    obtain ⟨hi, hlt⟩ := List.forall_mem_cons.1 hlt
    obtain ⟨a₁, h₁, hd₁, hm₁⟩ := start_spec h hi
    obtain ⟨a₂, h₂, hd₂, hm₂⟩ := foldl_start_spec h₁ hlt
    exact ⟨a₂, h₂, fun j hj => hd₂ (hd₁ hj), List.forall_mem_cons.2 ⟨hd₂ hm₁, hm₂⟩⟩

theorem accounts_initial (us : List Updater) :
    Accounts us [] ⟨us.map fun _ => .unvisited, []⟩ ⟨[], []⟩ := by
  have hmark (i : ℕ) (hi : i < us.length) :
      State.mark ⟨us.map fun _ => .unvisited, []⟩ i = .unvisited := by
    simp [State.mark, hi]
  refine ⟨by simp, List.nodup_nil, fun i => ?_, fun i hi => ?_, .nil, List.nodup_nil,
    by simp [Account.closings], trivial, by simp, by simp [Account.closings], by simp⟩
  · by_cases hi : i < us.length
    · rw [hmark i hi]
      simp
    · rw [State.mark_eq_done_of_le (by simpa using hi)]
      simp
  · rw [hmark i hi]
    simp

/-- In the end all updaters are done, so the loops account for every cycle of the graph, and none of
them goes along the edge that closes another one. -/
theorem exists_loops_apart (us : List Updater) :
    ∃ loops : List Loop, List.Forall₂ (Loop.Spells us) loops (findCycles us) ∧
      (loops.map Loop.closing).Nodup ∧
      Acyclic (fun i j => Triggers us i j ∧ (i, j) ∉ loops.map Loop.closing) ∧
      ∀ l ∈ loops, ∀ e ∈ l.edges, e ∈ loops.map Loop.closing → e = l.closing := by
  have hlt : ∀ i ∈ List.range us.length, i < us.length := fun i hi => List.mem_range.1 hi
  obtain ⟨a, h, -, hd⟩ := foldl_start_spec (accounts_initial us) hlt
  refine ⟨a.loops, h.found, h.nodup_closings, fun i hi => ?_, h.apart⟩
  obtain ⟨j, hij, -⟩ := Relation.TransGen.head'_iff.1 hi
  have hmem : i ∈ a.done := hd i (List.mem_range.2 hij.1.lt_left)
  exact h.settled.not_transGen_self i hmem hi

theorem exists_loops (us : List Updater) :
    ∃ loops : List Loop, List.Forall₂ (Loop.Spells us) loops (findCycles us) ∧
      (loops.map Loop.closing).Nodup ∧
      Acyclic fun i j => Triggers us i j ∧ (i, j) ∉ loops.map Loop.closing := by
  obtain ⟨loops, hspell, hnd, hac, -⟩ := exists_loops_apart us
  exact ⟨loops, hspell, hnd, hac⟩

end CycleSearch

/-- No cycle is found if and only if the graph has none. -/
theorem findCycles_eq_nil_iff {us : List Updater} :
    findCycles us = [] ↔ Acyclic (Triggers us) := by
  obtain ⟨loops, hspell, -, hac⟩ := CycleSearch.exists_loops us
  constructor
  · intro h
    rw [h, List.forall₂_nil_right_iff] at hspell
    exact hac.mono fun i j hij => ⟨hij, by simp [hspell]⟩
  · intro h
    cases hc : findCycles us with
    | nil => rfl
    | cons c cs =>
      rw [hc] at hspell
      cases hspell with
      | cons hl _ => exact absurd h hl.not_acyclic

/-- The cycles found are genuine and enough: each spells a loop, no two loops are closed by the
same edge, and without the closing edges the graph is acyclic. -/
theorem findCycles_correct (us : List Updater) :
    ∃ loops : List Loop, List.Forall₂ (Loop.Spells us) loops (findCycles us) ∧
      (loops.map Loop.closing).Nodup ∧
      Acyclic (fun i j => Triggers us i j ∧ (i, j) ∉ loops.map Loop.closing) ∧
      (findCycles us = [] ↔ Acyclic (Triggers us)) := by
  obtain ⟨loops, hspell, hnd, hac⟩ := CycleSearch.exists_loops us
  exact ⟨loops, hspell, hnd, hac, findCycles_eq_nil_iff⟩

end ReactiveModel
