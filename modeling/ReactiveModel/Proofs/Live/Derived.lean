import ReactiveModel.Live.Counter
import ReactiveModel.Proofs.Dependency.CycleSearch
import ReactiveModel.Proofs.Dependency.Graph
import ReactiveModel.Proofs.Live.Cascade
import ReactiveModel.Proofs.Live.State

/-!
# Derived properties

In a class where each updater keeps one property as a formula of those that it reads
(`LiveClass.Derives`), a cascade runs updaters on inputs that are not yet up to date, and runs them
again later. What holds on every level of the cascade is that an updater whose property is fresh
stays so unless it is still to run (`RunEffect.fresh`); so a write, which runs all that it makes
stale, leaves nothing stale. If formulas do not tell apart what the test of setters does not, the
fresh states are determined by what is not derived, and the order of the updaters plays no part.
Otherwise it may: a setter keeps a zero of either sign, and the reciprocals of the two differ
(`Reciprocal.not_forall_orders_agree`).
-/

namespace ReactiveModel.Live

open Relation

variable {V : Type}

namespace LiveClass

/-- The updaters of a class, without what they do. -/
def declared (c : LiveClass V) : List Updater := c.updaters.map Prod.fst

/-- Each updater keeps one property, its own, as a formula of the properties that it reads. -/
structure Derives (c : LiveClass V) (target : Updater → String)
    (formula : Updater → State V → V) : Prop where
  names_nodup : (c.declared.map (·.name)).Nodup
  targets_nodup : (c.declared.map target).Nodup
  target_mem : ∀ u ∈ c.declared, target u ∈ c.properties
  writes : ∀ u ∈ c.declared, u.writes = [target u]
  assigns : ∀ e ∈ c.updaters, ∀ s : State V,
    (e.2 s).filterMap Action.assignment? = [(target e.1, formula e.1 s)]
  congr : ∀ u ∈ c.declared, ∀ s t : State V,
    (∀ p ∈ u.reads, s.get p = t.get p) → formula u s = formula u t

variable {c : LiveClass V} {target : Updater → String} {formula : Updater → State V → V}
  {p : String}

namespace Derives

theorem eq_of_name_eq (h : c.Derives target formula) {u w : Updater} (hu : u ∈ c.declared)
    (hw : w ∈ c.declared) (e : u.name = w.name) : u = w :=
  List.inj_on_of_nodup_map h.names_nodup hu hw e

theorem eq_of_target_eq (h : c.Derives target formula) {u w : Updater} (hu : u ∈ c.declared)
    (hw : w ∈ c.declared) (e : target u = target w) : u = w :=
  List.inj_on_of_nodup_map h.targets_nodup hu hw e

theorem drives_target (h : c.Derives target formula) {u : Updater} (hu : u ∈ c.declared)
    (hp : p ∈ u.reads) : Drives c.declared p (target u) :=
  ⟨u, hu, hp, by simp [h.writes u hu]⟩

theorem exists_of_drives (h : c.Derives target formula) {q : String}
    (hpq : Drives c.declared p q) : ∃ u ∈ c.declared, p ∈ u.reads ∧ target u = q := by
  obtain ⟨u, hu, hp, hq⟩ := hpq
  rw [h.writes u hu, List.mem_singleton] at hq
  exact ⟨u, hu, hp, hq.symm⟩

/-- What an updater does assigns its property, and nothing else. -/
theorem assigns_behavior (h : c.Derives target formula) {u : Updater} (hu : u ∈ c.declared)
    (s : State V) :
    (c.behavior u.name s).filterMap Action.assignment? = [(target u, formula u s)] := by
  obtain ⟨e, he, rfl⟩ := List.mem_map.1 hu
  have hfind : (c.updaters.find? (·.1.name = e.1.name)).isSome :=
    List.find?_isSome.2 ⟨e, he, by simp⟩
  obtain ⟨e', he'⟩ := Option.isSome_iff_exists.1 hfind
  have hname : e'.1.name = e.1.name := by simpa using List.find?_some he'
  have hmem := List.mem_of_find?_eq_some he'
  have hfst : e'.1 = e.1 := h.eq_of_name_eq (List.mem_map_of_mem hmem) hu hname
  rw [behavior, he', ← hfst]
  exact h.assigns e' hmem s

/-- The updaters that depend on a property of the class are those that read it. -/
theorem mem_dependents_iff (h : c.Derives target formula) (hp : p ∈ c.properties) {u : Updater}
    (hu : u ∈ c.declared) : u.name ∈ c.graph.dependents p ↔ p ∈ u.reads := by
  rw [graph, DependencyGraph.mem_dependents_ofUpdaters_iff]
  constructor
  · rintro ⟨-, w, hw, hr, e⟩
    rwa [← h.eq_of_name_eq hw hu e]
  · exact fun hr => ⟨hp, u, hu, hr, rfl⟩

theorem of_perm (h : c.Derives target formula) {c' : LiveClass V}
    (hslots : c'.slots = c.slots) (hperm : c'.updaters.Perm c.updaters) :
    c'.Derives target formula := by
  have hdeclared : c'.declared.Perm c.declared := hperm.map Prod.fst
  refine ⟨?_, ?_, fun u hu => ?_, fun u hu => ?_, fun e he => ?_, fun u hu => ?_⟩
  · exact (hdeclared.map (·.name)).nodup_iff.2 h.names_nodup
  · exact (hdeclared.map target).nodup_iff.2 h.targets_nodup
  · rw [properties, hslots]
    exact h.target_mem u (hdeclared.mem_iff.1 hu)
  · exact h.writes u (hdeclared.mem_iff.1 hu)
  · exact h.assigns e (hperm.mem_iff.1 he)
  · exact h.congr u (hdeclared.mem_iff.1 hu)

end Derives

theorem exists_of_mem_dependents {name : Ident} (hname : name ∈ c.graph.dependents p) :
    ∃ u ∈ c.declared, p ∈ u.reads ∧ u.name = name := by
  rw [graph, DependencyGraph.mem_dependents_ofUpdaters_iff] at hname
  exact hname.2

section Cascades

variable [BEq V] {s t : State V} {v : V}

/-- The property of an updater has the value of the formula. -/
def IsFresh (target : Updater → String) (formula : Updater → State V → V) (s : State V)
    (u : Updater) : Prop := Alike (s.get (target u)) (some (formula u s))

/-- What a write does: it changes only what the property drives, and makes nothing stale but the
property itself. -/
structure Effect (c : LiveClass V) (target : Updater → String) (formula : Updater → State V → V)
    (p : String) (v : V) (s t : State V) : Prop where
  keys : t.map Prod.fst = s.map Prod.fst
  value : Alike (t.get p) (some v)
  frame : ∀ q, ¬ ReflTransGen (Drives c.declared) p q → t.get q = s.get q
  fresh : ∀ u ∈ c.declared, target u ≠ p → IsFresh target formula s u → IsFresh target formula t u

/-- What running updaters that depend on a property does: their properties become fresh, and
nothing becomes stale. -/
structure RunEffect (c : LiveClass V) (target : Updater → String)
    (formula : Updater → State V → V) (p : String) (names : List Ident) (s t : State V) :
    Prop where
  keys : t.map Prod.fst = s.map Prod.fst
  frame : ∀ q, ¬ TransGen (Drives c.declared) p q → t.get q = s.get q
  fresh : ∀ u ∈ c.declared, IsFresh target formula s u ∨ u.name ∈ names →
    IsFresh target formula t u

/-! ## One updater -/

/-- An updater that assigns its property makes it fresh, and makes nothing stale. -/
theorem Effect.isFresh (hac : Acyclic (Drives c.declared)) (h : c.Derives target formula)
    {u w : Updater} (hu : u ∈ c.declared) (hw : w ∈ c.declared)
    (he : Effect c target formula (target u) (formula u s) s t)
    (hf : IsFresh target formula s w ∨ w = u) : IsFresh target formula t w := by
  have hself : IsFresh target formula t u := by
    -- no input of the updater is driven by its own property
    have hreads : ∀ p ∈ u.reads, t.get p = s.get p := fun p hp =>
      he.frame p fun hpath => hac p (TransGen.head' (h.drives_target hu hp) hpath)
    rw [IsFresh, h.congr u hu t s hreads]
    exact he.value
  rcases hf with hf | rfl
  · by_cases ht : target w = target u
    · rw [h.eq_of_target_eq hw hu ht]
      exact hself
    · exact he.fresh w hw ht hf
  · exact hself

/-! ## One updater after another -/

/-- If the assignments of the updaters that depend on a property have their effect, then so do the
runs of these updaters. -/
theorem exists_runEffect (hac : Acyclic (Drives c.declared)) (h : c.Derives target formula)
    {assign : String → V → State V → Option (Outcome V)} {keys : List String}
    (hassign : ∀ u ∈ c.declared, p ∈ u.reads → ∀ s : State V, s.map Prod.fst = keys →
      ∃ o, assign (target u) (formula u s) s = some o ∧
        Effect c target formula (target u) (formula u s) s o.state) :
    ∀ (names : List Ident) (s : State V), s.map Prod.fst = keys →
      (∀ name ∈ names, ∃ u ∈ c.declared, p ∈ u.reads ∧ u.name = name) →
      ∃ o, runWith c assign names s = some o ∧ RunEffect c target formula p names s o.state
  | [], s, _, _ => ⟨⟨s, []⟩, rfl, ⟨rfl, fun _ _ => rfl, by simp⟩⟩
  | name :: names, s, hs, hnames => by
    obtain ⟨u, hu, hp, rfl⟩ := hnames name List.mem_cons_self
    obtain ⟨o, ho, he⟩ := hassign u hu hp s hs
    obtain ⟨o₁, ho₁, hs₁⟩ := performWith_of_assignment (h.assigns_behavior hu s) ho
    rw [← hs₁] at he
    obtain ⟨o₂, ho₂, hrun⟩ := exists_runEffect hac h hassign names o₁.state (he.keys.trans hs)
      fun name' hname' => hnames name' (List.mem_cons_of_mem _ hname')
    refine ⟨_, runWith_cons_eq_some_iff.2 ⟨o₁, ho₁, Outcome.next_eq_some_iff.2 ⟨o₂, ho₂, rfl⟩⟩,
      hrun.keys.trans he.keys, fun q hq => ?_, fun w hw hf => ?_⟩
    · have hframe : ¬ ReflTransGen (Drives c.declared) (target u) q := fun hpath =>
        hq (TransGen.head' (h.drives_target hu hp) hpath)
      rw [hrun.frame q hq, he.frame q hframe]
    · refine hrun.fresh w hw ?_
      rw [List.mem_cons, ← or_assoc] at hf
      refine hf.imp_left fun hf => he.isFresh hac h hu hw (hf.imp_right fun e => ?_)
      exact h.eq_of_name_eq hw hu e

/-! ## Writes -/

/-- A write of what is there already has its effect. -/
theorem Effect.of_holds (hs : s.holds p v = true) : Effect c target formula p v s s :=
  ⟨rfl, Alike.of_holds hs, fun _ _ => rfl, fun _ _ _ hf => hf⟩

/-- Running the updaters that depend on a property repairs what storing the property made stale. -/
theorem RunEffect.effect (hac : Acyclic (Drives c.declared)) (h : c.Derives target formula)
    (hp : p ∈ c.properties) (hs : s.map Prod.fst = c.properties)
    (hrun : RunEffect c target formula p (c.graph.dependents p) (s.store p v) t) :
    Effect c target formula p v s t := by
  refine ⟨hrun.keys.trans State.keys_store, ?_, fun q hq => ?_, fun u hu hup hf => ?_⟩
  · rw [hrun.frame p (hac p), State.get_store_self (hs ▸ hp)]
    exact Alike.refl _
  · have hqp : q ≠ p := fun e => hq (e ▸ .refl)
    rw [hrun.frame q fun hpath => hq hpath.to_reflTransGen, State.get_store_of_ne hqp]
  · refine hrun.fresh u hu ?_
    rw [h.mem_dependents_iff hp hu]
    by_cases hr : p ∈ u.reads
    · exact .inr hr
    · refine .inl ?_
      have hget : (s.store p v).get (target u) = s.get (target u) := State.get_store_of_ne hup
      have hreads : ∀ q ∈ u.reads, (s.store p v).get q = s.get q := fun q hq =>
        State.get_store_of_ne fun e => hr (e ▸ hq)
      rw [IsFresh, hget, h.congr u hu _ s hreads]
      exact hf

/-- A write has its effect if the assignments of the updaters that it runs have theirs. -/
theorem exists_assign_succ (hac : Acyclic (Drives c.declared)) (h : c.Derives target formula)
    {n : ℕ} (hp : p ∈ c.properties) (hs : s.map Prod.fst = c.properties)
    (hassign : ∀ u ∈ c.declared, p ∈ u.reads → ∀ s : State V, s.map Prod.fst = c.properties →
      ∃ o, c.assign n (target u) (formula u s) s = some o ∧
        Effect c target formula (target u) (formula u s) s o.state) :
    ∃ o, c.assign (n + 1) p v s = some o ∧ Effect c target formula p v s o.state := by
  by_cases hv : s.holds p v = true
  · exact ⟨_, assign_of_holds hv, Effect.of_holds hv⟩
  · obtain ⟨o, ho, hrun⟩ := exists_runEffect hac h hassign (c.graph.dependents p)
      (s.store p v) (State.keys_store.trans hs) fun _ => exists_of_mem_dependents
    exact ⟨_, (assign_of_not_holds hv).trans (Outcome.next_eq_some_iff.2 ⟨o, ho, rfl⟩),
      hrun.effect hac h hp hs⟩

/-- A write with more fuel than the ranks of what the property drives comes to an end, and has its
effect. -/
theorem exists_assign_effect (hac : Acyclic (Drives c.declared)) (h : c.Derives target formula)
    {rank : String → ℕ} (hrank : ∀ p q, Drives c.declared p q → rank q < rank p) (n : ℕ) :
    ∀ {p : String} (v : V) {s : State V}, p ∈ c.properties → s.map Prod.fst = c.properties →
      (∀ q, Drives c.declared p q → rank q < n) →
      ∃ o, c.assign (n + 1) p v s = some o ∧ Effect c target formula p v s o.state := by
  induction n with
  | zero =>
    intro p v s hp hs hn
    refine exists_assign_succ hac h hp hs fun u hu hr => ?_
    exact absurd (hn _ (h.drives_target hu hr)) (Nat.not_lt_zero _)
  | succ n ih =>
    intro p v s hp hs hn
    refine exists_assign_succ hac h hp hs fun u hu hr s hs => ?_
    refine ih _ (h.target_mem u hu) hs fun q hq => ?_
    have hlt := hrank _ _ hq
    have hle := hn _ (h.drives_target hu hr)
    omega

/-! ## Writes of what is not derived -/

/-- One state after a write in another: the property has the value, nothing else changes that is not
derived, and all that is derived is fresh. -/
structure IsUpdate (c : LiveClass V) (target : Updater → String)
    (formula : Updater → State V → V) (p : String) (v : V) (s t : State V) : Prop where
  keys : t.map Prod.fst = s.map Prod.fst
  value : Alike (t.get p) (some v)
  others : ∀ q, q ≠ p → (∀ u ∈ c.declared, target u ≠ q) → t.get q = s.get q
  fresh : ∀ u ∈ c.declared, IsFresh target formula t u

theorem Effect.isUpdate (h : c.Derives target formula) (he : Effect c target formula p v s t)
    (hp : ∀ u ∈ c.declared, target u ≠ p) (hf : ∀ u ∈ c.declared, IsFresh target formula s u) :
    IsUpdate c target formula p v s t := by
  refine ⟨he.keys, he.value, fun q hqp hq => he.frame q fun hpath => ?_, fun u hu =>
    he.fresh u hu (hp u hu) (hf u hu)⟩
  rcases ReflTransGen.cases_tail hpath with e | ⟨r, -, hr⟩
  · exact hqp e
  · obtain ⟨u, hu, -, e⟩ := h.exists_of_drives hr
    exact hq u hu e

/-- Without a cycle a write comes to an end, with fuel for one updater after another. -/
theorem exists_assign_isUpdate (hac : Acyclic (Drives c.declared)) (h : c.Derives target formula)
    (hs : s.map Prod.fst = c.properties) (hp : p ∈ c.properties)
    (hpt : ∀ u ∈ c.declared, target u ≠ p) (hf : ∀ u ∈ c.declared, IsFresh target formula s u)
    (v : V) :
    ∃ o, (∀ fuel > c.updaters.length, c.assign fuel p v s = some o) ∧
      IsUpdate c target formula p v s o.state := by
  have htarget : ∀ p q, Drives c.declared p q → q ∈ c.declared.map target := by
    intro p q hpq
    obtain ⟨u, hu, -, e⟩ := h.exists_of_drives hpq
    exact List.mem_map.2 ⟨u, hu, e⟩
  obtain ⟨rank, hlt, hrank⟩ := hac.exists_rank htarget
  have hn : ∀ q, Drives c.declared p q → rank q < c.updaters.length := fun q hq => by
    simpa [declared] using hlt q (htarget p q hq)
  obtain ⟨o, ho, he⟩ := exists_assign_effect hac h hrank c.updaters.length v hp hs hn
  exact ⟨o, fun fuel hfuel => assign_mono hfuel ho, he.isUpdate h hpt hf⟩

/-! ## Other orders -/

/-- The formulas do not tell apart what the test of setters does not tell apart. -/
def Respects (c : LiveClass V) (formula : Updater → State V → V) : Prop :=
  ∀ u ∈ c.declared, ∀ s t : State V, (∀ p ∈ u.reads, Alike (s.get p) (t.get p)) →
    Alike (some (formula u s)) (some (formula u t))

theorem Derives.respects [LawfulBEq V] (h : c.Derives target formula) : c.Respects formula := by
  intro u hu s t hst
  rw [h.congr u hu s t fun p hp => alike_iff_eq.1 (hst p hp)]
  exact Alike.refl _

/-- What is derived is determined by what is not. -/
theorem IsUpdate.alike [PartialEquivBEq V] (hac : Acyclic (Drives c.declared))
    (h : c.Derives target formula) (hr : c.Respects formula) {t' : State V}
    (ht : IsUpdate c target formula p v s t) (ht' : IsUpdate c target formula p v s t')
    (q : String) : Alike (t.get q) (t'.get q) := by
  have hreads : ∀ a b, Function.swap (Drives c.declared) a b →
      b ∈ c.declared.flatMap (·.reads) := by
    rintro a b ⟨u, hu, hb, -⟩
    exact List.mem_flatMap.2 ⟨u, hu, hb⟩
  obtain ⟨rank, -, hrank⟩ := hac.swap.exists_rank hreads
  induction hn : rank q using Nat.strong_induction_on generalizing q with
  | h n ih =>
    by_cases hq : ∃ u ∈ c.declared, target u = q
    · obtain ⟨u, hu, rfl⟩ := hq
      have hformula : Alike (some (formula u t)) (some (formula u t')) :=
        hr u hu t t' fun r hr => ih _ (hn ▸ hrank _ _ (h.drives_target hu hr)) r rfl
      exact ((ht.fresh u hu).trans hformula).trans (ht'.fresh u hu).symm
    · have hq' : ∀ u ∈ c.declared, target u ≠ q := fun u hu e => hq ⟨u, hu, e⟩
      by_cases hqp : q = p
      · rw [hqp]
        exact ht.value.trans ht'.value.symm
      · rw [ht.others q hqp hq', ht'.others q hqp hq']
        exact Alike.refl _

theorem IsUpdate.of_perm {c' : LiveClass V} (hperm : c'.updaters.Perm c.updaters)
    (ht : IsUpdate c' target formula p v s t) : IsUpdate c target formula p v s t := by
  have hmem {u : Updater} : u ∈ c.declared → u ∈ c'.declared :=
    (hperm.map Prod.fst).mem_iff.2
  exact ⟨ht.keys, ht.value, fun q hqp hq => ht.others q hqp fun u hu =>
    hq u ((hperm.map Prod.fst).mem_iff.1 hu), fun u hu => ht.fresh u (hmem hu)⟩

/-- In a class without a cycle, a write of a property that is not derived comes to an end and leaves
all that is derived fresh. Every order of the updaters gives the same values if the test of setters
is equality, and values that it does not tell apart if the formulas do not tell such values apart
either. -/
theorem assign_keeps_derived (hc : findCycles (c.updaters.map (·.1)) = [])
    (h : c.Derives target formula) (hs : s.map Prod.fst = c.properties)
    (hf : ∀ u ∈ c.declared, IsFresh target formula s u) (hp : p ∈ c.properties)
    (hpt : ∀ u ∈ c.declared, target u ≠ p) (v : V) :
    ∃ o, (∀ fuel > c.updaters.length, c.assign fuel p v s = some o) ∧
      IsUpdate c target formula p v s o.state ∧
      ∀ c' : LiveClass V, c'.slots = c.slots → c'.updaters.Perm c.updaters →
        ∃ o', (∀ fuel > c'.updaters.length, c'.assign fuel p v s = some o') ∧
          (LawfulBEq V → ∀ q, o'.state.get q = o.state.get q) ∧
          (PartialEquivBEq V → c.Respects formula →
            ∀ q, Alike (o'.state.get q) (o.state.get q)) := by
  rw [findCycles_eq_nil_iff, acyclic_triggers_iff] at hc
  have hac : Acyclic (Drives c.declared) := acyclic_drives hc
  obtain ⟨o, ho, hupdate⟩ := exists_assign_isUpdate hac h hs hp hpt hf v
  refine ⟨o, ho, hupdate, fun c' hslots hperm => ?_⟩
  have hdeclared : c'.declared.Perm c.declared := hperm.map Prod.fst
  have hprops : c'.properties = c.properties := by rw [properties, hslots, properties]
  have hac' : Acyclic (Drives c'.declared) :=
    acyclic_drives (acyclic_feedsAmong_of_perm hdeclared hc)
  obtain ⟨o', ho', hupdate'⟩ := exists_assign_isUpdate hac' (h.of_perm hslots hperm)
    (hs.trans hprops.symm) (hprops ▸ hp) (fun u hu => hpt u (hdeclared.mem_iff.1 hu))
    (fun u hu => hf u (hdeclared.mem_iff.1 hu)) v
  refine ⟨o', ho', fun _ q => ?_, fun _ hr q => (hupdate'.of_perm hperm).alike hac h hr hupdate q⟩
  exact alike_iff_eq.1 ((hupdate'.of_perm hperm).alike hac h h.respects hupdate q)

end Cascades

end LiveClass

/-! ## The counter -/

namespace Counter

/-- The property that an updater of the counter keeps. -/
def target (u : Updater) : String := u.writes.headD ""

/-- The double, or the label. -/
def formula (u : Updater) (s : State Value) : Value :=
  if target u = "Double" then .int (s.int "Counter" * 2)
  else .text (toString (s.int "Counter").toInt ++ "/" ++ toString (s.int "Double").toInt)

/-- The counter at zero, with its label. -/
def zero : State Value := [("Counter", .int 0), ("Double", .int 0), ("Label", .text "0/0")]

/-- Values that are alike are the same whole number, or none. -/
theorem int_eq_of_alike {s t : State Value} {p : String} (h : Alike (s.get p) (t.get p)) :
    s.int p = t.int p := by
  rcases h with h | ⟨a, b, ha, hb, hab⟩
  · rw [State.int, State.int, h]
  · rw [State.int, State.int, ha, hb]
    cases a <;> cases b <;> first | exact eq_of_beq (α := Int32) hab | cases hab | rfl

theorem formula_eq_of_alike {u : Updater} (hu : u ∈ model.declared) {s t : State Value}
    (h : ∀ p ∈ u.reads, Alike (s.get p) (t.get p)) : formula u s = formula u t := by
  rcases List.mem_pair.1 hu with rfl | rfl
  · change Value.int (s.int "Counter" * 2) = .int (t.int "Counter" * 2)
    rw [int_eq_of_alike (h "Counter" (by decide))]
  · rw [formula, formula, int_eq_of_alike (h "Counter" (by decide)),
      int_eq_of_alike (h "Double" (by decide))]

theorem derives : model.Derives target formula where
  names_nodup := by decide
  targets_nodup := by decide
  target_mem := by decide
  writes := by decide
  assigns e he s := by
    rcases List.mem_pair.1 he with rfl | rfl <;> rfl
  congr u hu s t h := formula_eq_of_alike hu fun p hp => .inl (h p hp)

theorem respects : model.Respects formula := fun _ hu _ _ h =>
  .inl (congrArg some (formula_eq_of_alike hu h))

theorem isFresh_zero : ∀ u ∈ model.declared, LiveClass.IsFresh target formula zero u := by
  intro u hu
  rcases List.mem_pair.1 hu with rfl | rfl
  · exact .inl rfl
  · exact .inl rfl

/-- Setting the counter brings the double and the label up to date, whichever of them is first. -/
theorem assign_counter :
    ∃ o, (∀ fuel > 2, model.assign fuel "Counter" (.int 5) zero = some o) ∧
      LiveClass.IsUpdate model target formula "Counter" (.int 5) zero o.state ∧
      ∀ c' : LiveClass Value, c'.slots = model.slots → c'.updaters.Perm model.updaters →
        ∃ o', (∀ fuel > c'.updaters.length, c'.assign fuel "Counter" (.int 5) zero = some o') ∧
          ∀ q, Alike (o'.state.get q) (o.state.get q) := by
  obtain ⟨o, ho, hupdate, hperm⟩ := LiveClass.assign_keeps_derived (p := "Counter") (by decide)
    derives rfl isFresh_zero (by decide) (by decide) (.int 5)
  refine ⟨o, ho, hupdate, fun c' hslots hp => ?_⟩
  obtain ⟨o', ho', -, halike⟩ := hperm c' hslots hp
  exact ⟨o', ho', halike inferInstance respects⟩

end Counter

/-! ## Zeros of two signs -/

namespace Reciprocal

open Counter (target)

/-- The product of the factor and zero, if the copy of the factor is up to date. -/
def product (s : State Value) : Float :=
  if s.float "Factor" == s.float "Copy" then 0 * s.float "Factor" else 5

/-- The copy of the factor, the product, or the reciprocal of the product. -/
def formula (u : Updater) (s : State Value) : Value :=
  if target u = "Copy" then .float (s.float "Factor")
  else if target u = "Product" then .float (product s)
  else .float (1 / s.float "Product")

/-- Keeps the copy. -/
def updateCopy : Updater := ⟨.plain "update_copy", ["Factor"], ["Copy"]⟩

/-- Keeps the product. -/
def updateProduct : Updater := ⟨.plain "update_product", ["Factor", "Copy"], ["Product"]⟩

/-- Keeps the reciprocal. -/
def updateReciprocal : Updater := ⟨.plain "update_reciprocal", ["Product"], ["Reciprocal"]⟩

/-- The class with some updaters in some order. -/
def model (updaters : List Updater) : LiveClass Value where
  name := "Reciprocal"
  slots := [⟨"factor", "Factor", .float 1⟩, ⟨"copy", "Copy", .float 1⟩,
    ⟨"product", "Product", .float 0⟩, ⟨"reciprocal", "Reciprocal", .float (1 / 0)⟩]
  updaters := updaters.map fun u => (u, fun s => [.assign (target u) (formula u s)])
  handlers := []

/-- The class that copies the factor before it multiplies. -/
def copiesFirst : LiveClass Value := model [updateCopy, updateProduct, updateReciprocal]

/-- The class that multiplies before it copies the factor. -/
def copiesLater : LiveClass Value := model [updateProduct, updateCopy, updateReciprocal]

theorem eq_of_mem_declared {u : Updater} (hu : u ∈ copiesFirst.declared) :
    u = updateCopy ∨ u = updateProduct ∨ u = updateReciprocal := by
  have hu : u ∈ [updateCopy, updateProduct, updateReciprocal] := hu
  simpa using hu

theorem float_eq_of_get_eq {s t : State Value} {p : String} (h : s.get p = t.get p) :
    s.float p = t.float p := by
  rw [State.float, State.float, h]

theorem derives : copiesFirst.Derives target formula where
  names_nodup := by decide
  targets_nodup := by decide
  target_mem := by decide
  writes := by decide
  assigns e he s := by
    obtain ⟨u, -, rfl⟩ := List.mem_map.1 he
    rfl
  congr u hu s t h := by
    rcases eq_of_mem_declared hu with rfl | rfl | rfl
    · change Value.float (s.float "Factor") = .float (t.float "Factor")
      rw [float_eq_of_get_eq (h "Factor" (by decide))]
    · change Value.float (product s) = .float (product t)
      rw [product, product, float_eq_of_get_eq (h "Factor" (by decide)),
        float_eq_of_get_eq (h "Copy" (by decide))]
    · change Value.float (1 / s.float "Product") = .float (1 / t.float "Product")
      rw [float_eq_of_get_eq (h "Product" (by decide))]

theorem isFresh_initial :
    ∀ u ∈ copiesFirst.declared, LiveClass.IsFresh target formula copiesFirst.initial u := by
  intro u hu
  rcases eq_of_mem_declared hu with rfl | rfl | rfl
  · exact .inl rfl
  · exact .inl rfl
  · exact .inl rfl

/-- The product is zero before, and the setter takes the new one, the other zero, for it. -/
theorem assign_copiesFirst :
    copiesFirst.assign 4 "Factor" (.float (-1)) copiesFirst.initial =
      some ⟨[("Factor", .float (-1)), ("Copy", .float (-1)), ("Product", .float 0),
        ("Reciprocal", .float (1 / 0))], [.notified "Factor", .notified "Copy"]⟩ := rfl

/-- The product is five in between, so the zero that it becomes is stored. -/
theorem assign_copiesLater :
    copiesLater.assign 4 "Factor" (.float (-1)) copiesFirst.initial =
      some ⟨[("Factor", .float (-1)), ("Copy", .float (-1)), ("Product", .float (-0)),
        ("Reciprocal", .float (-1 / 0))], [.notified "Factor", .notified "Product",
        .notified "Reciprocal", .notified "Copy", .notified "Product",
        .notified "Reciprocal"]⟩ := rfl

theorem not_alike_reciprocals :
    ¬ Alike (some (Value.float (-1 / 0))) (some (Value.float (1 / 0))) := by
  rintro (h | ⟨a, b, ha, hb, hab⟩)
  · have hfloat : (-1 / 0 : Float) = 1 / 0 := by simpa using h
    have hequal : ((-1 / 0 : Float) == 1 / 0) = true := hfloat ▸ by decide
    exact absurd hequal (by decide)
  · cases ha
    cases hb
    exact absurd hab (by decide)

/-- Not every order of the updaters gives the same values, and not even values that the test of
setters takes for the same. -/
theorem not_forall_orders_agree :
    ¬ ∀ (c : LiveClass Value) (target : Updater → String) (formula : Updater → State Value → Value)
      (p : String) (v : Value) (s : State Value), findCycles (c.updaters.map (·.1)) = [] →
        c.Derives target formula → s.map Prod.fst = c.properties →
        (∀ u ∈ c.declared, LiveClass.IsFresh target formula s u) → p ∈ c.properties →
        (∀ u ∈ c.declared, target u ≠ p) →
        ∃ o, (∀ fuel > c.updaters.length, c.assign fuel p v s = some o) ∧
          LiveClass.IsUpdate c target formula p v s o.state ∧
          ∀ c' : LiveClass Value, c'.slots = c.slots → c'.updaters.Perm c.updaters →
            ∃ o', (∀ fuel > c'.updaters.length, c'.assign fuel p v s = some o') ∧
              ∀ q, Alike (o'.state.get q) (o.state.get q) := by
  intro h
  obtain ⟨o, ho, -, horders⟩ := h copiesFirst target formula "Factor" (.float (-1))
    copiesFirst.initial (by decide) derives rfl isFresh_initial (by decide) (by decide)
  obtain ⟨o', ho', halike⟩ := horders copiesLater rfl (.swap _ _ _)
  have hfirst := (ho 4 (by decide)).symm.trans assign_copiesFirst
  have hlater := (ho' 4 (by decide)).symm.trans assign_copiesLater
  cases hfirst
  cases hlater
  exact not_alike_reciprocals (halike "Reciprocal")

end Reciprocal

end ReactiveModel.Live
