import ReactiveModel.Live.Counter
import ReactiveModel.Proofs.Live.Cascade
import ReactiveModel.Proofs.Live.Session

/-!
# The double of the counter

What setting each property of the counter does, from the label, which nothing depends on, to the
counter itself. Setting the counter to another value makes its double up to date, whatever it was
before, and notifies of the double only if it has changed: doubling wraps around, so different
counters may have the same double. So after any number of such steps the double is up to date
(`double_follows_counter`).
-/

namespace ReactiveModel.Live

/-- Both events occur, and one of them only before the other. -/
def Event.Precedes (a b : Event) (events : List Event) : Prop :=
  ∃ before after, events = before ++ after ∧ a ∈ before ∧ b ∉ before ∧ a ∉ after ∧ b ∈ after

/-- A note and an assignment. -/
theorem LiveClass.performWith_note_assign {V : Type}
    {f : String → V → State V → Option (Outcome V)} {text p : String} {v : V} {s : State V}
    {o : Outcome V} (h : f p v s = some o) :
    performWith f [.note text, .assign p v] s = some ⟨o.state, .noted text :: o.events⟩ := by
  refine performWith_note (performWith_assign_eq_some_iff.2 ⟨o, h, ?_⟩)
  exact Outcome.next_eq_some_iff.2 ⟨_, rfl, by rw [List.append_nil]⟩

/-- The run of a single updater. -/
theorem LiveClass.runWith_singleton {V : Type} {c : LiveClass V}
    {f : String → V → State V → Option (Outcome V)} {name : Ident} {s : State V} {o : Outcome V}
    (h : performWith f (c.behavior name s) s = some o) : runWith c f [name] s = some o :=
  runWith_cons_eq_some_iff.2 ⟨o, h, Outcome.next_eq_some_iff.2 ⟨_, rfl, by rw [List.append_nil]⟩⟩

namespace Counter

open LiveClass

/-! ## What a counter shows -/

/-- The values of the properties of a counter. -/
structure Reading where
  counter : Int32
  double : Int32
  label : String

namespace Reading

/-- The state with these values. -/
def state (r : Reading) : State Value :=
  [("Counter", .int r.counter), ("Double", .int r.double), ("Label", .text r.label)]

/-- The label that shows the counter and the double. -/
def shown (r : Reading) : String := toString r.counter.toInt ++ "/" ++ toString r.double.toInt

/-- With a label that is up to date. -/
def relabelled (r : Reading) : Reading := { r with label := r.shown }

/-- What is observed when the label is brought up to date. -/
def labelEvents (r : Reading) : List Event :=
  .noted "update_label" :: if r.label = r.shown then [] else [.notified "Label"]

variable (r : Reading) (v : Int32) (n : ℕ)

theorem dependents_counter :
    model.graph.dependents "Counter" = [.plain "update_double", .plain "update_label"] := by
  decide

theorem dependents_double : model.graph.dependents "Double" = [.plain "update_label"] := by decide

theorem dependents_label : model.graph.dependents "Label" = [] := by decide

/-! ## Single writes -/

theorem holds_counter : r.state.holds "Counter" (.int v) = true ↔ r.counter = v :=
  beq_iff_eq (α := Int32)

theorem holds_double : r.state.holds "Double" (.int v) = true ↔ r.double = v :=
  beq_iff_eq (α := Int32)

theorem holds_label (text : String) : r.state.holds "Label" (.text text) = true ↔ r.label = text :=
  beq_iff_eq (α := String)

/-- Bringing the label up to date. -/
theorem performWith_updateLabel :
    performWith (model.assign (n + 1)) (updateLabel r.state) r.state =
      some ⟨r.relabelled.state, r.labelEvents⟩ := by
  have hassign : model.assign (n + 1) "Label" (.text r.shown) r.state =
      some ⟨r.relabelled.state, if r.label = r.shown then [] else [.notified "Label"]⟩ := by
    by_cases h : r.label = r.shown
    · rw [assign_of_holds ((r.holds_label _).2 h), if_pos h, relabelled, ← h]
    · rw [assign_of_not_holds ((r.holds_label _).not.2 h), if_neg h, dependents_label]
      rfl
  exact performWith_note_assign hassign

/-- Setting the double to another value brings the label up to date. -/
theorem assign_double_of_ne (h : r.double ≠ v) :
    let stored : Reading := { r with double := v }
    model.assign (n + 2) "Double" (.int v) r.state =
      some ⟨stored.relabelled.state, .notified "Double" :: stored.labelEvents⟩ := by
  intro stored
  have hrun : runWith model (model.assign (n + 1)) [.plain "update_label"] stored.state =
      some ⟨stored.relabelled.state, stored.labelEvents⟩ :=
    runWith_singleton (stored.performWith_updateLabel n)
  rw [assign_of_not_holds ((r.holds_double v).not.2 h), dependents_double]
  exact Outcome.next_eq_some_iff.2 ⟨_, hrun, rfl⟩

/-- What is observed when the double is set, after the counter has been. -/
def doubleEvents : List Event :=
  if r.double = r.counter * 2 then []
  else .notified "Double" :: ({ r with double := r.counter * 2 } : Reading).labelEvents

/-- With a double that is up to date, and the label with it if the double was not. -/
def doubled : Reading :=
  if r.double = r.counter * 2 then r
  else ({ r with double := r.counter * 2 } : Reading).relabelled

/-- Bringing the double up to date. -/
theorem performWith_updateDouble :
    performWith (model.assign (n + 2)) (updateDouble r.state) r.state =
      some ⟨r.doubled.state, .noted "update_double" :: r.doubleEvents⟩ := by
  have hassign : model.assign (n + 2) "Double" (.int (r.counter * 2)) r.state =
      some ⟨r.doubled.state, r.doubleEvents⟩ := by
    rw [doubled, doubleEvents]
    split_ifs with h
    · exact assign_of_holds ((r.holds_double _).2 h)
    · exact r.assign_double_of_ne _ n h
  exact performWith_note_assign hassign

/-- Setting the counter to another value brings the double up to date, and the label after it. -/
theorem assign_counter_of_ne (h : r.counter ≠ v) :
    let stored : Reading := { r with counter := v }
    model.assign (n + 3) "Counter" (.int v) r.state =
      some ⟨stored.doubled.relabelled.state,
        .notified "Counter" :: .noted "update_double" :: stored.doubleEvents ++
          stored.doubled.labelEvents⟩ := by
  intro stored
  have hlabel : runWith model (model.assign (n + 2)) [.plain "update_label"] stored.doubled.state =
      some ⟨stored.doubled.relabelled.state, stored.doubled.labelEvents⟩ :=
    runWith_singleton (stored.doubled.performWith_updateLabel (n + 1))
  have hrun : runWith model (model.assign (n + 2)) [.plain "update_double", .plain "update_label"]
      stored.state = some ⟨stored.doubled.relabelled.state,
        .noted "update_double" :: stored.doubleEvents ++ stored.doubled.labelEvents⟩ :=
    runWith_cons_eq_some_iff.2
      ⟨_, stored.performWith_updateDouble n, Outcome.next_eq_some_iff.2 ⟨_, hlabel, rfl⟩⟩
  rw [assign_of_not_holds ((r.holds_counter v).not.2 h), dependents_counter]
  exact Outcome.next_eq_some_iff.2 ⟨_, hrun, rfl⟩

/-! ## What is observed -/

theorem counter_doubled : r.doubled.counter = r.counter := by
  rw [doubled]
  split_ifs <;> rfl

theorem double_doubled : r.doubled.double = r.counter * 2 := by
  rw [doubled]
  split_ifs with h
  · exact h
  · rfl

theorem mem_of_mem_labelEvents {e : Event} (he : e ∈ r.labelEvents) :
    e ∈ [.noted "update_label", .notified "Label"] := by
  rw [labelEvents] at he
  split_ifs at he
  · exact List.mem_cons.2 (.inl (List.mem_singleton.1 he))
  · exact he

theorem mem_of_mem_doubleEvents {e : Event} (he : e ∈ r.doubleEvents) :
    e ∈ [.notified "Double", .noted "update_label", .notified "Label"] := by
  rw [doubleEvents] at he
  split_ifs at he
  · cases he
  · exact List.mem_cons.2 ((List.mem_cons.1 he).imp_right (mem_of_mem_labelEvents _))

/-- What is observed after the updater of the double has been called. -/
theorem notMem_of_forall {e : Event}
    (h : e ∉ [.notified "Double", .noted "update_label", .notified "Label"]) :
    e ∉ r.doubleEvents ++ r.doubled.labelEvents := by
  intro he
  rcases List.mem_append.1 he with he | he
  · exact h (r.mem_of_mem_doubleEvents he)
  · exact h (List.mem_cons_of_mem _ (mem_of_mem_labelEvents _ he))

theorem count_double :
    (r.doubleEvents ++ r.doubled.labelEvents).count (.notified "Double") =
      if r.double = r.counter * 2 then 0 else 1 := by
  have hlabel (r : Reading) : r.labelEvents.count (.notified "Double") = 0 :=
    List.count_eq_zero.2 fun he => absurd (r.mem_of_mem_labelEvents he) (by decide)
  rw [List.count_append, hlabel, doubleEvents]
  split_ifs
  · rfl
  · rw [List.count_cons_self, hlabel]

end Reading

/-! ## Setting the counter -/

/-- The double, as a whole number that wraps around. -/
theorem toInt_mul_two (v : Int32) : (v * 2).toInt = (2 * v.toInt).bmod (2 ^ 32) := by
  rw [Int32.toInt_mul, mul_comm]
  rfl

/-- What a write of the counter does to its values, and what is observed of it. -/
structure IsSet (r : Reading) (v : Int32) (o : Outcome Value) : Prop where
  unchanged : r.counter = v → o.state = r.state ∧ o.events = []
  changed : r.counter ≠ v → ∃ double label, o.state = Reading.state ⟨v, double, label⟩ ∧
    double.toInt = (2 * v.toInt).bmod (2 ^ 32) ∧
    o.events.count (.notified "Counter") = 1 ∧
    Event.Precedes (.notified "Counter") (.noted "update_double") o.events ∧
    o.events.count (.notified "Double") = (if r.double = double then 0 else 1) ∧
    (r.double ≠ double → Event.Precedes (.noted "update_double") (.notified "Double") o.events)

theorem isSet_of_ne {r : Reading} {v : Int32} (h : r.counter ≠ v) :
    ∃ o, model.assign 3 "Counter" (.int v) r.state = some o ∧ IsSet r v o := by
  refine ⟨_, r.assign_counter_of_ne v 0 h, fun he => absurd he h, fun _ => ?_⟩
  let stored : Reading := { r with counter := v }
  let later := stored.doubleEvents ++ stored.doubled.labelEvents
  have hlater {e : Event}
      (he : e ∉ [.notified "Double", .noted "update_label", .notified "Label"]) : e ∉ later :=
    stored.notMem_of_forall he
  refine ⟨v * 2, stored.doubled.shown, ?_, toInt_mul_two v, ?_, ?_, ?_, fun hne => ?_⟩
  · rw [Reading.relabelled, stored.counter_doubled, stored.double_doubled]
  · change (.notified "Counter" :: .noted "update_double" :: later).count (.notified "Counter") = 1
    rw [List.count_cons_self, List.count_cons_of_ne (by decide),
      List.count_eq_zero.2 (hlater (by decide))]
  · exact ⟨[.notified "Counter"], .noted "update_double" :: later, rfl, by decide, by decide,
      List.not_mem_cons_of_ne_of_not_mem (by decide) (hlater (by decide)), List.mem_cons_self⟩
  · change (.notified "Counter" :: .noted "update_double" :: later).count (.notified "Double") = _
    rw [List.count_cons_of_ne (by decide), List.count_cons_of_ne (by decide),
      stored.count_double]
  · have hdouble : 0 < later.count (.notified "Double") := by
      rw [stored.count_double, if_neg hne]
      exact Nat.one_pos
    exact ⟨[.notified "Counter", .noted "update_double"], later, rfl, by decide, by decide,
      hlater (by decide), List.count_pos_iff.1 hdouble⟩

theorem exists_isSet (r : Reading) (v : Int32) :
    ∃ o, model.assign 3 "Counter" (.int v) r.state = some o ∧ IsSet r v o := by
  by_cases h : r.counter = v
  · exact ⟨_, assign_of_holds ((r.holds_counter v).2 h), fun _ => ⟨rfl, rfl⟩,
      fun hne => absurd h hne⟩
  · exact isSet_of_ne h

/-! ## Setting the counter again and again -/

/-- The double of the values is up to date. -/
def Reading.IsDoubled (r : Reading) : Prop := r.double.toInt = (2 * r.counter.toInt).bmod (2 ^ 32)

/-- A write of the counter keeps the double up to date. -/
theorem IsSet.isDoubled {r : Reading} {v : Int32} {o : Outcome Value} (h : IsSet r v o)
    (hr : r.IsDoubled) : ∃ r' : Reading, o.state = r'.state ∧ r'.counter = v ∧ r'.IsDoubled := by
  by_cases hv : r.counter = v
  · exact ⟨r, (h.unchanged hv).1, hv, hr⟩
  · obtain ⟨double, label, hstate, hdouble, -⟩ := h.changed hv
    exact ⟨⟨v, double, label⟩, hstate, rfl, hdouble⟩

/-- A session with a counter that is alive, whose double is up to date. -/
structure Follows (v : Int32) (s : Session) : Prop where
  model : s.model = Counter.model
  alive : s.isAlive = true
  reading : ∃ r : Reading, s.state = r.state ∧ r.counter = v ∧ r.IsDoubled

theorem Follows.step {v w : Int32} {s : Session} (h : Follows v s) {fuel : ℕ} (hfuel : 2 < fuel) :
    ∃ reaction, s.step fuel (.set "counter" (.int w)) = some reaction ∧
      Follows w reaction.session := by
  obtain ⟨r, hstate, -, hdoubled⟩ := h.reading
  obtain ⟨o, ho, hset⟩ := exists_isSet r w
  have hslot : s.model.slots.find? (·.accessor == "counter") =
      some ⟨"counter", "Counter", .int 0⟩ := by
    rw [h.model]
    rfl
  have hassign : s.model.assign fuel "Counter" (.int w) s.state = some o := by
    rw [h.model, hstate]
    exact assign_mono hfuel ho
  refine ⟨{ session := { s with state := o.state }, events := o.events }, ?_, h.model, h.alive,
    hset.isDoubled hdoubled⟩
  rw [Session.step, Session.setWithin, hslot]
  exact (if_pos h.alive).trans (Option.map_eq_some_iff.2 ⟨o, hassign, rfl⟩)

theorem follows_start (buttons : List String) : Follows 0 (Session.start model buttons) :=
  ⟨rfl, rfl, ⟨0, 0, ""⟩, rfl, rfl, rfl⟩

/-- Whatever its values are, setting the counter to the value that it has does nothing; setting it
to another brings the double up to date, with one notification of the counter before the updater of
the double runs, and one of the double after that if and only if the double changes. So after any
number of writes of the counter of a new model the double is up to date. -/
theorem double_follows_counter :
    (∀ (r : Reading) (v : Int32), ∃ o, (∀ fuel > 2,
      model.assign fuel "Counter" (.int v) r.state = some o) ∧ IsSet r v o) ∧
    ∀ (buttons : List String) (vs : List Int32), ∀ fuel > 2, ∃ reactions s,
      (Session.start model buttons).run fuel (vs.map fun v => .set "counter" (.int v)) =
        some (reactions, s) ∧
      ∃ r : Reading, s.state = r.state ∧ r.counter = vs.getLastD 0 ∧ r.IsDoubled := by
  constructor
  · intro r v
    obtain ⟨o, ho, hset⟩ := exists_isSet r v
    exact ⟨o, fun fuel hfuel => assign_mono hfuel ho, hset⟩
  · intro buttons vs fuel hfuel
    obtain ⟨reactions, s, hrun, hfollows⟩ : ∃ reactions s,
        (Session.start model buttons).run fuel (vs.map fun v => .set "counter" (.int v)) =
          some (reactions, s) ∧ Follows (vs.getLastD 0) s := by
      induction vs using List.reverseRecOn with
      | nil => exact ⟨[], _, rfl, follows_start buttons⟩
      | append_singleton vs v ih =>
        obtain ⟨reactions, s, hrun, hfollows⟩ := ih
        obtain ⟨reaction, hstep, hfollows⟩ := hfollows.step (w := v) hfuel
        rw [List.map_append, List.getLastD_concat]
        exact ⟨_, _, Session.run_concat.2 ⟨_, _, _, hrun, hstep, rfl, rfl⟩, hfollows⟩
    exact ⟨reactions, s, hrun, hfollows.reading⟩

end Counter

end ReactiveModel.Live
