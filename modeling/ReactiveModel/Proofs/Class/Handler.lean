import ReactiveModel.Proofs.Class.Member
import ReactiveModel.Proofs.Marker.Spelling

/-!
# Click handlers of a class

A method whose signature passes the check claims the element that its first click handler names.
The first method that claims an element is bound to it, and all others are reported. The further
click handlers of a method are never read, so none of them is lost if and only if each names an
element that the name of the method is bound to anyway (`Candidate.handlers_accounted_iff`). What is
bound and reported here is what an analysed class has (`Candidate.handlers_of_analyse`).
-/

namespace ReactiveModel

/-! ## Click handlers of a method -/

/-- The attribute is a well-formed click handler for the element. -/
def Attribute.NamesElement (a : Attribute) (element : String) : Prop :=
  Marker.of? a.head = some (.ok (.clickHandler element))

namespace Method

/-- All attributes of a method that are click handlers, well-formed or not. -/
def clickMarkers (m : Method) : List Attribute :=
  m.attributes.filter fun a => MarkerKind.of? a.head = some .clickHandler

/-- A method that passes the check claims the element that its first click handler names. -/
def Claims (m : Method) (element : String) : Prop :=
  m.signature.IsAccepted ∧ ∃ a, m.clickMarkers.head? = some a ∧ a.NamesElement element

/-- What the first marker of a kind says, if there is one. -/
def marker? (m : Method) (kind : MarkerKind) : Option (Except MarkerError Marker) :=
  (Marker.first? kind m.attributes).map fun a => Marker.ofKind kind a.head

variable {m : Method} {kind : MarkerKind}

theorem isSome_marker?_iff :
    (m.marker? kind).isSome = true ↔ ∃ a ∈ m.attributes, MarkerKind.of? a.head = some kind := by
  rw [marker?, Option.isSome_map, Marker.first?, List.find?_isSome]
  simp

theorem isMarked_iff_marker? : m.IsMarked ↔
    (m.marker? .dependentUpdater).isSome = true ∨ (m.marker? .clickHandler).isSome = true := by
  rw [isSome_marker?_iff, isSome_marker?_iff, ← exists_or]
  exact exists_congr fun a => and_or_left

/-- The first click handler of a method names an element or is malformed. -/
theorem exists_of_marker? {r : Except MarkerError Marker}
    (h : m.marker? .clickHandler = some r) :
    (∃ element, r = .ok (.clickHandler element)) ∨ ∃ e, r = .error e := by
  obtain ⟨a, -, rfl⟩ := Option.map_eq_some_iff.1 h
  cases hr : Marker.ofKind .clickHandler a.head with
  | error e => exact .inr ⟨e, rfl⟩
  | ok marker =>
    have hkind := (Marker.ofKind_eq_ok_iff.1 hr).1
    cases marker with
    | clickHandler element => exact .inl ⟨element, rfl⟩
    | _ => cases hkind

theorem claims_iff {element : String} : m.Claims element ↔
    m.signature.IsAccepted ∧ m.marker? .clickHandler = some (.ok (.clickHandler element)) := by
  have hhead : m.clickMarkers.head? = Marker.first? .clickHandler m.attributes := List.head?_filter
  rw [Claims, marker?, Option.map_eq_some_iff, hhead]
  refine and_congr_right fun _ => exists_congr fun a => and_congr_right fun ha => ?_
  rw [Attribute.NamesElement, Marker.of?_of_first? ha, Option.some_inj]

end Method

/-! ## What a method gives -/

namespace Members

variable {className : String} {m : Method} {x : ClickHandler}

theorem updater_of_isAccepted (hs : m.signature.IsAccepted) :
    (ofMethod className m).updater = (m.marker? .dependentUpdater).any (·.isOk) := by
  rw [Method.marker?, ← Marker.map_snd_find?]
  simp only [ofMethod, signatureError?_eq_none_iff.2 hs]
  cases Marker.find? .dependentUpdater m.attributes <;>
    cases Marker.find? .clickHandler m.attributes <;> rfl

theorem handler_of_isAccepted (hs : m.signature.IsAccepted) :
    (ofMethod className m).handler = some x ↔
      x.name = m.name ∧ m.marker? .clickHandler = some (.ok (.clickHandler x.element)) := by
  rw [Method.marker?, ← Marker.map_snd_find?]
  simp only [ofMethod, signatureError?_eq_none_iff.2 hs]
  obtain ⟨name, element⟩ := x
  rcases Marker.find? .clickHandler m.attributes with _ | ⟨position, e | marker⟩
  · cases Marker.find? .dependentUpdater m.attributes <;> simp
  · simp
  · cases marker <;> simp [eq_comm]

theorem malformed_mem_of_isAccepted (hs : m.signature.IsAccepted) {kind : MarkerKind}
    (hkind : kind = .dependentUpdater ∨ kind = .clickHandler) {e : MarkerError}
    (h : m.marker? kind = some (.error e)) :
    ⟨.malformedMarker, className, m.name.text, e.message⟩ ∈ (ofMethod className m).violations := by
  rw [Method.marker?, ← Marker.map_snd_find?] at h
  obtain ⟨⟨position, r⟩, hfind, rfl⟩ := Option.map_eq_some_iff.1 h
  simp only [ofMethod, signatureError?_eq_none_iff.2 hs]
  rcases hkind with rfl | rfl
  · simp [hfind]
  · simp [hfind]

/-- A method gives a handler if and only if it claims an element. -/
theorem handler_eq_some_iff :
    (ofMethod className m).handler = some x ↔ x.name = m.name ∧ m.Claims x.element := by
  rw [Method.claims_iff]
  by_cases hs : m.signature.IsAccepted
  · rw [handler_of_isAccepted hs]
    simp only [hs, true_and]
  · refine iff_of_false (fun h => hs ?_) fun h => hs h.2.1
    exact (accepted_of_ofMethod (.inr (Option.isSome_of_eq_some h))).2

/-- A marked method gives something: an updater, a handler or a violation that names it. -/
theorem gives_of_isMarked (hm : m.IsMarked) : (ofMethod className m).updater = true ∨
    (ofMethod className m).handler.isSome = true ∨ (ofMethod className m).violations ≠ [] := by
  by_cases hs : m.signature.IsAccepted
  · have hviolations {kind : MarkerKind} {e : MarkerError} (hkind : kind = .dependentUpdater ∨
        kind = .clickHandler) (h : m.marker? kind = some (.error e)) :
        (ofMethod className m).violations ≠ [] :=
      List.ne_nil_of_mem (malformed_mem_of_isAccepted hs hkind h)
    rcases Method.isMarked_iff_marker?.1 hm with hsome | hsome
    · obtain ⟨e | marker, hr⟩ := Option.isSome_iff_exists.1 hsome
      · exact .inr (.inr (hviolations (.inl rfl) hr))
      · refine .inl ?_
        rw [updater_of_isAccepted hs, hr]
        rfl
    · obtain ⟨r, hr⟩ := Option.isSome_iff_exists.1 hsome
      rcases Method.exists_of_marker? hr with ⟨element, rfl⟩ | ⟨e, rfl⟩
      · have hgives : (ofMethod className m).handler = some ⟨m.name, element⟩ :=
          (handler_of_isAccepted hs).2 ⟨rfl, hr⟩
        exact .inr (.inl (Option.isSome_of_eq_some hgives))
      · exact .inr (.inr (hviolations (.inr rfl) hr))
  · rw [← signatureError?_eq_none_iff] at hs
    obtain ⟨e, he⟩ := Option.ne_none_iff_exists'.1 hs
    rw [ofMethod_of_refused hm he]
    exact .inr (.inr (List.cons_ne_nil _ _))

end Members

/-! ## Elements -/

namespace Resolution

variable {className : String} {x : ClickHandler}

/-- The first handler of an element is accepted, unless the element is taken. -/
theorem mem_handlersFrom_iff : ∀ {taken : List String} {hs : List ClickHandler},
    x ∈ (handlersFrom className taken hs).1 ↔
      x.element ∉ taken ∧ hs.find? (·.element = x.element) = some x
  | _, [] => by simp [handlersFrom]
  | taken, first :: rest => by
    unfold handlersFrom
    split_ifs with htaken
    · rw [mem_handlersFrom_iff, List.find?_cons]
      refine and_congr_right fun hfree => ?_
      have hne : first.element ≠ x.element := fun he => hfree (he ▸ List.contains_iff_mem.1 htaken)
      simp [hne]
    · rw [List.mem_cons, mem_handlersFrom_iff, List.find?_cons, List.mem_cons]
      by_cases he : first.element = x.element
      · have hfree : x.element ∉ taken := fun h => htaken (List.contains_iff_mem.2 (he ▸ h))
        simp [he, hfree, eq_comm]
      · have hne : x ≠ first := fun h => he (congrArg _ h).symm
        simp [he, hne, Ne.symm he]

/-- A handler that is not accepted is reported. -/
theorem accepted_or_reported {taken : List String} {hs : List ClickHandler} (h : x ∈ hs) :
    x ∈ (handlersFrom className taken hs).1 ∨ ∃ d ∈ (handlersFrom className taken hs).2,
      d.kind = .duplicateElementName ∧ d.member = x.name.text := by
  induction hs generalizing taken with
  | nil => cases h
  | cons first rest ih =>
    unfold handlersFrom
    split_ifs with htaken
    · rcases List.mem_cons.1 h with rfl | h
      · exact .inr ⟨_, List.mem_cons_self, rfl, rfl⟩
      · refine (ih h).imp_right ?_
        rintro ⟨d, hd, hnames⟩
        exact ⟨d, List.mem_cons_of_mem _ hd, hnames⟩
    · rcases List.mem_cons.1 h with rfl | h
      · exact .inl List.mem_cons_self
      · exact (ih h).imp_left (List.mem_cons_of_mem _)

end Resolution

/-! ## The class -/

namespace Candidate

/-- The handlers that are accepted, each bound to its element. -/
def boundHandlers (c : Candidate) : List ClickHandler :=
  (Resolution.handlers c.qualifiedName c.members.1.handlers).1

/-- The violations that the methods of a class are at fault for. -/
def methodViolations (c : Candidate) : List Diagnostic :=
  c.methods.flatMap (fun m => (Members.ofMethod c.qualifiedName m).violations) ++
    (Resolution.handlers c.qualifiedName c.members.1.handlers).2

/-- A violation names the method. -/
def Reports (c : Candidate) (m : Method) : Prop :=
  ∃ d ∈ c.methodViolations, d.member = m.name.text ∧
    d.kind ∈ [DiagnosticKind.invalidMemberSignature, .malformedMarker, .duplicateElementName]

/-- The method is bound to the element of its click handler, or it is reported. -/
def AccountsFor (c : Candidate) (m : Method) (a : Attribute) : Prop :=
  (∃ element, a.NamesElement element ∧ ⟨m.name, element⟩ ∈ c.boundHandlers) ∨ c.Reports m

/-- The first of the methods of a class that claim the element. -/
def FirstClaim (c : Candidate) (element : String) (m : Method) : Prop :=
  ∃ before after, c.methods = before ++ m :: after ∧ m.Claims element ∧
    ∀ earlier ∈ before, ¬ earlier.Claims element

variable {c : Candidate} {m : Method} {x : ClickHandler} {d : Diagnostic}

/-- An analysed class has the handlers that are bound and the violations of its methods. -/
theorem handlers_of_analyse {config : Config} {a : Analysis} (h : c.analyse config = .ok a) :
    a.reactiveClass.handlers = c.boundHandlers ∧ c.methodViolations ⊆ a.violations := by
  obtain ⟨⟨fs, refused, -, hviolations⟩, -⟩ := violations_of_analyse h
  refine ⟨(members_of_analyse h).2, fun d hd => ?_⟩
  rw [hviolations, List.append_assoc]
  rcases List.mem_append.1 hd with hd | hd
  · refine List.mem_append_left _ (List.mem_append_right _ ?_)
    rwa [List.flatMap_map]
  · exact List.mem_append_right _ (List.mem_append_right _ hd)

theorem handlers_eq : c.members.1.handlers =
    c.methods.filterMap fun m => (Members.ofMethod c.qualifiedName m).handler :=
  List.filterMap_map

theorem mem_boundHandlers_iff :
    x ∈ c.boundHandlers ↔ ∃ m, c.FirstClaim x.element m ∧ m.name = x.name := by
  have hclaims (m : Method) : ((Members.ofMethod c.qualifiedName m).handler.any
      (·.element = x.element)) = true ↔ m.Claims x.element := by
    rw [Option.any_eq_true]
    constructor
    · rintro ⟨y, hy, he⟩
      have hy := (Members.handler_eq_some_iff.1 hy).2
      rwa [of_decide_eq_true he] at hy
    · exact fun h => ⟨⟨m.name, x.element⟩, Members.handler_eq_some_iff.2 ⟨rfl, h⟩, by simp⟩
  rw [boundHandlers, Resolution.handlers, Resolution.mem_handlersFrom_iff, handlers_eq,
    List.find?_filterMap, Option.bind_eq_some_iff]
  simp only [List.not_mem_nil, not_false_eq_true, true_and]
  refine exists_congr fun m => ?_
  rw [List.find?_eq_some_iff_append, hclaims, FirstClaim]
  simp only [Bool.not_eq_true', ← Bool.not_eq_true, hclaims, Members.handler_eq_some_iff]
  constructor
  · rintro ⟨⟨hm, before, after, hsplit, hbefore⟩, hname, -⟩
    exact ⟨⟨before, after, hsplit, hm, hbefore⟩, hname.symm⟩
  · rintro ⟨⟨before, after, hsplit, hm, hbefore⟩, hname⟩
    exact ⟨⟨hm, before, after, hsplit, hbefore⟩, hname.symm, hm⟩

theorem reports_of_mem_ofMethod (hm : m ∈ c.methods)
    (hd : d ∈ (Members.ofMethod c.qualifiedName m).violations) (hmember : d.member = m.name.text) :
    c.Reports m := by
  refine ⟨d, List.mem_append_left _ (List.mem_flatMap.2 ⟨m, hm, hd⟩), hmember, ?_⟩
  have hkind := Members.kind_mem_of_mem_ofMethod hd
  simp only [List.mem_cons, List.not_mem_nil, or_false] at hkind ⊢
  tauto

/-- A method that claims an element is bound to it or reported. -/
theorem bound_or_reports (hm : m ∈ c.methods) {element : String} (h : m.Claims element) :
    ⟨m.name, element⟩ ∈ c.boundHandlers ∨ c.Reports m := by
  have hmem : ⟨m.name, element⟩ ∈ c.members.1.handlers := by
    rw [handlers_eq]
    exact List.mem_filterMap.2 ⟨m, hm, Members.handler_eq_some_iff.2 ⟨rfl, h⟩⟩
  refine (Resolution.accepted_or_reported hmem).imp_right fun ⟨d, hd, hkind, hmember⟩ => ?_
  exact ⟨d, List.mem_append_right _ hd, hmember, by simp [hkind]⟩

/-- The first click handler of a method is bound or reported. -/
theorem accountsFor_first (hm : m ∈ c.methods) {a : Attribute}
    (ha : m.clickMarkers.head? = some a) : c.AccountsFor m a := by
  by_cases hs : m.signature.IsAccepted
  · have hfirst : Marker.first? .clickHandler m.attributes = some a :=
      List.head?_filter.symm.trans ha
    have hmarker : m.marker? .clickHandler = some (Marker.ofKind .clickHandler a.head) :=
      congrArg _ hfirst
    rcases Method.exists_of_marker? hmarker with ⟨element, hr⟩ | ⟨e, hr⟩
    · have hnames : a.NamesElement element := (Marker.of?_of_first? hfirst).trans (congrArg _ hr)
      exact (bound_or_reports hm ⟨hs, a, ha, hnames⟩).imp_left fun h => ⟨element, hnames, h⟩
    · rw [hr] at hmarker
      exact .inr (reports_of_mem_ofMethod hm
        (Members.malformed_mem_of_isAccepted hs (.inr rfl) hmarker) rfl)
  · obtain ⟨hattribute, hkind⟩ := List.mem_filter.1 (List.mem_of_head? ha)
    have hmarked : m.IsMarked := ⟨a, hattribute, .inr (of_decide_eq_true hkind)⟩
    rw [← Members.signatureError?_eq_none_iff] at hs
    obtain ⟨e, he⟩ := Option.ne_none_iff_exists'.1 hs
    refine .inr (reports_of_mem_ofMethod hm (d := Members.refusal c.qualifiedName m e) ?_ rfl)
    rw [Members.ofMethod_of_refused hmarked he]
    exact List.mem_singleton_self _

/-- Further click handlers are not lost if they name elements that the method is bound to anyway. -/
theorem forall_accountsFor_iff : (∀ m ∈ c.methods, ∀ a ∈ m.clickMarkers, c.AccountsFor m a) ↔
    ∀ m ∈ c.methods, ¬ c.Reports m → ∀ a ∈ m.clickMarkers.tail,
      ∃ element, a.NamesElement element ∧
        ∃ first, c.FirstClaim element first ∧ first.name = m.name := by
  constructor
  · intro hall m hm hreports a ha
    have haccounted := hall m hm a (List.mem_of_mem_tail ha)
    obtain ⟨element, hnames, hbound⟩ := haccounted.resolve_right hreports
    exact ⟨element, hnames, mem_boundHandlers_iff.1 hbound⟩
  · intro hfurther m hm a ha
    by_cases hreports : c.Reports m
    · exact .inr hreports
    · have hfurther := hfurther m hm hreports
      have hfirst (first : Attribute) (h : m.clickMarkers.head? = some first) :=
        accountsFor_first hm h
      cases hmarkers : m.clickMarkers with
      | nil =>
        rw [hmarkers] at ha
        cases ha
      | cons first rest =>
        rw [hmarkers] at ha hfurther hfirst
        rcases List.mem_cons.1 ha with rfl | ha
        · exact hfirst a rfl
        · obtain ⟨element, hnames, hclaim⟩ := hfurther a ha
          exact .inl ⟨element, hnames, mem_boundHandlers_iff.2 hclaim⟩

/-- The first click handler of each method is bound or reported, and an element is bound to the
first method that claims it. No click handler of the class is lost if and only if each further one
of a method that is not reported names an element that a method of the same name claims first. -/
theorem handlers_accounted_iff (c : Candidate) :
    (∀ m ∈ c.methods, ∀ a ∈ m.clickMarkers.head?, c.AccountsFor m a) ∧
    (∀ name element, ⟨name, element⟩ ∈ c.boundHandlers ↔
      ∃ m, c.FirstClaim element m ∧ m.name = name) ∧
    ((∀ m ∈ c.methods, ∀ a ∈ m.clickMarkers, c.AccountsFor m a) ↔
      ∀ m ∈ c.methods, ¬ c.Reports m → ∀ a ∈ m.clickMarkers.tail,
        ∃ element, a.NamesElement element ∧
          ∃ first, c.FirstClaim element first ∧ first.name = m.name) := by
  refine ⟨?_, ?_, forall_accountsFor_iff⟩
  · intro m hm a ha
    exact accountsFor_first hm ha
  · intro name element
    exact mem_boundHandlers_iff

/-! ## A method with two click handlers -/

/-- A method that a click on either of two elements should call. -/
def playOrPause : Method where
  attributes := [click "\"Play\"", click "\"Pause\""]
  visibility := .inherited
  isDefault := false
  signature := (Method.serve false).signature
  body := .empty
where
  click (text : String) : Attribute :=
    ⟨⟨false, ⟨false, [.plain "click_handler"]⟩, .list .parenthesis [.literal text]⟩, .empty⟩

/-- The items of a game with this method. -/
def playerItems : List Item :=
  [.struct gameStruct, .impl { gameImpl false with items := [.method playOrPause] }]

/-- The class of the game. -/
def player : Candidate :=
  { game false with impls := [{ gameImpl false with items := [.method playOrPause] }] }

/-- The second click handler is neither bound nor reported. -/
theorem not_forall_accounted :
    ¬ ∀ (items : List Item), ∀ c ∈ found items, ∀ m ∈ c.methods, ∀ a ∈ m.clickMarkers,
      c.AccountsFor m a := by
  intro hall
  have hfound : player ∈ found playerItems := List.mem_singleton_self _
  have hpause : playOrPause.click "\"Pause\"" ∈ playOrPause.clickMarkers :=
    List.mem_filter.2 ⟨by simp [playOrPause], rfl⟩
  have hbound : player.boundHandlers = [⟨.plain "on_serve", "Play"⟩] := by decide +kernel
  have hreports : player.methodViolations = [] := by decide +kernel
  rcases hall _ _ hfound playOrPause (List.mem_singleton_self _) _ hpause with
    ⟨element, hnames, hmem⟩ | ⟨d, hd, -⟩
  · have helement : Marker.of? (playOrPause.click "\"Pause\"").head =
        some (.ok (.clickHandler "Pause")) := by decide +kernel
    cases helement.symm.trans hnames
    rw [hbound] at hmem
    exact absurd hmem (by decide)
  · rw [hreports] at hd
    cases hd

end Candidate

end ReactiveModel
