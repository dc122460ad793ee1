import ReactiveModel.Proofs.Class.Scope
import ReactiveModel.Proofs.Class.Violation

/-!
# Marked methods of a class

A marked method either passes the check of its signature and gives what its markers say, or is
refused with one violation and gives nothing (`Members.ofMethod_of_refused`). The check lets through
the methods that can be called through `&mut self`, and some others, which it does not look at
closely enough (`Signature.isCallable_iff`). The handlers that are accepted have distinct elements
(`Candidate.nodup_elements_of_analyse`).
-/

namespace ReactiveModel

/-! ## Signatures -/

namespace Param

/-- Whether a parameter is a receiver that is borrowed for a named lifetime; `'_` names none. -/
def hasLifetime : Param → Bool
  | .receiver _ (some (some lifetime)) _ _ => lifetime != .plain "_"
  | _ => false

/-- Whether a parameter is `&mut self` or `&'_ mut self`. -/
def isMutSelf : Param → Bool
  | .receiver _ (some none) true _ => true
  | .receiver _ (some (some lifetime)) true _ => lifetime == .plain "_"
  | _ => false

theorem isMutSelf_iff {p : Param} :
    p.isMutSelf = true ↔ Members.isMutableReceiver p = true ∧ p.hasLifetime = false := by
  rcases p with ⟨_, _ | _ | _, _ | _, _⟩ | _ <;>
    simp [isMutSelf, hasLifetime, Members.isMutableReceiver]

end Param

/-- A method of this signature can be called by safe code as a statement through `&mut self`. -/
structure Signature.IsCallable (s : Signature) : Prop where
  isAsync : s.isAsync = false
  isUnsafe : s.isUnsafe = false
  generics : s.generics.params = []
  output : s.output = none
  receiver : ∃ first comma, s.params = [(first, comma)] ∧ first.isMutSelf = true
  variadic : s.variadic = none

/-- A method of this signature passes the check of marked methods. -/
structure Signature.IsAccepted (s : Signature) : Prop where
  isAsync : s.isAsync = false
  generics : s.generics.params = []
  output : s.output = none
  receiver : ∃ first comma, s.params = [(first, comma)] ∧
    Members.isMutableReceiver first = true

/-- What the check of marked methods does not look at, though it keeps a method from being called
so: `unsafe`, dots for any number of arguments, and a named lifetime of the receiver. -/
def Signature.IsOverlooked (s : Signature) : Prop :=
  s.isUnsafe = true ∨ s.variadic.isSome = true ∨ ∃ p ∈ s.params, p.1.hasLifetime = true

namespace Members

variable {className : String} {m : Method} {s : Signature}

theorem signatureError?_eq_none_iff : signatureError? s = none ↔ s.IsAccepted := by
  unfold signatureError?
  split_ifs with hasync hgeneric houtput
  · refine iff_of_false nofun fun h => ?_
    simp [h.isAsync] at hasync
  · refine iff_of_false nofun fun h => ?_
    simp [h.generics] at hgeneric
  · refine iff_of_false nofun fun h => ?_
    simp [h.output] at houtput
  · have hrest : s.IsAccepted ↔ ∃ first comma, s.params = [(first, comma)] ∧
        isMutableReceiver first = true :=
      ⟨fun h => h.receiver, fun h => ⟨by simpa using hasync, by simpa using hgeneric,
        by simpa using houtput, h⟩⟩
    rw [hrest]
    rcases s.params with _ | ⟨⟨first, comma⟩, rest⟩
    · simp
    · cases hr : isMutableReceiver first <;> cases rest <;> simp [hr]

end Members

/-- The check lets through what can be called, and what it overlooks. -/
theorem Signature.isCallable_iff {s : Signature} :
    s.IsCallable ↔ s.IsAccepted ∧ ¬ s.IsOverlooked := by
  rw [IsOverlooked]
  constructor
  · rintro ⟨hasync, hsafe, hgenerics, houtput, ⟨first, comma, hparams, hself⟩, hvariadic⟩
    obtain ⟨hmut, hlifetime⟩ := Param.isMutSelf_iff.1 hself
    exact ⟨⟨hasync, hgenerics, houtput, first, comma, hparams, hmut⟩, by
      simp [hsafe, hvariadic, hparams, hlifetime]⟩
  · rintro ⟨⟨hasync, hgenerics, houtput, first, comma, hparams, hmut⟩, hoverlooked⟩
    simp only [hparams, List.mem_singleton, exists_eq_left, not_or, Bool.not_eq_true] at hoverlooked
    obtain ⟨hsafe, hvariadic, hlifetime⟩ := hoverlooked
    exact ⟨hasync, hsafe, hgenerics, houtput,
      ⟨first, comma, hparams, Param.isMutSelf_iff.2 ⟨hmut, hlifetime⟩⟩,
      Option.not_isSome_iff_eq_none.1 (by simp [hvariadic])⟩

/-! ## Marked methods -/

/-- A method that is marked as an updater or as a click handler. -/
def Method.IsMarked (m : Method) : Prop :=
  ∃ a ∈ m.attributes, MarkerKind.of? a.head = some .dependentUpdater ∨
    MarkerKind.of? a.head = some .clickHandler

namespace Members

variable {className : String} {m : Method}

/-- The violation of a marked method whose signature is refused. -/
def refusal (className : String) (m : Method) (e : SignatureError) : Diagnostic :=
  ⟨.invalidMemberSignature, className, m.name.text,
    "marked method must be `fn " ++ m.name.text ++ "(&mut self)`: " ++ e.message⟩

theorem isMarked_iff :
    m.IsMarked ↔ ((Marker.find? .dependentUpdater m.attributes).isNone &&
      (Marker.find? .clickHandler m.attributes).isNone) = false := by
  rw [Bool.and_eq_false_iff, Option.isNone_eq_false_iff, Option.isNone_eq_false_iff,
    Marker.isSome_find?_iff, Marker.isSome_find?_iff, ← exists_or, Method.IsMarked]
  refine exists_congr fun a => ?_
  rw [← and_or_left]

theorem ofMethod_of_unmarked (h : ¬ m.IsMarked) : ofMethod className m = {} := by
  rw [isMarked_iff, Bool.not_eq_false] at h
  exact if_pos h

theorem ofMethod_of_refused (hm : m.IsMarked) {e : SignatureError}
    (he : signatureError? m.signature = some e) :
    ofMethod className m = { violations := [refusal className m e] } := by
  have h := isMarked_iff.1 hm
  simp only [ofMethod, h, he]
  rfl

/-- What a method gives comes from a marker, and its signature has passed the check. -/
theorem accepted_of_ofMethod (h : (ofMethod className m).updater = true ∨
    (ofMethod className m).handler.isSome = true) :
    m.IsMarked ∧ m.signature.IsAccepted := by
  rw [← signatureError?_eq_none_iff]
  by_cases hm : m.IsMarked
  · refine ⟨hm, ?_⟩
    cases he : signatureError? m.signature with
    | none => rfl
    | some e => simp [ofMethod_of_refused hm he] at h
  · simp [ofMethod_of_unmarked hm] at h

theorem name_of_handler {x : ClickHandler} (h : (ofMethod className m).handler = some x) :
    x.name = m.name := by
  obtain ⟨hm, he⟩ := accepted_of_ofMethod (.inr (Option.isSome_of_eq_some h))
  have hmarked := isMarked_iff.1 hm
  simp only [ofMethod, hmarked, signatureError?_eq_none_iff.2 he, Bool.false_eq_true, if_false] at h
  split at h
  · cases h
    rfl
  · cases h

end Members

/-! ## Elements -/

namespace Resolution

variable {className : String}

/-- Handlers that are accepted come in order, with elements that are neither taken nor given
twice. -/
theorem handlersFrom_distinct : ∀ (taken : List String) (hs : List ClickHandler),
    (handlersFrom className taken hs).1.Sublist hs ∧
    ((handlersFrom className taken hs).1.map (·.element)).Nodup ∧
    ∀ h ∈ (handlersFrom className taken hs).1, h.element ∉ taken
  | _, [] => ⟨.slnil, List.nodup_nil, fun _ h => nomatch h⟩
  | taken, first :: rest => by
    unfold handlersFrom
    split_ifs with htaken
    · obtain ⟨hsub, hnodup, hfree⟩ := handlersFrom_distinct taken rest
      exact ⟨hsub.cons _, hnodup, hfree⟩
    · obtain ⟨hsub, hnodup, hfree⟩ := handlersFrom_distinct (first.element :: taken) rest
      refine ⟨hsub.cons_cons _, List.nodup_cons.2 ⟨?_, hnodup⟩, List.forall_mem_cons.2 ⟨?_, ?_⟩⟩
      · rintro hmem
        obtain ⟨h, hh, heq⟩ := List.mem_map.1 hmem
        exact hfree h hh (heq ▸ List.mem_cons_self)
      · exact fun hmem => htaken (List.contains_iff_mem.2 hmem)
      · exact fun h hh hmem => hfree h hh (List.mem_cons_of_mem _ hmem)

end Resolution

/-! ## The class -/

namespace Candidate

variable {config : Config} {c : Candidate} {a : Analysis}

/-- The updaters of a class are its marked methods, and its handlers come from those. -/
theorem members_of_analyse (h : c.analyse config = .ok a) :
    a.reactiveClass.updaters.map (·.name) = c.members.1.updaters.map Method.name ∧
    a.reactiveClass.handlers =
      (Resolution.handlers c.qualifiedName c.members.1.handlers).1 := by
  unfold analyse at h
  obtain ⟨⟨fs, refused⟩, -, h⟩ := bind_eq_ok_iff.1 h
  cases h
  exact ⟨List.map_map.trans rfl, rfl⟩

theorem nodup_elements_of_analyse (h : c.analyse config = .ok a) :
    (a.reactiveClass.handlers.map (·.element)).Nodup := by
  rw [(members_of_analyse h).2]
  exact (Resolution.handlersFrom_distinct [] _).2.1

/-- Each updater and each handler of a class is a marked method whose signature has passed the
check. -/
theorem exists_method_of_analyse (h : c.analyse config = .ok a) {i : Ident}
    (hi : i ∈ a.reactiveClass.updaters.map (·.name) ∨ i ∈ a.reactiveClass.handlers.map (·.name)) :
    ∃ m ∈ c.methods, m.name = i ∧ m.IsMarked ∧ m.signature.IsAccepted := by
  obtain ⟨hupdaters, hhandlers⟩ := members_of_analyse h
  rw [hupdaters, hhandlers] at hi
  rcases hi with hi | hi
  · obtain ⟨updater, hmember, rfl⟩ := List.mem_map.1 hi
    obtain ⟨x, hx, rfl⟩ := List.mem_map.1 hmember
    obtain ⟨hmap, hupdater⟩ := List.mem_filter.1 hx
    obtain ⟨m, hm, rfl⟩ := List.mem_map.1 hmap
    exact ⟨m, hm, rfl, Members.accepted_of_ofMethod (.inl hupdater)⟩
  · obtain ⟨x, hx, rfl⟩ := List.mem_map.1 hi
    obtain ⟨y, hy, hhandler⟩ :=
      List.mem_filterMap.1 ((Resolution.handlersFrom_distinct [] _).1.subset hx)
    obtain ⟨m, hm, rfl⟩ := List.mem_map.1 hy
    exact ⟨m, hm, (Members.name_of_handler hhandler).symm,
      Members.accepted_of_ofMethod (.inr (Option.isSome_of_eq_some hhandler))⟩

/-- The violations of a method are violations of its class. -/
theorem violations_ofMethod_subset {m : Method} (h : c.analyse config = .ok a)
    (hm : m ∈ c.methods) :
    (Members.ofMethod c.qualifiedName m).violations ⊆ a.diagnostics := by
  obtain ⟨⟨fs, refused, -, hviolations⟩, -⟩ := violations_of_analyse h
  intro d hd
  have hmember : d ∈ c.members.2 :=
    List.mem_append_right _ (List.mem_flatMap.2 ⟨_, List.mem_map_of_mem hm, hd⟩)
  rw [Analysis.diagnostics, hviolations]
  simp [hmember]

end Candidate

/-! ## A class with a click handler -/

/-- A struct that is marked as a model. -/
def gameStruct : Struct :=
  let marker : Attribute := ⟨⟨false, ⟨false, [.plain "reactive_model"]⟩, .none⟩, .empty⟩
  ⟨[marker], .inherited, .plain "Game", .empty, .named []⟩

/-- A method that clicks call, `unsafe` or not. -/
def Method.serve (isUnsafe : Bool) : Method where
  attributes := [⟨⟨false, ⟨false, [.plain "click_handler"]⟩,
    .list .parenthesis [.literal "\"Serve\""]⟩, .empty⟩]
  visibility := .inherited
  isDefault := false
  signature := ⟨false, false, isUnsafe, none, .plain "on_serve", .empty,
    [(.receiver [] (some none) true none, false)], none, none⟩
  body := .empty

/-- The impl block of the struct. -/
def gameImpl (isUnsafe : Bool) : Impl :=
  ⟨[], .empty, .empty, none, some ⟨false, [.plain "Game"]⟩, .ident (.plain "Game"),
    [.method (.serve isUnsafe)]⟩

/-- The class of the struct. -/
def Candidate.game (isUnsafe : Bool) : Candidate where
  modules := []
  item := gameStruct
  fields := []
  impls := [gameImpl isUnsafe]
  allowCycles := false

theorem Candidate.analyse_game (isUnsafe : Bool) :
    ∃ a, (game isUnsafe).analyse {} = .ok a ∧
      a.reactiveClass.handlers = [⟨.plain "on_serve", "Serve"⟩] := by
  cases isUnsafe <;> exact ⟨_, rfl, by decide +kernel⟩

end ReactiveModel
