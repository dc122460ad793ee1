import ReactiveModel.Proofs.Class.Handler
import ReactiveModel.Proofs.Emission.Call
import ReactiveModel.Proofs.Token.StringLiteral

/-!
# The elements of click handlers in generated code

The element that a click handler names is written in six places of the generated code, each of which
is found by the call or the constant that it stands in. Whatever way the marker spells the element,
all six places have the same string literal, and its value is the element (`element_survives`).
-/

namespace ReactiveModel

namespace Emission

open Token

/-! ## Reading generated code -/

/-- Whether tokens that are given backwards end in the name of a function or a macro. -/
def endsIn (name : String) : List Token → Bool
  | .word i :: _ => i = .plain name
  | .mark '!' _ :: .word i :: _ => i = .plain name
  | _ => false

/-- The arguments of the last call of a function or a macro. The tokens are given backwards. -/
def lastArguments (name : String) : List Token → List Token
  | .group .parenthesis body :: before =>
    if endsIn name before then body else lastArguments name before
  | _ :: before => lastArguments name before
  | [] => []

/-- The arguments of the last call of a function or a macro. Earlier tokens may be any: the path of
the library stands there. -/
def arguments (name : String) (tokens : List Token) : List Token :=
  lastArguments name tokens.reverse

/-- The literals among tokens, as they are written. -/
def literalTexts (tokens : List Token) : List String :=
  tokens.filterMap fun
    | .literal text => some text
    | _ => none

/-- What is generated for a click handler. -/
structure HandlerCode where
  /-- The subscription in the binding routine. -/
  subscription : List Token
  /-- The click binding in the metadata. -/
  entry : List Token

/-- Where the element of a click handler is written. -/
inductive ElementPlace where
  /-- The search for the button. -/
  | search
  /-- The warning that a click is skipped. -/
  | skipped
  /-- The record of a subscription. -/
  | subscribed
  /-- The warning that there is no button. -/
  | absent
  /-- The record that there is no button. -/
  | missing
  /-- The click binding. -/
  | binding

namespace HandlerCode

/-- The code of a handler of a class. -/
def ofHandler (runtime : List Token) (className : String) (x : ClickHandler) : HandlerCode where
  subscription := Subscription.toTokens runtime ⟨className, x.element, x.name⟩
  entry := Metadata.bindingTokens runtime (x.element, x.name.text)

variable (code : HandlerCode)

/-- What is done if there is a button, and if there is none. -/
def branches : List (List Token) := groups .brace (braces code.subscription)

/-- What is done if there is a button. -/
def whenFound : List Token := code.branches.headD []

/-- What is done if there is no button. -/
def whenMissing : List Token := code.branches.getLastD []

/-- The arms of the `match` that a click comes to. -/
def clickArms : List Token :=
  (groups .brace (braces (arguments "new" (arguments "on_activate" code.whenFound)))).getLastD []

/-- The literal in a place. Warnings have the format and the class before it. -/
def literal? : ElementPlace → Option String
  | .search => (literalTexts (arguments "find_button" code.subscription))[0]?
  | .skipped => (literalTexts (arguments "warn" code.clickArms))[2]?
  | .subscribed => (literalTexts (arguments "record_subscribed" code.whenFound))[0]?
  | .absent => (literalTexts (arguments "warn" code.whenMissing))[2]?
  | .missing => (literalTexts (arguments "record_missing" code.whenMissing))[0]?
  | .binding => (literalTexts (braces code.entry))[0]?

end HandlerCode

/-! ## Every place -/

namespace Subscription

variable (runtime : List Token) (s : Subscription)

theorem arguments_toTokens :
    arguments "find_button" (s.toTokens runtime) = phrase "root ," ++ [.string s.element] := by
  simp only [arguments, toTokens, parenthesized, braced, List.reverse_append]
  rfl

/-- What a click does is the body of the closure that is subscribed. -/
theorem arguments_whenFound :
    arguments "new" (arguments "on_activate" (s.whenFound runtime)) =
      phrase "move ||" ++ braced (s.activation runtime) := by
  simp only [arguments, whenFound, parenthesized, List.reverse_append]
  rfl

end Subscription

namespace HandlerCode

variable (runtime : List Token) (className : String) (x : ClickHandler)

theorem branches_ofHandler :
    let s : Subscription := ⟨className, x.element, x.name⟩
    (ofHandler runtime className x).branches = [s.whenFound runtime, s.whenMissing runtime] :=
  Subscription.groups_braces_toTokens _ _

theorem literal?_skipped :
    (ofHandler runtime className x).literal? .skipped = some (Text.quoted x.element) := by
  have hclick : braces (arguments "new" (arguments "on_activate"
      (ofHandler runtime className x).whenFound)) =
        Subscription.activation runtime ⟨className, x.element, x.name⟩ := by
    rw [whenFound, branches_ofHandler, List.headD_cons, Subscription.arguments_whenFound,
      braces_append]
  obtain ⟨before, harms⟩ : ∃ before, (ofHandler runtime className x).clickArms = before ++
      Subscription.warning runtime
        "\x7b\x7d: '\x7b\x7d' activated while the model is borrowed; '\x7b\x7d' skipped"
        ⟨className, x.element, x.name⟩ ++ op "," := by
    rw [clickArms, hclick]
    exact ⟨_, rfl⟩
  rw [literal?, harms]
  simp only [arguments, Subscription.warning, parenthesized, List.reverse_append]
  rfl

/-- Each place has what is written for the element. -/
theorem literal?_ofHandler (place : ElementPlace) :
    (ofHandler runtime className x).literal? place = some (Text.quoted x.element) := by
  cases place with
  | search =>
    rw [literal?, ofHandler, Subscription.arguments_toTokens]
    rfl
  | skipped => exact literal?_skipped _ _ _
  | subscribed =>
    rw [literal?, whenFound, branches_ofHandler]
    simp only [arguments, List.headD_cons, Subscription.whenFound, Subscription.names,
      parenthesized, List.reverse_append]
    rfl
  | absent =>
    rw [literal?, whenMissing, branches_ofHandler]
    simp only [arguments, List.getLastD_cons, List.getLastD_nil, Subscription.whenMissing,
      Subscription.warning, parenthesized, List.reverse_append]
    rfl
  | missing =>
    rw [literal?, whenMissing, branches_ofHandler]
    simp only [arguments, List.getLastD_cons, List.getLastD_nil, Subscription.whenMissing,
      Subscription.names, parenthesized, List.reverse_append]
    rfl
  | binding =>
    have hentry : braces (ofHandler runtime className x).entry = phrase "element :" ++
        [.string x.element] ++ phrase ", handler :" ++ [.string x.name.text] := braces_append _ _
    rw [literal?, hentry]
    rfl

end HandlerCode

/-! ## The code of a class -/

/-- The binding routine ends with the subscriptions of the handlers, in order, and the report. -/
theorem exists_braces_binding (runtime : List Token) (r : ReactiveClass) :
    let code := HandlerCode.ofHandler runtime r.qualifiedName
    ∃ before, braces (braces (binding runtime r)) =
      before ++ r.handlers.flatMap (fun x => (code x).subscription) ++ phrase "report" := by
  intro code
  rw [binding, braces_append, braces_append, bindingBody, subscriptions, List.flatMap_map]
  exact ⟨_, rfl⟩

/-- The second constant of the metadata has the click bindings of the handlers, in order. -/
theorem groups_braces_metadata (runtime : List Token) (r : ReactiveClass) :
    let code := HandlerCode.ofHandler runtime r.qualifiedName
    (groups .bracket (braces (metadata runtime r)))[3]? =
      some (commaSeparated (r.handlers.map fun x => (code x).entry)) := by
  intro code
  have hbindings : (Metadata.ofClass r).bindings.map (Metadata.bindingTokens runtime) =
      r.handlers.map fun x => (code x).entry := List.map_map
  rw [metadata, braces_append, ← hbindings]
  rfl

end Emission

/-! ## From markers to code -/

/-- The first click handler of the method names the element by the literal. -/
def Method.SpellsElement (m : Method) (literal element : String) : Prop :=
  ∃ a delimiter, m.clickMarkers.head? = some a ∧
    a.head.arguments = .list delimiter [.literal literal] ∧
    Text.quotedValue? literal = some element

theorem Method.Claims.exists_literal {m : Method} {element : String} (h : m.Claims element) :
    ∃ literal, m.SpellsElement literal element := by
  obtain ⟨-, a, ha, hnames⟩ := h
  obtain ⟨kind, -, hmarker⟩ := Option.map_eq_some_iff.1 hnames
  obtain ⟨-, delimiter, literal, harguments, hvalue, -⟩ := Marker.ofKind_eq_ok_iff.1 hmarker
  exact ⟨literal, a, delimiter, ha, harguments, hvalue⟩

namespace Emission

open Token

/-- The handlers of a class are the first claims of its methods, each of which spells the element by
a literal of any kind, and the code of the class has the code of each of them, in order. All places
where the code of a handler has the element have one string literal, and its value is the element.
Among handlers of all classes, the literals are the same if and only if the elements are. -/
theorem element_survives {config : Config} {c : Candidate} {a : Analysis}
    (h : c.analyse config = .ok a) :
    let r := a.reactiveClass
    let code := HandlerCode.ofHandler config.runtime r.qualifiedName
    (∀ x, x ∈ r.handlers ↔ ∃ m literal, c.FirstClaim x.element m ∧ m.name = x.name ∧
      m.SpellsElement literal x.element) ∧
    (∃ before, braces (braces (binding config.runtime r)) =
      before ++ r.handlers.flatMap (fun x => (code x).subscription) ++ phrase "report") ∧
    (groups .bracket (braces (metadata config.runtime r)))[3]? =
      some (commaSeparated (r.handlers.map fun x => (code x).entry)) ∧
    (∀ x ∈ r.handlers, ∃ literal, Lexer.IsStringLiteral literal x.element ∧
      ∀ place, (code x).literal? place = some literal) ∧
    ∀ runtime className x y place place',
      (code x).literal? place = (HandlerCode.ofHandler runtime className y).literal? place' ↔
        x.element = y.element := by
  intro r code
  refine ⟨fun x => ?_, exists_braces_binding _ _, groups_braces_metadata _ _, fun x _ => ?_, ?_⟩
  · rw [show r.handlers = _ from (Candidate.handlers_of_analyse h).1,
      Candidate.mem_boundHandlers_iff]
    constructor
    · rintro ⟨m, hclaim, hname⟩
      obtain ⟨before, after, hsplit, hclaims, hbefore⟩ := hclaim
      obtain ⟨literal, hspells⟩ := hclaims.exists_literal
      exact ⟨m, literal, ⟨before, after, hsplit, hclaims, hbefore⟩, hname, hspells⟩
    · rintro ⟨m, -, hclaim, hname, -⟩
      exact ⟨m, hclaim, hname⟩
  · exact ⟨_, Lexer.isStringLiteral_quoted _, HandlerCode.literal?_ofHandler _ _ _⟩
  · intro runtime className x y place place'
    rw [HandlerCode.literal?_ofHandler, HandlerCode.literal?_ofHandler, Option.some_inj,
      Text.quoted_inj]

/-! ## An element with a zero before a digit -/

/-- A game with a click handler whose element is spelled by a code point. -/
def zeroGame : Candidate :=
  let serve := { Method.serve false with
    attributes := [Candidate.playOrPause.click "\"\\u\x7b0\x7d7\""] }
  { Candidate.game false with impls := [{ gameImpl false with items := [.method serve] }] }

theorem analyse_zeroGame :
    ∃ a, zeroGame.analyse {} = .ok a ∧
      a.reactiveClass.handlers = [⟨.plain "on_serve", "\x007"⟩] :=
  ⟨_, rfl, by decide +kernel⟩

/-- Its places have one literal for the zero and the digit. -/
theorem element_survives_zeroGame :
    ∃ a, zeroGame.analyse {} = .ok a ∧ ∃ x ∈ a.reactiveClass.handlers, x.element = "\x007" ∧
      (∃ m literal, m.name = x.name ∧ Method.SpellsElement m literal x.element) ∧
      ∃ literal, Lexer.IsStringLiteral literal x.element ∧ ∀ place, (HandlerCode.ofHandler
        ({} : Config).runtime a.reactiveClass.qualifiedName x).literal? place = some literal := by
  obtain ⟨a, h, hhandlers⟩ := analyse_zeroGame
  obtain ⟨hclaims, -, -, hliteral, -⟩ := element_survives h
  have hx : ⟨.plain "on_serve", "\x007"⟩ ∈ a.reactiveClass.handlers := by
    rw [hhandlers]
    exact List.mem_singleton_self _
  obtain ⟨m, literal, -, hname, hspells⟩ := (hclaims _).1 hx
  exact ⟨a, h, _, hx, rfl, ⟨m, literal, hname, hspells⟩, hliteral _ hx⟩

end Emission

end ReactiveModel
