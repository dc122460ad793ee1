import ReactiveModel.Live.Model
import ReactiveModel.Log

/-!
# Sessions

A session has a model, its owner and a root with buttons. The model is alive as long as there is a
strong handle of it: its owner has one, and so has the root whose data source it is. Subscriptions
have weak handles, which do not keep it alive. A click runs the handlers of the first button of its
name in order. A handler does nothing once the model is dead, and only warns while the model is
borrowed.
-/

namespace ReactiveModel.Live

/-! ## Handles -/

/-- How many handles keep a model alive, and how many refer to it without doing so. -/
structure Handles where
  strong : Nat := 1
  weak : Nat := 0
  deriving DecidableEq, Repr

namespace Handles

/-- Whether there is a strong handle. -/
def isAlive (h : Handles) : Bool := 0 < h.strong

/-- One more strong handle. -/
def clone (h : Handles) : Handles := { h with strong := h.strong + 1 }

/-- One strong handle less. -/
def release (h : Handles) : Handles := { h with strong := h.strong - 1 }

/-- One more weak handle. -/
def downgrade (h : Handles) : Handles := { h with weak := h.weak + 1 }

/-- A strong handle made from a weak one, unless the model is dead. -/
def upgrade? (h : Handles) : Option Handles := if h.isAlive then some h.clone else none

end Handles

/-! ## Sessions -/

/-- A button with the handlers that are subscribed to it, in order. -/
structure Button (V : Type := Value) where
  name : String
  handlers : List (ClickHandler × Behavior V) := []

/-- A model with what holds it and what it is bound to. -/
structure Session (V : Type := Value) where
  model : LiveClass V
  state : State V
  handles : Handles := {}
  /-- Whether the owner has a handle. -/
  isOwned : Bool := true
  /-- Whether the model is the data source of the root, which has a handle then. -/
  isSource : Bool := false
  buttons : List (Button V)

namespace Session

variable {V : Type}

/-- A new model beside a root with the named buttons. -/
def start (c : LiveClass V) (buttons : List String) : Session V :=
  { model := c, state := c.initial, buttons := buttons.map fun name => { name := name } }

/-- Whether the model is alive. -/
def isAlive (s : Session V) : Bool := s.handles.isAlive

/-- The session after a step, with what was looked for, reported, logged and observed in it. -/
structure Reaction (V : Type := Value) where
  session : Session V
  lookups : List String := []
  report : Option BindReport := none
  warnings : List LogLine := []
  events : List Event := []

/-- Whether the root has a button of the name. -/
def hasButton (s : Session V) (name : String) : Bool := s.buttons.any (·.name == name)

/-! ## Writing -/

/-- Writes a property by the name of its accessor; none if the cascade is too deep. Without a handle
of the model nothing is written. -/
def setWithin [BEq V] (depth : Nat) (s : Session V) (accessor : String) (value : V) :
    Option (Reaction V) :=
  match s.model.slots.find? (·.accessor == accessor) with
  | some slot =>
    if s.isAlive then
      (s.model.assign depth slot.property value s.state).map fun o =>
        { session := { s with state := o.state }, events := o.events }
    else some { session := s }
  | none => some { session := s }

/-! ## Binding -/

/-- What is logged if no button is found for a handler. -/
def missingButton (c : LiveClass V) (b : ClickBinding) : LogLine :=
  ⟨.warn, c.name ++ ": no button named '" ++ b.element ++ "' for click handler '" ++ b.handler ++
    "'"⟩

/-- Subscribes to the first button of a name. -/
def subscribe (handler : ClickHandler × Behavior V) : List (Button V) → List (Button V)
  | [] => []
  | b :: rest =>
    if b.name = handler.1.element then { b with handlers := b.handlers ++ [handler] } :: rest
    else b :: subscribe handler rest

/-- Makes the model the data source of the root, which lets go of the one before. -/
def install (s : Session V) : Session V :=
  let handles := s.handles.clone
  { s with handles := if s.isSource then handles.release else handles, isSource := true }

/-- The session with a subscription of a handler to its button. -/
def withSubscription (s : Session V) (handler : ClickHandler × Behavior V) : Session V :=
  { s with handles := s.handles.downgrade, buttons := subscribe handler s.buttons }

/-- Binds one handler. -/
def bindHandler (r : Reaction V × BindReport) (handler : ClickHandler × Behavior V) :
    Reaction V × BindReport :=
  let (reaction, report) := r
  let s := reaction.session
  let binding := LiveClass.binding handler
  let reaction := { reaction with lookups := reaction.lookups ++ [binding.element] }
  if s.hasButton binding.element then
    ({ reaction with session := s.withSubscription handler }, report.recordSubscribed binding)
  else
    ({ reaction with warnings := reaction.warnings ++ [missingButton s.model binding] },
      report.recordMissing binding)

/-- Makes the model the data source of the root and binds its handlers in order. -/
def bind (s : Session V) : Reaction V × BindReport :=
  s.model.handlers.foldl bindHandler ({ session := s.install }, { model := s.model.name })

/-- The elements that binding looks for, in order. -/
def lookups (s : Session V) : List String := s.bind.1.lookups

/-! ## Clicks -/

/-- What is logged if a click comes while the model is borrowed. -/
def borrowedModel (c : LiveClass V) (h : ClickHandler) : LogLine :=
  ⟨.warn, c.name ++ ": '" ++ h.element ++ "' activated while the model is borrowed; '" ++
    h.name.text ++ "' skipped"⟩

/-- The handlers of the first button of a name. -/
def handlersOf (s : Session V) (name : String) : List (ClickHandler × Behavior V) :=
  ((s.buttons.find? (·.name == name)).map (·.handlers)).getD []

/-- Runs one handler; none if a cascade is too deep. -/
def activate [BEq V] (depth : Nat) (isBorrowed : Bool) (r : Reaction V)
    (handler : ClickHandler × Behavior V) : Option (Reaction V) :=
  match r.session.handles.upgrade? with
  | none => some r
  | some handles =>
    -- the handle that is made for the click is gone after it
    let s := { r.session with handles := handles.release }
    if isBorrowed then
      some { r with session := s, warnings := r.warnings ++ [borrowedModel s.model handler.1] }
    else
      (s.model.call depth handler.2 s.state).map fun o =>
        { r with session := { s with state := o.state }, events := r.events ++ o.events }

/-- Clicks the first button of a name; none if a cascade is too deep. -/
def clickWithin [BEq V] (depth : Nat) (s : Session V) (name : String) (isBorrowed : Bool) :
    Option (Reaction V) :=
  (s.handlersOf name).foldlM (activate depth isBorrowed) { session := s }

/-! ## The end of a model -/

/-- The owner lets go of the model. -/
def dropOwner (s : Session V) : Session V :=
  if s.isOwned then { s with handles := s.handles.release, isOwned := false } else s

/-- The root lets go of its data source. -/
def clearSource (s : Session V) : Session V :=
  if s.isSource then { s with handles := s.handles.release, isSource := false } else s

/-! ## Steps -/

/-- What can be done in a session. -/
inductive Step (V : Type) where
  | bind
  | set (accessor : String) (value : V)
  | click (name : String)
  /-- A click while the model is borrowed. -/
  | clickBorrowed (name : String)
  | dropOwner
  | clearSource

/-- Does a step; none if a cascade is too deep. Without a handle of the model nothing is bound. -/
def step [BEq V] (depth : Nat) (s : Session V) : Step V → Option (Reaction V)
  | .bind =>
    if s.isAlive then
      let (reaction, report) := s.bind
      some { reaction with report := some report }
    else some { session := s }
  | .set accessor value => s.setWithin depth accessor value
  | .click name => s.clickWithin depth name false
  | .clickBorrowed name => s.clickWithin depth name true
  | .dropOwner => some { session := s.dropOwner }
  | .clearSource => some { session := s.clearSource }

/-- Does one more step after others, whose reactions are given with the session after them. -/
def advance [BEq V] (depth : Nat) (past : List (Reaction V) × Session V) (next : Step V) :
    Option (List (Reaction V) × Session V) :=
  (past.2.step depth next).map fun r => (past.1 ++ [r], r.session)

/-- Does one step after another; none if a cascade is too deep. -/
def run [BEq V] (depth : Nat) (s : Session V) (steps : List (Step V)) :
    Option (List (Reaction V) × Session V) := steps.foldlM (advance depth) ([], s)

/-- How deep cascades may go where nothing else is said. -/
def depth : Nat := UInt32.size

/-- Writes a property by the name of its accessor. A cascade that goes too deep leaves all as it
is. -/
def set [BEq V] (s : Session V) (accessor : String) (value : V) : Reaction V :=
  (s.setWithin depth accessor value).getD { session := s }

/-- Clicks the first button of a name. A cascade that goes too deep leaves all as it is. -/
def click [BEq V] (s : Session V) (name : String) (isBorrowed : Bool) : Reaction V :=
  (s.clickWithin depth name isBorrowed).getD { session := s }

end Session

end ReactiveModel.Live
