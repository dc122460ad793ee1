import ReactiveModel.Decimal.Notation
import ReactiveModel.Dependency.Updater
import ReactiveModel.Live.BindReport

/-!
# Models at work

A model at work keeps a value for each property. Writing a value that is there already does nothing;
otherwise the value is stored, observers are notified, and then the updaters that depend on the
property run in order, each to its end. Updaters write properties in turn, so a write is a cascade,
and its depth is bounded by fuel. Cascades ask nothing of values but a test of equality, which need
not be reflexive.
-/

namespace ReactiveModel.Live

/-! ## Values and states -/

/-- The value of a property. -/
inductive Value where
  | int (n : Int32)
  | text (s : String)
  | float (x : Float)
  | truth (b : Bool)

namespace Value

/-- Whether writing a value over another changes nothing. A float that is no number differs from
itself, and the two zeros are equal. -/
def same : Value → Value → Bool
  | int m, int n => m == n
  | text s, text t => s == t
  | float x, float y => x == y
  | truth a, truth b => a == b
  | _, _ => false

instance : BEq Value := ⟨same⟩

end Value

/-- The values of the properties of a model, in order. -/
abbrev State (V : Type) := List (String × V)

namespace State

variable {V : Type}

/-- The value of a property. -/
def get (s : State V) (property : String) : Option V := s.lookup property

/-- The state with another value of a property. -/
def store (s : State V) (property : String) (value : V) : State V :=
  s.map fun (p, old) => if p = property then (p, value) else (p, old)

/-- Whether a property has the value already. -/
def holds [BEq V] (s : State V) (property : String) (value : V) : Bool :=
  (s.get property).any (· == value)

/-- A whole number, zero if the property has no such value. -/
def int (s : State Value) (property : String) : Int32 :=
  match s.get property with
  | some (.int n) => n
  | _ => 0

/-- A float, zero if the property has no such value. -/
def float (s : State Value) (property : String) : Float :=
  match s.get property with
  | some (.float x) => x
  | _ => 0

/-- A truth value, false if the property has no such value. -/
def truth (s : State Value) (property : String) : Bool :=
  match s.get property with
  | some (.truth b) => b
  | _ => false

end State

/-! ## Classes -/

/-- Something that can be observed while a model works. -/
inductive Event where
  | notified (property : String)
  | noted (text : String)
  deriving DecidableEq, Repr

/-- An event as it is shown. -/
def Event.display : Event → String
  | .notified property => "notify:" ++ property
  | .noted text => text

/-- A part of what a method does. -/
inductive Action (V : Type) where
  | note (text : String)
  | assign (property : String) (value : V)

/-- A method, by what it does in the state it is called in. -/
abbrev Behavior (V : Type) := State V → List (Action V)

/-- A property of a class. -/
structure Slot (V : Type) where
  /-- The name of the method that reads it. -/
  accessor : String
  property : String
  initial : V

/-- A class with the behavior of its methods. -/
structure LiveClass (V : Type) where
  name : String
  slots : List (Slot V)
  updaters : List (Updater × Behavior V)
  handlers : List (ClickHandler × Behavior V)

namespace LiveClass

variable {V : Type}

/-- The names of the properties. -/
def properties (c : LiveClass V) : List String := c.slots.map (·.property)

/-- The binding of a click handler. -/
def binding (handler : ClickHandler × Behavior V) : ClickBinding :=
  ⟨handler.1.element, handler.1.name.text⟩

/-- The bindings of the click handlers. -/
def bindings (c : LiveClass V) : List ClickBinding := c.handlers.map binding

/-- The graph of the updaters. -/
def graph (c : LiveClass V) : DependencyGraph :=
  .ofUpdaters c.properties (c.updaters.map (·.1))

/-- The updaters that depend on a property. -/
def dependents (c : LiveClass V) (property : String) : List String :=
  (c.graph.dependents property).map Ident.text

/-- The state that a model begins with. -/
def initial (c : LiveClass V) : State V := c.slots.map fun slot => (slot.property, slot.initial)

/-- What an updater does. -/
def behavior (c : LiveClass V) (updater : Ident) : Behavior V :=
  ((c.updaters.find? (·.1.name = updater)).map (·.2)).getD fun _ => []

/-! ## Cascades -/

/-- A state, and the events on the way to it. -/
structure Outcome (V : Type) where
  state : State V
  events : List Event := []

/-- The outcome of one piece of work after another; none if the second has none. -/
def Outcome.next (o : Outcome V) (work : State V → Option (Outcome V)) :
    Option (Outcome V) :=
  (work o.state).map fun after => { after with events := o.events ++ after.events }

/-- Does one action after another. -/
def performWith (assign : String → V → State V → Option (Outcome V)) :
    List (Action V) → State V → Option (Outcome V)
  | [], s => some { state := s }
  | action :: rest, s => do
    let o ← match action with
      | .note text => some ⟨s, [.noted text]⟩
      | .assign property value => assign property value s
    o.next (performWith assign rest)

/-- Runs one updater after another. -/
def runWith (c : LiveClass V) (assign : String → V → State V → Option (Outcome V)) :
    List Ident → State V → Option (Outcome V)
  | [], s => some { state := s }
  | updater :: rest, s => do
    let o ← performWith assign (c.behavior updater s) s
    o.next (runWith c assign rest)

/-- Writes a property; none if the cascade is deeper than the fuel. -/
def assign [BEq V] (c : LiveClass V) :
    (fuel : Nat) → String → V → State V → Option (Outcome V)
  | 0, _, _, _ => none
  | fuel + 1, property, value, s =>
    if s.holds property value then some { state := s }
    else
      Outcome.next ⟨s.store property value, [.notified property]⟩
        (runWith c (c.assign fuel) (c.graph.dependents property))

/-- Does what a method does; none if a cascade is deeper than the fuel. -/
def call [BEq V] (c : LiveClass V) (fuel : Nat) (behavior : Behavior V) (s : State V) :
    Option (Outcome V) := performWith (c.assign fuel) (behavior s) s

end LiveClass

end ReactiveModel.Live
