/-!
# Reports of binding

A report tells which handlers have been subscribed to an element and which have found none. Binding
is complete if no element is missing.
-/

namespace ReactiveModel.Live

/-- An element with the handler of its clicks. -/
structure ClickBinding where
  element : String
  handler : String
  deriving DecidableEq, Repr

/-- How a binding is shown. -/
def ClickBinding.display (b : ClickBinding) : String := b.handler ++ " <- " ++ b.element

/-- What has become of the bindings of a model. -/
structure BindReport where
  model : String
  subscribed : List ClickBinding := []
  missing : List ClickBinding := []
  deriving DecidableEq, Repr

/-- The elements that a model has not found. -/
structure MissingElements where
  model : String
  elements : List String
  deriving DecidableEq, Repr

/-- The wording of an error. -/
def MissingElements.message (e : MissingElements) : String :=
  "Missing UI elements for " ++ e.model ++ ": " ++ ", ".intercalate e.elements

namespace BindReport

/-- The report with a binding that has found its element. -/
def recordSubscribed (r : BindReport) (b : ClickBinding) : BindReport :=
  { r with subscribed := r.subscribed ++ [b] }

/-- The report with a binding that has not. -/
def recordMissing (r : BindReport) (b : ClickBinding) : BindReport :=
  { r with missing := r.missing ++ [b] }

/-- Whether all elements have been found. -/
def isComplete (r : BindReport) : Bool := r.missing.isEmpty

/-- The report if it is complete, otherwise the elements that are missing. -/
def result (r : BindReport) : Except MissingElements BindReport :=
  if r.isComplete then return r else throw ⟨r.model, r.missing.map (·.element)⟩

/-- The texts of all bindings, those that have found their element first. -/
def shown (r : BindReport) : List String := (r.subscribed ++ r.missing).map ClickBinding.display

end BindReport

end ReactiveModel.Live
