import ReactiveModel.Emission.Accessors

/-!
# Metadata

The names of the properties, the click bindings and the updaters that depend on each property, as
constants and as a function. A property without dependents has no arm of its own.
-/

namespace ReactiveModel.Emission

open Token

/-- The metadata of a class. -/
structure Metadata where
  properties : List String
  /-- The elements with their handlers. -/
  bindings : List (String × String)
  /-- The properties that updaters depend on, with the updaters. -/
  arms : List (String × List String)

namespace Metadata

/-- The metadata of a class. -/
def ofClass (c : ReactiveClass) : Metadata where
  properties := c.fields.map (·.property)
  bindings := c.handlers.map fun h => (h.element, h.name.text)
  arms :=
    let all := c.fields.map fun f => (f.property, (c.graph.dependents f.property).map Ident.text)
    all.filter (!·.2.isEmpty)

/-- The updaters that depend on a property, as the generated function gives them. -/
def dependents (m : Metadata) (property : String) : List String :=
  (m.arms.lookup property).getD []

/-- A constant slice. -/
def slice (items : List (List Token)) : List Token := op "&" ++ bracketed (commaSeparated items)

/-- A slice of texts. -/
def texts (values : List String) : List Token := slice (values.map fun value => [.string value])

/-- The type of slices of texts. -/
def textsType : List Token := phrase "& 'static" ++ bracketed (phrase "& 'static str")

/-- A click binding. -/
def bindingTokens (runtime : List Token) (binding : String × String) : List Token :=
  runtime ++ phrase ":: ClickBinding" ++
    braced (phrase "element :" ++ [.string binding.1] ++ phrase ", handler :" ++
      [.string binding.2])

/-- An arm of the function that gives the dependents. -/
def armTokens (arm : String × List String) : List Token :=
  [.string arm.1] ++ op "=>" ++ texts arm.2 ++ op ","

/-- The members of the impl block. -/
def toTokens (runtime : List Token) (m : Metadata) : List Token :=
  phrase "const PROPERTY_NAMES :" ++ textsType ++ op "=" ++ texts m.properties ++ op ";" ++
  phrase "const CLICK_BINDINGS : & 'static" ++ bracketed (runtime ++ phrase ":: ClickBinding") ++
    op "=" ++ slice (m.bindings.map (bindingTokens runtime)) ++ op ";" ++
  phrase "fn dependents" ++ parenthesized (phrase "property : & str") ++ op "->" ++ textsType ++
    braced (phrase "match property" ++
      braced (m.arms.flatMap armTokens ++ phrase "_ =>" ++ slice [] ++ op ","))

end Metadata

/-- The impl block with the metadata. -/
def metadata (runtime : List Token) (c : ReactiveClass) : List Token :=
  implHead c.name c.generics (runtime ++ phrase ":: ReactiveModel for") ++
    braced ((Metadata.ofClass c).toTokens runtime)

end ReactiveModel.Emission
