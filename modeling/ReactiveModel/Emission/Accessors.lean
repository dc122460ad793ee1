import ReactiveModel.Class.Analysis
import ReactiveModel.Token.Phrase

/-!
# Accessors

Each property has a method that reads it and one that writes it. Writing a value that is there
already does nothing; otherwise observers are notified and then all updaters that depend on the
property run in order.
-/

namespace ReactiveModel.Emission

open Token

/-! ## Impl blocks -/

/-- The head of an impl block for a class, given the implemented trait with the `for` after it. -/
def implHead (name : Ident) (g : Generics) (implemented : List Token) : List Token :=
  phrase "impl" ++ g.repeated.toTokens ++ implemented ++ [.word name] ++ g.arguments.toTokens ++
    g.whereClause.toTokens

/-! ## Pairs of accessors -/

/-- The two accessors of a property. -/
structure AccessorPair where
  field : Ident
  type : Code
  property : String
  getter : Ident
  setter : Ident
  /-- The updaters that the setter runs. -/
  cascade : List Ident

namespace AccessorPair

/-- The accessors of a field that is accepted. -/
def ofField (graph : DependencyGraph) (f : ObservableField) : AccessorPair :=
  ⟨f.name, f.type, f.property, f.getter, f.setter, graph.dependents f.property⟩

/-- What the method that reads is documented by. -/
def getterDoc (p : AccessorPair) : String :=
  "Current value of the `" ++ p.property ++ "` property."

/-- What the method that writes is documented by. -/
def setterDoc (p : AccessorPair) : String :=
  "Set `" ++ p.property ++
    "`, notifying observers and running its dependent updaters when the value changes."

/-- A documentation comment. -/
def documentation (text : String) : List Token :=
  op "#" ++ bracketed (phrase "doc =" ++ [.string text])

/-- The field of the model at hand. -/
def place (p : AccessorPair) : List Token := phrase "self ." ++ [.word p.field]

/-- The method that reads. -/
def getterTokens (p : AccessorPair) : List Token :=
  documentation p.getterDoc ++ phrase "pub fn" ++ [.word p.getter] ++
    parenthesized (phrase "& self") ++ phrase "-> &" ++ p.type.toTokens ++
    braced (op "&" ++ p.place)

/-- The call of an updater. -/
def cascadeCall (updater : Ident) : List Token :=
  phrase "self ." ++ [.word updater] ++ parenthesized [] ++ op ";"

/-- The method that writes. -/
def setterTokens (runtime : List Token) (p : AccessorPair) : List Token :=
  documentation p.setterDoc ++ phrase "pub fn" ++ [.word p.setter] ++
    parenthesized (phrase "& mut self , value :" ++ p.type.toTokens) ++
    braced (phrase "if" ++ p.place ++ phrase "== value" ++ braced (phrase "return ;") ++
      p.place ++ phrase "= value ;" ++
      runtime ++ phrase ":: NotifyPropertyChanged :: notify_property_changed" ++
        parenthesized (phrase "self ," ++ [.string p.property]) ++ op ";" ++
      p.cascade.flatMap cascadeCall)

/-- Both methods. -/
def toTokens (runtime : List Token) (p : AccessorPair) : List Token :=
  p.getterTokens ++ p.setterTokens runtime

end AccessorPair

/-! ## The accessors of a class -/

/-- The pairs of accessors of a class. -/
def accessorPairs (c : ReactiveClass) : List AccessorPair :=
  c.fields.map (AccessorPair.ofField c.graph)

/-- The impl block with all accessors; nothing for a class without properties. -/
def accessors (runtime : List Token) (c : ReactiveClass) : List Token :=
  let pairs := accessorPairs c
  if pairs.isEmpty then []
  else implHead c.name c.generics [] ++ braced (pairs.flatMap (AccessorPair.toTokens runtime))

end ReactiveModel.Emission
