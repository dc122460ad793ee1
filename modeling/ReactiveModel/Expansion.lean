import ReactiveModel.Generation

/-!
# Expansion in place

A module is expanded by appending the code of each class to the items that the class stands among,
and by removing the markers; a struct by itself is expanded in the same way. Violations become code
that the compiler refuses, after all else.
-/

namespace ReactiveModel.Expansion

/-! ## Placing the code of classes -/

/-- The code of classes, each with the names of the modules around the class. -/
abbrev Placed := List (List String × List Token)

/-- The code to append to the items of a module. -/
def additions (placed : Placed) (modules : List String) : List Item :=
  (placed.filter (·.1 == modules)).map fun (_, tokens) => .other (.raw tokens)

mutual

/-- An item with what is appended to the modules in it. -/
def extendItem (placed : Placed) (modules : List String) : Item → Item
  | .module head items =>
    let inner := modules ++ [head.name.text]
    .module head (extendEach placed inner items ++ additions placed inner)
  | item => item

/-- Items with what is appended to the modules in them. -/
def extendEach (placed : Placed) (modules : List String) : List Item → List Item
  | [] => []
  | item :: rest => extendItem placed modules item :: extendEach placed modules rest

end

/-- The items of a module with the code of all classes in it. -/
def extend (placed : Placed) (items : List Item) : List Item :=
  extendEach placed [] items ++ additions placed []

/-- The code of the classes of a unit with their places. -/
def placed (o : UnitOutput) : Placed := o.classes.map fun c => (c.candidate.modules, c.tokens)

/-- The violations that are shown for a unit. -/
def diagnostics (o : UnitOutput) : List Diagnostic :=
  Candidate.violations o.findings ++ o.classes.flatMap (·.analysis.diagnostics)

/-! ## Modules and structs -/

/-- What is shown for a module whose items are in another file. -/
def notInPlace : String := "reactive_module requires an inline module (`mod name \x7b .. \x7d`)"

/-- Expands a module. -/
def ofModule (config : Config) (m : Module) : Except Unspellable (List Token) := do
  match m.items with
  | none => return compileError notInPlace
  | some items =>
    let o ← UnitOutput.ofItems config items
    let code := Item.toCode (.module m.head (extend (placed o) items))
    return code.withoutMarkers.toTokens ++ compileErrors (diagnostics o)

/-- The marker of a model with the given tokens as its arguments. -/
def modelMarker (arguments : List Token) : Attribute :=
  let arguments := if arguments.isEmpty then AttributeArguments.none
    else .list .parenthesis arguments
  ⟨⟨false, ⟨false, [.plain MarkerKind.reactiveModel.name]⟩, arguments⟩, .empty⟩

/-- Expands a struct, as if it were marked with the given arguments. -/
def ofStruct (config : Config) (arguments : List Token) (s : Struct) :
    Except Unspellable (List Token) := do
  let s := { s with attributes := modelMarker arguments :: s.attributes }
  let o ← UnitOutput.ofItems config [.struct s]
  return s.toCode.withoutMarkers.toTokens ++ (o.classes.flatMap (·.tokens)) ++
    compileErrors (diagnostics o)

end ReactiveModel.Expansion
