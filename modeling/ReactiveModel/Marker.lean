import ReactiveModel.Code.Declaration
import ReactiveModel.Grammar.Reader

/-!
# Markers

Markers are attributes with a name of their own; a longer path or a raw identifier makes another
attribute of them. An attribute that is a marker by its name may still be malformed.
-/

namespace ReactiveModel

/-- The kinds of markers. -/
inductive MarkerKind where
  | reactiveModel
  | observable
  | dependentUpdater
  | clickHandler
  deriving DecidableEq, Repr

namespace MarkerKind

/-- All kinds of markers. -/
def all : List MarkerKind := [reactiveModel, observable, dependentUpdater, clickHandler]

/-- The name of the attribute. -/
def name : MarkerKind → String
  | reactiveModel => "reactive_model"
  | observable => "observable"
  | dependentUpdater => "dependent_updater"
  | clickHandler => "click_handler"

/-- The kind of an attribute, if it is a marker. -/
def of? (a : AttributeHead) : Option MarkerKind := all.find? fun kind => a.path.isLone kind.name

end MarkerKind

/-- A marker that is well-formed. -/
inductive Marker where
  | reactiveModel (allowCycles : Bool)
  | observable
  | dependentUpdater
  | clickHandler (element : String)
  deriving DecidableEq, Repr

/-- The kind of a marker. -/
def Marker.kind : Marker → MarkerKind
  | .reactiveModel _ => .reactiveModel
  | .observable => .observable
  | .dependentUpdater => .dependentUpdater
  | .clickHandler _ => .clickHandler

/-- Why a marker is malformed. -/
inductive MarkerError where
  /-- Arguments or a value where there must be none. -/
  | notAlone
  /-- An option that does not exist. -/
  | unknownOption
  /-- Something else than a comma after an option. -/
  | missingComma
  /-- A literal in the place of an option. -/
  | literalOption
  /-- Something that is no path in the place of an option. -/
  | notAnOption
  /-- Nothing after the first `::` of an option. -/
  | missingOption
  /-- Something else than an identifier after a later `::`, or nothing. -/
  | missingSegment (atEnd : Bool)
  /-- Something else than a single text that names an element. -/
  | missingElement
  | emptyElement
  deriving DecidableEq, Repr

/-- The wording of an error. -/
def MarkerError.message : MarkerError → String
  | notAlone => "unexpected token in attribute"
  | unknownOption => "expected `allow_cycles`"
  | missingComma => "expected `,`"
  | literalOption => "unexpected literal in nested attribute, expected ident"
  | notAnOption => "unexpected token in nested attribute, expected ident"
  | missingOption => "unexpected end of input, expected nested attribute"
  | missingSegment true => "unexpected end of input, expected ident"
  | missingSegment false => "expected ident"
  | missingElement => "click_handler must be in the form #[click_handler(\"ElementName\")]"
  | emptyElement => "click_handler element name must not be empty"

namespace Marker

/-! ## The options of a model -/

/-- Whether a path goes on here; another segment must follow each `::`. -/
def goesOn : List Token → Except MarkerError Bool
  | .mark ':' .joint :: .mark ':' _ :: .word _ :: rest => do
    discard (goesOn rest)
    return true
  | .mark ':' .joint :: .mark ':' _ :: rest => throw (.missingSegment rest.isEmpty)
  | _ => return false

/-- Why no option begins here. -/
def noOption (ts : List Token) : MarkerError :=
  if ts.isEmpty then .missingOption
  else if Ahead.beginsLiteral ts then .literalOption
  else .notAnOption

/-- Reads the options of a model up to their end. There is a single one, which may be repeated;
commas separate them and may end them. -/
def options : List Token → Except MarkerError Unit
  | [] => return ()
  | .word i :: rest => do
    if (← goesOn rest) || i ≠ .plain "allow_cycles" then throw .unknownOption
    match rest with
    | [] => return ()
    | .mark ',' _ :: rest => options rest
    | _ => throw .missingComma
  | .mark ':' .joint :: .mark ':' _ :: rest =>
    match rest with
    | .word _ :: rest => do
      discard (goesOn rest)
      throw .unknownOption
    | _ => throw (noOption rest)
  | ts => throw (noOption ts)

/-! ## All markers -/

/-- Accepts a marker that stands alone. -/
def alone (a : AttributeHead) (m : Marker) : Except MarkerError Marker :=
  match a.arguments with
  | .none => return m
  | _ => throw .notAlone

/-- Reads a marker of a kind. -/
def ofKind (kind : MarkerKind) (a : AttributeHead) : Except MarkerError Marker :=
  match kind with
  | .reactiveModel =>
    match a.arguments with
    | .list _ tokens => do
      options tokens
      return .reactiveModel (!tokens.isEmpty)
    | _ => alone a (.reactiveModel false)
  | .observable => alone a .observable
  | .dependentUpdater => alone a .dependentUpdater
  | .clickHandler =>
    match a.arguments with
    | .list _ [.literal text] =>
      match Text.quotedValue? text with
      | some element =>
        if element.isEmpty then throw .emptyElement else return .clickHandler element
      | none => throw .missingElement
    | _ => throw .missingElement

/-- Reads an attribute, if it is a marker. -/
def of? (a : AttributeHead) : Option (Except MarkerError Marker) :=
  (MarkerKind.of? a).map (ofKind · a)

/-- The first marker of a kind, with its position. -/
def find? (kind : MarkerKind) (as : List Attribute) : Option (Nat × Except MarkerError Marker) :=
  (as.findIdx? fun a => MarkerKind.of? a.head = some kind).bind fun position =>
    as[position]?.map fun a => (position, ofKind kind a.head)

end Marker

/-- The attributes whose name is not the given word alone. -/
def Attribute.without (word : String) (as : List Attribute) : List Attribute :=
  as.filter (!·.head.path.isLone word)

/-! ## Removing markers -/

namespace Code

/-- Whether an attribute is a marker on a declaration that markers are removed from. -/
def isRemoved (site : Site) (a : AttributeHead) : Bool :=
  site ≠ .elsewhere && (MarkerKind.of? a).isSome

mutual

/-- The code without the markers on its types, fields and methods. -/
def withoutMarkers : Code → Code
  | .group delimiter body => .group delimiter body.withoutMarkers
  | .seq parts => .seq (listWithoutMarkers parts)
  | .arranged arrangement parts => .arranged arrangement (listWithoutMarkers parts)
  | .member base i => .member base.withoutMarkers i
  | .call base i arguments => .call base.withoutMarkers i arguments.withoutMarkers
  | .attribute site head value =>
    if isRemoved site head then .empty else .attribute site head value.withoutMarkers
  | code => code

/-- Pieces of code without the markers in them. -/
def listWithoutMarkers : List Code → List Code
  | [] => []
  | c :: rest => c.withoutMarkers :: listWithoutMarkers rest

end

end Code

end ReactiveModel
