import ReactiveModel.Code.Declaration
import ReactiveModel.Config
import ReactiveModel.Diagnostic
import ReactiveModel.Property.Naming

/-!
# Resolution of properties and elements

Fields become properties in the order of their declaration. A field is refused if everyone may see
it, if no usable name can be derived from it, or if a name that it gives is taken by a field before
it; only fields that are accepted take names. Readers and writers are methods of one type, so their
names are taken from one stock. Click handlers take their elements in the same way.
-/

namespace ReactiveModel

/-- A field that is marked as observable. -/
structure FieldDecl where
  name : Ident
  type : Code
  visibility : Visibility

/-- A field that is accepted as a property. -/
structure ObservableField where
  name : Ident
  type : Code
  visibility : Visibility
  property : String
  getter : Ident
  setter : Ident

/-- A method that a click on an element calls. -/
structure ClickHandler where
  name : Ident
  element : String
  deriving DecidableEq, Repr

namespace Resolution

/-! ## Fields -/

/-- Whether everyone may see the field. -/
def isPublic (f : FieldDecl) : Bool :=
  match f.visibility with
  | .everyone => true
  | _ => false

/-- Whether a field with the name of a property collides with one that is accepted. -/
def isTaken (accepted : List ObservableField) (property : String) : Bool :=
  accepted.any fun f =>
    f.property == property ||
      [f.getter.name, f.setter.name].any fun method =>
        method == Naming.accessor property || method == Naming.setter property

/-- What becomes of a field: its property, or why it is refused. -/
def field (prefixes : List String) (className : String) (accepted : List ObservableField)
    (f : FieldDecl) : Except Unspellable (ObservableField ⊕ Diagnostic) := do
  let name := f.name.name
  let property := Naming.property prefixes name
  let refuse (kind : DiagnosticKind) (message : String) : ObservableField ⊕ Diagnostic :=
    .inr ⟨kind, className, name, message⟩
  if isPublic f then
    return refuse .observableFieldMustNotBePublic
      ("observable field '" ++ name ++ "' must not be declared `pub`")
  else if !Naming.isUsable property then
    return refuse .invalidPropertyName
      ("field '" ++ name ++ "' derives the unusable property name '" ++ property ++ "'")
  else if isTaken accepted property then
    return refuse .duplicatePropertyName
      ("field '" ++ name ++ "' derives property '" ++ property ++
        "', whose name or accessors are already generated for an earlier field")
  else
    let getter ← Ident.spelling (Naming.accessor property)
    let setter ← Ident.spelling (Naming.setter property)
    return .inl ⟨f.name, f.type, f.visibility, property, getter, setter⟩

/-- Adds what becomes of more fields to what is accepted. -/
def fieldsFrom (prefixes : List String) (className : String) :
    (accepted : List ObservableField) → List FieldDecl →
      Except Unspellable (List ObservableField × List Diagnostic)
  | accepted, [] => return (accepted, [])
  | accepted, f :: rest => do
    match ← field prefixes className accepted f with
    | .inl property => fieldsFrom prefixes className (accepted ++ [property]) rest
    | .inr d =>
      let (accepted, ds) ← fieldsFrom prefixes className accepted rest
      return (accepted, d :: ds)

/-- The properties of a class, and the violations among its fields. -/
def fields (config : Config) (className : String) (fs : List FieldDecl) :
    Except Unspellable (List ObservableField × List Diagnostic) :=
  fieldsFrom config.prefixesLongestFirst className [] fs

/-! ## Click handlers -/

/-- Adds handlers to those that are accepted, unless their element is taken. -/
def handlersFrom (className : String) :
    (taken : List String) → List ClickHandler → List ClickHandler × List Diagnostic
  | _, [] => ([], [])
  | taken, h :: rest =>
    if taken.contains h.element then
      let (accepted, ds) := handlersFrom className taken rest
      (accepted, ⟨.duplicateElementName, className, h.name.text,
        "element '" ++ h.element ++ "' is already bound by an earlier click handler"⟩ :: ds)
    else
      let (accepted, ds) := handlersFrom className (h.element :: taken) rest
      (h :: accepted, ds)

/-- The handlers of a class, each with an element of its own, and the violations among them. -/
def handlers (className : String) (hs : List ClickHandler) :
    List ClickHandler × List Diagnostic :=
  handlersFrom className [] hs

end Resolution

end ReactiveModel
