import ReactiveModel.Class.Candidate
import ReactiveModel.Property.Resolution

/-!
# Marked members of a class

Observable fields come in the order of the fields, updaters and click handlers in the order of the
impl blocks and the methods in them. A marked method must take `&mut self`, nothing else, and give
nothing back; its markers count only then.
-/

namespace ReactiveModel

/-- The marked members of a class. -/
structure Members where
  fields : List FieldDecl
  updaters : List Method
  handlers : List ClickHandler

namespace Members

/-! ## Fields -/

/-- What a field gives: an observable field or a violation, if it is marked. -/
def ofField (className : String) (f : Field) : Option (FieldDecl ⊕ Diagnostic) :=
  (Marker.find? .observable f.attributes).map fun
    | (_, .ok _) => .inl ⟨f.name, f.type, f.visibility⟩
    | (_, .error e) => .inr ⟨.malformedMarker, className, f.name.text, e.message⟩

/-! ## Methods -/

/-- What a marked method must not be. -/
inductive SignatureError where
  | async
  | generic
  | returning
  | receiver
  | parameters
  deriving DecidableEq, Repr

/-- The wording of an error. -/
def SignatureError.message : SignatureError → String
  | async => "async methods are not supported"
  | generic => "generic methods are not supported"
  | returning => "the method must not return a value"
  | receiver => "the receiver must be `&mut self`"
  | parameters => "the method must not take parameters"

/-- Whether a parameter is `&mut self`. -/
def isMutableReceiver : Param → Bool
  | .receiver _ borrow isMut _ => borrow.isSome && isMut
  | .typed .. => false

/-- The first thing that is wrong with a signature. -/
def signatureError? (s : Signature) : Option SignatureError :=
  if s.isAsync then some .async
  else if !s.generics.params.isEmpty then some .generic
  else if s.output.isSome then some .returning
  else match s.params with
    | [] => some .receiver
    | (first, _) :: rest =>
      if !isMutableReceiver first then some .receiver
      else if !rest.isEmpty then some .parameters
      else none

/-- What a method gives. -/
structure MethodFinding where
  updater : Bool := false
  handler : Option ClickHandler := none
  violations : List Diagnostic := []

/-- What the markers of a method give. -/
def ofMethod (className : String) (m : Method) : MethodFinding :=
  let updater := Marker.find? .dependentUpdater m.attributes
  let handler := Marker.find? .clickHandler m.attributes
  let violation (kind : DiagnosticKind) (message : String) : Diagnostic :=
    ⟨kind, className, m.name.text, message⟩
  let malformed (marker : Option (Nat × Except MarkerError Marker)) : List Diagnostic :=
    match marker with
    | some (_, .error e) => [violation .malformedMarker e.message]
    | _ => []
  if updater.isNone && handler.isNone then {}
  else match signatureError? m.signature with
    | some e =>
      { violations := [violation .invalidMemberSignature
          ("marked method must be `fn " ++ m.name.text ++ "(&mut self)`: " ++ e.message)] }
    | none =>
      { updater := updater.any fun (_, marker) => marker.isOk
        handler := match handler with
          | some (_, .ok (.clickHandler element)) => some ⟨m.name, element⟩
          | _ => none
        violations := malformed updater ++ malformed handler }

end Members

namespace Candidate

/-- The methods of a class in the order of its impl blocks. -/
def methods (c : Candidate) : List Method := c.impls.flatMap Impl.methods

/-- The marked members of a class, and the violations among them. -/
def members (c : Candidate) : Members × List Diagnostic :=
  let fields := c.fields.filterMap (Members.ofField c.qualifiedName)
  let methods := c.methods.map fun m => (m, Members.ofMethod c.qualifiedName m)
  ({ fields := fields.filterMap (·.getLeft?)
     updaters := (methods.filter (·.2.updater)).map (·.1)
     handlers := methods.filterMap (·.2.handler) },
   fields.filterMap (·.getRight?) ++ methods.flatMap (·.2.violations))

end Candidate

end ReactiveModel
