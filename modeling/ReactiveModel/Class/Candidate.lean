import ReactiveModel.Diagnostic
import ReactiveModel.Marker

/-!
# Candidate classes

A class is a struct with named fields that is marked as a reactive model, together with the
inherent impl blocks of its name among the same items. Modules with their items in place are
searched as well, and qualify the names of the classes in them.
-/

namespace ReactiveModel

/-- A struct that is marked as a model. -/
structure Candidate where
  /-- The names of the modules around the struct, the outermost first. -/
  modules : List String
  item : Struct
  /-- The fields of the struct. -/
  fields : List Field
  impls : List Impl
  allowCycles : Bool

namespace Candidate

/-- A name with the names of the modules around it. -/
def qualify (modules : List String) (name : Ident) : String :=
  "::".intercalate (modules ++ [name.text])

/-- The name of a class with the names of the modules around it. -/
def qualifiedName (c : Candidate) : String := qualify c.modules c.item.name

/-- What is found in the items of a file or a module, in order. -/
inductive Finding where
  | candidate (c : Candidate)
  | violation (d : Diagnostic)

/-- Whether a type path is the type of the given name, as far as its last segment tells. -/
def named (name : Ident) (path : TypePath) : Bool :=
  (path.segments.getLast?.map Ident.text) == some name.text

/-- The inherent impl blocks of a type among items. -/
def implsOf (name : Ident) (items : List Item) : List Impl :=
  items.filterMap fun
    | .impl i => if i.implemented.isNone && i.self.any (named name) then some i else none
    | _ => none

/-- What is found at a type that cannot be a model. -/
def ofOther (modules : List String) (t : OtherType) (what : String) : List Finding :=
  match Marker.find? .reactiveModel t.attributes with
  | none => []
  | some _ => [.violation ⟨.unsupportedDeclaration, qualify modules t.name, t.name.text,
      "reactive_model cannot be applied to " ++ what⟩]

/-- What is found at a struct among the given items. -/
def ofStruct (modules : List String) (items : List Item) (s : Struct) : List Finding :=
  let violation (kind : DiagnosticKind) (message : String) : List Finding :=
    [.violation ⟨kind, qualify modules s.name, s.name.text, message⟩]
  match Marker.find? .reactiveModel s.attributes with
  | some (_, .ok (.reactiveModel allowCycles)) =>
    match s.fields with
    | .named fields =>
      [.candidate ⟨modules, s, fields.map (·.1), implsOf s.name items, allowCycles⟩]
    | _ => violation .unsupportedDeclaration
        "reactive_model only supports structs with named fields"
  | some (_, .error e) => violation .malformedMarker e.message
  | _ => []

mutual

/-- What is found at an item among the given items. -/
def ofItem (modules : List String) (items : List Item) : Item → List Finding
  | .struct s => ofStruct modules items s
  | .enum t => ofOther modules t "an enum"
  | .union t => ofOther modules t "a union"
  | .module head inner => ofItems (modules ++ [head.name.text]) inner inner
  | .impl _ => []
  | .other _ => []

/-- What is found at some of the given items. -/
def ofItems (modules : List String) (items : List Item) : List Item → List Finding
  | [] => []
  | item :: rest => ofItem modules items item ++ ofItems modules items rest

end

/-- What is found in the items of a file or of a module whose name does not count. -/
def find (items : List Item) : List Finding := ofItems [] items items

/-- The candidates among findings. -/
def among (findings : List Finding) : List Candidate :=
  findings.filterMap fun
    | .candidate c => some c
    | .violation _ => none

/-- The violations among findings. -/
def violations (findings : List Finding) : List Diagnostic :=
  findings.filterMap fun
    | .candidate _ => none
    | .violation d => some d

end Candidate

end ReactiveModel
