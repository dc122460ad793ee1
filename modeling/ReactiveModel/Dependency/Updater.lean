import ReactiveModel.Code.References
import ReactiveModel.Dependency.Graph
import ReactiveModel.Property.Index

/-!
# What updaters read and write

An updater reads a property that it refers to, and writes one whose setter it calls. A name that is
bound anywhere in the method hides the property of that name, except as a member. The names of
local variables are kept as they are spelled.
-/

namespace ReactiveModel

/-- The names that are bound somewhere in a method. -/
structure Locals where
  names : List String

namespace Locals

/-- The names that the parameters and the body of a method bind. -/
def ofMethod (m : Method) : Locals :=
  let params := m.signature.params.flatMap fun (param, _) =>
    match param with
    | .typed _ pattern _ => pattern.bound
    | .receiver .. => []
  ⟨(params ++ m.body.bound).map Ident.text⟩

/-- Whether a name is bound. -/
def contains (locals : Locals) (name : String) : Bool := locals.names.contains name

end Locals

/-- An updater with the properties it reads and writes. -/
structure Updater where
  name : Ident
  /-- In the order of their first reference. -/
  reads : List String
  /-- In the order of their first assignment. -/
  writes : List String
  deriving DecidableEq, Repr

namespace Updater

/-- The property that a reference writes: it must call the setter. -/
def written? (index : PropertyIndex) : Reference → Option String
  | .member i true => index.write? i.name
  | _ => none

/-- The property that a reference reads. -/
def read? (index : PropertyIndex) (locals : Locals) (reference : Reference) : Option String :=
  if (written? index reference).isSome then none
  else match reference with
    | .member i _ => index.read? i.name
    | .bare i => if locals.contains i.name then none else index.read? i.name

/-- The updater that a method is. -/
def ofMethod (index : PropertyIndex) (m : Method) : Updater :=
  let references := m.body.references
  { name := m.name
    reads := (references.filterMap (read? index (Locals.ofMethod m))).eraseDups
    writes := (references.filterMap (written? index)).eraseDups }

end Updater

/-- The graph of updaters: an edge for each property that an updater reads, property after
property. -/
def DependencyGraph.ofUpdaters (properties : List String) (us : List Updater) :
    DependencyGraph :=
  DependencyGraph.addEdges ∅ <| properties.flatMap fun property =>
    (us.filter (·.reads.contains property)).map fun u => (property, u.name)

/-- The updaters that methods are, and their graph. -/
def dependencies (fs : List ObservableField) (methods : List Method) :
    List Updater × DependencyGraph :=
  let us := methods.map (Updater.ofMethod (PropertyIndex.ofFields fs))
  (us, .ofUpdaters (fs.map (·.property)) us)

end ReactiveModel
