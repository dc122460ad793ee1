import ReactiveModel.Emission.Binding
import ReactiveModel.Emission.Metadata

/-!
# Generated source

All code that is generated for a class: its accessors, its binding routine and its metadata.
-/

namespace ReactiveModel.Emission

/-- The parts of the code of a class, in order. -/
def parts (runtime : List Token) (c : ReactiveClass) : List (List Token) :=
  [accessors runtime c, binding runtime c, metadata runtime c]

/-- The code of a class. -/
def source (config : Config) (c : ReactiveClass) : List Token := (parts config.runtime c).flatten

end ReactiveModel.Emission
