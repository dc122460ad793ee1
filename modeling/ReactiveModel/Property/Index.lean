import ReactiveModel.Property.Resolution

/-!
# The index of properties

Code refers to a property by its name, by the name of its field or by a method of it. A name that
fits several properties reads the first of them; the methods that write are all different.
-/

namespace ReactiveModel

/-- The names by which the properties of a class are read and written. -/
structure PropertyIndex where
  /-- Names with the properties they read; the first entry of a name counts. -/
  reads : List (String × String)
  /-- Names with the properties they write. -/
  writes : List (String × String)

namespace PropertyIndex

/-- The names that read a property. -/
def readers (f : ObservableField) : List String := [f.property, f.name.name, f.getter.name]

/-- The index of the given properties. -/
def ofFields (fs : List ObservableField) : PropertyIndex where
  reads := fs.flatMap fun f => (readers f).map fun name => (name, f.property)
  writes := fs.map fun f => (f.setter.name, f.property)

/-- The property that a name reads. -/
def read? (index : PropertyIndex) (name : String) : Option String := index.reads.lookup name

/-- The property that a name writes. -/
def write? (index : PropertyIndex) (name : String) : Option String := index.writes.lookup name

end PropertyIndex

end ReactiveModel
