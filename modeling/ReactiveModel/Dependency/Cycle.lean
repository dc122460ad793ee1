import ReactiveModel.Dependency.Updater

/-!
# Cycles among updaters

One updater triggers another by writing a property that the other reads. A depth-first walk visits
the updaters in order, and each time it comes back to an updater it is still inside of, it has
closed a cycle.
-/

namespace ReactiveModel

/-- A step of a cycle: an updater writes a property, which the next updater reads. -/
structure CycleStep where
  updater : String
  property : String
  deriving DecidableEq, Repr

/-- The steps of a walk that ends where it begins. -/
structure Cycle where
  steps : List CycleStep
  deriving DecidableEq, Repr

namespace Cycle

/-- The updater that a cycle begins and ends with. -/
def entry (c : Cycle) : String := (c.steps.head?.map (·.updater)).getD ""

/-- A cycle as it is shown. -/
def display (c : Cycle) : String :=
  String.join (c.steps.map fun s => s.updater ++ " -> " ++ s.property ++ " -> ") ++ c.entry

end Cycle

namespace CycleSearch

/-- How far the walk has come with an updater. -/
inductive Mark where
  | unvisited
  | open
  | done
  deriving DecidableEq, Repr

/-- The marks of the updaters by their positions, and the cycles so far. -/
structure State where
  marks : List Mark
  found : List Cycle

namespace State

/-- The mark of an updater. -/
def mark (s : State) (node : Nat) : Mark := s.marks.getD node .done

/-- The state with another mark of an updater. -/
def setMark (s : State) (node : Nat) (mark : Mark) : State :=
  { s with marks := s.marks.set node mark }

end State

/-- The first property by which one updater triggers another. -/
def trigger? (writer reader : Updater) : Option String := writer.writes.find? reader.reads.contains

/-- The positions of the updaters that an updater triggers, each with the property. -/
def successors (us : List Updater) (node : Nat) : List (Nat × String) :=
  match us[node]? with
  | none => []
  | some writer => us.zipIdx.filterMap fun (reader, position) =>
      (trigger? writer reader).map fun property => (position, property)

/-- The way that the walk has taken, the last step first. -/
abbrev Way := List (Nat × String)

/-- The cycle that is closed by coming back to an updater on the way. -/
def closed (us : List Updater) (way : Way) (entry : Nat) : Option Cycle :=
  let before := way.takeWhile (·.1 ≠ entry)
  match way.drop before.length with
  | [] => none
  | first :: _ => some ⟨(first :: before.reverse).map fun (node, property) =>
      ⟨(us[node]?.map (·.name.text)).getD "", property⟩⟩

/-- Visits an updater and all that can be reached from it. No way visits an updater twice, so
`fuel` need not be more than their number. -/
def visit (us : List Updater) : (fuel : Nat) → Way → (node : Nat) → State → State
  | 0, _, _, s => s
  | fuel + 1, way, node, s =>
    let s := (successors us node).foldl (fun s (next, property) =>
      let way := (node, property) :: way
      match s.mark next with
      | .unvisited => visit us fuel way next s
      | .open => { s with found := s.found ++ (closed us way next).toList }
      | .done => s) (s.setMark node .open)
    s.setMark node .done

/-- The walk from one updater, unless it has been visited. -/
def start (us : List Updater) (s : State) (node : Nat) : State :=
  if s.mark node = .unvisited then visit us us.length [] node s else s

end CycleSearch

/-- The cycles among updaters, in the order in which the walk closes them. -/
def findCycles (us : List Updater) : List Cycle :=
  let s : CycleSearch.State := ⟨us.map fun _ => .unvisited, []⟩
  ((List.range us.length).foldl (CycleSearch.start us) s).found

end ReactiveModel
