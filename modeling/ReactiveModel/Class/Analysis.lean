import ReactiveModel.Class.Members
import ReactiveModel.Dependency.Cycle

/-!
# Analysed classes

An analysed class has everything that its code is generated from. Cycles among its updaters are
violations unless the class or the configuration allows them; they never change the class.
-/

namespace ReactiveModel

/-- A class that code can be generated for. -/
structure ReactiveClass where
  name : Ident
  qualifiedName : String
  generics : Generics
  fields : List ObservableField
  updaters : List Updater
  handlers : List ClickHandler
  graph : DependencyGraph

/-- A class with the violations that were found on the way to it. -/
structure Analysis where
  reactiveClass : ReactiveClass
  /-- The violations before the graph of updaters was known. -/
  violations : List Diagnostic
  cycles : List Diagnostic

namespace Analysis

/-- All violations in order. -/
def diagnostics (a : Analysis) : List Diagnostic := a.violations ++ a.cycles

/-- A cycle as a violation. -/
def ofCycle (className : String) (c : Cycle) : Diagnostic :=
  ⟨.dependencyCycle, className, c.entry, "dependent updaters form a cycle: " ++ c.display ++
    "; mark the class #[reactive_model(allow_cycles)] to accept it"⟩

end Analysis

/-- Analyses a class. -/
def Candidate.analyse (config : Config) (c : Candidate) : Except Unspellable Analysis := do
  let className := c.qualifiedName
  let (members, malformed) := c.members
  let (fields, refused) ← Resolution.fields config className members.fields
  let (handlers, doubled) := Resolution.handlers className members.handlers
  let (updaters, graph) := dependencies fields members.updaters
  let allowed := c.allowCycles || config.cyclePolicy = .allow
  let cycles := if allowed then [] else findCycles updaters
  let reactiveClass : ReactiveClass :=
    ⟨c.item.name, className, c.item.generics, fields, updaters, handlers, graph⟩
  return { reactiveClass := reactiveClass
           violations := malformed ++ refused ++ doubled
           cycles := cycles.map (Analysis.ofCycle className) }

end ReactiveModel
