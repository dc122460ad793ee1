import ReactiveModel.Emission.Source
import ReactiveModel.Log

/-!
# Generation from source files

Code is generated for every class of a file on its own, so a violation in one class leaves the
others alone. The code of a class is kept only if it can be read again. What is logged on the way
follows from the results of the stages.
-/

namespace ReactiveModel

/-! ## One class -/

/-- A class that has been processed. -/
structure ClassOutput where
  candidate : Candidate
  analysis : Analysis
  tokens : List Token

namespace ClassOutput

/-- Processes a candidate. -/
def ofCandidate (config : Config) (c : Candidate) : Except Unspellable ClassOutput := do
  let analysis ← c.analyse config
  return ⟨c, analysis, Emission.source config analysis.reactiveClass⟩

/-- Why the code of a class cannot be read again. -/
def failure? (o : ClassOutput) : Option SyntaxError :=
  match Grammar.readTokens Grammar.fileItems o.tokens with
  | .ok _ => none
  | .error e => some e

/-- The violation of a class whose code cannot be read again. -/
def emissionFailed (o : ClassOutput) (e : SyntaxError) : Diagnostic :=
  ⟨.emissionFailed, o.candidate.qualifiedName, o.candidate.item.name.text,
    "generated code did not re-parse: " ++ e.message⟩

/-- The violations of a class, those of its code included. -/
def diagnostics (o : ClassOutput) : List Diagnostic :=
  o.analysis.diagnostics ++ (o.failure?.map o.emissionFailed).toList

end ClassOutput

/-! ## One file -/

/-- The code of a class. -/
structure GeneratedClass where
  qualifiedName : String
  code : String
  deriving DecidableEq, Repr

/-- What is generated from a file. -/
structure GeneratedUnit where
  classes : List GeneratedClass
  diagnostics : List Diagnostic
  deriving DecidableEq, Repr

namespace GeneratedUnit

/-- The code of all classes, one after the other. -/
def source (u : GeneratedUnit) : String := "\n".intercalate (u.classes.map (·.code))

/-- Whether there is a violation. -/
def hasErrors (u : GeneratedUnit) : Bool := !u.diagnostics.isEmpty

end GeneratedUnit

/-- Why nothing is generated from a file. -/
inductive GenerationError where
  | unreadable (e : SyntaxError)
  | unspellable (e : Unspellable)
  deriving DecidableEq, Repr

/-- A file that has been processed. -/
structure UnitOutput where
  findings : List Candidate.Finding
  classes : List ClassOutput

namespace UnitOutput

/-- Processes the items of a file or a module. -/
def ofItems (config : Config) (items : List Item) : Except Unspellable UnitOutput := do
  let findings := Candidate.find items
  return ⟨findings, ← (Candidate.among findings).mapM (ClassOutput.ofCandidate config)⟩

/-- Processes a file. -/
def ofSource (config : Config) (text : String) : Except GenerationError UnitOutput :=
  match Grammar.readUnit text with
  | .error e => throw (.unreadable e)
  | .ok items => (ofItems config items).mapError .unspellable

/-- What is generated. -/
def result (o : UnitOutput) : GeneratedUnit where
  classes := (o.classes.filter (·.failure?.isNone)).map fun c =>
    ⟨c.candidate.qualifiedName, Token.render c.tokens⟩
  diagnostics := Candidate.violations o.findings ++ o.classes.flatMap ClassOutput.diagnostics

end UnitOutput

/-- Generates code from a file. -/
def generate (config : Config) (text : String) : Except GenerationError GeneratedUnit :=
  (UnitOutput.ofSource config text).map UnitOutput.result

/-! ## The log -/

namespace LogLine

/-- A violation. -/
def ofDiagnostic (d : Diagnostic) : LogLine := ⟨.debug, "diagnostic: " ++ d.display⟩

/-- Something found in a file. -/
def ofFinding : Candidate.Finding → LogLine
  | .candidate c => ⟨.trace, "found reactive model " ++ c.qualifiedName⟩
  | .violation d => ofDiagnostic d

end LogLine

namespace Config

/-- What is logged when the path of the library is looked up. -/
def runtimeLog (c : Config) : List LogLine :=
  match c.runtime? with
  | .ok _ => []
  | .error e =>
    [⟨.warn, "invalid runtime path '" ++ c.runtimePath ++ "': " ++ e.message ++
      "; using ::bindable"⟩]

end Config

namespace ClassOutput

/-- What is logged of the work on a class. -/
def log (config : Config) (o : ClassOutput) : List LogLine :=
  let name := o.candidate.qualifiedName
  let c := o.analysis.reactiveClass
  [⟨.debug, "processing " ++ name⟩] ++ o.analysis.violations.map LogLine.ofDiagnostic ++
  [⟨.trace, "dependency graph: " ++ toString c.updaters.length ++ " updaters, " ++
    toString c.graph.edgeCount ++ " edges"⟩] ++ o.analysis.cycles.map LogLine.ofDiagnostic ++
  config.runtimeLog ++
  [⟨.debug, "emitting " ++ name ++ " (" ++ toString c.fields.length ++ " properties, " ++
    toString c.updaters.length ++ " updaters, " ++ toString c.handlers.length ++ " handlers)"⟩] ++
  (o.failure?.map fun e =>
    ⟨.warn, "generated code for " ++ name ++ " did not re-parse: " ++ e.message⟩).toList

end ClassOutput

namespace UnitOutput

/-- What is logged of the work on a file. -/
def log (config : Config) (o : UnitOutput) : List LogLine :=
  let result := o.result
  o.findings.map LogLine.ofFinding ++ o.classes.flatMap (ClassOutput.log config) ++
  [⟨.debug, "generated " ++ toString result.classes.length ++ " classes with " ++
    toString result.diagnostics.length ++ " diagnostics"⟩]

end UnitOutput

/-! ## Several files -/

/-- Why nothing is generated from one of several files. -/
inductive WorkerError where
  | unreadable (e : SyntaxError)
  /-- The work on the file with this position broke off. -/
  | broken (position : Nat)
  deriving DecidableEq, Repr

/-- The wording of an error in a list of results. -/
def WorkerError.message : WorkerError → String
  | .unreadable _ => "Failed to parse compilation unit:"
  | .broken position => "Generation worker for unit " ++ toString position ++ " panicked"

/-- Generates code from each of several files. -/
def generateMany (config : Config) (texts : List String) :
    List (Except WorkerError GeneratedUnit) :=
  texts.zipIdx.map fun (text, position) =>
    (generate config text).mapError fun
      | .unreadable e => .unreadable e
      | .unspellable _ => .broken position

end ReactiveModel
