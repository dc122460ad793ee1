import ReactiveModel.Token.Basic

/-!
# Diagnostics

A rule violation is recorded with the class and the member it was found at. Violations never stop
the work on other members, so each stage gives back its results together with a list of them, in
the order in which they were found.
-/

namespace ReactiveModel

/-- The rules that a model can violate. -/
inductive DiagnosticKind where
  | observableFieldMustNotBePublic
  | duplicatePropertyName
  | invalidPropertyName
  | duplicateElementName
  | dependencyCycle
  | invalidMemberSignature
  | malformedMarker
  | unsupportedDeclaration
  | emissionFailed
  deriving DecidableEq, Repr

namespace DiagnosticKind

/-- All kinds of violations. -/
def all : List DiagnosticKind :=
  [observableFieldMustNotBePublic, duplicatePropertyName, invalidPropertyName,
   duplicateElementName, dependencyCycle, invalidMemberSignature, malformedMarker,
   unsupportedDeclaration, emissionFailed]

/-- The name that a kind is shown by. -/
def name : DiagnosticKind → String
  | observableFieldMustNotBePublic => "ObservableFieldMustNotBePublic"
  | duplicatePropertyName => "DuplicatePropertyName"
  | invalidPropertyName => "InvalidPropertyName"
  | duplicateElementName => "DuplicateElementName"
  | dependencyCycle => "DependencyCycle"
  | invalidMemberSignature => "InvalidMemberSignature"
  | malformedMarker => "MalformedMarker"
  | unsupportedDeclaration => "UnsupportedDeclaration"
  | emissionFailed => "EmissionFailed"

/-- The kind with the given name. -/
def ofName? (name : String) : Option DiagnosticKind := all.find? (·.name == name)

end DiagnosticKind

/-- One violation. -/
structure Diagnostic where
  kind : DiagnosticKind
  /-- The class with the modules around it. -/
  className : String
  /-- The field or the method, or the class again if the class itself is at fault. -/
  member : String
  message : String
  deriving DecidableEq, Repr

namespace Diagnostic

/-- A violation with its place. -/
def display (d : Diagnostic) : String :=
  "[" ++ d.kind.name ++ "] " ++ d.className ++ "::" ++ d.member ++ ": " ++ d.message

/-- A violation without its place, as the compiler shows it at the place itself. -/
def summary (d : Diagnostic) : String := d.kind.name ++ ": " ++ d.message

/-- How many violations are of a kind. -/
def count (kind : DiagnosticKind) (ds : List Diagnostic) : Nat := ds.countP (·.kind = kind)

end Diagnostic

/-- Code that the compiler refuses with the given message. -/
def compileError (message : String) : List Token :=
  Token.op "::" ++ [.word (.plain "core")] ++ Token.op "::" ++ [.word (.plain "compile_error")] ++
    [.mark '!' .alone, .group .brace [Token.string message]]

/-- Code that the compiler refuses with each of the violations. -/
def compileErrors (ds : List Diagnostic) : List Token :=
  ds.flatMap fun d => compileError d.summary

end ReactiveModel
