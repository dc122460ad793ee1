/-!
# The log

A line of the log has a level and a text. What is logged is always derived from results, so the log
is a list of lines and never a state.
-/

namespace ReactiveModel

/-- How much a line of the log matters. -/
inductive LogLevel where
  | trace
  | debug
  | warn
  deriving DecidableEq, Repr

/-- The name of a level. -/
def LogLevel.name : LogLevel → String
  | .trace => "TRACE"
  | .debug => "DEBUG"
  | .warn => "WARN"

/-- A line of the log. -/
structure LogLine where
  level : LogLevel
  text : String
  deriving DecidableEq, Repr

/-- A line as it is shown. -/
def LogLine.display (l : LogLine) : String := l.level.name ++ " " ++ l.text

end ReactiveModel
