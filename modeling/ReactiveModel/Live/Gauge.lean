import ReactiveModel.Live.Model

/-!
# The gauge

A level, a limit and whether the level is over it. A float that is no number is over nothing.
-/

namespace ReactiveModel.Live.Gauge

/-- Compares the level with the limit. -/
def check : Behavior Value := fun s =>
  [.note "check", .assign "Over" (.truth (s.float "_limit" < s.float "Level"))]

/-- Notes the result. -/
def audit : Behavior Value := fun s =>
  [.note ("audit 1 " ++ if s.truth "Over" then "true" else "false")]

/-- The class of gauges. -/
def model : LiveClass Value where
  name := "Gauge"
  slots := [⟨"level", "Level", .float 0⟩, ⟨"limit", "_limit", .float 0⟩,
    ⟨"over", "Over", .truth false⟩]
  updaters := [
    (⟨.plain "check", ["Level", "_limit"], ["Over"]⟩, check),
    (⟨.plain "audit", ["Over"], []⟩, audit)]
  handlers := []

end ReactiveModel.Live.Gauge
