import ReactiveModel.Live.Model

/-!
# The counter

A counter with its double, which wraps around, and a label that shows both.
-/

namespace ReactiveModel.Live.Counter

/-- The double follows the counter. -/
def updateDouble : Behavior Value := fun s =>
  [.note "update_double", .assign "Double" (.int (s.int "Counter" * 2))]

/-- The label follows the counter and the double. -/
def updateLabel : Behavior Value := fun s =>
  let shown (property : String) : String := toString (s.int property).toInt
  [.note "update_label", .assign "Label" (.text (shown "Counter" ++ "/" ++ shown "Double"))]

/-- One more. -/
def onIncrement : Behavior Value := fun s => [.assign "Counter" (.int (s.int "Counter" + 1))]

/-- Back to zero. -/
def onReset : Behavior Value := fun _ => [.assign "Counter" (.int 0)]

/-- Nothing but a note. -/
def onMissing : Behavior Value := fun _ => [.note "missing clicked"]

/-- The class of counters. -/
def model : LiveClass Value where
  name := "Counter"
  slots := [⟨"counter", "Counter", .int 0⟩, ⟨"double", "Double", .int 0⟩,
    ⟨"label", "Label", .text ""⟩]
  updaters := [
    (⟨.plain "update_double", ["Counter"], ["Double"]⟩, updateDouble),
    (⟨.plain "update_label", ["Counter", "Double"], ["Label"]⟩, updateLabel)]
  handlers := [
    (⟨.plain "on_increment", "Increment"⟩, onIncrement),
    (⟨.plain "on_reset", "Reset"⟩, onReset),
    (⟨.plain "on_missing", "Missing"⟩, onMissing)]

end ReactiveModel.Live.Counter
