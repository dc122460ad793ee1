import ReactiveModel.Live.Model

/-!
# The game

Two properties that count each other down, and a third that is kept within limits by an updater
that depends on itself.
-/

namespace ReactiveModel.Live.PingPong

/-- One less than a property that is positive goes to another. -/
def pass (source target : String) (s : State Value) : List (Action Value) :=
  if 0 < s.int source then [.assign target (.int (s.int source - 1))] else []

/-- Plays back from ping. -/
def toPong : Behavior Value := fun s => .note "to_pong" :: pass "Ping" "Pong" s

/-- Plays back from pong. -/
def toPing : Behavior Value := fun s => .note "to_ping" :: pass "Pong" "Ping" s

/-- A number brought between two limits. -/
def limited (low high n : Int32) : Int32 := if n < low then low else if high < n then high else n

/-- Keeps the generation between ten below zero and ten above. -/
def clamp : Behavior Value := fun s =>
  [.note "clamp", .assign "Gen" (.int (limited (-10) 10 (s.int "Gen")))]

/-- The first stroke. -/
def onServe : Behavior Value := fun _ => [.assign "Ping" (.int 5)]

/-- A generation that is out of limits. -/
def onUnicode : Behavior Value := fun _ => [.assign "Gen" (.int 99)]

/-- The class of games. -/
def model : LiveClass Value where
  name := "PingPong"
  slots := [⟨"ping", "Ping", .int 0⟩, ⟨"pong", "Pong", .int 0⟩, ⟨"gen", "Gen", .int 0⟩]
  updaters := [
    (⟨.plain "to_pong", ["Ping"], ["Pong"]⟩, toPong),
    (⟨.plain "to_ping", ["Pong"], ["Ping"]⟩, toPing),
    (⟨.plain "clamp", ["Gen"], ["Gen"]⟩, clamp)]
  handlers := [
    (⟨.plain "on_serve", "Serve"⟩, onServe),
    (⟨.plain "on_unicode", "Ünïcode \"Ω\""⟩, onUnicode)]

end ReactiveModel.Live.PingPong
