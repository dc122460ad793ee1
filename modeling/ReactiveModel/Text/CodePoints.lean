/-!
# Classes of code points

A class of code points beyond ASCII is an ascending list of ranges or of evenly spaced runs. The
membership tests stop at the first range past the code point, so they look at no more of the list
than they need.
-/

namespace ReactiveModel.Text

/-- Whether `n` lies in one of the ascending inclusive ranges. -/
def inRanges : List (Nat × Nat) → Nat → Bool
  | [], _ => false
  | (lo, hi) :: rest, n => if n < lo then false else n ≤ hi || inRanges rest n

/-- Every `step`-th code point from `first` to `last`. -/
structure Run where
  first : Nat
  last : Nat
  step : Nat

/-- Whether `n` is one of the run's code points. -/
def Run.contains (r : Run) (n : Nat) : Bool :=
  r.first ≤ n && n ≤ r.last && (n - r.first) % r.step == 0

/-- Whether `n` lies in one of the ascending runs. -/
def inRuns : List Run → Nat → Bool
  | [], _ => false
  | r :: rest, n => if n < r.first then false else r.contains n || inRuns rest n

/-- The code point that `n` becomes when each run is moved so that it begins at its target. -/
def moved : List (Run × Nat) → Nat → Option Nat
  | [], _ => none
  | (r, target) :: rest, n =>
    if n < r.first then none
    else if r.contains n then some (target + (n - r.first)) else moved rest n

end ReactiveModel.Text
