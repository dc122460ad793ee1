/-!
# The shortest decimal of a float

A float stands for all real numbers that round to it. Its shortest decimal is, of the decimals with
the fewest digits in that interval, the one nearest to the float. The search tries one digit more
each time and looks at the two neighbours of the float among the decimals of that length, in exact
arithmetic on fractions.
-/

namespace ReactiveModel.Decimal

/-- A positive fraction. -/
structure Fraction where
  numerator : Nat
  denominator : Nat
  deriving DecidableEq, Repr

/-- The fraction `n · 2 ^ e`. -/
def Fraction.dyadic (n : Nat) (e : Int) : Fraction :=
  if 0 ≤ e then ⟨n * Nat.pow 2 e.toNat, 1⟩ else ⟨n, Nat.pow 2 (-e).toNat⟩

/-- The fraction times `10 ^ e`. -/
def Fraction.shift (f : Fraction) (e : Int) : Fraction :=
  if 0 ≤ e then ⟨f.numerator * Nat.pow 10 e.toNat, f.denominator⟩
  else ⟨f.numerator, f.denominator * Nat.pow 10 (-e).toNat⟩

/-- Whether one fraction is not more than another. -/
def Fraction.le (f g : Fraction) : Bool :=
  f.numerator * g.denominator ≤ g.numerator * f.denominator

/-- A whole number as a fraction. -/
def Fraction.ofNat (n : Nat) : Fraction := ⟨n, 1⟩

/-- A positive float: its significand and exponent, and whether the float below is only half as far
away as the one above. -/
structure Binary where
  significand : Nat
  exponent : Int
  isLowest : Bool
  deriving DecidableEq, Repr

namespace Binary

/-- The value of a float. -/
def value (b : Binary) : Fraction := .dyadic b.significand b.exponent

/-- The lower end of the interval that rounds to a float. -/
def lower (b : Binary) : Fraction :=
  .dyadic (4 * b.significand - if b.isLowest then 1 else 2) (b.exponent - 2)

/-- The upper end of the interval that rounds to a float. -/
def upper (b : Binary) : Fraction := .dyadic (4 * b.significand + 2) (b.exponent - 2)

/-- Whether a whole number of units `10 ^ unit` rounds to the float. The ends of the interval do if
the significand is even. -/
def hits (b : Binary) (unit : Int) (n : Nat) : Bool :=
  let f := Fraction.ofNat n
  let lower := b.lower.shift (-unit)
  let upper := b.upper.shift (-unit)
  if b.significand % 2 = 0 then lower.le f && f.le upper else !f.le lower && !upper.le f

/-- The decimal nearest to the float among those with the unit that round to it. -/
def nearest? (b : Binary) (unit : Int) : Option Nat :=
  let scaled := b.value.shift (-unit)
  let below := scaled.numerator / scaled.denominator
  match hits b unit below, hits b unit (below + 1) with
  | true, true =>
    if 2 * scaled.numerator < (2 * below + 1) * scaled.denominator then some below
    else some (below + 1)
  | true, false => some below
  | false, true => some (below + 1)
  | false, false => none

/-- The place of the first digit of a float: the largest exponent whose power of ten is not more
than it. -/
def leadingPlace (b : Binary) : Int :=
  let places := (List.range 700).map fun (i : Nat) => (350 : Int) - i
  (places.find? fun place => (Fraction.ofNat 1).le (b.value.shift (-place))).getD 0

/-- The shortest decimal: its digits as a number, and the power of ten that it counts. -/
def shortest (b : Binary) : Nat × Int :=
  let units := (List.range 17).map fun (i : Nat) => b.leadingPlace - i
  (units.findSome? fun unit => (b.nearest? unit).map fun n => (n, unit)).getD (b.significand, 0)

end Binary

/-- The absolute value of a finite float; none for zero. -/
def binary? (x : Float) : Option Binary :=
  let bits : Nat := x.toBits.toNat
  let fraction : Nat := bits % Nat.pow 2 52
  let biased : Nat := bits / Nat.pow 2 52 % Nat.pow 2 11
  if biased = 0 then
    if fraction = 0 then none else some ⟨fraction, -1074, false⟩
  else some ⟨Nat.pow 2 52 + fraction, (biased : Int) - 1075, fraction = 0 && biased ≠ 1⟩

/-- Whether the sign of a float is set. -/
def isNegative (x : Float) : Bool := x.toBits.toNat / Nat.pow 2 63 = 1

end ReactiveModel.Decimal
