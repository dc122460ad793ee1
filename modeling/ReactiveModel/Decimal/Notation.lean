import ReactiveModel.Decimal.Shortest

/-!
# The notation of floats

Floats are shown by their shortest decimals. Large and small ones are shown with an exponent,
others with a point and at least one digit after it.
-/

namespace ReactiveModel.Decimal

/-- The digits of a decimal without zeros at the end, and the place of the first one. -/
def digitsOf (n : Nat) (unit : Int) : List Char × Int :=
  let digits := (toString n).toList
  let kept := (digits.reverse.dropWhile (· = '0')).reverse
  (kept, unit + (digits.length : Int) - 1)

/-- A decimal with an exponent. -/
def scientific (digits : List Char) (place : Int) : String :=
  let mantissa := match digits with
    | first :: second :: rest => first :: '.' :: second :: rest
    | digits => digits
  String.ofList mantissa ++ "e" ++ toString place

/-- A decimal with a point. -/
def positional (digits : List Char) (place : Int) : String :=
  if place < 0 then
    "0." ++ String.ofList (List.replicate (-place - 1).toNat '0' ++ digits)
  else
    let whole := place.toNat + 1
    let padded := digits ++ List.replicate (whole - digits.length) '0'
    let fraction := padded.drop whole
    String.ofList (padded.take whole) ++ "." ++
      (if fraction.isEmpty then "0" else String.ofList fraction)

/-- The places of first digits that are shown with a point. -/
def isPositional (place : Int) : Bool := -4 ≤ place && place < 16

/-- The text of a float. -/
def text (x : Float) : String :=
  if x.isNaN then "NaN"
  else
    let sign := if isNegative x then "-" else ""
    if x.isInf then sign ++ "inf"
    else match binary? x with
      | none => sign ++ "0.0"
      | some b =>
        let (n, unit) := b.shortest
        let (digits, place) := digitsOf n unit
        sign ++ if isPositional place then positional digits place else scientific digits place

end ReactiveModel.Decimal
