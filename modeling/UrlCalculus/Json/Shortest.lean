import UrlCalculus.Json.Binary64

/-!
# The shortest decimal that reads back

A binary64 number is written with the fewest significant digits that still round to it; among the
decimals of that length, with the nearest one.

## The search

The reals that round to a number form an interval, which contains its ends exactly when the
coefficient is even. For each length from one to seventeen digits the decimal grid of that length
has two neighbours of the number, one on either side; the first length for which a neighbour lies
in the interval is the shortest, since an interval around the number that meets the grid contains
one of the two neighbours. All comparisons are between natural numbers, over the common denominator
`2¹⁰⁷⁶`.
-/

namespace UrlCalculus

/-- A positive decimal `0.d₁d₂… · 10 ^ point`, its first and last digits not zero. -/
structure Decimal where
  digits : List Nat
  point : Int
deriving DecidableEq

/-- The decimal digits of a number, most significant first. -/
def decimalDigits (n : Nat) : List Nat :=
  (Nat.toDigits 10 n).map fun c ↦ c.toNat - '0'.toNat

namespace Binary64

/-- The denominator over which a number, and the midpoints on either side of it, are integers. -/
def midpointScale : Nat := 4 * unitsPerOne

/-- The ends of the interval of reals that round to a magnitude, over `midpointScale`. Below a power
of two the neighbouring number is only half as far away. -/
def roundingInterval (x : Binary64) : Nat × Nat :=
  let spacing := 1 <<< x.shift
  let below := if x.coefficient = 1 <<< 52 ∧ x.shift ≠ 0 then spacing else 2 * spacing
  (4 * x.units - below, 4 * x.units + 2 * spacing)

/-- Whether the real `a / b` rounds to the magnitude of `x`. -/
def roundsHere (x : Binary64) (a b : Nat) : Bool :=
  let (low, high) := x.roundingInterval
  let scaled := midpointScale * a
  if x.coefficient % 2 = 0 then low * b ≤ scaled && scaled ≤ high * b
  else low * b < scaled && scaled < high * b

/-- The number of places that `a / b` has to be moved to the left until it is at least one. -/
def leadingPlaces (a b : Nat) : Nat → Nat
  | 0 => 0
  | limit + 1 => if b ≤ a then 0 else leadingPlaces (10 * a) b limit + 1

/-- The place of the decimal point in front of which the leading digit stands. -/
def decimalPoint (x : Binary64) : Int :=
  let whole := x.units / unitsPerOne
  if whole = 0 then 1 - (leadingPlaces x.units unitsPerOne 400 : Int)
  else (decimalDigits whole).length

/-- The quotient `n · 10 ^ e` as numerator and denominator. -/
def scaleByPow10 (n : Nat) : Int → Nat × Nat
  | .ofNat e => (n * Nat.pow 10 e, 1)
  | .negSucc e => (n, Nat.pow 10 (e + 1))

/-- The neighbour on the grid `10 ^ e` that is not above `x`; the other one is the next number. -/
def lowerNeighbour (x : Binary64) (e : Int) : Nat :=
  let (unit, unitDen) := scaleByPow10 1 e
  x.units * unitDen / (unitsPerOne * unit)

/-- Whether `n · 10 ^ e` rounds to the magnitude of `x`. -/
def hasDecimal (x : Binary64) (n : Nat) (e : Int) : Bool :=
  let (a, b) := scaleByPow10 n e
  x.roundsHere a b

/-- Whether the lower neighbour is the nearer one, or is equally near and even. -/
def prefersLower (x : Binary64) (e : Int) : Bool :=
  let (unit, unitDen) := scaleByPow10 1 e
  let step := unitsPerOne * unit
  let rest := x.units * unitDen % step
  2 * rest < step || (2 * rest == step && x.lowerNeighbour e % 2 == 0)

/-- The better neighbour on the grid `10 ^ e` that rounds to `x`, if there is one. -/
def neighbour? (x : Binary64) (e : Int) : Option Nat :=
  let n := x.lowerNeighbour e
  if n ≠ 0 ∧ x.hasDecimal n e then
    if x.hasDecimal (n + 1) e && !x.prefersLower e then some (n + 1) else some n
  else if x.hasDecimal (n + 1) e then some (n + 1)
  else none

/-- Search the grids from `length` digits on, for `limit` lengths. -/
def searchDecimal (x : Binary64) (point : Int) (length : Nat) : Nat → Option (Nat × Int)
  | 0 => none
  | limit + 1 =>
    match x.neighbour? (point - length) with
    | some n => some (n, point - length)
    | none => searchDecimal x point (length + 1) limit

/-- The shortest decimal that rounds to the magnitude of a nonzero number. -/
def shortest (x : Binary64) : Decimal :=
  match x.searchDecimal x.decimalPoint 1 20 with
  | none => ⟨[], 0⟩
  | some (n, e) =>
    let digits := decimalDigits n
    ⟨(digits.reverse.dropWhile (· == 0)).reverse, e + digits.length⟩

/-! ## Text -/

/-- How the digits of a decimal are laid out. -/
structure Layout where
  /-- The least place of the decimal point that is written without an exponent. -/
  leastPoint : Int
  /-- The greatest place of the decimal point that is written without an exponent. -/
  greatestPoint : Int
  /-- The text in front of a nonnegative exponent. -/
  positiveExponent : String

/-- A fraction or an exponent always appears; exponents begin at `10¹⁶` and below `10⁻⁵` and carry
their sign. -/
def jsonLayout : Layout where
  leastPoint := -4
  greatestPoint := 16
  positiveExponent := "e+"

def digitsText (digits : List Nat) : String :=
  String.join (digits.map toString)

def zerosText (n : Nat) : String :=
  digitsText (List.replicate n 0)

/-- A decimal without an exponent. -/
def positionalText (d : Decimal) : String :=
  match d.point with
  | .negSucc n => "0." ++ zerosText (n + 1) ++ digitsText d.digits
  | .ofNat 0 => "0." ++ digitsText d.digits
  | .ofNat n =>
    if d.digits.length ≤ n then digitsText d.digits ++ zerosText (n - d.digits.length) ++ ".0"
    else digitsText (d.digits.take n) ++ "." ++ digitsText (d.digits.drop n)

/-- A decimal with one digit in front of the point and an exponent. -/
def exponentText (layout : Layout) (d : Decimal) : String :=
  let fraction := d.digits.drop 1
  let mantissa := digitsText (d.digits.take 1) ++
    (if fraction.isEmpty then "" else "." ++ digitsText fraction)
  match d.point - 1 with
  | .ofNat e => mantissa ++ layout.positiveExponent ++ toString e
  | .negSucc e => mantissa ++ "e-" ++ toString (e + 1)

def decimalText (layout : Layout) (d : Decimal) : String :=
  if layout.leastPoint ≤ d.point ∧ d.point ≤ layout.greatestPoint then positionalText d
  else exponentText layout d

/-- The text of a number in JSON. -/
def text (x : Binary64) : String :=
  (if x.negative then "-" else "") ++
    (if x.isZero then "0.0" else decimalText jsonLayout x.shortest)

end Binary64

end UrlCalculus
