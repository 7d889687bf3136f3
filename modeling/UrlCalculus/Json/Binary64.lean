/-!
# Finite binary floating-point numbers

A JSON number with a fraction or an exponent denotes a finite binary64 number. It is kept here as
an exact integer multiple of the least positive one, `2⁻¹⁰⁷⁴`, so that reading, comparing and
printing are integer arithmetic from end to end.

## Representation

`⟨negative, coefficient, shift⟩` stands for `± coefficient · 2 ^ shift · 2⁻¹⁰⁷⁴`. The coefficient
has at most 53 bits, and it has exactly 53 unless the shift is zero; hence two numbers are equal as
reals exactly when their fields agree, the two zeros apart.

## Rounding

`roundQuotient` takes a quotient of natural numbers to the nearest binary64 number, a tie going to
the even coefficient. Products and quotients of binary64 numbers are rounded the same way.
-/

namespace UrlCalculus

/-- A finite binary64 number, in units of `2⁻¹⁰⁷⁴`. -/
structure Binary64 where
  negative : Bool
  coefficient : Nat
  shift : Nat
  /-- The coefficient is as long as the format and the exponent range allow. -/
  canonical : coefficient < 1 <<< 53 ∧ (shift = 0 ∨ 1 <<< 52 ≤ coefficient) ∧ shift ≤ 2045
deriving DecidableEq

namespace Binary64

/-- The number of units `2⁻¹⁰⁷⁴` in one. -/
def unitsPerOne : Nat := 1 <<< 1074

/-- The magnitude, counted in units of `2⁻¹⁰⁷⁴`. -/
def units (x : Binary64) : Nat := x.coefficient <<< x.shift

def isZero (x : Binary64) : Bool := x.coefficient == 0

/-- Equality of the denoted reals: the sign of a zero does not count. -/
def same (x y : Binary64) : Bool :=
  (x.isZero && y.isZero) ||
    (x.negative == y.negative && x.coefficient == y.coefficient && x.shift == y.shift)

/-- The number with the given fields, when they are canonical. -/
def ofFields? (negative : Bool) (coefficient shift : Nat) : Option Binary64 :=
  if h : coefficient < 1 <<< 53 ∧ (shift = 0 ∨ 1 <<< 52 ≤ coefficient) ∧ shift ≤ 2045 then
    some ⟨negative, coefficient, shift, h⟩
  else
    none

def zero (negative : Bool) : Binary64 :=
  ⟨negative, 0, 0, by decide⟩

/-- Change the sign to the given one. -/
def withSign (negative : Bool) (x : Binary64) : Binary64 :=
  { x with negative }

/-! ## Rounding -/

/-- The integer nearest to `a / b`; of two nearest ones, the even one. -/
def roundHalfEven (a b : Nat) : Nat :=
  let q := a / b
  let r := a % b
  if b < 2 * r ∨ (2 * r = b ∧ q % 2 = 1) then q + 1 else q

/-- The nonnegative binary64 number nearest to `units` quotients `a / b` of the least positive
number, or `none` when the quotient is too large for the format. -/
def roundUnits (a b : Nat) : Option Binary64 :=
  let shift := Nat.log2 (a / b) - 52
  let coefficient := roundHalfEven a (b <<< shift)
  if coefficient = 1 <<< 53 then ofFields? false (1 <<< 52) (shift + 1)
  else ofFields? false coefficient shift

/-- The nonnegative binary64 number nearest to `a / b`. -/
def roundQuotient (a b : Nat) : Option Binary64 :=
  roundUnits (a * unitsPerOne) b

/-- The binary64 number nearest to a natural number. -/
def ofNat? (n : Nat) : Option Binary64 :=
  roundQuotient n 1

/-- The rounded product of two magnitudes. -/
def mul? (x y : Binary64) : Option Binary64 :=
  roundUnits (x.units * y.units) unitsPerOne

/-- The rounded quotient of two magnitudes. -/
def div? (x y : Binary64) : Option Binary64 :=
  roundUnits (x.units * unitsPerOne) y.units

/-! ## Decimal literals

A literal is an integer significand and a power of ten. The significand is rounded first and the
scaled value a second time; powers of ten beyond `10³⁰⁸` are applied in steps. -/

/-- Divide a magnitude by `10 ^ e`, at most 308 places at a time. -/
def divPow10 (x : Binary64) (e : Nat) : Option Binary64 := do
  if x.isZero then
    return x
  else if h : e ≤ 308 then
    x.div? (← ofNat? (Nat.pow 10 e))
  else
    divPow10 (← x.div? (← ofNat? (Nat.pow 10 308))) (e - 308)
termination_by e

/-- Multiply a magnitude by `10 ^ e`; `none` when the product is out of range. -/
def mulPow10 (x : Binary64) (e : Nat) : Option Binary64 := do
  if x.isZero then
    return x
  else if e ≤ 308 then
    x.mul? (← ofNat? (Nat.pow 10 e))
  else
    none

/-- The value of a literal: `± significand · 10 ^ exponent`. -/
def ofDecimal? (negative : Bool) (significand : Nat) (exponent : Int) : Option Binary64 := do
  let x ← ofNat? significand
  let y ← match exponent with
    | .ofNat e => x.mulPow10 e
    | .negSucc e => x.divPow10 (e + 1)
  return y.withSign negative

end Binary64

end UrlCalculus
