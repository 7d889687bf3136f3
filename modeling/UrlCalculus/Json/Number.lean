import UrlCalculus.Json.Shortest

/-!
# JSON numbers

A number is of one of three kinds, and the kind belongs to its value: a natural number below `2⁶⁴`,
a negative integer from `-2⁶³` on, or a binary64 number. Whatever is written with a fraction or an
exponent is of the third kind, and so are the integers out of range and `-0`. Numbers of different
kinds are never equal.
-/

namespace UrlCalculus

inductive Number where
  | natural (value : Nat) (inRange : value < 1 <<< 64)
  /-- The integer `-(pred + 1)`. -/
  | negative (pred : Nat) (inRange : pred < 1 <<< 63)
  | binary (value : Binary64)
deriving DecidableEq

namespace Number

/-- Equality of kind and value. -/
def same : Number → Number → Bool
  | .natural m _, .natural n _ => m == n
  | .negative m _, .negative n _ => m == n
  | .binary x, .binary y => x.same y
  | _, _ => false

def isZero : Number → Bool
  | .natural n _ => n == 0
  | .negative _ _ => false
  | .binary x => x.isZero

def text : Number → String
  | .natural n _ => toString n
  | .negative n _ => "-" ++ toString (n + 1)
  | .binary x => x.text

/-! ## Literals

Of the digits of a literal only so many leading ones count as keep the significand below `2⁶⁴`. The
digits dropped from the whole part move the exponent, those dropped from the fraction do not. -/

/-- Append a digit to a significand, if the result stays below `2⁶⁴`. -/
def appendDigit? (significand digit : Nat) : Option Nat :=
  if significand * 10 + digit < 1 <<< 64 then some (significand * 10 + digit) else none

/-- The significand of a whole part, and the number of digits dropped from its end. -/
def wholeDigits (significand : Nat) : List Nat → Nat × Nat
  | [] => (significand, 0)
  | d :: rest =>
    match appendDigit? significand d with
    | some s => wholeDigits s rest
    | none => (significand, rest.length + 1)

/-- The significand continued by a fraction, and the number of digits appended. -/
def fractionDigits (significand : Nat) : List Nat → Nat × Nat
  | [] => (significand, 0)
  | d :: rest =>
    match appendDigit? significand d with
    | some s => let (t, n) := fractionDigits s rest; (t, n + 1)
    | none => (significand, 0)

/-- The value of a literal from the digits of its whole part, and of its fraction and its exponent
if it has them. -/
def ofLiteral? (negative : Bool) (whole : List Nat) (fraction : Option (List Nat))
    (exponent : Option Int) : Option Number :=
  let (significand, dropped) := wholeDigits 0 whole
  let asBinary (s : Nat) (e : Int) := (Binary64.ofDecimal? negative s e).map Number.binary
  match fraction, exponent with
  | none, none =>
    match negative, significand with
    | false, n => if h : n < 1 <<< 64 ∧ dropped = 0 then some (.natural n h.1) else asBinary n dropped
    | true, 0 => asBinary 0 0
    | true, n + 1 =>
      if h : n < 1 <<< 63 ∧ dropped = 0 then some (.negative n h.1) else asBinary (n + 1) dropped
  | _, _ =>
    let (s, appended) := fractionDigits significand (fraction.getD [])
    asBinary s ((dropped : Int) - appended + exponent.getD 0)

end Number

end UrlCalculus
