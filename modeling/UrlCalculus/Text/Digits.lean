import UrlCalculus.Text.Pieces

/-!
# Digits

Numbers written in base eight, ten and sixteen, and the digits of numbers. A digit is one of the
ASCII characters, whatever else counts as a digit elsewhere.
-/

namespace UrlCalculus

namespace Text

/-- The value of a digit in base sixteen, of either case. -/
def hexDigitValue? (c : Char) : Option Nat :=
  if '0' ≤ c ∧ c ≤ '9' then some (c.toNat - '0'.toNat)
  else if 'a' ≤ c ∧ c ≤ 'f' then some (c.toNat - 'a'.toNat + 10)
  else if 'A' ≤ c ∧ c ≤ 'F' then some (c.toNat - 'A'.toNat + 10)
  else none

/-- The value of a digit in a base of at most sixteen. -/
def digitValue? (base : Nat) (c : Char) : Option Nat :=
  (hexDigitValue? c).filter (· < base)

/-- The number that digits denote after digits that denote `n`. -/
def numberFrom? (base n : Nat) : Text → Option Nat
  | [] => some n
  | c :: cs => do
    let d ← digitValue? base c
    numberFrom? base (n * base + d) cs

/-- The number that at least one digit denotes. -/
def number? (base : Nat) (t : Text) : Option Nat :=
  if t.isEmpty then none else numberFrom? base 0 t

/-- The upper-case hexadecimal digit of a number below sixteen. -/
def hexDigit (n : Nat) : Char :=
  if n < 10 then Char.ofNat ('0'.toNat + n) else Char.ofNat ('A'.toNat + (n - 10))

/-- A number in base ten, without leading zeros. -/
def decimal (n : Nat) : Text := Nat.toDigits 10 n

/-- A number in base sixteen, in lower case and without leading zeros. -/
def hexadecimal (n : Nat) : Text := Nat.toDigits 16 n

end Text

end UrlCalculus
