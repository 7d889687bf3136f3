import UrlCalculus.Text.Pieces

/-!
# Punycode

A label with characters outside ASCII, written in ASCII: its ASCII characters, a hyphen, and a
sequence of numbers that say where the others are inserted. The others are taken in ascending order,
and each number counts the positions passed over since the last insertion. Numbers are written in
base 36 with digits whose weights adapt to the numbers seen so far.
-/

namespace UrlCalculus

namespace Punycode

/-- The least digit that ends a number, at a place of a number. -/
def threshold (place bias : Nat) : Nat :=
  max 1 (min 26 (place - bias))

theorem one_le_threshold (place bias : Nat) : 1 ≤ threshold place bias :=
  Nat.le_max_left _ _

/-- Divide by 35 until the quotient is at most 455; each division raises the bias by 36. -/
def damp (delta : Nat) : Nat × Nat :=
  if delta ≤ 455 then (delta, 0)
  else
    let (rest, raised) := damp (delta / 35)
    (rest, raised + 36)
termination_by delta
decreasing_by exact Nat.div_lt_self (by omega) (by omega)

/-- The bias after a number, when the label has `length` characters. The first number is taken to be
much larger than those that follow. -/
def adapt (delta length : Nat) (isFirst : Bool) : Nat :=
  let scaled := delta / (if isFirst then 700 else 2)
  let (rest, raised) := damp (scaled + scaled / length)
  raised + 36 * rest / (rest + 38)

/-! ## Reading -/

def digitValue? (c : Char) : Option Nat :=
  if c.isLower then some (c.toNat - 'a'.toNat)
  else if c.isUpper then some (c.toNat - 'A'.toNat)
  else if c.isDigit then some (c.toNat - '0'.toNat + 26)
  else none

/-- A number and the rest: `value` is what its digits up to here stand for. -/
def readNumber? (bias place weight value : Nat) : Text → Option (Nat × Text)
  | [] => none
  | c :: rest => do
    let d ← digitValue? c
    let value := value + d * weight
    let t := threshold place bias
    if d < t then some (value, rest)
    else readNumber? bias (place + 36) (weight * (36 - t)) value rest

/-- Insert the characters that the rest of a label stands for. The next one is inserted at
`position` or later, and its number is `code` at least. -/
def insertAll? (code position bias : Nat) (label : Text) : Nat → Text → Option Text
  | _, [] => some label
  | 0, _ => none
  | budget + 1, t => do
    let (total, rest) ← readNumber? bias 36 1 position t
    let length := label.length + 1
    let code := code + total / length
    let place := total % length
    if code < 0x110000 ∧ ¬(0xD800 ≤ code ∧ code < 0xE000) then
      insertAll? code (place + 1) (adapt (total - position) length (position == 0))
        (label.take place ++ Char.ofNat code :: label.drop place) budget rest
    else
      none

/-- Cut at the last hyphen; without one, or with nothing in front of it, all is behind it. -/
def cutLastHyphen (t : Text) : Text × Text :=
  let back := (t.reverse.takeWhile (· != '-')).reverse
  let front := t.take (t.length - back.length - 1)
  if front.isEmpty then ([], t) else (front, back)

/-- The label that a text in ASCII stands for. -/
def decode? (t : Text) : Option Text :=
  let (label, numbers) := cutLastHyphen t
  if label.all fun c ↦ c.toNat < 0x80 then insertAll? 0x80 0 72 label numbers.length numbers
  else none

/-! ## Writing -/

def digit (d : Nat) : Char :=
  if d < 26 then Char.ofNat ('a'.toNat + d) else Char.ofNat ('0'.toNat + (d - 26))

/-- The digits of a number, from a place on. -/
def writeNumber (bias place n : Nat) : Text :=
  let t := threshold place bias
  if _h : n < t then [digit n]
  else digit (t + (n - t) % (36 - t)) :: writeNumber bias (place + 36) ((n - t) / (36 - t))
termination_by n
decreasing_by
  have := one_le_threshold place bias
  exact Nat.lt_of_le_of_lt (Nat.div_le_self _ _) (by omega)

/-- How far a label has been written: the positions passed over, the characters handled, and the
text so far. -/
structure Progress where
  delta : Nat
  handled : Nat
  bias : Nat
  written : Text

/-- Pass over a character, or write it down if it is the one whose turn it is. -/
def Progress.visit (basic code : Nat) (p : Progress) (c : Char) : Progress :=
  if c.toNat < code then { p with delta := p.delta + 1 }
  else if c.toNat = code then
    { delta := 0
      handled := p.handled + 1
      bias := adapt p.delta (p.handled + 1) (p.handled == basic)
      written := p.written ++ writeNumber p.bias 36 p.delta }
  else p

/-- Write down the characters with the numbers in `codes`, which are ascending and not less than
`code`. -/
def writeCodes (t : Text) (basic code : Nat) (p : Progress) : List Nat → Text
  | [] => p.written
  | m :: rest =>
    let start := { p with delta := p.delta + (m - code) * (p.handled + 1) }
    let p := t.foldl (Progress.visit basic m) start
    writeCodes t basic (m + 1) { p with delta := p.delta + 1 } rest

/-- The numbers of the characters outside ASCII, ascending and each of them once. -/
def foreignCodes (t : Text) : List Nat :=
  ((t.map Char.toNat).filter (0x80 ≤ ·)).mergeSort.eraseReps

/-- A label in ASCII. -/
def encode (t : Text) : Text :=
  let basic := t.filter fun c ↦ c.toNat < 0x80
  let written := if basic.isEmpty then [] else basic ++ ['-']
  writeCodes t basic.length 0x80 ⟨0, basic.length, 72, written⟩ (foreignCodes t)

end Punycode

end UrlCalculus
