import UrlCalculus.Text.Digits

/-!
# IPv6 addresses

Eight pieces of sixteen bits, written in base sixteen between colons. One double colon may stand
for a run of zero pieces, at least one; the last two pieces may be written as an IPv4 address. In
the written form the first longest run of two or more zeros is the one that is left out.
-/

namespace UrlCalculus

structure Ipv6 where
  pieces : List Nat
  wellFormed : pieces.length = 8 ∧ ∀ p ∈ pieces, p < 1 <<< 16
deriving DecidableEq

namespace Ipv6

def ofPieces? (pieces : List Nat) : Option Ipv6 :=
  if h : pieces.length = 8 ∧ ∀ p ∈ pieces, p < 1 <<< 16 then some ⟨pieces, h⟩ else none

/-! ## Reading -/

/-- One piece: one to four digits. -/
def piece? (t : Text) : Option Nat :=
  if t.length ≤ 4 then Text.number? 16 t else none

/-- A byte in base ten without leading zeros. -/
def byte? (t : Text) : Option Nat := do
  let n ← Text.number? 10 t
  if n < 256 ∧ Text.decimal n = t then some n else none

/-- Two pieces written as an IPv4 address. -/
def embeddedIpv4? (t : Text) : Option (List Nat) := do
  match ← (Text.pieces (· == '.') t).mapM byte? with
  | [a, b, c, d] => some [a * 256 + b, c * 256 + d]
  | _ => none

/-- The pieces of a part between double colons, of which the last may be an IPv4 address if that is
allowed. -/
def partPieces? (ipv4Allowed : Bool) : List Text → Option (List Nat)
  | [] => some []
  | [t] =>
    match piece? t with
    | some p => some [p]
    | none => if ipv4Allowed then embeddedIpv4? t else none
  | t :: rest => do
    let p ← piece? t
    let ps ← partPieces? ipv4Allowed rest
    return p :: ps

def part? (ipv4Allowed : Bool) (t : Text) : Option (List Nat) :=
  if t.isEmpty then some [] else partPieces? ipv4Allowed (Text.pieces (· == ':') t)

/-- Cut at the first double colon. -/
def cutDoubleColon? : Text → Option (Text × Text)
  | ':' :: ':' :: rest => some ([], rest)
  | c :: rest => (cutDoubleColon? rest).map fun (front, back) ↦ (c :: front, back)
  | [] => none

def parse? (t : Text) : Option Ipv6 :=
  match cutDoubleColon? t with
  | some (front, back) => do
    let front ← part? false front
    let back ← part? true back
    if front.length + back.length ≤ 7 then
      ofPieces? (front ++ List.replicate (8 - front.length - back.length) 0 ++ back)
    else
      none
  | none => do ofPieces? (← part? true t)

/-! ## Writing -/

/-- The number of zeros in front. -/
def leadingZeros (pieces : List Nat) : Nat :=
  (pieces.takeWhile (· == 0)).length

/-- The start and the length of the first longest run of zeros. -/
def longestZeros : List Nat → Nat × Nat
  | [] => (0, 0)
  | p :: ps =>
    let (start, length) := longestZeros ps
    if leadingZeros (p :: ps) < length then (start + 1, length) else (0, leadingZeros (p :: ps))

def piecesText (pieces : List Nat) : Text :=
  Text.join ':' (pieces.map Text.hexadecimal)

def text (a : Ipv6) : Text :=
  let (start, length) := longestZeros a.pieces
  if length < 2 then piecesText a.pieces
  else piecesText (a.pieces.take start) ++ [':', ':'] ++ piecesText (a.pieces.drop (start + length))

end Ipv6

end UrlCalculus
