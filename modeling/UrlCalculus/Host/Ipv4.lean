import UrlCalculus.Text.Digits

/-!
# IPv4 addresses

A host is an IPv4 address when its last label is a number. Up to four numbers, each decimal, octal
after a leading zero or hexadecimal after `0x`, stand for the address: all but the last for one
byte each, the last for all bytes that remain.
-/

namespace UrlCalculus

structure Ipv4 where
  bits : Nat
  inRange : bits < 1 <<< 32
deriving DecidableEq

namespace Ipv4

/-- The value of one number; `0x` alone is zero. -/
def number? : Text → Option Nat
  | '0' :: 'x' :: digits => Text.numberFrom? 16 0 digits
  | '0' :: 'X' :: digits => Text.numberFrom? 16 0 digits
  | '0' :: d :: digits => Text.number? 8 (d :: digits)
  | t => Text.number? 10 t

/-- The labels of a host, without an empty one at its end. -/
def labels (host : Text) : List Text :=
  let parts := Text.pieces (· == '.') host
  if parts.getLast? = some [] then parts.dropLast else parts

/-- Whether the last label of a host makes it an IPv4 address, well formed or not. -/
def endsInNumber (host : Text) : Bool :=
  match (labels host).getLast? with
  | none => false
  | some label => (!label.isEmpty && label.all Char.isDigit) || (number? label).isSome

/-- The value of numbers, of which the first is a byte with `place` bytes behind it unless it is
the last, which stands for all bytes that remain. -/
def weigh (place : Nat) : List Nat → Nat
  | [] => 0
  | [last] => last
  | byte :: rest => byte <<< (8 * place) + weigh (place - 1) rest

/-- Whether every number but the last is a byte, and the last fits the bytes that remain. -/
def fits (room : Nat) : List Nat → Bool
  | [] => false
  | [last] => decide (0 < room ∧ last < 1 <<< (8 * room))
  | byte :: rest => decide (byte < 256) && fits (room - 1) rest

/-- The address written by one to four numbers. -/
def ofNumbers? (numbers : List Nat) : Option Ipv4 :=
  if h : fits 4 numbers ∧ weigh 3 numbers < 1 <<< 32 then some ⟨weigh 3 numbers, h.2⟩ else none

def parse? (host : Text) : Option Ipv4 := do
  ofNumbers? (← (labels host).mapM number?)

/-- The four bytes, most significant first. -/
def bytes (a : Ipv4) : List Nat :=
  [a.bits >>> 24, a.bits >>> 16 % 256, a.bits >>> 8 % 256, a.bits % 256]

def text (a : Ipv4) : Text :=
  Text.join '.' (a.bytes.map Text.decimal)

end Ipv4

end UrlCalculus
