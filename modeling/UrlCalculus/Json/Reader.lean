import UrlCalculus.Json.Value
import UrlCalculus.Text.Digits

/-!
# Reading JSON

A recursive descent over the characters of a text. Every function returns what it read together
with the characters that are left, and `none` where the text is not JSON. Nested values are read
with a budget; the length of the text is always enough, since a value inside another one starts
after at least one character.

When an object repeats a key, the later value stands in the place of the earlier one.
-/

namespace UrlCalculus

namespace Json

def isBlank (c : Char) : Bool :=
  c == ' ' || c == '\n' || c == '\r' || c == '\t'

def skipBlanks (cs : List Char) : List Char :=
  cs.dropWhile isBlank

/-- Remove an expected text from the front. -/
def expect? : List Char → List Char → Option (List Char)
  | [], cs => some cs
  | e :: es, c :: cs => if e = c then expect? es cs else none
  | _ :: _, [] => none

/-! ## Strings -/

/-- The number written by four hexadecimal digits. -/
def hexQuad? : List Char → Option (Nat × List Char)
  | a :: b :: c :: d :: rest => do
    let a ← Text.hexDigitValue? a
    let b ← Text.hexDigitValue? b
    let c ← Text.hexDigitValue? c
    let d ← Text.hexDigitValue? d
    return (((a * 16 + b) * 16 + c) * 16 + d, rest)
  | _ => none

/-- The character of a UTF-16 unit, or of a surrogate pair whose second unit is escaped next. -/
def unicodeEscape? (unit : Nat) (rest : List Char) : Option (Char × List Char) :=
  if 0xD800 ≤ unit ∧ unit < 0xDC00 then
    match rest with
    | '\\' :: 'u' :: rest => do
      let (low, rest) ← hexQuad? rest
      if 0xDC00 ≤ low ∧ low < 0xE000 then
        return (Char.ofNat (0x10000 + (unit - 0xD800) * 0x400 + (low - 0xDC00)), rest)
      else
        none
    | _ => none
  else if 0xDC00 ≤ unit ∧ unit < 0xE000 then none
  else some (Char.ofNat unit, rest)

/-- The character written by an escape, after its backslash. -/
def escape? : List Char → Option (Char × List Char)
  | '"' :: rest => some ('"', rest)
  | '\\' :: rest => some ('\\', rest)
  | '/' :: rest => some ('/', rest)
  | 'b' :: rest => some ('\x08', rest)
  | 'f' :: rest => some ('\x0c', rest)
  | 'n' :: rest => some ('\n', rest)
  | 'r' :: rest => some ('\r', rest)
  | 't' :: rest => some ('\t', rest)
  | 'u' :: rest => do
    let (unit, rest) ← hexQuad? rest
    unicodeEscape? unit rest
  | _ => none

/-- The characters up to the closing quote, in reverse in front of `read`. -/
def quotedBody? : Nat → List Char → List Char → Option (List Char × List Char)
  | 0, _, _ => none
  | budget + 1, read, cs =>
    match cs with
    | '"' :: rest => some (read.reverse, rest)
    | '\\' :: rest => do
      let (c, rest) ← escape? rest
      quotedBody? budget (c :: read) rest
    | c :: rest => if c.toNat < 32 then none else quotedBody? budget (c :: read) rest
    | [] => none

/-- A string, from its opening quote on. -/
def string? (cs : List Char) : Option (String × List Char) := do
  let rest ← expect? ['"'] cs
  let (body, rest) ← quotedBody? cs.length [] rest
  return (String.ofList body, rest)

/-! ## Numbers -/

def digitValues (cs : List Char) : List Nat :=
  cs.map fun c ↦ c.toNat - '0'.toNat

/-- The leading digits and the rest. -/
def digits (cs : List Char) : List Nat × List Char :=
  (digitValues (cs.takeWhile Char.isDigit), cs.dropWhile Char.isDigit)

/-- One digit at least; a whole part begins with zero only when it is zero. -/
def whole? (cs : List Char) : Option (List Nat × List Char) :=
  match digits cs with
  | ([], _) => none
  | (0 :: _ :: _, _) => none
  | (ds, rest) => some (ds, rest)

def fraction? (cs : List Char) : Option (Option (List Nat) × List Char) :=
  match cs with
  | '.' :: rest =>
    match digits rest with
    | ([], _) => none
    | (ds, rest) => some (some ds, rest)
  | _ => some (none, cs)

def exponentSign (cs : List Char) : Bool × List Char :=
  match cs with
  | '-' :: rest => (true, rest)
  | '+' :: rest => (false, rest)
  | _ => (false, cs)

def exponent? (cs : List Char) : Option (Option Int × List Char) :=
  match cs with
  | c :: rest =>
    if c = 'e' ∨ c = 'E' then
      let (negative, rest) := exponentSign rest
      match digits rest with
      | ([], _) => none
      | (ds, rest) =>
        let n : Nat := ds.foldl (fun n d ↦ n * 10 + d) 0
        some (some (if negative then -(n : Int) else n), rest)
    else some (none, cs)
  | [] => some (none, cs)

def number? (cs : List Char) : Option (Number × List Char) := do
  let (negative, rest) := match cs with
    | '-' :: rest => (true, rest)
    | _ => (false, cs)
  let (whole, rest) ← whole? rest
  let (fraction, rest) ← fraction? rest
  let (exponent, rest) ← exponent? rest
  let n ← Number.ofLiteral? negative whole fraction exponent
  return (n, rest)

/-! ## Values -/

mutual

/-- A value, from its first character on. -/
def value? : Nat → List Char → Option (Value × List Char)
  | 0, _ => none
  | budget + 1, cs =>
    match cs with
    | '"' :: _ => do
      let (s, rest) ← string? cs
      return (.string s, rest)
    | '[' :: rest =>
      match skipBlanks rest with
      | ']' :: rest => some (.array [], rest)
      | rest => do
        let (items, rest) ← items? budget rest
        return (.array items, rest)
    | '\x7b' :: rest =>
      match skipBlanks rest with
      | '\x7d' :: rest => some (.object [], rest)
      | rest => do
        let (pairs, rest) ← entries? budget rest
        return (.object (Entries.ofPairs pairs), rest)
    | 'n' :: rest => do
      let rest ← expect? ['u', 'l', 'l'] rest
      return (.null, rest)
    | 't' :: rest => do
      let rest ← expect? ['r', 'u', 'e'] rest
      return (.bool true, rest)
    | 'f' :: rest => do
      let rest ← expect? ['a', 'l', 's', 'e'] rest
      return (.bool false, rest)
    | _ => do
      let (n, rest) ← number? cs
      return (.number n, rest)

/-- One item at least, and the closing bracket. -/
def items? : Nat → List Char → Option (List Value × List Char)
  | 0, _ => none
  | budget + 1, cs => do
    let (item, rest) ← value? budget (skipBlanks cs)
    match skipBlanks rest with
    | ',' :: rest =>
      let (items, rest) ← items? budget rest
      return (item :: items, rest)
    | ']' :: rest => return ([item], rest)
    | _ => none

/-- One entry at least, and the closing brace. -/
def entries? : Nat → List Char → Option (List (String × Value) × List Char)
  | 0, _ => none
  | budget + 1, cs => do
    let (key, rest) ← string? (skipBlanks cs)
    let rest ← expect? [':'] (skipBlanks rest)
    let (item, rest) ← value? budget (skipBlanks rest)
    match skipBlanks rest with
    | ',' :: rest =>
      let (pairs, rest) ← entries? budget rest
      return ((key, item) :: pairs, rest)
    | '\x7d' :: rest => return ([(key, item)], rest)
    | _ => none

end

end Json

/-- The value written by a text, if the whole text is one. -/
def Value.ofText? (text : String) : Option Value := do
  let cs := Json.skipBlanks text.toList
  let (value, rest) ← Json.value? (2 * cs.length + 2) cs
  if (Json.skipBlanks rest).isEmpty then some value else none

end UrlCalculus
