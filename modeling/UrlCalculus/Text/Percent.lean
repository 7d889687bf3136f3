import UrlCalculus.Text.Digits
import UrlCalculus.Text.Utf8

/-!
# Percent-encoding

A character of an encode set is replaced by its UTF-8 bytes, each written as a percent sign and two
upper-case hexadecimal digits. The percent sign itself is in no set, so text that is encoded
already stays as it is. Decoding replaces every percent sign that two hexadecimal digits follow.
-/

namespace UrlCalculus

/-- A set of characters that have to be percent-encoded in some part of a URL. -/
abbrev EncodeSet := Char → Bool

namespace EncodeSet

/-- The controls, and every character outside ASCII. -/
def controls : EncodeSet := fun c ↦ c.toNat < 0x20 || 0x7F ≤ c.toNat

/-- A set with further characters. -/
def adding (set : EncodeSet) (more : List Char) : EncodeSet := fun c ↦ set c || more.contains c

def fragment : EncodeSet := controls.adding [' ', '"', '<', '>', '\x60']

def query : EncodeSet := controls.adding [' ', '"', '#', '<', '>']

/-- For the query of a special URL. -/
def specialQuery : EncodeSet := query.adding ['\'']

def path : EncodeSet := fragment.adding ['#', '?', '\x7b', '\x7d']

/-- For user names and passwords. -/
def userinfo : EncodeSet :=
  path.adding ['/', ':', ';', '=', '@', '[', '\\', ']', '^', '|']

end EncodeSet

namespace Text

def percentByte (b : UInt8) : Text :=
  ['%', hexDigit (b.toNat / 16), hexDigit (b.toNat % 16)]

/-- Encode the characters of a set. -/
def percentEncode (set : EncodeSet) (t : Text) : Text :=
  t.flatMap fun c ↦ if set c then (String.utf8EncodeChar c).flatMap percentByte else [c]

/-- The bytes of a text, encoded ones decoded. -/
def percentDecode : Text → List UInt8
  | '%' :: a :: b :: rest =>
    match hexDigitValue? a, hexDigitValue? b with
    | some a, some b => UInt8.ofNat (a * 16 + b) :: percentDecode rest
    | _, _ => 0x25 :: percentDecode (a :: b :: rest)
  | c :: rest => String.utf8EncodeChar c ++ percentDecode rest
  | [] => []

end Text

end UrlCalculus
