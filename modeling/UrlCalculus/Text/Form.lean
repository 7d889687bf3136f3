import UrlCalculus.Text.Percent

/-!
# Form encoding

The query of a URL, read as pairs of a name and a value. Pairs are separated by `&`, the name ends
at the first `=`; a plus sign stands for a space, and both parts are percent-encoded. Empty pieces
between separators are no pairs. Reading what `formEncode` wrote gives the pairs back.
-/

namespace UrlCalculus

namespace Text

/-- The characters that a form leaves as they are. -/
def isFormLiteral (c : Char) : Bool :=
  c.isAlphanum || c == '*' || c == '-' || c == '.' || c == '_'

def formEncodeChar (c : Char) : Text :=
  if isFormLiteral c then [c]
  else if c = ' ' then ['+']
  else (String.utf8EncodeChar c).flatMap percentByte

/-- A name or a value in a form. -/
def formEncodePart (t : Text) : Text :=
  t.flatMap formEncodeChar

def formEncodePair (pair : Text × Text) : Text :=
  formEncodePart pair.1 ++ '=' :: formEncodePart pair.2

/-- The form of a list of pairs. -/
def formEncode (pairs : List (Text × Text)) : Text :=
  join '&' (pairs.map formEncodePair)

/-- The name or value that a part of a form stands for. -/
def formDecodePart (t : Text) : Text :=
  ofUtf8Lossy (percentDecode (t.map fun c ↦ if c = '+' then ' ' else c))

def formDecodePair (piece : Text) : Text × Text :=
  let (name, value) := cut (· == '=') piece
  (formDecodePart name, formDecodePart (value.getD []))

/-- The pairs of a form, in order. -/
def formDecode (t : Text) : List (Text × Text) :=
  ((pieces (· == '&') t).filter (· ≠ [])).map formDecodePair

end Text

end UrlCalculus
