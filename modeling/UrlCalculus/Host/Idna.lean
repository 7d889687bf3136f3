import UrlCalculus.Host.IdnaTables
import UrlCalculus.Host.Punycode
import UrlCalculus.Text.Normal

/-!
# Internationalized names

A name with characters outside ASCII is mapped character by character, composed, and cut into
labels. A label in encoded form is decoded, and has to be what its own mapping would give. Every
label is checked: it is not too long to encode, it does not begin with a mark, joiners stand only
where they have a meaning, and in a name with right-to-left characters each label has one direction.
What is not ASCII then is encoded.
-/

namespace UrlCalculus

namespace Idna

/-! ## Mapping -/

/-- The image of a character, none if it is not allowed. -/
def mapChar? (c : Char) : Option Text :=
  if c.toNat < 0x80 then some [c.toLower]
  else
    match mapping.range? c with
    | none => none
    | some e =>
      match e.note with
      | ['v'] => some [c]
      | ['i'] => some []
      | ['*'] => some [if (c.toNat - e.first) % 2 = 0 then Char.ofNat (c.toNat + 1) else c]
      | '+' :: image =>
        (Text.number? 16 image).map fun n ↦ [Char.ofNat (n + (c.toNat - e.first))]
      | '=' :: image => some (RangeTable.characters image)
      | _ => none

/-- The image of a text, in composed form. -/
def mapText? (t : Text) : Option Text :=
  (t.mapM mapChar?).map fun images ↦ Text.composed images.flatten

/-! ## Labels -/

def labels (t : Text) : List Text := Text.pieces (· == '.') t

def isAscii (t : Text) : Bool := t.all fun c ↦ c.toNat < 0x80

/-- The beginning of a label in encoded form. -/
def acePrefix : Text := ['x', 'n', '-', '-']

/-- The greatest number of characters that the encoded form of a label has behind its beginning. -/
def maxEncodedLength : Nat := 2000

/-- The greatest number of characters of a label that is not in ASCII. -/
def maxDecodedLength : Nat := 1000

/-- A label, decoded if it is encoded. -/
def decodeLabel? (label : Text) : Option Text :=
  if acePrefix.isPrefixOf label then do
    let encoded := label.drop acePrefix.length
    let t ← if encoded.length ≤ maxEncodedLength then Punycode.decode? encoded else none
    if isAscii t ∨ mapText? t ≠ some t then none else some t
  else
    some label

/-- A label in ASCII. -/
def encodeLabel (label : Text) : Text :=
  if isAscii label then label else acePrefix ++ Punycode.encode label

/-! ## Joiners -/

def nonJoiner : Char := '\u200c'
def joiner : Char := '\u200d'

/-- Marks that suppress a vowel are of this class. -/
def viramaClass : Nat := 9

/-- The joining letter of the first character that is not transparent. -/
def joiningNext (t : Text) : Option Char :=
  (t.dropWhile fun c ↦ joining.letter? c = some 't').head?.bind joining.letter?

/-- Whether a character may stand behind `before`, which is in reverse, and in front of `after`. -/
def joinerAllowed (before : Text) (c : Char) (after : Text) : Bool :=
  if c = joiner ∨ c = nonJoiner then
    (before.head?.map Text.combiningClass) = some viramaClass ||
      (c = nonJoiner && (joiningNext before = some 'l' || joiningNext before = some 'd') &&
        (joiningNext after = some 'r' || joiningNext after = some 'd'))
  else
    true

/-- Whether all joiners of a label behind `before` have a meaning. -/
def joinersAllowed (before : Text) : Text → Bool
  | [] => true
  | c :: after => joinerAllowed before c after && joinersAllowed (c :: before) after

def isMark (c : Char) : Bool := (marks.letter? c).isSome

/-- Whether a label can be part of a name of one direction. -/
def labelAllowed (label : Text) : Bool :=
  (isAscii label || decide (label.length ≤ maxDecodedLength)) &&
    !(label.head?.map isMark).getD false && joinersAllowed [] label

/-! ## Direction -/

/-- The class of a character for its direction; `l` where the table has none. -/
def direction (c : Char) : Char :=
  if c.toNat < 0x80 then
    if c.isDigit then 'e'
    else if c.isAlpha then 'l'
    else if c = '+' ∨ c = '-' then 's'
    else if c = '#' ∨ c = '$' ∨ c = '%' then 't'
    else if c = ',' ∨ c = '.' ∨ c = '/' ∨ c = ':' then 'c'
    else 'o'
  else
    (directions.letter? c).getD 'l'

/-- Whether a text has a character that is written from right to left. -/
def hasRightToLeft (t : Text) : Bool :=
  t.any fun c ↦ ['r', 'a', 'n'].contains (direction c)

/-- Whether a label of a name with right-to-left characters has one direction. -/
def hasOneDirection (label : Text) : Bool :=
  let ds := label.map direction
  match ds, (ds.reverse.dropWhile (· == 'm')).head? with
  | [], _ => true
  | first :: _, some last =>
    if first = 'r' ∨ first = 'a' then
      ds.all (['r', 'a', 'n', 'e', 's', 'c', 't', 'o', 'b', 'm'].contains ·) &&
        ['r', 'a', 'e', 'n'].contains last && !(ds.contains 'e' && ds.contains 'n')
    else
      first = 'l' && ds.all (['l', 'e', 's', 'c', 't', 'o', 'b', 'm'].contains ·) &&
        ['l', 'e'].contains last
  | _, none => false

/-! ## Names -/

/-- A name in ASCII, if it has such a form. -/
def toAscii? (t : Text) : Option Text := do
  let mapped ← mapText? t
  let decoded ← (labels mapped).mapM decodeLabel?
  if decoded.all labelAllowed && (!decoded.any hasRightToLeft || decoded.all hasOneDirection) then
    some (Text.join '.' (decoded.map encodeLabel))
  else
    none

end Idna

end UrlCalculus
