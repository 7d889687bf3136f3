import UrlCalculus.Text.Digits

/-!
# Range tables

A property of characters as a table of ranges, each with a note. A table is written in lines: in
each line entries are separated by spaces, and an entry is the first character, the last one behind
a hyphen unless it is the same, and the note. Characters are numbers in base sixteen with capital
digits, so a note begins with any other character. A character that no range covers has no note.
-/

namespace UrlCalculus

structure RangeEntry where
  first : Nat
  last : Nat
  note : Text

abbrev RangeTable := List RangeEntry

namespace RangeEntry

def isNumberDigit (c : Char) : Bool := c.isDigit || ('A' ≤ c && c ≤ 'F')

/-- The number at the front of a text and the rest. -/
def readNumber (t : Text) : Nat × Text :=
  ((Text.number? 16 (t.takeWhile isNumberDigit)).getD 0, t.dropWhile isNumberDigit)

def ofText (t : Text) : RangeEntry :=
  let (first, rest) := readNumber t
  match rest with
  | '-' :: rest => let (last, note) := readNumber rest; ⟨first, last, note⟩
  | note => ⟨first, first, note⟩

def covers (e : RangeEntry) (c : Char) : Bool :=
  e.first ≤ c.toNat && c.toNat ≤ e.last

end RangeEntry

namespace RangeTable

def ofLines (lines : List String) : RangeTable :=
  lines.flatMap fun line ↦ (Text.pieces (· == ' ') line.toList).map RangeEntry.ofText

/-- The range that a character lies in. -/
def range? (table : RangeTable) (c : Char) : Option RangeEntry :=
  table.find? fun e ↦ e.covers c

/-- The letter that a character is noted with. -/
def letter? (table : RangeTable) (c : Char) : Option Char :=
  (range? table c).bind fun e ↦ e.note.head?

/-- The characters whose numbers stand in a note, separated by commas. -/
def characters (note : Text) : Text :=
  (Text.pieces (· == ',') note).filterMap fun t ↦ (Text.number? 16 t).map Char.ofNat

end RangeTable

end UrlCalculus
