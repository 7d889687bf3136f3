import UrlCalculus.Text.NormalTables

/-!
# Composed form

Of the several ways to write a letter with marks, the composed form uses the fewest characters. A
text is put into it in three steps: every character is taken apart completely, the marks behind each
letter are put into the order of their classes, and then letters and marks are composed as far as
possible. A mark is composed with the letter in front of it unless a mark of the same or a higher
class, or another letter, stands between them.

Hangul syllables are composed of their parts by calculation.
-/

namespace UrlCalculus

namespace Text

/-! ## Hangul syllables -/

def hangulBase : Nat := 0xAC00
def leadingBase : Nat := 0x1100
def vowelBase : Nat := 0x1161
def trailingBase : Nat := 0x11A7
def vowelCount : Nat := 21
def trailingCount : Nat := 28
def leadingCount : Nat := 19

/-- The parts of a syllable. -/
def hangulParts? (c : Char) : Option Text :=
  let n := c.toNat - hangulBase
  if hangulBase ≤ c.toNat ∧ n < leadingCount * vowelCount * trailingCount then
    let leading := leadingBase + n / (vowelCount * trailingCount)
    let vowel := vowelBase + n % (vowelCount * trailingCount) / trailingCount
    let trailing := n % trailingCount
    some (Char.ofNat leading :: Char.ofNat vowel ::
      if trailing = 0 then [] else [Char.ofNat (trailingBase + trailing)])
  else
    none

/-- The syllable of a leading consonant and a vowel, or of such a syllable and a trailing one. -/
def composeHangul? (a b : Char) : Option Char :=
  let l := a.toNat - leadingBase
  let v := b.toNat - vowelBase
  let s := a.toNat - hangulBase
  let t := b.toNat - trailingBase
  if leadingBase ≤ a.toNat ∧ l < leadingCount ∧ vowelBase ≤ b.toNat ∧ v < vowelCount then
    some (Char.ofNat (hangulBase + (l * vowelCount + v) * trailingCount))
  else if hangulBase ≤ a.toNat ∧ s < leadingCount * vowelCount * trailingCount ∧
      s % trailingCount = 0 ∧ 0 < t ∧ t < trailingCount ∧ trailingBase ≤ b.toNat then
    some (Char.ofNat (a.toNat + t))
  else
    none

/-! ## Taking apart -/

/-- The characters that a character is made up of; `depth` bounds the levels. -/
def decomposeChar : Nat → Char → Text
  | 0, c => [c]
  | depth + 1, c =>
    match hangulParts? c with
    | some parts => parts
    | none =>
      match decompositions.range? c with
      | some e => (RangeTable.characters (e.note.drop 1)).flatMap (decomposeChar depth)
      | none => [c]

/-- No character is made up of others on more than four levels. -/
def decompose (t : Text) : Text := t.flatMap (decomposeChar 4)

/-! ## Order of marks -/

/-- The class of a mark; letters have class zero. -/
def combiningClass (c : Char) : Nat :=
  match combiningClasses.range? c with
  | some e => (Text.number? 16 (e.note.drop 1)).getD 0
  | none => 0

/-- Put a mark behind the marks in front of which it may not stand. -/
def insertMark (c : Char) : Text → Text
  | [] => [c]
  | d :: rest =>
    if combiningClass d ≠ 0 ∧ combiningClass d < combiningClass c then d :: insertMark c rest
    else c :: d :: rest

/-- Sort the marks behind each letter by class, keeping the order within a class. -/
def sortMarks : Text → Text
  | [] => []
  | c :: rest =>
    if combiningClass c = 0 then c :: sortMarks rest else insertMark c (sortMarks rest)

/-! ## Composing -/

/-- The character that a pair composes to. -/
def composePair? (a b : Char) : Option Char :=
  match composeHangul? a b with
  | some c => some c
  | none =>
    (decompositions.find? fun e ↦
      e.note.head? = some '=' && RangeTable.characters (e.note.drop 1) = [a, b]).map
      fun e ↦ Char.ofNat e.first

/-- Compose what follows with a letter. `kept` holds, in reverse, the marks behind the letter that
did not compose with it, and `lastClass` the class of the last of them. -/
def composeFrom (letter : Char) (kept : Text) (lastClass : Option Nat) : Text → Text
  | [] => letter :: kept.reverse
  | c :: rest =>
    let k := combiningClass c
    let blocked := match lastClass with
      | none => false
      | some l => k = 0 || k ≤ l
    match if blocked then none else composePair? letter c with
    | some composed => composeFrom composed kept lastClass rest
    | none =>
      if k = 0 then letter :: kept.reverse ++ composeFrom c [] none rest
      else composeFrom letter (c :: kept) (some k) rest

/-- Compose letters with the marks behind them. -/
def compose : Text → Text
  | [] => []
  | c :: rest => if combiningClass c = 0 then composeFrom c [] none rest else c :: compose rest

/-- The composed form of a text. -/
def composed (t : Text) : Text := compose (sortMarks (decompose t))

end Text

end UrlCalculus
