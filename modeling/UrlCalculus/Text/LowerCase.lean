import UrlCalculus.Text.CaseData
import UrlCalculus.Text.Pieces

/-!
# Lower case

The lower-case form of a text. Nearly every character has a form that does not depend on where it
stands. Two do not follow the table: a capital I with a dot keeps the dot as a combining mark, and a
capital sigma has another form at the end of a word than elsewhere. A sigma is at the end of a word
when, characters that may stand inside a word passed over, a cased character comes before it and
none after it.
-/

namespace UrlCalculus

namespace CaseRange

/-- Whether a character belongs to a range. -/
def covers (r : CaseRange) (n : Nat) : Bool :=
  r.first ≤ n && n ≤ r.last && (n - r.first) % r.step == 0

end CaseRange

namespace Text

def isCased (c : Char) : Bool := inRanges CaseData.casedRanges c

def isCaseIgnorable (c : Char) : Bool := inRanges CaseData.caseIgnorableRanges c

/-- The lower-case form of a character that has just one. -/
def lowerChar (c : Char) : Char :=
  match CaseData.lowerRanges.find? fun r ↦ r.covers c.toNat with
  | some r => Char.ofNat (r.lower + (c.toNat - r.first))
  | none => c

def capitalSigma : Char := '\u03a3'

/-- Whether the first character that counts, going on from here, is cased. -/
def casedNext (t : Text) : Bool :=
  match t.dropWhile isCaseIgnorable with
  | [] => false
  | c :: _ => isCased c

/-- The form of a capital sigma between what comes before it, in reverse, and what comes after. -/
def lowerSigma (before after : Text) : Char :=
  if casedNext before && !casedNext after then '\u03c2' else '\u03c3'

/-- The lower-case form of a character in its place. -/
def lowerAt (before : Text) (c : Char) (after : Text) : Text :=
  if c = capitalSigma then [lowerSigma before after]
  else if c = '\u0130' then ['i', '\u0307']
  else [lowerChar c]

/-- The lower-case form of a text that follows another one, which is given in reverse. -/
def lowerFrom (before : Text) : Text → Text
  | [] => []
  | c :: after => lowerAt before c after ++ lowerFrom (c :: before) after

/-- The lower-case form of a text. -/
def lower (t : Text) : Text := lowerFrom [] t

end Text

/-- The lower-case form of a string. -/
def lowerString (s : String) : String := String.ofList (Text.lower s.toList)

end UrlCalculus
