import UrlCalculus.Text.Pieces

/-!
# Breaks

Tabs and line breaks count for nothing nearly everywhere in a URL, so that a long one can be written
over several lines. `withoutBreaks` drops them, and `next?` looks past them for a character that
counts.
-/

namespace UrlCalculus

namespace Text

def isBreak (c : Char) : Bool := c == '\t' || c == '\n' || c == '\r'

def withoutBreaks (t : Text) : Text := t.filter fun c ↦ !isBreak c

@[simp]
theorem withoutBreaks_nil : withoutBreaks [] = [] := rfl

theorem withoutBreaks_cons (c : Char) (t : Text) :
    withoutBreaks (c :: t) = if isBreak c then withoutBreaks t else c :: withoutBreaks t := by
  cases h : isBreak c <;> simp [withoutBreaks, h]

/-- The first character that counts, and all that stands behind it. -/
def next? : Text → Option (Char × Text)
  | [] => none
  | c :: t => if isBreak c then next? t else some (c, t)

end Text

end UrlCalculus
