/-!
# Texts and their pieces

A text is a list of characters. `pieces p` cuts a text at every character that satisfies `p` and
drops the separators, so it has one piece more than there are separators, and joining the pieces of
a text that was cut at one character gives the text back.
-/

namespace UrlCalculus

/-- A text, character by character. -/
abbrev Text := List Char

namespace Text

/-- The longest parts without a separator, in order; there is always at least one. -/
def pieces (separates : Char → Bool) : Text → List Text
  | [] => [[]]
  | c :: cs =>
    if separates c then [] :: pieces separates cs
    else
      match pieces separates cs with
      | [] => [[c]]
      | p :: ps => (c :: p) :: ps

theorem pieces_ne_nil (separates : Char → Bool) (t : Text) : pieces separates t ≠ [] := by
  cases t with
  | nil => simp [pieces]
  | cons c cs =>
    rw [pieces]
    split
    · simp
    · split <;> simp

@[simp]
theorem pieces_nil (separates : Char → Bool) : pieces separates [] = [[]] := rfl

/-- Write texts one after the other with a separator between them. -/
def join (separator : Char) : List Text → Text
  | [] => []
  | [p] => p
  | p :: ps => p ++ separator :: join separator ps

theorem join_pieces (separator : Char) (t : Text) :
    join separator (pieces (· == separator) t) = t := by
  induction t with
  | nil => rfl
  | cons c cs ih =>
    rw [pieces]
    split
    · rename_i h
      have hc : c = separator := by simpa using h
      have hne := pieces_ne_nil (· == separator) cs
      cases hp : pieces (· == separator) cs with
      | nil => exact absurd hp hne
      | cons p ps => rw [join, ← hp, ih, hc]; rfl; simp
    · cases hp : pieces (· == separator) cs with
      | nil => exact absurd hp (pieces_ne_nil _ cs)
      | cons p ps =>
        rw [hp] at ih
        cases ps with
        | nil => simpa [join] using ih
        | cons q qs => simp only [join] at ih ⊢; rw [List.cons_append, ih]

/-- Cut at the first character that satisfies `p`: what stands in front of it, and what stands
behind it if there is one. -/
def cut (p : Char → Bool) : Text → Text × Option Text
  | [] => ([], none)
  | c :: cs => if p c then ([], some cs) else let (front, rest) := cut p cs; (c :: front, rest)

/-- Remove the character in front if it satisfies `p`. -/
def dropOne (p : Char → Bool) : Text → Text
  | [] => []
  | c :: cs => if p c then cs else c :: cs

/-- Whether a character lies in one of the ranges, given by their first and last characters. -/
def inRanges (ranges : List (Nat × Nat)) (c : Char) : Bool :=
  ranges.any fun (first, last) ↦ first ≤ c.toNat && c.toNat ≤ last

/-- Whether `part` stands anywhere in a text. -/
def includes (part : Text) : Text → Bool
  | [] => part.isEmpty
  | c :: cs => part.isPrefixOf (c :: cs) || includes part cs

end Text

end UrlCalculus
