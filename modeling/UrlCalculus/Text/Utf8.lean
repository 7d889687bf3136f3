import UrlCalculus.Text.Pieces

/-!
# UTF-8

`utf8` writes a text as bytes. `ofUtf8Lossy` reads any bytes back: each longest beginning of a
sequence that turns out not to be one, and each byte that begins none, is read as U+FFFD. Reading
what was written gives the text back, so bytes are UTF-8 exactly when they are the bytes of their
own lossy reading.

The first byte of a sequence fixes how many bytes follow and, for the second byte, which values
keep the sequence shortest and outside the surrogates; all later bytes range over `80`-`BF`.
-/

namespace UrlCalculus

namespace Text

def utf8 (t : Text) : List UInt8 :=
  t.flatMap String.utf8EncodeChar

/-- The replacement for bytes that are no character. -/
def replacement : Char := '\ufffd'

/-- A sequence that is not finished: the bytes still owed, the range of the next one, and the bits
read so far. -/
structure Unfinished where
  owed : Nat
  low : Nat
  high : Nat
  bits : Nat

/-- What a byte between characters is. -/
inductive Lead where
  | character (c : Char)
  | sequence (s : Unfinished)
  | stray

/-- The meaning of a byte between characters. -/
def lead (b : Nat) : Lead :=
  if b < 0x80 then .character (Char.ofNat b)
  else if b < 0xC2 then .stray
  else if b < 0xE0 then .sequence ⟨1, 0x80, 0xBF, b - 0xC0⟩
  else if b = 0xE0 then .sequence ⟨2, 0xA0, 0xBF, 0⟩
  else if b = 0xED then .sequence ⟨2, 0x80, 0x9F, 0xD⟩
  else if b < 0xF0 then .sequence ⟨2, 0x80, 0xBF, b - 0xE0⟩
  else if b = 0xF0 then .sequence ⟨3, 0x90, 0xBF, 0⟩
  else if b < 0xF4 then .sequence ⟨3, 0x80, 0xBF, b - 0xF0⟩
  else if b = 0xF4 then .sequence ⟨3, 0x80, 0x8F, 4⟩
  else .stray

/-- The characters of bytes that follow an unfinished sequence, or stand between characters. -/
def ofUtf8From : Option Unfinished → List UInt8 → Text
  | none, [] => []
  | some _, [] => [replacement]
  | none, b :: bs =>
    match lead b.toNat with
    | .character c => c :: ofUtf8From none bs
    | .sequence s => ofUtf8From (some s) bs
    | .stray => replacement :: ofUtf8From none bs
  | some s, b :: bs =>
    if s.low ≤ b.toNat ∧ b.toNat ≤ s.high then
      let bits := s.bits * 64 + (b.toNat - 0x80)
      if s.owed ≤ 1 then Char.ofNat bits :: ofUtf8From none bs
      else ofUtf8From (some ⟨s.owed - 1, 0x80, 0xBF, bits⟩) bs
    else
      match lead b.toNat with
      | .character c => replacement :: c :: ofUtf8From none bs
      | .sequence s => replacement :: ofUtf8From (some s) bs
      | .stray => replacement :: replacement :: ofUtf8From none bs

/-- The characters of bytes, with replacements where they are not UTF-8. -/
def ofUtf8Lossy (bytes : List UInt8) : Text :=
  ofUtf8From none bytes

/-- The characters of bytes that are UTF-8 throughout. -/
def ofUtf8? (bytes : List UInt8) : Option Text :=
  let t := ofUtf8Lossy bytes
  if utf8 t = bytes then some t else none

end Text

end UrlCalculus
