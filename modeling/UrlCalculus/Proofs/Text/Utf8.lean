import UrlCalculus.Text.Utf8

/-!
# Reading what was written in UTF-8

The bytes of a text read back as that text, whatever its characters are. A character is written in
one to four bytes; the first of them fixes how many follow and which values the second one can have,
and the bits of the character are recovered six at a time.
-/

namespace UrlCalculus

namespace Text

/-! ## First bytes -/

theorem lead_of_lt {b : Nat} (h : b < 0x80) : lead b = .character (Char.ofNat b) := by
  rw [lead, if_pos h]

theorem lead_of_two {b : Nat} (hlow : 0xC2 ≤ b) (hhigh : b < 0xE0) :
    lead b = .sequence ⟨1, 0x80, 0xBF, b - 0xC0⟩ := by
  rw [lead, if_neg (by omega), if_neg (by omega), if_pos hhigh]

/-- Behind `E0` the next byte makes the sequence a shortest one, behind `ED` it keeps it out of the
surrogates. -/
theorem lead_of_three {b : Nat} (hlow : 0xE0 ≤ b) (hhigh : b < 0xF0) :
    lead b = .sequence
      ⟨2, if b = 0xE0 then 0xA0 else 0x80, if b = 0xED then 0x9F else 0xBF, b - 0xE0⟩ := by
  rw [lead, if_neg (by omega), if_neg (by omega), if_neg (by omega)]
  by_cases hE0 : b = 0xE0
  · subst hE0
    rfl
  · by_cases hED : b = 0xED
    · subst hED
      rfl
    · rw [if_neg hE0, if_neg hED, if_pos hhigh, if_neg hE0, if_neg hED]

/-- Behind `F0` the next byte makes the sequence a shortest one, behind `F4` it keeps it within the
range of characters. -/
theorem lead_of_four {b : Nat} (hlow : 0xF0 ≤ b) (hhigh : b < 0xF5) :
    lead b = .sequence
      ⟨3, if b = 0xF0 then 0x90 else 0x80, if b = 0xF4 then 0x8F else 0xBF, b - 0xF0⟩ := by
  rw [lead, if_neg (by omega), if_neg (by omega), if_neg (by omega), if_neg (by omega),
    if_neg (by omega), if_neg (by omega)]
  by_cases hF0 : b = 0xF0
  · subst hF0
    rfl
  · by_cases hF4 : b = 0xF4
    · subst hF4
      rfl
    · rw [if_neg hF0, if_pos (by omega), if_neg hF0, if_neg hF4]

/-! ## Reading bytes -/

theorem toNat_ofNat_of_lt {n : Nat} (h : n < 256) : (UInt8.ofNat n).toNat = n := by
  rw [UInt8.toNat_ofNat']
  omega

theorem ofUtf8From_character {n : Nat} (h : n < 0x80) (bs : List UInt8) :
    ofUtf8From none (UInt8.ofNat n :: bs) = Char.ofNat n :: ofUtf8From none bs := by
  simp only [ofUtf8From, toNat_ofNat_of_lt (by omega : n < 256), lead_of_lt h]

theorem ofUtf8From_sequence {n : Nat} {s : Unfinished} (hn : n < 256) (h : lead n = .sequence s)
    (bs : List UInt8) : ofUtf8From none (UInt8.ofNat n :: bs) = ofUtf8From (some s) bs := by
  simp only [ofUtf8From, toNat_ofNat_of_lt hn, h]

/-- A byte in the range that is open to it, with more bytes to follow. -/
theorem ofUtf8From_more {owed low high bits n : Nat} (hn : n < 256) (hlow : low ≤ n)
    (hhigh : n ≤ high) (bs : List UInt8) :
    ofUtf8From (some ⟨owed + 2, low, high, bits⟩) (UInt8.ofNat n :: bs) =
      ofUtf8From (some ⟨owed + 1, 0x80, 0xBF, bits * 64 + (n - 0x80)⟩) bs := by
  simp only [ofUtf8From, toNat_ofNat_of_lt hn, hlow, hhigh, true_and, if_true]
  rw [if_neg (by omega)]
  rfl

/-- A byte in the range that is open to it, the last one of its sequence. -/
theorem ofUtf8From_last {low high bits n : Nat} (hn : n < 256) (hlow : low ≤ n) (hhigh : n ≤ high)
    (bs : List UInt8) :
    ofUtf8From (some ⟨1, low, high, bits⟩) (UInt8.ofNat n :: bs) =
      Char.ofNat (bits * 64 + (n - 0x80)) :: ofUtf8From none bs := by
  simp only [ofUtf8From, toNat_ofNat_of_lt hn, hlow, hhigh, true_and, if_true]
  rw [if_pos (by omega)]

/-! ## Reading characters -/

/-- The bytes of a character are read as that character. -/
theorem ofUtf8From_utf8EncodeChar (c : Char) (bs : List UInt8) :
    ofUtf8From none (String.utf8EncodeChar c ++ bs) = c :: ofUtf8From none bs := by
  have hvalid : c.toNat < 0xD800 ∨ 0xDFFF < c.toNat ∧ c.toNat < 0x110000 := c.valid
  have hofNat : Char.ofNat c.toNat = c := Char.ofNat_toNat c
  generalize hn : c.toNat = n at hvalid hofNat
  have hval : c.val.toNat = n := hn
  simp only [String.utf8EncodeChar, hval]
  -- one case for each number of bytes; in the last three the bits are put together again
  split
  · rw [List.cons_append, List.nil_append, ofUtf8From_character (by omega), hofNat]
  · split
    · simp only [List.cons_append, List.nil_append]
      rw [ofUtf8From_sequence (by omega) (lead_of_two (by omega) (by omega)),
        ofUtf8From_last (by omega) (by omega) (by omega)]
      rw [show (n / 64 % 32 + 0xC0 - 0xC0) * 64 + (n % 64 + 0x80 - 0x80) = n by omega, hofNat]
    · split
      · simp only [List.cons_append, List.nil_append]
        rw [ofUtf8From_sequence (by omega) (lead_of_three (by omega) (by omega)),
          ofUtf8From_more (by omega) (by split <;> omega) (by split <;> omega),
          ofUtf8From_last (by omega) (by omega) (by omega)]
        rw [show ((n / 4096 % 16 + 0xE0 - 0xE0) * 64 + (n / 64 % 64 + 0x80 - 0x80)) * 64 +
          (n % 64 + 0x80 - 0x80) = n by omega, hofNat]
      · simp only [List.cons_append, List.nil_append]
        rw [ofUtf8From_sequence (by omega) (lead_of_four (by omega) (by omega)),
          ofUtf8From_more (by omega) (by split <;> omega) (by split <;> omega),
          ofUtf8From_more (by omega) (by omega) (by omega),
          ofUtf8From_last (by omega) (by omega) (by omega)]
        rw [show (((n / 262144 % 8 + 0xF0 - 0xF0) * 64 + (n / 4096 % 64 + 0x80 - 0x80)) * 64 +
          (n / 64 % 64 + 0x80 - 0x80)) * 64 + (n % 64 + 0x80 - 0x80) = n by omega, hofNat]

/-- **Reading what was written gives the text back.** -/
theorem ofUtf8Lossy_utf8 (t : Text) : ofUtf8Lossy (utf8 t) = t := by
  rw [ofUtf8Lossy]
  induction t with
  | nil => simp [utf8, ofUtf8From]
  | cons c rest ih =>
    rw [utf8, List.flatMap_cons, ofUtf8From_utf8EncodeChar, ← utf8, ih]

theorem ofUtf8?_utf8 (t : Text) : ofUtf8? (utf8 t) = some t := by
  rw [ofUtf8?, ofUtf8Lossy_utf8, if_pos rfl]

end Text

end UrlCalculus
