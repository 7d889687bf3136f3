import UrlCalculus.Proofs.Text.Utf8

/-!
# The order of UTF-8

Texts are in the same order by their characters and by their UTF-8 bytes. A longer sequence of
bytes begins with a greater byte, so between characters of different lengths the first byte decides; and
sequences of one length hold the bits of their characters with the highest ones first. No sequence is
the beginning of another one, so what follows a character does not matter until it is the same one.
-/

namespace UrlCalculus

namespace Text

theorem cons_byte_lt_cons_byte {a b : Nat} (hb : b < 256) (h : a < b) (s t : List UInt8) :
    UInt8.ofNat a :: s < UInt8.ofNat b :: t := by
  refine List.cons_lt_cons_iff.mpr (.inl (UInt8.lt_iff_toNat_lt.mpr ?_))
  rwa [toNat_ofNat_of_lt (by omega), toNat_ofNat_of_lt hb]

/-- A first byte that is not greater leaves the decision to the bytes behind it. -/
theorem cons_byte_lt_of_le {a b : Nat} {s t : List UInt8} (hb : b < 256) (hle : a ≤ b)
    (h : a = b → s < t) : UInt8.ofNat a :: s < UInt8.ofNat b :: t := by
  rcases Nat.lt_or_eq_of_le hle with hlt | rfl
  · exact cons_byte_lt_cons_byte hb hlt s t
  · exact List.cons_lt_cons_self.mpr (h rfl)

section LaterBytes

variable {m n : Nat}

/-- The last byte decides where the bits in front of it agree. -/
theorem lastByte_lt (hlt : m < n) (h : m / 64 = n / 64) (s t : List UInt8) :
    UInt8.ofNat (m % 64 + 128) :: s < UInt8.ofNat (n % 64 + 128) :: t :=
  cons_byte_lt_cons_byte (by omega) (by omega) s t

theorem lastTwoBytes_lt (hlt : m < n) (h : m / 4096 = n / 4096) (s t : List UInt8) :
    UInt8.ofNat (m / 64 % 64 + 128) :: UInt8.ofNat (m % 64 + 128) :: s <
      UInt8.ofNat (n / 64 % 64 + 128) :: UInt8.ofNat (n % 64 + 128) :: t :=
  cons_byte_lt_of_le (by omega) (by omega) fun _ ↦ lastByte_lt hlt (by omega) s t

theorem lastThreeBytes_lt (hlt : m < n) (h : m / 262144 = n / 262144) (s t : List UInt8) :
    UInt8.ofNat (m / 4096 % 64 + 128) :: UInt8.ofNat (m / 64 % 64 + 128) ::
        UInt8.ofNat (m % 64 + 128) :: s <
      UInt8.ofNat (n / 4096 % 64 + 128) :: UInt8.ofNat (n / 64 % 64 + 128) ::
        UInt8.ofNat (n % 64 + 128) :: t :=
  cons_byte_lt_of_le (by omega) (by omega) fun _ ↦ lastTwoBytes_lt hlt (by omega) s t

end LaterBytes

/-- Bytes of characters are ordered as the characters, whatever follows them. -/
theorem utf8EncodeChar_append_lt {c d : Char} (h : c < d) (s t : List UInt8) :
    String.utf8EncodeChar c ++ s < String.utf8EncodeChar d ++ t := by
  have hlt : c.val.toNat < d.val.toNat := h
  have hvalid : d.val.toNat < 0xD800 ∨ 0xDFFF < d.val.toNat ∧ d.val.toNat < 0x110000 := d.valid
  simp only [String.utf8EncodeChar]
  generalize c.val.toNat = m at hlt
  generalize d.val.toNat = n at hlt hvalid
  -- one case for each number of bytes of the smaller character; the other one has no fewer
  split
  · simp only [List.cons_append, List.nil_append]
    split
    · exact cons_byte_lt_cons_byte (by omega) hlt _ _
    · split
      · exact cons_byte_lt_cons_byte (by omega) (by omega) _ _
      · split <;> exact cons_byte_lt_cons_byte (by omega) (by omega) _ _
  · rw [if_neg (by omega : ¬n ≤ 127)]
    split
    · simp only [List.cons_append, List.nil_append]
      split
      · exact cons_byte_lt_of_le (by omega) (by omega) fun _ ↦ lastByte_lt hlt (by omega) s t
      · split <;> exact cons_byte_lt_cons_byte (by omega) (by omega) _ _
    · rw [if_neg (by omega : ¬n ≤ 2047)]
      split
      · simp only [List.cons_append, List.nil_append]
        split
        · exact cons_byte_lt_of_le (by omega) (by omega) fun _ ↦
            lastTwoBytes_lt hlt (by omega) s t
        · exact cons_byte_lt_cons_byte (by omega) (by omega) _ _
      · simp only [List.cons_append, List.nil_append]
        rw [if_neg (by omega : ¬n ≤ 65535)]
        exact cons_byte_lt_of_le (by omega) (by omega) fun _ ↦
          lastThreeBytes_lt hlt (by omega) s t

/-- **Texts in ascending order have bytes in ascending order.** -/
theorem utf8_lt_utf8 {s t : Text} (h : s < t) : utf8 s < utf8 t := by
  induction s generalizing t with
  | nil =>
    cases t with
    | nil => exact absurd h (List.lt_irrefl _)
    | cons d t =>
      have hne : String.utf8EncodeChar d ≠ [] := by
        rw [← List.length_pos_iff, String.length_utf8EncodeChar]
        exact Char.utf8Size_pos d
      obtain ⟨b, bytes, hbytes⟩ := List.exists_cons_of_ne_nil hne
      rw [utf8, utf8, List.flatMap_nil, List.flatMap_cons, hbytes]
      exact List.nil_lt_cons b _
  | cons c s ih =>
    cases t with
    | nil => exact absurd h (List.not_lt_nil _)
    | cons d t =>
      rw [utf8, utf8, List.flatMap_cons, List.flatMap_cons]
      rcases List.cons_lt_cons_iff.mp h with hlt | ⟨rfl, hrest⟩
      · exact utf8EncodeChar_append_lt hlt _ _
      · exact List.append_left_lt (ih hrest)

end Text

end UrlCalculus
