import UrlCalculus.Proofs.Text.Cutting
import UrlCalculus.Text.Percent

/-!
# Text that is encoded already

Encoding replaces the characters of a set by characters that are in none of the sets, so encoded
text is not changed by encoding it again. Neither does it contain any character that parts a URL
where the text stands.
-/

namespace UrlCalculus

namespace EncodeSet

variable {set : EncodeSet} {more : List Char} {c : Char}

@[simp]
theorem adding_eq_true_iff : set.adding more c = true ↔ set c = true ∨ c ∈ more := by
  simp [adding]

/-! ## Inclusions -/

theorem fragment_of_controls (h : controls c = true) : fragment c = true :=
  adding_eq_true_iff.mpr (.inl h)

theorem query_of_controls (h : controls c = true) : query c = true :=
  adding_eq_true_iff.mpr (.inl h)

theorem specialQuery_of_query (h : query c = true) : specialQuery c = true :=
  adding_eq_true_iff.mpr (.inl h)

theorem path_of_fragment (h : fragment c = true) : path c = true :=
  adding_eq_true_iff.mpr (.inl h)

theorem path_of_controls (h : controls c = true) : path c = true :=
  path_of_fragment (fragment_of_controls h)

theorem userinfo_of_path (h : path c = true) : userinfo c = true :=
  adding_eq_true_iff.mpr (.inl h)

theorem controls_of_isBreak (h : Text.isBreak c = true) : controls c = true := by
  simp only [Text.isBreak, Bool.or_eq_true, beq_iff_eq] at h
  rcases h with (rfl | rfl) | rfl <;> rfl

theorem controls_or_space (h : Text.isControlOrSpace c = true) : controls c = true ∨ c = ' ' := by
  simp only [Text.isControlOrSpace, decide_eq_true_eq] at h
  by_cases hlt : c.toNat < 0x20
  · exact .inl (by simp [controls, hlt])
  · exact .inr (Char.toNat_inj.mp (by change c.toNat = 0x20; omega))

theorem fragment_of_isControlOrSpace (h : Text.isControlOrSpace c = true) :
    fragment c = true := by
  rcases controls_or_space h with h | rfl
  · exact fragment_of_controls h
  · rfl

theorem query_of_isControlOrSpace (h : Text.isControlOrSpace c = true) : query c = true := by
  rcases controls_or_space h with h | rfl
  · exact query_of_controls h
  · rfl

end EncodeSet

namespace Text

/-! ## Encoding -/

/-- The characters that encoding writes. -/
def encodingChars : Text :=
  ['%', '0', '1', '2', '3', '4', '5', '6', '7', '8', '9', 'A', 'B', 'C', 'D', 'E', 'F']

theorem hexDigit_mem : ∀ n < 16, hexDigit n ∈ encodingChars := by decide

theorem mem_encodingChars_of_mem_percentByte {b : UInt8} {c : Char} (h : c ∈ percentByte b) :
    c ∈ encodingChars := by
  have hb : b.toNat < 256 := UInt8.toNat_lt b
  simp only [percentByte, List.mem_cons, List.not_mem_nil, or_false] at h
  rcases h with rfl | rfl | rfl
  · exact List.mem_cons_self
  · exact hexDigit_mem _ (by omega)
  · exact hexDigit_mem _ (by omega)

variable {set : EncodeSet} {t : Text}

theorem percentEncode_cons (set : EncodeSet) (c : Char) (t : Text) :
    percentEncode set (c :: t) =
      (if set c then (String.utf8EncodeChar c).flatMap percentByte else [c]) ++
        percentEncode set t := by
  rw [percentEncode, List.flatMap_cons, percentEncode]

theorem mem_percentEncode {c : Char} (h : c ∈ percentEncode set t) :
    c ∈ t ∧ set c = false ∨ c ∈ encodingChars := by
  rw [percentEncode, List.mem_flatMap] at h
  obtain ⟨d, hd, hc⟩ := h
  split at hc
  · obtain ⟨b, -, hc⟩ := List.mem_flatMap.mp hc
    exact .inr (mem_encodingChars_of_mem_percentByte hc)
  · rename_i hset
    rw [List.mem_singleton] at hc
    subst hc
    exact .inl ⟨hd, by simpa using hset⟩

theorem avoids_percentEncode {p : Char → Bool} (hchars : Avoids p encodingChars)
    (hliteral : ∀ c ∈ t, set c = false → p c = false) : Avoids p (percentEncode set t) := by
  intro c hc
  rcases mem_percentEncode hc with ⟨hmem, hset⟩ | hmem
  · exact hliteral c hmem hset
  · exact hchars c hmem

/-- Encoded text has no character of the set left, unless encoding itself writes one. -/
theorem avoids_percentEncode_self (hchars : Avoids set encodingChars) (t : Text) :
    Avoids set (percentEncode set t) :=
  avoids_percentEncode hchars fun _ _ h ↦ h

theorem avoids_encodingChars_controls : Avoids EncodeSet.controls encodingChars := by decide

theorem avoids_encodingChars_fragment : Avoids EncodeSet.fragment encodingChars := by decide

theorem avoids_encodingChars_query : Avoids EncodeSet.query encodingChars := by decide

theorem avoids_encodingChars_specialQuery : Avoids EncodeSet.specialQuery encodingChars := by decide

theorem avoids_encodingChars_path : Avoids EncodeSet.path encodingChars := by decide

theorem avoids_encodingChars_userinfo : Avoids EncodeSet.userinfo encodingChars := by decide

/-- **Text without characters of the set is not changed.** -/
theorem percentEncode_of_avoids (h : Avoids set t) : percentEncode set t = t := by
  induction t with
  | nil => rfl
  | cons c t ih =>
    rw [avoids_cons] at h
    rw [percentEncode_cons, if_neg (by simp [h.1]), ih h.2, List.singleton_append]

/-- Encoding a text keeps the character in front, or puts a percent sign there. -/
theorem head?_percentEncode (set : EncodeSet) (t : Text) :
    (percentEncode set t).head? = t.head? ∨ (percentEncode set t).head? = some '%' := by
  cases t with
  | nil => exact .inl rfl
  | cons c t =>
    rw [percentEncode_cons]
    split
    · right
      have hne : String.utf8EncodeChar c ≠ [] := by
        rw [String.utf8EncodeChar]
        split
        · simp
        · split
          · simp
          · split <;> simp
      cases hbytes : String.utf8EncodeChar c with
      | nil => exact absurd hbytes hne
      | cons b bs => rfl
    · exact .inl rfl

theorem percentEncode_eq_nil_iff : percentEncode set t = [] ↔ t = [] := by
  constructor
  · intro h
    rcases head?_percentEncode set t with hhead | hhead <;> rw [h] at hhead
    · exact List.head?_eq_none_iff.mp hhead.symm
    · cases hhead
  · rintro rfl
    rfl

/-- The last character of an encoded text is that of the text, or one that encoding writes. -/
theorem getLast?_percentEncode {c : Char} (h : c ∈ (percentEncode set t).getLast?) :
    c ∈ t.getLast? ∨ c ∈ encodingChars := by
  induction t with
  | nil => cases h
  | cons d t ih =>
    rw [percentEncode_cons, List.getLast?_append] at h
    cases hlast : (percentEncode set t).getLast? with
    | some e =>
      rw [hlast] at h ih
      rcases ih h with h | h
      · refine .inl ?_
        rw [List.getLast?_cons, Option.mem_def.mp h]
        rfl
      · exact .inr h
    | none =>
      -- only the empty text is encoded as nothing
      have hnil : t = [] := by
        have henc := List.getLast?_eq_none_iff.mp hlast
        cases t with
        | nil => rfl
        | cons e t =>
          rcases head?_percentEncode set (e :: t) with h | h <;> rw [henc] at h <;> cases h
      subst hnil
      rw [hlast, Option.none_or] at h
      split at h
      · obtain ⟨b, -, hc⟩ := List.mem_flatMap.mp (List.mem_of_getLast? h)
        exact .inr (mem_encodingChars_of_mem_percentByte hc)
      · exact .inl h

/-! ## Decoding -/

theorem percentDecode_cons {c : Char} (h : c ≠ '%') (t : Text) :
    percentDecode (c :: t) = String.utf8EncodeChar c ++ percentDecode t := by
  rw [percentDecode]
  rintro a b rest rfl
  exact absurd rfl h

/-- A text without percent signs is decoded to its own bytes. -/
theorem percentDecode_of_not_mem (h : '%' ∉ t) : percentDecode t = utf8 t := by
  induction t with
  | nil => rfl
  | cons c t ih =>
    rw [List.mem_cons, not_or] at h
    rw [percentDecode_cons (Ne.symm h.1), ih h.2, utf8, utf8, List.flatMap_cons]

end Text

end UrlCalculus
