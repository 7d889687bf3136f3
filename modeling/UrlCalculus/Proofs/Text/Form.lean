import Mathlib.Data.List.Forall2
import UrlCalculus.Proofs.Text.Encoding
import UrlCalculus.Proofs.Text.Utf8
import UrlCalculus.Proofs.Url.Reference
import UrlCalculus.Text.Form

/-!
# Reading a form that was written

A written form is read as the pairs it was written from, whatever characters their names and values
have. The parts contain neither of the two separators, so cutting finds the parts again; and each
character of a part is decoded by itself: a literal stands for itself, a plus sign for a space, and
the encoded bytes of any other character for that character. Nothing that is read as a plus sign or
as a percent sign was a literal.
-/

namespace UrlCalculus

namespace Text

/-! ## The characters of a form -/

theorem toNat_lt_of_isFormLiteral {c : Char} (h : isFormLiteral c = true) : c.toNat < 128 := by
  simp only [isFormLiteral, Bool.or_eq_true, beq_iff_eq] at h
  rcases h with (((h | rfl) | rfl) | rfl) | rfl
  · exact Scheme.toNat_lt_of_isSchemeChar (by simp [Scheme.isSchemeChar, h])
  all_goals decide

/-- What is checked of the ASCII characters holds of all literals. -/
theorem of_isFormLiteral {p : Char → Prop}
    (hascii : ∀ n < 128, isFormLiteral (Char.ofNat n) = true → p (Char.ofNat n)) {c : Char}
    (h : isFormLiteral c = true) : p c :=
  of_ascii (p := fun c ↦ isFormLiteral c = true → p c) (toNat_lt_of_isFormLiteral h) hascii h

theorem ne_of_isFormLiteral {c : Char} (h : isFormLiteral c = true) : c ≠ '+' ∧ c ≠ '%' :=
  of_isFormLiteral (p := fun c ↦ c ≠ '+' ∧ c ≠ '%') (by decide) h

theorem mem_formEncodePart {t : Text} {c : Char} (h : c ∈ formEncodePart t) :
    isFormLiteral c = true ∨ c ∈ ['+', '%'] := by
  obtain ⟨d, -, hc⟩ := List.mem_flatMap.mp h
  rw [formEncodeChar] at hc
  split at hc
  · rename_i hd
    rw [List.mem_singleton] at hc
    exact .inl (hc ▸ hd)
  · split at hc
    · rw [List.mem_singleton] at hc
      exact .inr (hc ▸ List.mem_cons_self)
    · obtain ⟨b, -, hc⟩ := List.mem_flatMap.mp hc
      have hchars : Avoids (fun e ↦ !isFormLiteral e && e != '%') encodingChars := by decide
      have hmem := hchars c (mem_encodingChars_of_mem_percentByte hc)
      by_cases hpercent : c = '%'
      · exact .inr (by simp [hpercent])
      · exact .inl (by simpa [hpercent] using hmem)

theorem mem_formEncodePair {pair : Text × Text} {c : Char} (h : c ∈ formEncodePair pair) :
    isFormLiteral c = true ∨ c ∈ ['+', '%', '='] := by
  have hpart {t : Text} (ht : c ∈ formEncodePart t) :
      isFormLiteral c = true ∨ c ∈ ['+', '%', '='] := by
    rcases mem_formEncodePart ht with h | h
    · exact .inl h
    · exact .inr (List.mem_append_left ['='] h)
  rw [formEncodePair, List.mem_append, List.mem_cons] at h
  rcases h with h | rfl | h
  · exact hpart h
  · exact .inr (by decide)
  · exact hpart h

theorem mem_formEncode {pairs : List (Text × Text)} {c : Char} (h : c ∈ formEncode pairs) :
    isFormLiteral c = true ∨ c ∈ ['+', '%', '=', '&'] := by
  rcases mem_join h with rfl | ⟨t, ht, hc⟩
  · exact .inr (by decide)
  · obtain ⟨pair, -, rfl⟩ := List.mem_map.mp ht
    rcases mem_formEncodePair hc with h | h
    · exact .inl h
    · exact .inr (List.mem_append_left ['&'] h)

/-- A text of literals and some marks avoids what these avoid. -/
theorem avoids_of_isFormLiteral_or_mem {p : Char → Bool} {marks t : Text}
    (ht : ∀ c ∈ t, isFormLiteral c = true ∨ c ∈ marks)
    (hliteral : ∀ n < 128, isFormLiteral (Char.ofNat n) = true → p (Char.ofNat n) = false)
    (hmarks : Avoids p marks) : Avoids p t := by
  intro c hc
  rcases ht c hc with h | h
  · exact of_isFormLiteral (p := fun c ↦ p c = false) hliteral h
  · exact hmarks c h

/-! ## The parts -/

theorem hexDigitValue?_hexDigit : ∀ n < 16, hexDigitValue? (hexDigit n) = some n := by decide

theorem percentDecode_percentByte (b : UInt8) (t : Text) :
    percentDecode (percentByte b ++ t) = b :: percentDecode t := by
  have hb : b.toNat < 256 := UInt8.toNat_lt b
  rw [percentByte, List.cons_append, List.cons_append, List.cons_append, List.nil_append,
    percentDecode, hexDigitValue?_hexDigit _ (by omega), hexDigitValue?_hexDigit _ (by omega)]
  simp only [Nat.div_add_mod', UInt8.ofNat_toNat]

theorem percentDecode_percentBytes (bytes : List UInt8) (t : Text) :
    percentDecode (bytes.flatMap percentByte ++ t) = bytes ++ percentDecode t := by
  induction bytes with
  | nil => rfl
  | cons b bytes ih =>
    rw [List.flatMap_cons, List.append_assoc, percentDecode_percentByte, ih, List.cons_append]

/-- The character that a form shows as a plus sign. -/
def plusToSpace (c : Char) : Char := if c = '+' then ' ' else c

theorem map_plusToSpace_percentBytes (bytes : List UInt8) :
    (bytes.flatMap percentByte).map plusToSpace = bytes.flatMap percentByte := by
  rw [List.map_congr_left (g := id), List.map_id]
  intro c hc
  obtain ⟨b, -, hc⟩ := List.mem_flatMap.mp hc
  have hchars : Avoids (· == '+') encodingChars := by decide
  have hplus := hchars c (mem_encodingChars_of_mem_percentByte hc)
  rw [plusToSpace, if_neg (by simpa using hplus), id]

theorem percentDecode_formEncodeChar (c : Char) (t : Text) :
    percentDecode ((formEncodeChar c).map plusToSpace ++ t) =
      String.utf8EncodeChar c ++ percentDecode t := by
  rw [formEncodeChar]
  split
  · rename_i hc
    obtain ⟨hplus, hpercent⟩ := ne_of_isFormLiteral hc
    rw [List.map_singleton, plusToSpace, if_neg hplus, List.singleton_append,
      percentDecode_cons hpercent]
  · split
    · rename_i hc
      subst hc
      exact percentDecode_cons (by decide) t
    · rw [map_plusToSpace_percentBytes, percentDecode_percentBytes]

theorem percentDecode_formEncodePart (t : Text) :
    percentDecode ((formEncodePart t).map plusToSpace) = utf8 t := by
  induction t with
  | nil => rfl
  | cons c t ih =>
    rw [formEncodePart, List.flatMap_cons, List.map_append, percentDecode_formEncodeChar,
      ← formEncodePart, ih, utf8, utf8, List.flatMap_cons]

theorem formDecodePart_formEncodePart (t : Text) : formDecodePart (formEncodePart t) = t := by
  change ofUtf8Lossy (percentDecode ((formEncodePart t).map plusToSpace)) = t
  rw [percentDecode_formEncodePart, ofUtf8Lossy_utf8]

/-! ## The pairs -/

theorem formDecodePair_formEncodePair (pair : Text × Text) :
    formDecodePair (formEncodePair pair) = pair := by
  have hname : Avoids (· == '=') (formEncodePart pair.1) :=
    avoids_of_isFormLiteral_or_mem (fun _ ↦ mem_formEncodePart) (by decide) (by decide)
  rw [formDecodePair, formEncodePair, cut_append hname rfl]
  simp only [Option.getD_some, formDecodePart_formEncodePart]

theorem avoids_formEncodePair (pair : Text × Text) : Avoids (· == '&') (formEncodePair pair) :=
  avoids_of_isFormLiteral_or_mem (fun _ ↦ mem_formEncodePair) (by decide) (by decide)

theorem formEncodePair_ne_nil (pair : Text × Text) : formEncodePair pair ≠ [] := by
  simp [formEncodePair]

/-- **A written form is read as the pairs it was written from.** -/
theorem formDecode_formEncode (pairs : List (Text × Text)) :
    formDecode (formEncode pairs) = pairs := by
  by_cases hnil : pairs = []
  · subst hnil
    rfl
  · have hpieces : pieces (· == '&') (formEncode pairs) = pairs.map formEncodePair := by
      refine pieces_join rfl (by simpa using hnil) fun t ht ↦ ?_
      obtain ⟨pair, -, rfl⟩ := List.mem_map.mp ht
      exact avoids_formEncodePair pair
    have hfilter : (pairs.map formEncodePair).filter (· ≠ []) = pairs.map formEncodePair := by
      rw [List.filter_eq_self]
      intro t ht
      obtain ⟨pair, -, rfl⟩ := List.mem_map.mp ht
      simpa using formEncodePair_ne_nil pair
    rw [formDecode, hpieces, hfilter, List.map_map, List.map_congr_left (g := id), List.map_id]
    exact fun pair _ ↦ formDecodePair_formEncodePair pair

/-- A form is empty only if there are no pairs. -/
theorem formEncode_eq_nil_iff {pairs : List (Text × Text)} :
    formEncode pairs = [] ↔ pairs = [] := by
  constructor
  · intro h
    have hpairs := formDecode_formEncode pairs
    rw [h] at hpairs
    exact hpairs.symm
  · rintro rfl
    rfl

/-! ## What any form is read as

The pairs of a form, given by how it is put together from pieces rather than by cutting it. -/

/-- A piece of a form stands for a pair. The name ends at the first `=`, and where there is none the
value is empty. -/
inductive PieceReads : Text → Text × Text → Prop where
  | pair {name value : Text} : '=' ∉ name →
      PieceReads (name ++ '=' :: value) (formDecodePart name, formDecodePart value)
  | name {name : Text} : '=' ∉ name → PieceReads name (formDecodePart name, [])

/-- A form stands for pairs: it consists of pieces with `&` between them, and those that are not
empty stand for the pairs. -/
def FormReads (form : Text) (pairs : List (Text × Text)) : Prop :=
  ∃ ts, ts ≠ [] ∧ (∀ t ∈ ts, '&' ∉ t) ∧ form = join '&' ts ∧
    List.Forall₂ PieceReads (ts.filter (· ≠ [])) pairs

theorem pieceReads_iff {piece : Text} {pair : Text × Text} :
    PieceReads piece pair ↔ formDecodePair piece = pair := by
  constructor
  · rintro (hname | hname)
    · rw [formDecodePair, cut_append (avoids_beq_iff.mpr hname) rfl]
      rfl
    · rw [formDecodePair, cut_of_avoids (avoids_beq_iff.mpr hname)]
      rfl
  · rintro rfl
    by_cases h : '=' ∈ piece
    · obtain ⟨name, value, rfl, hname⟩ := List.eq_append_cons_of_mem h
      rw [formDecodePair, cut_append (avoids_beq_iff.mpr hname) rfl]
      exact .pair hname
    · rw [formDecodePair, cut_of_avoids (avoids_beq_iff.mpr h)]
      exact .name h

/-- **A form is read as the pairs it stands for**, and it stands for nothing else. -/
theorem formReads_iff {form : Text} {pairs : List (Text × Text)} :
    FormReads form pairs ↔ formDecode form = pairs := by
  have hpairs (ts : List Text) :
      List.Forall₂ PieceReads ts pairs ↔ ts.map formDecodePair = pairs := by
    have hreads : PieceReads = fun piece pair ↦ formDecodePair piece = pair :=
      funext₂ fun _ _ ↦ propext pieceReads_iff
    rw [hreads, ← List.forall₂_eq_eq_eq, List.forall₂_map_left_iff]
  constructor
  · rintro ⟨ts, hne, hts, rfl, h⟩
    rw [formDecode, pieces_join rfl hne fun t ht ↦ avoids_beq_iff.mpr (hts t ht)]
    exact (hpairs _).mp h
  · intro h
    refine ⟨pieces (· == '&') form, pieces_ne_nil _ form, fun t ht ↦ ?_,
      (join_pieces '&' form).symm, (hpairs _).mpr h⟩
    exact avoids_beq_iff.mp (avoids_of_mem_pieces ht)

end Text

end UrlCalculus
