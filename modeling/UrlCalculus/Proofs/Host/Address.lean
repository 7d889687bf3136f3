import UrlCalculus.Host.Ipv4
import UrlCalculus.Host.Ipv6
import UrlCalculus.Proofs.Text.Digits

/-!
# Addresses read back

The written form of an address is read as that address. For IPv4 these are the four bytes between
dots. For IPv6 the run of zeros that is left out has to come back: it is where the double colon is,
which is found since no other two colons stand side by side, and its length is what is missing to
eight pieces.
-/

namespace UrlCalculus

/-- Reading what each of some values was written as gives the values. -/
theorem mapM_map_eq_some {α β : Type} {read : β → Option α} {write : α → β} {as : List α}
    (h : ∀ a ∈ as, read (write a) = some a) : (as.map write).mapM read = some as := by
  induction as with
  | nil => rfl
  | cons a as ih =>
    rw [List.map_cons, List.mapM_cons, h a List.mem_cons_self,
      ih fun b hb ↦ h b (List.mem_cons_of_mem _ hb)]
    rfl

namespace Ipv4

/-! ## IPv4 -/

/-- A byte has no leading zero that would make it octal. -/
theorem number?_decimal : ∀ n < 256, number? (Text.decimal n) = some n := by decide +kernel

theorem lt_of_mem_bytes {a : Ipv4} {n : Nat} (h : n ∈ a.bytes) : n < 256 := by
  have hrange := a.inRange
  simp only [bytes, List.mem_cons, List.not_mem_nil, or_false] at h
  omega

theorem labels_text (a : Ipv4) : labels a.text = a.bytes.map Text.decimal := by
  have hpieces : Text.pieces (· == '.') a.text = a.bytes.map Text.decimal := by
    refine Text.pieces_join rfl (by simp [bytes]) fun t ht ↦ ?_
    obtain ⟨n, -, rfl⟩ := List.mem_map.mp ht
    exact Text.avoids_decimal (by decide) n
  have hlast : (a.bytes.map Text.decimal).getLast? = some (Text.decimal (a.bits % 256)) := rfl
  rw [labels, hpieces]
  refine if_neg fun h ↦ Text.decimal_ne_nil (a.bits % 256) ?_
  rw [hlast] at h
  exact Option.some.inj h

theorem endsInNumber_text (a : Ipv4) : endsInNumber a.text = true := by
  have hlast : (a.bytes.map Text.decimal).getLast? = some (Text.decimal (a.bits % 256)) := rfl
  have hnumber := number?_decimal (a.bits % 256) (by omega)
  rw [endsInNumber, labels_text, hlast]
  simp only [hnumber, Option.isSome_some, Bool.or_true]

theorem text_ne_nil (a : Ipv4) : a.text ≠ [] := by
  intro hnil
  have hnumber := endsInNumber_text a
  rw [hnil] at hnumber
  cases hnumber

theorem weigh_bytes (a : Ipv4) : weigh 3 a.bytes = a.bits := by
  simp only [bytes, weigh]
  omega

theorem fits_bytes (a : Ipv4) : fits 4 a.bytes = true := by
  have hrange := a.inRange
  simp only [bytes, fits, Bool.and_eq_true, decide_eq_true_eq]
  omega

theorem parse?_text (a : Ipv4) : parse? a.text = some a := by
  have hnumbers : (a.bytes.map Text.decimal).mapM number? = some a.bytes :=
    mapM_map_eq_some fun n hn ↦ number?_decimal n (lt_of_mem_bytes hn)
  have hrange : weigh 3 a.bytes < 1 <<< 32 := by
    rw [weigh_bytes]
    exact a.inRange
  rw [parse?, labels_text, hnumbers]
  change ofNumbers? a.bytes = some a
  rw [ofNumbers?, dif_pos ⟨fits_bytes a, hrange⟩]
  obtain ⟨bits, hbits⟩ := a
  simp only [Option.some.injEq, Ipv4.mk.injEq]
  exact weigh_bytes ⟨bits, hbits⟩

/-- What an address is written with. -/
theorem avoids_text {p : Char → Bool} (hdot : p '.' = false)
    (hdigits : ∀ d < 10, p (Nat.digitChar d) = false) (a : Ipv4) : Text.Avoids p a.text := by
  intro c hc
  rcases Text.mem_join hc with rfl | ⟨t, ht, hct⟩
  · exact hdot
  · obtain ⟨n, -, rfl⟩ := List.mem_map.mp ht
    exact Text.avoids_decimal hdigits n c hct

end Ipv4

namespace Ipv6

/-! ## The run of zeros -/

theorem take_leadingZeros (ps : List Nat) :
    List.replicate (leadingZeros ps) 0 ++ ps.drop (leadingZeros ps) = ps := by
  induction ps with
  | nil => rfl
  | cons p ps ih =>
    rw [leadingZeros] at ih ⊢
    by_cases hp : p = 0
    · subst hp
      rw [List.takeWhile_cons_of_pos (by rfl), List.length_cons, List.replicate_succ,
        List.drop_succ_cons, List.cons_append, ih]
    · rw [List.takeWhile_cons_of_neg (by simpa using hp)]
      rfl

/-- What is left out really is a run of zeros. -/
theorem take_longestZeros (ps : List Nat) :
    ps.take (longestZeros ps).1 ++ (List.replicate (longestZeros ps).2 0 ++
      ps.drop ((longestZeros ps).1 + (longestZeros ps).2)) = ps := by
  induction ps with
  | nil => rfl
  | cons p ps ih =>
    rw [longestZeros]
    by_cases hlt : leadingZeros (p :: ps) < (longestZeros ps).2
    · simp only [if_pos hlt]
      rw [List.take_succ_cons, Nat.add_right_comm, List.drop_succ_cons, List.cons_append, ih]
    · simp only [if_neg hlt]
      rw [List.take_zero, List.nil_append, Nat.zero_add, take_leadingZeros]

/-! ## Pieces -/

theorem piece?_hexadecimal {n : Nat} (h : n < 1 <<< 16) : piece? (Text.hexadecimal n) = some n := by
  rw [piece?, if_pos (Text.length_hexadecimal_le h), Text.number?_hexadecimal]

variable {ps qs : List Nat}

theorem partPieces?_hexadecimal (ipv4Allowed : Bool) (h : ∀ p ∈ ps, p < 1 <<< 16) :
    partPieces? ipv4Allowed (ps.map Text.hexadecimal) = some ps := by
  induction ps with
  | nil => rfl
  | cons p ps ih =>
    have hp := piece?_hexadecimal (h p List.mem_cons_self)
    have hps := ih fun q hq ↦ h q (List.mem_cons_of_mem _ hq)
    cases ps with
    | nil => simp only [List.map_cons, List.map_nil, partPieces?, hp]
    | cons q ps =>
      rw [List.map_cons, partPieces?, hp, hps]
      · rfl
      · rintro ⟨⟩

theorem avoids_colon_hexadecimal (n : Nat) : Text.Avoids (· == ':') (Text.hexadecimal n) :=
  Text.avoids_hexadecimal (by decide) n

theorem piecesText_ne_nil (h : ps ≠ []) : piecesText ps ≠ [] := by
  cases ps with
  | nil => exact absurd rfl h
  | cons p ps =>
    have hp := Text.hexadecimal_ne_nil p
    cases ps with
    | nil => exact hp
    | cons q ps =>
      rw [piecesText, List.map_cons, List.map_cons, Text.join_cons_cons]
      simp

theorem part?_piecesText (ipv4Allowed : Bool) (ps : List Nat) (h : ∀ p ∈ ps, p < 1 <<< 16) :
    part? ipv4Allowed (piecesText ps) = some ps := by
  by_cases hnil : ps = []
  · subst hnil
    rfl
  · rw [part?, if_neg (by simpa using piecesText_ne_nil hnil), piecesText,
      Text.pieces_join rfl (by simpa using hnil), partPieces?_hexadecimal ipv4Allowed h]
    intro t ht
    obtain ⟨n, -, rfl⟩ := List.mem_map.mp ht
    exact avoids_colon_hexadecimal n

/-! ## The double colon -/

/-- Characters without a colon are passed over. -/
theorem cutDoubleColon?_append {t : Text} (h : Text.Avoids (· == ':') t) (rest : Text) :
    cutDoubleColon? (t ++ rest) =
      (cutDoubleColon? rest).map fun (front, back) ↦ (t ++ front, back) := by
  induction t with
  | nil =>
    cases hcut : cutDoubleColon? rest with
    | none => simp [hcut]
    | some found => simp [hcut]
  | cons c t ih =>
    rw [Text.avoids_cons] at h
    rw [List.cons_append, cutDoubleColon?, ih h.2]
    · cases cutDoubleColon? rest with
      | none => rfl
      | some found => rfl
    · rintro rest' rfl
      cases h.1

/-- A colon between two digits is passed over. -/
theorem cutDoubleColon?_colon {t : Text} (h : t.head? ≠ some ':') :
    cutDoubleColon? (':' :: t) =
      (cutDoubleColon? t).map fun (front, back) ↦ (':' :: front, back) := by
  rw [cutDoubleColon?]
  rintro rest - rfl
  exact h rfl

theorem head?_hexadecimal_append (n : Nat) (rest : Text) :
    (Text.hexadecimal n ++ rest).head? ≠ some ':' := by
  have havoids := avoids_colon_hexadecimal n
  cases ht : Text.hexadecimal n with
  | nil => exact absurd ht (Text.hexadecimal_ne_nil n)
  | cons c t =>
    rw [ht, Text.avoids_cons] at havoids
    rintro ⟨⟩
    cases havoids.1

theorem cutDoubleColon?_piecesText (ps : List Nat) : cutDoubleColon? (piecesText ps) = none := by
  induction ps with
  | nil => rfl
  | cons p ps ih =>
    cases ps with
    | nil =>
      have h := cutDoubleColon?_append (avoids_colon_hexadecimal p) []
      rwa [List.append_nil] at h
    | cons q ps =>
      -- behind a single colon stands a digit
      have hhead : (piecesText (q :: ps)).head? ≠ some ':' := by
        cases ps with
        | nil => simpa [piecesText, Text.join] using head?_hexadecimal_append q []
        | cons r ps => exact head?_hexadecimal_append q _
      rw [piecesText, List.map_cons, List.map_cons, Text.join_cons_cons,
        cutDoubleColon?_append (avoids_colon_hexadecimal p), ← List.map_cons, ← piecesText,
        cutDoubleColon?_colon hhead, ih]
      rfl

/-- **The double colon is found where it was written.** -/
theorem cutDoubleColon?_piecesText_append (ps : List Nat) (rest : Text) :
    cutDoubleColon? (piecesText ps ++ ':' :: ':' :: rest) = some (piecesText ps, rest) := by
  induction ps with
  | nil => rfl
  | cons p ps ih =>
    cases ps with
    | nil =>
      have h := cutDoubleColon?_append (avoids_colon_hexadecimal p) (':' :: ':' :: rest)
      simp only [cutDoubleColon?, Option.map_some, List.append_nil] at h
      exact h
    | cons q ps =>
      have hhead : (piecesText (q :: ps) ++ ':' :: ':' :: rest).head? ≠ some ':' := by
        cases ps with
        | nil => simpa [piecesText, Text.join] using head?_hexadecimal_append q (':' :: ':' :: rest)
        | cons r ps =>
          rw [piecesText, List.map_cons, List.map_cons, Text.join_cons_cons, List.append_assoc]
          exact head?_hexadecimal_append q _
      rw [piecesText, List.map_cons, List.map_cons, Text.join_cons_cons, List.append_assoc,
        cutDoubleColon?_append (avoids_colon_hexadecimal p), List.cons_append, ← List.map_cons,
        ← piecesText, cutDoubleColon?_colon hhead, ih]
      rfl

/-! ## IPv6 -/

theorem ofPieces?_pieces (a : Ipv6) : ofPieces? a.pieces = some a := by
  rw [ofPieces?, dif_pos a.wellFormed]

theorem parse?_text (a : Ipv6) : parse? a.text = some a := by
  obtain ⟨hlength, hrange⟩ := a.wellFormed
  rw [text]
  by_cases hlt : (longestZeros a.pieces).2 < 2
  · simp only [if_pos hlt]
    rw [parse?, cutDoubleColon?_piecesText]
    simp only [part?_piecesText true a.pieces hrange]
    exact ofPieces?_pieces a
  · simp only [if_neg hlt]
    -- the pieces in front of the run and behind it are read; their number tells its length
    have hsplit := take_longestZeros a.pieces
    generalize hstart : (longestZeros a.pieces).1 = start at hsplit
    generalize hcount : (longestZeros a.pieces).2 = count at hsplit hlt
    have hfront := part?_piecesText false (a.pieces.take start)
      fun p hp ↦ hrange p (List.mem_of_mem_take hp)
    have hback := part?_piecesText true (a.pieces.drop (start + count))
      fun p hp ↦ hrange p (List.mem_of_mem_drop hp)
    have hsum := congrArg List.length hsplit
    rw [List.length_append, List.length_append, List.length_replicate, hlength] at hsum
    have hcount' : 8 - (a.pieces.take start).length - (a.pieces.drop (start + count)).length =
        count := by omega
    rw [parse?, List.append_assoc]
    simp only [List.cons_append, List.nil_append]
    rw [cutDoubleColon?_piecesText_append]
    simp only [hfront, hback, Option.bind_eq_bind, Option.bind_some]
    rw [if_pos (by omega), hcount', List.append_assoc, hsplit, ofPieces?_pieces]

/-- What an address is written with. -/
theorem avoids_text {p : Char → Bool} (hcolon : p ':' = false)
    (hdigits : ∀ d < 16, p (Nat.digitChar d) = false) (a : Ipv6) : Text.Avoids p a.text := by
  have hpieces (ps : List Nat) : Text.Avoids p (piecesText ps) := by
    intro c hc
    rcases Text.mem_join hc with rfl | ⟨t, ht, hct⟩
    · exact hcolon
    · obtain ⟨n, -, rfl⟩ := List.mem_map.mp ht
      exact Text.avoids_hexadecimal hdigits n c hct
  rw [text]
  split
  rename_i start count hzeros
  split
  · exact hpieces _
  · simp [hpieces, hcolon]

end Ipv6

end UrlCalculus
