import Mathlib.Data.List.DropRight
import UrlCalculus.Json.Number
import UrlCalculus.Proofs.Json.Shortest

/-!
# How the text of a number begins

A port is read off the front of the text of a number: digits count up to the first character that is
none. What stands there depends on the layout. A nonnegative number that is written without an
exponent begins with its whole part, even though the shortest decimal is only near to it; with an
exponent it begins with its leading digit alone. A sign comes before any digit.
-/

namespace UrlCalculus

namespace Text

/-- A text that begins with a number, which a point or an exponent may follow. -/
def Leads (k : Nat) (t : Text) : Prop :=
  ∃ rest, t = decimal k ++ rest ∧ ∀ c ∈ rest.head?, c = '.' ∨ c = 'e'

theorem leads_decimal (k : Nat) : Leads k (decimal k) :=
  ⟨[], (List.append_nil _).symm, by simp⟩

theorem leads_point (k : Nat) (rest : Text) : Leads k (decimal k ++ '.' :: rest) :=
  ⟨_, rfl, by simp⟩

theorem leads_exponent (k : Nat) (rest : Text) : Leads k (decimal k ++ 'e' :: rest) :=
  ⟨_, rfl, by simp⟩

end Text

namespace Binary64

variable {x : Binary64} {n p : Nat} {e : Int} {t : Text}

/-! ## The digits of a decimal -/

/-- The value of a decimal digit. -/
def digitValue (c : Char) : Nat := c.toNat - '0'.toNat

theorem decimalDigits_eq (n : Nat) : decimalDigits n = (Text.decimal n).map digitValue := rfl

theorem digitChar_digitValue : ∀ d < 10, (digitValue d.digitChar).digitChar = d.digitChar := by
  decide

theorem digitValue_lt : ∀ d < 10, digitValue d.digitChar < 10 := by decide

/-- A text that has no other characters than digits. -/
def Digits (t : Text) : Prop := ∀ c ∈ t, ∃ d < 10, c = d.digitChar

theorem digits_decimal (n : Nat) : Digits (Text.decimal n) :=
  fun _ hc ↦ Text.mem_toDigits (by omega) hc

theorem toList_toString_digitValue {c : Char} (h : ∃ d < 10, c = d.digitChar) :
    (toString (digitValue c)).toList = [c] := by
  obtain ⟨d, hd, rfl⟩ := h
  rw [Nat.toString_eq_repr, Nat.toList_repr, Nat.toDigits_of_lt_base (digitValue_lt d hd),
    digitChar_digitValue d hd]

/-- Digits are written as they were read. -/
theorem toList_digitsText (ht : Digits t) : (digitsText (t.map digitValue)).toList = t := by
  rw [digitsText, String.toList_join, List.map_map]
  induction t with
  | nil => rfl
  | cons c t ih =>
    rw [List.map_cons, List.flatMap_cons, ih fun d hd ↦ ht d (.tail _ hd), Function.comp_apply,
      toList_toString_digitValue (ht c (.head _)), List.singleton_append]

theorem toList_zerosText (k : Nat) : (zerosText k).toList = List.replicate k '0' := by
  have hzeros : List.replicate k 0 = (List.replicate k '0').map digitValue := by
    rw [List.map_replicate]
    rfl
  rw [zerosText, hzeros, toList_digitsText]
  intro c hc
  exact ⟨0, by omega, List.eq_of_mem_replicate hc⟩

/-- A number without the zeros at its end. -/
def significant (n : Nat) : Text := (Text.decimal n).rdropWhile (digitValue · == 0)

theorem digits_significant (n : Nat) : Digits (significant n) := fun c hc ↦
  digits_decimal n c ((List.rdropWhile_prefix _ _).subset hc)

theorem eq_zero_of_digitValue : ∀ d < 10, digitValue d.digitChar == 0 → d.digitChar = '0' := by
  decide

theorem exists_significant_append (n : Nat) :
    ∃ k, Text.decimal n = significant n ++ List.replicate k '0' := by
  refine ⟨((Text.decimal n).rtakeWhile (digitValue · == 0)).length, ?_⟩
  rw [significant, ← List.eq_replicate_of_mem fun c hc ↦ ?_]
  · exact (List.rdropWhile_append_rtakeWhile ..).symm
  · obtain ⟨d, hd, rfl⟩ := digits_decimal n c ((List.rtakeWhile_suffix _ _).subset hc)
    have hzero := List.mem_rtakeWhile_imp hc
    exact eq_zero_of_digitValue d hd hzero

theorem shortest_eq (h : x.searchDecimal x.decimalPoint 1 20 = some (n, e)) :
    x.shortest = ⟨(significant n).map digitValue, e + (Text.decimal n).length⟩ := by
  have hdigits : ((decimalDigits n).reverse.dropWhile (· == 0)).reverse =
      (significant n).map digitValue := by
    rw [decimalDigits_eq, ← List.map_reverse, List.dropWhile_map, ← List.map_reverse]
    rfl
  have hlength : (decimalDigits n).length = (Text.decimal n).length := List.length_map _
  rw [shortest, h, ← hdigits, ← hlength]

/-! ## Texts of decimals -/

theorem positionalText_succ (digits : List Nat) (m : Nat) :
    positionalText ⟨digits, (m + 1 : Nat)⟩ =
      if digits.length ≤ m + 1 then
        digitsText digits ++ zerosText (m + 1 - digits.length) ++ ".0"
      else digitsText (digits.take (m + 1)) ++ "." ++ digitsText (digits.drop (m + 1)) := rfl

/-- In front of the point there are the leading digits, with zeros behind them as needed. -/
theorem exists_toList_positionalText (ht : Digits t) (hp : p ≠ 0) :
    ∃ rest, (positionalText ⟨t.map digitValue, p⟩).toList =
      (t ++ List.replicate p '0').take p ++ '.' :: rest := by
  obtain ⟨m, rfl⟩ := Nat.exists_eq_succ_of_ne_zero hp
  rw [positionalText_succ, List.length_map]
  split
  · rename_i hle
    refine ⟨['0'], ?_⟩
    rw [String.toList_append, String.toList_append, toList_digitsText ht, toList_zerosText,
      List.take_append, List.take_of_length_le hle, List.take_replicate,
      Nat.min_eq_left (by omega)]
    rfl
  · rename_i hlt
    refine ⟨(digitsText ((t.map digitValue).drop (m + 1))).toList, ?_⟩
    have htake : Digits (t.take (m + 1)) := fun c hc ↦ ht c (List.mem_of_mem_take hc)
    rw [String.toList_append, String.toList_append, ← List.map_take, toList_digitsText htake,
      List.take_append_of_le_length (by omega), List.append_assoc]
    rfl

/-- The whole part of the decimal of which `p` digits stand in front of the point. -/
theorem decimal_scaled (hn : n ≠ 0) (hp : p ≠ 0) :
    Text.decimal (n * 10 ^ p / 10 ^ (Text.decimal n).length) =
      (significant n ++ List.replicate p '0').take p := by
  obtain ⟨k, hk⟩ := exists_significant_append n
  have hscaled : Text.decimal (n * 10 ^ p) = Text.decimal n ++ List.replicate p '0' :=
    Text.decimal_mul_pow hn p
  have hlength : (Text.decimal (n * 10 ^ p)).length = p + (Text.decimal n).length := by
    rw [hscaled, List.length_append, List.length_replicate, Nat.add_comm]
  rw [Text.decimal_div_pow (by omega), hlength, Nat.add_sub_cancel, hscaled, hk,
    List.append_assoc, List.replicate_append_replicate, List.take_append, List.take_append,
    List.take_replicate, List.take_replicate, Nat.min_eq_left (by omega),
    Nat.min_eq_left (by omega)]

/-- A decimal of at least one begins with its whole part. -/
theorem leads_positionalText (hn : n ≠ 0) (hp : p ≠ 0) :
    Text.Leads (n * 10 ^ p / 10 ^ (Text.decimal n).length)
      (positionalText ⟨(significant n).map digitValue, p⟩).toList := by
  obtain ⟨rest, hrest⟩ := exists_toList_positionalText (digits_significant n) hp
  rw [hrest, ← decimal_scaled hn hp]
  exact Text.leads_point _ _

theorem leads_zero (s : String) : Text.Leads 0 ("0." ++ s).toList := by
  rw [String.toList_append]
  exact Text.leads_point 0 s.toList

/-- A decimal below one begins with zero. -/
theorem leads_positionalText_of_nonpos (digits : List Nat) (hp : e ≤ 0) :
    Text.Leads 0 (positionalText ⟨digits, e⟩).toList := by
  cases e with
  | ofNat k =>
    obtain rfl : k = 0 := by simpa using hp
    exact leads_zero (digitsText digits)
  | negSucc k =>
    have htext : positionalText ⟨digits, .negSucc k⟩ =
      "0." ++ (zerosText (k + 1) ++ digitsText digits) := String.append_assoc
    rw [htext]
    exact leads_zero _

/-- Behind the leading digit of a decimal with an exponent come a fraction and the exponent. -/
theorem exists_exponentText (d : Decimal) :
    ∃ fraction exponent, (fraction = "" ∨ ∃ s, fraction = "." ++ s) ∧
      exponentText jsonLayout d =
        digitsText (d.digits.take 1) ++ (fraction ++ ("e" ++ exponent)) := by
  obtain ⟨exponent, hexponent⟩ : ∃ exponent, exponentText jsonLayout d =
      digitsText (d.digits.take 1) ++ (if (d.digits.drop 1).isEmpty then "" else
        "." ++ digitsText (d.digits.drop 1)) ++ ("e" ++ exponent) := by
    rw [exponentText]
    have hplus : jsonLayout.positiveExponent = "e" ++ "+" := rfl
    have hminus : "e-" = "e" ++ "-" := rfl
    cases d.point - 1 with
    | ofNat k => exact ⟨"+" ++ toString k, by simp only [hplus, String.append_assoc]⟩
    | negSucc k => exact ⟨"-" ++ toString (k + 1), by simp only [hminus, String.append_assoc]⟩
  refine ⟨_, exponent, ?_, hexponent.trans String.append_assoc⟩
  split
  · exact .inl rfl
  · exact .inr ⟨_, rfl⟩

/-- A decimal with an exponent begins with its leading digit alone. -/
theorem leads_exponentText {c : Char} (ht : Digits (c :: t)) :
    Text.Leads (digitValue c) (exponentText jsonLayout ⟨(c :: t).map digitValue, e⟩).toList := by
  obtain ⟨fraction, exponent, hfraction, htext⟩ :=
    exists_exponentText ⟨(c :: t).map digitValue, e⟩
  obtain ⟨d, hd, rfl⟩ := ht c (.head _)
  have hdecimal : Text.decimal (digitValue d.digitChar) = [d.digitChar] := by
    rw [Text.decimal, Nat.toDigits_of_lt_base (digitValue_lt d hd), digitChar_digitValue d hd]
  have hfirst : (digitsText [digitValue d.digitChar]).toList = [d.digitChar] :=
    toList_digitsText (t := [d.digitChar]) fun c hc ↦ ⟨d, hd, List.mem_singleton.mp hc⟩
  rw [htext, String.toList_append, List.map_cons, List.take_succ_cons, List.take_zero, hfirst,
    ← hdecimal]
  rcases hfraction with rfl | ⟨s, rfl⟩
  · rw [String.empty_append, String.toList_append]
    exact Text.leads_exponent _ _
  · rw [String.append_assoc, String.toList_append]
    exact Text.leads_point _ _

/-! ## The number at the front -/

/-- Whether a number is written without an exponent. -/
def isPositional (x : Binary64) : Bool :=
  x.isZero || decide (jsonLayout.leastPoint ≤ x.shortest.point ∧
    x.shortest.point ≤ jsonLayout.greatestPoint)

/-- The number at the front of the text of a nonnegative number: its whole part, or its leading
digit alone if an exponent follows. -/
def front (x : Binary64) : Nat :=
  if x.isPositional then x.whole else x.shortest.digits.headD 0

theorem scaled_div_eq {p : Nat} (h : e + (Text.decimal n).length = p) :
    n * (scaleByPow10 1 e).1 / (scaleByPow10 1 e).2 =
      n * 10 ^ p / 10 ^ (Text.decimal n).length := by
  have hscale := scaleByPow10_sub (e := e) (p := p) (k := (Text.decimal n).length) (by omega)
  have hb := (scaleByPow10_pos e).2
  have hpow : 0 < 10 ^ (Text.decimal n).length := Nat.pow_pos (by omega)
  calc n * (scaleByPow10 1 e).1 / (scaleByPow10 1 e).2
      = n * ((scaleByPow10 1 e).1 * 10 ^ (Text.decimal n).length) /
          ((scaleByPow10 1 e).2 * 10 ^ (Text.decimal n).length) := by
        rw [← Nat.mul_assoc, Nat.mul_div_mul_right _ _ hpow]
    _ = (scaleByPow10 1 e).2 * (n * 10 ^ p) /
          ((scaleByPow10 1 e).2 * 10 ^ (Text.decimal n).length) := by
        rw [hscale, Nat.mul_left_comm]
    _ = n * 10 ^ p / 10 ^ (Text.decimal n).length := Nat.mul_div_mul_left _ _ hb

theorem scaled_div_eq_zero (h : e + (Text.decimal n).length ≤ 0) :
    n * (scaleByPow10 1 e).1 / (scaleByPow10 1 e).2 = 0 := by
  obtain ⟨k, hk⟩ := Int.eq_ofNat_of_zero_le (by omega : 0 ≤ -e)
  have hscale := scaleByPow10_sub (e := e) (p := 0) (k := k) (by omega)
  have hlt : n < 10 ^ k :=
    (Text.lt_pow_length_decimal n).trans_le (Nat.pow_le_pow_right (by omega) (by omega))
  apply Nat.div_eq_of_lt
  apply Nat.lt_of_mul_lt_mul_right (a := 10 ^ k)
  rw [Nat.mul_assoc, hscale, Nat.pow_zero, Nat.mul_one, Nat.mul_comm]
  exact Nat.mul_lt_mul_of_pos_left hlt (scaleByPow10_pos e).2

/-- A decimal is laid out with its whole part in front. -/
theorem leads_positionalText_shortest (h : x.searchDecimal x.decimalPoint 1 20 = some (n, e)) :
    Text.Leads (n * (scaleByPow10 1 e).1 / (scaleByPow10 1 e).2)
      (positionalText x.shortest).toList := by
  have hne := (of_neighbour? (of_searchDecimal h)).1
  rw [shortest_eq h]
  rcases lt_or_ge 0 (e + ((Text.decimal n).length : Int)) with hpoint | hpoint
  · obtain ⟨p, hp⟩ := Int.eq_ofNat_of_zero_le hpoint.le
    rw [scaled_div_eq hp, hp]
    exact leads_positionalText hne (by omega)
  · rw [scaled_div_eq_zero hpoint]
    exact leads_positionalText_of_nonpos _ hpoint

theorem significant_ne_nil (hn : n ≠ 0) : significant n ≠ [] := by
  intro hnil
  obtain ⟨k, hk⟩ := exists_significant_append n
  have hread : Text.numberFrom? 10 0 (Text.decimal n) = some n :=
    Text.numberFrom?_toDigits (by omega) (by omega) n
  rw [hk, hnil, List.nil_append, ← List.append_nil (List.replicate k '0'),
    Text.numberFrom?_replicate_zero] at hread
  exact hn (Option.some.inj hread).symm

theorem whole_eq_zero (hzero : x.isZero = true) : x.whole = 0 := by
  rw [whole, units_eq, beq_iff_eq.mp hzero, Nat.zero_mul, Nat.zero_div]

/-- **The front of the text of a number.** Up to numbers that are too large for it to matter, it is
the number that `front` says. -/
theorem exists_leads_text (hnegative : x.negative = false) :
    ∃ k, Text.Leads k x.text.toList ∧ (k = x.front ∨ 1 <<< 52 ≤ k ∧ 1 <<< 52 ≤ x.front) := by
  rw [text, front, isPositional, hnegative, if_neg Bool.false_ne_true, String.empty_append,
    decimalText]
  by_cases hzero : x.isZero = true
  · rw [hzero, if_pos rfl, Bool.true_or, if_pos rfl, whole_eq_zero hzero]
    exact ⟨0, leads_zero "0", .inl rfl⟩
  · rw [Bool.not_eq_true] at hzero
    rw [hzero, Bool.false_or, if_neg Bool.false_ne_true]
    cases hsearch : x.searchDecimal x.decimalPoint 1 20 with
    | none =>
      have hshortest : x.shortest = ⟨[], 0⟩ := by rw [shortest, hsearch]
      have hwhole : x.whole = 0 := by
        by_contra hne
        obtain ⟨n, e, hfound⟩ := exists_of_whole_ne_zero hne
        cases hsearch.symm.trans hfound
      rw [hshortest, hwhole]
      exact ⟨0, leads_positionalText_of_nonpos [] (Int.le_refl 0), .inl (by decide)⟩
    | some r =>
      obtain ⟨n, e⟩ := r
      by_cases hpoint : jsonLayout.leastPoint ≤ x.shortest.point ∧
          x.shortest.point ≤ jsonLayout.greatestPoint
      · rw [if_pos hpoint, if_pos (decide_eq_true hpoint)]
        exact ⟨_, leads_positionalText_shortest hsearch, whole_of_searchDecimal hzero hsearch⟩
      · rw [if_neg hpoint, if_neg (by simpa using hpoint), shortest_eq hsearch]
        obtain ⟨c, t, ht⟩ := List.exists_cons_of_ne_nil
          (significant_ne_nil (of_neighbour? (of_searchDecimal hsearch)).1)
        have hdigits := digits_significant n
        rw [ht] at hdigits ⊢
        exact ⟨digitValue c, leads_exponentText hdigits, .inl rfl⟩

/-- A number of at least one and of less than sixteen digits is written without an exponent. -/
theorem isPositional_of_whole (hne : x.whole ≠ 0) (hlt : x.whole < 10 ^ 15) :
    x.isPositional = true := by
  obtain ⟨n, e, hsearch⟩ := exists_of_whole_ne_zero hne
  have hzero : x.isZero = false := by
    by_contra h
    exact hne (whole_eq_zero (by simpa using h))
  have hwhole := (whole_of_searchDecimal hzero hsearch).resolve_right (by omega)
  have hpos : 0 < e + ((Text.decimal n).length : Int) := by
    by_contra hnonpos
    exact hne (hwhole.symm.trans (scaled_div_eq_zero (by omega)))
  obtain ⟨p, hp⟩ := Int.eq_ofNat_of_zero_le hpos.le
  -- The digits in front of the point are those of the whole part.
  have hlength : (Text.decimal x.whole).length = p := by
    rw [← hwhole, scaled_div_eq hp,
      decimal_scaled (of_neighbour? (of_searchDecimal hsearch)).1 (by omega), List.length_take,
      List.length_append, List.length_replicate]
    omega
  have hp16 : p ≤ 15 := by
    rw [← hlength]
    exact (Nat.length_toDigits_le_iff (by omega) (by omega)).mpr hlt
  have hpoint : x.shortest.point = p := by rw [shortest_eq hsearch, ← hp]
  rw [isPositional, hpoint, Bool.or_eq_true, decide_eq_true_eq]
  exact .inr ⟨by simp only [jsonLayout]; omega, by simp only [jsonLayout]; omega⟩

theorem isPositional_of_isZero (hzero : x.isZero = true) : x.isPositional = true := by
  rw [isPositional, hzero, Bool.true_or]

end Binary64

namespace Number

variable {n : Number} {k : Nat}

/-- The number at the front of the text of a number, which has none if there is a sign. -/
def front? : Number → Option Nat
  | .natural n _ => some n
  | .negative _ _ => none
  | .binary x => if x.negative then none else some x.front

theorem text_of_front?_eq_none (h : n.front? = none) : ∃ s, n.text = "-" ++ s := by
  cases n with
  | natural n _ => cases h
  | negative n _ => exact ⟨_, rfl⟩
  | binary x =>
    rw [front?] at h
    split at h
    · rename_i hnegative
      rw [text, Binary64.text, if_pos hnegative]
      exact ⟨_, rfl⟩
    · cases h

theorem exists_leads_text (h : n.front? = some k) :
    ∃ m, Text.Leads m n.text.toList ∧ (m = k ∨ 1 <<< 52 ≤ m ∧ 1 <<< 52 ≤ k) := by
  cases n with
  | natural n _ =>
    cases h
    rw [text, Nat.toString_eq_repr, Nat.toList_repr]
    exact ⟨k, Text.leads_decimal k, .inl rfl⟩
  | negative n _ => cases h
  | binary x =>
    rw [front?] at h
    split at h
    · cases h
    · rename_i hnegative
      cases h
      exact Binary64.exists_leads_text (Bool.not_eq_true _ ▸ hnegative)

/-- A number that denotes the given natural number. -/
def EqualsNat : Number → Nat → Prop
  | .natural n _, m => n = m
  | .negative _ _, _ => False
  | .binary x, m => x.negative = false ∧ x.units = m * Binary64.unitsPerOne

/-- The number at the front of the text of an integer is that one, if it is not too long. -/
theorem front?_of_equalsNat (h : n.EqualsNat k) (hk : k < 10 ^ 15) : n.front? = some k := by
  cases n with
  | natural n _ => exact congrArg some h
  | negative n _ => cases h
  | binary x =>
    obtain ⟨hnegative, hunits⟩ := h
    have hwhole : x.whole = k := by
      rw [Binary64.whole, hunits, Nat.mul_div_cancel _ Binary64.unitsPerOne_pos]
    have hpositional : x.isPositional = true := by
      by_cases hzero : k = 0
      · apply Binary64.isPositional_of_isZero
        rw [hzero, Nat.zero_mul, Binary64.units_eq, Nat.mul_eq_zero] at hunits
        exact beq_iff_eq.mpr (hunits.resolve_right (Nat.two_pow_pos _).ne')
      · exact Binary64.isPositional_of_whole (by omega) (by omega)
    rw [front?, if_neg (by simp [hnegative]), Binary64.front, if_pos hpositional, hwhole]

end Number

end UrlCalculus
