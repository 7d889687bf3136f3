import Mathlib.Algebra.Group.Nat.Defs
import Mathlib.Data.List.Induction
import UrlCalculus.Proofs.Text.Cutting
import UrlCalculus.Text.Digits

/-!
# Reading the digits of a number

The digits of a number in a base of at most sixteen are read as that number, and a number that
digits are enough for has no more of them. In base ten the converse holds as well: what is read as a
number is its digits, with any number of zeros in front.
-/

namespace UrlCalculus

namespace Text

theorem digitValue?_digitChar {base n : Nat} (hbase : base ≤ 16) (hn : n < base) :
    digitValue? base n.digitChar = some n := by
  have hhex : ∀ m < 16, hexDigitValue? m.digitChar = some m := by decide
  rw [digitValue?, hhex n (by omega), Option.filter_some, if_pos (by simpa using hn)]

theorem numberFrom?_append (base n : Nat) (t : Text) (c : Char) :
    numberFrom? base n (t ++ [c]) =
      (numberFrom? base n t).bind fun m ↦ (digitValue? base c).map fun d ↦ m * base + d := by
  induction t generalizing n with
  | nil =>
    rw [List.nil_append, numberFrom?, numberFrom?, Option.bind_some]
    cases digitValue? base c with
    | none => rfl
    | some d => rfl
  | cons e t ih =>
    rw [List.cons_append, numberFrom?, numberFrom?]
    cases digitValue? base e with
    | none => rfl
    | some d => exact ih (n * base + d)

variable {base : Nat}

/-- Reading digits gives the number back: the last digit is what is left of it behind a multiple of
the base. -/
theorem numberFrom?_toDigits (hlow : 1 < base) (hhigh : base ≤ 16) (n : Nat) :
    numberFrom? base 0 (Nat.toDigits base n) = some n := by
  induction n using Nat.strongRecOn with
  | ind n ih =>
    have hmod : n % base < base := Nat.mod_lt _ (by omega)
    by_cases hlt : n < base
    · rw [Nat.toDigits_of_lt_base hlt, numberFrom?, digitValue?_digitChar hhigh hlt]
      exact congrArg some (by omega)
    · have hle : base ≤ n := Nat.le_of_not_lt hlt
      rw [Nat.toDigits_of_base_le hlow hle, numberFrom?_append,
        ih (n / base) (Nat.div_lt_self (by omega) hlow), Option.bind_some,
        digitValue?_digitChar hhigh hmod, Option.map_some, Nat.div_add_mod']

theorem number?_toDigits (hlow : 1 < base) (hhigh : base ≤ 16) (n : Nat) :
    number? base (Nat.toDigits base n) = some n := by
  rw [number?, if_neg (by simp), numberFrom?_toDigits hlow hhigh]

theorem number?_decimal (n : Nat) : number? 10 (decimal n) = some n :=
  number?_toDigits (by omega) (by omega) n

theorem number?_hexadecimal (n : Nat) : number? 16 (hexadecimal n) = some n :=
  number?_toDigits (by omega) (by omega) n

theorem mem_toDigits (hlow : 1 < base) {n : Nat} {c : Char} (h : c ∈ Nat.toDigits base n) :
    ∃ d < base, c = d.digitChar := by
  induction n using Nat.strongRecOn with
  | ind n ih =>
    by_cases hlt : n < base
    · rw [Nat.toDigits_of_lt_base hlt, List.mem_singleton] at h
      exact ⟨n, hlt, h⟩
    · have hle : base ≤ n := Nat.le_of_not_lt hlt
      rw [Nat.toDigits_of_base_le hlow hle, List.mem_append, List.mem_singleton] at h
      rcases h with h | h
      · exact ih (n / base) (Nat.div_lt_self (by omega) hlow) h
      · exact ⟨n % base, Nat.mod_lt _ (by omega), h⟩

/-- A text of digits avoids all that digits avoid. -/
theorem avoids_decimal {p : Char → Bool} (h : ∀ d < 10, p d.digitChar = false) (n : Nat) :
    Avoids p (decimal n) := by
  intro c hc
  obtain ⟨d, hd, rfl⟩ := mem_toDigits (by omega) hc
  exact h d hd

theorem avoids_hexadecimal {p : Char → Bool} (h : ∀ d < 16, p d.digitChar = false) (n : Nat) :
    Avoids p (hexadecimal n) := by
  intro c hc
  obtain ⟨d, hd, rfl⟩ := mem_toDigits (by omega) hc
  exact h d hd

theorem decimal_ne_nil (n : Nat) : decimal n ≠ [] := Nat.toDigits_ne_nil

theorem hexadecimal_ne_nil (n : Nat) : hexadecimal n ≠ [] := Nat.toDigits_ne_nil

theorem isDigit_of_mem_decimal {n : Nat} {c : Char} (h : c ∈ decimal n) : c.isDigit = true :=
  Nat.isDigit_of_mem_toDigits (by omega) (by omega) h

/-- A number of sixteen bits has at most four digits in base sixteen. -/
theorem length_hexadecimal_le {n : Nat} (h : n < 1 <<< 16) : (hexadecimal n).length ≤ 4 :=
  (Nat.length_toDigits_le_iff (by omega) (by omega)).mpr (by omega)

/-! ## How many digits a number has -/

theorem length_decimal_pos (n : Nat) : 0 < (decimal n).length :=
  List.length_pos_iff.mpr (decimal_ne_nil n)

theorem lt_pow_length_decimal (n : Nat) : n < 10 ^ (decimal n).length :=
  (Nat.length_toDigits_le_iff (by omega) (length_decimal_pos n)).mp (Nat.le_refl _)

/-- Without leading zeros a number is not smaller than its digits say. -/
theorem pow_length_decimal_le {n : Nat} (h : n ≠ 0) : 10 ^ ((decimal n).length - 1) ≤ n := by
  by_cases hone : (decimal n).length = 1
  · rw [hone]
    exact Nat.pos_of_ne_zero h
  · have hpos := length_decimal_pos n
    by_contra hlt
    have hle : (decimal n).length ≤ (decimal n).length - 1 :=
      (Nat.length_toDigits_le_iff (by omega) (by omega)).mpr (Nat.not_le.mp hlt)
    omega

/-! ## Multiplying and dividing by ten -/

theorem decimal_of_le {n : Nat} (h : 10 ≤ n) :
    decimal n = decimal (n / 10) ++ [(n % 10).digitChar] :=
  Nat.toDigits_of_base_le (by omega) h

/-- A zero behind the digits is a factor of ten. -/
theorem decimal_mul_pow {n : Nat} (h : n ≠ 0) (k : Nat) :
    decimal (n * 10 ^ k) = decimal n ++ List.replicate k '0' := by
  induction k with
  | zero => simp
  | succ k ih =>
    have hpos : 0 < n * 10 ^ k := Nat.mul_pos (Nat.pos_of_ne_zero h) (Nat.pow_pos (by omega))
    rw [Nat.pow_succ, ← Nat.mul_assoc, decimal_of_le (by omega),
      Nat.mul_div_cancel _ (by omega), ih, Nat.mul_mod_left, List.replicate_succ',
      List.append_assoc]
    rfl

/-- The digits in front are the quotient by a power of ten. -/
theorem decimal_div_pow {n k : Nat} (h : k < (decimal n).length) :
    decimal (n / 10 ^ k) = (decimal n).take ((decimal n).length - k) := by
  induction k with
  | zero => simp
  | succ k ih =>
    have hdigits := ih (by omega)
    have hlength := congrArg List.length hdigits
    rw [List.length_take, Nat.min_eq_left (by omega)] at hlength
    have hten : 10 ≤ n / 10 ^ k := by
      by_contra hlt
      rw [decimal, Nat.toDigits_of_lt_base (by omega), List.length_singleton] at hlength
      omega
    rw [decimal_of_le hten, Nat.div_div_eq_div_mul, ← Nat.pow_succ] at hdigits
    have hlast := congrArg List.dropLast hdigits
    rw [List.dropLast_concat, List.dropLast_eq_take, List.take_take, List.length_take] at hlast
    rw [hlast]
    exact congrArg (List.take · _) (by omega)

/-! ## Texts that are read as a number -/

/-- A decimal digit is the one that is written for its value. -/
theorem eq_digitChar_of_digitValue? {c : Char} {d : Nat} (h : digitValue? 10 c = some d) :
    d < 10 ∧ c = d.digitChar := by
  obtain ⟨hvalue, hlt⟩ := Option.filter_eq_some_iff.mp h
  rw [decide_eq_true_eq] at hlt
  refine ⟨hlt, ?_⟩
  rw [hexDigitValue?] at hvalue
  split at hvalue
  · rename_i hdigit
    obtain ⟨hlow, hhigh⟩ : 48 ≤ c.toNat ∧ c.toNat ≤ 57 := hdigit
    have hd : c.toNat - 48 = d := Option.some.inj hvalue
    rw [← Char.toNat_inj, Nat.toNat_digitChar_of_lt_ten hlt]
    omega
  · -- the other digits are worth ten and more
    split at hvalue
    · cases hvalue
      omega
    · split at hvalue
      · cases hvalue
        omega
      · cases hvalue

/-- A digit behind the digits of a number other than zero. -/
theorem decimal_mul_ten_add {m d : Nat} (hm : m ≠ 0) (hd : d < 10) :
    decimal (m * 10 + d) = decimal m ++ [d.digitChar] := by
  have hdiv : (m * 10 + d) / 10 = m := by omega
  have hmod : (m * 10 + d) % 10 = d := by omega
  rw [decimal_of_le (by omega), hdiv, hmod]

theorem numberFrom?_replicate_zero (k : Nat) (t : Text) :
    numberFrom? 10 0 (List.replicate k '0' ++ t) = numberFrom? 10 0 t := by
  induction k with
  | zero => rfl
  | succ k ih =>
    rw [List.replicate_succ, List.cons_append]
    exact ih

/-- Digits are those of the number that they denote, behind zeros. -/
theorem exists_zeros_of_numberFrom? {t : Text} {n : Nat} (hne : t ≠ [])
    (h : numberFrom? 10 0 t = some n) : ∃ k, t = List.replicate k '0' ++ decimal n := by
  induction t using List.reverseRecOn generalizing n with
  | nil => exact absurd rfl hne
  | append_singleton front c ih =>
    rw [numberFrom?_append] at h
    obtain ⟨m, hm, h⟩ := Option.bind_eq_some_iff.mp h
    obtain ⟨d, hd, rfl⟩ := Option.map_eq_some_iff.mp h
    obtain ⟨hlt, rfl⟩ := eq_digitChar_of_digitValue? hd
    by_cases hfront : front = []
    · subst hfront
      cases hm
      refine ⟨0, ?_⟩
      rw [Nat.zero_mul, Nat.zero_add, decimal, Nat.toDigits_of_lt_base hlt]
      rfl
    · obtain ⟨k, rfl⟩ := ih hfront hm
      by_cases hzero : m = 0
      · -- a zero that was read so far is one more leading zero
        subst hzero
        refine ⟨k + 1, ?_⟩
        rw [Nat.zero_mul, Nat.zero_add, decimal, decimal, Nat.toDigits_of_lt_base hlt,
          List.replicate_succ']
        rfl
      · exact ⟨k, by rw [decimal_mul_ten_add hzero hlt, List.append_assoc]⟩

/-- **A text is read as a number exactly when it is the digits of the number behind zeros.** -/
theorem number?_eq_some_iff {t : Text} {n : Nat} :
    number? 10 t = some n ↔ ∃ k, t = List.replicate k '0' ++ decimal n := by
  constructor
  · intro h
    rw [number?] at h
    split at h
    · cases h
    · rename_i hne
      exact exists_zeros_of_numberFrom? (by simpa using hne) h
  · rintro ⟨k, rfl⟩
    rw [number?, if_neg (by simp [decimal_ne_nil]), numberFrom?_replicate_zero,
      decimal, numberFrom?_toDigits (by omega) (by omega)]

/-- A text that is read as a number has nothing but digits. -/
theorem isDigit_of_number? {n : Nat} {t : Text} (h : number? 10 t = some n) :
    ∀ c ∈ t, c.isDigit = true := by
  obtain ⟨k, rfl⟩ := number?_eq_some_iff.mp h
  intro c hc
  rcases List.mem_append.mp hc with hc | hc
  · rw [List.eq_of_mem_replicate hc]
    rfl
  · exact isDigit_of_mem_decimal hc

end Text

end UrlCalculus
