import Mathlib.Tactic.Linarith
import Mathlib.Tactic.Ring
import UrlCalculus.Json.Shortest
import UrlCalculus.Proofs.Text.Digits

/-!
# What the shortest decimal says about the number

The decimal that is written for a number lies in the interval of the reals that round to it. For a
number of at least one, seventeen digits are enough to meet that interval, so a decimal is found;
and it has the same whole part as the number, unless both are too large for that to matter.

## Representation

A decimal `n · 10 ^ e` is a quotient of natural numbers here, as in the search: its numerator is `n`
times that of `10 ^ e`. Half the spacing of the numbers around `x` is what a decimal that rounds to
`x` can be away from it; the lemmas count it in quarters of the spacing, as the interval does.
-/

namespace UrlCalculus

namespace Binary64

variable {x : Binary64} {a b m n : Nat} {e point : Int}

theorem one_shiftLeft_eq {s k : Nat} (h : s ≤ k) : 1 <<< k = 2 ^ s * 2 ^ (k - s) := by
  rw [Nat.shiftLeft_eq, Nat.one_mul, ← Nat.pow_add, Nat.add_sub_cancel' h]

/-- One is a multiple of the spacing, up to the numbers that are all integers. -/
theorem unitsPerOne_eq {s : Nat} (h : s ≤ 1074) : unitsPerOne = 2 ^ s * 2 ^ (1074 - s) :=
  one_shiftLeft_eq h

theorem one_shiftLeft_pos (k : Nat) : 0 < 1 <<< k := by
  rw [Nat.shiftLeft_eq, Nat.one_mul]
  exact Nat.two_pow_pos k

theorem unitsPerOne_pos : 0 < unitsPerOne := one_shiftLeft_pos 1074

theorem units_eq (x : Binary64) : x.units = x.coefficient * 2 ^ x.shift :=
  Nat.shiftLeft_eq _ _

/-- The whole part of the magnitude. -/
def whole (x : Binary64) : Nat := x.units / unitsPerOne

/-! ## The interval -/

/-- Four times the distance to the lower end of the interval. -/
def gapBelow (x : Binary64) : Nat :=
  if x.coefficient = 1 <<< 52 ∧ x.shift ≠ 0 then 1 <<< x.shift else 2 * (1 <<< x.shift)

/-- Four times the distance to the upper end of the interval. -/
def gapAbove (x : Binary64) : Nat := 2 * (1 <<< x.shift)

theorem roundingInterval_eq (x : Binary64) :
    x.roundingInterval = (4 * x.units - x.gapBelow, 4 * x.units + x.gapAbove) := rfl

theorem gapAbove_eq (x : Binary64) : x.gapAbove = 2 * 2 ^ x.shift := by
  rw [gapAbove, Nat.shiftLeft_eq, Nat.one_mul]

theorem gapAbove_pos (x : Binary64) : 0 < x.gapAbove := by
  rw [gapAbove_eq]
  exact Nat.mul_pos (by omega) (Nat.two_pow_pos _)

theorem gapBelow_pos (x : Binary64) : 0 < x.gapBelow := by
  rw [gapBelow, Nat.shiftLeft_eq, Nat.one_mul]
  split <;> have := Nat.two_pow_pos x.shift <;> omega

theorem gapBelow_le_gapAbove (x : Binary64) : x.gapBelow ≤ x.gapAbove := by
  rw [gapBelow, gapAbove]
  split <;> omega

/-- What rounds to a number lies in its interval, the ends included. -/
theorem bounds_of_roundsHere (h : x.roundsHere a b = true) :
    4 * x.units * b ≤ midpointScale * a + x.gapBelow * b ∧
      midpointScale * a ≤ 4 * x.units * b + x.gapAbove * b := by
  rw [roundsHere, roundingInterval_eq] at h
  simp only [Nat.sub_mul, Nat.add_mul] at h
  split at h <;> simp only [Bool.and_eq_true, decide_eq_true_eq] at h <;> omega

/-- What lies inside of the interval of a number rounds to it. -/
theorem roundsHere_of_bounds (ha : 0 < a)
    (hbelow : 4 * x.units * b < midpointScale * a + x.gapBelow * b)
    (habove : midpointScale * a < 4 * x.units * b + x.gapAbove * b) :
    x.roundsHere a b = true := by
  have hpos : 0 < midpointScale * a :=
    Nat.mul_pos (Nat.mul_pos (by decide) unitsPerOne_pos) ha
  rw [roundsHere, roundingInterval_eq]
  simp only [Nat.sub_mul, Nat.add_mul]
  split <;> simp only [Bool.and_eq_true, decide_eq_true_eq] <;> omega

/-! ## The two neighbours on a grid -/

theorem scaleByPow10_fst (n : Nat) (e : Int) :
    (scaleByPow10 n e).1 = n * (scaleByPow10 1 e).1 := by
  cases e <;> simp [scaleByPow10]

theorem scaleByPow10_snd (n : Nat) (e : Int) :
    (scaleByPow10 n e).2 = (scaleByPow10 1 e).2 := by
  cases e <;> rfl

theorem scaleByPow10_pos (e : Int) : 0 < (scaleByPow10 1 e).1 ∧ 0 < (scaleByPow10 1 e).2 := by
  cases e <;> simp [scaleByPow10]

theorem lowerNeighbour_eq : x.lowerNeighbour e =
    x.units * (scaleByPow10 1 e).2 / (unitsPerOne * (scaleByPow10 1 e).1) := rfl

theorem hasDecimal_eq :
    x.hasDecimal n e = x.roundsHere (n * (scaleByPow10 1 e).1) (scaleByPow10 1 e).2 := by
  rw [← scaleByPow10_fst, ← scaleByPow10_snd n]
  rfl

theorem of_neighbour? (h : x.neighbour? e = some n) : n ≠ 0 ∧ x.hasDecimal n e = true := by
  rw [neighbour?] at h
  split at h
  · rename_i hlower
    split at h
    · rename_i hupper
      cases h
      exact ⟨Nat.succ_ne_zero _, (Bool.and_eq_true_iff.mp hupper).1⟩
    · cases h
      exact hlower
  · split at h
    · rename_i hupper
      cases h
      exact ⟨Nat.succ_ne_zero _, hupper⟩
    · cases h

theorem isSome_neighbour? (hne : x.lowerNeighbour e ≠ 0)
    (h : x.hasDecimal (x.lowerNeighbour e) e = true ∨
      x.hasDecimal (x.lowerNeighbour e + 1) e = true) :
    (x.neighbour? e).isSome = true := by
  rw [neighbour?]
  split
  · split <;> rfl
  · rename_i hlower
    rw [if_pos (h.resolve_left fun hfits ↦ hlower ⟨hne, hfits⟩)]
    rfl

/-! ## The whole part -/

/-- A decimal that rounds to `x` is at most half the spacing away from it. -/
theorem bounds_of_hasDecimal (h : x.hasDecimal n e = true) :
    4 * x.units * (scaleByPow10 1 e).2 ≤
        4 * unitsPerOne * (n * (scaleByPow10 1 e).1) + 2 * 2 ^ x.shift * (scaleByPow10 1 e).2 ∧
      4 * unitsPerOne * (n * (scaleByPow10 1 e).1) ≤
        4 * x.units * (scaleByPow10 1 e).2 + 2 * 2 ^ x.shift * (scaleByPow10 1 e).2 := by
  rw [hasDecimal_eq] at h
  obtain ⟨hbelow, habove⟩ := bounds_of_roundsHere h
  rw [gapAbove_eq] at habove
  have hgap : x.gapBelow * (scaleByPow10 1 e).2 ≤ 2 * 2 ^ x.shift * (scaleByPow10 1 e).2 := by
    rw [← gapAbove_eq]
    exact Nat.mul_le_mul_right _ x.gapBelow_le_gapAbove
  rw [midpointScale] at hbelow habove
  exact ⟨by omega, habove⟩

/-- A quotient that is at most half a unit away from `c / q`, which is not an integer, has the same
whole part. -/
theorem div_eq_of_near {c q : Nat} (hb : 0 < b) (hq : 0 < q) (hc : c % q ≠ 0)
    (hbelow : 2 * (c * b) ≤ 2 * (a * q) + b) (habove : 2 * (a * q) ≤ 2 * (c * b) + b) :
    a / b = c / q := by
  have hdiv : q * (c / q) + c % q = c := Nat.div_add_mod c q
  have hmod : c % q < q := Nat.mod_lt c hq
  -- A multiple of `b` on the wrong side of `a` is that multiple of `q` on the wrong side of `c`.
  apply Nat.div_eq_of_lt_le
  · by_contra hlt
    have hlow : (q * (c / q) + 1) * b ≤ c * b := Nat.mul_le_mul_right b (by omega)
    have hshort : a * q ≤ c / q * b * q := Nat.mul_le_mul_right q (by omega)
    have hcomm : c / q * b * q = q * (c / q) * b := by ring
    rw [Nat.add_mul, Nat.one_mul] at hlow
    omega
  · by_contra hlt
    have hhigh : (c + 1) * b ≤ (q * (c / q) + q) * b := Nat.mul_le_mul_right b (by omega)
    have hlong : (c / q + 1) * b * q ≤ a * q := Nat.mul_le_mul_right q (by omega)
    have hcomm : (c / q + 1) * b * q = (q * (c / q) + q) * b := by ring
    rw [Nat.add_mul, Nat.one_mul] at hhigh
    omega

/-- An integer that is at most half a unit away from the integer `m` is that one. -/
theorem eq_of_near {q : Nat} (hq : 0 < q) (hbelow : 2 * (m * q) ≤ 2 * (a * q) + 1)
    (habove : 2 * (a * q) ≤ 2 * (m * q) + 1) : a = m := by
  have hle : m * q ≤ a * q ∧ a * q ≤ m * q := by omega
  exact Nat.le_antisymm (Nat.le_of_mul_le_mul_right hle.2 hq) (Nat.le_of_mul_le_mul_right hle.1 hq)

/-- The bounds of a decimal `A / B` over the common denominator, for numbers that are multiples of
a part of one. -/
theorem near_of_hasDecimal (hshift : x.shift ≤ 1074) (h : x.hasDecimal n e = true) :
    2 * (x.coefficient * (scaleByPow10 1 e).2) ≤
        2 * (n * (scaleByPow10 1 e).1 * 2 ^ (1074 - x.shift)) + (scaleByPow10 1 e).2 ∧
      2 * (n * (scaleByPow10 1 e).1 * 2 ^ (1074 - x.shift)) ≤
        2 * (x.coefficient * (scaleByPow10 1 e).2) + (scaleByPow10 1 e).2 := by
  obtain ⟨hbelow, habove⟩ := bounds_of_hasDecimal h
  rw [units_eq, unitsPerOne_eq hshift] at hbelow habove
  have hpos : 0 < 2 * 2 ^ x.shift := Nat.mul_pos (by omega) (Nat.two_pow_pos _)
  constructor <;> refine Nat.le_of_mul_le_mul_left ?_ hpos
  · linarith
  · linarith

theorem whole_eq (hshift : x.shift ≤ 1074) : x.whole = x.coefficient / 2 ^ (1074 - x.shift) := by
  rw [whole, units_eq, unitsPerOne_eq hshift, Nat.mul_comm]
  exact Nat.mul_div_mul_left _ _ (Nat.two_pow_pos _)

/-- A decimal that rounds to `x` has its whole part; of an integer it has to be one itself. -/
theorem div_eq_whole (hshift : x.shift ≤ 1074) (h : x.hasDecimal n e = true)
    (hinteger : x.coefficient % 2 ^ (1074 - x.shift) = 0 → 0 ≤ e) :
    n * (scaleByPow10 1 e).1 / (scaleByPow10 1 e).2 = x.whole := by
  obtain ⟨hbelow, habove⟩ := near_of_hasDecimal hshift h
  have hq : 0 < 2 ^ (1074 - x.shift) := Nat.two_pow_pos _
  rw [whole_eq hshift]
  generalize 2 ^ (1074 - x.shift) = q at *
  by_cases hc : x.coefficient % q = 0
  · obtain ⟨k, rfl⟩ := Int.eq_ofNat_of_zero_le (hinteger hc)
    have hc' : x.coefficient = x.coefficient / q * q :=
      (Nat.div_mul_cancel (Nat.dvd_of_mod_eq_zero hc)).symm
    have hone : (scaleByPow10 1 (k : Int)).2 = 1 := rfl
    rw [hone, Nat.mul_one] at hbelow habove
    rw [hone, Nat.div_one]
    rw [hc'] at hbelow habove
    exact eq_of_near hq hbelow habove
  · exact div_eq_of_near (scaleByPow10_pos e).2 hq hc hbelow habove

theorem two_mul_shiftLeft_le {s k : Nat} (h : k < s) : 2 * (1 <<< k) ≤ 2 ^ s := by
  rw [Nat.shiftLeft_eq, Nat.one_mul, ← Nat.pow_succ']
  exact Nat.pow_le_pow_right (by omega) h

theorem two_mul_unitsPerOne_le (hshift : 1074 < x.shift) : 2 * unitsPerOne ≤ 2 ^ x.shift :=
  two_mul_shiftLeft_le hshift

/-- Numbers that are not multiples of a part of one are large. -/
theorem two_pow_le_whole (hshift : 1074 < x.shift) : 1 <<< 52 ≤ x.whole := by
  have hcoefficient : 1 <<< 52 ≤ x.coefficient := x.canonical.2.1.resolve_left (by omega)
  have hspacing := two_mul_unitsPerOne_le hshift
  rw [whole, Nat.le_div_iff_mul_le unitsPerOne_pos, units_eq]
  exact Nat.mul_le_mul hcoefficient (by omega)

/-- What rounds to a large number is large. -/
theorem two_pow_le_div (hshift : 1074 < x.shift) (h : x.hasDecimal n e = true) :
    1 <<< 52 ≤ n * (scaleByPow10 1 e).1 / (scaleByPow10 1 e).2 := by
  have hcoefficient : 1 <<< 52 ≤ x.coefficient := x.canonical.2.1.resolve_left (by omega)
  obtain ⟨hbelow, -⟩ := bounds_of_hasDecimal h
  rw [units_eq] at hbelow
  rw [Nat.le_div_iff_mul_le (scaleByPow10_pos e).2]
  generalize (scaleByPow10 1 e).2 = b, n * (scaleByPow10 1 e).1 = a at hbelow ⊢
  have hscale : 4 * unitsPerOne * (1 <<< 52 * b) ≤ 2 * 2 ^ x.shift * (1 <<< 52 * b) :=
    Nat.mul_le_mul_right _ (by have := two_mul_unitsPerOne_le hshift; omega)
  have hlower : (2 * 1 <<< 52 + 2) * (2 ^ x.shift * b) ≤ 4 * x.coefficient * (2 ^ x.shift * b) :=
    Nat.mul_le_mul_right _ (by omega)
  refine Nat.le_of_mul_le_mul_left ?_ (by have := unitsPerOne_pos; omega : 0 < 4 * unitsPerOne)
  linarith

/-! ## The search -/

theorem of_searchDecimal {length limit : Nat}
    (h : x.searchDecimal point length limit = some (n, e)) : x.neighbour? e = some n := by
  induction limit generalizing length with
  | zero => cases h
  | succ limit ih =>
    rw [searchDecimal] at h
    split at h
    · rename_i hneighbour
      cases h
      exact hneighbour
    · exact ih h

/-- The search does not go beyond a grid on which a neighbour rounds to the number. -/
theorem exists_searchDecimal {length limit : Nat} (k : Nat) (hlength : length ≤ k)
    (hlimit : k < length + limit) (h : (x.neighbour? (point - k)).isSome = true) :
    ∃ n e, x.searchDecimal point length limit = some (n, e) ∧ point - k ≤ e := by
  induction limit generalizing length with
  | zero => omega
  | succ limit ih =>
    rw [searchDecimal]
    split
    · exact ⟨_, _, rfl, by omega⟩
    · rename_i hnone
      have hne : length ≠ k := by
        rintro rfl
        simp [hnone] at h
      exact ih (by omega) (by omega)


/-! ## Seventeen digits are enough -/

theorem scaleByPow10_sub {p k : Nat} {e : Int} (h : e = p - k) :
    (scaleByPow10 1 e).1 * 10 ^ k = (scaleByPow10 1 e).2 * 10 ^ p := by
  cases e with
  | ofNat j =>
    obtain rfl : p = j + k := by simp only [Int.ofNat_eq_natCast] at h; omega
    rw [Nat.pow_add]
    exact (by ring : 1 * 10 ^ j * 10 ^ k = 1 * (10 ^ j * 10 ^ k))
  | negSucc j =>
    obtain rfl : k = j + 1 + p := by omega
    rw [Nat.pow_add]
    exact (by ring : 1 * (10 ^ (j + 1) * 10 ^ p) = 10 ^ (j + 1) * 10 ^ p)

/-- The interval is wider than the number divided by `10¹⁶`. -/
theorem lt_gaps (x : Binary64) : 4 * x.units < 10 ^ 16 * (x.gapBelow + x.gapAbove) := by
  have hpos : 0 < 2 ^ x.shift := Nat.two_pow_pos _
  have hcoefficient : x.coefficient < 2 ^ 53 := x.canonical.1
  rw [units_eq, gapAbove_eq, gapBelow, Nat.shiftLeft_eq 1 x.shift, Nat.one_mul]
  generalize 2 ^ x.shift = p at hpos ⊢
  split
  · rename_i hpower
    rw [hpower.1]
    omega
  · have hlt : x.coefficient * p < 2 ^ 53 * p := Nat.mul_lt_mul_of_pos_right hcoefficient hpos
    omega

/-- Where neither neighbour rounds to the number, the interval lies between the two. -/
theorem gaps_le_of_not_hasDecimal (hpos : 0 < x.lowerNeighbour e)
    (hnotLower : ¬x.hasDecimal (x.lowerNeighbour e) e = true)
    (hnotUpper : ¬x.hasDecimal (x.lowerNeighbour e + 1) e = true) :
    (x.gapBelow + x.gapAbove) * (scaleByPow10 1 e).2 ≤
      4 * (unitsPerOne * (scaleByPow10 1 e).1) := by
  obtain ⟨ha, hb⟩ := scaleByPow10_pos e
  have hdiv := Nat.div_add_mod (x.units * (scaleByPow10 1 e).2) (unitsPerOne * (scaleByPow10 1 e).1)
  have hmod := Nat.mod_lt (x.units * (scaleByPow10 1 e).2) (Nat.mul_pos unitsPerOne_pos ha)
  rw [hasDecimal_eq] at hnotLower hnotUpper
  rw [← lowerNeighbour_eq] at hdiv
  generalize x.lowerNeighbour e = q at *
  generalize x.units * (scaleByPow10 1 e).2 % (unitsPerOne * (scaleByPow10 1 e).1) = r at *
  generalize (scaleByPow10 1 e).1 = a, (scaleByPow10 1 e).2 = b at *
  have hscale : midpointScale * (q * a) = 4 * (unitsPerOne * a * q) := by
    rw [midpointScale]
    ring
  have hscale' : midpointScale * ((q + 1) * a) =
      4 * (unitsPerOne * a * q) + 4 * (unitsPerOne * a) := by
    rw [midpointScale]
    ring
  have hgap : 0 < x.gapAbove * b := Nat.mul_pos x.gapAbove_pos hb
  have hbelow : x.gapBelow * b ≤ 4 * r := by
    by_contra hlt
    refine hnotLower (roundsHere_of_bounds (Nat.mul_pos hpos ha) ?_ ?_)
    · linarith
    · linarith
  have habove : x.gapAbove * b + 4 * r ≤ 4 * (unitsPerOne * a) := by
    by_contra hlt
    refine hnotUpper (roundsHere_of_bounds (Nat.mul_pos q.succ_pos ha) ?_ ?_)
    · have hzero : 0 ≤ x.gapBelow * b := Nat.zero_le _
      linarith
    · linarith
  linarith

/-- On a grid of less than the number divided by `10¹⁶`, a neighbour rounds to the number. -/
theorem isSome_neighbour?_of_fine
    (h : 10 ^ 16 * (unitsPerOne * (scaleByPow10 1 e).1) ≤ x.units * (scaleByPow10 1 e).2) :
    (x.neighbour? e).isSome = true := by
  obtain ⟨ha, hb⟩ := scaleByPow10_pos e
  have hstep : 0 < unitsPerOne * (scaleByPow10 1 e).1 := Nat.mul_pos unitsPerOne_pos ha
  have hpos : 0 < x.lowerNeighbour e := by
    rw [lowerNeighbour_eq]
    exact Nat.div_pos (by omega) hstep
  refine isSome_neighbour? hpos.ne' ?_
  by_contra hneither
  obtain ⟨hnotLower, hnotUpper⟩ := not_or.mp hneither
  have hgaps := gaps_le_of_not_hasDecimal hpos hnotLower hnotUpper
  have hwide : 10 ^ 16 * (x.gapBelow + x.gapAbove) * (scaleByPow10 1 e).2 ≤
      4 * x.units * (scaleByPow10 1 e).2 := by
    linarith
  exact absurd (Nat.le_of_mul_le_mul_right hwide hb) (Nat.not_le.mpr (lt_gaps x))

/-! ## A decimal is found -/

theorem decimalPoint_eq (hwhole : x.whole ≠ 0) :
    x.decimalPoint = (Text.decimal x.whole).length := by
  rw [decimalPoint]
  exact (if_neg hwhole).trans (by rw [decimalDigits, List.length_map]; rfl)

theorem scaleByPow10_one_zero : scaleByPow10 1 0 = (1, 1) := rfl

/-- An integer is its own neighbour. -/
theorem isSome_neighbour?_zero (hwhole : x.whole ≠ 0)
    (hinteger : x.whole * unitsPerOne = x.units) : (x.neighbour? 0).isSome = true := by
  have hlower : x.lowerNeighbour 0 = x.whole := by
    rw [lowerNeighbour, scaleByPow10_one_zero]
    exact congrArg₂ (· / ·) (Nat.mul_one _) (Nat.mul_one _)
  have hone : midpointScale * x.whole = 4 * x.units := by
    rw [midpointScale, ← hinteger]
    ring
  refine isSome_neighbour? (by rwa [hlower]) (.inl ?_)
  rw [hlower, hasDecimal_eq, scaleByPow10_one_zero]
  have hbelow := x.gapBelow_pos
  have habove := x.gapAbove_pos
  apply roundsHere_of_bounds <;> simp only [Nat.mul_one, hone] <;> omega

theorem isSome_neighbour?_seventeen (hwhole : x.whole ≠ 0) :
    (x.neighbour? (x.decimalPoint - (17 : Nat))).isSome = true := by
  have hpoint := decimalPoint_eq hwhole
  have hdigits := Text.pow_length_decimal_le hwhole
  have hpos := Text.length_decimal_pos x.whole
  have hunits : x.whole * unitsPerOne ≤ x.units := Nat.div_mul_le_self _ _
  have hscale := scaleByPow10_sub (e := x.decimalPoint - (17 : Nat)) (by rw [hpoint])
  apply isSome_neighbour?_of_fine
  generalize (scaleByPow10 1 (x.decimalPoint - (17 : Nat))).1 = a,
    (scaleByPow10 1 (x.decimalPoint - (17 : Nat))).2 = b at hscale ⊢
  obtain ⟨k, hk⟩ : ∃ k, (Text.decimal x.whole).length = k + 1 :=
    ⟨_, (Nat.sub_add_cancel hpos).symm⟩
  rw [hk, Nat.add_sub_cancel] at hdigits
  rw [hk, Nat.pow_succ 10 k] at hscale
  have hten : 10 ^ 16 * a = b * 10 ^ k := by linarith
  calc 10 ^ 16 * (unitsPerOne * a) = 10 ^ 16 * a * unitsPerOne := by ring
    _ = 10 ^ k * unitsPerOne * b := by rw [hten]; ring
    _ ≤ x.whole * unitsPerOne * b := Nat.mul_le_mul_right _ (Nat.mul_le_mul_right _ hdigits)
    _ ≤ x.units * b := Nat.mul_le_mul_right _ hunits

theorem exists_shortest (k : Nat) (hpos : 1 ≤ k) (hle : k ≤ 20)
    (h : (x.neighbour? (x.decimalPoint - k)).isSome = true) :
    ∃ n e, x.searchDecimal x.decimalPoint 1 20 = some (n, e) ∧ x.decimalPoint - k ≤ e :=
  exists_searchDecimal k hpos (by omega) h

/-- The search for an integer ends on the grid of the integers, if not before. -/
theorem exists_shortest_of_integer (hwhole : x.whole ≠ 0) (hshift : x.shift ≤ 1074)
    (hinteger : x.coefficient % 2 ^ (1074 - x.shift) = 0) :
    ∃ n e, x.searchDecimal x.decimalPoint 1 20 = some (n, e) ∧ 0 ≤ e := by
  have hunits : x.whole * unitsPerOne = x.units := by
    have hmul := Nat.div_mul_cancel (Nat.dvd_of_mod_eq_zero hinteger)
    rw [whole_eq hshift, units_eq, unitsPerOne_eq hshift, Nat.mul_left_comm, hmul, Nat.mul_comm]
  have hle : x.whole ≤ x.coefficient := by
    rw [whole_eq hshift]
    exact Nat.div_le_self _ _
  have hlt : x.coefficient < 2 ^ 53 := x.canonical.1
  have hlength : (Text.decimal x.whole).length ≤ 20 :=
    (Nat.length_toDigits_le_iff (by omega) (by omega)).mpr (by omega)
  have hzero : x.decimalPoint - (Text.decimal x.whole).length = 0 := by
    rw [decimalPoint_eq hwhole, Int.sub_self]
  obtain ⟨n, e, hsearch, he⟩ := exists_shortest _ (Text.length_decimal_pos x.whole) hlength
    (by rw [hzero]; exact isSome_neighbour?_zero hwhole hunits)
  exact ⟨n, e, hsearch, hzero ▸ he⟩

/-- A decimal is found for every number of at least one. -/
theorem exists_of_whole_ne_zero (hwhole : x.whole ≠ 0) :
    ∃ n e, x.searchDecimal x.decimalPoint 1 20 = some (n, e) := by
  obtain ⟨n, e, hsearch, -⟩ :=
    exists_shortest 17 (by omega) (by omega) (isSome_neighbour?_seventeen hwhole)
  exact ⟨n, e, hsearch⟩

/-- The decimal that is found has the whole part of the number, unless both are large. -/
theorem whole_of_searchDecimal (hzero : x.isZero = false)
    (h : x.searchDecimal x.decimalPoint 1 20 = some (n, e)) :
    n * (scaleByPow10 1 e).1 / (scaleByPow10 1 e).2 = x.whole ∨
      1 <<< 52 ≤ n * (scaleByPow10 1 e).1 / (scaleByPow10 1 e).2 ∧ 1 <<< 52 ≤ x.whole := by
  have hdecimal := (of_neighbour? (of_searchDecimal h)).2
  rcases Nat.lt_or_ge 1074 x.shift with hshift | hshift
  · exact .inr ⟨two_pow_le_div hshift hdecimal, two_pow_le_whole hshift⟩
  · refine .inl (div_eq_whole hshift hdecimal fun hinteger ↦ ?_)
    have hwhole : x.whole ≠ 0 := by
      rw [whole_eq hshift, ne_eq, Nat.div_eq_zero_iff_lt (Nat.two_pow_pos _)]
      intro hlt
      rw [Nat.mod_eq_of_lt hlt] at hinteger
      simp [isZero, hinteger] at hzero
    obtain ⟨n', e', hsearch, he⟩ := exists_shortest_of_integer hwhole hshift hinteger
    cases h.symm.trans hsearch
    exact he

end Binary64

end UrlCalculus
