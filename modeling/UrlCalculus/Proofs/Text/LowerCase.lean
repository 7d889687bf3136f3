import UrlCalculus.Text.LowerCase

/-!
# The lower-case form of a lower-case form

A text in lower case is its own lower-case form. Where a character stands counts for a capital sigma
and for nothing else, and no lower-case form has a capital sigma in it; nor has one a capital I with
a dot, the only character that becomes two. So it is enough that no form in the table has another
form, and this is a property of the table, settled range by range: the forms of a range lie in front
of the characters of any other range, or behind them, or in the gaps between them.
-/

namespace UrlCalculus

namespace CaseRange

/-! ## Ranges and their forms -/

/-- The number of the lower-case form of a character. -/
def form (r : CaseRange) (n : Nat) : Nat := r.lower + (n - r.first)

/-- Whether the forms of a range avoid the characters of another one. Where both have steps of two,
they may take turns; for this it does not matter which step a single character has. -/
def formsAvoid (r s : CaseRange) : Bool :=
  (r.form r.last).blt s.first || s.last.blt r.lower ||
    (s.step % 2 == 0 && (r.step % 2 == 0 || r.first == r.last) && (r.lower + s.first) % 2 == 1)

/-- That the forms of a range are the numbers of characters. -/
def HasForms (r : CaseRange) : Prop :=
  r.form r.last < 0xD800 ∨ 0xDFFF < r.lower ∧ r.form r.last < 0x110000

instance (r : CaseRange) : Decidable r.HasForms :=
  inferInstanceAs (Decidable (_ ∨ _ ∧ _))

variable {r s : CaseRange} {n : Nat}

theorem covers_iff : r.covers n = true ↔ r.first ≤ n ∧ n ≤ r.last ∧ r.step ∣ n - r.first := by
  simp [covers, Nat.dvd_iff_mod_eq_zero, and_assoc]

theorem form_le_form_last (h : r.covers n = true) : r.form n ≤ r.form r.last := by
  obtain ⟨-, hlast, -⟩ := covers_iff.mp h
  exact Nat.add_le_add_left (Nat.sub_le_sub_right hlast _) _

theorem formsAvoid_iff :
    r.formsAvoid s = true ↔ r.form r.last < s.first ∨ s.last < r.lower ∨
      2 ∣ s.step ∧ (2 ∣ r.step ∨ r.first = r.last) ∧ (r.lower + s.first) % 2 = 1 := by
  simp [formsAvoid, Nat.blt_eq, Nat.dvd_iff_mod_eq_zero, or_assoc, and_assoc]

theorem covers_form_eq_false (havoid : r.formsAvoid s = true) (h : r.covers n = true) :
    s.covers (r.form n) = false := by
  have hle := form_le_form_last h
  have hlower : r.lower ≤ r.form n := Nat.le_add_right _ _
  obtain ⟨hfirst, hlast, hstep⟩ := covers_iff.mp h
  rw [Bool.eq_false_iff, Ne, covers_iff]
  rintro ⟨hfirst', hlast', hstep'⟩
  rcases formsAvoid_iff.mp havoid with hfront | hbehind | ⟨heven', heven, hodd⟩
  · omega
  · omega
  · -- the form is an even distance from `r.lower` and from `s.first`, which are an odd one apart
    have hfrom' : 2 ∣ r.form n - s.first := Nat.dvd_trans heven' hstep'
    have hfrom : 2 ∣ n - r.first := by
      rcases heven with heven | hsingle
      · exact Nat.dvd_trans heven hstep
      · omega
    rw [form] at hfrom' hfirst'
    omega

theorem toNat_ofNat_form (hforms : r.HasForms) (h : r.covers n = true) :
    (Char.ofNat (r.form n)).toNat = r.form n := by
  have hle := form_le_form_last h
  have hlower : r.lower ≤ r.form n := Nat.le_add_right _ _
  have hvalid : (r.form n).isValidChar := by
    rcases hforms with hlow | ⟨hhigh, hbound⟩
    · exact .inl (by omega)
    · exact .inr ⟨by omega, by omega⟩
  rw [Char.ofNat, dif_pos hvalid]
  rfl

end CaseRange

namespace Text

open CaseData (lowerRanges)

/-! ## The table -/

/-- The capital I with a dot, as a range. -/
def dottedRange : CaseRange := ⟨0x130, 0x130, 1, 0x69⟩

theorem formsAvoid_of_mem : ∀ r ∈ lowerRanges, (dottedRange :: lowerRanges).all r.formsAvoid := by
  decide +kernel

theorem hasForms_of_mem : ∀ r ∈ lowerRanges, r.HasForms := by
  decide +kernel

variable {c d : Char}

theorem lowerChar_eq_self (h : ∀ r ∈ lowerRanges, r.covers c.toNat = false) : lowerChar c = c := by
  have hnone : (lowerRanges.find? fun r ↦ r.covers c.toNat) = none :=
    List.find?_eq_none.mpr fun r hr ↦ Bool.eq_false_iff.mp (h r hr)
  rw [lowerChar, hnone]

/-- A character has the form that the table gives it, or is its own. -/
theorem lowerChar_eq_self_or (c : Char) :
    lowerChar c = c ∨
      ∃ r ∈ lowerRanges, r.covers c.toNat = true ∧ lowerChar c = Char.ofNat (r.form c.toNat) := by
  cases hfind : lowerRanges.find? fun r ↦ r.covers c.toNat with
  | none => exact .inl (by rw [lowerChar, hfind])
  | some r =>
    have hcovers := List.find?_some hfind
    exact .inr ⟨r, List.mem_of_find?_eq_some hfind, hcovers, by rw [lowerChar, hfind]; rfl⟩

/-- What the table gives is not in the table, and is no capital I with a dot. -/
theorem covers_lowerChar_eq_false {s : CaseRange} (hs : s ∈ dottedRange :: lowerRanges)
    (hne : lowerChar c ≠ c) : s.covers (lowerChar c).toNat = false := by
  obtain ⟨r, hr, hcovers, hform⟩ := (lowerChar_eq_self_or c).resolve_left hne
  have havoid := List.all_eq_true.mp (formsAvoid_of_mem r hr) s hs
  rw [hform, CaseRange.toNat_ofNat_form (hasForms_of_mem r hr) hcovers]
  exact CaseRange.covers_form_eq_false havoid hcovers

theorem lowerChar_lowerChar (c : Char) : lowerChar (lowerChar c) = lowerChar c := by
  by_cases h : lowerChar c = c
  · rw [h, h]
  · exact lowerChar_eq_self fun s hs ↦ covers_lowerChar_eq_false (List.mem_cons_of_mem _ hs) h

theorem lowerChar_ne_dotted (hc : c ≠ '\u0130') : lowerChar c ≠ '\u0130' := by
  by_cases h : lowerChar c = c
  · rwa [h]
  · intro hdotted
    have hfalse := covers_lowerChar_eq_false List.mem_cons_self h
    rw [hdotted] at hfalse
    exact absurd hfalse (by decide)

/-! ## Texts in lower case -/

/-- That lower case leaves a character as it is, wherever it stands. -/
def IsLowered (c : Char) : Prop := lowerChar c = c ∧ c ≠ '\u0130'

/-- The forms that are not taken from the table. -/
def specialForms : Text := ['\u03c2', '\u03c3', 'i', '\u0307']

theorem all_specialForms_not_covers :
    ∀ r ∈ lowerRanges, specialForms.all fun c ↦ !r.covers c.toNat := by
  decide +kernel

theorem isLowered_of_mem_specialForms (h : c ∈ specialForms) : IsLowered c := by
  have hcovers (r : CaseRange) (hr : r ∈ lowerRanges) : r.covers c.toNat = false := by
    simpa using List.all_eq_true.mp (all_specialForms_not_covers r hr) c h
  refine ⟨lowerChar_eq_self hcovers, ?_⟩
  rintro rfl
  exact absurd h (by decide)

theorem lowerChar_capitalSigma : lowerChar capitalSigma = '\u03c3' := by
  rfl

theorem lowerAt_eq_self (h : IsLowered c) (before after : Text) :
    lowerAt before c after = [c] := by
  have hsigma : c ≠ capitalSigma := by
    rintro rfl
    exact absurd (lowerChar_capitalSigma.symm.trans h.1) (by decide)
  rw [lowerAt, if_neg hsigma, if_neg h.2, h.1]

theorem lowerFrom_eq_self {t : Text} (h : ∀ c ∈ t, IsLowered c) (before : Text) :
    lowerFrom before t = t := by
  induction t generalizing before with
  | nil => rfl
  | cons c after ih =>
    obtain ⟨hc, hafter⟩ := List.forall_mem_cons.mp h
    rw [lowerFrom, lowerAt_eq_self hc, ih hafter, List.singleton_append]

/-- Each of the three kinds of characters becomes characters that stay as they are. -/
theorem isLowered_of_mem_lowerAt {before after : Text} (h : d ∈ lowerAt before c after) :
    IsLowered d := by
  rw [lowerAt] at h
  split at h
  · rw [List.mem_singleton] at h
    subst h
    refine isLowered_of_mem_specialForms ?_
    rw [lowerSigma]
    split <;> decide
  · split at h
    · exact isLowered_of_mem_specialForms (List.mem_append_right ['\u03c2', '\u03c3'] h)
    · rename_i hdotted
      rw [List.mem_singleton] at h
      subst h
      exact ⟨lowerChar_lowerChar c, lowerChar_ne_dotted hdotted⟩

theorem isLowered_of_mem_lowerFrom {before t : Text} (h : d ∈ lowerFrom before t) :
    IsLowered d := by
  induction t generalizing before with
  | nil => cases h
  | cons c after ih =>
    rw [lowerFrom, List.mem_append] at h
    rcases h with h | h
    · exact isLowered_of_mem_lowerAt h
    · exact ih h

/-- **A text is in lower case when each of its characters is**, whatever their order. -/
theorem lower_eq_self_iff {t : Text} : lower t = t ↔ ∀ c ∈ t, IsLowered c := by
  constructor
  · intro h c hc
    rw [← h] at hc
    exact isLowered_of_mem_lowerFrom hc
  · intro h
    exact lowerFrom_eq_self h []

theorem lower_lower (t : Text) : lower (lower t) = lower t :=
  lower_eq_self_iff.mpr fun _ hc ↦ isLowered_of_mem_lowerFrom hc

end Text

/-- **Lower case is reached in one step.** -/
theorem lowerString_lowerString (s : String) : lowerString (lowerString s) = lowerString s := by
  rw [lowerString, lowerString, String.toList_ofList, Text.lower_lower]

end UrlCalculus
