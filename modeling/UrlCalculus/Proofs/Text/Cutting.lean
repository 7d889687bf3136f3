import Mathlib.Data.List.TakeWhile
import UrlCalculus.Url.Reference

/-!
# Cutting texts that were put together

What a URL is made of contains none of the characters that part it from its neighbours. A text
without separators is passed over by every way of cutting, so that what was written with separators
in between is cut back into the same parts.
-/

namespace UrlCalculus

namespace Text

/-- No character of a text satisfies `p`. -/
def Avoids (p : Char → Bool) (t : Text) : Prop := ∀ c ∈ t, p c = false

instance (p : Char → Bool) (t : Text) : Decidable (Avoids p t) :=
  List.decidableBAll (fun c ↦ p c = false) t

section Avoids

variable {p q : Char → Bool} {s t : Text}

@[simp]
theorem avoids_nil : Avoids p [] := by
  intro c hc
  exact absurd hc (by simp)

@[simp]
theorem avoids_cons {c : Char} : Avoids p (c :: t) ↔ p c = false ∧ Avoids p t := by
  simp [Avoids]

@[simp]
theorem avoids_append : Avoids p (s ++ t) ↔ Avoids p s ∧ Avoids p t := by
  simp only [Avoids, List.mem_append]
  constructor
  · intro h
    exact ⟨fun c hc ↦ h c (.inl hc), fun c hc ↦ h c (.inr hc)⟩
  · rintro ⟨hs, ht⟩ c (hc | hc)
    · exact hs c hc
    · exact ht c hc

theorem any_eq_false_iff : t.any p = false ↔ Avoids p t := by
  simp [Avoids]

theorem Avoids.of_subset (h : Avoids p t) (hsub : ∀ c ∈ s, c ∈ t) : Avoids p s :=
  fun c hc ↦ h c (hsub c hc)

/-- Fewer characters are avoided as well. -/
theorem Avoids.mono (h : Avoids p t) (hle : ∀ c, q c = true → p c = true) : Avoids q t := by
  intro c hc
  cases hq : q c with
  | false => rfl
  | true =>
    have hp := h c hc
    rw [hle c hq] at hp
    exact absurd hp (by simp)

/-- A text avoids each character of a set that it avoids. -/
theorem Avoids.beq (h : Avoids p t) {c : Char} (hc : p c = true) : Avoids (· == c) t :=
  h.mono fun d hd ↦ by rwa [eq_of_beq hd]

theorem Avoids.or (hp : Avoids p t) (hq : Avoids q t) : Avoids (fun c ↦ p c || q c) t := by
  intro c hc
  simp [hp c hc, hq c hc]

theorem avoids_beq_iff {c : Char} : Avoids (· == c) t ↔ c ∉ t := by
  simp only [Avoids, beq_eq_false_iff_ne]
  constructor
  · intro h hmem
    exact h _ hmem rfl
  · rintro h d hd rfl
    exact h hd

theorem Avoids.not_mem {c : Char} (h : Avoids p t) (hc : p c = true) : c ∉ t := by
  intro hmem
  have hfalse := h c hmem
  rw [hc] at hfalse
  exact absurd hfalse (by simp)

end Avoids

/-! ## The first separator -/

section Cut

variable {p : Char → Bool} {t rest : Text}

theorem cut_of_avoids (h : Avoids p t) : cut p t = (t, none) := by
  induction t with
  | nil => rfl
  | cons c t ih =>
    rw [avoids_cons] at h
    rw [cut, if_neg (by simp [h.1]), ih h.2]

theorem cut_append {c : Char} (h : Avoids p t) (hc : p c = true) :
    cut p (t ++ c :: rest) = (t, some rest) := by
  induction t with
  | nil => rw [List.nil_append, cut, if_pos hc]
  | cons d t ih =>
    rw [avoids_cons] at h
    rw [List.cons_append, cut, if_neg (by simp [h.1]), ih h.2]

/-- What stands in front of the first separator has none. -/
theorem avoids_cut (p : Char → Bool) (t : Text) : Avoids p (cut p t).1 := by
  induction t with
  | nil => exact avoids_nil
  | cons c t ih =>
    rw [cut]
    split
    · exact avoids_nil
    · rename_i h
      exact avoids_cons.mpr ⟨by simpa using h, ih⟩

theorem cut_eq_none (h : (cut p t).2 = none) : (cut p t).1 = t := by
  induction t with
  | nil => rfl
  | cons c t ih =>
    rw [cut] at h ⊢
    split at h
    · exact absurd h (by simp)
    · rename_i hc
      rw [if_neg hc]
      exact congrArg (c :: ·) (ih h)

theorem mem_of_mem_cut {c : Char} (h : c ∈ (cut p t).1) : c ∈ t := by
  induction t with
  | nil => exact h
  | cons d t ih =>
    rw [cut] at h
    split at h
    · exact absurd h (by simp)
    · rcases List.mem_cons.mp h with rfl | h
      · exact List.mem_cons_self
      · exact List.mem_cons_of_mem _ (ih h)

/-- What stands behind the first separator is the end of the text. -/
theorem cut_suffix (h : (cut p t).2 = some rest) : rest <:+ t := by
  induction t with
  | nil => cases h
  | cons c t ih =>
    rw [cut] at h
    split at h
    · cases h
      exact List.suffix_cons c rest
    · exact (ih h).trans (List.suffix_cons c t)

/-- Characters with `p` are taken as a whole where one without it follows. -/
theorem takeWhile_append_stop (h : ∀ c ∈ t, p c = true) (hrest : ∀ c ∈ rest.head?, p c = false) :
    (t ++ rest).takeWhile p = t := by
  rw [List.takeWhile_append_of_pos h]
  cases rest with
  | nil => rw [List.takeWhile_nil, List.append_nil]
  | cons c rest => rw [List.takeWhile_cons_of_neg (by simp [hrest c rfl]), List.append_nil]

theorem dropWhile_append_stop (h : ∀ c ∈ t, p c = true) (hrest : ∀ c ∈ rest.head?, p c = false) :
    (t ++ rest).dropWhile p = rest := by
  rw [List.dropWhile_append_of_pos h]
  cases rest with
  | nil => rfl
  | cons c rest => rw [List.dropWhile_cons_of_neg (by simp [hrest c rfl])]

end Cut

/-! ## All separators -/

section Pieces

variable {p : Char → Bool}

theorem join_cons_cons (separator : Char) (t u : Text) (ts : List Text) :
    join separator (t :: u :: ts) = t ++ separator :: join separator (u :: ts) := by
  rw [join]
  rintro ⟨⟩

theorem pieces_of_avoids {t : Text} (h : Avoids p t) : pieces p t = [t] := by
  induction t with
  | nil => rfl
  | cons c t ih =>
    rw [avoids_cons] at h
    rw [pieces, if_neg (by simp [h.1]), ih h.2]

/-- A text is cut at each separator on its own. -/
theorem pieces_append_separator {c : Char} (hc : p c = true) (front back : Text) :
    pieces p (front ++ c :: back) = pieces p front ++ pieces p back := by
  induction front with
  | nil =>
    rw [List.nil_append, pieces_nil, pieces, if_pos hc]
    rfl
  | cons d front ih =>
    rw [List.cons_append, pieces, ih, pieces]
    split
    · rfl
    · cases hpieces : pieces p front with
      | nil => exact absurd hpieces (pieces_ne_nil p front)
      | cons piece rest => rfl

theorem pieces_append {t rest : Text} {c : Char} (h : Avoids p t) (hc : p c = true) :
    pieces p (t ++ c :: rest) = t :: pieces p rest := by
  rw [pieces_append_separator hc, pieces_of_avoids h]
  rfl

/-- **Texts written with a separator between them are the pieces of what was written.** -/
theorem pieces_join {separator : Char} (hsep : p separator = true) {ts : List Text} (hne : ts ≠ [])
    (h : ∀ t ∈ ts, Avoids p t) : pieces p (join separator ts) = ts := by
  induction ts with
  | nil => exact absurd rfl hne
  | cons t ts ih =>
    have ht := h t List.mem_cons_self
    cases ts with
    | nil => exact pieces_of_avoids ht
    | cons u ts =>
      rw [join_cons_cons, pieces_append ht hsep,
        ih (List.cons_ne_nil _ _) fun s hs ↦ h s (List.mem_cons_of_mem _ hs)]

theorem avoids_of_mem_pieces {s t : Text} (h : s ∈ pieces p t) : Avoids p s := by
  induction t generalizing s with
  | nil =>
    rw [pieces_nil, List.mem_singleton] at h
    rw [h]
    exact avoids_nil
  | cons c t ih =>
    rw [pieces] at h
    split at h
    · rcases List.mem_cons.mp h with rfl | h
      · exact avoids_nil
      · exact ih h
    · -- the first piece gets the character, the others are those of the rest
      rename_i hc
      have hc' : p c = false := by simpa using hc
      cases hp : pieces p t with
      | nil => exact absurd hp (pieces_ne_nil p t)
      | cons u us =>
        rw [hp] at h ih
        rcases List.mem_cons.mp h with rfl | h
        · exact avoids_cons.mpr ⟨hc', ih List.mem_cons_self⟩
        · exact ih (List.mem_cons_of_mem _ h)

theorem mem_of_mem_pieces {s t : Text} (h : s ∈ pieces p t) {c : Char} (hc : c ∈ s) : c ∈ t := by
  induction t generalizing s with
  | nil =>
    rw [pieces_nil, List.mem_singleton] at h
    rwa [h] at hc
  | cons d t ih =>
    rw [pieces] at h
    split at h
    · rcases List.mem_cons.mp h with rfl | h
      · exact absurd hc (by simp)
      · exact List.mem_cons_of_mem _ (ih h hc)
    · cases hp : pieces p t with
      | nil => exact absurd hp (pieces_ne_nil p t)
      | cons u us =>
        rw [hp] at h ih
        rcases List.mem_cons.mp h with rfl | h
        · rcases List.mem_cons.mp hc with rfl | hc
          · exact List.mem_cons_self
          · exact List.mem_cons_of_mem _ (ih List.mem_cons_self hc)
        · exact List.mem_cons_of_mem _ (ih (List.mem_cons_of_mem _ h) hc)

theorem intercalate_eq_join (separator : Char) (ts : List Text) :
    List.intercalate [separator] ts = join separator ts := by
  induction ts with
  | nil => rfl
  | cons t ts ih =>
    cases ts with
    | nil => rw [List.intercalate_singleton, join]
    | cons u ts =>
      rw [List.intercalate_cons_cons, ih, join_cons_cons, List.append_assoc, List.singleton_append]

/-- Texts with a separator in front of each are one separator and the texts joined. -/
theorem flatMap_cons_eq_join (separator : Char) (t : Text) (ts : List Text) :
    (t :: ts).flatMap (fun s ↦ separator :: s) = separator :: join separator (t :: ts) := by
  induction ts generalizing t with
  | nil => simp [join]
  | cons u ts ih =>
    rw [List.flatMap_cons, ih u, join_cons_cons, List.cons_append]

theorem mem_join {separator : Char} {ts : List Text} {c : Char} (h : c ∈ join separator ts) :
    c = separator ∨ ∃ t ∈ ts, c ∈ t := by
  induction ts with
  | nil => cases h
  | cons t ts ih =>
    cases ts with
    | nil => exact .inr ⟨t, List.mem_cons_self, h⟩
    | cons u ts =>
      rw [join_cons_cons] at h
      rcases List.mem_append.mp h with h | h
      · exact .inr ⟨t, List.mem_cons_self, h⟩
      · rcases List.mem_cons.mp h with h | h
        · exact .inl h
        · rcases ih h with h | ⟨s, hs, hc⟩
          · exact .inl h
          · exact .inr ⟨s, List.mem_cons_of_mem _ hs, hc⟩

end Pieces

/-! ## Both ends -/

/-- Nothing is trimmed off a text that begins and ends with characters to be kept. -/
theorem trim_eq_self {p : Char → Bool} {t : Text} (hhead : ∀ c ∈ t.head?, p c = false)
    (hlast : ∀ c ∈ t.getLast?, p c = false) : trim p t = t := by
  have hdrop (s : Text) (h : ∀ c ∈ s.head?, p c = false) : s.dropWhile p = s := by
    cases s with
    | nil => rfl
    | cons c s => rw [List.dropWhile_cons_of_neg (by simp [h c rfl])]
  rw [trim, hdrop t hhead, hdrop t.reverse (by rwa [List.head?_reverse]), List.reverse_reverse]

/-- What is left of a text after trimming ends with a character to be kept. -/
theorem getLast?_trim {p : Char → Bool} (t : Text) : ∀ c ∈ (trim p t).getLast?, p c = false := by
  intro c hc
  rw [trim, List.getLast?_reverse] at hc
  have h := List.head?_dropWhile_not p (t.dropWhile p).reverse
  rw [hc] at h
  simpa using h

/-! ## Breaks -/

theorem withoutBreaks_of_avoids {t : Text} (h : Avoids isBreak t) : withoutBreaks t = t := by
  rw [withoutBreaks, List.filter_eq_self]
  intro c hc
  rw [h c hc]
  rfl

theorem Avoids.withoutBreaks {p : Char → Bool} {t : Text} (h : Avoids p t) :
    Avoids p (withoutBreaks t) :=
  h.of_subset fun _ hc ↦ (List.mem_filter.mp hc).1

/-- A last character that is no break stays the last one. -/
theorem getLast?_withoutBreaks {t : Text} {c : Char} (h : t.getLast? = some c)
    (hc : isBreak c = false) : (Text.withoutBreaks t).getLast? = some c := by
  obtain ⟨init, rfl⟩ := List.getLast?_eq_some_iff.mp h
  rw [Text.withoutBreaks, List.filter_append, List.filter_cons_of_pos (by simp [hc]),
    List.filter_nil, List.getLast?_concat]

theorem next?_of_avoids {c : Char} {t : Text} (h : isBreak c = false) :
    next? (c :: t) = some (c, t) := by
  rw [next?, if_neg (by simp [h])]

end Text

end UrlCalculus
